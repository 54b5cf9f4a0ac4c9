import BuildDispatch.Worker.Loop

/-!
Runs of one loop of an agent: at any moment the other loop may stop the job in progress or bring a
new cookie, and the agent may be shut down.
-/
namespace BuildDispatch.Worker

/-- What may happen beside a loop between two of its steps. -/
inductive Meanwhile : WorkerState → WorkerState → Prop where
  | nothing {s : WorkerState} : Meanwhile s s
  | trip {s t : WorkerState} (rest : Meanwhile s.trip t) : Meanwhile s t
  | cookie {s t : WorkerState} (c : Cookie) (rest : Meanwhile (s.withCookie c) t) : Meanwhile s t
  | shutDown {s t : WorkerState} (rest : Meanwhile s.shutDown t) : Meanwhile s t

/--
A step of a loop. Notes are exact, all else is answered in any way: a wait ends early, and a task is
killed, only if the agent or the job was stopped.
-/
inductive Step : Program.Rule Action WorkerState where
  | note {α : Type} {s t : WorkerState} (f : WorkerState → α × WorkerState)
      (after : Meanwhile (f s).2 t) : Step α s (.note f) (f s).1 t
  | call {α : Type} {s t : WorkerState} (c : Call α) (r : Except CallError α)
      (beside : Meanwhile s t) : Step _ s (.call c) r t
  | prepareDirectory {s t : WorkerState} (job : JobRef) (made : Bool) (beside : Meanwhile s t) :
      Step _ s (.prepareDirectory job) made t
  | runTask {s t : WorkerState} (job : JobRef) (task : Task) (environment : List Variable)
      (outcome : TaskOutcome) (beside : Meanwhile s t)
      (killed : outcome = .cancelled → t.isTripped = true) :
      Step _ s (.runTask job task environment) outcome t
  | rest {s t : WorkerState} (waited : Bool) (beside : Meanwhile s t)
      (early : waited = false → t.isShutDown = true) : Step _ s .rest waited t
  | pause {s t : WorkerState} (beside : Meanwhile s t) : Step _ s .pause () t
  | awaitPing {s t : WorkerState} (more : Bool) (beside : Meanwhile s t) :
      Step _ s .awaitPing more t

end BuildDispatch.Worker
