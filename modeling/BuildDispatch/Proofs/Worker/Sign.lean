import BuildDispatch.Proofs.Board.Call
import BuildDispatch.Proofs.Program
import BuildDispatch.Worker.Run

/-!
What the actions of an agent tell about the jobs that it is given, and what holds of the signs and
the end of every run of a script (`Yields`).
-/
namespace BuildDispatch

/-- What an agent says that it does: its status and its job. -/
def WorkerState.occupation (s : WorkerState) : AgentStatus × Option JobRef :=
  (s.info.status, s.info.currentJob)

namespace Worker

/-- The report of a phase, with the result of the job. -/
def Phase.report (phase : Phase) (result : JobResult) : Report :=
  match phase with
  | .completing => .completing result
  | .completed => .completed result

/-- What an action and its answer tell about jobs. -/
inductive Sign where
  | polled (info : Snapshot) (answer : Except CallError Work)
  /-- Whether the directory of a job could be made. -/
  | prepared (job : JobRef) (made : Bool)
  | reported (job : JobRef) (info : Snapshot) (report : Report)
      (answer : Except CallError ReportOutcome)

def sign? : (Σ β : Type, Action β × β) → Option Sign
  | ⟨_, .call (.getWork info), answer⟩ => some (.polled info answer)
  | ⟨_, .call (.reportCurrentStatus info job state), answer⟩ =>
    some (.reported job info (.status state) answer)
  | ⟨_, .call (.reportCompleting info job result), answer⟩ =>
    some (.reported job info (.completing result) answer)
  | ⟨_, .call (.reportCompleted info job result), answer⟩ =>
    some (.reported job info (.completed result) answer)
  | ⟨_, .prepareDirectory job, made⟩ => some (.prepared job made)
  | _ => none

def signs (trace : Program.Trace Action) : List Sign := trace.filterMap sign?

/-- What holds of every run of a script from a state: of its signs, its value and its last state. -/
def Yields {α : Type} (post : List Sign → α → WorkerState → Prop) (p : Script α)
    (s : WorkerState) : Prop :=
  Program.Ends Step (fun trace => post (signs trace)) p s

variable {α β : Type} {s t : WorkerState}

@[simp] theorem signs_nil : signs [] = [] := rfl

@[simp] theorem signs_append (first second : Program.Trace Action) :
    signs (first ++ second) = signs first ++ signs second := List.filterMap_append ..

theorem signs_cons (event : Σ β : Type, Action β × β) (trace : Program.Trace Action) :
    signs (event :: trace) = (sign? event).toList ++ signs trace := by
  unfold signs
  cases h : sign? event with
  | none => rw [List.filterMap_cons_none h]; rfl
  | some sign => rw [List.filterMap_cons_some h]; rfl

/-- Whatever happens beside a script, the agent says that it does the same. -/
theorem Meanwhile.occupation (h : Meanwhile s t) : t.occupation = s.occupation := by
  induction h with
  | nothing => rfl
  | trip _ ih | cookie _ _ ih | shutDown _ ih => exact ih

/-- What a step says of the answer to an action and of the state after it. -/
def Permits (s t : WorkerState) : (β : Type) → Action β → β → Prop
  | _, .note f, a => a = (f s).1 ∧ Meanwhile (f s).2 t
  | _, .runTask .., outcome => Meanwhile s t ∧ (outcome = .cancelled → t.isTripped = true)
  | _, .rest, waited => Meanwhile s t ∧ (waited = false → t.isShutDown = true)
  | _, .call _, _ | _, .prepareDirectory _, _ | _, .pause, _ | _, .awaitPing, _ => Meanwhile s t

theorem step_iff {x : Action β} {b : β} : Step β s x b t ↔ Permits s t β x b := by
  constructor
  · intro step
    cases step with
    | note f after => exact ⟨rfl, after⟩
    | runTask _ _ _ _ beside killed => exact ⟨beside, killed⟩
    | rest _ beside early => exact ⟨beside, early⟩
    | call _ _ beside | prepareDirectory _ _ beside | pause beside | awaitPing _ beside =>
      exact beside
  · intro permitted
    cases x with
    | note f =>
      obtain ⟨rfl, after⟩ := permitted
      exact .note f after
    | runTask => exact .runTask _ _ _ _ permitted.1 permitted.2
    | rest => exact .rest _ permitted.1 permitted.2
    | call c => exact .call c b permitted
    | prepareDirectory job => exact .prepareDirectory job b permitted
    | pause => exact .pause permitted
    | awaitPing => exact .awaitPing b permitted

theorem exists_step (β : Type) (s : WorkerState) (x : Action β) : ∃ b t, Step β s x b t := by
  cases x with
  | call c => exact ⟨.error (.unexpected ""), s, .call c _ .nothing⟩
  | note f => exact ⟨_, _, .note f .nothing⟩
  | prepareDirectory job => exact ⟨false, s, .prepareDirectory job _ .nothing⟩
  | runTask job task environment =>
    exact ⟨.succeeded, s, .runTask job task environment _ .nothing nofun⟩
  | rest => exact ⟨true, s, .rest _ .nothing nofun⟩
  | pause => exact ⟨(), s, .pause .nothing⟩
  | awaitPing => exact ⟨true, s, .awaitPing _ .nothing⟩

namespace Yields

variable {post post' : List Sign → α → WorkerState → Prop} {p : Script α}

theorem mono (h : Yields post p s) (values : ∀ l a t, post l a t → post' l a t) :
    Yields post' p s :=
  Program.Ends.mono h fun trace => values (signs trace)

/-- A run that has come to a moment can be completed, and then what it yields holds of the whole. -/
theorem reached {m : Program.Moment Action WorkerState} {q : Script α} (h : Yields post p s)
    (reached : Program.Reaches Step ⟨[], s⟩ p m q) :
    ∃ later a t, post (signs m.past.reverse ++ later) a t ∧ ∀ b, q = .done b → later = [] := by
  obtain ⟨trace, a, t, rest⟩ := Program.exists_run exists_step q m.state
  obtain ⟨since, past, run⟩ := reached.run rest
  refine ⟨signs trace, a, t, ?_, ?_⟩
  · rw [past, List.append_nil, ← signs_append]
    exact h _ a t run
  · rintro b rfl
    obtain ⟨rfl, -, -⟩ := Program.run_done_iff.1 rest
    rfl

theorem pure {a : α} (h : post [] a s) : Yields post (Pure.pure a : Script α) s :=
  Program.Ends.done h

theorem bind {post : List Sign → β → WorkerState → Prop} {f : α → Script β}
    (h : Yields (fun l a t => Yields (fun l' b u => post (l ++ l') b u) (f a) t) p s) :
    Yields post (p >>= f) s := by
  refine Program.Ends.bind (Program.Ends.mono h fun l a t rest => ?_)
  refine Program.Ends.mono rest fun l' b u h => ?_
  rwa [signs_append]

theorem ask {x : Action α} (h : ∀ a t, Step α s x a t → post (sign? ⟨α, x, a⟩).toList a t) :
    Yields post (Program.ask x) s := by
  refine Program.Ends.ask fun a t step => ?_
  rw [signs_cons, signs_nil, List.append_nil]
  exact h a t step

theorem call {c : Call α} {post : List Sign → Except CallError α → WorkerState → Prop}
    (h : ∀ answer t, t.occupation = s.occupation →
      post (sign? ⟨_, .call c, answer⟩).toList answer t) :
    Yields post (Worker.call c) s := by
  refine ask fun answer t step => ?_
  have beside : Meanwhile s t := step_iff.1 step
  exact h answer t beside.occupation

theorem look {f : WorkerState → α} (h : ∀ t, t.occupation = s.occupation → post [] (f s) t) :
    Yields post (Worker.look f) s := by
  refine ask fun a t step => ?_
  obtain ⟨rfl, after⟩ := step_iff.1 step
  exact h t after.occupation

theorem change {f : WorkerState → WorkerState} {post : List Sign → Unit → WorkerState → Prop}
    (h : ∀ t, t.occupation = (f s).occupation → post [] () t) :
    Yields post (Worker.change f) s := by
  refine ask fun a t step => ?_
  obtain ⟨-, after⟩ := step_iff.1 step
  exact h t after.occupation

end Yields

/-- A script gives no sign, and the agent says that it does the same as before. -/
abbrev Unnoticed (p : Script α) (s : WorkerState) : Prop :=
  Yields (fun l _ t => l = [] ∧ t.occupation = s.occupation) p s

namespace Unnoticed

variable {p : Script α}

theorem pure {a : α} : Unnoticed (Pure.pure a) s := Yields.pure ⟨rfl, rfl⟩

theorem bind {f : α → Script β} (h : Unnoticed p s) (rest : ∀ a t, Unnoticed (f a) t) :
    Unnoticed (p >>= f) s := by
  refine Yields.bind (Yields.mono h ?_)
  rintro _ a t ⟨rfl, same⟩
  refine Yields.mono (rest a t) ?_
  rintro _ - u ⟨rfl, same'⟩
  exact ⟨rfl, same'.trans same⟩

theorem ask {x : Action α} (silent : ∀ a, sign? ⟨α, x, a⟩ = none)
    (beside : ∀ a t, Permits s t α x a → Meanwhile s t) : Unnoticed (Program.ask x) s := by
  refine Yields.ask fun a t step => ⟨?_, (beside a t (step_iff.1 step)).occupation⟩
  rw [silent a]
  rfl

theorem call {c : Call α} (silent : ∀ answer, sign? ⟨_, .call c, answer⟩ = none) :
    Unnoticed (Worker.call c) s :=
  ask silent fun _ _ beside => beside

theorem look {f : WorkerState → α} : Unnoticed (Worker.look f) s :=
  Yields.look fun _ same => ⟨rfl, same⟩

theorem change {f : WorkerState → WorkerState} (same : (f s).occupation = s.occupation) :
    Unnoticed (Worker.change f) s :=
  Yields.change fun _ same' => ⟨rfl, same'.trans same⟩

end Unnoticed

theorem refreshCookie_unnoticed (s : WorkerState) : Unnoticed refreshCookie s := by
  refine .bind .look fun info t => .bind (.call fun _ => rfl) fun answer u => ?_
  cases answer with
  | ok cookie => exact .bind (.change rfl) fun _ _ => .pure
  | error e => exact .pure

theorem recover_unnoticed (e : CallError) (s : WorkerState) : Unnoticed (recover e) s := by
  unfold recover
  split
  · exact .bind (refreshCookie_unnoticed s) fun _ _ => .pure
  · exact .pure

end Worker

end BuildDispatch
