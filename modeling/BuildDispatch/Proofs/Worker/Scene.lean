import BuildDispatch.Proofs.Worker.Served
import BuildDispatch.Worker.Loop

/-!
The two loops of an agent beside each other and the dispatcher (`Worker.Scene.Moves`). A call is
sent, served and answered in three steps, and anything else may happen between them. One that stays
without an answer may be served long after the agent has given it up.
-/
namespace BuildDispatch.Worker

/-- Where a loop stands: before its next action, or with a call or its answer on the way. -/
inductive Stand (α : Type) : Type 1 where
  | ready (rest : Script α)
  | sent {β : Type} (c : Call β) (next : Except CallError β → Script α)
  | answered {β : Type} (c : Call β) (answer : Except CallError β)
    (next : Except CallError β → Script α)

/-- What a loop has done, the latest action first, and where it stands. -/
structure Loop (α : Type) where
  past : Program.Trace Action
  stand : Stand α

/-- How actions end that are no notes and no calls: tasks are killed only if the job is to stop. -/
def EndsAlone (s : WorkerState) : (β : Type) → Action β → β → Prop
  | _, .note _, _ | _, .call _, _ => False
  | _, .runTask .., outcome => outcome = .cancelled → s.isTripped = true
  | _, .rest, waited => waited = false → s.isShutDown = true
  | _, .prepareDirectory _, _ | _, .pause, _ | _, .awaitPing, _ => True

/-- A step of a loop, and what it makes of the agent and the dispatcher. -/
inductive Advance {α : Type} (v : Served) : Loop α → Served → Loop α → Prop where
  | note {β : Type} {past next} {f : WorkerState → β × WorkerState} {b : β}
      (looked : b = (f v.agent).1) :
    Advance v ⟨past, .ready (.act (.note f) next)⟩ { v with agent := (f v.agent).2 }
      ⟨⟨β, .note f, b⟩ :: past, .ready (next b)⟩
  | alone {β : Type} {past next} {x : Action β} {b : β} (ends : EndsAlone v.agent β x b) :
    Advance v ⟨past, .ready (.act x next)⟩ v ⟨⟨β, x, b⟩ :: past, .ready (next b)⟩
  | send {β : Type} {past next} {c : Call β} :
    Advance v ⟨past, .ready (.act (.call c) next)⟩ v ⟨past, .sent c next⟩
  | serve {β : Type} {past next} {c : Call β} (x : Circumstances) (answer : Except CallError β)
      (served : answer = (c.ask x v.dispatcher).1) :
    Advance v ⟨past, .sent c next⟩ { v with dispatcher := (c.ask x v.dispatcher).2 }
      ⟨past, .answered c answer next⟩
  | receive {β : Type} {past next} {c : Call β} {answer : Except CallError β} :
    Advance v ⟨past, .answered c answer next⟩ v
      ⟨⟨_, .call c, answer⟩ :: past, .ready (next answer)⟩
  | unserved {β : Type} {past next} {c : Call β} (e : CallError)
      (transient : e.isTransient = true) :
    Advance v ⟨past, .sent c next⟩ v ⟨⟨_, .call c, .error e⟩ :: past, .ready (next (.error e))⟩
  | unanswered {β : Type} {past next answer} {c : Call β} (e : CallError)
      (transient : e.isTransient = true) :
    Advance v ⟨past, .answered c answer next⟩ v
      ⟨⟨_, .call c, .error e⟩ :: past, .ready (next (.error e))⟩

/-- An agent with both its loops, and the dispatcher that serves it. -/
structure Scene where
  served : Served
  work : Loop (Option WorkerExit)
  pings : Loop (Option Unit)

namespace Scene

/-- An agent that has just registered and was given no job yet. -/
def start (info : Snapshot) (d : Dispatcher) (checksum : Option String) (most most' : Nat) :
    Scene where
  served := ⟨.start info, .start d⟩
  work := ⟨[], .ready (Program.rounds (workRound checksum) most ())⟩
  pings := ⟨[], .ready (Program.rounds pingRound most' ())⟩

/-- The agent has given up waiting for the answer to the call. -/
def HasGivenUp (S : Scene) {β : Type} (c : Call β) : Prop :=
  ∃ e : CallError, e.isTransient = true ∧
    (⟨_, .call c, .error e⟩ ∈ S.work.past ∨ ⟨_, .call c, .error e⟩ ∈ S.pings.past)

/--
A step of a loop, or of the dispatcher: it serves what the agent has given up long since, or a call
that does not speak for the agent, and it looks for silent agents.
-/
inductive Moves : Scene → Scene → Prop where
  | work {S : Scene} {v : Served} {loop : Loop (Option WorkerExit)}
      (step : Advance S.served S.work v loop) : Moves S { S with served := v, work := loop }
  | pings {S : Scene} {v : Served} {loop : Loop (Option Unit)}
      (step : Advance S.served S.pings v loop) : Moves S { S with served := v, pings := loop }
  | late {S : Scene} {β : Type} (c : Call β) (x : Circumstances) (givenUp : S.HasGivenUp c) :
    Moves S { S with served.dispatcher := (c.ask x S.served.dispatcher).2 }
  | asked {S : Scene} {β : Type} (c : Call β) (x : Circumstances)
      (spares : ∀ op ∈ c.operation? x, op.Spares S.served.agent.info.uuid) :
    Moves S { S with served.dispatcher := (c.ask x S.served.dispatcher).2 }
  | swept {S : Scene} (timeout : Nat) (now : Timestamp) :
    Moves S { S with
      served.dispatcher := S.served.dispatcher.call ⟨.sweepLostContact timeout, now⟩ }

end Scene

/-- What an agent said of itself with a ping that was answered with the word to stop. -/
def toldToStop? : (Σ β : Type, Action β × β) → Option Snapshot
  | ⟨_, .call (.ping info), .ok ⟨true⟩⟩ => some info
  | _ => none

/-- An agent that was just told to stop is still at the job, if any, that its ping was about. -/
def Timely (past : Program.Trace Action) (s : WorkerState) : Prop :=
  ∀ info, past.head?.bind toldToStop? = some info → s.info.currentJob = info.currentJob

/-- A step that obeys no answer to a ping that is out of date. -/
def Scene.MovesTimely (S T : Scene) : Prop :=
  S.Moves T ∧ (T.pings.past ≠ S.pings.past → Timely S.pings.past S.served.agent)

end BuildDispatch.Worker
