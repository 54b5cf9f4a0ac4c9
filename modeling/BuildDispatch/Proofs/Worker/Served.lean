import BuildDispatch.Proofs.Dispatcher.Standing
import BuildDispatch.Proofs.Message.Call
import BuildDispatch.Proofs.Worker.Sign

/-!
Runs of an agent beside the dispatcher that serves it (`Worker.Serves`): every call is delivered and
answered, and between any two actions others call the dispatcher too (`Worker.Beside`).
-/
namespace BuildDispatch

namespace Call

variable {α : Type}

/-- What a call asks of a dispatcher, apart from a look at it and from its payload. -/
def operation? : Call α → Circumstances → Option Dispatcher.Call
  | .getCookie identity location, x => some (.getCookie identity location x.cookie)
  | .ping info, _ => some (.ping info)
  | .getWork info, _ => some (.getWork info)
  | .reportCurrentStatus info job state, _ => some (.report info job (.status state))
  | .reportCompleting info job result, _ => some (.report info job (.completing result))
  | .reportCompleted info job result, _ => some (.report info job (.completed result))
  | .triggerPipeline pipeline user options, _ => some (.trigger (.manual pipeline user options))
  | .materialChanged pipeline revisions, _ => some (.trigger (.material pipeline revisions))
  | .cancelJob id, _ => some (.cancelJob id)
  | .rescheduleJob id, _ => some (.rescheduleJob id)
  | .approveAgent uuid, _ => some (.approveAgent uuid)
  | .disableAgent uuid, _ => some (.disableAgent uuid)
  | .hello, _ | .isIgnored _, _ | .payloadManifest, _ | .fetchPayload, _ | .listAgents, _
  | .listJobs _, _ | .status, _ => none

variable (c : Call α) (d : Dispatcher) (x : Circumstances)

theorem perform_eq_of_operation {op : Dispatcher.Call} (asked : c.operation? x = some op) :
    (c.perform d x).2 = (d.perform x.now op).2 := by
  have told {β : Type} (f : β → α) (answer : Dispatcher.Answer β) :
      (told f answer).2 = answer.2 := by
    rcases answer with ⟨_ | _, _⟩ <;> rfl
  cases c <;> cases asked <;> first | rfl | exact told _ _

/-- Nothing but the payload changes by a call that asks for nothing else. -/
theorem perform_eq_of_no_operation (unasked : c.operation? x = none) :
    ∃ payload, (c.perform d x).2 = { d with payload } := by
  have published {β γ : Type} (f : β → γ) (answer : Except PayloadError β × PayloadStore) :
      (told f (d.ofPayload answer)).2 = { d with payload := answer.2 } := by
    rcases answer with ⟨_ | _, _⟩ <;> rfl
  cases c with
  | hello => exact ⟨d.payload, rfl⟩
  | isIgnored | listAgents | listJobs | status => exact ⟨d.payload, rfl⟩
  | payloadManifest => exact ⟨_, published id (d.payload.manifest.atOnce x.payloadFile)⟩
  | fetchPayload => exact ⟨_, published id (d.payload.read.atOnce x.payloadFile)⟩
  | _ => cases unasked

def logged : List (Entry Dispatcher.Call Dispatcher.Reply) :=
  (c.operation? x).toList.map fun op => ⟨⟨op, x.now⟩, (d.perform x.now op).1⟩

/-- A call is served: what the caller is told, and the dispatcher with its log afterwards. -/
def ask (s : Session Dispatcher) : Except CallError α × Session Dispatcher :=
  let (answer, state) := c.perform s.state x
  (outcome answer, ⟨s.log ++ c.logged s.state x, state⟩)

variable (s : Session Dispatcher)

theorem ask_eq : c.ask x s = (outcome (c.perform s.state x).1,
    ⟨s.log ++ c.logged s.state x, (c.perform s.state x).2⟩) := rfl

theorem ask_of_operation {op : Dispatcher.Call} (asked : c.operation? x = some op) :
    (c.ask x s).2 = s.call ⟨op, x.now⟩ := by
  rw [ask_eq, c.perform_eq_of_operation s.state x asked, logged, asked]
  rfl

theorem ask_of_no_operation (unasked : c.operation? x = none) :
    ∃ payload, (c.ask x s).2 = ⟨s.log, { s.state with payload }⟩ := by
  obtain ⟨payload, after⟩ := c.perform_eq_of_no_operation s.state x unasked
  refine ⟨payload, ?_⟩
  rw [ask_eq, after, logged, unasked]
  exact congrArg (Session.mk · _) (List.append_nil _)

end Call

namespace Worker

/-- An agent, and the dispatcher that serves it, with what it was asked so far. -/
structure Served where
  agent : WorkerState
  dispatcher : Session Dispatcher

/--
What may happen beside an agent: its other loop stops the job in progress, it is shut down, a call
of another or a ping is served, or the dispatcher looks for silent agents.
-/
inductive Beside (uuid : String) : Served → Served → Prop where
  | nothing {v : Served} : Beside uuid v v
  | trip {v w : Served} (rest : Beside uuid { v with agent := v.agent.trip } w) : Beside uuid v w
  | shutDown {v w : Served} (rest : Beside uuid { v with agent := v.agent.shutDown } w) :
      Beside uuid v w
  | asked {v w : Served} {α : Type} (c : Call α) (x : Circumstances)
      (spares : ∀ op ∈ c.operation? x, op.Spares uuid)
      (rest : Beside uuid { v with dispatcher := (c.ask x v.dispatcher).2 } w) : Beside uuid v w
  | swept {v w : Served} (timeout : Nat) (now : Timestamp)
      (rest : Beside uuid
        { v with dispatcher := v.dispatcher.call ⟨.sweepLostContact timeout, now⟩ } w) :
      Beside uuid v w

/--
A step of an agent. A call is answered by the dispatcher as it finds it; directories, tasks and
waits end in any way.
-/
def Serves (uuid : String) : Program.Rule Action Served
  | _, v, .note f, a, w => a = (f v.agent).1 ∧ Beside uuid { v with agent := (f v.agent).2 } w
  | _, v, .call c, answer, w => ∃ x, answer = (c.ask x v.dispatcher).1 ∧
      Beside uuid { v with dispatcher := (c.ask x v.dispatcher).2 } w
  | _, v, .prepareDirectory _, _, w | _, v, .runTask .., _, w | _, v, .rest, _, w
  | _, v, .pause, _, w | _, v, .awaitPing, _, w => Beside uuid v w

theorem exists_serves (uuid : String) (β : Type) (v : Served) (x : Action β) :
    ∃ b w, Serves uuid β v x b w := by
  cases x with
  | note f => exact ⟨_, _, rfl, .nothing⟩
  | call c => exact ⟨_, _, ⟨0, 0, ⟨""⟩, none⟩, rfl, .nothing⟩
  | runTask => exact ⟨.succeeded, v, .nothing⟩
  | prepareDirectory | rest | awaitPing => exact ⟨true, v, .nothing⟩
  | pause => exact ⟨(), v, .nothing⟩

end Worker

end BuildDispatch
