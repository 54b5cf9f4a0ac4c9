import BuildDispatch.Proofs.Dispatcher.Revocation
import BuildDispatch.Proofs.Worker.Attendance

/-!
What the calls of an agent say of its jobs, and what the answers say. An agent that says only what
is true is told only what is true (`Dispatcher.Blameless.informs_ask`), and it stays blameless.
-/
namespace BuildDispatch

open Dispatcher (Blameless Handed Revoked)

/-- What the jobs of an agent do not lose again: to have been handed out, or taken back. -/
structure Dispatcher.Grows (uuid : String) (s t : Session Dispatcher) : Prop where
  handed : ∀ {id}, Handed uuid s.log id → Handed uuid t.log id
  revoked : ∀ {id}, Revoked s id → Revoked t id

open Dispatcher (Grows)

namespace Call

variable {β : Type}

/-- What a call of an agent says of its jobs is true. -/
def Honest (uuid : String) (s : Session Dispatcher) : Call β → Prop
  | .getWork info => info.uuid = uuid
  | .ping info => ∀ job, info.currentJob = some job → Handed uuid s.log job.buildId
  | .isIgnored job => Handed uuid s.log job.buildId
  | .reportCompleting _ job result | .reportCompleted _ job result =>
    result = .cancelled → Revoked s job.buildId
  | _ => True

/-- What an answer says of the jobs of an agent is true. -/
def Informs (uuid : String) (s : Session Dispatcher) :
    {β : Type} → Call β → Except CallError β → Prop
  | _, .getWork _, .ok (.build a) => Handed uuid s.log a.job.buildId
  | _, .ping info, .ok instruction =>
    instruction.cancel = true → ∀ job, info.currentJob = some job → Revoked s job.buildId
  | _, .isIgnored job, .ok ignored => ignored = true → Revoked s job.buildId
  | _, _, _ => True

variable {uuid : String} {s t : Session Dispatcher} {c : Call β}

theorem Honest.grows (h : c.Honest uuid s) (grows : Grows uuid s t) : c.Honest uuid t := by
  cases c with
  | getWork => exact h
  | ping info => exact fun job busy => grows.handed (h job busy)
  | isIgnored job => exact grows.handed h
  | reportCompleting | reportCompleted => exact fun gives => grows.revoked (h gives)
  | _ => trivial

theorem Informs.grows {answer : Except CallError β} (h : Informs uuid s c answer)
    (grows : Grows uuid s t) : Informs uuid t c answer := by
  cases answer with
  | error e => cases c <;> trivial
  | ok a =>
    cases c with
    | getWork info =>
      cases a with
      | build a => exact grows.handed h
      | noWork | deny => trivial
    | ping info => exact fun cancel job busy => grows.revoked (h cancel job busy)
    | isIgnored job => exact fun ignored => grows.revoked (h ignored)
    | _ => trivial

theorem informs_error (e : CallError) : Informs uuid s c (.error e) := by
  cases c <;> trivial

/-- Only the two last reports on a job say that it was cancelled. -/
theorem Honest.revoked (h : c.Honest uuid s) {x : Circumstances} {op : Dispatcher.Call}
    (asked : c.operation? x = some op) {id : BuildId} (gives : op.GivesUp uuid id) :
    Revoked s id := by
  obtain ⟨info, ref, r, rfl, -, rfl, told⟩ := gives
  cases c with
  | reportCurrentStatus =>
    cases asked
    cases told
  | reportCompleting | reportCompleted =>
    cases asked
    exact h told
  | _ => cases asked

theorem handed_of_getWork {x : Circumstances} {info : Snapshot} {a : Assignment}
    (answered : ((getWork info).ask x s).1 = .ok (.build a)) :
    Handed info.uuid ((getWork info).ask x s).2.log a.job.buildId := by
  refine ⟨⟨⟨.getWork info, x.now⟩, (s.state.perform x.now (.getWork info)).1⟩, ?_, ?_⟩
  · exact List.mem_append_right _ (List.mem_singleton.2 rfl)
  · rw [ask_eq] at answered
    unfold Dispatcher.perform
    dsimp only [perform] at answered ⊢
    generalize s.state.getWork info x.now = answer at answered
    obtain ⟨e | work, d⟩ := answer
    · cases answered
    · cases answered
      exact if_pos rfl

theorem instruction_of_ping {x : Circumstances} {info : Snapshot} {instruction : Instruction}
    (answered : ((ping info).ask x s).1 = .ok instruction) :
    instruction = s.state.board.instructionFor info := by
  rw [ask_eq] at answered
  dsimp only [perform, Dispatcher.ping, Roster.ping] at answered
  generalize s.state.roster.observe info x.now = observed at answered
  obtain ⟨e | status, r⟩ := observed
  · cases answered
  · cases answered
    rfl

end Call

namespace Dispatcher

variable {config : Config} {uuid : String} {s : Session Dispatcher}

theorem Grows.refl : Grows uuid s s := ⟨id, id⟩

theorem Grows.trans {t u : Session Dispatcher} (first : Grows uuid s t) (second : Grows uuid t u) :
    Grows uuid s u :=
  ⟨fun h => second.handed (first.handed h), fun h => second.revoked (first.revoked h)⟩

theorem grows_call (orderly : s.state.Orderly config) (x : BuildDispatch.Step Call)
    (few : (s.call x).state.board.Few) : Grows uuid s (s.call x) :=
  ⟨fun h => (handed_call x).2 (.inl h), fun h => h.call orderly x few⟩

theorem Blameless.payload (h : Blameless config uuid s) (payload : PayloadStore) :
    Blameless config uuid ⟨s.log, { s.state with payload }⟩ :=
  ⟨⟨h.orderly.tended, h.orderly.idle⟩, h.opened, h.handed, h.reported⟩

namespace Blameless

variable (h : Blameless config uuid s) {β : Type} {c : BuildDispatch.Call β} {x : Circumstances}
  (few : (c.ask x s).2.state.board.Few)
include h few

/-- A call that does not give up another job of the agent keeps it blameless. -/
theorem ask (honest : ∀ op ∈ c.operation? x, ∀ id, op.GivesUp uuid id → Revoked s id) :
    Blameless config uuid (c.ask x s).2 ∧ Grows uuid s (c.ask x s).2 := by
  cases asked : c.operation? x with
  | none =>
    obtain ⟨payload, after⟩ := c.ask_of_no_operation x s asked
    rw [after]
    exact ⟨h.payload payload, id, id⟩
  | some op =>
    rw [c.ask_of_operation x s asked] at few ⊢
    exact ⟨h.call ⟨op, x.now⟩ few (honest op asked), grows_call h.orderly _ few⟩

theorem ask_of_honest (honest : c.Honest uuid s) :
    Blameless config uuid (c.ask x s).2 ∧ Grows uuid s (c.ask x s).2 :=
  h.ask few fun _ asked _ gives => honest.revoked asked gives

omit few in
/-- A job of the agent that is to be ignored was taken back. -/
theorem revoked_of_isIgnored {id : BuildId} (handed : Handed uuid s.log id)
    (ignored : s.state.board.isIgnored id = true) : Revoked s id := by
  obtain ⟨j, stored, -, excused⟩ := h.handed handed
  unfold Board.isIgnored at ignored
  rw [stored] at ignored
  have why : j.result = .cancelled ∨ j.state = .rescheduled := by
    simpa [Job.isIgnored] using ignored
  rcases why with cancelled | rescheduled
  · exact excused cancelled
  · exact .inr ⟨j, stored, rescheduled⟩

/-- What the agent is told of its jobs is true, for what it asks is. -/
theorem informs_ask (honest : c.Honest uuid s) :
    c.Informs uuid (c.ask x s).2 (c.ask x s).1 := by
  have grows := (h.ask_of_honest few honest).2
  cases answered : (c.ask x s).1 with
  | error e => exact BuildDispatch.Call.informs_error e
  | ok a =>
    cases c with
    | getWork info =>
      cases a with
      | noWork | deny => trivial
      | build a =>
        have handed := BuildDispatch.Call.handed_of_getWork answered
        rwa [show info.uuid = uuid from honest] at handed
    | ping info =>
      intro cancel job busy
      rw [BuildDispatch.Call.instruction_of_ping answered,
        Board.instructionFor_of_busy _ busy] at cancel
      obtain ⟨-, -, -, ignored⟩ := cancel
      exact grows.revoked (h.revoked_of_isIgnored (honest job busy) ignored)
    | isIgnored job =>
      intro ignored
      cases answered
      exact grows.revoked (h.revoked_of_isIgnored honest ignored)
    | _ => trivial

end Blameless

end Dispatcher

end BuildDispatch
