import BuildDispatch.Dispatcher
import BuildDispatch.Proofs.Board.Call

/-!
Calls on a dispatcher, their answers, and sessions of them from a new dispatcher. A call hands out
the next job of an agent, or it is a run of calls on the board that hand nothing out
(`Dispatcher.perform_cases`).
-/
namespace BuildDispatch

namespace Dispatcher

def hear (d : Dispatcher) (info : Snapshot) (job : JobRef) (now : Timestamp) :
    Report → Answer ReportOutcome
  | .status state => d.reportCurrentStatus info job state now
  | .completing result => d.reportCompleting info job result now
  | .completed result => d.reportCompleted info job result now

theorem hear_eq (d : Dispatcher) (info : Snapshot) (job : JobRef) (now : Timestamp) (r : Report) :
    d.hear info job now r = d.report info now fun b => b.hear info.uuid job.buildId now r := by
  cases r <;> rfl

/-- What agents and operators ask of a dispatcher, and the sweeps. -/
inductive Call where
  | ping (info : Snapshot)
  | getWork (info : Snapshot)
  | report (info : Snapshot) (job : JobRef) (r : Report)
  | getCookie (identity : AgentIdentity) (location : String) (cookie : Cookie)
  | trigger (t : Trigger)
  | cancelJob (id : BuildId)
  | rescheduleJob (id : BuildId)
  | approveAgent (uuid : String)
  | disableAgent (uuid : String)
  | sweepLostContact (timeout : Nat)
  deriving DecidableEq

inductive Reply where
  | instruction (answer : Except DispatchError Instruction)
  | work (answer : Except DispatchError Work)
  | heard (answer : Except DispatchError ReportOutcome)
  | cookie (issued : Cookie)
  | scheduled (outcome : ScheduleOutcome)
  | cancelled (answer : Except DispatchError Bool)
  | rescheduled (answer : Except DispatchError (Option BuildId))
  | approved (answer : Except DispatchError AgentStatus)
  | disabled (answer : Except DispatchError Unit)
  | lost (uuids : List String)

def perform (d : Dispatcher) (now : Timestamp) : Call → Reply × Dispatcher
  | .ping info =>
    let (answer, d) := d.ping info now
    (.instruction answer, d)
  | .getWork info =>
    let (answer, d) := d.getWork info now
    (.work answer, d)
  | .report info job r =>
    let (answer, d) := d.hear info job now r
    (.heard answer, d)
  | .getCookie identity location cookie =>
    (.cookie cookie, d.getCookie identity location cookie now)
  | .trigger t =>
    let (outcome, d) := d.trigger t now
    (.scheduled outcome, d)
  | .cancelJob id =>
    let (answer, d) := d.cancelJob id now
    (.cancelled answer, d)
  | .rescheduleJob id =>
    let (answer, d) := d.rescheduleJob id now
    (.rescheduled answer, d)
  | .approveAgent uuid =>
    let (answer, d) := d.approveAgent uuid now
    (.approved answer, d)
  | .disableAgent uuid =>
    let (answer, d) := d.disableAgent uuid now
    (.disabled answer, d)
  | .sweepLostContact timeout =>
    let (uuids, d) := d.sweepLostContact timeout now
    (.lost uuids, d)

instance : Responder Dispatcher Call Reply := ⟨perform⟩

def session (config : Config) (payload : PayloadStore) (steps : List (Step Call)) :
    Session Dispatcher := (Session.start (.new config payload)).run steps

theorem session_concat (config : Config) (payload : PayloadStore) (steps : List (Step Call))
    (x : Step Call) :
    session config payload (steps ++ [x]) = (session config payload steps).call x :=
  Session.run_concat _ _ _

section Board

variable {α : Type} (d : Dispatcher)

@[simp] theorem board_setBoard (b : Board) : (d.setBoard b).board = b := rfl

@[simp] theorem board_ofRoster (x : Except RosterError α × Roster) :
    (d.ofRoster x).2.board = d.board := by
  obtain ⟨a, r⟩ := x
  cases a <;> rfl

@[simp] theorem board_ofBoard (x : Except JobError α × Board) : (d.ofBoard x).2.board = x.2 := by
  obtain ⟨a, b⟩ := x
  cases a <;> rfl

def seen (info : Snapshot) (now : Timestamp) : Dispatcher :=
  { d with roster := (d.roster.observe info now).2 }

@[simp] theorem board_seen (info : Snapshot) (now : Timestamp) :
    (d.seen info now).board = d.board := rfl

theorem getWork_cases (info : Snapshot) (now : Timestamp) :
    ((∀ a, (d.getWork info now).1 ≠ .ok (.build a)) ∧ (d.getWork info now).2.board = d.board) ∨
      d.getWork info now = (.ok ((d.seen info now).nextWork info now).1,
        ((d.seen info now).nextWork info now).2) := by
  unfold getWork seen
  rcases hs : d.roster.observe info now with ⟨_ | s, r⟩
  · exact .inl ⟨by simp [ofRoster], rfl⟩
  · cases s with
    | pending => exact .inl ⟨by simp [ofRoster], rfl⟩
    | disabled => exact .inl ⟨by simp [ofRoster], rfl⟩
    | _ => exact .inr rfl

theorem getWork_of_observed {info : Snapshot} {now : Timestamp} {s : AgentStatus}
    (observed : (d.roster.observe info now).1 = .ok s) (unheld : s.isHeld = false) :
    d.getWork info now = (.ok ((d.seen info now).nextWork info now).1,
      ((d.seen info now).nextWork info now).2) := by
  unfold getWork seen
  rcases hs : d.roster.observe info now with ⟨_ | s', r⟩
  · rw [hs] at observed
    cases observed
  · rw [hs] at observed
    cases observed
    cases s with
    | pending => cases unheld
    | disabled => cases unheld
    | _ => rfl

def workOf : Option Assignment → Work
  | some a => .build a
  | none => .noWork

/-- The board after an idle agent has given up its job, and the next assignment. -/
def nextAssignment (b : Board) (info : Snapshot) (now : Timestamp) : Option Assignment × Board :=
  (b.releaseAbandoned info.uuid now).2.assignNext info now

theorem nextWork_of_idle {info : Snapshot} (now : Timestamp) (idle : info.status = .idle)
    (free : info.currentJob = none) : d.nextWork info now =
      (workOf (nextAssignment d.board info now).1,
        d.setBoard (nextAssignment d.board info now).2) := by
  unfold nextWork nextAssignment
  rw [if_neg (by simp [idle, free])]
  rcases hr : d.board.releaseAbandoned info.uuid now with ⟨copy, b⟩
  dsimp only
  rcases ha : b.assignNext info now with ⟨_ | a, b'⟩ <;> rfl

theorem nextWork_of_busy {info : Snapshot} (now : Timestamp)
    (busy : info.status ≠ .idle ∨ info.currentJob.isSome = true) :
    d.nextWork info now = (.noWork, d) := if_pos busy

end Board

end Dispatcher

/-- What a board may become by calls that hand nothing out, and as causes of builds are kept. -/
inductive Board.Quiet (b : Board) : Board → Prop where
  | refl : Quiet b b
  | call {b' : Board} (before : Quiet b b') (now : Timestamp) {c : Board.Call}
    (quiet : ∀ info, c ≠ .assignNext info) : Quiet b (b'.perform now c).2
  | cause {b' : Board} (before : Quiet b b') (c : BuildCause) :
    Quiet b { b' with repository := b'.repository.saveCause c }

namespace Scheduler

variable {b : Board} {s : Scheduler} (now : Timestamp)

theorem quiet_createJobs (h : b.Quiet s.board) (c : BuildCause) (stage : String)
    (templates : List JobTemplate) : b.Quiet (s.createJobs c stage now templates).2.board := by
  induction templates generalizing s with
  | nil => exact h
  | cons j rest ih =>
    have hj : b.Quiet (s.createJob c stage j now).2.board :=
      h.call now (c := .create ⟨c.pipeline, c.label, stage, j.name, j.plan c stage⟩) (by simp)
    exact ih hj

theorem quiet_carryOut (h : b.Quiet s.board) (p : Pipeline) (t : Trigger) :
    b.Quiet (s.carryOut p t now).2.board := by
  unfold carryOut
  cases t.decide p s.permissions (s.latest? t.pipeline) now with
  | error outcome => exact h
  | ok run => exact (quiet_createJobs now h run.1 run.2.name run.2.jobs).cause _

theorem quiet_trigger (s : Scheduler) (t : Trigger) : s.board.Quiet (s.trigger t now).2.board := by
  have entered : s.board.Quiet { s with inFlight := s.inFlight.insert t.pipeline () }.board := .refl
  unfold trigger enter
  cases s.config.pipeline? t.pipeline with
  | none => exact .refl
  | some p =>
    dsimp only
    by_cases hf : s.inFlight.contains t.pipeline = true
    · rw [if_pos hf]
      exact .refl
    · rw [if_neg hf]
      exact quiet_carryOut now entered p t

end Scheduler

namespace Dispatcher

theorem quiet_ofRoster {α : Type} (d : Dispatcher) (x : Except RosterError α × Roster) :
    d.board.Quiet (d.ofRoster x).2.board := by
  rw [board_ofRoster]
  exact .refl

theorem quiet_report (d : Dispatcher) (info : Snapshot) (job : JobRef) (now : Timestamp)
    (r : Report) : d.board.Quiet (d.hear info job now r).2.board := by
  rw [hear_eq]
  unfold report
  rcases hs : d.roster.observe info now with ⟨_ | s, roster⟩
  · exact .refl
  · simp only [ofRoster, board_ofBoard]
    exact Board.Quiet.refl.call now (c := .report info.uuid job.buildId r) (by simp)

/-- What a call does to the board, and whether anything is handed out by it. -/
theorem perform_cases (d : Dispatcher) (now : Timestamp) (c : Call) :
    (∃ info, c = .getWork info ∧
      (d.perform now c).1 = .work (.ok (workOf (nextAssignment d.board info now).1)) ∧
      (d.perform now c).2.board = (nextAssignment d.board info now).2) ∨
    (∀ a, (d.perform now c).1 ≠ .work (.ok (.build a))) ∧
      d.board.Quiet (d.perform now c).2.board := by
  cases c with
  | ping info => exact .inr ⟨by simp [perform], quiet_ofRoster d (d.roster.ping d.board info now)⟩
  | getWork info =>
    rcases getWork_cases d info now with ⟨hn, hb⟩ | he
    · refine .inr ⟨fun a ha => hn a (Reply.work.inj ha), ?_⟩
      change d.board.Quiet (d.getWork info now).2.board
      rw [hb]
      exact .refl
    · by_cases busy : info.status ≠ .idle ∨ info.currentJob.isSome = true
      · rw [nextWork_of_busy _ now busy] at he
        refine .inr ⟨?_, ?_⟩
        · intro a
          simp [perform, he]
        · change d.board.Quiet (d.getWork info now).2.board
          rw [he]
          exact .refl
      · obtain ⟨idle, free⟩ : info.status = .idle ∧ info.currentJob = none := by
          simpa using busy
        rw [nextWork_of_idle _ now idle free] at he
        exact .inl ⟨info, rfl, by simp [perform, he], by simp [perform, he]⟩
  | report info job r => exact .inr ⟨by simp [perform], quiet_report d info job now r⟩
  | getCookie => exact .inr ⟨by simp [perform], .refl⟩
  | trigger t => exact .inr ⟨by simp [perform], Scheduler.quiet_trigger now d.scheduler t⟩
  | cancelJob id =>
    refine .inr ⟨by simp [perform], ?_⟩
    change d.board.Quiet (d.ofBoard (d.board.cancel id now)).2.board
    rw [board_ofBoard]
    exact Board.Quiet.refl.call now (c := .cancel id) (by simp)
  | rescheduleJob id =>
    refine .inr ⟨by simp [perform], ?_⟩
    change d.board.Quiet (d.ofBoard (d.board.reschedule id now)).2.board
    rw [board_ofBoard]
    exact Board.Quiet.refl.call now (c := .reschedule id) (by simp)
  | approveAgent uuid =>
    exact .inr ⟨by simp [perform], quiet_ofRoster d (d.roster.approve uuid now)⟩
  | disableAgent uuid =>
    exact .inr ⟨by simp [perform], quiet_ofRoster d (d.roster.disable uuid now)⟩
  | sweepLostContact => exact .inr ⟨by simp [perform], .refl⟩

end Dispatcher

end BuildDispatch
