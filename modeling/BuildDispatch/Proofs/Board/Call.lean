import BuildDispatch.Board
import BuildDispatch.Proofs.Session

/-! Calls on a board, their answers, and sessions of them from a new board. -/
namespace BuildDispatch

inductive Report where
  | status (state : JobState)
  | completing (result : JobResult)
  | completed (result : JobResult)
  deriving DecidableEq, Repr

def Job.hear (j : Job) (now : Timestamp) : Report → Except ReportOutcome Job
  | .status state => j.reportStatus state now
  | .completing result => j.reportCompleting result now
  | .completed result => j.reportCompleted result now

/-- What a job is made for. -/
structure JobRequest where
  pipeline : String
  label : String
  stage : String
  job : String
  plan : Plan
  deriving DecidableEq

def Job.request (j : Job) : JobRequest :=
  ⟨j.ref.pipeline, j.ref.label, j.ref.stage, j.ref.job, j.plan⟩

namespace Board

def hear (b : Board) (uuid : String) (id : BuildId) (now : Timestamp) :
    Report → Except JobError ReportOutcome × Board
  | .status state => b.reportStatus uuid id state now
  | .completing result => b.reportCompleting uuid id result now
  | .completed result => b.reportCompleted uuid id result now

theorem hear_eq (b : Board) (uuid : String) (id : BuildId) (now : Timestamp) (r : Report) :
    b.hear uuid id now r = b.report uuid id fun j => j.hear now r := by
  cases r <;> rfl

inductive Call where
  | create (request : JobRequest)
  | assignNext (info : Snapshot)
  | report (uuid : String) (id : BuildId) (r : Report)
  | cancel (id : BuildId)
  | reschedule (id : BuildId)
  | releaseAbandoned (uuid : String)
  deriving DecidableEq

inductive Answer where
  | made (id : BuildId)
  | work (assignment : Option Assignment)
  | heard (outcome : Except JobError ReportOutcome)
  | cancelled (changed : Except JobError Bool)
  | rescheduled (copy : Except JobError (Option BuildId))
  | released (copy : Option BuildId)

namespace Answer

/-- The job that was made, be it new or a copy. -/
def made? : Answer → Option BuildId
  | made id => some id
  | rescheduled (.ok copy) => copy
  | released copy => copy
  | _ => none

/-- The job that was handed out. -/
def given? : Answer → Option BuildId
  | work assignment => assignment.map (·.job.buildId)
  | _ => none

end Answer

def perform (b : Board) (now : Timestamp) : Call → Answer × Board
  | .create r =>
    let (id, b) := b.create r.pipeline r.label r.stage r.job r.plan now
    (.made id, b)
  | .assignNext info =>
    let (assignment, b) := b.assignNext info now
    (.work assignment, b)
  | .report uuid id r =>
    let (outcome, b) := b.hear uuid id now r
    (.heard outcome, b)
  | .cancel id =>
    let (changed, b) := b.cancel id now
    (.cancelled changed, b)
  | .reschedule id =>
    let (copy, b) := b.reschedule id now
    (.rescheduled copy, b)
  | .releaseAbandoned uuid =>
    let (copy, b) := b.releaseAbandoned uuid now
    (.released copy, b)

instance : Responder Board Call Answer := ⟨perform⟩

def session (steps : List (Step Call)) : Session Board := (Session.start empty).run steps

def made (log : List (Entry Call Answer)) : List BuildId := log.filterMap (·.answer.made?)

def given (log : List (Entry Call Answer)) : List BuildId := log.filterMap (·.answer.given?)

variable (s : Session Board) (x : Step Call)

@[simp] theorem state_call : (s.call x).state = (s.state.perform x.now x.call).2 := rfl

theorem made_call : made (s.call x).log =
    made s.log ++ (s.state.perform x.now x.call).1.made?.toList := s.filterMap_log_call x _

theorem given_call : given (s.call x).log =
    given s.log ++ (s.state.perform x.now x.call).1.given?.toList := s.filterMap_log_call x _

theorem session_append (steps later : List (Step Call)) :
    session (steps ++ later) = (session steps).run later := Session.run_append _ _ _

theorem session_concat (steps : List (Step Call)) :
    session (steps ++ [x]) = (session steps).call x := Session.run_concat _ _ _

theorem made_length_le (steps : List (Step Call)) :
    (made s.log).length ≤ (made (s.run steps).log).length :=
  ((s.log_prefix_run steps).filterMap _).length_le

theorem made_length_le_append (steps later : List (Step Call)) :
    (made (session steps).log).length ≤ (made (session (steps ++ later)).log).length := by
  rw [session_append]
  exact made_length_le _ later

end Board

end BuildDispatch
