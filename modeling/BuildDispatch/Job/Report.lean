import BuildDispatch.Outcome

/-!
What reports and operators do to a job. A change is either refused, with the answer to the report,
or gives the job as it is afterwards.
-/
namespace BuildDispatch.Job

def reportStatus (j : Job) (state : JobState) (now : Timestamp) : Except ReportOutcome Job :=
  if j.isTerminal then .error (.rejected .terminal)
  else if j.state = state then .error .duplicate
  else if j.state.canAdvanceTo state then .ok (j.enter state now)
  else .error (.rejected .notForward)

/-- An agent reports the result of its job, before it has cleared up. -/
def reportCompleting (j : Job) (result : JobResult) (now : Timestamp) : Except ReportOutcome Job :=
  match j.state with
  | .completed | .rescheduled => .error (.rejected .terminal)
  | .completing =>
    if (j.conclude result).result = j.result then .error .duplicate else .ok (j.conclude result)
  | _ => .ok ((j.conclude result).enter .completing now)

def reportCompleted (j : Job) (result : JobResult) (now : Timestamp) : Except ReportOutcome Job :=
  match j.state with
  | .completed => .error .duplicate
  | .rescheduled => .error (.rejected .terminal)
  | _ => .ok ((j.conclude result).enter .completed now)

/-- A waiting job is cancelled on the spot; a running one is marked, until its agent stops. -/
def cancel? (j : Job) (now : Timestamp) : Option Job :=
  match j.state with
  | .completed | .rescheduled => none
  | .scheduled => some ((j.conclude .cancelled).enter .completed now)
  | _ => if j.result = .cancelled then none else some (j.conclude .cancelled)

/-- The instance is given up, for a copy to take its place. -/
def retire? (j : Job) (now : Timestamp) : Option Job :=
  if j.isTerminal then none else some (j.enter .rescheduled now)

end BuildDispatch.Job
