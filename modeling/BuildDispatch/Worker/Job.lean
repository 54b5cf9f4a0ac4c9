import BuildDispatch.Worker.Action

/-! One job of an agent: its tasks in order, and the reports before, between and after them. -/
namespace BuildDispatch.Worker

/-- Reports a state of the job; false if the job is to be left alone from now on. -/
def announce (job : JobRef) (state : JobState) : Script Bool := do
  let info ← look (·.info)
  match ← call (.reportCurrentStatus info job state) with
  | .ok (.rejected _) => return false
  | .ok _ => return true
  | .error e =>
    if e.kind? = some .agentMismatch then return false
    recover e
    return true

def checkIgnored (job : JobRef) : Script Unit := do
  if (← call (.isIgnored job)) matches .ok true then change (·.trip)

def runTasks (job : JobRef) (environment : List Variable) : List Task → Script JobResult
  | [] => do return if ← look (·.isTripped) then .cancelled else .passed
  | task :: rest => do
    checkIgnored job
    if ← look (·.isTripped) then return .cancelled
    match ← Program.ask (.runTask job task environment) with
    | .succeeded => runTasks job environment rest
    | .failed _ => return .failed
    | .cancelled => return .cancelled

/-- Runs a job; nothing, if it was taken away and is not to be reported on. -/
def execute (a : Assignment) : Script (Option JobResult) := do
  if !(← announce a.job .preparing) then return none
  if !(← Program.ask (.prepareDirectory a.job)) then return some .failed
  if !(← announce a.job .building) then return none
  return some (← runTasks a.job a.plan.environment a.plan.tasks)

inductive Phase where
  | completing
  | completed
  deriving DecidableEq, Repr

def reportAttempts : Nat := 3

def Phase.call (phase : Phase) (info : Snapshot) (job : JobRef) (result : JobResult) :
    Call ReportOutcome :=
  match phase with
  | .completing => .reportCompleting info job result
  | .completed => .reportCompleted info job result

/--
Makes a report at the end of a job, with `left` attempts. False if the job belongs to another agent,
and nothing more is to be reported. Without a new cookie, the next attempt waits.
-/
def deliver (phase : Phase) (job : JobRef) (result : JobResult) : (left : Nat) → Script Bool
  | 0 => return true
  | left + 1 => do
    let info ← look (·.info)
    match ← call (phase.call info job result) with
    | .ok _ => return true
    | .error e =>
      if e.kind? = some .agentMismatch then return false
      let refreshed ← if e.kind? = some .cookieMismatch then refreshCookie else pure false
      if !refreshed && 0 < left then Program.ask .pause
      deliver phase job result left

def reportCompletion (job : JobRef) (result : JobResult) : Script Unit := do
  if ← deliver .completing job result reportAttempts then
    let _ ← deliver .completed job result reportAttempts

def runJob (a : Assignment) : Script Unit := do
  change (·.building a.job)
  change (·.arm)
  match ← execute a with
  | none => pure ()
  | some result =>
    if result = .cancelled then change (·.cancelled)
    reportCompletion a.job result
  change (·.disarm)
  change (·.idle)

end BuildDispatch.Worker
