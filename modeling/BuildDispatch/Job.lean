import BuildDispatch.Table
import BuildDispatch.Text.Decimal

/-! Jobs: what identifies one, what it takes to run it, and the states that it goes through. -/
namespace BuildDispatch

abbrev BuildId := UInt64

/-- Milliseconds since the epoch. -/
abbrev Timestamp := UInt64

/-- The names under which a job is shown, and its number, which alone tells instances apart. -/
structure JobRef where
  pipeline : String
  label : String
  stage : String
  job : String
  buildId : BuildId
  deriving DecidableEq, Repr

def JobRef.shown (r : JobRef) : String :=
  s!"{r.pipeline}/{r.label}/{r.stage}/{r.job} (build {Text.decimal r.buildId.toNat})"

/-- Where a job stands. Completed and rescheduled jobs stand still. -/
inductive JobState where
  | scheduled
  | assigned
  | preparing
  | building
  | completing
  | completed
  | rescheduled
  deriving DecidableEq, Repr

namespace JobState

def all : List JobState :=
  [scheduled, assigned, preparing, building, completing, completed, rescheduled]

def name : JobState → String
  | scheduled => "Scheduled"
  | assigned => "Assigned"
  | preparing => "Preparing"
  | building => "Building"
  | completing => "Completing"
  | completed => "Completed"
  | rescheduled => "Rescheduled"

/-- The place on the way forward, on which a rescheduled job no longer is. -/
def rank : JobState → Option Nat
  | scheduled => some 0
  | assigned => some 1
  | preparing => some 2
  | building => some 3
  | completing => some 4
  | completed => some 5
  | rescheduled => none

def isTerminal : JobState → Bool
  | completed | rescheduled => true
  | _ => false

/-- Whether a report that names `next` moves a job forward. No report schedules or assigns a job. -/
def canAdvanceTo (current next : JobState) : Bool :=
  if current.isTerminal || next = scheduled || next = assigned then false
  else
    match current.rank, next.rank with
    | some a, some b => a < b
    | _, _ => false

end JobState

inductive JobResult where
  | unknown
  | passed
  | failed
  | cancelled
  deriving DecidableEq, Repr

namespace JobResult

def all : List JobResult := [unknown, passed, failed, cancelled]

def name : JobResult → String
  | unknown => "Unknown"
  | passed => "Passed"
  | failed => "Failed"
  | cancelled => "Cancelled"

end JobResult

structure Task where
  program : String
  args : List String
  /-- Taken from the job's directory. -/
  workingDir : Option String
  deriving DecidableEq, Repr

structure Variable where
  name : String
  value : String
  secure : Bool
  deriving DecidableEq, Repr

namespace Variable

def plain (name value : String) : Variable := ⟨name, value, false⟩

def secret (name value : String) : Variable := ⟨name, value, true⟩

/-- What is shown for a secure value. -/
def mask : String := "****"

def shownValue (v : Variable) : String := if v.secure then mask else v.value

end Variable

/-- What it takes to run a job. -/
structure Plan where
  /-- What an agent must offer. -/
  resources : Keys String
  tasks : List Task
  /-- The variables of all tasks; of several of one name, the last one holds. -/
  environment : List Variable
  artifactLocation : String
  deriving DecidableEq

namespace Plan

def empty : Plan := ⟨∅, [], [], ""⟩

instance : Inhabited Plan := ⟨empty⟩

def withResources (p : Plan) (resources : Keys String) : Plan := { p with resources }

def withTasks (p : Plan) (tasks : List Task) : Plan := { p with tasks }

def withEnvironment (p : Plan) (environment : List Variable) : Plan := { p with environment }

def withArtifactLocation (p : Plan) (artifactLocation : String) : Plan :=
  { p with artifactLocation }

def runnableWith (p : Plan) (offered : Keys String) : Bool := p.resources.within offered

end Plan

structure Transition where
  state : JobState
  stamp : Timestamp
  deriving DecidableEq, Repr

/-- One instance of a job. -/
structure Job where
  ref : JobRef
  state : JobState
  result : JobResult
  agent : Option String
  plan : Plan
  /-- Every state the instance entered, in order. -/
  transitions : List Transition
  deriving DecidableEq

namespace Job

def scheduled (ref : JobRef) (plan : Plan) (now : Timestamp) : Job where
  ref
  state := .scheduled
  result := .unknown
  agent := none
  plan
  transitions := [⟨.scheduled, now⟩]

def buildId (j : Job) : BuildId := j.ref.buildId

def isTerminal (j : Job) : Bool := j.state.isTerminal

/-- Whether whoever runs the instance should stop. -/
def isIgnored (j : Job) : Bool := j.result = .cancelled || j.state = .rescheduled

def isAssignedTo (j : Job) (uuid : String) : Bool := j.agent = some uuid

def enter (j : Job) (state : JobState) (now : Timestamp) : Job :=
  { j with state, transitions := j.transitions ++ [⟨state, now⟩] }

/-- Takes a result. A cancellation stays. -/
def conclude (j : Job) (result : JobResult) : Job :=
  if j.result = .cancelled then j else { j with result }

/-- The instance assigned to an agent, if it still waits for one. -/
def assign? (j : Job) (uuid : String) (now : Timestamp) : Option Job :=
  if j.state = .scheduled then some ({ j with agent := some uuid }.enter .assigned now) else none

def lastStamp (j : Job) : Timestamp :=
  match j.transitions.getLast? with
  | some t => t.stamp
  | none => 0

end Job

end BuildDispatch
