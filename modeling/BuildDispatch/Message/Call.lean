import BuildDispatch.Message.Exchange
import BuildDispatch.Message.Version

/-! Calls of a client: the request of each, and what its response means to the caller. -/
namespace BuildDispatch

structure StatusReport where
  uptimeSecs : UInt64
  agents : UInt64
  activeJobs : UInt64
  rejections : RejectionCounts
  deriving DecidableEq, Repr

/-- The calls of agents, supervisors and operators, each with the type of its answer. -/
inductive Call : Type → Type where
  | hello : Call (UInt32 × String)
  | getCookie (identity : AgentIdentity) (location : String) : Call Cookie
  | ping (info : Snapshot) : Call Instruction
  | getWork (info : Snapshot) : Call Work
  | reportCurrentStatus (info : Snapshot) (job : JobRef) (state : JobState) : Call ReportOutcome
  | reportCompleting (info : Snapshot) (job : JobRef) (result : JobResult) : Call ReportOutcome
  | reportCompleted (info : Snapshot) (job : JobRef) (result : JobResult) : Call ReportOutcome
  | isIgnored (job : JobRef) : Call Bool
  | payloadManifest : Call Manifest
  | fetchPayload : Call (Manifest × Bytes)
  | triggerPipeline (pipeline user : String) (options : TriggerOptions) : Call ScheduleOutcome
  | materialChanged (pipeline : String) (revisions : List Revision) : Call ScheduleOutcome
  | cancelJob (buildId : BuildId) : Call Unit
  | rescheduleJob (buildId : BuildId) : Call Unit
  | approveAgent (uuid : String) : Call Unit
  | disableAgent (uuid : String) : Call Unit
  | listAgents : Call (List AgentSummary)
  | listJobs (all : Bool) : Call (List JobSummary)
  | status : Call StatusReport

namespace Call

variable {α : Type}

def request : Call α → Request
  | .hello => .hello Protocol.newest Protocol.programVersion
  | .getCookie identity location => .getCookie identity location
  | .ping info => .ping info
  | .getWork info => .getWork info
  | .reportCurrentStatus info job state => .reportCurrentStatus info job state
  | .reportCompleting info job result => .reportCompleting info job result
  | .reportCompleted info job result => .reportCompleted info job result
  | .isIgnored job => .isIgnored job
  | .payloadManifest => .payloadManifest
  | .fetchPayload => .fetchPayload
  | .triggerPipeline pipeline user options => .triggerPipeline pipeline user options
  | .materialChanged pipeline revisions => .materialChanged pipeline revisions
  | .cancelJob id => .cancelJob id
  | .rescheduleJob id => .rescheduleJob id
  | .approveAgent uuid => .approveAgent uuid
  | .disableAgent uuid => .disableAgent uuid
  | .listAgents => .listAgents
  | .listJobs all => .listJobs all
  | .status => .status

def answer? : Call α → Response → Option α
  | .hello, .hello protocol version => some (protocol, version)
  | .getCookie .., .cookie c => some c
  | .ping _, .instruction i => some i
  | .getWork _, .work w => some w
  | .reportCurrentStatus .., .report outcome => some outcome
  | .reportCompleting .., .report outcome => some outcome
  | .reportCompleted .., .report outcome => some outcome
  | .isIgnored _, .ignored b => some b
  | .payloadManifest, .manifest m => some m
  | .fetchPayload, .payload m data => some (m, data)
  | .triggerPipeline .., .schedule outcome => some outcome
  | .materialChanged .., .schedule outcome => some outcome
  | .cancelJob _, .ok => some ()
  | .rescheduleJob _, .ok => some ()
  | .approveAgent _, .ok => some ()
  | .disableAgent _, .ok => some ()
  | .listAgents, .agents list => some list
  | .listJobs _, .jobs list => some list
  | .status, .status uptimeSecs agents activeJobs rejections =>
    some ⟨uptimeSecs, agents, activeJobs, rejections⟩
  | _, _ => none

end Call

def Response.kindName : Response → String
  | .ok => "Ok"
  | .hello .. => "Hello"
  | .instruction _ => "Instruction"
  | .work _ => "Work"
  | .report _ => "Report"
  | .ignored _ => "Ignored"
  | .cookie _ => "Cookie"
  | .manifest _ => "Manifest"
  | .payload .. => "Payload"
  | .schedule _ => "Schedule"
  | .agents _ => "Agents"
  | .jobs _ => "Jobs"
  | .status .. => "Status"
  | .error .. => "Error"

inductive CallError where
  | connect (address reason : String)
  | transport (error : WireError)
  | rejected (kind : ErrorKind) (message : String)
  | unexpected (kindName : String)
  deriving DecidableEq, Repr

namespace CallError

def kind? : CallError → Option ErrorKind
  | rejected kind _ => some kind
  | _ => none

/-- Trouble on the way, which may pass, as opposed to a refusal. -/
def isTransient : CallError → Bool
  | connect .. | transport _ => true
  | _ => false

def message : CallError → String
  | connect address reason => s!"cannot reach dispatcher at {address}: {reason}"
  | transport e => s!"protocol error: {e.message}"
  | rejected kind message => s!"dispatcher refused request ({kind.label}): {message}"
  | unexpected kindName => s!"unexpected response: {kindName}"

end CallError

namespace Call

variable {α : Type}

def accept (c : Call α) (r : Response) : Except CallError α :=
  match c.answer? r, r with
  | some a, _ => .ok a
  | none, .error kind message => .error (.rejected kind message)
  | none, other => .error (.unexpected other.kindName)

/-- The outcome of a call whose request was answered over a connection. -/
def conclude (c : Call α) (x : Exchange) : Except CallError α :=
  match x.response with
  | .ok r => c.accept r
  | .error e => .error (.transport e)

def make (c : Call α) (reply : Stream) : Except CallError α := c.conclude (c.request.call reply)

end Call

end BuildDispatch
