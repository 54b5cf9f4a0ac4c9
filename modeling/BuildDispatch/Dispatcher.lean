import BuildDispatch.Payload
import BuildDispatch.Roster
import BuildDispatch.Scheduler

/-! The dispatcher: what agents, supervisors and operators ask of it, and what it answers. -/
namespace BuildDispatch

inductive DispatchError where
  | roster (error : RosterError)
  | job (error : JobError)
  | payload (error : PayloadError)
  deriving DecidableEq, Repr

namespace DispatchError

def kind : DispatchError → ErrorKind
  | roster (.cookieMismatch _) => .cookieMismatch
  | roster (.unknownAgent _) => .unknownAgent
  | job (.agentMismatch ..) => .agentMismatch
  | job (.unknownJob _) => .unknownJob
  | payload .notPublished => .noPayload
  | payload (.unreadable ..) => .internal

def message : DispatchError → String
  | roster e => e.message
  | job e => e.message
  | payload e => e.message

end DispatchError

structure DispatcherStatus where
  agents : Nat
  activeJobs : Nat
  rejections : RejectionCounts
  deriving DecidableEq, Repr

structure Dispatcher where
  roster : Roster
  scheduler : Scheduler
  payload : PayloadStore
  deriving DecidableEq

namespace Dispatcher

def new (config : Config) (payload : PayloadStore) : Dispatcher :=
  ⟨.new config.autoRegister, .new config, payload⟩

abbrev Answer (α : Type) := Except DispatchError α × Dispatcher

def board (d : Dispatcher) : Board := d.scheduler.board

def setBoard (d : Dispatcher) (board : Board) : Dispatcher :=
  { d with scheduler := { d.scheduler with board } }

def ofRoster {α : Type} (d : Dispatcher) : Except RosterError α × Roster → Answer α
  | (.ok a, roster) => (.ok a, { d with roster })
  | (.error e, roster) => (.error (.roster e), { d with roster })

def ofBoard {α : Type} (d : Dispatcher) : Except JobError α × Board → Answer α
  | (.ok a, board) => (.ok a, d.setBoard board)
  | (.error e, board) => (.error (.job e), d.setBoard board)

def ofPayload {α : Type} (d : Dispatcher) : Except PayloadError α × PayloadStore → Answer α
  | (.ok a, payload) => (.ok a, { d with payload })
  | (.error e, payload) => (.error (.payload e), { d with payload })

def ping (d : Dispatcher) (info : Snapshot) (now : Timestamp) : Answer Instruction :=
  d.ofRoster (d.roster.ping d.board info now)

/-- Work for an agent that says it is idle: its last job is taken from it, and it gets the next. -/
def nextWork (d : Dispatcher) (info : Snapshot) (now : Timestamp) : Work × Dispatcher :=
  if info.status ≠ .idle ∨ info.currentJob.isSome then (.noWork, d)
  else
    let (_, b) := d.board.releaseAbandoned info.uuid now
    match b.assignNext info now with
    | (some a, b) => (.build a, d.setBoard b)
    | (none, b) => (.noWork, d.setBoard b)

/-- At most one job. An agent that an operator holds is denied. -/
def getWork (d : Dispatcher) (info : Snapshot) (now : Timestamp) : Answer Work :=
  match d.ofRoster (d.roster.observe info now) with
  | (.error e, d) => (.error e, d)
  | (.ok .pending, d) => (.ok (.deny .awaitingApproval), d)
  | (.ok .disabled, d) => (.ok (.deny .disabled), d)
  | (.ok _, d) =>
    let (work, d) := d.nextWork info now
    (.ok work, d)

/-- A report of an agent, which is observed first. -/
def report (d : Dispatcher) (info : Snapshot) (now : Timestamp)
    (hear : Board → Except JobError ReportOutcome × Board) : Answer ReportOutcome :=
  match d.ofRoster (d.roster.observe info now) with
  | (.error e, d) => (.error e, d)
  | (.ok _, d) => d.ofBoard (hear d.board)

def reportCurrentStatus (d : Dispatcher) (info : Snapshot) (job : JobRef) (state : JobState)
    (now : Timestamp) : Answer ReportOutcome :=
  d.report info now fun b => b.reportStatus info.uuid job.buildId state now

def reportCompleting (d : Dispatcher) (info : Snapshot) (job : JobRef) (result : JobResult)
    (now : Timestamp) : Answer ReportOutcome :=
  d.report info now fun b => b.reportCompleting info.uuid job.buildId result now

def reportCompleted (d : Dispatcher) (info : Snapshot) (job : JobRef) (result : JobResult)
    (now : Timestamp) : Answer ReportOutcome :=
  d.report info now fun b => b.reportCompleted info.uuid job.buildId result now

def isIgnored (d : Dispatcher) (job : JobRef) : Bool := d.board.isIgnored job.buildId

def getCookie (d : Dispatcher) (identity : AgentIdentity) (location : String) (cookie : Cookie)
    (now : Timestamp) : Dispatcher :=
  { d with roster := d.roster.issueCookie identity location cookie now }

def payloadManifest (d : Dispatcher) (file : Option PathTarget) : Answer Manifest :=
  d.ofPayload (d.payload.manifest.atOnce file)

def fetchPayload (d : Dispatcher) (file : Option PathTarget) : Answer (Manifest × Bytes) :=
  d.ofPayload (d.payload.read.atOnce file)

def trigger (d : Dispatcher) (t : Trigger) (now : Timestamp) : ScheduleOutcome × Dispatcher :=
  let (outcome, scheduler) := d.scheduler.trigger t now
  (outcome, { d with scheduler })

def cancelJob (d : Dispatcher) (id : BuildId) (now : Timestamp) : Answer Bool :=
  d.ofBoard (d.board.cancel id now)

def rescheduleJob (d : Dispatcher) (id : BuildId) (now : Timestamp) : Answer (Option BuildId) :=
  d.ofBoard (d.board.reschedule id now)

def approveAgent (d : Dispatcher) (uuid : String) (now : Timestamp) : Answer AgentStatus :=
  d.ofRoster (d.roster.approve uuid now)

def disableAgent (d : Dispatcher) (uuid : String) (now : Timestamp) : Answer Unit :=
  d.ofRoster (d.roster.disable uuid now)

def listAgents (d : Dispatcher) : List AgentSummary := d.roster.summaries

def listJobs (d : Dispatcher) (all : Bool) : List JobSummary := d.board.list all

def status (d : Dispatcher) : DispatcherStatus :=
  ⟨d.roster.size, d.board.activeCount, d.board.rejections⟩

def sweepLostContact (d : Dispatcher) (timeout : Nat) (now : Timestamp) :
    List String × Dispatcher :=
  let (lost, roster) := d.roster.sweepLostContact timeout now
  (lost, { d with roster })

end Dispatcher

end BuildDispatch
