import BuildDispatch.Job.Report
import BuildDispatch.Message.Summary
import BuildDispatch.Repository
import BuildDispatch.Text.Inspect

/-! The board of jobs: those that wait, those that agents have, and those that have ended. -/
namespace BuildDispatch

/-- What is made known of a job that was made or has changed. -/
structure JobEvent where
  buildId : BuildId
  state : JobState
  result : JobResult
  agent : Option String
  stamp : Timestamp
  deriving DecidableEq, Repr

def JobEvent.of (j : Job) : JobEvent := ⟨j.buildId, j.state, j.result, j.agent, j.lastStamp⟩

inductive JobError where
  /-- A report by another agent than the one that has the job. -/
  | agentMismatch (buildId : BuildId) (assigned : Option String) (reported : String)
  | unknownJob (buildId : BuildId)
  deriving DecidableEq, Repr

def JobSummary.of (j : Job) : JobSummary := ⟨j.ref, j.state, j.result, j.agent⟩

structure Board where
  jobs : Table BuildId Job
  /-- The jobs that may be scheduled, the oldest first. -/
  waiting : Keys BuildId
  /-- The job that each agent was given last. -/
  assignments : Table String BuildId
  nextId : BuildId
  repository : Repository
  /-- What was made known, the newest first. -/
  events : List JobEvent
  rejections : RejectionCounts
  deriving DecidableEq

namespace Board

def empty : Board := ⟨∅, ∅, ∅, 1, .empty, [], .zero⟩

instance : Inhabited Board := ⟨empty⟩

def get? (b : Board) (id : BuildId) : Option Job := b.jobs.get? id

def commit (b : Board) (j : Job) : Board :=
  { b with
    jobs := b.jobs.insert j.buildId j
    repository := b.repository.saveJob j
    events := .of j :: b.events }

/-- Makes an instance of a job, which waits for an agent. The number in `ref` is not used. -/
def insertScheduled (b : Board) (ref : JobRef) (plan : Plan) (now : Timestamp) : BuildId × Board :=
  let id := b.nextId
  let b := { b with nextId := id + 1 }.commit (.scheduled { ref with buildId := id } plan now)
  (id, { b with waiting := b.waiting.insert id () })

def create (b : Board) (pipeline label stage job : String) (plan : Plan) (now : Timestamp) :
    BuildId × Board :=
  b.insertScheduled ⟨pipeline, label, stage, job, 0⟩ plan now

def leaveWaiting (b : Board) (id : BuildId) : Board := { b with waiting := b.waiting.erase id }

/-- Assigns the first of `ids` that waits and that the agent can run. -/
def assignAmong (b : Board) (info : Snapshot) (now : Timestamp) :
    List BuildId → Option Assignment × Board
  | [] => (none, b)
  | id :: rest =>
    match b.get? id with
    | none => (b.leaveWaiting id).assignAmong info now rest
    | some j =>
      if j.state ≠ .scheduled then (b.leaveWaiting id).assignAmong info now rest
      else if j.plan.runnableWith info.resources then
        match j.assign? info.uuid now with
        | none => b.assignAmong info now rest
        | some j =>
          let b := b.leaveWaiting id
          let b := { b with assignments := b.assignments.insert info.uuid id }
          (some ⟨j.ref, j.plan⟩, b.commit j)
      else b.assignAmong info now rest

def assignNext (b : Board) (info : Snapshot) (now : Timestamp) : Option Assignment × Board :=
  b.assignAmong info now b.waiting.keys

def count (b : Board) (outcome : ReportOutcome) : Board :=
  { b with rejections := b.rejections.count outcome }

def countMismatch (b : Board) : Board :=
  { b with rejections := { b.rejections with agentMismatch := b.rejections.agentMismatch + 1 } }

/-- A report of an agent on a job. Only the agent that has the job is heard. -/
def report (b : Board) (uuid : String) (id : BuildId) (change : Job → Except ReportOutcome Job) :
    Except JobError ReportOutcome × Board :=
  match b.get? id with
  | none => (.ok (.rejected .unknownJob), b.count (.rejected .unknownJob))
  | some j =>
    if j.isAssignedTo uuid then
      match change j with
      | .ok j => (.ok .accepted, b.commit j)
      | .error outcome => (.ok outcome, b.count outcome)
    else (.error (.agentMismatch j.buildId j.agent uuid), b.countMismatch)

def reportStatus (b : Board) (uuid : String) (id : BuildId) (state : JobState) (now : Timestamp) :
    Except JobError ReportOutcome × Board :=
  b.report uuid id fun j => j.reportStatus state now

def reportCompleting (b : Board) (uuid : String) (id : BuildId) (result : JobResult)
    (now : Timestamp) : Except JobError ReportOutcome × Board :=
  b.report uuid id fun j => j.reportCompleting result now

def reportCompleted (b : Board) (uuid : String) (id : BuildId) (result : JobResult)
    (now : Timestamp) : Except JobError ReportOutcome × Board :=
  b.report uuid id fun j => j.reportCompleted result now

/-- Whether whoever runs a job should stop. A job that is not known is not ignored. -/
def isIgnored (b : Board) (id : BuildId) : Bool :=
  match b.get? id with
  | some j => j.isIgnored
  | none => false

/-- The job that an agent runs, or was given last, and whether it is idle. -/
def jobOf? (b : Board) (info : Snapshot) : Option Job :=
  match info.currentJob with
  | some ref => b.get? ref.buildId
  | none => (b.assignments.get? info.uuid).bind b.get?

/-- What an agent is told. One without a job has nothing to stop once its last job has ended. -/
def instructionFor (b : Board) (info : Snapshot) : Instruction :=
  match b.jobOf? info with
  | none => ⟨false⟩
  | some j =>
    if info.currentJob.isNone && j.isTerminal then ⟨false⟩
    else ⟨j.state ≠ .completed && j.isIgnored⟩

/-- An operator cancels a job; false if it has ended or was cancelled before. -/
def cancel (b : Board) (id : BuildId) (now : Timestamp) : Except JobError Bool × Board :=
  match b.get? id with
  | none => (.error (.unknownJob id), b)
  | some j =>
    match j.cancel? now with
    | none => (.ok false, b)
    | some j' =>
      (.ok true, (if j.state = .scheduled then b.leaveWaiting id else b).commit j')

/-- Retires a job and makes a copy of it, if it has not ended. -/
def reschedule (b : Board) (id : BuildId) (now : Timestamp) :
    Except JobError (Option BuildId) × Board :=
  match b.get? id with
  | none => (.error (.unknownJob id), b)
  | some j =>
    match j.retire? now with
    | none => (.ok none, b)
    | some retired =>
      let (copy, b) := ((b.leaveWaiting id).commit retired).insertScheduled j.ref j.plan now
      (.ok (some copy), b)

/--
An agent that asks for work runs its last job no more. The job is made again, or ends if it was
cancelled.
-/
def releaseAbandoned (b : Board) (uuid : String) (now : Timestamp) : Option BuildId × Board :=
  match (b.assignments.get? uuid).bind b.get? with
  | none => (none, b)
  | some j =>
    if j.isTerminal || !j.isAssignedTo uuid then (none, b)
    else if j.result = .cancelled then (none, b.commit (j.enter .completed now))
    else
      match b.reschedule j.buildId now with
      | (.ok copy, b) => (copy, b)
      | (.error _, b) => (none, b)

/-- The jobs in the order of their numbers; `all` includes those that have ended. -/
def list (b : Board) (all : Bool) : List JobSummary :=
  (b.jobs.values.filter fun j => all || !j.isTerminal).map .of

def activeCount (b : Board) : Nat := (b.jobs.values.filter fun j => !j.isTerminal).length

end Board

def JobError.message : JobError → String
  | .agentMismatch id assigned reported =>
    s!"agent {reported} reported on job {Text.decimal id.toNat} assigned to " ++
      Text.inspectOptional assigned
  | .unknownJob id => s!"unknown job {Text.decimal id.toNat}"

end BuildDispatch
