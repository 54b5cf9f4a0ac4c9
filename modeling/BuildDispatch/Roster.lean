import BuildDispatch.Board
import BuildDispatch.Clock
import BuildDispatch.Duration

/-! The roster of agents: what each said last, its status, and the cookie that it has to show. -/
namespace BuildDispatch

inductive RosterError where
  | cookieMismatch (uuid : String)
  | unknownAgent (uuid : String)
  deriving DecidableEq, Repr

def RosterError.message : RosterError → String
  | cookieMismatch uuid =>
    s!"cookie for agent {uuid} does not match the one issued; re-register"
  | unknownAgent uuid => s!"unknown agent {uuid}"

structure StatusChange where
  uuid : String
  /-- Nothing for an agent that was registered. -/
  former : Option AgentStatus
  status : AgentStatus
  stamp : Timestamp
  deriving DecidableEq, Repr

structure AgentRecord where
  info : Snapshot
  /-- The status of the agent as the dispatcher sees it. -/
  status : AgentStatus
  lastSeen : Timestamp
  cookie : Option Cookie
  location : String
  deriving DecidableEq

namespace AgentRecord

/-- Whether a snapshot shows the cookie that was issued last, from the place it is bound to. -/
def admits (r : AgentRecord) (info : Snapshot) : Bool :=
  match r.cookie with
  | none => true
  | some issued => info.cookie = some issued && info.location = r.location

def summary (r : AgentRecord) : AgentSummary where
  uuid := r.info.uuid
  hostname := r.info.identity.hostname
  address := r.info.identity.address
  status := r.status
  currentJob := r.info.currentJob.map (·.buildId)
  lastSeen := r.lastSeen
  resources := r.info.resources.keys

end AgentRecord

structure Roster where
  agents : Table String AgentRecord
  /-- Changes of status, the newest first. -/
  history : List StatusChange
  autoRegister : Bool
  deriving DecidableEq

namespace Roster

/-- How many changes of status are kept. -/
def historyLimit : Nat := 1024

def new (autoRegister : Bool) : Roster := ⟨∅, [], autoRegister⟩

def get? (r : Roster) (uuid : String) : Option AgentRecord := r.agents.get? uuid

def put (r : Roster) (uuid : String) (a : AgentRecord) : Roster :=
  { r with agents := r.agents.insert uuid a }

def recordChange (r : Roster) (c : StatusChange) : Roster :=
  { r with history := (c :: r.history).take historyLimit }

def register (r : Roster) (info : Snapshot) (now : Timestamp) : AgentRecord × Roster :=
  match r.get? info.uuid with
  | some a => (a, r)
  | none =>
    let status := if r.autoRegister then info.reportedStatus else .pending
    let a : AgentRecord := ⟨info, status, now, none, info.location⟩
    (a, (r.recordChange ⟨info.uuid, none, status, now⟩).put info.uuid a)

def setStatus (r : Roster) (uuid : String) (a : AgentRecord) (status : AgentStatus)
    (now : Timestamp) : Roster :=
  if a.status = status then r.put uuid a
  else (r.recordChange ⟨uuid, some a.status, status, now⟩).put uuid { a with status }

/-- Binds an agent to a place by a new cookie. -/
def issueCookie (r : Roster) (identity : AgentIdentity) (location : String) (cookie : Cookie)
    (now : Timestamp) : Roster :=
  let (a, r) := r.register (.fresh identity location) now
  r.put identity.uuid { a with cookie := some cookie, location, info := { a.info with identity } }

/--
Takes in what an agent says of itself. Its word on its status is taken, unless an operator holds the
agent.
-/
def observe (r : Roster) (info : Snapshot) (now : Timestamp) :
    Except RosterError AgentStatus × Roster :=
  let (a, r) := r.register info now
  if a.admits info then
    let status := if a.status.isHeld then a.status else info.reportedStatus
    (.ok status, r.setStatus info.uuid { a with info, lastSeen := now } status now)
  else (.error (.cookieMismatch info.uuid), r)

def ping (r : Roster) (b : Board) (info : Snapshot) (now : Timestamp) :
    Except RosterError Instruction × Roster :=
  match r.observe info now with
  | (.ok _, r) => (.ok (b.instructionFor info), r)
  | (.error e, r) => (.error e, r)

def status? (r : Roster) (uuid : String) : Option AgentStatus := (r.get? uuid).map (·.status)

def approve (r : Roster) (uuid : String) (now : Timestamp) :
    Except RosterError AgentStatus × Roster :=
  match r.get? uuid with
  | none => (.error (.unknownAgent uuid), r)
  | some a =>
    if a.status.isHeld then
      (.ok a.info.reportedStatus, r.setStatus uuid a a.info.reportedStatus now)
    else (.ok a.status, r)

def disable (r : Roster) (uuid : String) (now : Timestamp) : Except RosterError Unit × Roster :=
  match r.get? uuid with
  | none => (.error (.unknownAgent uuid), r)
  | some a => (.ok (), r.setStatus uuid a .disabled now)

def isSilent (a : AgentRecord) (timeout : Nat) (now : Timestamp) : Bool :=
  !(a.status.isHeld || a.status = .lostContact) && timeout < (now.since a.lastSeen).toNat

/-- Marks the agents that have been silent. Their jobs stay assigned. -/
def sweepLostContact (r : Roster) (timeout : Nat) (now : Timestamp) : List String × Roster :=
  let silent := r.agents.entries.filter fun e => isSilent e.2 timeout now
  (silent.map (·.1), silent.foldl (fun r e => r.setStatus e.1 e.2 .lostContact now) r)

def sweep (r : Roster) (timeout : Duration) (now : Timestamp) : List String × Roster :=
  r.sweepLostContact timeout.wholeMillis.toNat now

/-- The agents by urgency of status, then by host, then by uuid. -/
def summaries (r : Roster) : List AgentSummary :=
  (r.agents.values.map AgentRecord.summary).mergeSort fun a b =>
    a.status.urgency < b.status.urgency ||
      a.status.urgency = b.status.urgency && a.hostname ≤ b.hostname

/-- The changes of an agent's status, the oldest first. -/
def historyOf (r : Roster) (uuid : String) : List StatusChange :=
  (r.history.filter fun c => c.uuid = uuid).reverse

def size (r : Roster) : Nat := r.agents.size

end Roster

end BuildDispatch
