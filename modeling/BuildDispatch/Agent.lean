import BuildDispatch.Job
import BuildDispatch.Text.Short

/-! Agents: who they are, what they say about themselves, and the cookies that bind them. -/
namespace BuildDispatch

/-- A token that binds an agent to the place from which it runs. -/
structure Cookie where
  token : String
  deriving DecidableEq, Repr

namespace Cookie

def mark : String := "ck-"

/-- Cookies end up in logs: only the start is shown. -/
def shown (c : Cookie) : String := Text.short c.token (mark.length + 4) ++ "…"

/-- The form of an issued cookie: its mark and nineteen characters of an alphabet of sixty-four. -/
def isWellFormed (c : Cookie) : Bool :=
  let body := c.token.toList.drop mark.length
  mark.toList.isPrefixOf c.token.toList && body.length = 19 &&
    body.all fun x => x.isAlphanum || x = '_' || x = '-'

end Cookie

/-- Who an agent is. The uuid alone tells agents apart. -/
structure AgentIdentity where
  hostname : String
  address : String
  uuid : String
  deriving DecidableEq, Repr

def AgentIdentity.shown (a : AgentIdentity) : String :=
  s!"{a.hostname} [{a.address}, {Text.short a.uuid 8}]"

/-- The status of an agent. The order is that of urgency, and serves display only. -/
inductive AgentStatus where
  | pending
  | lostContact
  | missing
  | building
  | cancelled
  | idle
  | disabled
  deriving DecidableEq, Repr

namespace AgentStatus

def all : List AgentStatus :=
  [pending, lostContact, missing, building, cancelled, idle, disabled]

def name : AgentStatus → String
  | pending => "Pending"
  | lostContact => "LostContact"
  | missing => "Missing"
  | building => "Building"
  | cancelled => "Cancelled"
  | idle => "Idle"
  | disabled => "Disabled"

def urgency : AgentStatus → Nat
  | pending => 0
  | lostContact => 1
  | missing => 2
  | building => 3
  | cancelled => 4
  | idle => 5
  | disabled => 6

def isSelfReported : AgentStatus → Bool
  | idle | building | cancelled => true
  | _ => false

def isHeld : AgentStatus → Bool
  | pending | disabled => true
  | _ => false

end AgentStatus

/-- What an agent says of itself with every call. -/
structure Snapshot where
  identity : AgentIdentity
  status : AgentStatus
  currentJob : Option JobRef
  cookie : Option Cookie
  /-- The place to which the cookie is bound. -/
  location : String
  resources : Keys String
  deriving DecidableEq

namespace Snapshot

def fresh (identity : AgentIdentity) (location : String) : Snapshot where
  identity
  status := .idle
  currentJob := none
  cookie := none
  location
  resources := ∅

def uuid (s : Snapshot) : String := s.identity.uuid

def withResources (s : Snapshot) (resources : List String) : Snapshot :=
  { s with resources := .ofKeys resources }

def withCookie (s : Snapshot) (cookie : Cookie) : Snapshot := { s with cookie := some cookie }

def idle (s : Snapshot) : Snapshot := { s with status := .idle, currentJob := none }

def building (s : Snapshot) (job : JobRef) : Snapshot :=
  { s with status := .building, currentJob := some job }

def cancelled (s : Snapshot) : Snapshot := { s with status := .cancelled }

/-- The status that the agent claims. One that is not its own to report is read as idle. -/
def reportedStatus (s : Snapshot) : AgentStatus :=
  if s.status.isSelfReported then s.status else .idle

end Snapshot

/-- What the dispatcher answers to a ping. -/
structure Instruction where
  cancel : Bool
  deriving DecidableEq, Repr

end BuildDispatch
