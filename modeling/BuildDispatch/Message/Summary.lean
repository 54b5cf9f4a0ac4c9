import BuildDispatch.Manifest
import BuildDispatch.Message.Forms

/-! What the dispatcher tells operators and supervisors: lists, counts and kinds of error. -/
namespace BuildDispatch

open Data Form

/-- What went wrong with a request, for a caller that does not read the text. -/
inductive ErrorKind where
  | agentMismatch
  | cookieMismatch
  | unknownAgent
  | unknownJob
  | unsupportedProtocol
  | noPayload
  | internal
  deriving DecidableEq, Repr

namespace ErrorKind

def all : List ErrorKind :=
  [agentMismatch, cookieMismatch, unknownAgent, unknownJob, unsupportedProtocol, noPayload,
    internal]

def name : ErrorKind → String
  | agentMismatch => "agent_mismatch"
  | cookieMismatch => "cookie_mismatch"
  | unknownAgent => "unknown_agent"
  | unknownJob => "unknown_job"
  | unsupportedProtocol => "unsupported_protocol"
  | noPayload => "no_payload"
  | internal => "internal"

def form : Format ErrorKind := .named all name

def label : ErrorKind → String
  | agentMismatch => "AgentMismatch"
  | cookieMismatch => "CookieMismatch"
  | unknownAgent => "UnknownAgent"
  | unknownJob => "UnknownJob"
  | unsupportedProtocol => "UnsupportedProtocol"
  | noPayload => "NoPayload"
  | internal => "Internal"

end ErrorKind

def Manifest.form : Format Manifest :=
  .record
    (.required "version" .text <| .required "sha256" .text <| .required "len" word64 .nil)
    (fun (version, checksum, length, ()) => { version, checksum, length })
    fun m => (m.version, m.checksum, m.length, ())

structure AgentSummary where
  uuid : String
  hostname : String
  address : String
  status : AgentStatus
  currentJob : Option BuildId
  lastSeen : Timestamp
  resources : List String
  deriving DecidableEq, Repr

def AgentSummary.form : Format AgentSummary :=
  .record
    (.required "uuid" .text <| .required "hostname" .text <| .required "ip_address" .text <|
      .required "status" AgentStatus.form <| .withDefault "current_job" (.option word64) none <|
      .required "last_seen_ms" word64 <| .withDefault "resources" texts [] .nil)
    (fun (uuid, hostname, address, status, currentJob, lastSeen, resources, ()) =>
      { uuid, hostname, address, status, currentJob, lastSeen, resources })
    fun a =>
      (a.uuid, a.hostname, a.address, a.status, a.currentJob, a.lastSeen, a.resources, ())

structure JobSummary where
  ref : JobRef
  state : JobState
  result : JobResult
  agent : Option String
  deriving DecidableEq, Repr

def JobSummary.form : Format JobSummary :=
  .record
    (.required "identifier" JobRef.form <| .required "state" JobState.form <|
      .required "result" JobResult.form <| .withDefault "assigned_agent" (.option .text) none .nil)
    (fun (ref, state, result, agent, ()) => { ref, state, result, agent })
    fun j => (j.ref, j.state, j.result, j.agent, ())

structure RejectionCounts where
  unknownJob : UInt64
  terminal : UInt64
  notForward : UInt64
  duplicate : UInt64
  agentMismatch : UInt64
  deriving DecidableEq, Repr

namespace RejectionCounts

def zero : RejectionCounts := ⟨0, 0, 0, 0, 0⟩

instance : Inhabited RejectionCounts := ⟨zero⟩

/-- Counts an answer to a report. An accepted report is not counted. -/
def count (c : RejectionCounts) : ReportOutcome → RejectionCounts
  | .accepted => c
  | .duplicate => { c with duplicate := c.duplicate + 1 }
  | .rejected .unknownJob => { c with unknownJob := c.unknownJob + 1 }
  | .rejected .terminal => { c with terminal := c.terminal + 1 }
  | .rejected .notForward => { c with notForward := c.notForward + 1 }

def form : Format RejectionCounts :=
  .record
    (.required "unknown_job" word64 <| .required "terminal" word64 <|
      .required "not_forward" word64 <| .required "duplicate" word64 <|
      .required "agent_mismatch" word64 .nil)
    (fun (unknownJob, terminal, notForward, duplicate, agentMismatch, ()) =>
      { unknownJob, terminal, notForward, duplicate, agentMismatch })
    fun c => (c.unknownJob, c.terminal, c.notForward, c.duplicate, c.agentMismatch, ())

end RejectionCounts

end BuildDispatch
