import BuildDispatch.Agent

/-! The answers that are no errors: to a report, to a trigger and to an agent that asks for work. -/
namespace BuildDispatch

inductive RejectReason where
  | unknownJob
  | terminal
  | notForward
  deriving DecidableEq, Repr

namespace RejectReason

def all : List RejectReason := [unknownJob, terminal, notForward]

def name : RejectReason → String
  | unknownJob => "unknown_job"
  | terminal => "terminal"
  | notForward => "not_forward"

def shown : RejectReason → String
  | unknownJob => "unknown job"
  | terminal => "job already finished"
  | notForward => "not a forward transition"

end RejectReason

inductive ReportOutcome where
  | accepted
  /-- What is reported was recorded before. -/
  | duplicate
  | rejected (reason : RejectReason)
  deriving DecidableEq, Repr

inductive ScheduleOutcome where
  | scheduled (pipeline label : String) (jobs : List BuildId)
  /-- Another trigger of the pipeline is under way. -/
  | alreadyInFlight (pipeline : String)
  | unauthorized (message : String)
  | unknownPipeline (pipeline : String)
  /-- The revisions are those of the latest run. -/
  | noChange (pipeline : String)
  | invalid (message : String)
  deriving DecidableEq, Repr

def ScheduleOutcome.isScheduled : ScheduleOutcome → Bool
  | scheduled .. => true
  | _ => false

inductive DenyReason where
  | awaitingApproval
  | disabled
  deriving DecidableEq, Repr

namespace DenyReason

def all : List DenyReason := [awaitingApproval, disabled]

def name : DenyReason → String
  | awaitingApproval => "awaiting_approval"
  | disabled => "disabled"

def shown : DenyReason → String
  | awaitingApproval => "agent is awaiting approval"
  | disabled => "agent is disabled"

end DenyReason

structure Assignment where
  job : JobRef
  plan : Plan
  deriving DecidableEq

inductive Work where
  | build (assignment : Assignment)
  | noWork
  | deny (reason : DenyReason)
  deriving DecidableEq

def Work.isBuild : Work → Bool
  | build _ => true
  | _ => false

end BuildDispatch
