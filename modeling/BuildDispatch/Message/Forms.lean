import BuildDispatch.Data.Format
import BuildDispatch.Cause
import BuildDispatch.Outcome

/-! The written forms of jobs, agents, causes and outcomes, with fields in the order of writing. -/
namespace BuildDispatch

open Data

namespace Form

def word64 : Format UInt64 := .word 0xFFFFFFFFFFFFFFFF

def word32 : Format UInt32 := .via (.word 0xFFFFFFFF) UInt64.toUInt32 UInt32.toUInt64

def byte : Format UInt8 := .via (.word 0xFF) UInt64.toUInt8 UInt8.toUInt64

def texts : Format (List String) := .list .text

def textMap : Format (Table String String) := .map .text

end Form

open Form

def JobRef.form : Format JobRef :=
  .record
    (.required "pipeline_name" .text <| .required "pipeline_label" .text <|
      .required "stage_name" .text <| .required "job_name" .text <|
      .required "build_id" word64 .nil)
    (fun (pipeline, label, stage, job, buildId, ()) => { pipeline, label, stage, job, buildId })
    fun r => (r.pipeline, r.label, r.stage, r.job, r.buildId, ())

def JobState.form : Format JobState := .named all name

def JobResult.form : Format JobResult := .named all name

def Task.form : Format Task :=
  .record
    (.required "program" .text <| .withDefault "args" texts [] <|
      .optional "working_dir" .text .nil)
    (fun (program, args, workingDir, ()) => { program, args, workingDir })
    fun t => (t.program, t.args, t.workingDir, ())

def Variable.form : Format Variable :=
  .record
    (.required "name" .text <| .required "value" .text <| .withDefault "secure" .flag false .nil)
    (fun (name, value, secure, ()) => { name, value, secure })
    fun v => (v.name, v.value, v.secure, ())

def Plan.form : Format Plan :=
  .record
    (.withDefault "resources" .keys ∅ <| .withDefault "tasks" (.list Task.form) [] <|
      .withDefault "variables" (.list Variable.form) [] <|
      .withDefault "artifact_location" .text "" .nil)
    (fun (resources, tasks, environment, artifactLocation, ()) =>
      { resources, tasks, environment, artifactLocation })
    fun p => (p.resources, p.tasks, p.environment, p.artifactLocation, ())

def Transition.form : Format Transition :=
  .record (.required "state" JobState.form <| .required "at_ms" word64 .nil)
    (fun (state, stamp, ()) => { state, stamp })
    fun t => (t.state, t.stamp, ())

def Job.form : Format Job :=
  .record
    (.required "identifier" JobRef.form <| .required "state" JobState.form <|
      .required "result" JobResult.form <|
      .cons "assigned_agent" (.option .text) (.named none) (fun _ => false) <|
      .required "plan" Plan.form <| .withDefault "transitions" (.list Transition.form) [] .nil)
    (fun (ref, state, result, agent, plan, transitions, ()) =>
      { ref, state, result, agent, plan, transitions })
    fun j => (j.ref, j.state, j.result, j.agent, j.plan, j.transitions, ())

def Cookie.form : Format Cookie := .via .text Cookie.mk Cookie.token

def AgentIdentity.form : Format AgentIdentity :=
  .record
    (.required "hostname" .text <| .required "ip_address" .text <| .required "uuid" .text .nil)
    (fun (hostname, address, uuid, ()) => { hostname, address, uuid })
    fun a => (a.hostname, a.address, a.uuid, ())

def AgentStatus.form : Format AgentStatus := .named all name

def Snapshot.form : Format Snapshot :=
  .record
    (.required "identifier" AgentIdentity.form <| .required "status" AgentStatus.form <|
      .optional "current_job" JobRef.form <| .optional "cookie" Cookie.form <|
      .withDefault "location" .text "" <| .withDefault "resources" .keys ∅ .nil)
    (fun (identity, status, currentJob, cookie, location, resources, ()) =>
      { identity, status, currentJob, cookie, location, resources })
    fun s => (s.identity, s.status, s.currentJob, s.cookie, s.location, s.resources, ())

def Instruction.form : Format Instruction :=
  .record (.required "cancel" .flag .nil) (fun (cancel, ()) => { cancel }) fun i => (i.cancel, ())

def Revision.form : Format Revision :=
  .record (.required "material" .text <| .required "revision" .text .nil)
    (fun (material, revision, ()) => { material, revision })
    fun r => (r.material, r.revision, ())

def TriggerOptions.form : Format TriggerOptions :=
  .record
    (.withDefault "revisions" textMap ∅ <| .withDefault "variables" textMap ∅ <|
      .withDefault "secure_variables" textMap ∅ .nil)
    (fun (revisions, plain, secure, ()) => { revisions, plain, secure })
    fun o => (o.revisions, o.plain, o.secure, ())

def Origin.form : Format Origin :=
  .tagged "kind" <|
    .cons "manual" (.required "user" .text .nil)
      (fun (user, ()) => .manual user)
      (fun | .manual user => some (user, ()) | _ => none) <|
    .cons "material_change" .nil
      (fun () => .materialChange)
      (fun | .materialChange => some () | _ => none)
    .nil

def BuildCause.form : Format BuildCause :=
  .record
    (.required "pipeline_name" .text <| .required "counter" word64 <|
      .required "trigger" Origin.form <| .required "revisions" (.list Revision.form) <|
      .required "variables" (.list Variable.form) <| .required "jobs" (.list word64) <|
      .required "created_at_ms" word64 .nil)
    (fun (pipeline, counter, origin, revisions, environment, jobs, createdAt, ()) =>
      { pipeline, counter, origin, revisions, environment, jobs, createdAt })
    fun c =>
      (c.pipeline, c.counter, c.origin, c.revisions, c.environment, c.jobs, c.createdAt, ())

def RejectReason.form : Format RejectReason := .named all name

def ReportOutcome.form : Format ReportOutcome :=
  .tagged "outcome" <|
    .cons "accepted" .nil
      (fun () => .accepted)
      (fun | .accepted => some () | _ => none) <|
    .cons "duplicate" .nil
      (fun () => .duplicate)
      (fun | .duplicate => some () | _ => none) <|
    .cons "rejected" (.required "reason" RejectReason.form .nil)
      (fun (reason, ()) => .rejected reason)
      (fun | .rejected reason => some (reason, ()) | _ => none)
    .nil

def ScheduleOutcome.form : Format ScheduleOutcome :=
  .tagged "outcome" <|
    .cons "scheduled"
      (.required "pipeline" .text <| .required "label" .text <|
        .required "jobs" (.list word64) .nil)
      (fun (pipeline, label, jobs, ()) => .scheduled pipeline label jobs)
      (fun | .scheduled pipeline label jobs => some (pipeline, label, jobs, ()) | _ => none) <|
    .cons "already_in_flight" (.required "pipeline" .text .nil)
      (fun (pipeline, ()) => .alreadyInFlight pipeline)
      (fun | .alreadyInFlight pipeline => some (pipeline, ()) | _ => none) <|
    .cons "unauthorized" (.required "message" .text .nil)
      (fun (message, ()) => .unauthorized message)
      (fun | .unauthorized message => some (message, ()) | _ => none) <|
    .cons "unknown_pipeline" (.required "pipeline" .text .nil)
      (fun (pipeline, ()) => .unknownPipeline pipeline)
      (fun | .unknownPipeline pipeline => some (pipeline, ()) | _ => none) <|
    .cons "no_change" (.required "pipeline" .text .nil)
      (fun (pipeline, ()) => .noChange pipeline)
      (fun | .noChange pipeline => some (pipeline, ()) | _ => none) <|
    .cons "invalid" (.required "message" .text .nil)
      (fun (message, ()) => .invalid message)
      (fun | .invalid message => some (message, ()) | _ => none)
    .nil

def DenyReason.form : Format DenyReason := .named all name

/-- The fields of an assignment, which stand beside the tag where work is written. -/
def Assignment.fields :=
  Fields.required "job" JobRef.form <| .required "plan" Plan.form .nil

def Assignment.form : Format Assignment :=
  .record Assignment.fields (fun (job, plan, ()) => { job, plan }) fun a => (a.job, a.plan, ())

def Work.form : Format Work :=
  .tagged "type" <|
    .cons "build" Assignment.fields
      (fun (job, plan, ()) => .build { job, plan })
      (fun | .build a => some (a.job, a.plan, ()) | _ => none) <|
    .cons "no_work" .nil
      (fun () => .noWork)
      (fun | .noWork => some () | _ => none) <|
    .cons "deny" (.required "reason" DenyReason.form .nil)
      (fun (reason, ()) => .deny reason)
      (fun | .deny reason => some (reason, ()) | _ => none)
    .nil

end BuildDispatch
