import BuildDispatch.Message.Summary

/-! Requests to the dispatcher. -/
namespace BuildDispatch

open Data Form

inductive Request where
  /-- Asks which protocol both sides speak. -/
  | hello (protocol : UInt32) (version : String)
  | ping (info : Snapshot)
  | getWork (info : Snapshot)
  | reportCurrentStatus (info : Snapshot) (job : JobRef) (state : JobState)
  | reportCompleting (info : Snapshot) (job : JobRef) (result : JobResult)
  | reportCompleted (info : Snapshot) (job : JobRef) (result : JobResult)
  | isIgnored (job : JobRef)
  | getCookie (identity : AgentIdentity) (location : String)
  | payloadManifest
  | fetchPayload
  | triggerPipeline (pipeline user : String) (options : TriggerOptions)
  | materialChanged (pipeline : String) (revisions : List Revision)
  | cancelJob (buildId : BuildId)
  | rescheduleJob (buildId : BuildId)
  | approveAgent (uuid : String)
  | disableAgent (uuid : String)
  | listAgents
  /-- `all` includes the jobs that have ended. -/
  | listJobs (all : Bool)
  | status
  deriving DecidableEq

namespace Request

/-- A short name, for logs. -/
def kind : Request → String
  | hello .. => "hello"
  | ping .. => "ping"
  | getWork .. => "get_work"
  | reportCurrentStatus .. => "report_current_status"
  | reportCompleting .. => "report_completing"
  | reportCompleted .. => "report_completed"
  | isIgnored .. => "is_ignored"
  | getCookie .. => "get_cookie"
  | payloadManifest => "payload_manifest"
  | fetchPayload => "fetch_payload"
  | triggerPipeline .. => "trigger_pipeline"
  | materialChanged .. => "material_changed"
  | cancelJob .. => "cancel_job"
  | rescheduleJob .. => "reschedule_job"
  | approveAgent .. => "approve_agent"
  | disableAgent .. => "disable_agent"
  | listAgents => "list_agents"
  | listJobs .. => "list_jobs"
  | status => "status"

def form : Format Request :=
  .tagged "type" <|
    .cons "Hello" (.required "protocol" word32 <| .withDefault "version" .text "" .nil)
      (fun (protocol, version, ()) => .hello protocol version)
      (fun | .hello protocol version => some (protocol, version, ()) | _ => none) <|
    .cons "Ping" (.required "info" Snapshot.form .nil)
      (fun (info, ()) => .ping info)
      (fun | .ping info => some (info, ()) | _ => none) <|
    .cons "GetWork" (.required "info" Snapshot.form .nil)
      (fun (info, ()) => .getWork info)
      (fun | .getWork info => some (info, ()) | _ => none) <|
    .cons "ReportCurrentStatus"
      (.required "info" Snapshot.form <| .required "job" JobRef.form <|
        .required "state" JobState.form .nil)
      (fun (info, job, state, ()) => .reportCurrentStatus info job state)
      (fun | .reportCurrentStatus info job state => some (info, job, state, ()) | _ => none) <|
    .cons "ReportCompleting"
      (.required "info" Snapshot.form <| .required "job" JobRef.form <|
        .required "result" JobResult.form .nil)
      (fun (info, job, result, ()) => .reportCompleting info job result)
      (fun | .reportCompleting info job result => some (info, job, result, ()) | _ => none) <|
    .cons "ReportCompleted"
      (.required "info" Snapshot.form <| .required "job" JobRef.form <|
        .required "result" JobResult.form .nil)
      (fun (info, job, result, ()) => .reportCompleted info job result)
      (fun | .reportCompleted info job result => some (info, job, result, ()) | _ => none) <|
    .cons "IsIgnored" (.required "job" JobRef.form .nil)
      (fun (job, ()) => .isIgnored job)
      (fun | .isIgnored job => some (job, ()) | _ => none) <|
    .cons "GetCookie"
      (.required "identifier" AgentIdentity.form <| .required "location" .text .nil)
      (fun (identity, location, ()) => .getCookie identity location)
      (fun | .getCookie identity location => some (identity, location, ()) | _ => none) <|
    .cons "PayloadManifest" .nil
      (fun () => .payloadManifest)
      (fun | .payloadManifest => some () | _ => none) <|
    .cons "FetchPayload" .nil
      (fun () => .fetchPayload)
      (fun | .fetchPayload => some () | _ => none) <|
    .cons "TriggerPipeline"
      (.required "pipeline" .text <| .required "user" .text <|
        .withDefault "options" TriggerOptions.form .none .nil)
      (fun (pipeline, user, options, ()) => .triggerPipeline pipeline user options)
      (fun | .triggerPipeline pipeline user options => some (pipeline, user, options, ())
           | _ => none) <|
    .cons "MaterialChanged"
      (.required "pipeline" .text <| .required "revisions" (.list Revision.form) .nil)
      (fun (pipeline, revisions, ()) => .materialChanged pipeline revisions)
      (fun | .materialChanged pipeline revisions => some (pipeline, revisions, ())
           | _ => none) <|
    .cons "CancelJob" (.required "build_id" word64 .nil)
      (fun (buildId, ()) => .cancelJob buildId)
      (fun | .cancelJob buildId => some (buildId, ()) | _ => none) <|
    .cons "RescheduleJob" (.required "build_id" word64 .nil)
      (fun (buildId, ()) => .rescheduleJob buildId)
      (fun | .rescheduleJob buildId => some (buildId, ()) | _ => none) <|
    .cons "ApproveAgent" (.required "uuid" .text .nil)
      (fun (uuid, ()) => .approveAgent uuid)
      (fun | .approveAgent uuid => some (uuid, ()) | _ => none) <|
    .cons "DisableAgent" (.required "uuid" .text .nil)
      (fun (uuid, ()) => .disableAgent uuid)
      (fun | .disableAgent uuid => some (uuid, ()) | _ => none) <|
    .cons "ListAgents" .nil
      (fun () => .listAgents)
      (fun | .listAgents => some () | _ => none) <|
    .cons "ListJobs" (.withDefault "all" .flag false .nil)
      (fun (all, ()) => .listJobs all)
      (fun | .listJobs all => some (all, ()) | _ => none) <|
    .cons "Status" .nil
      (fun () => .status)
      (fun | .status => some () | _ => none)
    .nil

end Request

end BuildDispatch
