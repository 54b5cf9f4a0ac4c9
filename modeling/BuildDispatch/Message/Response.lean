import BuildDispatch.Message.Summary

/-! Responses of the dispatcher. -/
namespace BuildDispatch

open Data Form

inductive Response where
  | ok
  | hello (protocol : UInt32) (version : String)
  | instruction (instruction : Instruction)
  | work (work : Work)
  | report (outcome : ReportOutcome)
  | ignored (ignored : Bool)
  | cookie (cookie : Cookie)
  | manifest (manifest : Manifest)
  | payload (manifest : Manifest) (data : Bytes)
  | schedule (outcome : ScheduleOutcome)
  | agents (agents : List AgentSummary)
  | jobs (jobs : List JobSummary)
  | status (uptimeSecs agents activeJobs : UInt64) (rejections : RejectionCounts)
  | error (kind : ErrorKind) (message : String)
  deriving DecidableEq

namespace Response

def form : Format Response :=
  .tagged "type" <|
    .cons "Ok" .nil
      (fun () => .ok)
      (fun | .ok => some () | _ => none) <|
    .cons "Hello" (.required "protocol" word32 <| .required "version" .text .nil)
      (fun (protocol, version, ()) => .hello protocol version)
      (fun | .hello protocol version => some (protocol, version, ()) | _ => none) <|
    .cons "Instruction" (.required "instruction" Instruction.form .nil)
      (fun (i, ()) => .instruction i)
      (fun | .instruction i => some (i, ()) | _ => none) <|
    .cons "Work" (.required "work" Work.form .nil)
      (fun (w, ()) => .work w)
      (fun | .work w => some (w, ()) | _ => none) <|
    .cons "Report" (.required "outcome" ReportOutcome.form .nil)
      (fun (outcome, ()) => .report outcome)
      (fun | .report outcome => some (outcome, ()) | _ => none) <|
    .cons "Ignored" (.required "ignored" .flag .nil)
      (fun (b, ()) => .ignored b)
      (fun | .ignored b => some (b, ()) | _ => none) <|
    .cons "Cookie" (.required "cookie" Cookie.form .nil)
      (fun (c, ()) => .cookie c)
      (fun | .cookie c => some (c, ()) | _ => none) <|
    .cons "Manifest" (.required "manifest" Manifest.form .nil)
      (fun (m, ()) => .manifest m)
      (fun | .manifest m => some (m, ()) | _ => none) <|
    .cons "Payload"
      (.required "manifest" Manifest.form <| .required "data" (.list byte) .nil)
      (fun (m, data, ()) => .payload m data)
      (fun | .payload m data => some (m, data, ()) | _ => none) <|
    .cons "Schedule" (.required "outcome" ScheduleOutcome.form .nil)
      (fun (outcome, ()) => .schedule outcome)
      (fun | .schedule outcome => some (outcome, ()) | _ => none) <|
    .cons "Agents" (.required "agents" (.list AgentSummary.form) .nil)
      (fun (list, ()) => .agents list)
      (fun | .agents list => some (list, ()) | _ => none) <|
    .cons "Jobs" (.required "jobs" (.list JobSummary.form) .nil)
      (fun (list, ()) => .jobs list)
      (fun | .jobs list => some (list, ()) | _ => none) <|
    .cons "Status"
      (.required "uptime_secs" word64 <| .required "agents" word64 <|
        .required "jobs_active" word64 <|
        .withDefault "rejections" RejectionCounts.form .zero .nil)
      (fun (uptime, known, active, counts, ()) => .status uptime known active counts)
      (fun | .status uptime known active counts => some (uptime, known, active, counts, ())
           | _ => none) <|
    .cons "Error" (.required "kind" ErrorKind.form <| .required "message" .text .nil)
      (fun (kind, message, ()) => .error kind message)
      (fun | .error kind message => some (kind, message, ()) | _ => none)
    .nil

end Response

end BuildDispatch
