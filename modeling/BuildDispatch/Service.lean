import BuildDispatch.Dispatcher
import BuildDispatch.Message.Exchange
import BuildDispatch.Message.Version

/-! Requests served over connections: one request and one response on each. -/
namespace BuildDispatch

structure Circumstances where
  now : Timestamp
  uptime : UInt64
  /-- A cookie that was never issued before. -/
  cookie : Cookie
  payloadFile : Option PathTarget

namespace Protocol

def unsupported (client : UInt32) : String :=
  s!"protocol {Text.decimal client.toNat} is not supported (supported: " ++
    s!"{Text.decimal oldest.toNat}..={Text.decimal newest.toNat})"

def greet (client : UInt32) : Response :=
  match negotiate client with
  | some protocol => .hello protocol programVersion
  | none => .error .unsupportedProtocol (unsupported client)

end Protocol

namespace Dispatcher

def respond {α : Type} (ok : α → Response) : Answer α → Response × Dispatcher
  | (.ok a, d) => (ok a, d)
  | (.error e, d) => (.error e.kind e.message, d)

def handle (d : Dispatcher) (x : Circumstances) : Request → Response × Dispatcher
  | .hello protocol _ => (Protocol.greet protocol, d)
  | .ping info => respond .instruction (d.ping info x.now)
  | .getWork info => respond .work (d.getWork info x.now)
  | .reportCurrentStatus info job state =>
    respond .report (d.reportCurrentStatus info job state x.now)
  | .reportCompleting info job result => respond .report (d.reportCompleting info job result x.now)
  | .reportCompleted info job result => respond .report (d.reportCompleted info job result x.now)
  | .isIgnored job => (.ignored (d.isIgnored job), d)
  | .getCookie identity location =>
    (.cookie x.cookie, d.getCookie identity location x.cookie x.now)
  | .payloadManifest => respond .manifest (d.payloadManifest x.payloadFile)
  | .fetchPayload => respond (fun p => .payload p.1 p.2) (d.fetchPayload x.payloadFile)
  | .triggerPipeline pipeline user options =>
    let (outcome, d) := d.trigger (.manual pipeline user options) x.now
    (.schedule outcome, d)
  | .materialChanged pipeline revisions =>
    let (outcome, d) := d.trigger (.material pipeline revisions) x.now
    (.schedule outcome, d)
  | .cancelJob id => respond (fun _ => .ok) (d.cancelJob id x.now)
  | .rescheduleJob id => respond (fun _ => .ok) (d.rescheduleJob id x.now)
  | .approveAgent uuid => respond (fun _ => .ok) (d.approveAgent uuid x.now)
  | .disableAgent uuid => respond (fun _ => .ok) (d.disableAgent uuid x.now)
  | .listAgents => (.agents d.listAgents, d)
  | .listJobs all => (.jobs (d.listJobs all), d)
  | .status =>
    let s := d.status
    (.status x.uptime s.agents.toUInt64 s.activeJobs.toUInt64 s.rejections, d)

/--
Serves one connection. The bytes of the response, unless no request came or the response is longer
than a message may be.
-/
def serve (d : Dispatcher) (x : Circumstances) (received : Stream) : Option Bytes × Dispatcher :=
  match received.readRequest with
  | .ok (.ok request, _) =>
    let (response, d) := d.handle x request
    (response.frame.toOption, d)
  | _ => (none, d)

end Dispatcher

end BuildDispatch
