import BuildDispatch.Message.Call
import BuildDispatch.Proofs.Message.Frame
import BuildDispatch.Proofs.Message.Reading
import BuildDispatch.Service

/-!
Calls over connections do what the dispatcher does when it is asked directly (`Call.perform`): the
dispatcher changes in the same way, and the caller gets the same answer or is told of the same
refusal (`Call.make_eq_perform`).
-/
namespace BuildDispatch

/-! What is asked directly. -/

namespace Call

structure Refusal where
  kind : ErrorKind
  message : String
  deriving DecidableEq, Repr

variable {α β : Type}

/-- What an answer of the dispatcher means to the caller. -/
def told (f : β → α) : Dispatcher.Answer β → Except Refusal α × Dispatcher
  | (.ok b, d) => (.ok (f b), d)
  | (.error e, d) => (.error ⟨e.kind, e.message⟩, d)

/-- The operation of the dispatcher that a call stands for. -/
def perform : Call α → Dispatcher → Circumstances → Except Refusal α × Dispatcher
  | .hello, d, _ =>
    match Protocol.negotiate Protocol.newest with
    | some protocol => (.ok (protocol, Protocol.programVersion), d)
    | none => (.error ⟨.unsupportedProtocol, Protocol.unsupported Protocol.newest⟩, d)
  | .getCookie identity location, d, x =>
    (.ok x.cookie, d.getCookie identity location x.cookie x.now)
  | .ping info, d, x => told id (d.ping info x.now)
  | .getWork info, d, x => told id (d.getWork info x.now)
  | .reportCurrentStatus info job state, d, x =>
    told id (d.reportCurrentStatus info job state x.now)
  | .reportCompleting info job result, d, x => told id (d.reportCompleting info job result x.now)
  | .reportCompleted info job result, d, x => told id (d.reportCompleted info job result x.now)
  | .isIgnored job, d, _ => (.ok (d.isIgnored job), d)
  | .payloadManifest, d, x => told id (d.payloadManifest x.payloadFile)
  | .fetchPayload, d, x => told id (d.fetchPayload x.payloadFile)
  | .triggerPipeline pipeline user options, d, x =>
    let (outcome, d) := d.trigger (.manual pipeline user options) x.now
    (.ok outcome, d)
  | .materialChanged pipeline revisions, d, x =>
    let (outcome, d) := d.trigger (.material pipeline revisions) x.now
    (.ok outcome, d)
  | .cancelJob id, d, x => told (fun _ => ()) (d.cancelJob id x.now)
  | .rescheduleJob id, d, x => told (fun _ => ()) (d.rescheduleJob id x.now)
  | .approveAgent uuid, d, x => told (fun _ => ()) (d.approveAgent uuid x.now)
  | .disableAgent uuid, d, x => told (fun _ => ()) (d.disableAgent uuid x.now)
  | .listAgents, d, _ => (.ok d.listAgents, d)
  | .listJobs all, d, _ => (.ok (d.listJobs all), d)
  | .status, d, x =>
    (.ok ⟨x.uptime, d.status.agents.toUInt64, d.status.activeJobs.toUInt64, d.status.rejections⟩, d)

def outcome : Except Refusal α → Except CallError α
  | .ok a => .ok a
  | .error r => .error (.rejected r.kind r.message)

/-! What the response means. -/

theorem answer?_error (c : Call α) (kind : ErrorKind) (message : String) :
    c.answer? (.error kind message) = none := by
  cases c <;> rfl

theorem accept_error (c : Call α) (kind : ErrorKind) (message : String) :
    c.accept (.error kind message) = .error (.rejected kind message) := by
  unfold accept
  rw [answer?_error]

theorem accept_of_answer? {c : Call α} {r : Response} {a : α} (h : c.answer? r = some a) :
    c.accept r = .ok a := by
  unfold accept
  rw [h]

/-- An answer of the dispatcher, sent as a response, means to the caller what it is. -/
theorem accept_respond {c : Call α} {ok : β → Response} {f : β → α}
    (expected : ∀ b, c.answer? (ok b) = some (f b)) (answer : Dispatcher.Answer β) :
    c.accept (Dispatcher.respond ok answer).1 = outcome (told f answer).1 ∧
      (Dispatcher.respond ok answer).2 = (told f answer).2 := by
  match answer with
  | (.ok b, d) => exact ⟨accept_of_answer? (expected b), rfl⟩
  | (.error e, d) => exact ⟨c.accept_error e.kind e.message, rfl⟩

/-- The response to a call's request means to the caller what the operation answers. -/
theorem accept_handle (c : Call α) (d : Dispatcher) (x : Circumstances) :
    c.accept (d.handle x c.request).1 = outcome (c.perform d x).1 ∧
      (d.handle x c.request).2 = (c.perform d x).2 := by
  cases c with
  | hello | getCookie | isIgnored | triggerPipeline | materialChanged | listAgents | listJobs
  | status => exact ⟨rfl, rfl⟩
  | ping | getWork | reportCurrentStatus | reportCompleting | reportCompleted | payloadManifest
  | fetchPayload | cancelJob | rescheduleJob | approveAgent | disableAgent =>
    exact accept_respond (fun _ => rfl) _

end Call

/-! What goes over the connection. -/

theorem decodeMessage_request (r : Request) :
    decodeMessage Request.form (Json.encode Request.form r) = .ok r := by
  unfold decodeMessage
  rw [r.decode_encode]

theorem decodeMessage_response (r : Response) :
    decodeMessage Response.form (Json.encode Response.form r) = .ok r := by
  unfold decodeMessage
  rw [r.decode_encode]

theorem Frame.write_ok {m sent : Bytes} (h : write m = .ok sent) :
    m.length ≤ maxMessageSize ∧ sent = framed m := by
  rcases Nat.lt_or_ge maxMessageSize m.length with large | fits
  · rw [write_eq_error large] at h
    cases h
  · rw [write_eq_ok fits] at h
    cases h
    exact ⟨fits, rfl⟩

theorem Frame.read_of_write {m sent : Bytes} (goes : write m = .ok sent) {s : Stream}
    (delivered : s.bytes = sent) : ∃ s', read s = .ok (m, s') := by
  obtain ⟨fits, rfl⟩ := write_ok goes
  have whole : s.bytes = framed m ++ [] := by rw [delivered, List.append_nil]
  obtain ⟨s', hread, -, -⟩ := read_frame fits whole
  exact ⟨s', hread⟩

theorem Dispatcher.serve_frame (d : Dispatcher) (x : Circumstances) {r : Request} {sent : Bytes}
    (goes : r.frame = .ok sent) {received : Stream} (delivered : received.bytes = sent) :
    d.serve x received = ((d.handle x r).1.frame.toOption, (d.handle x r).2) := by
  obtain ⟨s', hread⟩ := Frame.read_of_write goes delivered
  unfold serve Stream.readRequest
  simp only [hread, bind, Except.bind, pure, Except.pure, decodeMessage_request]

theorem Request.call_frame {r : Request} {sent : Bytes} (goes : r.frame = .ok sent)
    {answer : Response} {reply : Bytes} (comes : answer.frame = .ok reply) {back : Stream}
    (delivered : back.bytes = reply) : r.call back = ⟨sent, .ok answer⟩ := by
  obtain ⟨s', hread⟩ := Frame.read_of_write comes delivered
  unfold call
  simp only [goes, hread, bind, Except.bind, decodeMessage_response]

namespace Call

variable {α : Type}

/--
A call over a connection is the operation that it stands for. Where its request and the response fit
into messages and both are delivered, in whatever chunks, the dispatcher is afterwards as if it had
been asked directly, and the caller has the same answer, or is told of the same refusal.
-/
theorem make_eq_perform (c : Call α) (d : Dispatcher) (x : Circumstances)
    (requestFits : (Json.encode Request.form c.request).length ≤ maxMessageSize)
    (responseFits :
      (Json.encode Response.form (d.handle x c.request).1).length ≤ maxMessageSize) :
    ∃ sent reply : Bytes, c.request.frame = .ok sent ∧
      (∀ received : Stream, received.bytes = sent →
        d.serve x received = (some reply, (c.perform d x).2)) ∧
      ∀ back : Stream, back.bytes = reply →
        (c.request.call back).sent = sent ∧ c.make back = outcome (c.perform d x).1 := by
  obtain ⟨sent, goes⟩ : ∃ sent, c.request.frame = .ok sent := ⟨_, Frame.write_eq_ok requestFits⟩
  obtain ⟨reply, comes⟩ : ∃ reply, (d.handle x c.request).1.frame = .ok reply :=
    ⟨_, Frame.write_eq_ok responseFits⟩
  obtain ⟨told, after⟩ := c.accept_handle d x
  refine ⟨sent, reply, goes, fun received delivered => ?_, fun back delivered => ?_⟩
  · rw [d.serve_frame x goes delivered, comes, after]
    rfl
  · have exchange := Request.call_frame goes comes delivered
    refine ⟨by rw [exchange], ?_⟩
    unfold make conclude
    rw [exchange]
    exact told

/-- An operator is told that the agent is unknown, though both frames arrive in pieces. -/
theorem make_eq_perform_unknown :
    let d : Dispatcher := .new ⟨true, .unrestricted, []⟩ (.new none none)
    let x : Circumstances := ⟨5, 0, ⟨"c"⟩, none⟩
    let c := Call.approveAgent "a\n1"
    ∃ sent reply : Bytes, c.request.frame = .ok sent ∧
      d.serve x ⟨[sent.take 3, [], sent.drop 3], .staysSilent⟩ = (some reply, d) ∧
      c.make ⟨[reply.take 5, reply.drop 5], .closes⟩ =
        .error (.rejected .unknownAgent "unknown agent a\n1") := by
  intro d x c
  obtain ⟨sent, reply, goes, served, told⟩ :=
    make_eq_perform c d x (by decide +kernel) (by decide +kernel)
  have delivered := served ⟨[sent.take 3, [], sent.drop 3], .staysSilent⟩ (by simp [Stream.bytes])
  have answered := told ⟨[reply.take 5, reply.drop 5], .closes⟩ (by simp [Stream.bytes])
  exact ⟨sent, reply, goes, delivered, answered.2⟩

end Call

end BuildDispatch
