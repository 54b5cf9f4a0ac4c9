import BuildDispatch.Json.Text
import BuildDispatch.Message.Frame
import BuildDispatch.Message.Request
import BuildDispatch.Message.Response

/-! One request and one response over a connection. -/
namespace BuildDispatch

open Data

def decodeMessage {α : Type} (format : Format α) (message : Bytes) : Except WireError α :=
  match Json.decode format message with
  | .ok a => .ok a
  | .error e => .error (.json e)

/-- The next request of a stream. A message that is no request is used up all the same. -/
def Stream.readRequest (s : Stream) : Except WireError (Except WireError Request × Stream) := do
  let (message, rest) ← Frame.read s
  return (decodeMessage Request.form message, rest)

def Response.frame (r : Response) : Except WireError Bytes := Frame.write (Json.encode form r)

def Request.frame (r : Request) : Except WireError Bytes := Frame.write (Json.encode form r)

/-- What a caller gets: the bytes that went out, and the response that came back. -/
structure Exchange where
  sent : Bytes
  response : Except WireError Response

/-- Sends a request and takes the response from what the peer sends back. -/
def Request.call (r : Request) (reply : Stream) : Exchange :=
  match r.frame with
  | .error e => ⟨[], .error e⟩
  | .ok sent =>
    ⟨sent, do
      let (message, _) ← Frame.read reply
      decodeMessage Response.form message⟩

end BuildDispatch
