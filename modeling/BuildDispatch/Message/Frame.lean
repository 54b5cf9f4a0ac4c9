import BuildDispatch.Data.Format
import BuildDispatch.Bytes
import BuildDispatch.Text.Decimal

/-!
Frames: a message goes out with its length before it, and is found again however the bytes were cut
up on the way.
-/
namespace BuildDispatch

inductive WireError where
  | tooLarge (size : Nat)
  | closed
  | timedOut
  | json (error : Data.ReadError)
  deriving DecidableEq, Repr

/-- The length of the longest message, which leaves room for a payload. -/
def maxMessageSize : Nat := 256 * 1024 * 1024

/-- The text of an error of transport. The kinds of a faulty message have none of their own. -/
def WireError.message : WireError → String
  | .tooLarge size =>
    s!"Message too large: {Text.decimal size} bytes (max {Text.decimal maxMessageSize})"
  | .closed => "Connection closed"
  | .timedOut => "Timed out"
  | .json _ => "JSON error"

/-- What a peer does after the bytes that it sent. -/
inductive Ending where
  | closes
  /-- The peer keeps the connection and sends no more. -/
  | staysSilent
  deriving DecidableEq, Repr

/-- What one side of a connection receives: bytes in chunks, and how they end. -/
structure Stream where
  chunks : List Bytes
  ending : Ending
  deriving DecidableEq, Repr

namespace Stream

def bytes (s : Stream) : Bytes := s.chunks.flatten

/-- The first `n` bytes of a list of chunks, and the chunks after them. -/
def splitChunks : Nat → List Bytes → Option (Bytes × List Bytes)
  | 0, chunks => some ([], chunks)
  | _ + 1, [] => none
  | n + 1, chunk :: rest =>
    if n + 1 ≤ chunk.length then some (chunk.take (n + 1), chunk.drop (n + 1) :: rest)
    else (splitChunks (n + 1 - chunk.length) rest).map fun r => (chunk ++ r.1, r.2)

/-- Exactly `n` bytes. A stream that has fewer ends as its peer ends it. -/
def receive (s : Stream) (n : Nat) : Except WireError (Bytes × Stream) :=
  match splitChunks n s.chunks, s.ending with
  | some (taken, rest), _ => .ok (taken, { s with chunks := rest })
  | none, .closes => .error .closed
  | none, .staysSilent => .error .timedOut

end Stream

namespace Frame

def write (message : Bytes) : Except WireError Bytes :=
  if maxMessageSize < message.length then .error (.tooLarge message.length)
  else .ok (Bytes.ofWord message.length.toUInt32 ++ message)

/-- The next message of a stream, and the stream after it. -/
def read (s : Stream) : Except WireError (Bytes × Stream) := do
  match ← s.receive 4 with
  | ([a, b, c, d], s) =>
    let size := (Bytes.word a b c d).toNat
    if maxMessageSize < size then .error (.tooLarge size)
    s.receive size
  | _ => .error .closed

end Frame

end BuildDispatch
