/-! Spans of time, in nanoseconds. -/
namespace BuildDispatch

/-- The spans of time that whole seconds of 64 bits and nanoseconds can tell are below this. -/
def durationLimit : Nat := UInt64.size * 1000000000

structure Duration where
  nanos : Nat
  limited : nanos < durationLimit
  deriving DecidableEq, Repr

namespace Duration

def ofMillis (n : UInt64) : Duration where
  nanos := n.toNat * 1000000
  limited := by
    have small := n.toNat_lt_size
    unfold durationLimit
    omega

def ofSecs (n : UInt32) : Duration where
  nanos := n.toNat * 1000000000
  limited := by
    have small := n.toNat_lt_size
    have wider : UInt32.size ≤ UInt64.size := by decide
    unfold durationLimit
    omega

/-- The whole milliseconds of a span, as far as 64 bits can tell them. -/
def wholeMillis (d : Duration) : UInt64 := .ofNat (min (d.nanos / 1000000) (UInt64.size - 1))

/-- So many times as long, as far as that can be told. -/
def times? (d : Duration) (n : Nat) : Option Duration :=
  if h : d.nanos * n < durationLimit then some ⟨d.nanos * n, h⟩ else none

end Duration

end BuildDispatch
