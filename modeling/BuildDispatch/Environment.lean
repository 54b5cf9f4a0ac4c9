import BuildDispatch.Duration
import BuildDispatch.Table
import BuildDispatch.Text.Decimal

/-! Variables of the environment, from which programs take their settings. -/
namespace BuildDispatch

abbrev Environment := Table String String

namespace Environment

def text? (e : Environment) (name : String) : Option String := (e.get? name).filter (· ≠ "")

/-- A variable that holds a count of 32 bits, or what holds without it. -/
def count (e : Environment) (name : String) (default : UInt32) : UInt32 :=
  ((e.get? name).bind Text.word32?).getD default

/-- A variable that holds a time in milliseconds, of 64 bits, or what holds without it. -/
def millis (e : Environment) (name : String) (default : Nat) : Nat :=
  (((e.get? name).bind Text.word64?).map (·.toNat)).getD default

/-- A time in milliseconds that is multiplied later on. -/
def duration (e : Environment) (name : String) (default : Duration) : Duration :=
  (((e.get? name).bind Text.word64?).map Duration.ofMillis).getD default

def seconds (n : Nat) : Nat := n * 1000

def minutes (n : Nat) : Nat := seconds (n * 60)

end Environment

end BuildDispatch
