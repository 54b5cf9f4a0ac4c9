import BuildDispatch.Bytes
import BuildDispatch.Data.Document
import BuildDispatch.Toml.Moment

/-! Truth values, numbers and moments of TOML: values that are spelled as one word. -/
namespace BuildDispatch.Toml

open Data (Document Members Number)
open Text (ofDecimal?)

def isWordChar (c : Char) : Bool :=
  c.isAlphanum || c = '_' || c = '+' || c = '-' || c = '.' || c = ':'

/-- Digits without the single underscores that may stand between them. -/
def ungroup? (isDigit : Char → Bool) : List Char → Option (List Char)
  | [] => none
  | [c] => if isDigit c then some [c] else none
  | c :: '_' :: rest => if isDigit c then (ungroup? isDigit rest).map (c :: ·) else none
  | c :: rest => if isDigit c then (ungroup? isDigit rest).map (c :: ·) else none

def ofBase (base : Nat) (digits : List Char) : Nat :=
  digits.foldl (fun n c => n * base + (Bytes.hexValue? c.toNat.toUInt8).getD 0) 0

def isBaseDigit (base : Nat) (c : Char) : Bool :=
  c.toNat < 0x80 &&
    match Bytes.hexValue? c.toNat.toUInt8 with
    | some d => d < base
    | none => false

def readSign : List Char → Bool × List Char
  | '+' :: rest => (false, rest)
  | '-' :: rest => (true, rest)
  | s => (false, s)

/-- Decimal digits, of which the first is zero only if it is alone. -/
def whole? (s : List Char) : Option Nat := do
  let digits ← ungroup? Char.isDigit s
  if digits.head? = some '0' ∧ 1 < digits.length then none else ofDecimal? digits

/-- Integers have 64 bits with a sign. -/
def integerBound : Nat := 0x8000000000000000

def integer? (word : List Char) : Option Int :=
  let based (base : Nat) (s : List Char) : Option Int := do
    let n := ofBase base (← ungroup? (isBaseDigit base) s)
    if n < integerBound then return n else none
  match word with
  | '0' :: 'x' :: s => based 16 s
  | '0' :: 'o' :: s => based 8 s
  | '0' :: 'b' :: s => based 2 s
  | _ => do
    let (negative, s) := readSign word
    let n ← whole? s
    if negative then if n ≤ integerBound then return -n else none
    else if n < integerBound then return n else none

/-- Whether digits, with the point `shift` places to the right of them, round to infinity. -/
def overflows (digits : Nat) (shift : Int) : Bool :=
  let limit := (1 <<< 1024) - (1 <<< 970)
  let size := (Text.decimalDigits digits).length + shift
  if digits = 0 ∨ size < 300 then false
  else if 400 < size then true
  else if shift < 0 then limit * Nat.pow 10 shift.natAbs ≤ digits
  else limit ≤ digits * Nat.pow 10 shift.toNat

structure Fractional where
  negative : Bool
  whole : Nat
  fraction : List Char
  exponent : Int

namespace Fractional

def readExponent : List Char → Option Int
  | [] => some 0
  | e :: s =>
    if e = 'e' ∨ e = 'E' then do
      let (negative, s) := readSign s
      let n ← ofDecimal? (← ungroup? Char.isDigit s)
      return if negative then -n else n
    else none

def ofWord? (word : List Char) : Option Fractional := do
  let (negative, s) := readSign word
  let isPart (c : Char) : Bool := c.isDigit || c = '_'
  let whole ← whole? (s.takeWhile isPart)
  match s.dropWhile isPart with
  | [] => none
  | '.' :: s =>
    let fraction ← ungroup? Char.isDigit (s.takeWhile isPart)
    return { negative, whole, fraction, exponent := ← readExponent (s.dropWhile isPart) }
  | s => return { negative, whole, fraction := [], exponent := ← readExponent s }

/-- A number may be too large only below zero. -/
def isAllowed (x : Fractional) : Bool :=
  x.negative ||
    !overflows (x.whole * Nat.pow 10 x.fraction.length + (ofDecimal? x.fraction).getD 0)
      (x.exponent - x.fraction.length)

end Fractional

/-- The name under which a moment stands where a table is wanted. -/
def momentKey : String := "$__toml_private_datetime"

/-- A moment is a table of its own. -/
def Moment.document (m : Moment) : Document :=
  .object (.ofList [(momentKey, .ofString m.text)])

def numberOfInteger (n : Int) : Number :=
  match n with
  | .ofNat n => .whole n.toUInt64
  | .negSucc n => .real s!"-{Text.decimal (n + 1)}"

def scalar? (word : List Char) : Option Document :=
  let spelled := String.ofList word
  let number (x : Number) : Document := .number (.ok x) (.ok ())
  if spelled = "true" then some (.literal (.ok (some true)))
  else if spelled = "false" then some (.literal (.ok (some false)))
  else if (readSign word).2 = "inf".toList ∨ (readSign word).2 = "nan".toList then
    some (number (.real spelled))
  else
    match Moment.ofWord? word with
    | some m => some m.document
    | none =>
      match integer? word with
      | some n => some (number (numberOfInteger n))
      | none =>
        match Fractional.ofWord? word with
        | some x => if x.isAllowed then some (number (.real spelled)) else none
        | none => none

/-- The value of the word that a text starts with. A date may go on after one blank. -/
def readScalar (s : List Char) : Option (Document × List Char) :=
  let word := s.takeWhile isWordChar
  let rest := s.dropWhile isWordChar
  match rest with
  | ' ' :: c :: more =>
    if Moment.isDate word ∧ c.isDigit then
      (scalar? (word ++ ' ' :: (c :: more).takeWhile isWordChar)).map
        (·, (c :: more).dropWhile isWordChar)
    else (scalar? word).map (·, rest)
  | _ => (scalar? word).map (·, rest)

end BuildDispatch.Toml
