import BuildDispatch.Text.Decimal

/-! Dates and times of TOML, and the one form in which they are kept. -/
namespace BuildDispatch.Toml

open Text (padded ofDecimal?)

structure Date where
  year : Nat
  month : Nat
  day : Nat

structure Time where
  hour : Nat
  minute : Nat
  second : Nat
  /-- The digits after the point, of which nine count. -/
  fraction : List Char

/-- Where on earth a time is meant. -/
inductive Offset where
  | zulu
  | shifted (west : Bool) (hours minutes : Nat)

inductive Moment where
  | date (date : Date)
  | time (time : Time)
  | both (date : Date) (time : Time) (offset : Option Offset)

def isLeap (year : Nat) : Bool := year % 4 = 0 && (year % 100 ≠ 0 || year % 400 = 0)

def daysIn (year month : Nat) : Nat :=
  if month = 2 then if isLeap year then 29 else 28
  else if month = 4 ∨ month = 6 ∨ month = 9 ∨ month = 11 then 30
  else 31

def readDigits (n : Nat) (s : List Char) : Option (Nat × List Char) :=
  if s.length < n then none else (ofDecimal? (s.take n)).map (·, s.drop n)

def readDate (s : List Char) : Option (Date × List Char) := do
  match ← readDigits 4 s with
  | (year, '-' :: s) =>
    match ← readDigits 2 s with
    | (month, '-' :: s) =>
      let (day, s) ← readDigits 2 s
      if 1 ≤ month ∧ month ≤ 12 ∧ 1 ≤ day ∧ day ≤ daysIn year month then
        return (⟨year, month, day⟩, s)
      else none
    | _ => none
  | _ => none

/-- The digits after a point, if there is one. -/
def readFraction : List Char → Option (List Char × List Char)
  | '.' :: s =>
    let digits := s.takeWhile Char.isDigit
    if digits.isEmpty then none else some (digits, s.dropWhile Char.isDigit)
  | s => some ([], s)

def readClock (s : List Char) : Option (Nat × Nat × List Char) := do
  match ← readDigits 2 s with
  | (hour, ':' :: s) =>
    let (minute, s) ← readDigits 2 s
    if hour ≤ 23 ∧ minute ≤ 59 then return (hour, minute, s) else none
  | _ => none

/-- A time of day, in which a leap second may stand. -/
def readTime (s : List Char) : Option (Time × List Char) := do
  match ← readClock s with
  | (hour, minute, ':' :: s) =>
    let (second, s) ← readDigits 2 s
    let (fraction, s) ← readFraction s
    if second ≤ 60 then return (⟨hour, minute, second, fraction⟩, s) else none
  | _ => none

def readOffset : List Char → Option (Option Offset)
  | [] => some none
  | ['Z'] => some (some .zulu)
  | ['z'] => some (some .zulu)
  | sign :: s =>
    if sign = '+' ∨ sign = '-' then
      match readClock s with
      | some (hours, minutes, []) => some (some (.shifted (sign = '-') hours minutes))
      | _ => none
    else none

namespace Moment

def isDate (word : List Char) : Bool :=
  match readDate word with
  | some (_, []) => true
  | _ => false

def ofWord? (word : List Char) : Option Moment :=
  match readDate word with
  | some (d, []) => some (.date d)
  | some (d, c :: s) =>
    if c = 'T' ∨ c = 't' ∨ c = ' ' then do
      let (t, s) ← readTime s
      return .both d t (← readOffset s)
    else none
  | none =>
    match readTime word with
    | some (t, []) => some (.time t)
    | _ => none

def dateText (d : Date) : String := s!"{padded 4 d.year}-{padded 2 d.month}-{padded 2 d.day}"

/-- The fraction without the zeros at its end. -/
def timeText (t : Time) : String :=
  let places := ((t.fraction.take 9).reverse.dropWhile (· = '0')).reverse
  s!"{padded 2 t.hour}:{padded 2 t.minute}:{padded 2 t.second}" ++
    if places.isEmpty then "" else String.ofList ('.' :: places)

/-- The offset of nothing lies to the east. -/
def offsetText : Offset → String
  | .zulu => "Z"
  | .shifted west hours minutes =>
    let sign := if west ∧ (hours ≠ 0 ∨ minutes ≠ 0) then "-" else "+"
    s!"{sign}{padded 2 hours}:{padded 2 minutes}"

def text : Moment → String
  | .date d => dateText d
  | .time t => timeText t
  | .both d t none => s!"{dateText d}T{timeText t}"
  | .both d t (some o) => s!"{dateText d}T{timeText t}{offsetText o}"

end Moment

end BuildDispatch.Toml
