import BuildDispatch.Bytes
import BuildDispatch.Data.Document

/-! Numerals of JSON, and the numbers they spell. -/
namespace BuildDispatch.Json

open Data (Fault Number)

def isDigit (b : UInt8) : Bool := 0x30 ≤ b && b ≤ 0x39

def ofDigits (digits : Bytes) : Nat :=
  digits.foldl (fun n b => n * 10 + (b.toNat - 0x30)) 0

/-- A numeral, in the parts of its grammar. -/
structure Numeral where
  negative : Bool
  digits : Bytes
  fraction : Option Bytes
  /-- The sign of the exponent, negative or not, and its digits. -/
  exponent : Option (Bool × Bytes)

/-- One digit or more. A text that ends instead has ended early. -/
def readDigits (s : Bytes) : Except Fault (Bytes × Bytes) :=
  match s with
  | [] => .error .ended
  | b :: _ =>
    if isDigit b then .ok (s.takeWhile isDigit, s.dropWhile isDigit) else .error .malformed

/-- The digits before the point, of which the first is zero only if it is alone. -/
def readWhole (s : Bytes) : Except Fault (Bytes × Bytes) := do
  let (digits, rest) ← readDigits s
  match digits with
  | 0x30 :: _ :: _ => .error .malformed
  | _ => return (digits, rest)

def readFraction : Bytes → Except Fault (Option Bytes × Bytes)
  | 0x2E :: rest => do
    let (digits, rest) ← readDigits rest
    return (some digits, rest)
  | s => .ok (none, s)

def readExponent : Bytes → Except Fault (Option (Bool × Bytes) × Bytes)
  | b :: rest =>
    if b = 0x65 ∨ b = 0x45 then do
      let (negative, rest) :=
        match rest with
        | 0x2B :: rest => (false, rest)
        | 0x2D :: rest => (true, rest)
        | _ => (false, rest)
      let (digits, rest) ← readDigits rest
      return (some (negative, digits), rest)
    else .ok (none, b :: rest)
  | [] => .ok (none, [])

def readNumeral (s : Bytes) : Except Fault (Numeral × Bytes) := do
  let (negative, s) :=
    match s with
    | 0x2D :: rest => (true, rest)
    | _ => (false, s)
  let (digits, s) ← readWhole s
  let (fraction, s) ← readFraction s
  let (exponent, s) ← readExponent s
  return ({ negative, digits, fraction, exponent }, s)

/-- The nearest number of 53 binary places; a tie goes to the even one. -/
def roundBinary (n : Nat) : Nat :=
  let shift := n.log2 + 1 - 53
  if shift = 0 then n
  else
    let low := n % (1 <<< shift)
    let high := n >>> shift
    let half := 1 <<< (shift - 1)
    (if half < low ∨ low = half ∧ high % 2 = 1 then high + 1 else high) <<< shift

def significandLimit : Nat := UInt64.size - 1

/-- Takes digits while the significand stays exact; gives it and how many digits are left over. -/
def takeSignificand (n : Nat) : Bytes → Nat × Nat
  | [] => (n, 0)
  | b :: rest =>
    let m := n * 10 + (b.toNat - 0x30)
    if significandLimit < m then (n, rest.length + 1) else takeSignificand m rest

/--
Whether a number is too large for binary floating point of 64 bits. It is computed as the rounded
significand times the rounded power of ten.
-/
def Numeral.isOverflow (x : Numeral) : Bool :=
  let (whole, beyond) := takeSignificand 0 x.digits
  let places := x.fraction.getD []
  let (significand, left) := takeSignificand whole places
  let shift : Int :=
    match x.exponent with
    | none => 0
    | some (negative, digits) => if negative then -(ofDigits digits : Int) else ofDigits digits
  let power : Int := beyond - ((places.length : Int) - left) + shift
  if power < 0 then false
  else if 308 < power then significand ≠ 0
  else (1 <<< 1024) - (1 <<< 970) ≤ roundBinary significand * roundBinary (Nat.pow 10 power.toNat)

def Numeral.text (x : Numeral) : String :=
  let ascii (b : Bytes) : String := String.ofList (b.map fun b => Char.ofNat b.toNat)
  (if x.negative then "-" else "") ++ ascii x.digits ++
    (match x.fraction with
      | none => ""
      | some digits => "." ++ ascii digits) ++
    match x.exponent with
    | none => ""
    | some (negative, digits) => (if negative then "e-" else "e") ++ ascii digits

def Numeral.number (x : Numeral) : Except Fault Number :=
  match x with
  | ⟨false, digits, none, none⟩ =>
    if ofDigits digits ≤ significandLimit then .ok (.whole (ofDigits digits).toUInt64)
    else if x.isOverflow then .error .malformed
    else .ok (.real x.text)
  | _ => if x.isOverflow then .error .malformed else .ok (.real x.text)

theorem readDigits_length {s digits rest : Bytes} (h : readDigits s = .ok (digits, rest)) :
    rest.length < s.length := by
  unfold readDigits at h
  split at h
  · cases h
  · rename_i b tail
    split at h
    · rename_i hb
      simp only [Except.ok.injEq, Prod.mk.injEq] at h
      rw [← h.2, List.dropWhile_cons_of_pos hb]
      exact Nat.lt_succ_of_le (List.dropWhile_sublist _).length_le
    · cases h

theorem readWhole_length {s digits rest : Bytes} (h : readWhole s = .ok (digits, rest)) :
    rest.length < s.length := by
  unfold readWhole at h
  cases hs : readDigits s with
  | error f => simp [hs, bind, Except.bind] at h
  | ok p =>
    obtain ⟨ds, tail⟩ := p
    have := readDigits_length hs
    simp only [hs, bind, Except.bind] at h
    split at h
    · cases h
    · simp only [pure, Except.pure, Except.ok.injEq, Prod.mk.injEq] at h
      simpa [← h.2]

theorem readFraction_length {s rest : Bytes} {f : Option Bytes}
    (h : readFraction s = .ok (f, rest)) : rest.length ≤ s.length := by
  unfold readFraction at h
  split at h
  · rename_i tail
    cases hs : readDigits tail with
    | error f => simp [hs, bind, Except.bind] at h
    | ok p =>
      obtain ⟨ds, tail'⟩ := p
      have := readDigits_length hs
      simp only [hs, bind, Except.bind, pure, Except.pure, Except.ok.injEq, Prod.mk.injEq] at h
      simp [← h.2]; omega
  · simp only [Except.ok.injEq, Prod.mk.injEq] at h
    simp [← h.2]

theorem readExponent_length {s rest : Bytes} {e : Option (Bool × Bytes)}
    (h : readExponent s = .ok (e, rest)) : rest.length ≤ s.length := by
  unfold readExponent at h
  split at h
  · rename_i b tail
    split at h
    · split at h
      all_goals
        rename_i hsign
        split at hsign <;> cases hsign <;>
        · simp only [bind, Except.bind] at h
          split at h
          · cases h
          · rename_i p hp
            obtain ⟨ds, tail'⟩ := p
            have := readDigits_length hp
            simp only [pure, Except.pure, Except.ok.injEq, Prod.mk.injEq] at h
            simp [← h.2] at *; omega
    · simp only [Except.ok.injEq, Prod.mk.injEq] at h
      simp [← h.2]
  · simp only [Except.ok.injEq, Prod.mk.injEq] at h
    simp [← h.2]

theorem readNumeral_length {s rest : Bytes} {x : Numeral} (h : readNumeral s = .ok (x, rest)) :
    rest.length < s.length := by
  unfold readNumeral at h
  split at h
  rename_i negative s' hsign
  have hs' : s'.length ≤ s.length := by
    split at hsign <;> cases hsign <;> simp
  simp only [bind, Except.bind] at h
  split at h
  · cases h
  rename_i p hp
  obtain ⟨ds, tail⟩ := p
  have h1 := readWhole_length hp
  simp only at h
  split at h
  · cases h
  rename_i q hq
  obtain ⟨f, tail'⟩ := q
  have h2 := readFraction_length hq
  simp only at h
  split at h
  · cases h
  rename_i r hr
  obtain ⟨e, tail''⟩ := r
  have h3 := readExponent_length hr
  simp only [pure, Except.pure, Except.ok.injEq, Prod.mk.injEq] at h
  rw [← h.2]
  omega

end BuildDispatch.Json
