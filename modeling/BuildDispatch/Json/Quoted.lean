import BuildDispatch.Bytes
import BuildDispatch.Data.Document

/-! Quoted texts of JSON: only a quote, a backslash and control characters are escaped. -/
namespace BuildDispatch.Json

open Data (Fault)

/-- A control character is escaped by a letter if it has one, and else by its number. -/
def escape (c : Char) : Bytes :=
  if c = '"' then [0x5C, 0x22]
  else if c = '\\' then [0x5C, 0x5C]
  else if c.toNat = 0x08 then [0x5C, 0x62]
  else if c.toNat = 0x0C then [0x5C, 0x66]
  else if c = '\n' then [0x5C, 0x6E]
  else if c = '\r' then [0x5C, 0x72]
  else if c = '\t' then [0x5C, 0x74]
  else if c.toNat < 0x20 then
    [0x5C, 0x75, 0x30, 0x30] ++ Bytes.ofString (Bytes.hex [c.toNat.toUInt8])
  else String.utf8EncodeChar c

def quote (s : String) : Bytes := 0x22 :: s.toList.flatMap escape ++ [0x22]

/-- The number that four hexadecimal digits spell. Less than four bytes is an early end. -/
def hexFour : Bytes → Except Fault (Nat × Bytes)
  | a :: b :: c :: d :: rest =>
    match Bytes.hexValue? a, Bytes.hexValue? b, Bytes.hexValue? c, Bytes.hexValue? d with
    | some a, some b, some c, some d => .ok (((a * 16 + b) * 16 + c) * 16 + d, rest)
    | _, _, _, _ => .error .malformed
  | _ => .error .ended

/--
The character of a numbered escape, after its letter. A number above the basic plane is written as
two halves; neither half may stand alone.
-/
def numbered (s : Bytes) : Except Fault (Char × Bytes) := do
  let (high, rest) ← hexFour s
  if 0xDC00 ≤ high ∧ high ≤ 0xDFFF then .error .malformed
  else if high < 0xD800 ∨ 0xDBFF < high then return (Char.ofNat high, rest)
  else
    match rest with
    | [] => .error .ended
    | 0x5C :: [] => .error .ended
    | 0x5C :: 0x75 :: rest => do
      let (low, rest) ← hexFour rest
      if low < 0xDC00 ∨ 0xDFFF < low then .error .malformed
      else return (Char.ofNat (0x10000 + (high - 0xD800) * 0x400 + (low - 0xDC00)), rest)
    | _ => .error .malformed

def lettered (b : UInt8) : Option Char :=
  if b = 0x22 then some '"'
  else if b = 0x5C then some '\\'
  else if b = 0x2F then some '/'
  else if b = 0x62 then some (Char.ofNat 0x08)
  else if b = 0x66 then some (Char.ofNat 0x0C)
  else if b = 0x6E then some '\n'
  else if b = 0x72 then some '\r'
  else if b = 0x74 then some '\t'
  else none

def escaped : Bytes → Except Fault (Char × Bytes)
  | [] => .error .ended
  | b :: rest =>
    match lettered b with
    | some c => .ok (c, rest)
    | none => if b = 0x75 then numbered rest else .error .malformed

/-- Where a text goes on after an escape that is passed over: halves of a pair may stand alone. -/
def passEscaped : Bytes → Except Fault Bytes
  | [] => .error .ended
  | b :: rest =>
    match lettered b with
    | some _ => .ok rest
    | none => if b = 0x75 then (hexFour rest).map (·.2) else .error .malformed

theorem hexFour_length {s rest : Bytes} {n : Nat} (h : hexFour s = .ok (n, rest)) :
    rest.length < s.length := by
  unfold hexFour at h
  split at h
  · split at h
    · simp only [Except.ok.injEq, Prod.mk.injEq] at h
      simp [← h.2]; omega
    · cases h
  · cases h

theorem numbered_length {s rest : Bytes} {c : Char} (h : numbered s = .ok (c, rest)) :
    rest.length < s.length := by
  unfold numbered at h
  cases hs : hexFour s with
  | error f => simp [hs, bind, Except.bind] at h
  | ok p =>
    obtain ⟨high, tail⟩ := p
    have := hexFour_length hs
    simp only [hs, bind, Except.bind] at h
    split at h
    · cases h
    split at h
    · simp only [pure, Except.pure, Except.ok.injEq, Prod.mk.injEq] at h
      simpa [← h.2]
    split at h
    · cases h
    · cases h
    · rename_i tail'
      cases ht : hexFour tail' with
      | error f => simp [ht] at h
      | ok p =>
        obtain ⟨low, rest'⟩ := p
        have := hexFour_length ht
        simp only [ht] at h
        split at h
        · cases h
        · simp only [pure, Except.pure, Except.ok.injEq, Prod.mk.injEq] at h
          simp [← h.2] at *; omega
    · cases h

theorem escaped_length {s rest : Bytes} {c : Char} (h : escaped s = .ok (c, rest)) :
    rest.length < s.length := by
  unfold escaped at h
  split at h
  · cases h
  · split at h
    · simp only [Except.ok.injEq, Prod.mk.injEq] at h
      simp [← h.2]
    · split at h
      · have := numbered_length h
        simp; omega
      · cases h

theorem passEscaped_length {s rest : Bytes} (h : passEscaped s = .ok rest) :
    rest.length < s.length := by
  unfold passEscaped at h
  split at h
  · cases h
  · split at h
    · simp only [Except.ok.injEq] at h
      simp [← h]
    · split at h
      · rename_i tail _ _ _
        cases ht : hexFour tail with
        | error f => simp [ht, Except.map] at h
        | ok p =>
          obtain ⟨n, rest'⟩ := p
          have := hexFour_length ht
          simp only [ht, Except.map, Except.ok.injEq] at h
          simp [← h]; omega
      · cases h

/-- The bytes of a text, from after its opening quote; `done` holds those before, the last first. -/
def unquote (done : Bytes) : Bytes → Except Fault Bytes
  | [] => .error .ended
  | b :: rest =>
    if b = 0x22 then .ok done.reverse
    else if b = 0x5C then
      match h : escaped rest with
      | .ok (c, rest') =>
        have : rest'.length < rest.length := escaped_length h
        unquote ((String.utf8EncodeChar c).reverse ++ done) rest'
      | .error why => .error why
    else if b < 0x20 then .error .malformed
    else unquote (b :: done) rest
termination_by s => s.length

/-- Where a text goes on after a quoted one that is passed over. -/
def passQuoted : Bytes → Except Fault Bytes
  | [] => .error .ended
  | b :: rest =>
    if b = 0x22 then .ok rest
    else if b = 0x5C then
      match h : passEscaped rest with
      | .ok rest' =>
        have : rest'.length < rest.length := passEscaped_length h
        passQuoted rest'
      | .error why => .error why
    else if b < 0x20 then .error .malformed
    else passQuoted rest
termination_by s => s.length

theorem passQuoted_length {s rest : Bytes} (h : passQuoted s = .ok rest) :
    rest.length < s.length := by
  fun_induction passQuoted s with
  | case1 => cases h
  | case2 => cases h; simp
  | case3 _ _ _ _ _ ih => have := ih h; simp; omega
  | case4 => cases h
  | case5 => cases h
  | case6 _ _ _ _ _ ih => have := ih h; simp; omega

/-- The text itself, from after its opening quote: what its bytes spell must be UTF-8. -/
def readQuoted (s : Bytes) : Except Fault String := do
  match Bytes.toString? (← unquote [] s) with
  | some t => .ok t
  | none => .error .malformed

end BuildDispatch.Json
