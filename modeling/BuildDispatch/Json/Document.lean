import BuildDispatch.Json.Quoted
import BuildDispatch.Json.Numeral

/-!
JSON text laid out as a document. A step that leaves the text readable names the rest, which is
shorter; after a step that does not, nothing follows.
-/
namespace BuildDispatch.Json

open Data

def isBlank (b : UInt8) : Bool := b = 0x20 || b = 0x09 || b = 0x0A || b = 0x0D

def skipBlanks (s : Bytes) : Bytes := s.dropWhile isBlank

theorem skipBlanks_length (s : Bytes) : (skipBlanks s).length ≤ s.length :=
  (List.dropWhile_sublist _).length_le

/-- The rest of a text that has shrunk. -/
abbrev Shorter (s : Bytes) := { rest : Bytes // rest.length < s.length }

/-- A rest that is shorter than a text is shorter than one from which that text remains. -/
def Shorter.of {s t : Bytes} (h : t.length ≤ s.length) : Option (Shorter t) → Option (Shorter s) :=
  Option.map fun r => ⟨r.1, Nat.lt_of_lt_of_le r.2 h⟩

/-- The rest of `s` after a word that it starts with. -/
def readWord : (word s : Bytes) → Except Fault Bytes
  | [], s => .ok s
  | _ :: _, [] => .error .ended
  | w :: word, b :: s => if b = w then readWord word s else .error .malformed

theorem readWord_length {word s rest : Bytes} (h : readWord word s = .ok rest) :
    rest.length ≤ s.length := by
  fun_induction readWord word s with
  | case1 => cases h; simp
  | case2 => cases h
  | case3 _ _ _ ih => have := ih h; simp; omega
  | case4 => cases h

def readLiteral (value : Option Bool) (word s : Bytes) :
    Data.Document × Option { rest : Bytes // rest.length ≤ s.length } :=
  match h : readWord word s with
  | .ok rest => (.literal (.ok value), some ⟨rest, readWord_length h⟩)
  | .error why => (.literal (.error why), none)

def layQuoted (s : Bytes) : Data.Document × Option (Shorter s) :=
  match h : passQuoted s with
  | .ok rest => (.text (readQuoted s) (.ok ()), some ⟨rest, passQuoted_length h⟩)
  | .error why => (.text (readQuoted s) (.error why), none)

def layNumeral (s : Bytes) : Data.Document × Option (Shorter s) :=
  match h : readNumeral s with
  | .ok (x, rest) => (.number x.number (.ok ()), some ⟨rest, readNumeral_length h⟩)
  | .error why => (.number (.error why) (.error .malformed), none)

mutual

/-- The value that a text starts with, after blanks, and the rest of the text. -/
def layValue (s : Bytes) : Data.Document × Option (Shorter s) :=
  match h : skipBlanks s with
  | [] => (.absent .ended, none)
  | b :: rest =>
    have shorter : rest.length < s.length := by
      have := skipBlanks_length s
      simp [h] at this
      omega
    let goOn (r : Option { r : Bytes // r.length ≤ rest.length }) : Option (Shorter s) :=
      r.map fun r => ⟨r.1, Nat.lt_of_le_of_lt r.2 shorter⟩
    if b = 0x22 then
      let (d, r) := layQuoted rest
      (d, Shorter.of (Nat.le_of_lt shorter) r)
    else if b = 0x5B then
      let (items, r) := layItems true rest
      (.list items, Shorter.of (Nat.le_of_lt shorter) r)
    else if b = 0x7B then
      let (members, r) := layMembers true rest
      (.object members, Shorter.of (Nat.le_of_lt shorter) r)
    else if b = 0x6E then
      let (d, r) := readLiteral none [0x75, 0x6C, 0x6C] rest
      (d, goOn r)
    else if b = 0x74 then
      let (d, r) := readLiteral (some true) [0x72, 0x75, 0x65] rest
      (d, goOn r)
    else if b = 0x66 then
      let (d, r) := readLiteral (some false) [0x61, 0x6C, 0x73, 0x65] rest
      (d, goOn r)
    else if b = 0x2D ∨ isDigit b then
      let (d, r) := layNumeral (b :: rest)
      (d, Shorter.of (t := b :: rest) (Nat.succ_le_of_lt shorter) r)
    else (.absent .malformed, none)
termination_by (s.length, 0)

def layItems (first : Bool) (s : Bytes) : Items × Option (Shorter s) :=
  match h : skipBlanks s with
  | [] => (.close (.error .ended), none)
  | b :: rest =>
    have shorter : rest.length < s.length := by
      have := skipBlanks_length s
      simp [h] at this
      omega
    if b = 0x5D then (.close (.ok ()), some ⟨rest, shorter⟩)
    else if first ∨ b = 0x2C then
      match layValue (if first then b :: rest else rest) with
      | (d, none) => (.item d (.close (.error .malformed)), none)
      | (d, some r) =>
        have : r.1.length < s.length := by
          have := r.2
          cases first <;> simp at this <;> omega
        let (items, r') := layItems false r.1
        (.item d items, Shorter.of (Nat.le_of_lt this) r')
    else (.close (.error .malformed), none)
termination_by (s.length, 1)
decreasing_by
  · split
    · simp [Prod.lex_def]; omega
    · simp [Prod.lex_def]; omega
  · simp [Prod.lex_def]; omega

/-- The members of an object, from after its brace or from after a member. -/
def layMembers (first : Bool) (s : Bytes) : Members × Option (Shorter s) :=
  match h : skipBlanks s with
  | [] => (.close (.error .ended), none)
  | b :: rest =>
    have shorter : rest.length < s.length := by
      have := skipBlanks_length s
      simp [h] at this
      omega
    if b = 0x7D then (.close (.ok ()), some ⟨rest, shorter⟩)
    else if first ∨ b = 0x2C then
      match layValue (if first then b :: rest else rest) with
      | (key, some r) =>
        have hr : r.1.length < s.length := by
          have := r.2
          cases first <;> simp at this <;> omega
        match hc : skipBlanks r.1 with
        | [] =>
          (.member key (.error .ended) (.absent .ended) (.close (.error .ended)), none)
        | c :: tail =>
          have ht : tail.length < s.length := by
            have := skipBlanks_length r.1
            simp [hc] at this
            omega
          if c = 0x3A then
            match layValue tail with
            | (d, none) => (.member key (.ok ()) d (.close (.error .malformed)), none)
            | (d, some r') =>
              have : r'.1.length < s.length := Nat.lt_trans r'.2 ht
              let (members, r'') := layMembers false r'.1
              (.member key (.ok ()) d members, Shorter.of (Nat.le_of_lt this) r'')
          else
            (.member key (.error .malformed) (.absent .malformed) (.close (.error .malformed)),
              none)
      | (key, none) =>
        (.member key (.error .malformed) (.absent .malformed) (.close (.error .malformed)), none)
    else (.close (.error .malformed), none)
termination_by (s.length, 1)
decreasing_by
  · split
    · simp [Prod.lex_def]; omega
    · simp [Prod.lex_def]; omega
  · simp [Prod.lex_def]; omega
  · simp [Prod.lex_def]; omega

end

/-- A whole text: one value, and whether only blanks follow it. -/
def lay (s : Bytes) : Data.Document × Except Fault Unit :=
  match layValue s with
  | (d, some r) => (d, if skipBlanks r.1 = [] then .ok () else .error .malformed)
  | (d, none) => (d, .error .malformed)

end BuildDispatch.Json
