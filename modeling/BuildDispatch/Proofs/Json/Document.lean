import Mathlib.Data.List.DropRight
import BuildDispatch.Proofs.Json.Numeral
import BuildDispatch.Proofs.Json.Quoted

/-!
The grammar of JSON (`Json.Spells`), with blanks, members in any order, and each text and number in
any of its spellings. Laying out a text of the grammar gives the document that it spells
(`Json.lay_of_isText`).
-/
namespace BuildDispatch.Json

open Data

def Colon (s rest : Bytes) : Prop := ∃ blanks, s = blanks ++ 0x3A :: rest ∧
  ∀ b ∈ blanks, isBlank b = true

mutual

/-- A value, with blanks before it, is spelled by the first bytes, and the last ones are left. -/
inductive Spells : Bytes → Data.Document → Bytes → Prop where
  | blank {b : UInt8} {s rest : Bytes} {d : Data.Document} (isBlank : isBlank b = true)
      (value : Spells s d rest) : Spells (b :: s) d rest
  | null {rest : Bytes} : Spells (word "null" ++ rest) (.literal (.ok none)) rest
  | true {rest : Bytes} : Spells (word "true" ++ rest) (.literal (.ok (some Bool.true))) rest
  | false {rest : Bytes} : Spells (word "false" ++ rest) (.literal (.ok (some Bool.false))) rest
  | number {s rest : Bytes} {x : Numeral} (numeral : x.Spelled s rest)
      (bounded : x.isOverflow = Bool.false) : Spells s (.number x.number (.ok ())) rest
  | text {s rest : Bytes} {cs : List Char} (quoted : Spelled s cs rest) :
      Spells (0x22 :: s) (.ofString (String.ofList cs)) rest
  | list {s rest : Bytes} {items : Items} (elements : SpellsItems Bool.true s items rest) :
      Spells (0x5B :: s) (.list items) rest
  | object {s rest : Bytes} {ms : Members} (members : SpellsMembers Bool.true s ms rest) :
      Spells (0x7B :: s) (.object ms) rest

/-- The elements of a list, from after its bracket (`first`) or from after an element. -/
inductive SpellsItems : Bool → Bytes → Items → Bytes → Prop where
  | blank {first : Bool} {b : UInt8} {s rest : Bytes} {items : Items} (isBlank : isBlank b = true)
      (elements : SpellsItems first s items rest) : SpellsItems first (b :: s) items rest
  | close {first : Bool} {rest : Bytes} : SpellsItems first (0x5D :: rest) (.close (.ok ())) rest
  | first {s t rest : Bytes} {d : Data.Document} {items : Items} (value : Spells s d t)
      (more : SpellsItems false t items rest) : SpellsItems true s (.item d items) rest
  | next {s t rest : Bytes} {d : Data.Document} {items : Items} (value : Spells s d t)
      (more : SpellsItems false t items rest) : SpellsItems false (0x2C :: s) (.item d items) rest

/-- The members of an object, from after its brace (`first`) or from after a member. -/
inductive SpellsMembers : Bool → Bytes → Members → Bytes → Prop where
  | blank {first : Bool} {b : UInt8} {s rest : Bytes} {ms : Members} (isBlank : isBlank b = true)
      (members : SpellsMembers first s ms rest) : SpellsMembers first (b :: s) ms rest
  | close {first : Bool} {rest : Bytes} : SpellsMembers first (0x7D :: rest) (.close (.ok ())) rest
  | first {s t u v rest : Bytes} {k : String} {d : Data.Document} {ms : Members}
      (key : Spells s (.ofString k) t) (colon : Colon t u) (value : Spells u d v)
      (more : SpellsMembers false v ms rest) :
      SpellsMembers true s (.member (.ofString k) (.ok ()) d ms) rest
  | next {s t u v rest : Bytes} {k : String} {d : Data.Document} {ms : Members}
      (key : Spells s (.ofString k) t) (colon : Colon t u) (value : Spells u d v)
      (more : SpellsMembers false v ms rest) :
      SpellsMembers false (0x2C :: s) (.member (.ofString k) (.ok ()) d ms) rest

end

/-- A whole text: a value, with blanks before and after it. -/
def IsText (s : Bytes) (d : Data.Document) : Prop :=
  ∃ rest, Spells s d rest ∧ ∀ b ∈ rest, isBlank b = true

/-! What is laid out, without the proof that the rest is shorter. -/

def valueOf (s : Bytes) : Data.Document × Option Bytes :=
  ((layValue s).1, (layValue s).2.map Subtype.val)

def itemsOf (first : Bool) (s : Bytes) : Items × Option Bytes :=
  ((layItems first s).1, (layItems first s).2.map Subtype.val)

def membersOf (first : Bool) (s : Bytes) : Members × Option Bytes :=
  ((layMembers first s).1, (layMembers first s).2.map Subtype.val)

theorem map_of {s t : Bytes} (h : t.length ≤ s.length) (r : Option (Shorter t)) :
    (Shorter.of h r).map Subtype.val = r.map Subtype.val := by
  cases r with
  | none => rfl
  | some r => rfl

theorem valueOf_eq (s : Bytes) : valueOf s =
    match skipBlanks s with
    | [] => (.absent .ended, none)
    | b :: rest =>
      if b = 0x22 then ((layQuoted rest).1, (layQuoted rest).2.map Subtype.val)
      else if b = 0x5B then (.list (itemsOf true rest).1, (itemsOf true rest).2)
      else if b = 0x7B then (.object (membersOf true rest).1, (membersOf true rest).2)
      else if b = 0x6E then
        ((readLiteral none [0x75, 0x6C, 0x6C] rest).1,
          (readLiteral none [0x75, 0x6C, 0x6C] rest).2.map Subtype.val)
      else if b = 0x74 then
        ((readLiteral (some true) [0x72, 0x75, 0x65] rest).1,
          (readLiteral (some true) [0x72, 0x75, 0x65] rest).2.map Subtype.val)
      else if b = 0x66 then
        ((readLiteral (some false) [0x61, 0x6C, 0x73, 0x65] rest).1,
          (readLiteral (some false) [0x61, 0x6C, 0x73, 0x65] rest).2.map Subtype.val)
      else if b = 0x2D ∨ isDigit b then
        ((layNumeral (b :: rest)).1, (layNumeral (b :: rest)).2.map Subtype.val)
      else (.absent .malformed, none) := by
  unfold valueOf itemsOf membersOf
  rw [layValue]
  split
  case h_1 h =>
    conv_rhs => rw [h]
    rfl
  case h_2 b rest h =>
    conv_rhs => rw [h]
    dsimp only
    split_ifs
    all_goals simp only [map_of, Option.map_map, Option.map_none, Function.comp_def]

theorem itemsOf_eq (first : Bool) (s : Bytes) : itemsOf first s =
    match skipBlanks s with
    | [] => (.close (.error .ended), none)
    | b :: rest =>
      if b = 0x5D then (.close (.ok ()), some rest)
      else if first ∨ b = 0x2C then
        match valueOf (if first then b :: rest else rest) with
        | (d, none) => (.item d (.close (.error .malformed)), none)
        | (d, some t) => (.item d (itemsOf false t).1, (itemsOf false t).2)
      else (.close (.error .malformed), none) := by
  unfold valueOf itemsOf
  rw [layItems]
  split
  case h_1 h =>
    conv_rhs => rw [h]
    rfl
  case h_2 b rest h =>
    conv_rhs => rw [h]
    dsimp only
    by_cases closes : b = 0x5D
    · rw [if_pos closes, if_pos closes]
      rfl
    rw [if_neg closes, if_neg closes]
    by_cases goesOn : first ∨ b = 0x2C
    · rw [if_pos goesOn, if_pos goesOn]
      rcases layValue (if first then b :: rest else rest) with ⟨d, _ | r⟩
      · rfl
      · simp only [map_of, Option.map_some]
    · rw [if_neg goesOn, if_neg goesOn]
      rfl

theorem membersOf_eq (first : Bool) (s : Bytes) : membersOf first s =
    match skipBlanks s with
    | [] => (.close (.error .ended), none)
    | b :: rest =>
      if b = 0x7D then (.close (.ok ()), some rest)
      else if first ∨ b = 0x2C then
        match valueOf (if first then b :: rest else rest) with
        | (key, some t) =>
          match skipBlanks t with
          | [] => (.member key (.error .ended) (.absent .ended) (.close (.error .ended)), none)
          | c :: tail =>
            if c = 0x3A then
              match valueOf tail with
              | (d, none) => (.member key (.ok ()) d (.close (.error .malformed)), none)
              | (d, some u) => (.member key (.ok ()) d (membersOf false u).1, (membersOf false u).2)
            else
              (.member key (.error .malformed) (.absent .malformed) (.close (.error .malformed)),
                none)
        | (key, none) =>
          (.member key (.error .malformed) (.absent .malformed) (.close (.error .malformed)), none)
      else (.close (.error .malformed), none) := by
  unfold valueOf membersOf
  rw [layMembers]
  split
  case h_1 h =>
    conv_rhs => rw [h]
    rfl
  case h_2 b rest h =>
    conv_rhs => rw [h]
    dsimp only
    by_cases closes : b = 0x7D
    · rw [if_pos closes, if_pos closes]
      rfl
    rw [if_neg closes, if_neg closes]
    by_cases goesOn : first ∨ b = 0x2C
    · rw [if_pos goesOn, if_pos goesOn]
      rcases layValue (if first then b :: rest else rest) with ⟨key, _ | r⟩
      · rfl
      dsimp only [Option.map_some]
      split
      case h_1 hc =>
        conv_rhs => rw [hc]
        rfl
      case h_2 c tail hc =>
        conv_rhs => rw [hc]
        dsimp only
        by_cases colon : c = 0x3A
        · rw [if_pos colon, if_pos colon]
          rcases layValue tail with ⟨d, _ | r'⟩
          · rfl
          · simp only [map_of, Option.map_some]
        · rw [if_neg colon, if_neg colon]
          rfl
    · rw [if_neg goesOn, if_neg goesOn]
      rfl

/-! Texts of the grammar. -/

theorem skipBlanks_blank {b : UInt8} (h : isBlank b = true) (s : Bytes) :
    skipBlanks (b :: s) = skipBlanks s :=
  List.dropWhile_cons_of_pos h

theorem skipBlanks_other {b : UInt8} (h : isBlank b = false) (s : Bytes) :
    skipBlanks (b :: s) = b :: s :=
  List.dropWhile_cons_of_neg (by simp [h])

theorem skipBlanks_append {blanks : Bytes} (h : ∀ b ∈ blanks, isBlank b = true) (s : Bytes) :
    skipBlanks (blanks ++ s) = skipBlanks s :=
  List.dropWhile_append_of_pos h

theorem skipBlanks_skipBlanks (s : Bytes) : skipBlanks (skipBlanks s) = skipBlanks s :=
  List.dropWhile_idempotent _ s

theorem valueOf_skipBlanks (s : Bytes) : valueOf (skipBlanks s) = valueOf s := by
  rw [valueOf_eq, valueOf_eq s, skipBlanks_skipBlanks]

theorem isBlank_of_isDigit {b : UInt8} (h : b = 0x2D ∨ isDigit b = true) : isBlank b = false := by
  simp only [isDigit, isBlank, Bool.and_eq_true, decide_eq_true_eq, Bool.or_eq_false_iff,
    decide_eq_false_iff_not] at *
  grind

theorem valueOf_numeral {b : UInt8} (h : b = 0x2D ∨ isDigit b = true) (s : Bytes) :
    valueOf (b :: s) =
      ((layNumeral (b :: s)).1, (layNumeral (b :: s)).2.map Subtype.val) := by
  have other : ∀ c : UInt8, c ≠ 0x2D → isDigit c = false → b ≠ c := by
    rintro c hc noDigit rfl
    rcases h with rfl | digit
    · exact hc rfl
    · rw [noDigit] at digit
      cases digit
  rw [valueOf_eq, skipBlanks_other (isBlank_of_isDigit h)]
  dsimp only
  rw [if_neg (other 0x22 (by decide) rfl), if_neg (other 0x5B (by decide) rfl),
    if_neg (other 0x7B (by decide) rfl), if_neg (other 0x6E (by decide) rfl),
    if_neg (other 0x74 (by decide) rfl), if_neg (other 0x66 (by decide) rfl), if_pos h]

theorem layNumeral_eq {s rest : Bytes} {x : Numeral} (h : readNumeral s = .ok (x, rest)) :
    ((layNumeral s).1, (layNumeral s).2.map Subtype.val) =
      (.number x.number (.ok ()), some rest) := by
  unfold layNumeral
  split
  case h_1 h' =>
    rw [h] at h'
    cases h'
    rfl
  case h_2 h' =>
    rw [h] at h'
    cases h'

theorem layQuoted_eq {s rest : Bytes} {cs : List Char} (h : Spelled s cs rest) :
    ((layQuoted s).1, (layQuoted s).2.map Subtype.val) =
      (.ofString (String.ofList cs), some rest) := by
  unfold layQuoted
  split
  case h_1 h' =>
    rw [h.passQuoted_eq] at h'
    cases h'
    rw [h.readQuoted_eq]
    rfl
  case h_2 h' =>
    rw [h.passQuoted_eq] at h'
    cases h'

theorem readWord_append (word s : Bytes) : readWord word (word ++ s) = .ok s := by
  induction word with
  | nil => rfl
  | cons b word ih => rw [List.cons_append, readWord, if_pos rfl, ih]

theorem readLiteral_eq (value : Option Bool) (word s : Bytes) :
    ((readLiteral value word (word ++ s)).1,
        (readLiteral value word (word ++ s)).2.map Subtype.val) =
      (.literal (.ok value), some s) := by
  unfold readLiteral
  split
  case h_1 h' =>
    rw [readWord_append] at h'
    cases h'
    rfl
  case h_2 h' =>
    rw [readWord_append] at h'
    cases h'

/-- What may follow a value, and a blank, end a numeral. -/
theorem endsNumeral_cons {b : UInt8}
    (h : isBlank b = true ∨ b = 0x2C ∨ b = 0x3A ∨ b = 0x5D ∨ b = 0x7D) (s : Bytes) :
    EndsNumeral (b :: s) := by
  rintro c hc
  cases hc
  simp only [isBlank, Bool.or_eq_true, decide_eq_true_eq] at h
  rcases h with (((rfl | rfl) | rfl) | rfl) | rfl | rfl | rfl | rfl
  all_goals decide

theorem SpellsItems.endsNumeral {s rest : Bytes} {items : Items}
    (h : SpellsItems false s items rest) : EndsNumeral s := by
  cases h with
  | blank isBlank _ => exact endsNumeral_cons (.inl isBlank) _
  | close => exact endsNumeral_cons (by decide) _
  | next => exact endsNumeral_cons (by decide) _

theorem SpellsMembers.endsNumeral {s rest : Bytes} {ms : Members}
    (h : SpellsMembers false s ms rest) : EndsNumeral s := by
  cases h with
  | blank isBlank _ => exact endsNumeral_cons (.inl isBlank) _
  | close => exact endsNumeral_cons (by decide) _
  | next => exact endsNumeral_cons (by decide) _

theorem Colon.endsNumeral {s rest : Bytes} (h : Colon s rest) : EndsNumeral s := by
  obtain ⟨blanks, rfl, areBlank⟩ := h
  cases blanks with
  | nil => exact endsNumeral_cons (by decide) _
  | cons b blanks => exact endsNumeral_cons (.inl (areBlank b List.mem_cons_self)) _

theorem Colon.skipBlanks_eq {s rest : Bytes} (h : Colon s rest) :
    skipBlanks s = 0x3A :: rest := by
  obtain ⟨blanks, rfl, areBlank⟩ := h
  rw [skipBlanks_append areBlank, skipBlanks_other rfl]

theorem Numeral.Spelled.starts {s rest : Bytes} {x : Numeral} (h : x.Spelled s rest) :
    ∃ b t, s = b :: t ∧ (b = 0x2D ∨ isDigit b = true) := by
  obtain ⟨t, -, hs, -⟩ := h.parts
  cases hx : x.negative with
  | true =>
    rw [hx] at hs
    exact ⟨0x2D, x.digits ++ t, hs, .inl rfl⟩
  | false =>
    rw [hx] at hs
    obtain ⟨b, tail, hdigits, digit⟩ := isDigit_first h.isDigits t
    exact ⟨b, tail, by rw [hs, ← hdigits]; rfl, .inr digit⟩

theorem Spells.starts {s rest : Bytes} {d : Data.Document} :
    Spells s d rest → ∃ b t, skipBlanks s = b :: t ∧ b ≠ 0x5D ∧ b ≠ 0x7D
  | .blank isBlank value => by
    rw [skipBlanks_blank isBlank]
    exact value.starts
  | .null => ⟨0x6E, _, skipBlanks_other rfl _, by decide, by decide⟩
  | .true => ⟨0x74, _, skipBlanks_other rfl _, by decide, by decide⟩
  | .false => ⟨0x66, _, skipBlanks_other rfl _, by decide, by decide⟩
  | .number numeral _ => by
    obtain ⟨b, t, rfl, first⟩ := numeral.starts
    refine ⟨b, t, skipBlanks_other (isBlank_of_isDigit first) t, ?_, ?_⟩
    · rintro rfl
      revert first
      decide
    · rintro rfl
      revert first
      decide
  | .text _ => ⟨0x22, _, skipBlanks_other rfl _, by decide, by decide⟩
  | .list _ => ⟨0x5B, _, skipBlanks_other rfl _, by decide, by decide⟩
  | .object _ => ⟨0x7B, _, skipBlanks_other rfl _, by decide, by decide⟩

mutual

theorem Spells.valueOf_eq {s rest : Bytes} {d : Data.Document} :
    Spells s d rest → EndsNumeral rest → valueOf s = (d, some rest)
  | .blank isBlank value, stop => by
    rw [← valueOf_skipBlanks, skipBlanks_blank isBlank, valueOf_skipBlanks]
    exact value.valueOf_eq stop
  | .null, _ => by
    rw [Json.valueOf_eq]
    exact readLiteral_eq none _ rest
  | .true, _ => by
    rw [Json.valueOf_eq]
    exact readLiteral_eq (some true) _ rest
  | .false, _ => by
    rw [Json.valueOf_eq]
    exact readLiteral_eq (some false) _ rest
  | .number numeral _, stop => by
    obtain ⟨b, t, rfl, first⟩ := numeral.starts
    rw [valueOf_numeral first, layNumeral_eq (numeral.readNumeral_eq stop)]
  | .text quoted, _ => by
    rw [Json.valueOf_eq, skipBlanks_other rfl]
    exact layQuoted_eq quoted
  | .list elements, _ => by
    rw [Json.valueOf_eq, skipBlanks_other rfl]
    dsimp only
    rw [if_neg (by decide), if_pos rfl, elements.itemsOf_eq]
  | .object members, _ => by
    rw [Json.valueOf_eq, skipBlanks_other rfl]
    dsimp only
    rw [if_neg (by decide), if_neg (by decide), if_pos rfl, members.membersOf_eq]

theorem SpellsItems.itemsOf_eq {first : Bool} {s rest : Bytes} {items : Items} :
    SpellsItems first s items rest → itemsOf first s = (items, some rest)
  | .blank isBlank elements => by
    have here := elements.itemsOf_eq
    rw [Json.itemsOf_eq] at here ⊢
    rwa [skipBlanks_blank isBlank]
  | .close => by
    rw [Json.itemsOf_eq, skipBlanks_other rfl]
    rfl
  | .first value more => by
    obtain ⟨b, t, hs, opens, -⟩ := value.starts
    have head := value.valueOf_eq more.endsNumeral
    rw [Json.itemsOf_eq, hs]
    dsimp only
    rw [if_neg opens, if_pos (.inl rfl), if_pos rfl, ← hs, valueOf_skipBlanks, head]
    dsimp only
    rw [more.itemsOf_eq]
  | .next value more => by
    have head := value.valueOf_eq more.endsNumeral
    rw [Json.itemsOf_eq, skipBlanks_other rfl]
    dsimp only
    rw [if_neg (by decide), if_pos (.inr rfl), if_neg (by decide), head]
    dsimp only
    rw [more.itemsOf_eq]

theorem SpellsMembers.membersOf_eq {first : Bool} {s rest : Bytes} {ms : Members} :
    SpellsMembers first s ms rest → membersOf first s = (ms, some rest)
  | .blank isBlank members => by
    have here := members.membersOf_eq
    rw [Json.membersOf_eq] at here ⊢
    rwa [skipBlanks_blank isBlank]
  | .close => by
    rw [Json.membersOf_eq, skipBlanks_other rfl]
    rfl
  | .first key colon value more => by
    obtain ⟨b, t, hs, -, opens⟩ := key.starts
    have name := key.valueOf_eq colon.endsNumeral
    have found := value.valueOf_eq more.endsNumeral
    rw [Json.membersOf_eq, hs]
    dsimp only
    rw [if_neg opens, if_pos (.inl rfl), if_pos rfl, ← hs, valueOf_skipBlanks, name]
    dsimp only
    rw [colon.skipBlanks_eq]
    dsimp only
    rw [if_pos rfl, found]
    dsimp only
    rw [more.membersOf_eq]
  | .next key colon value more => by
    have name := key.valueOf_eq colon.endsNumeral
    have found := value.valueOf_eq more.endsNumeral
    rw [Json.membersOf_eq, skipBlanks_other rfl]
    dsimp only
    rw [if_neg (by decide), if_pos (.inr rfl), if_neg (by decide), name]
    dsimp only
    rw [colon.skipBlanks_eq]
    dsimp only
    rw [if_pos rfl, found]
    dsimp only
    rw [more.membersOf_eq]

end

theorem endsNumeral_blank {s : Bytes} (h : ∀ b ∈ s, isBlank b = true) : EndsNumeral s := by
  cases s with
  | nil => rintro b ⟨⟩
  | cons b s => exact endsNumeral_cons (.inl (h b List.mem_cons_self)) s

/-- A text of the grammar is laid out as the document that it spells, and nothing follows. -/
theorem lay_of_isText {s : Bytes} {d : Data.Document} (h : IsText s d) : lay s = (d, .ok ()) := by
  obtain ⟨rest, value, blank⟩ := h
  have found := value.valueOf_eq (endsNumeral_blank blank)
  unfold valueOf at found
  unfold lay
  rcases laid : layValue s with ⟨d', _ | r⟩
  · rw [laid] at found
    cases found
  · rw [laid] at found
    cases found
    have ended : skipBlanks r.1 = [] := List.dropWhile_eq_nil_iff.2 blank
    dsimp only
    rw [if_pos ended]

end BuildDispatch.Json
