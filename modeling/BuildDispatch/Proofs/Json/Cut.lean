import BuildDispatch.Proofs.Data.Cut
import BuildDispatch.Proofs.Json.Text

/-!
The first bytes of the text of a value, and the text with other bytes after it. Wherever a compact
text is cut (`Json.IsCut`), it is laid out as a cut of its document (`Json.cuts_render`).
-/
namespace BuildDispatch.Json

open Data

def IsCut (p s : Bytes) : Prop := p <+: s ∧ p ≠ s

section

variable {p s t : Bytes} {b : UInt8}

theorem not_isCut_nil : ¬ IsCut p [] := by
  rintro ⟨isPrefix, other⟩
  exact other (List.prefix_nil.1 isPrefix)

theorem isCut_cons : IsCut p (b :: s) ↔ p = [] ∨ ∃ q, p = b :: q ∧ IsCut q s := by
  unfold IsCut
  rw [List.prefix_cons_iff]
  constructor
  · rintro ⟨rfl | ⟨q, rfl, isPrefix⟩, other⟩
    · exact .inl rfl
    · exact .inr ⟨q, rfl, isPrefix, fun same => other (congrArg _ same)⟩
  · rintro (rfl | ⟨q, rfl, isPrefix, other⟩)
    · exact ⟨.inl rfl, nofun⟩
    · exact ⟨.inr ⟨q, rfl, isPrefix⟩, fun same => other (List.cons.inj same).2⟩

theorem IsCut.length_lt (cut : IsCut p s) : p.length < s.length :=
  Nat.lt_of_le_of_ne cut.1.length_le fun same => cut.2 (cut.1.eq_of_length same)

theorem isCut_append (cut : IsCut p (s ++ t)) : IsCut p s ∨ ∃ q, p = s ++ q ∧ IsCut q t := by
  induction s generalizing p with
  | nil => exact .inr ⟨p, rfl, cut⟩
  | cons b s ih =>
    rcases isCut_cons.1 cut with rfl | ⟨q, rfl, later⟩
    · exact .inl (isCut_cons.2 (.inl rfl))
    · rcases ih later with first | ⟨r, rfl, second⟩
      · exact .inl (isCut_cons.2 (.inr ⟨q, rfl, first⟩))
      · exact .inr ⟨r, rfl, second⟩

end

/-! Quoted texts. -/

/-- A text, from after its opening quote, that ends before its closing one. -/
structure Unclosed (s : Bytes) : Prop where
  unquote : ∀ done, unquote done s = .error .ended
  passQuoted : passQuoted s = .error .ended

namespace Unclosed

variable {s t : Bytes} {c : Char}

theorem nil : Unclosed [] where
  unquote done := by rw [Json.unquote]
  passQuoted := by rw [Json.passQuoted]

theorem plain {bs : Bytes} (h : Unclosed s) (isPlain : ∀ b ∈ bs, IsPlain b) :
    Unclosed (bs ++ s) where
  unquote done := (unquote_plain isPlain done s).trans (h.unquote _)
  passQuoted := (passQuoted_plain isPlain s).trans h.passQuoted

theorem escaped (h : Unclosed t) (read : escaped s = .ok (c, t)) (passed : passEscaped s = .ok t) :
    Unclosed (0x5C :: s) where
  unquote done := (unquote_escaped read done).trans (h.unquote _)
  passQuoted := (passQuoted_escaped passed).trans h.passQuoted

/-- Also one that ends within an escape. -/
theorem of_ended (read : Json.escaped s = .error .ended) (passed : passEscaped s = .error .ended) :
    Unclosed (0x5C :: s) where
  unquote done := by
    rw [Json.unquote, if_neg (by decide), if_pos rfl]
    split
    case h_1 h => cases read.symm.trans h
    case h_2 h => exact congrArg _ (Except.error.inj (h.symm.trans read))
  passQuoted := by
    rw [Json.passQuoted, if_neg (by decide), if_pos rfl]
    split
    case h_1 h => cases passed.symm.trans h
    case h_2 h => exact congrArg _ (Except.error.inj (h.symm.trans passed))

end Unclosed

theorem length_hex_control {n : Nat} (h : n < 0x20) :
    (Bytes.ofString (Bytes.hex [n.toUInt8])).length = 2 := by
  revert h n
  decide

inductive Written (c : Char) : Bytes → Prop where
  | lettered {b : UInt8} {c' : Char} (letter : lettered b = some c') : Written c [0x5C, b]
  | numbered {x y : UInt8} (digits : hexFour [0x30, 0x30, x, y] = .ok (c.toNat, [])) :
      Written c [0x5C, 0x75, 0x30, 0x30, x, y]
  | plain {bs : Bytes} (isPlain : ∀ b ∈ bs, IsPlain b) : Written c bs

theorem written_escape (c : Char) : Written c (escape c) := by
  unfold escape
  split_ifs with h1 h2 h3 h4 h5 h6 h7 h8
  · exact .lettered rfl
  · exact .lettered rfl
  · exact .lettered rfl
  · exact .lettered rfl
  · exact .lettered rfl
  · exact .lettered rfl
  · exact .lettered rfl
  · obtain ⟨x, y, two⟩ := List.length_eq_two.1 (length_hex_control h8)
    have digits := hexFour_control h8
    rw [two] at digits ⊢
    exact .numbered digits
  · exact .plain fun b => isPlain_of_mem_utf8EncodeChar h1 h2 (Nat.not_lt.1 h8)

theorem hexFour_short {s : Bytes} (short : s.length < 4) : hexFour s = .error .ended := by
  match s, short with
  | [], _ | [_], _ | [_, _], _ | [_, _, _], _ => rfl

/-- An escape by a number that ends before its four digits do. -/
theorem unclosed_short {s : Bytes} (short : s.length < 4) : Unclosed (0x5C :: 0x75 :: s) := by
  apply Unclosed.of_ended
  · change numbered s = _
    rw [numbered, hexFour_short short]
    rfl
  · change (hexFour s).map _ = _
    rw [hexFour_short short]
    rfl

namespace Unclosed

variable {p s : Bytes}

theorem escape (h : Unclosed s) (c : Char) : Unclosed (Json.escape c ++ s) := by
  have written := written_escape c
  generalize Json.escape c = bs at written
  cases written with
  | @lettered b c' letter =>
    change Unclosed (0x5C :: b :: s)
    exact h.escaped (by rw [Json.escaped, letter]) (by rw [passEscaped, letter])
  | numbered digits =>
    have digits := hexFour_append digits s
    exact h.escaped (escaped_numbered digits) (passEscaped_numbered digits)
  | plain isPlain => exact h.plain isPlain

/-- A character that is not whole leads to the end. -/
theorem of_cut_escape {c : Char} (cut : IsCut p (Json.escape c)) : Unclosed p := by
  have written := written_escape c
  generalize Json.escape c = bs at written cut
  cases written with
  | lettered =>
    rcases isCut_cons.1 cut with rfl | ⟨q, rfl, later⟩
    · exact nil
    · rcases isCut_cons.1 later with rfl | ⟨r, rfl, last⟩
      · exact of_ended rfl rfl
      · exact absurd last not_isCut_nil
  | numbered =>
    rcases isCut_cons.1 cut with rfl | ⟨q, rfl, later⟩
    · exact nil
    · rcases isCut_cons.1 later with rfl | ⟨r, rfl, digits⟩
      · exact of_ended rfl rfl
      · exact unclosed_short digits.length_lt
  | plain isPlain =>
    have closed := nil.plain fun b hb => isPlain b (cut.1.subset hb)
    rwa [List.append_nil] at closed

theorem of_cut {cs : List Char} (cut : IsCut p (cs.flatMap Json.escape ++ [0x22])) :
    Unclosed p := by
  induction cs generalizing p with
  | nil =>
    rcases isCut_cons.1 cut with rfl | ⟨q, rfl, later⟩
    · exact nil
    · exact absurd later not_isCut_nil
  | cons c cs ih =>
    rw [List.flatMap_cons, List.append_assoc] at cut
    rcases isCut_append cut with first | ⟨q, rfl, second⟩
    · exact of_cut_escape first
    · exact (ih second).escape c

theorem layQuoted_eq (h : Unclosed s) :
    ((layQuoted s).1, (layQuoted s).2.map Subtype.val) =
      (.text (.error .ended) (.error .ended), none) := by
  have read : readQuoted s = .error .ended := by
    unfold readQuoted
    rw [h.unquote]
    rfl
  unfold layQuoted
  split
  case h_1 h' => cases h.passQuoted.symm.trans h'
  case h_2 h' =>
    cases h.passQuoted.symm.trans h'
    rw [read]
    rfl

end Unclosed

/-! Values. -/

theorem readWord_cut {p word : Bytes} (cut : IsCut p word) : readWord word p = .error .ended := by
  induction word generalizing p with
  | nil => exact absurd cut not_isCut_nil
  | cons b word ih =>
    rcases isCut_cons.1 cut with rfl | ⟨q, rfl, later⟩
    · rfl
    · rw [readWord, if_pos rfl]
      exact ih later

theorem readLiteral_cut {p word : Bytes} (value : Option Bool) (cut : IsCut p word) :
    ((readLiteral value word p).1, (readLiteral value word p).2.map Subtype.val) =
      (.literal (.error .ended), none) := by
  unfold readLiteral
  split
  case h_1 h' => cases (readWord_cut cut).symm.trans h'
  case h_2 h' =>
    cases (readWord_cut cut).symm.trans h'
    rfl

theorem decimal_of_lt {n : Nat} (small : n < 10) :
    word (Text.decimal n) = [UInt8.ofNat (0x30 + n)] := by
  rw [decimal_bytes, Text.decimalDigits, if_pos small, List.flatMap_singleton,
    utf8EncodeChar_digit small]

theorem decimal_of_le {n : Nat} (large : 10 ≤ n) :
    word (Text.decimal n) = word (Text.decimal (n / 10)) ++ [UInt8.ofNat (0x30 + n % 10)] := by
  rw [decimal_bytes, decimal_bytes, Text.decimalDigits, if_neg (Nat.not_lt.2 large),
    List.flatMap_append, List.flatMap_singleton, utf8EncodeChar_digit (Nat.mod_lt n (by decide))]

/-- The first digits of a number are those of a smaller one. -/
theorem decimal_of_prefix {p : Bytes} {n : Nat} (isPrefix : p <+: word (Text.decimal n))
    (some : p ≠ []) : ∃ m ≤ n, p = word (Text.decimal m) := by
  induction n using Nat.strongRecOn with
  | ind n ih =>
    by_cases small : n < 10
    · rw [decimal_of_lt small] at isPrefix
      rcases List.prefix_cons_iff.1 isPrefix with rfl | ⟨q, rfl, rest⟩
      · exact absurd rfl some
      · rw [List.prefix_nil.1 rest]
        exact ⟨n, Nat.le_refl n, (decimal_of_lt small).symm⟩
    · have large := Nat.not_lt.1 small
      rw [decimal_of_le large] at isPrefix
      rcases List.prefix_concat_iff.1 isPrefix with whole | part
      · exact ⟨n, Nat.le_refl n, whole.trans (decimal_of_le large).symm⟩
      · obtain ⟨m, low, digits⟩ := ih (n / 10) (by omega) part
        exact ⟨m, by omega, digits⟩

/-- A number that is cut is another number. -/
theorem valueOf_cut_whole {p : Bytes} {n : UInt64} (cut : IsCut p (render (.whole n)))
    (some : p ≠ []) : ∃ m, valueOf p = (.number (.ok (.whole m)) (.ok ()), Option.some []) := by
  rw [render] at cut
  obtain ⟨m, low, digits⟩ := decimal_of_prefix cut.1 some
  have fits : m < UInt64.size := Nat.lt_of_le_of_lt low n.toNat_lt
  have spelled := spells_render (.whole (UInt64.ofNat m)) []
  rw [List.append_nil, render, UInt64.toNat_ofNat_of_lt' fits, ← digits] at spelled
  exact ⟨_, spelled.valueOf_eq (by rintro b ⟨⟩)⟩

/--
What is laid out for the first bytes of a value: a cut of its document; or another number, after
which the text ends.
-/
inductive Cuts (d : Data.Document) : Data.Document × Option Bytes → Prop where
  | within {left : Data.Document} (cut : d.Cut left) : Cuts d (left, none)
  | number {value : Except Fault Number} {pass : Except Fault Unit} {n : Number}
      (other : d = .number value pass) : Cuts d (.number (.ok n) (.ok ()), some [])

theorem valueOf_nil : valueOf [] = (.absent .ended, none) := by
  rw [valueOf_eq]
  rfl

theorem cuts_nil (d : Data.Document) : Cuts d (valueOf []) := by
  rw [valueOf_nil]
  exact .within .absent

theorem valueOf_cut_quote {p : Bytes} {k : String} (cut : IsCut p (quote k)) :
    ∃ left, (Data.Document.ofString k).Cut left ∧ valueOf p = (left, none) := by
  rcases isCut_cons.1 cut with rfl | ⟨q, rfl, rest⟩
  · exact ⟨_, .absent, valueOf_nil⟩
  · refine ⟨_, .text, ?_⟩
    rw [valueOf_eq]
    exact (Unclosed.of_cut rest).layQuoted_eq

theorem cuts_literal {p letters : Bytes} {b : UInt8} {value : Option Bool}
    (laid : ∀ q, valueOf (b :: q) =
      ((readLiteral value letters q).1, (readLiteral value letters q).2.map Subtype.val))
    (cut : IsCut p (b :: letters)) : Cuts (.literal (.ok value)) (valueOf p) := by
  rcases isCut_cons.1 cut with rfl | ⟨q, rfl, rest⟩
  · exact cuts_nil _
  · rw [laid, readLiteral_cut value rest]
    exact .within .literal

/-! Lists and objects. -/

def elementOf (s : Bytes) : Items × Option Bytes :=
  match valueOf s with
  | (d, none) => (.item d (.close (.error .malformed)), none)
  | (d, some t) => (.item d (itemsOf false t).1, (itemsOf false t).2)

def memberOf (s : Bytes) : Members × Option Bytes :=
  match valueOf s with
  | (key, some t) =>
    match skipBlanks t with
    | [] => (.member key (.error .ended) (.absent .ended) (.close (.error .ended)), none)
    | c :: tail =>
      if c = 0x3A then
        match valueOf tail with
        | (d, none) => (.member key (.ok ()) d (.close (.error .malformed)), none)
        | (d, some u) => (.member key (.ok ()) d (membersOf false u).1, (membersOf false u).2)
      else
        (.member key (.error .malformed) (.absent .malformed) (.close (.error .malformed)), none)
  | (key, none) =>
    (.member key (.error .malformed) (.absent .malformed) (.close (.error .malformed)), none)

theorem itemsOf_nil (first : Bool) : itemsOf first [] = (.close (.error .ended), none) := by
  rw [itemsOf_eq]
  rfl

theorem membersOf_nil (first : Bool) : membersOf first [] = (.close (.error .ended), none) := by
  rw [membersOf_eq]
  rfl

theorem itemsOf_next (s : Bytes) : itemsOf false (0x2C :: s) = elementOf s := by
  rw [itemsOf_eq, skipBlanks_other rfl]
  rfl

theorem membersOf_next (s : Bytes) : membersOf false (0x2C :: s) = memberOf s := by
  rw [membersOf_eq, skipBlanks_other rfl]
  rfl

theorem itemsOf_first {b : UInt8} (visible : isBlank b = false) (opens : b ≠ 0x5D) (s : Bytes) :
    itemsOf true (b :: s) = elementOf (b :: s) := by
  rw [itemsOf_eq, skipBlanks_other visible]
  dsimp only
  rw [if_neg opens]
  rfl

theorem membersOf_first {b : UInt8} (visible : isBlank b = false) (opens : b ≠ 0x7D) (s : Bytes) :
    membersOf true (b :: s) = memberOf (b :: s) := by
  rw [membersOf_eq, skipBlanks_other visible]
  dsimp only
  rw [if_neg opens]
  rfl

theorem valueOf_bracket (s : Bytes) :
    valueOf (0x5B :: s) = (.list (itemsOf true s).1, (itemsOf true s).2) := by
  rw [valueOf_eq, skipBlanks_other rfl]
  rfl

theorem valueOf_brace (s : Bytes) :
    valueOf (0x7B :: s) = (.object (membersOf true s).1, (membersOf true s).2) := by
  rw [valueOf_eq, skipBlanks_other rfl]
  rfl

theorem EndsNumeral.of_prefix {p s : Bytes} (h : EndsNumeral s) (isPrefix : p <+: s) :
    EndsNumeral p := by
  obtain ⟨t, rfl⟩ := isPrefix
  cases p with
  | nil => rintro b ⟨⟩
  | cons b p => exact h

theorem valueOf_quote (k : String) (rest : Bytes) :
    valueOf (quote k ++ rest) = (.ofString k, some rest) := by
  obtain ⟨t, written, quoted⟩ := spelled_quote k rest
  rw [written, valueOf_eq]
  have laid := layQuoted_eq quoted
  rwa [String.ofList_toList] at laid

section

variable {s t q : Bytes} {d : Data.Document}

/-- A text of a value, wherever it is cut, and as a whole. -/
structure Lays (s : Bytes) (d : Data.Document) : Prop where
  whole : ∀ rest, EndsNumeral rest → valueOf (s ++ rest) = (d, some rest)
  cuts : ∀ p, IsCut p s → Cuts d (valueOf p)

theorem elementOf_cut {items : Items} (head : Lays s d) (ends : EndsNumeral t)
    (more : ∀ p, IsCut p t → ∃ left, items.Cut left ∧ itemsOf false p = (left, none))
    (cut : IsCut q (s ++ t)) :
    ∃ left, (Items.item d items).Cut left ∧ elementOf q = (left, none) := by
  unfold elementOf
  rcases isCut_append cut with first | ⟨r, rfl, second⟩
  · have laid := head.cuts q first
    generalize valueOf q = laidAs at laid
    cases laid with
    | within cut => exact ⟨_, .head cut, rfl⟩
    | number other =>
      rw [other]
      dsimp only
      rw [itemsOf_nil]
      exact ⟨_, .number, rfl⟩
  · obtain ⟨left, cut, laid⟩ := more r second
    rw [head.whole r (ends.of_prefix second.1)]
    dsimp only
    rw [laid]
    exact ⟨_, .rest cut, rfl⟩

theorem memberOf_cut {k : String} {ms : Members} (value : Lays s d) (ends : EndsNumeral t)
    (more : ∀ p, IsCut p t → ∃ left, ms.Cut left ∧ membersOf false p = (left, none))
    (cut : IsCut q (quote k ++ 0x3A :: (s ++ t))) :
    ∃ left, (Members.member (.ofString k) (.ok ()) d ms).Cut left ∧ memberOf q = (left, none) := by
  unfold memberOf
  rcases isCut_append cut with first | ⟨r, rfl, second⟩
  · obtain ⟨left, cut, laid⟩ := valueOf_cut_quote first
    rw [laid]
    exact ⟨_, .key cut, rfl⟩
  rw [valueOf_quote]
  dsimp only
  rcases isCut_cons.1 second with rfl | ⟨u, rfl, third⟩
  · exact ⟨_, .colon, rfl⟩
  rw [skipBlanks_other rfl]
  dsimp only
  rw [if_pos rfl]
  rcases isCut_append third with first | ⟨w, rfl, fourth⟩
  · have laid := value.cuts u first
    generalize valueOf u = laidAs at laid
    cases laid with
    | within cut => exact ⟨_, .value cut, rfl⟩
    | number other =>
      rw [other]
      dsimp only
      rw [membersOf_nil]
      exact ⟨_, .number, rfl⟩
  · obtain ⟨left, cut, laid⟩ := more w fourth
    rw [value.whole w (ends.of_prefix fourth.1)]
    dsimp only
    rw [laid]
    exact ⟨_, .rest cut, rfl⟩

end

theorem render_starts (v : Value) : ∃ b s, render v = b :: s ∧ isBlank b = false ∧ b ≠ 0x5D := by
  match v with
  | .null | .flag true | .flag false | .list [] | .object [] | .text s =>
    exact ⟨_, _, rfl, rfl, by decide⟩
  | .list (v :: vs) =>
    rw [render]
    exact ⟨_, _, rfl, rfl, by decide⟩
  | .object ((k, v) :: ms) =>
    rw [render]
    exact ⟨_, _, rfl, rfl, by decide⟩
  | .whole n =>
    obtain ⟨b, s, written, digit⟩ := isDigit_first (decimal_spec n.toNat).1 []
    rw [List.append_nil] at written
    refine ⟨b, s, written, isBlank_of_isDigit (.inr digit), ?_⟩
    rintro rfl
    cases digit

/-- The first element of a list has no comma before it. -/
theorem itemsOf_true_of_cut {v : Value} {q t : Bytes} (cut : IsCut q (render v ++ t)) :
    q = [] ∨ itemsOf true q = elementOf q := by
  obtain ⟨b, s, written, visible, opens⟩ := render_starts v
  rw [written] at cut
  rcases isCut_cons.1 cut with rfl | ⟨r, rfl, -⟩
  · exact .inl rfl
  · exact .inr (itemsOf_first visible opens r)

theorem membersOf_true_of_cut {k : String} {q t : Bytes} (cut : IsCut q (quote k ++ t)) :
    q = [] ∨ membersOf true q = memberOf q := by
  rcases isCut_cons.1 cut with rfl | ⟨r, rfl, -⟩
  · exact .inl rfl
  · exact .inr (membersOf_first rfl (by decide) r)

theorem endsNumeral_renderItems (vs : List Value) : EndsNumeral (renderItems vs) := by
  have spelled := spells_renderItems vs []
  rw [List.append_nil] at spelled
  exact spelled.endsNumeral

theorem endsNumeral_renderMembers (ms : List (String × Value)) :
    EndsNumeral (renderMembers ms) := by
  have spelled := spells_renderMembers ms []
  rw [List.append_nil] at spelled
  exact spelled.endsNumeral

theorem Lays.of_cuts {v : Value} (cuts : ∀ p, IsCut p (render v) → Cuts (.ofValue v) (valueOf p)) :
    Lays (render v) (.ofValue v) :=
  ⟨fun rest ends => (spells_render v rest).valueOf_eq ends, cuts⟩

mutual

/-- Wherever the compact text of a value is cut, it is laid out as a cut of its document. -/
theorem cuts_render : (v : Value) → (p : Bytes) → IsCut p (render v) →
    Cuts (.ofValue v) (valueOf p)
  | .null, _, cut | .flag true, _, cut | .flag false, _, cut =>
    cuts_literal (fun q => by rw [valueOf_eq]; rfl) cut
  | .whole n, p, cut => by
    by_cases some : p = []
    · rw [some]
      exact cuts_nil _
    · obtain ⟨m, laid⟩ := valueOf_cut_whole cut some
      rw [laid]
      exact .number rfl
  | .text s, p, cut => by
    obtain ⟨left, cut, laid⟩ := valueOf_cut_quote cut
    rw [laid]
    exact .within cut
  | .list [], p, cut => by
    have cut : IsCut p [0x5B, 0x5D] := cut
    rcases isCut_cons.1 cut with rfl | ⟨q, rfl, rest⟩
    · exact cuts_nil _
    · rcases isCut_cons.1 rest with rfl | ⟨r, -, more⟩
      · rw [valueOf_bracket, itemsOf_nil]
        exact .within (.list .close)
      · exact absurd more not_isCut_nil
  | .list (v :: vs), p, cut => by
    rw [render, List.cons_append] at cut
    rcases isCut_cons.1 cut with rfl | ⟨q, rfl, rest⟩
    · exact cuts_nil _
    · rw [valueOf_bracket]
      rcases itemsOf_true_of_cut rest with rfl | first
      · rw [itemsOf_nil]
        exact .within (.list .close)
      · obtain ⟨left, cut, laid⟩ := elementOf_cut (.of_cuts (cuts_render v))
          (endsNumeral_renderItems vs) (cuts_renderItems vs) rest
        rw [first, laid]
        exact .within (.list cut)
  | .object [], p, cut => by
    have cut : IsCut p [0x7B, 0x7D] := cut
    rcases isCut_cons.1 cut with rfl | ⟨q, rfl, rest⟩
    · exact cuts_nil _
    · rcases isCut_cons.1 rest with rfl | ⟨r, -, more⟩
      · rw [valueOf_brace, membersOf_nil]
        exact .within (.object .close)
      · exact absurd more not_isCut_nil
  | .object ((k, v) :: ms), p, cut => by
    rw [render] at cut
    simp only [List.cons_append, List.append_assoc] at cut
    rcases isCut_cons.1 cut with rfl | ⟨q, rfl, rest⟩
    · exact cuts_nil _
    · rw [valueOf_brace]
      rcases membersOf_true_of_cut rest with rfl | first
      · rw [membersOf_nil]
        exact .within (.object .close)
      · obtain ⟨left, cut, laid⟩ := memberOf_cut (.of_cuts (cuts_render v))
          (endsNumeral_renderMembers ms) (cuts_renderMembers ms) rest
        rw [first, laid]
        exact .within (.object cut)

theorem cuts_renderItems : (vs : List Value) → (p : Bytes) → IsCut p (renderItems vs) →
    ∃ left, (Items.ofValues vs).Cut left ∧ itemsOf false p = (left, none)
  | [], p, cut => by
    rcases isCut_cons.1 cut with rfl | ⟨q, -, rest⟩
    · exact ⟨_, .close, itemsOf_nil false⟩
    · exact absurd rest not_isCut_nil
  | v :: vs, p, cut => by
    rw [renderItems, List.cons_append] at cut
    rcases isCut_cons.1 cut with rfl | ⟨q, rfl, rest⟩
    · exact ⟨_, .close, itemsOf_nil false⟩
    · rw [itemsOf_next]
      exact elementOf_cut (.of_cuts (cuts_render v)) (endsNumeral_renderItems vs)
        (cuts_renderItems vs) rest

theorem cuts_renderMembers : (ms : List (String × Value)) → (p : Bytes) →
    IsCut p (renderMembers ms) →
    ∃ left, (Members.ofValues ms).Cut left ∧ membersOf false p = (left, none)
  | [], p, cut => by
    rcases isCut_cons.1 cut with rfl | ⟨q, -, rest⟩
    · exact ⟨_, .close, membersOf_nil false⟩
    · exact absurd rest not_isCut_nil
  | (k, v) :: ms, p, cut => by
    rw [renderMembers] at cut
    simp only [List.cons_append, List.append_assoc] at cut
    rcases isCut_cons.1 cut with rfl | ⟨q, rfl, rest⟩
    · exact ⟨_, .close, membersOf_nil false⟩
    · rw [membersOf_next]
      exact memberOf_cut (.of_cuts (cuts_render v)) (endsNumeral_renderMembers ms)
        (cuts_renderMembers ms) rest

end

/-! Whole texts. -/

theorem lay_fst (s : Bytes) : (lay s).1 = (valueOf s).1 := by
  unfold lay valueOf
  rcases layValue s with ⟨d, _ | r⟩
  · rfl
  · rfl

/-- The compact text of an object, cut anywhere, is laid out as a cut of its document. -/
theorem lay_cut {ms : List (String × Value)} {p : Bytes} (cut : IsCut p (render (.object ms))) :
    (Data.Document.ofValue (.object ms)).Cut (lay p).1 := by
  rw [lay_fst]
  have laid := cuts_render (.object ms) p cut
  generalize valueOf p = laidAs at laid
  cases laid with
  | within cut => exact cut
  | number other => cases other

/-- An object ends with its brace, whatever follows. -/
theorem valueOf_object {s rest : Bytes} {ms : Members} :
    Spells s (.object ms) rest → valueOf s = (.object ms, some rest)
  | .blank isBlank value => by
    rw [← valueOf_skipBlanks, skipBlanks_blank isBlank, valueOf_skipBlanks]
    exact valueOf_object value
  | .object members => by
    rw [valueOf_brace, members.membersOf_eq]

theorem lay_of_valueOf {s rest : Bytes} {d : Data.Document} (h : valueOf s = (d, some rest)) :
    lay s = (d, if skipBlanks rest = [] then .ok () else .error .malformed) := by
  unfold valueOf at h
  unfold lay
  rcases laid : layValue s with ⟨d', _ | r⟩
  · rw [laid] at h
    cases h
  · rw [laid] at h
    cases h
    rfl

theorem lay_append (ms : List (String × Value)) (t : Bytes) :
    lay (render (.object ms) ++ t) =
      (.ofValue (.object ms), if skipBlanks t = [] then .ok () else .error .malformed) := by
  have spelled := spells_render (.object ms) t
  rw [Document.ofValue] at spelled ⊢
  exact lay_of_valueOf (valueOf_object spelled)

theorem skipBlanks_eq_nil {t : Bytes} : skipBlanks t = [] ↔ ∀ b ∈ t, isBlank b = true :=
  List.dropWhile_eq_nil_iff

variable {α : Type} {format : Format α} {a : α}

/-- The text of a value is part of no other text that is read. -/
structure Delimited (format : Format α) (a : α) : Prop where
  /-- Without its last bytes, however many, it ends early. -/
  cut : ∀ p, p <+: encode format a → p ≠ encode format a →
    decode format p = .error (.fault .ended)
  blanks : ∀ t, (∀ b ∈ t, isBlank b = true) → decode format (encode format a ++ t) = .ok a
  other : ∀ t, (∃ b ∈ t, isBlank b = false) →
    decode format (encode format a ++ t) = .error (.fault .malformed)
  same : ∀ s b, decode format s = .ok b → encode format a <+: s → b = a

/-- A value is read from the document of its compact text. -/
theorem read_written (carries : format.Carries a) (shallow : format.levels < depthLimit) :
    format.read .direct depthLimit (.ofValue (format.write a)) = .ok a :=
  format.read_of_renders carries (format.renders_write carries) (spells_render _ []).sound
    fun _ => Nat.lt_of_le_of_lt (format.levels_write a) shallow

section Tagged

variable {tag : String} {variants : Variants α}
  (carries : (Format.tagged tag variants).Carries a)
  (shallow : (Format.tagged tag variants).levels < depthLimit)
include carries shallow

theorem decode_cut {p : Bytes} (cut : IsCut p (encode (.tagged tag variants) a)) :
    decode (.tagged tag variants) p = .error (.fault .ended) := by
  have whole := read_written carries shallow
  unfold encode at cut
  rw [Format.write] at whole cut
  have left := lay_cut cut
  rw [Document.ofValue] at whole left
  change ((Format.tagged tag variants).read .direct depthLimit (lay p).1 >>= _) = _
  rw [Format.read_cut left whole]
  rfl

theorem decode_append (t : Bytes) : decode (.tagged tag variants)
    (encode (.tagged tag variants) a ++ t) =
      if skipBlanks t = [] then .ok a else .error (.fault .malformed) := by
  have whole := read_written carries shallow
  unfold encode decode
  rw [Format.write] at whole ⊢
  rw [lay_append]
  dsimp only
  rw [whole]
  split_ifs
  · rfl
  · rfl

theorem delimited_tagged : Delimited (.tagged tag variants) a where
  cut p isPrefix other := decode_cut carries shallow ⟨isPrefix, other⟩
  blanks t blank := by rw [decode_append carries shallow, if_pos (skipBlanks_eq_nil.2 blank)]
  other := by
    rintro t ⟨b, hb, visible⟩
    rw [decode_append carries shallow, if_neg]
    intro blank
    exact Bool.false_ne_true (visible.symm.trans (skipBlanks_eq_nil.1 blank b hb))
  same := by
    rintro s b read ⟨t, rfl⟩
    rw [decode_append carries shallow] at read
    split_ifs at read
    exact (Except.ok.inj read).symm

end Tagged

end BuildDispatch.Json
