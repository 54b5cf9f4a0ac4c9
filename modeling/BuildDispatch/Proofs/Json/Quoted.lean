import Mathlib.Data.List.Basic
import BuildDispatch.Json.Quoted

/-!
Quoted texts: the spellings of a text (`Json.Spelled`), of which the written one is one
(`Json.spelled_escape`). To read a spelling gives the text back and stops after the closing quote.
-/
namespace BuildDispatch

theorem Bytes.toString?_ofString (s : String) : toString? (ofString s) = some s := by
  have bytes : (⟨(ofString s).toArray⟩ : ByteArray) = s.toByteArray := by
    apply ByteArray.ext
    rw [← String.utf8Encode_toList, List.utf8Encode, List.data_toByteArray]
    rfl
  unfold toString? String.fromUTF8?
  rw [bytes, dif_pos s.isValidUTF8]
  rfl

namespace Json

open Data (Fault)

/-- A byte that stands for itself between quotes. -/
def IsPlain (b : UInt8) : Prop := b ≠ 0x22 ∧ b ≠ 0x5C ∧ ¬b < 0x20

theorem isPlain_ofNat {n : Nat} (hquote : n ≠ 0x22) (hslash : n ≠ 0x5C) (hcontrol : 0x20 ≤ n)
    (hn : n < 256) : IsPlain (UInt8.ofNat n) := by
  have value : (UInt8.ofNat n).toNat = n := by
    rw [UInt8.toNat_ofNat']
    exact Nat.mod_eq_of_lt hn
  refine ⟨fun h => hquote ?_, fun h => hslash ?_, fun h => ?_⟩
  · rw [← value, h]
    rfl
  · rw [← value, h]
    rfl
  · rw [UInt8.lt_iff_toNat_lt, value] at h
    exact absurd hcontrol (Nat.not_le.2 h)

theorem isPlain_of_mem_utf8EncodeChar {c : Char} (hquote : c ≠ '"') (hslash : c ≠ '\\')
    (hcontrol : 0x20 ≤ c.toNat) {b : UInt8} (hb : b ∈ String.utf8EncodeChar c) : IsPlain b := by
  have hquote' : c.val.toNat ≠ 0x22 := fun h => hquote (Char.toNat_inj.1 h)
  have hslash' : c.val.toNat ≠ 0x5C := fun h => hslash (Char.toNat_inj.1 h)
  have hcontrol' : 0x20 ≤ c.val.toNat := hcontrol
  unfold String.utf8EncodeChar at hb
  dsimp only at hb
  split_ifs at hb with h1 h2 h3
  all_goals simp only [List.mem_cons, List.not_mem_nil, or_false] at hb
  · subst hb
    exact isPlain_ofNat hquote' hslash' hcontrol' (by omega)
  · rcases hb with rfl | rfl
    all_goals exact isPlain_ofNat (by omega) (by omega) (by omega) (by omega)
  · rcases hb with rfl | rfl | rfl
    all_goals exact isPlain_ofNat (by omega) (by omega) (by omega) (by omega)
  · rcases hb with rfl | rfl | rfl | rfl
    all_goals exact isPlain_ofNat (by omega) (by omega) (by omega) (by omega)

/--
A text, from after its opening quote, is spelled by the first bytes, and the last ones are left. A
character stands for itself or is escaped by a letter, by its number, or by two halves of it.
-/
inductive Spelled : Bytes → List Char → Bytes → Prop where
  | close {rest : Bytes} : Spelled (0x22 :: rest) [] rest
  | plain {c : Char} {s rest : Bytes} {cs : List Char} (hquote : c ≠ '"') (hslash : c ≠ '\\')
      (hcontrol : 0x20 ≤ c.toNat) (more : Spelled s cs rest) :
      Spelled (String.utf8EncodeChar c ++ s) (c :: cs) rest
  | lettered {b : UInt8} {c : Char} {s rest : Bytes} {cs : List Char} (letter : lettered b = some c)
      (more : Spelled s cs rest) : Spelled (0x5C :: b :: s) (c :: cs) rest
  | numbered {c : Char} {s t rest : Bytes} {cs : List Char} (digits : hexFour s = .ok (c.toNat, t))
      (more : Spelled t cs rest) : Spelled (0x5C :: 0x75 :: s) (c :: cs) rest
  | halved {c : Char} {high low : Nat} {s t u rest : Bytes} {cs : List Char}
      (highDigits : hexFour s = .ok (high, 0x5C :: 0x75 :: t))
      (lowDigits : hexFour t = .ok (low, u))
      (isHigh : 0xD800 ≤ high ∧ high ≤ 0xDBFF) (isLow : 0xDC00 ≤ low ∧ low ≤ 0xDFFF)
      (value : c.toNat = 0x10000 + (high - 0xD800) * 0x400 + (low - 0xDC00))
      (more : Spelled u cs rest) : Spelled (0x5C :: 0x75 :: s) (c :: cs) rest

theorem unquote_plain {bs : Bytes} (h : ∀ b ∈ bs, IsPlain b) (done s : Bytes) :
    unquote done (bs ++ s) = unquote (bs.reverse ++ done) s := by
  induction bs generalizing done with
  | nil => rfl
  | cons b bs ih =>
    obtain ⟨hquote, hslash, hcontrol⟩ := h b List.mem_cons_self
    rw [List.cons_append, unquote, if_neg hquote, if_neg hslash, if_neg hcontrol,
      ih fun x hx => h x (List.mem_cons_of_mem _ hx)]
    simp

theorem passQuoted_plain {bs : Bytes} (h : ∀ b ∈ bs, IsPlain b) (s : Bytes) :
    passQuoted (bs ++ s) = passQuoted s := by
  induction bs with
  | nil => rfl
  | cons b bs ih =>
    obtain ⟨hquote, hslash, hcontrol⟩ := h b List.mem_cons_self
    rw [List.cons_append, passQuoted, if_neg hquote, if_neg hslash, if_neg hcontrol,
      ih fun x hx => h x (List.mem_cons_of_mem _ hx)]

theorem unquote_escaped {s t : Bytes} {c : Char} (h : escaped s = .ok (c, t)) (done : Bytes) :
    unquote done (0x5C :: s) = unquote ((String.utf8EncodeChar c).reverse ++ done) t := by
  rw [unquote, if_neg (by decide), if_pos rfl]
  split
  case h_1 c' t' h' =>
    rw [h] at h'
    cases h'
    rfl
  case h_2 why h' =>
    rw [h] at h'
    cases h'

theorem passQuoted_escaped {s t : Bytes} (h : passEscaped s = .ok t) :
    passQuoted (0x5C :: s) = passQuoted t := by
  rw [passQuoted, if_neg (by decide), if_pos rfl]
  split
  case h_1 t' h' =>
    rw [h] at h'
    cases h'
    rfl
  case h_2 why h' =>
    rw [h] at h'
    cases h'

/-- A character is no half of another one. -/
theorem toNat_not_half (c : Char) : c.toNat < 0xD800 ∨ 0xDFFF < c.toNat := by
  rcases c.valid with h | h
  · exact .inl h
  · exact .inr h.1

theorem escaped_numbered {s t : Bytes} {c : Char} (h : hexFour s = .ok (c.toNat, t)) :
    escaped (0x75 :: s) = .ok (c, t) := by
  have whole := toNat_not_half c
  have number : numbered s = .ok (c, t) := by
    unfold numbered
    rw [h]
    simp only [bind, Except.bind]
    rw [if_neg (by omega), if_pos (by omega), Char.ofNat_toNat]
    rfl
  exact number

theorem escaped_halved {s t u : Bytes} {c : Char} {high low : Nat}
    (hs : hexFour s = .ok (high, 0x5C :: 0x75 :: t)) (ht : hexFour t = .ok (low, u))
    (isHigh : 0xD800 ≤ high ∧ high ≤ 0xDBFF) (isLow : 0xDC00 ≤ low ∧ low ≤ 0xDFFF)
    (value : c.toNat = 0x10000 + (high - 0xD800) * 0x400 + (low - 0xDC00)) :
    escaped (0x75 :: s) = .ok (c, u) := by
  have number : numbered s = .ok (c, u) := by
    unfold numbered
    rw [hs]
    simp only [bind, Except.bind]
    rw [if_neg (by omega), if_neg (by omega), ht]
    dsimp only
    rw [if_neg (by omega), ← value, Char.ofNat_toNat]
    rfl
  exact number

theorem Spelled.unquote_eq {s rest : Bytes} {cs : List Char} (h : Spelled s cs rest)
    (done : Bytes) :
    unquote done s = .ok (done.reverse ++ cs.flatMap String.utf8EncodeChar) := by
  induction h generalizing done with
  | close => simp [unquote]
  | plain hquote hslash hcontrol _ ih =>
    rw [unquote_plain fun b => isPlain_of_mem_utf8EncodeChar hquote hslash hcontrol, ih]
    simp
  | lettered letter _ ih =>
    rw [unquote_escaped (by rw [escaped, letter]), ih]
    simp
  | numbered digits _ ih =>
    rw [unquote_escaped (escaped_numbered digits), ih]
    simp
  | halved hs ht isHigh isLow value _ ih =>
    rw [unquote_escaped (escaped_halved hs ht isHigh isLow value), ih]
    simp

theorem passEscaped_numbered {s t : Bytes} {n : Nat} (h : hexFour s = .ok (n, t)) :
    passEscaped (0x75 :: s) = .ok t := by
  change (hexFour s).map (·.2) = .ok t
  rw [h]
  rfl

/-- The halves of a character are passed over one by one. -/
theorem Spelled.passQuoted_eq {s rest : Bytes} {cs : List Char} (h : Spelled s cs rest) :
    passQuoted s = .ok rest := by
  induction h with
  | close => simp [passQuoted]
  | plain hquote hslash hcontrol _ ih =>
    rw [passQuoted_plain fun b => isPlain_of_mem_utf8EncodeChar hquote hslash hcontrol, ih]
  | lettered letter _ ih => rw [passQuoted_escaped (by rw [passEscaped, letter]), ih]
  | numbered digits _ ih => rw [passQuoted_escaped (passEscaped_numbered digits), ih]
  | halved hs ht _ _ _ _ ih =>
    rw [passQuoted_escaped (passEscaped_numbered hs),
      passQuoted_escaped (passEscaped_numbered ht), ih]

theorem Spelled.readQuoted_eq {s rest : Bytes} {cs : List Char} (h : Spelled s cs rest) :
    readQuoted s = .ok (String.ofList cs) := by
  unfold readQuoted
  rw [h.unquote_eq]
  have text := Bytes.toString?_ofString (String.ofList cs)
  rw [Bytes.ofString, String.toList_ofList] at text
  simp only [List.reverse_nil, List.nil_append, bind, Except.bind, text]

theorem hexFour_append {s t : Bytes} {n : Nat} (h : hexFour s = .ok (n, t)) (u : Bytes) :
    hexFour (s ++ u) = .ok (n, t ++ u) := by
  unfold hexFour at h
  split at h
  case h_1 a b c d rest =>
    split at h
    case h_1 ha hb hc hd =>
      cases h
      simp only [List.cons_append, hexFour, ha, hb, hc, hd]
    case h_2 => cases h
  case h_2 => cases h

theorem hexFour_control {n : Nat} (h : n < 0x20) :
    hexFour ([0x30, 0x30] ++ Bytes.ofString (Bytes.hex [n.toUInt8])) = .ok (n, []) := by
  revert h n
  decide

theorem spelled_escape {s rest : Bytes} {cs : List Char} (c : Char) (h : Spelled s cs rest) :
    Spelled (escape c ++ s) (c :: cs) rest := by
  unfold escape
  split_ifs with h1 h2 h3 h4 h5 h6 h7 h8
  · exact .lettered (by rw [h1]; rfl) h
  · exact .lettered (by rw [h2]; rfl) h
  · exact .lettered (by rw [← Char.ofNat_toNat c, h3]; rfl) h
  · exact .lettered (by rw [← Char.ofNat_toNat c, h4]; rfl) h
  · exact .lettered (by rw [h5]; rfl) h
  · exact .lettered (by rw [h6]; rfl) h
  · exact .lettered (by rw [h7]; rfl) h
  · exact .numbered (hexFour_append (hexFour_control h8) s) h
  · exact .plain h1 h2 (Nat.not_lt.1 h8) h

theorem spelled_quote (s : String) (rest : Bytes) :
    ∃ t, quote s ++ rest = 0x22 :: t ∧ Spelled t s.toList rest := by
  refine ⟨s.toList.flatMap escape ++ 0x22 :: rest, by simp [quote], ?_⟩
  induction s.toList with
  | nil => exact .close
  | cons c cs ih =>
    rw [List.flatMap_cons, List.append_assoc]
    exact spelled_escape c ih

end Json

end BuildDispatch
