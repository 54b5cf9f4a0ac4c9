import Mathlib.Data.List.Basic
import BuildDispatch.Json.Numeral
import BuildDispatch.Json.Text

/-!
Numerals: how they are spelled (`Numeral.Spelled`), and reading them, which stops where a spelling
ends. The digits in which a whole number is written are a spelling of it
(`Json.number_decimal`).
-/
namespace BuildDispatch.Json

open Data (Fault Number)

def IsDigits (digits : Bytes) : Prop := digits ≠ [] ∧ ∀ b ∈ digits, isDigit b = true

def NoDigit (s : Bytes) : Prop := ∀ b ∈ s.head?, isDigit b = false

/-- A text before which a numeral has ended: it goes on with nothing that may extend one. -/
def EndsNumeral (s : Bytes) : Prop :=
  ∀ b ∈ s.head?, isDigit b = false ∧ b ≠ 0x2E ∧ b ≠ 0x65 ∧ b ≠ 0x45

inductive SpelledFraction : Bytes → Option Bytes → Bytes → Prop where
  | absent {rest : Bytes} : SpelledFraction rest none rest
  | present {digits rest : Bytes} (isDigits : IsDigits digits) :
      SpelledFraction (0x2E :: (digits ++ rest)) (some digits) rest

inductive SpelledSign : Bytes → Bool → Prop where
  | absent : SpelledSign [] false
  | plus : SpelledSign [0x2B] false
  | minus : SpelledSign [0x2D] true

inductive SpelledExponent : Bytes → Option (Bool × Bytes) → Bytes → Prop where
  | absent {rest : Bytes} : SpelledExponent rest none rest
  | present {b : UInt8} {sign digits rest : Bytes} {negative : Bool} (letter : b = 0x65 ∨ b = 0x45)
      (isSign : SpelledSign sign negative) (isDigits : IsDigits digits) :
      SpelledExponent (b :: (sign ++ (digits ++ rest))) (some (negative, digits)) rest

/-- A numeral is spelled by the first bytes, and the last ones are left. -/
structure Numeral.Spelled (s : Bytes) (x : Numeral) (rest : Bytes) : Prop where
  isDigits : IsDigits x.digits
  leading : x.digits = [0x30] ∨ x.digits.head? ≠ some 0x30
  parts : ∃ t u, s = (if x.negative then [0x2D] else []) ++ (x.digits ++ t) ∧
    SpelledFraction t x.fraction u ∧ SpelledExponent u x.exponent rest

theorem isDigit_first {digits : Bytes} (h : IsDigits digits) (rest : Bytes) :
    ∃ b tail, digits ++ rest = b :: tail ∧ isDigit b = true := by
  obtain ⟨b, ds, rfl⟩ := List.exists_cons_of_ne_nil h.1
  exact ⟨b, ds ++ rest, rfl, h.2 b List.mem_cons_self⟩

theorem ne_of_isDigits {digits : Bytes} (h : IsDigits digits) (rest : Bytes) {b : UInt8}
    (other : isDigit b = false) (tail : Bytes) : digits ++ rest ≠ b :: tail := by
  obtain ⟨c, tail', hs, digit⟩ := isDigit_first h rest
  intro he
  rw [hs] at he
  cases he
  rw [other] at digit
  cases digit

theorem readDigits_append {digits rest : Bytes} (h : IsDigits digits) (stop : NoDigit rest) :
    readDigits (digits ++ rest) = .ok (digits, rest) := by
  have ended : rest.takeWhile isDigit = [] ∧ rest.dropWhile isDigit = rest := by
    cases rest with
    | nil => exact ⟨rfl, rfl⟩
    | cons c rest =>
      have hc : ¬isDigit c = true := by rw [stop c rfl]; decide
      exact ⟨List.takeWhile_cons_of_neg hc, List.dropWhile_cons_of_neg hc⟩
  obtain ⟨b, tail, hs, first⟩ := isDigit_first h rest
  unfold readDigits
  rw [hs]
  dsimp only
  rw [if_pos first, ← hs, List.takeWhile_append_of_pos h.2, List.dropWhile_append_of_pos h.2,
    ended.1, ended.2, List.append_nil]

theorem readWhole_append {digits rest : Bytes} (h : IsDigits digits)
    (leading : digits = [0x30] ∨ digits.head? ≠ some 0x30) (stop : NoDigit rest) :
    readWhole (digits ++ rest) = .ok (digits, rest) := by
  unfold readWhole
  rw [readDigits_append h stop]
  simp only [bind, Except.bind]
  split
  case h_1 d ds =>
    rcases leading with alone | other
    · cases alone
    · exact absurd rfl other
  case h_2 => rfl

theorem SpelledFraction.readFraction_eq {s rest : Bytes} {f : Option Bytes}
    (h : SpelledFraction s f rest) (stop : NoDigit rest) (noPoint : ∀ b ∈ rest.head?, b ≠ 0x2E) :
    readFraction s = .ok (f, rest) := by
  cases h with
  | absent =>
    unfold readFraction
    split
    case h_1 tail => exact absurd rfl (noPoint 0x2E rfl)
    case h_2 => rfl
  | present isDigits =>
    rw [readFraction, readDigits_append isDigits stop]
    rfl

theorem SpelledExponent.readExponent_eq {s rest : Bytes} {e : Option (Bool × Bytes)}
    (h : SpelledExponent s e rest) (stop : EndsNumeral rest) : readExponent s = .ok (e, rest) := by
  cases h with
  | absent =>
    unfold readExponent
    split
    case h_1 b tail =>
      obtain ⟨-, -, lower, upper⟩ := stop b rfl
      rw [if_neg (not_or.2 ⟨lower, upper⟩)]
    case h_2 => rfl
  | @present b sign digits rest negative letter isSign isDigits =>
    have digitsRead := readDigits_append isDigits fun b hb => (stop b hb).1
    cases isSign with
    | absent =>
      rw [List.nil_append, readExponent.eq_3 _ _ (ne_of_isDigits isDigits rest rfl)
        (ne_of_isDigits isDigits rest rfl), if_pos letter, digitsRead]
      rfl
    | plus =>
      rw [List.cons_append, List.nil_append, readExponent, if_pos letter, digitsRead]
      rfl
    | minus =>
      rw [List.cons_append, List.nil_append, readExponent, if_pos letter, digitsRead]
      rfl

theorem SpelledFraction.starts {s rest : Bytes} {f : Option Bytes} (h : SpelledFraction s f rest)
    (stop : NoDigit rest) : NoDigit s := by
  cases h with
  | absent => exact stop
  | present isDigits =>
    rintro b hb
    cases hb
    rfl

theorem SpelledExponent.starts {s rest : Bytes} {e : Option (Bool × Bytes)}
    (h : SpelledExponent s e rest) (stop : EndsNumeral rest) :
    NoDigit s ∧ ∀ b ∈ s.head?, b ≠ 0x2E := by
  cases h with
  | absent => exact ⟨fun b hb => (stop b hb).1, fun b hb => (stop b hb).2.1⟩
  | present letter isSign isDigits =>
    constructor
    · rintro b hb
      cases hb
      rcases letter with rfl | rfl
      · rfl
      · rfl
    · rintro b hb
      cases hb
      rcases letter with rfl | rfl
      · decide
      · decide

theorem Numeral.Spelled.readNumeral_eq {s rest : Bytes} {x : Numeral} (h : x.Spelled s rest)
    (stop : EndsNumeral rest) : readNumeral s = .ok (x, rest) := by
  obtain ⟨isDigits, leading, t, u, hs, hf, he⟩ := h
  obtain ⟨noDigit, noPoint⟩ := he.starts stop
  have whole := readWhole_append isDigits leading (hf.starts noDigit)
  have fraction := hf.readFraction_eq noDigit noPoint
  have exponent := he.readExponent_eq stop
  obtain ⟨negative, digits, f, e⟩ := x
  cases negative with
  | true =>
    rw [hs, if_pos rfl, List.cons_append, List.nil_append, readNumeral, whole]
    simp only [fraction, exponent, bind, Except.bind, pure, Except.pure]
  | false =>
    rw [hs, if_neg Bool.false_ne_true, List.nil_append,
      readNumeral.eq_2 _ (ne_of_isDigits isDigits t rfl), whole]
    simp only [fraction, exponent, bind, Except.bind, pure, Except.pure]

theorem utf8EncodeChar_digit {n : Nat} (h : n < 10) :
    String.utf8EncodeChar (Text.digit n) = [UInt8.ofNat (0x30 + n)] := by
  revert h n
  decide

theorem isDigit_ofNat {n : Nat} (h : n < 10) : isDigit (UInt8.ofNat (0x30 + n)) = true := by
  revert h n
  decide

theorem ofDigits_singleton {n : Nat} (h : n < 10) :
    ofDigits [UInt8.ofNat (0x30 + n)] = n ∧ (n ≠ 0 → UInt8.ofNat (0x30 + n) ≠ 0x30) := by
  revert h n
  decide

theorem decimal_bytes (n : Nat) :
    word (Text.decimal n) = (Text.decimalDigits n).flatMap String.utf8EncodeChar := by
  rw [word, Bytes.ofString, Text.decimal, String.toList_ofList]

/-- The digits of a number spell it, and the first is zero only if it is alone. -/
theorem decimal_spec (n : Nat) :
    IsDigits (word (Text.decimal n)) ∧ ofDigits (word (Text.decimal n)) = n ∧
      if n = 0 then word (Text.decimal n) = [0x30]
      else (word (Text.decimal n)).head? ≠ some 0x30 := by
  rw [decimal_bytes]
  induction n using Nat.strongRecOn with
  | ind n ih =>
    unfold Text.decimalDigits
    split_ifs with small zero zero
    · subst zero
      exact ⟨⟨by decide, by decide +kernel⟩, by decide, by decide⟩
    · obtain ⟨value, other⟩ := ofDigits_singleton small
      rw [List.flatMap_singleton, utf8EncodeChar_digit small]
      refine ⟨⟨by simp, fun b hb => ?_⟩, value, fun h => other zero (Option.some.inj h)⟩
      rw [List.mem_singleton.1 hb]
      exact isDigit_ofNat small
    · omega
    · obtain ⟨⟨ne, all⟩, value, first⟩ := ih (n / 10) (by omega)
      have hmod : n % 10 < 10 := Nat.mod_lt n (by decide)
      rw [if_neg (by omega)] at first
      rw [List.flatMap_append, List.flatMap_singleton, utf8EncodeChar_digit hmod]
      refine ⟨⟨by simp, fun b hb => ?_⟩, ?_, ?_⟩
      · rcases List.mem_append.1 hb with hb | hb
        · exact all b hb
        · rw [List.mem_singleton.1 hb]
          exact isDigit_ofNat hmod
      · have digit : (UInt8.ofNat (0x30 + n % 10)).toNat - 0x30 = n % 10 := by
          rw [UInt8.toNat_ofNat', Nat.mod_eq_of_lt (by omega)]
          omega
        rw [ofDigits, List.foldl_append]
        change ofDigits _ * 10 + ((UInt8.ofNat (0x30 + n % 10)).toNat - 0x30) = n
        rw [value, digit]
        omega
      · rw [List.head?_append_of_ne_nil _ ne]
        exact first

def Numeral.ofNat (n : Nat) : Numeral := ⟨false, word (Text.decimal n), none, none⟩

theorem spelled_decimal (n : Nat) (rest : Bytes) :
    (Numeral.ofNat n).Spelled (word (Text.decimal n) ++ rest) rest := by
  obtain ⟨isDigits, -, first⟩ := decimal_spec n
  refine ⟨isDigits, ?_, rest, rest, rfl, .absent, .absent⟩
  split_ifs at first with zero
  · exact .inl first
  · exact .inr first

theorem number_decimal (n : UInt64) : (Numeral.ofNat n.toNat).number = .ok (.whole n) := by
  have value : ofDigits (word (Text.decimal n.toNat)) = n.toNat := (decimal_spec n.toNat).2.1
  have fits : n.toNat ≤ significandLimit := Nat.le_sub_one_of_lt n.toNat_lt
  unfold Numeral.ofNat Numeral.number
  dsimp only
  rw [value, if_pos fits, Nat.toUInt64, UInt64.ofNat_toNat]

/-! Numbers that are not too large. -/

theorem Numeral.exists_number {x : Numeral} (bounded : x.isOverflow = false) :
    ∃ n, x.number = .ok n := by
  have other : ¬x.isOverflow = true := by rw [bounded]; decide
  unfold Numeral.number
  split
  · rw [if_neg other]
    split_ifs
    · exact ⟨_, rfl⟩
    · exact ⟨_, rfl⟩
  · rw [if_neg other]
    exact ⟨_, rfl⟩

theorem le_foldl_digits (n : Nat) (digits : Bytes) :
    n ≤ digits.foldl (fun n b => n * 10 + (b.toNat - 0x30)) n := by
  induction digits generalizing n with
  | nil => exact Nat.le_refl n
  | cons b digits ih =>
    rw [List.foldl_cons]
    have one : n ≤ n * 10 + (b.toNat - 0x30) := by omega
    exact Nat.le_trans one (ih _)

theorem takeSignificand_of_le {n : Nat} {digits : Bytes}
    (h : digits.foldl (fun n b => n * 10 + (b.toNat - 0x30)) n ≤ significandLimit) :
    takeSignificand n digits = (digits.foldl (fun n b => n * 10 + (b.toNat - 0x30)) n, 0) := by
  induction digits generalizing n with
  | nil => rfl
  | cons b digits ih =>
    rw [List.foldl_cons] at h ⊢
    have low := Nat.le_trans (le_foldl_digits _ digits) h
    rw [takeSignificand, if_neg (Nat.not_lt.2 low)]
    exact ih h

theorem roundBinary_le (n : Nat) : roundBinary n ≤ 2 * n := by
  unfold roundBinary
  dsimp only
  split_ifs with exact
  · omega
  all_goals
    have positive : n ≠ 0 := by
      rintro rfl
      exact exact rfl
    have unit : 2 ^ (n.log2 + 1 - 53) ≤ n :=
      Nat.le_trans (Nat.pow_le_pow_right (by decide) (by omega)) (Nat.log2_self_le positive)
    have kept := Nat.div_mul_le_self n (2 ^ (n.log2 + 1 - 53))
    rw [Nat.shiftLeft_eq, Nat.shiftRight_eq_div_pow]
  · rw [Nat.add_mul]
    omega
  · omega

theorem isOverflow_decimal (n : UInt64) : (Numeral.ofNat n.toNat).isOverflow = false := by
  have value : ofDigits (word (Text.decimal n.toNat)) = n.toNat := (decimal_spec n.toNat).2.1
  have fits : n.toNat ≤ significandLimit := Nat.le_sub_one_of_lt n.toNat_lt
  have taken : takeSignificand 0 (word (Text.decimal n.toNat)) = (n.toNat, 0) := by
    unfold ofDigits at value
    rw [takeSignificand_of_le (by rw [value]; exact fits), value]
  have small : roundBinary n.toNat < (1 <<< 1024) - (1 <<< 970) :=
    Nat.lt_of_le_of_lt (roundBinary_le _)
      (Nat.lt_of_lt_of_le (Nat.mul_lt_mul_of_pos_left n.toNat_lt (by decide)) (by decide))
  unfold Numeral.isOverflow Numeral.ofNat
  dsimp only
  have power : ((0 : Nat) : Int) - (([] : Bytes).length - (0 : Nat)) + 0 = 0 := by decide
  have one : roundBinary (Nat.pow 10 (0 : Int).toNat) = 1 := by decide
  simp only [taken, Option.getD_none, takeSignificand, power, one, Nat.mul_one]
  rw [if_neg (by decide), if_neg (by decide)]
  exact decide_eq_false (Nat.not_le.2 small)

end BuildDispatch.Json
