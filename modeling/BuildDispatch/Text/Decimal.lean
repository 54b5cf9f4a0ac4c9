/-! Numbers in decimal digits. -/
namespace BuildDispatch.Text

def digit (n : Nat) : Char := Char.ofNat ('0'.toNat + n)

/-- The digits of a number, the most significant first and no needless zero. -/
def decimalDigits (n : Nat) : List Char :=
  if n < 10 then [digit n] else decimalDigits (n / 10) ++ [digit (n % 10)]

def decimal (n : Nat) : String := String.ofList (decimalDigits n)

theorem toNat_digit {n : Nat} (h : n < 10) : (digit n).toNat - '0'.toNat = n := by
  revert h n
  decide

theorem foldl_decimalDigits (n : Nat) :
    (decimalDigits n).foldl (fun n c => n * 10 + (c.toNat - '0'.toNat)) 0 = n := by
  induction n using Nat.strongRecOn with
  | ind n ih =>
    unfold decimalDigits
    split
    case isTrue h => simpa using toNat_digit h
    case isFalse h =>
      have hr := toNat_digit (Nat.mod_lt n (by decide : 10 > 0))
      rw [List.foldl_append, ih (n / 10) (by omega)]
      simp only [List.foldl_cons, List.foldl_nil, hr]
      omega

theorem decimal_injective {m n : Nat} (h : decimal m = decimal n) : m = n := by
  have hd : decimalDigits m = decimalDigits n := String.ofList_injective h
  rw [← foldl_decimalDigits m, hd, foldl_decimalDigits]

/-- The number that digits spell, if they are one digit or more. -/
def ofDecimal? (s : List Char) : Option Nat :=
  if s.isEmpty ∨ ¬s.all fun c => '0' ≤ c ∧ c ≤ '9' then none
  else some (s.foldl (fun n c => n * 10 + (c.toNat - '0'.toNat)) 0)

/-- A whole number of 64 bits: decimal digits, with or without a plus before them. -/
def word64? (s : String) : Option UInt64 :=
  let digits :=
    match s.toList with
    | '+' :: rest => rest
    | all => all
  match ofDecimal? digits with
  | some n => if n < UInt64.size then some n.toUInt64 else none
  | none => none

def word32? (s : String) : Option UInt32 :=
  match word64? s with
  | some n => if n.toNat < UInt32.size then some n.toUInt32 else none
  | none => none

/-- Decimal digits with zeros before them, up to a width. -/
def padded (width n : Nat) : String :=
  let digits := decimalDigits n
  String.ofList (List.replicate (width - digits.length) '0' ++ digits)

end BuildDispatch.Text
