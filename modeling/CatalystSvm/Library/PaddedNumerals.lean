import Mathlib.Data.List.Basic

/-!
# Zero-padded numerals

`format!("{:06}", n)` and `format!("{:08x}", n)` write a number with at least a
given count of digits. The pad only adds leading zeros, so the value can be read
back at every length, also past the pad width.
-/

namespace CatalystSvm.Library.PaddedNumerals

set_option autoImplicit false

def paddedDigits (base width value : Nat) : List Char :=
  (Nat.toDigits base value).leftpad width '0'

/-- `{:0width}` for base ten and `{:0widthx}` for base sixteen. -/
def padded (base width value : Nat) : String :=
  String.ofList (paddedDigits base width value)

def digitValue (digit : Char) : Nat :=
  if digit.isDigit then digit.toNat - 48 else digit.toNat - 87

def numeralValue (base : Nat) (digits : List Char) : Nat :=
  digits.foldl (fun value digit => base * value + digitValue digit) 0

theorem digit_value_digit_char {digit : Nat} (small : digit < 16) :
    digitValue digit.digitChar = digit := by
  have all : ∀ digit < 16, digitValue (Nat.digitChar digit) = digit := by decide
  exact all digit small

theorem numeral_value_append (base : Nat) (high : List Char) (low : Char) :
    numeralValue base (high ++ [low]) = base * numeralValue base high + digitValue low := by
  simp [numeralValue]

theorem numeral_value_to_digits {base : Nat} (lower : 1 < base) (upper : base ≤ 16)
    (value : Nat) : numeralValue base (Nat.toDigits base value) = value := by
  induction value using Nat.base_induction base lower with
  | single digit small =>
      rw [Nat.toDigits_of_lt_base small]
      simpa [numeralValue] using digit_value_digit_char (Nat.lt_of_lt_of_le small upper)
  | digit high low small positive ih =>
      rw [← Nat.toDigits_append_toDigits lower positive small, Nat.toDigits_of_lt_base small,
        numeral_value_append, ih, digit_value_digit_char (Nat.lt_of_lt_of_le small upper)]

theorem numeral_value_leading_zeros (base count : Nat) (digits : List Char) :
    numeralValue base (List.replicate count '0' ++ digits) = numeralValue base digits := by
  induction count with
  | zero => rfl
  | succ count ih =>
      rw [List.replicate_succ, List.cons_append]
      exact ih

theorem numeral_value_padded {base : Nat} (lower : 1 < base) (upper : base ≤ 16)
    (width value : Nat) : numeralValue base (paddedDigits base width value) = value := by
  rw [paddedDigits, List.leftpad, numeral_value_leading_zeros]
  exact numeral_value_to_digits lower upper value

theorem padded_digits_decimal {base width value : Nat} (positive : 0 < base)
    (decimal : base ≤ 10) {digit : Char} (member : digit ∈ paddedDigits base width value) :
    digit.isDigit = true := by
  rw [paddedDigits, List.leftpad, List.mem_append] at member
  rcases member with zero | digit
  · rw [List.eq_of_mem_replicate zero]
    rfl
  · exact Nat.isDigit_of_mem_toDigits positive decimal digit

/-- Padding never identifies two numbers, whatever their lengths. -/
theorem padded_injective {base : Nat} (lower : 1 < base) (upper : base ≤ 16) (width : Nat) :
    Function.Injective (padded base width) := by
  intro left right same
  have digits := congrArg (fun text => numeralValue base text.toList) same
  simp only [padded, String.toList_ofList] at digits
  rwa [numeral_value_padded lower upper, numeral_value_padded lower upper] at digits

example : padded 10 6 41 = "000041" ∧ padded 16 8 4294967296 = "100000000" := by decide

end CatalystSvm.Library.PaddedNumerals
