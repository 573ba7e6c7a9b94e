import LnpResolver.CStrings
import LnpResolver.JsonItems

/-!
Decimal texts of numbers, as std::to_string and printf write them: their digits,
their length, and the number they stand for.
-/

namespace LnpResolver.Decimals

open PackedBytes CStrings RequestWire JsonItems

def digitByte (digit : Char) : UInt8 := digit.val.toUInt8

theorem digitByte_spec {digit : Char} (isDigit : digit.isDigit = true) :
    String.utf8EncodeChar digit = [digitByte digit] ∧ (digitByte digit).toNat = digit.toNat ∧
      48 ≤ (digitByte digit).toNat ∧ (digitByte digit).toNat ≤ 57 := by
  have range : 48 ≤ digit.val ∧ digit.val ≤ 57 := by
    simpa [Char.isDigit, UInt32.le_iff_toNat_le] using isDigit
  have single : digit.utf8Size = 1 := by
    have small : digit.val ≤ 0x7f := UInt32.le_trans range.2 (by decide)
    simp [Char.utf8Size, small]
  have low : 48 ≤ digit.val.toNat := UInt32.le_iff_toNat_le.mp range.1
  have high : digit.val.toNat ≤ 57 := UInt32.le_iff_toNat_le.mp range.2
  have value : (digitByte digit).toNat = digit.val.toNat := by
    rw [digitByte, UInt32.toNat_toUInt8]
    omega
  exact ⟨String.utf8EncodeChar_eq_singleton single, value, by omega, by omega⟩

theorem digits_bytes (digits : List Char) (valid : ∀ digit ∈ digits, digit.isDigit = true) :
    digits.flatMap String.utf8EncodeChar = digits.map digitByte := by
  induction digits with
  | nil => rfl
  | cons digit digits ih =>
      obtain ⟨first, rest⟩ := List.forall_mem_cons.mp valid
      rw [List.flatMap_cons, (digitByte_spec first).1, ih rest]
      rfl

theorem toDigits_isDigit (value : Nat) :
    ∀ digit ∈ Nat.toDigits 10 value, digit.isDigit = true :=
  fun _ member => Nat.isDigit_of_mem_toDigits (by decide) (by decide) member

theorem decimal_nat (value : Nat) : decimal value = (Nat.toDigits 10 value).map digitByte := by
  have text : toString (value : Int) = String.ofList (Nat.toDigits 10 value) :=
    Nat.repr_eq_ofList_toDigits
  rw [← digits_bytes _ (toDigits_isDigit value), decimal, bytesOf, text]
  simp [String.toUTF8, List.utf8Encode]

theorem decimal_negative (value : Nat) :
    decimal (Int.negSucc value) = 45 :: decimal (value + 1 : Nat) := by
  have text : toString (Int.negSucc value) = "-" ++ toString ((value + 1 : Nat) : Int) := rfl
  rw [decimal, decimal, text, bytesOf, bytesOf, String.toUTF8_eq_toByteArray,
    String.toUTF8_eq_toByteArray, String.toByteArray_append, ByteArray.data_append,
    Array.toList_append]
  rfl

theorem decimal_digits (value : Nat) :
    decimal value ≠ [] ∧ ∀ byte ∈ decimal value, 48 ≤ byte.toNat ∧ byte.toNat ≤ 57 := by
  rw [decimal_nat]
  constructor
  · simp
  · intro byte member
    obtain ⟨digit, known, rfl⟩ := List.mem_map.mp member
    exact (digitByte_spec (toDigits_isDigit value digit known)).2.2

theorem decimal_isdigit (value : Nat) : ∀ byte ∈ decimal value, isdigit byte = true := by
  intro byte member
  have range := (decimal_digits value).2 byte member
  simpa [isdigit, UInt8.le_iff_toNat_le] using range

theorem digitsValue_decimal (value : Nat) : digitsValue (decimal value) = value := by
  have step : ∀ digits : List Char, (∀ digit ∈ digits, digit.isDigit = true) → ∀ start,
      (digits.map digitByte).foldl (fun value digit => 10 * value + (digit.toNat - 48)) start =
        Nat.ofDigitChars 10 digits start := by
    intro digits
    induction digits with
    | nil => exact fun _ _ => rfl
    | cons digit digits ih =>
        intro valid start
        obtain ⟨first, rest⟩ := List.forall_mem_cons.mp valid
        rw [List.map_cons, List.foldl_cons, ih rest, (digitByte_spec first).2.1]
        rfl
  rw [decimal_nat, digitsValue, step _ (toDigits_isDigit value)]
  exact Nat.ofDigitChars_ten_toDigits

theorem decimal_injective {value other : Nat} (same : decimal value = decimal other) :
    value = other := by
  rw [← digitsValue_decimal value, same, digitsValue_decimal]

theorem decimal_length_gt (value exponent : Nat) (large : 10 ^ exponent ≤ value) :
    exponent < (decimal value).length := by
  rw [decimal_nat, List.length_map]
  cases exponent with
  | zero => exact Nat.length_toDigits_pos
  | succ exponent =>
      apply Nat.lt_of_not_le
      rw [Nat.length_toDigits_le_iff (by decide) (Nat.succ_pos _)]
      exact Nat.not_lt.mpr large

/-! The text of a stored integer. It is shorter than the literal, or different. -/

theorem valueint_in_range {literal : Int} (low : intMin ≤ literal) (high : literal ≤ intMax) :
    valueint literal = literal := by
  unfold valueint
  split
  · omega
  · split <;> omega

/-- A literal out of range is a large number, or the negative of one. -/
theorem out_of_range_cases {literal : Int} (outside : ¬ (intMin ≤ literal ∧ literal ≤ intMax)) :
    (∃ value : Nat, literal = value ∧ 2147483648 ≤ value ∧ valueint literal = intMax) ∨
    (∃ value : Nat, literal = Int.negSucc value ∧ 2147483648 ≤ value ∧
      valueint literal = intMin) := by
  have largest : intMax = 2147483647 := rfl
  have smallest : intMin = -2147483648 := rfl
  cases literal with
  | ofNat value =>
      rw [Int.ofNat_eq_natCast] at outside ⊢
      left
      exact ⟨value, rfl, by omega, if_pos (by omega)⟩
  | negSucc value =>
      have negative := Int.negSucc_eq value
      right
      refine ⟨value, rfl, by omega, ?_⟩
      rw [valueint, if_neg (by omega), if_pos (by omega)]

theorem decimal_valueint_length (literal : Int) :
    (decimal (valueint literal)).length ≤ (decimal literal).length := by
  by_cases inside : intMin ≤ literal ∧ literal ≤ intMax
  · rw [valueint_in_range inside.1 inside.2]
  · rcases out_of_range_cases inside with ⟨value, rfl, large, stored⟩ | ⟨value, rfl, large, stored⟩
    · have longer := decimal_length_gt value 9 (by omega)
      rw [stored, show (decimal intMax).length = 10 from rfl]
      omega
    · have longer := decimal_length_gt (value + 1) 9 (by omega)
      rw [stored, decimal_negative, List.length_cons, show (decimal intMin).length = 11 from rfl]
      omega

theorem decimal_valueint_iff (literal : Int) :
    decimal (valueint literal) = decimal literal ↔ intMin ≤ literal ∧ literal ≤ intMax := by
  constructor
  · intro same
    by_contra outside
    rcases out_of_range_cases outside with ⟨value, rfl, large, stored⟩ | ⟨value, rfl, large, stored⟩
    · rw [stored] at same
      have equal : 2147483647 = value := decimal_injective same
      omega
    · rw [stored, show intMin = Int.negSucc 2147483647 from rfl, decimal_negative,
        decimal_negative] at same
      have equal := decimal_injective (List.cons.inj same).2
      omega
  · rintro ⟨low, high⟩
    rw [valueint_in_range low high]

end LnpResolver.Decimals
