import LnpResolver.DecimalNumerals

/-!
Doubles: the numbers of IEEE 754 binary64 with their infinities, strtod and the
conversion %g of printf. Seventeen digits are enough to read a double back.
-/

namespace Doubles

open PackedBytes CStrings BinaryFloats DecimalNumerals

def binary64 : Format where
  digits := 53
  low := -1074
  high := 971
  positive := by decide
  ordered := by decide

inductive Double where
  | finite (negative : Bool) (magnitude : Magnitude binary64)
  | infinite (negative : Bool)
  deriving DecidableEq

def isNegative : Sign → Bool
  | .minus => true
  | _ => false

def signOfDouble (negative : Bool) : Sign := if negative then .minus else .none

/-- The nearest double, or an infinity for what is too large. -/
def rounded (negative : Bool) (q : ℚ) : Double :=
  match nearest binary64 q with
  | some magnitude => .finite negative magnitude
  | none => .infinite negative

def ofNumeral (numeral : Numeral) : Double := rounded (isNegative numeral.sign) numeral.magnitude

def ofInteger (number : ℤ) : Double := rounded (number < 0) number.natAbs

/-- The double that a text begins with, and what follows it. -/
def strtod (text : Bytes) : Option (Double × Bytes) :=
  (readNumeral text).map fun (numeral, rest) => (ofNumeral numeral, rest)

theorem strtod_text {spelling : Spelling} (proper : spelling.Proper) :
    strtod spelling.text = some (ofNumeral spelling.numeral, []) := by
  rw [strtod, readNumeral_text proper, Option.map_some]

theorem strtod_suffix {text rest : Bytes} {number : Double}
    (read : strtod text = some (number, rest)) : rest <:+ text ∧ rest.length < text.length := by
  obtain ⟨⟨numeral, behind⟩, found, same⟩ := Option.map_eq_some_iff.mp read
  cases same
  exact ⟨readNumeral_suffix found, readNumeral_consumes found⟩

/-! Conversion to a whole number, towards zero and into a range. -/

def truncate (number : ℚ) : ℤ := if 0 ≤ number then ⌊number⌋ else ⌈number⌉

def Double.saturated (low high : ℤ) : Double → ℤ
  | .infinite negative => if negative then low else high
  | .finite negative magnitude =>
      let number := if negative then -magnitude.value else magnitude.value
      if (high : ℚ) ≤ number then high
      else if number ≤ low then low
      else truncate number

theorem truncate_cast (number : ℤ) : truncate number = number := by
  unfold truncate
  split <;> simp

theorem saturated_whole (low high : ℤ) (negative : Bool) (magnitude : Magnitude binary64) (number : ℤ)
    (same : (if negative then -magnitude.value else magnitude.value) = number) :
    (Double.finite negative magnitude).saturated low high =
      if high ≤ number then high else if number ≤ low then low else number := by
  simp only [Double.saturated, same, Int.cast_le, truncate_cast]

theorem saturated_large (low high : ℤ) (negative : Bool) (magnitude : Magnitude binary64)
    (positive : 0 < high) (highest : high ≤ 2 ^ 53) (lowest : -2 ^ 53 ≤ low)
    (large : 2 ^ 53 ≤ magnitude.value) :
    (Double.finite negative magnitude).saturated low high = if negative then low else high := by
  have highest' : (high : ℚ) ≤ 2 ^ 53 := by exact_mod_cast highest
  have lowest' : -2 ^ 53 ≤ (low : ℚ) := by exact_mod_cast lowest
  have positive' : (0 : ℚ) < high := by exact_mod_cast positive
  cases negative with
  | true =>
      have small : ¬ (high : ℚ) ≤ -magnitude.value := by linarith
      have under : -magnitude.value ≤ low := by linarith
      simp [Double.saturated, small, under]
  | false =>
      have past : (high : ℚ) ≤ magnitude.value := by linarith
      simp [Double.saturated, past]

/-- A whole number is stored as it stands, or as the bound that it passes. -/
theorem saturated_rounded (low high : ℤ) (negative : Bool) (number : ℕ) (below : low ≤ 0)
    (positive : 0 < high) (highest : high ≤ 2 ^ 53) (lowest : -2 ^ 53 ≤ low) (signed : ℤ)
    (same : (if negative then -(number : ℤ) else number) = signed) :
    (rounded negative number).saturated low high =
      if high ≤ signed then high else if signed ≤ low then low else signed := by
  subst same
  by_cases small : number < 2 ^ 53
  · have fits : number < 2 ^ binary64.digits := small
    obtain ⟨x, nearest, value⟩ := nearest_whole fits (by decide) (by decide)
    rw [rounded, nearest]
    apply saturated_whole
    cases negative <;> simp [value]
  · have large : (2 : ℚ) ^ binary64.digits ≤ number := by exact_mod_cast not_lt.mp small
    have passed : (if negative then low else high) =
        if high ≤ (if negative then -(number : ℤ) else number) then high
        else if (if negative then -(number : ℤ) else number) ≤ low then low
        else if negative then -(number : ℤ) else number := by
      cases negative with
      | true => rw [if_pos rfl, if_pos rfl, if_neg (by omega), if_pos (by omega)]
      | false => exact (if_pos (show high ≤ (number : ℤ) by omega)).symm
    rw [rounded, ← passed]
    cases found : nearest binary64 number with
    | none => rfl
    | some x =>
        exact saturated_large low high _ x positive highest lowest
          (nearest_reaches x large (by decide) found)

/-- However a whole number is written, with a fraction or an exponent. -/
theorem saturated_numeral (low high : ℤ) (numeral : Numeral) (below : low ≤ 0) (positive : 0 < high)
    (highest : high ≤ 2 ^ 53) (lowest : -2 ^ 53 ≤ low) (number : ℤ)
    (whole : numeral.value = number) :
    (ofNumeral numeral).saturated low high =
      if high ≤ number then high else if number ≤ low then low else number := by
  have nonneg := magnitude_nonneg numeral
  have signed : (if isNegative numeral.sign then -(number.natAbs : ℤ) else number.natAbs) = number ∧
      numeral.magnitude = (number.natAbs : ℕ) := by
    unfold Numeral.value at whole
    cases sign : numeral.sign with
    | minus =>
        simp only [sign] at whole
        have less : number ≤ 0 := by exact_mod_cast (show (number : ℚ) ≤ 0 by linarith)
        have absolute : (number.natAbs : ℤ) = -number := by omega
        exact ⟨by rw [isNegative, if_pos rfl, absolute, neg_neg],
          by rw [← Int.cast_natCast, absolute, Int.cast_neg, ← whole, neg_neg]⟩
    | none | plus =>
        simp only [sign] at whole
        have more : 0 ≤ number := by exact_mod_cast (show (0 : ℚ) ≤ number by linarith)
        have absolute : (number.natAbs : ℤ) = number := by omega
        exact ⟨absolute, by rw [← Int.cast_natCast, absolute, ← whole]⟩
  rw [ofNumeral, signed.2]
  exact saturated_rounded low high _ _ below positive highest lowest number signed.1

theorem saturated_integer (low high number : ℤ) (below : low ≤ 0) (positive : 0 < high)
    (highest : high ≤ 2 ^ 53) (lowest : -2 ^ 53 ≤ low) :
    (ofInteger number).saturated low high =
      if high ≤ number then high else if number ≤ low then low else number := by
  apply saturated_rounded low high _ _ below positive highest lowest
  by_cases negative : number < 0
  · rw [if_pos (decide_eq_true negative)]
    omega
  · rw [if_neg (by simpa using negative)]
    omega

/-! Printing. -/

def spelled (precision : ℕ) (negative : Bool) (magnitude : Magnitude binary64) : Spelling :=
  printG precision (signOfDouble negative) magnitude.value

theorem spelled_proper {precision : ℕ} (some : 0 < precision) (negative : Bool)
    (magnitude : Magnitude binary64) : (spelled precision negative magnitude).Proper :=
  printG_proper _ some _

theorem isNegative_sign (negative : Bool) : isNegative (signOfDouble negative) = negative := by
  cases negative <;> rfl

theorem power_1023 : (2 : ℚ) ^ 1023 ≤ 10 ^ 308 := by
  have base : (2 : ℚ) ^ 93 ≤ 10 ^ 28 := by norm_num
  rw [show 1023 = 93 * 11 from rfl, pow_mul, show 308 = 28 * 11 from rfl, pow_mul]
  exact pow_le_pow_left₀ (by norm_num) base 11

theorem smallest_power : (10 : ℚ) ^ (-324 : ℤ) ≤ 2 ^ (-1074 : ℤ) := by
  rw [zpow_neg, zpow_neg]
  apply inv_anti₀ (power_pos _)
  have small : (2 : ℚ) ^ 51 ≤ 10 ^ 16 := by norm_num
  rw [show (1074 : ℤ) = ((1023 + 51 : ℕ) : ℤ) from rfl, zpow_natCast, pow_add,
    show (324 : ℤ) = ((308 + 16 : ℕ) : ℤ) from rfl, zpow_natCast, pow_add]
  exact mul_le_mul power_1023 small (by positivity) (by positivity)

theorem largest_power : (2 : ℚ) ^ (1024 : ℤ) ≤ 10 ^ (309 : ℤ) := by
  rw [show (1024 : ℤ) = ((1023 + 1 : ℕ) : ℤ) from rfl, zpow_natCast, pow_add, pow_one,
    show (309 : ℤ) = ((308 + 1 : ℕ) : ℤ) from rfl, zpow_natCast, pow_add, pow_one]
  have small : (2 : ℚ) ≤ 10 := by norm_num
  exact mul_le_mul power_1023 small (by norm_num) (by positivity)

/-- The first digit of a double is not further than this from the point. -/
theorem decimal_exponent {magnitude : Magnitude binary64} (positive : 0 < magnitude.value) :
    -324 ≤ Int.log 10 magnitude.value ∧ Int.log 10 magnitude.value ≤ 308 := by
  obtain ⟨low, high⟩ := value_bounds magnitude positive
  constructor
  · have reached : ((10 : ℕ) : ℚ) ^ (-324 : ℤ) ≤ magnitude.value := by
      rw [Nat.cast_ofNat]
      exact le_trans smallest_power low
    exact (Int.zpow_le_iff_le_log (b := 10) (by decide) positive).mp reached
  · have less : magnitude.value < ((10 : ℕ) : ℚ) ^ (309 : ℤ) := by
      rw [Nat.cast_ofNat]
      exact lt_of_lt_of_le high largest_power
    have log := (Int.lt_zpow_iff_log_lt (b := 10) (by decide) positive).mp less
    omega

theorem spelled_length (precision : ℕ) (negative : Bool) (magnitude : Magnitude binary64) :
    (spelled precision negative magnitude).text.length ≤ precision + 7 := by
  rcases (value_nonneg magnitude).eq_or_lt with none | positive
  · rw [spelled, ← none]
    exact printG_length _ (by simp) (by simp)
  · obtain ⟨low, high⟩ := decimal_exponent positive
    exact printG_length _ (by omega) (by omega)

theorem spelled_strict {precision : ℕ} (some : 0 < precision) (negative : Bool)
    (magnitude : Magnitude binary64) : (spelled precision negative magnitude).Strict := by
  apply printG_strict _ some _ (value_nonneg magnitude)
  cases negative <;> decide

/-- Seventeen digits are closer to a double than any other double is. -/
theorem spelled_read (negative : Bool) (magnitude : Magnitude binary64) :
    ofNumeral (spelled 17 negative magnitude).numeral = .finite negative magnitude := by
  have sign : (spelled 17 negative magnitude).numeral.sign = signOfDouble negative :=
    printG_sign _ _
  have rounded : nearest binary64 (spelled 17 negative magnitude).numeral.magnitude =
      some magnitude := by
    rcases (value_nonneg magnitude).eq_or_lt with none | positive
    · rw [spelled, ← none, printG_zero, nearest_zero, value_zero magnitude none.symm]
    · rw [spelled, printG_magnitude _ (by decide) positive]
      apply nearest_close
      apply lt_of_le_of_lt (roundedValue_error positive (by decide))
      have low := (decimal_log_spec positive).1
      have shift : (10 : ℚ) ^ (Int.log 10 magnitude.value + 1 - (17 : ℕ)) =
          10 ^ Int.log 10 magnitude.value / 10 ^ 16 := by
        rw [show Int.log 10 magnitude.value + 1 - ((17 : ℕ) : ℤ) =
          Int.log 10 magnitude.value - 16 by push_cast; ring, zpow_sub₀ (by norm_num)]
        norm_num
      have digits : (2 : ℚ) ^ (binary64.digits + 1) = 18014398509481984 := by
        simp only [binary64]
        norm_num
      rw [shift, digits]
      have power := ten_pos (Int.log 10 magnitude.value)
      rw [div_div, div_lt_div_iff₀ (by norm_num) (by norm_num)]
      nlinarith
  rw [ofNumeral, Doubles.rounded, rounded, sign, isNegative_sign]

end Doubles
