import Mathlib.Algebra.Order.Floor.Semifield
import Mathlib.Data.Int.Log
import Mathlib.Data.Rat.Floor
import Mathlib.Tactic.FieldSimp
import Mathlib.Tactic.Linarith
import Mathlib.Tactic.Positivity
import Mathlib.Tactic.NormNum

/-!
Binary floating point numbers without their signs, and rounding to the nearest one,
ties to even. A number is kept in its normal form, so that equal numbers have equal
representations. What lies within a part in 2 ^ (digits + 1) of a number is rounded
to it.
-/

namespace BinaryFloats

structure Format where
  digits : ℕ
  low : ℤ
  high : ℤ
  positive : 0 < digits
  ordered : low ≤ high

@[ext] structure Magnitude (format : Format) where
  significand : ℕ
  exponent : ℤ
  below : significand < 2 ^ format.digits
  low : format.low ≤ exponent
  high : exponent ≤ format.high
  normal : 2 ^ (format.digits - 1) ≤ significand ∨ exponent = format.low
  deriving DecidableEq

def Magnitude.value {format : Format} (x : Magnitude format) : ℚ :=
  x.significand * 2 ^ x.exponent

/-! Rounding to a natural number. -/

def roundHalfEven (q : ℚ) : ℕ :=
  if q - ⌊q⌋₊ < 1 / 2 then ⌊q⌋₊
  else if 1 / 2 < q - ⌊q⌋₊ then ⌊q⌋₊ + 1
  else if ⌊q⌋₊ % 2 = 0 then ⌊q⌋₊
  else ⌊q⌋₊ + 1

theorem roundHalfEven_error {q : ℚ} (nonneg : 0 ≤ q) : |q - roundHalfEven q| ≤ 1 / 2 := by
  have low := Nat.floor_le nonneg
  have high := Nat.lt_floor_add_one q
  rw [abs_le]
  unfold roundHalfEven
  split
  · constructor <;> linarith
  · split
    · push_cast
      constructor <;> linarith
    · split
      · constructor <;> linarith
      · push_cast
        constructor <;> linarith

theorem roundHalfEven_close {q : ℚ} {m : ℕ} (nonneg : 0 ≤ q) (close : |q - m| < 1 / 2) :
    roundHalfEven q = m := by
  have error := abs_le.mp (roundHalfEven_error nonneg)
  have near := abs_lt.mp close
  have less : (roundHalfEven q : ℚ) < m + 1 := by linarith
  have more : (m : ℚ) < roundHalfEven q + 1 := by linarith
  norm_cast at less more
  omega

theorem le_roundHalfEven {q : ℚ} {m : ℕ} (reached : (m : ℚ) ≤ q) : m ≤ roundHalfEven q := by
  have nonneg : 0 ≤ q := le_trans (Nat.cast_nonneg m) reached
  have error := abs_le.mp (roundHalfEven_error nonneg)
  have more : (m : ℚ) < roundHalfEven q + 1 := by linarith
  norm_cast at more
  omega

theorem roundHalfEven_le {q : ℚ} {m : ℕ} (nonneg : 0 ≤ q) (bounded : q ≤ m) :
    roundHalfEven q ≤ m := by
  have error := abs_le.mp (roundHalfEven_error nonneg)
  have less : (roundHalfEven q : ℚ) < m + 1 := by linarith
  norm_cast at less
  omega

/-! Rounding to a format. -/

section Rounding

variable (format : Format)

/-- The exponent of the grid that a number is rounded to. -/
def grid (q : ℚ) : ℤ := max format.low (Int.log 2 q + 1 - format.digits)

def scaled (q : ℚ) : ℚ := q / 2 ^ grid format q

theorem power_pos (exponent : ℤ) : (0 : ℚ) < 2 ^ exponent := zpow_pos (by norm_num) exponent

theorem scaled_nonneg {q : ℚ} (positive : 0 < q) : 0 ≤ scaled format q :=
  div_nonneg positive.le (power_pos _).le

theorem log_spec {q : ℚ} (positive : 0 < q) :
    (2 : ℚ) ^ Int.log 2 q ≤ q ∧ q < 2 ^ (Int.log 2 q + 1) := by
  have low := Int.zpow_log_le_self (b := 2) (by decide) positive
  have high := Int.lt_zpow_succ_log_self (b := 2) (by decide) q
  push_cast at low high
  exact ⟨low, high⟩

theorem scaled_lt {q : ℚ} (positive : 0 < q) : scaled format q < 2 ^ format.digits := by
  rw [scaled, div_lt_iff₀ (power_pos _), ← zpow_natCast, ← zpow_add₀ (by norm_num)]
  apply lt_of_lt_of_le (log_spec positive).2
  apply zpow_le_zpow_right₀ (by norm_num)
  have above : Int.log 2 q + 1 - format.digits ≤ grid format q := le_max_right _ _
  omega

theorem le_scaled {q : ℚ} (positive : 0 < q) (free : grid format q ≠ format.low) :
    2 ^ (format.digits - 1) ≤ scaled format q := by
  have chosen : grid format q = Int.log 2 q + 1 - format.digits := by
    rcases max_choice format.low (Int.log 2 q + 1 - format.digits) with low | high
    · exact absurd low free
    · exact high
  have size := format.positive
  rw [scaled, le_div_iff₀ (power_pos _), ← zpow_natCast, ← zpow_add₀ (by norm_num)]
  apply le_trans _ (log_spec positive).1
  apply zpow_le_zpow_right₀ (by norm_num)
  omega

theorem rounded_le {q : ℚ} (positive : 0 < q) :
    roundHalfEven (scaled format q) ≤ 2 ^ format.digits := by
  apply roundHalfEven_le (scaled_nonneg format positive)
  exact_mod_cast (scaled_lt format positive).le

theorem le_rounded {q : ℚ} (positive : 0 < q) (free : grid format q ≠ format.low) :
    2 ^ (format.digits - 1) ≤ roundHalfEven (scaled format q) := by
  apply le_roundHalfEven
  exact_mod_cast le_scaled format positive free

def zero : Magnitude format where
  significand := 0
  exponent := format.low
  below := Nat.two_pow_pos _
  low := le_refl _
  high := format.ordered
  normal := Or.inr rfl

/-- The nearest number of the format; none if it is beyond the largest. -/
def nearest (q : ℚ) : Option (Magnitude format) :=
  if positive : 0 < q then
    if below : roundHalfEven (scaled format q) < 2 ^ format.digits then
      if high : grid format q ≤ format.high then
        some
          { significand := roundHalfEven (scaled format q)
            exponent := grid format q
            below := below
            low := le_max_left _ _
            high := high
            normal := (ne_or_eq _ _).imp_left (le_rounded format positive) }
      else none
    else
      -- the carry makes a power of two
      if high : grid format q + 1 ≤ format.high then
        some
          { significand := 2 ^ (format.digits - 1)
            exponent := grid format q + 1
            below := Nat.pow_lt_pow_right (by decide) (Nat.sub_lt format.positive Nat.one_pos)
            low := (le_max_left _ _).trans (Int.le_add_one (le_refl _))
            high := high
            normal := Or.inl (le_refl _) }
      else none
  else some (zero format)

/-! The error of rounding. -/

variable {format} (x : Magnitude format) {q : ℚ}

theorem nearest_value (positive : 0 < q) (rounded : nearest format q = some x) :
    x.value = roundHalfEven (scaled format q) * 2 ^ grid format q := by
  have size := format.positive
  rw [nearest, dif_pos positive] at rounded
  split at rounded
  · split at rounded
    · cases rounded
      rfl
    · cases rounded
  · rename_i full
    split at rounded
    · cases rounded
      have carry := le_antisymm (rounded_le format positive) (not_lt.mp full)
      rw [Magnitude.value, carry]
      push_cast
      rw [← zpow_natCast, ← zpow_natCast, ← zpow_add₀ (by norm_num), ← zpow_add₀ (by norm_num)]
      congr 1
      omega
    · cases rounded

/-- What is on its grid is not changed. -/
theorem nearest_exact {m : ℕ} (positive : 0 < q) (whole : scaled format q = m)
    (rounded : nearest format q = some x) : x.value = q := by
  have step := power_pos (grid format q)
  have same : roundHalfEven (scaled format q) = m := by
    apply roundHalfEven_close (scaled_nonneg format positive)
    rw [whole, sub_self, abs_zero]
    norm_num
  rw [nearest_value x positive rounded, same, ← whole, scaled, div_mul_cancel₀ _ step.ne']

/-- Only numbers of the largest size have no nearest one. -/
theorem nearest_none (positive : 0 < q) (rounded : nearest format q = none) :
    format.high ≤ grid format q := by
  rw [nearest, dif_pos positive] at rounded
  split at rounded
  · split at rounded
    · cases rounded
    · omega
  · split at rounded
    · cases rounded
    · omega

/-! A number is the nearest one to what lies close to it. -/

theorem value_nonneg : 0 ≤ x.value := mul_nonneg (Nat.cast_nonneg _) (power_pos _).le

theorem half_step : x.value / 2 ^ (format.digits + 1) < 2 ^ x.exponent / 2 := by
  have below : (x.significand : ℚ) < 2 ^ format.digits := by exact_mod_cast x.below
  have step := power_pos x.exponent
  rw [Magnitude.value, div_lt_iff₀ (by positivity), pow_succ]
  nlinarith

theorem grid_le (near : q < x.value + 2 ^ x.exponent / 2) (positive : 0 < q) :
    grid format q ≤ x.exponent := by
  have below : (x.significand : ℚ) + 1 ≤ 2 ^ format.digits := by exact_mod_cast x.below
  have step := power_pos x.exponent
  have less : q < 2 ^ (x.exponent + format.digits) := by
    rw [zpow_add₀ (by norm_num), zpow_natCast]
    rw [Magnitude.value] at near
    nlinarith
  have log := (Int.lt_zpow_iff_log_lt (b := 2) (by decide) positive).mp (by exact_mod_cast less)
  apply max_le x.low
  omega

theorem le_grid (reached : 2 ^ (x.exponent + format.digits - 1) ≤ q) (positive : 0 < q) :
    x.exponent ≤ grid format q := by
  have log := (Int.zpow_le_iff_le_log (b := 2) (by decide) positive).mp (by exact_mod_cast reached)
  apply le_trans _ (le_max_right _ _)
  omega

theorem nearest_on_grid (near : |q - x.value| < 2 ^ x.exponent / 2) (positive : 0 < q)
    (same : grid format q = x.exponent) : nearest format q = some x := by
  have step := power_pos x.exponent
  have scaledNear : |scaled format q - x.significand| < 1 / 2 := by
    have split : scaled format q - x.significand = (q - x.value) / 2 ^ x.exponent := by
      rw [scaled, same, Magnitude.value]
      field_simp
    rw [split, abs_div, abs_of_pos step, div_lt_iff₀ step]
    linarith
  have rounded : roundHalfEven (scaled format q) = x.significand :=
    roundHalfEven_close (scaled_nonneg format positive) scaledNear
  rw [nearest, dif_pos positive, dif_pos (rounded ▸ x.below), dif_pos (same ▸ x.high)]
  exact congrArg some (Magnitude.ext rounded same)

/-- From below a power of two is met on the finer grid. -/
theorem nearest_carry (near : |q - x.value| < 2 ^ x.exponent / 4) (positive : 0 < q)
    (power : x.significand = 2 ^ (format.digits - 1)) (same : grid format q = x.exponent - 1) :
    nearest format q = some x := by
  have step := power_pos (x.exponent - 1)
  have double : (2 : ℚ) ^ x.exponent = 2 * 2 ^ (x.exponent - 1) := by
    rw [← zpow_one_add₀ (by norm_num)]
    congr 1
    omega
  have whole : (2 : ℚ) ^ format.digits = 2 * x.significand := by
    obtain ⟨less, size⟩ : ∃ less, format.digits = less + 1 :=
      ⟨format.digits - 1, by have := format.positive; omega⟩
    rw [power, size, Nat.add_sub_cancel, pow_succ]
    push_cast
    ring
  have scaledNear : |scaled format q - (2 ^ format.digits : ℕ)| < 1 / 2 := by
    have split : scaled format q - (2 ^ format.digits : ℕ) =
        (q - x.value) / 2 ^ (x.exponent - 1) := by
      push_cast
      rw [scaled, same, Magnitude.value, whole, double]
      field_simp
    rw [split, abs_div, abs_of_pos step, div_lt_iff₀ step]
    linarith
  have rounded : roundHalfEven (scaled format q) = 2 ^ format.digits :=
    roundHalfEven_close (scaled_nonneg format positive) scaledNear
  have exponent : grid format q + 1 = x.exponent := by omega
  rw [nearest, dif_pos positive, dif_neg (by omega), dif_pos (exponent ▸ x.high)]
  exact congrArg some (Magnitude.ext power.symm exponent)

/-- Just below a power of two the grid is twice as fine, if the format has one. -/
theorem grid_below (free : x.exponent ≠ format.low) (positive : 0 < q)
    (reached : 2 ^ (x.exponent + format.digits - 2) ≤ q)
    (less : q < 2 ^ (x.exponent + format.digits - 1)) : grid format q = x.exponent - 1 := by
  have above := (Int.zpow_le_iff_le_log (b := 2) (by decide) positive).mp (by exact_mod_cast reached)
  have below := (Int.lt_zpow_iff_log_lt (b := 2) (by decide) positive).mp (by exact_mod_cast less)
  have log : Int.log 2 q + 1 - format.digits = x.exponent - 1 := by omega
  have low := x.low
  rw [grid, log, max_eq_right (by omega)]

theorem nearest_close (close : |q - x.value| < x.value / 2 ^ (format.digits + 1)) :
    nearest format q = some x := by
  have half := half_step x
  have step := power_pos x.exponent
  have value : 0 < x.value := by
    by_contra none
    have zero : x.value = 0 := le_antisymm (not_lt.mp none) (value_nonneg x)
    rw [zero, zero_div] at close
    exact absurd close (not_lt.mpr (abs_nonneg _))
  have small : x.value / 2 ^ (format.digits + 1) ≤ x.value / 2 := by
    apply div_le_div_of_nonneg_left value.le (by norm_num)
    exact le_self_pow₀ (by norm_num) (Nat.succ_ne_zero _)
  obtain ⟨below, above⟩ := abs_lt.mp close
  have positive : 0 < q := by linarith
  have upper := grid_le x (by linarith) positive
  have near : |q - x.value| < 2 ^ x.exponent / 2 := close.trans half
  have subnormal : x.exponent = format.low → nearest format q = some x := fun least =>
    nearest_on_grid x near positive (le_antisymm upper (least ▸ le_max_left _ _))
  rcases x.normal with normal | least
  · have lead : (2 : ℚ) ^ (x.exponent + format.digits - 1) =
        2 ^ (format.digits - 1) * 2 ^ x.exponent := by
      have size := format.positive
      rw [← zpow_natCast, ← zpow_add₀ (by norm_num)]
      congr 1
      omega
    by_cases reached : 2 ^ (x.exponent + format.digits - 1) ≤ q
    · exact nearest_on_grid x near positive (le_antisymm upper (le_grid x reached positive))
    · -- only a power of two has numbers this close in the binade below
      have less := not_le.mp reached
      have power : x.significand = 2 ^ (format.digits - 1) := by
        rw [lead] at less
        rw [Magnitude.value] at near
        have bound := (abs_lt.mp near).1
        have tight : (x.significand : ℚ) < 2 ^ (format.digits - 1) + 1 := by nlinarith
        norm_cast at tight
        omega
      by_cases least : x.exponent = format.low
      · exact subnormal least
      · have value_eq : x.value = 2 ^ (x.exponent + format.digits - 1) := by
          rw [Magnitude.value, power, lead]
          push_cast
          rfl
        have quarter : x.value / 2 ^ (format.digits + 1) = 2 ^ x.exponent / 4 := by
          rw [value_eq, ← zpow_natCast, ← zpow_sub₀ (by norm_num),
            show (4 : ℚ) = 2 ^ (2 : ℤ) by norm_num, ← zpow_sub₀ (by norm_num)]
          congr 1
          push_cast
          ring
        have halved : 2 ^ (x.exponent + format.digits - 2) = x.value / 2 := by
          rw [value_eq, show x.exponent + format.digits - 1 = x.exponent + format.digits - 2 + 1 by
            ring, zpow_add_one₀ (by norm_num)]
          ring
        apply nearest_carry x (quarter ▸ close) positive power
        exact grid_below x least positive (by linarith) less
  · exact subnormal least

theorem value_zero (none : x.value = 0) : x = zero format := by
  have empty : x.significand = 0 := by
    rcases mul_eq_zero.mp none with cast | power
    · exact_mod_cast cast
    · exact absurd power (power_pos _).ne'
  rcases x.normal with normal | least
  · rw [empty] at normal
    exact absurd (Nat.two_pow_pos _) (not_lt.mpr normal)
  · exact Magnitude.ext empty least

theorem nearest_zero : nearest format 0 = some (zero format) := dif_neg (lt_irrefl _)

/-- A number has one representation. -/
theorem value_injective {y : Magnitude format} (same : x.value = y.value) : x = y := by
  rcases (value_nonneg x).eq_or_lt with none | positive
  · rw [value_zero x none.symm, value_zero y (same ▸ none.symm)]
  · have exact_ : ∀ z : Magnitude format, 0 < z.value → nearest format z.value = some z := by
      intro z positive
      apply nearest_close
      rw [sub_self, abs_zero]
      positivity
    have first := exact_ x positive
    rw [same, exact_ y (same ▸ positive)] at first
    exact (Option.some.inj first).symm

theorem value_bounds (positive : 0 < x.value) :
    2 ^ format.low ≤ x.value ∧ x.value < 2 ^ (format.high + format.digits) := by
  have some : (1 : ℚ) ≤ x.significand := by
    have filled : x.significand ≠ 0 := by
      intro none
      rw [Magnitude.value, none, Nat.cast_zero, zero_mul] at positive
      exact lt_irrefl _ positive
    exact_mod_cast Nat.one_le_iff_ne_zero.mpr filled
  have below : (x.significand : ℚ) < 2 ^ format.digits := by exact_mod_cast x.below
  have least : (2 : ℚ) ^ format.low ≤ 2 ^ x.exponent := zpow_le_zpow_right₀ (by norm_num) x.low
  have most : (2 : ℚ) ^ x.exponent ≤ 2 ^ format.high := zpow_le_zpow_right₀ (by norm_num) x.high
  have step := power_pos x.exponent
  rw [Magnitude.value, zpow_add₀ (by norm_num), zpow_natCast]
  constructor
  · nlinarith
  · nlinarith [power_pos format.high]

/-! Whole numbers. -/

theorem grid_whole {number : ℕ} (some : 0 < number) (small : number < 2 ^ format.digits)
    (low : format.low ≤ 0) : grid format number ≤ 0 := by
  have positive : (0 : ℚ) < number := by exact_mod_cast some
  have less : (number : ℚ) < 2 ^ (format.digits : ℤ) := by
    rw [zpow_natCast]
    exact_mod_cast small
  have log := (Int.lt_zpow_iff_log_lt (b := 2) (x := format.digits) (by decide) positive).mp
    (by push_cast; exact less)
  apply max_le low
  omega

/-- Whole numbers of that many digits are not rounded. -/
theorem nearest_whole {number : ℕ} (small : number < 2 ^ format.digits) (low : format.low ≤ 0)
    (high : 0 < format.high) : ∃ x, nearest format number = some x ∧ x.value = number := by
  rcases Nat.eq_zero_or_pos number with rfl | some
  · refine ⟨zero format, by exact_mod_cast nearest_zero, ?_⟩
    simp [zero, Magnitude.value]
  · have positive : (0 : ℚ) < number := by exact_mod_cast some
    have down := grid_whole some small low
    cases rounded : nearest format number with
    | none =>
        have beyond := nearest_none positive rounded
        omega
    | some x =>
        refine ⟨x, rfl, nearest_exact x (m := number * 2 ^ (-grid format number).toNat) positive ?_
          rounded⟩
        have power : (2 : ℚ) ^ (-grid format number).toNat = (2 ^ grid format number)⁻¹ := by
          rw [← zpow_natCast, Int.toNat_of_nonneg (by omega), zpow_neg]
        rw [scaled]
        push_cast
        rw [power, div_eq_mul_inv]

theorem nearest_reaches (large : 2 ^ format.digits ≤ q) (low : format.low ≤ 0)
    (rounded : nearest format q = some x) : 2 ^ format.digits ≤ x.value := by
  have positive : 0 < q := lt_of_lt_of_le (by positivity) large
  have log := (Int.zpow_le_iff_le_log (b := 2) (x := format.digits) (by decide) positive).mp
    (by rw [zpow_natCast]; exact_mod_cast large)
  have above : 1 ≤ grid format q := le_trans (by omega) (le_max_right _ _)
  have whole : (2 : ℚ) ^ (format.digits - 1) ≤ roundHalfEven (scaled format q) := by
    exact_mod_cast le_rounded format positive (by omega)
  have double : (2 : ℚ) ≤ 2 ^ grid format q := by
    calc (2 : ℚ) = 2 ^ (1 : ℤ) := by norm_num
      _ ≤ 2 ^ grid format q := zpow_le_zpow_right₀ (by norm_num) above
  have size : (2 : ℚ) ^ format.digits = 2 ^ (format.digits - 1) * 2 := by
    rw [← pow_succ, Nat.sub_add_cancel format.positive]
  rw [nearest_value x positive rounded, size]
  exact mul_le_mul whole double (by norm_num) (Nat.cast_nonneg _)

end Rounding

end BinaryFloats
