/-
Module: TypingTutor.Lib.Binary64
Layer: Lib
Purpose: Rounding to doubles, for numbers of their normal range: to the nearest multiple of the last
  bit, ties to even.  Its relative error is half a bit, and it leaves alone what fits into 53 bits.
Imports: Mathlib's `Int.log` and `round`
Trusted boundary: none
Main exports: Binary64.roundHalfEven, Binary64.ulp, Binary64.nearest, Binary64.abs_nearest_sub_le,
  Binary64.abs_nearest_mul_sub_le, Binary64.nearest_of_fits
-/
import Mathlib.Algebra.Order.Round
import Mathlib.Data.Int.Log
import Mathlib.Data.Rat.Floor
import Mathlib.Tactic

namespace Binary64

/-- The nearest whole number; of two, the even one. -/
def roundHalfEven (value : ℚ) : ℤ :=
  if Int.fract value = 1 / 2 ∧ ⌊value⌋ % 2 = 0 then ⌊value⌋ else round value

/-- What the last of 53 bits counts. -/
def ulp (value : ℚ) : ℚ := 2 ^ (Int.log 2 |value| - 52)

/-- The double nearest to a number. -/
def nearest (value : ℚ) : ℚ := roundHalfEven (value / ulp value) * ulp value

theorem abs_roundHalfEven_sub_le (value : ℚ) : |(roundHalfEven value : ℚ) - value| ≤ 1 / 2 := by
  unfold roundHalfEven
  split
  · rename_i tie
    have apart : (⌊value⌋ : ℚ) - value = -(1 / 2) := by
      rw [← tie.1, Int.fract]
      ring
    rw [apart, abs_neg, abs_of_pos one_half_pos]
  · rw [abs_sub_comm]
    exact abs_sub_round value

@[simp] theorem roundHalfEven_intCast (number : ℤ) : roundHalfEven (number : ℚ) = number := by
  have whole : ¬ (Int.fract (number : ℚ) = 1 / 2 ∧ ⌊(number : ℚ)⌋ % 2 = 0) := by
    rw [Int.fract_intCast]
    rintro ⟨half, -⟩
    norm_num at half
  rw [roundHalfEven, if_neg whole, round_intCast]

theorem ulp_pos (value : ℚ) : 0 < ulp value := zpow_pos two_pos _

/-- The last bit is small beside the number. -/
theorem ulp_le {value : ℚ} (nonzero : value ≠ 0) : ulp value ≤ |value| / 2 ^ 52 := by
  have leading : ((2 : ℕ) : ℚ) ^ Int.log 2 |value| ≤ |value| :=
    Int.zpow_log_le_self one_lt_two (abs_pos.mpr nonzero)
  rw [ulp, zpow_sub₀ two_ne_zero]
  exact div_le_div_of_nonneg_right leading (by positivity)

/-- The error is at most half of the last bit. -/
theorem abs_nearest_sub_le (value : ℚ) : |nearest value - value| ≤ |value| / 2 ^ 53 := by
  by_cases zero : value = 0
  · rw [zero, nearest, zero_div]
    have none := roundHalfEven_intCast 0
    rw [Int.cast_zero] at none
    simp [none]
  · have positive := ulp_pos value
    have scaled : nearest value - value =
        ((roundHalfEven (value / ulp value) : ℚ) - value / ulp value) * ulp value := by
      rw [nearest, sub_mul, div_mul_cancel₀ _ positive.ne']
    calc |nearest value - value|
        = |(roundHalfEven (value / ulp value) : ℚ) - value / ulp value| * ulp value := by
          rw [scaled, abs_mul, abs_of_pos positive]
      _ ≤ 1 / 2 * (|value| / 2 ^ 52) :=
          mul_le_mul (abs_roundHalfEven_sub_le _) (ulp_le zero) positive.le one_half_pos.le
      _ = |value| / 2 ^ 53 := by ring

theorem nearest_nonneg {value : ℚ} (nonnegative : 0 ≤ value) : 0 ≤ nearest value := by
  have close := (abs_le.mp (abs_nearest_sub_le value)).1
  rw [abs_of_nonneg nonnegative] at close
  linarith

/-- The errors of a rounded factor and of a product add up. -/
theorem abs_nearest_mul_sub_le (value factor : ℚ) :
    |nearest (nearest value * factor) - value * factor| ≤ |value * factor| / 2 ^ 51 := by
  have first : |nearest value * factor - value * factor| ≤ |value * factor| / 2 ^ 53 := by
    rw [← sub_mul, abs_mul, abs_mul, ← div_mul_eq_mul_div]
    exact mul_le_mul_of_nonneg_right (abs_nearest_sub_le value) (abs_nonneg factor)
  have second := abs_nearest_sub_le (nearest value * factor)
  have size : |nearest value * factor| ≤ |value * factor| + |value * factor| / 2 ^ 53 := by
    have triangle := abs_add_le (nearest value * factor - value * factor) (value * factor)
    rw [sub_add_cancel] at triangle
    linarith
  have both := abs_add_le (nearest (nearest value * factor) - nearest value * factor)
    (nearest value * factor - value * factor)
  rw [sub_add_sub_cancel] at both
  have positive := abs_nonneg (value * factor)
  linarith

/-- A number of 53 bits is a double. -/
theorem nearest_of_fits {value : ℚ} {mantissa exponent : ℤ} (small : |mantissa| < 2 ^ 53)
    (fits : value = mantissa * 2 ^ exponent) : nearest value = value := by
  by_cases zero : value = 0
  · have close := abs_nearest_sub_le value
    rw [zero, abs_zero, zero_div, abs_nonpos_iff, sub_zero] at close
    rw [zero, close]
  · have bounded : |value| < ((2 : ℕ) : ℚ) ^ (53 + exponent) := by
      have size : |(mantissa : ℚ)| < 2 ^ (53 : ℤ) := by exact_mod_cast small
      rw [fits, abs_mul, abs_of_pos (zpow_pos two_pos exponent : (0 : ℚ) < 2 ^ exponent),
        Nat.cast_ofNat, zpow_add₀ two_ne_zero]
      exact mul_lt_mul_of_pos_right size (zpow_pos two_pos exponent)
    have leading : Int.log 2 |value| < 53 + exponent :=
      (Int.lt_zpow_iff_log_lt one_lt_two (abs_pos.mpr zero)).mp bounded
    obtain ⟨shift, aligned⟩ : ∃ shift : ℕ, exponent = Int.log 2 |value| - 52 + shift :=
      ⟨(exponent - (Int.log 2 |value| - 52)).toNat, by omega⟩
    have whole : value / ulp value = ((mantissa * 2 ^ shift : ℤ) : ℚ) := by
      rw [div_eq_iff (ulp_pos value).ne']
      conv_lhs => rw [fits, aligned, zpow_add₀ two_ne_zero, zpow_natCast]
      rw [ulp]
      push_cast
      ring
    rw [nearest, whole, roundHalfEven_intCast, ← whole, div_mul_cancel₀ _ (ulp_pos value).ne']

/-- A whole number below 2⁵³ is a double. -/
theorem nearest_intCast {number : ℤ} (small : |number| < 2 ^ 53) : nearest (number : ℚ) = number :=
  @nearest_of_fits _ number 0 small (by rw [zpow_zero, mul_one])

/-- The error of a quotient and of a product add up: 23/40 of 100 stays below 57.5. -/
example : nearest (nearest (23 / 40) * 100) < 115 / 2 := by decide +kernel

end Binary64
