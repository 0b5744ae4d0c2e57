import LibCommons.Decimal

namespace LibCommons

-- A decimal package that meets the laws: an integer coefficient over a power of ten.
structure Scaled where
  coefficient : Int
  exponent : Int
deriving DecidableEq, Repr

namespace Scaled

def digits (n : Nat) : Nat := max 1 (Nat.digits 10 n).length

def rescale (d : Scaled) (exponent : Int) : Int := d.coefficient * 10 ^ (d.exponent - exponent).toNat

def add (a b : Scaled) : Scaled :=
  let exponent := min a.exponent b.exponent
  ⟨a.rescale exponent + b.rescale exponent, exponent⟩

def sub (a b : Scaled) : Scaled :=
  let exponent := min a.exponent b.exponent
  ⟨a.rescale exponent - b.rescale exponent, exponent⟩

def mul (a b : Scaled) : Scaled := ⟨a.coefficient * b.coefficient, a.exponent + b.exponent⟩

def roundDiv (numerator denominator : Int) : Int :=
  let magnitude : Int := ((2 * numerator.natAbs + denominator.natAbs) / (2 * denominator.natAbs) : Nat)
  if 0 ≤ numerator * denominator then magnitude else -magnitude

def div (a b : Scaled) : Scaled :=
  let shift := a.exponent - b.exponent + 16
  ⟨roundDiv (a.coefficient * 10 ^ shift.toNat) (b.coefficient * 10 ^ (-shift).toNat), -16⟩

def sign (d : Scaled) (other : Scaled) : Int := (sub d other).coefficient

def string (d : Scaled) : String := toString d.coefficient ++ "e" ++ toString d.exponent

instance : Decimal Scaled where
  coefficient := Scaled.coefficient
  exponent := Scaled.exponent
  numDigits d := digits d.coefficient.natAbs
  string := string
  zeroValue := ⟨0, 0⟩
  zero := ⟨0, 1⟩
  newFromInt n := ⟨n, 0⟩
  add := add
  sub := sub
  mul := mul
  div := div
  equal a b := decide (sign a b = 0)
  lessThan a b := decide (sign a b < 0)
  greaterThan a b := decide (0 < sign a b)
  isPositive d := decide (0 < d.coefficient)
  isNegative d := decide (d.coefficient < 0)

open Decimal

theorem val_eq (d : Scaled) : val d = (d.coefficient : ℚ) * (10 : ℚ) ^ d.exponent := rfl

theorem val_rescale (d : Scaled) (exponent : Int) (finer : exponent ≤ d.exponent) : (d.rescale exponent : ℚ) * (10 : ℚ) ^ exponent = val d := by
  have shift : ((d.exponent - exponent).toNat : ℤ) = d.exponent - exponent := Int.toNat_of_nonneg (by omega)
  rw [val_eq, rescale]
  push_cast
  rw [← zpow_natCast, shift, mul_assoc, ← zpow_add₀ (by norm_num)]
  congr 2
  ring

theorem val_sub (a b : Scaled) : val (sub a b) = val a - val b := by
  rw [← val_rescale a (min a.exponent b.exponent) (min_le_left _ _), ← val_rescale b (min a.exponent b.exponent) (min_le_right _ _), ← sub_mul]
  rw [val_eq, sub]
  push_cast
  rfl

theorem val_add (a b : Scaled) : val (add a b) = val a + val b := by
  rw [← val_rescale a (min a.exponent b.exponent) (min_le_left _ _), ← val_rescale b (min a.exponent b.exponent) (min_le_right _ _), ← add_mul]
  rw [val_eq, add]
  push_cast
  rfl

theorem val_mul (a b : Scaled) : val (mul a b) = val a * val b := by
  simp only [val_eq, mul]
  rw [zpow_add₀ (by norm_num)]
  push_cast
  ring

theorem coefficient_sign (d : Scaled) : (0 < d.coefficient ↔ 0 < val d) ∧ (d.coefficient < 0 ↔ val d < 0) ∧ (d.coefficient = 0 ↔ val d = 0) := by
  have scale : (0 : ℚ) < (10 : ℚ) ^ d.exponent := by positivity
  refine ⟨?_, ?_, ?_⟩
  · rw [val_eq, mul_pos_iff_of_pos_right scale, Int.cast_pos]
  · rw [val_eq, mul_neg_iff]
    simp [scale, scale.not_gt]
  · rw [val_eq, mul_eq_zero_iff_right scale.ne', Int.cast_eq_zero]

theorem floor_half (n : ℕ) {d : ℕ} (nonzero : d ≠ 0) : ⌊(n : ℚ) / d + 1 / 2⌋ = (((2 * n + d) / (2 * d) : ℕ) : ℤ) := by
  have positive : (d : ℚ) ≠ 0 := by exact_mod_cast nonzero
  have merged : (n : ℚ) / d + 1 / 2 = ((2 * n + d : ℕ) : ℤ) / ((2 * d : ℕ) : ℚ) := by
    push_cast
    field_simp
  rw [merged, Rat.floor_intCast_div_natCast]
  push_cast
  rfl

theorem round_div_eq (n : ℤ) {d : ℤ} (nonzero : d ≠ 0) : roundDiv n d = roundHalfAway ((n : ℚ) / d) := by
  have magnitude : |(n : ℚ) / d| = (n.natAbs : ℚ) / d.natAbs := by
    rw [abs_div, Nat.cast_natAbs, Nat.cast_natAbs, Int.cast_abs, Int.cast_abs]
  have half := floor_half n.natAbs (Int.natAbs_ne_zero.mpr nonzero)
  have square : (0 : ℚ) < (d : ℚ) * d := by
    have : (d : ℚ) ≠ 0 := by exact_mod_cast nonzero
    exact mul_self_pos.mpr this
  have product : (n : ℚ) / d * ((d : ℚ) * d) = ((n * d : ℤ) : ℚ) := by
    have : (d : ℚ) ≠ 0 := by exact_mod_cast nonzero
    push_cast
    field_simp
  by_cases same : 0 ≤ n * d
  · have nonneg : 0 ≤ (n : ℚ) / d := by
      by_contra negative
      have below := mul_neg_of_neg_of_pos (not_le.mp negative) square
      rw [product] at below
      have : n * d < 0 := by exact_mod_cast below
      omega
    rw [roundDiv, roundHalfAway, if_pos same, if_pos nonneg, ← half, ← magnitude, abs_of_nonneg nonneg]
  · have negative : (n : ℚ) / d < 0 := by
      by_contra nonneg
      have above := mul_nonneg (not_lt.mp nonneg) square.le
      rw [product] at above
      exact same (by exact_mod_cast above)
    rw [roundDiv, roundHalfAway, if_neg same, if_neg (not_le.mpr negative), ← half, ← magnitude, abs_of_neg negative]

theorem val_div (a b : Scaled) (nonzero : val b ≠ 0) : val (div a b) = roundPlaces divisionPrecision (val a / val b) := by
  have denominator : b.coefficient ≠ 0 := fun zero => nonzero ((coefficient_sign b).2.2.mp zero)
  have bottom : b.coefficient * 10 ^ (-(a.exponent - b.exponent + 16)).toNat ≠ 0 := by positivity
  have ratio : val a / val b * 10 ^ 16 = ((a.coefficient * 10 ^ (a.exponent - b.exponent + 16).toNat : ℤ) : ℚ) /
        ((b.coefficient * 10 ^ (-(a.exponent - b.exponent + 16)).toNat : ℤ) : ℚ) := by
    have denominatorCast : (b.coefficient : ℚ) ≠ 0 := by exact_mod_cast denominator
    have shift : (10 : ℚ) ^ a.exponent * 10 ^ 16 * 10 ^ (-(a.exponent - b.exponent + 16)).toNat =
        10 ^ b.exponent * 10 ^ (a.exponent - b.exponent + 16).toNat := by
      rw [← zpow_natCast, ← zpow_natCast, ← zpow_natCast, ← zpow_add₀ (by norm_num), ← zpow_add₀ (by norm_num), ← zpow_add₀ (by norm_num)]
      congr 1
      omega
    rw [val_eq, val_eq]
    push_cast
    rw [div_mul_eq_mul_div, div_eq_div_iff (by positivity) (by positivity)]
    linear_combination (a.coefficient : ℚ) * b.coefficient * shift
  rw [roundPlaces, divisionPrecision, ratio, ← round_div_eq _ bottom, val_eq, div_eq_mul_inv]
  rfl

theorem val_sign (a b : Scaled) : (sign a b = 0 ↔ val a = val b) ∧ (sign a b < 0 ↔ val a < val b) ∧ (0 < sign a b ↔ val b < val a) := by
  obtain ⟨positive, negative, zero⟩ := coefficient_sign (sub a b)
  rw [val_sub] at positive negative zero
  exact ⟨zero.trans sub_eq_zero, negative.trans sub_neg, positive.trans sub_pos⟩

instance : LawfulDecimal Scaled where
  val_zero_value := by simp [zeroValue, val_eq]
  val_zero := by simp [zero, val_eq]
  val_new_from_int n := by simp [newFromInt, val_eq]
  val_add := val_add
  val_sub := val_sub
  val_mul := val_mul
  val_div := val_div
  equal_iff a b := decide_eq_true_iff.trans (val_sign a b).1
  less_than_iff a b := decide_eq_true_iff.trans (val_sign a b).2.1
  greater_than_iff a b := decide_eq_true_iff.trans (val_sign a b).2.2
  is_positive_iff d := decide_eq_true_iff.trans (coefficient_sign d).1
  is_negative_iff d := decide_eq_true_iff.trans (coefficient_sign d).2.1

instance : LawfulScale Scaled where
  exponent_zero := rfl
  exponent_add _ _ := rfl
  exponent_sub _ _ := rfl
  exponent_mul _ _ := rfl
  exponent_div _ _ := rfl
  num_digits _ := rfl

end Scaled

end LibCommons
