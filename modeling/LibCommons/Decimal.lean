import Mathlib

namespace LibCommons

-- The calls made on github.com/shopspring/decimal; zeroValue is decimal.Decimal{}, not decimal.Zero.
class Decimal (D : Type) where
  coefficient : D → Int
  exponent : D → Int
  numDigits : D → Nat
  string : D → String
  zeroValue : D
  zero : D
  newFromInt : Int → D
  add : D → D → D
  sub : D → D → D
  mul : D → D → D
  div : D → D → D
  equal : D → D → Bool
  lessThan : D → D → Bool
  greaterThan : D → D → Bool
  isPositive : D → Bool
  isNegative : D → Bool

namespace Decimal

def val {D : Type} [Decimal D] (d : D) : ℚ := (coefficient d : ℚ) * (10 : ℚ) ^ exponent d

def roundHalfAway (q : ℚ) : ℤ := if 0 ≤ q then ⌊q + 1 / 2⌋ else -⌊-q + 1 / 2⌋

def roundPlaces (places : ℕ) (q : ℚ) : ℚ := (roundHalfAway (q * 10 ^ places) : ℚ) / 10 ^ places

-- decimal.DivisionPrecision
def divisionPrecision : ℕ := 16

end Decimal

open Decimal

-- Documented arithmetic: sums, differences, products and comparisons are exact, quotients rounded.
class LawfulDecimal (D : Type) [Decimal D] : Prop where
  val_zero_value : val (zeroValue : D) = 0
  val_zero : val (zero : D) = 0
  val_new_from_int : ∀ n : Int, val (newFromInt n : D) = n
  val_add : ∀ a b : D, val (add a b) = val a + val b
  val_sub : ∀ a b : D, val (sub a b) = val a - val b
  val_mul : ∀ a b : D, val (mul a b) = val a * val b
  val_div : ∀ a b : D, val b ≠ 0 → val (div a b) = roundPlaces divisionPrecision (val a / val b)
  equal_iff : ∀ a b : D, equal a b = true ↔ val a = val b
  less_than_iff : ∀ a b : D, lessThan a b = true ↔ val a < val b
  greater_than_iff : ∀ a b : D, greaterThan a b = true ↔ val b < val a
  is_positive_iff : ∀ a : D, isPositive a = true ↔ 0 < val a
  is_negative_iff : ∀ a : D, isNegative a = true ↔ val a < 0

-- Representation of results: exponents, the division precision and the digits of the coefficient.
class LawfulScale (D : Type) [Decimal D] : Prop where
  exponent_zero : exponent (zero : D) = 1
  exponent_add : ∀ a b : D, exponent (add a b) = min (exponent a) (exponent b)
  exponent_sub : ∀ a b : D, exponent (sub a b) = min (exponent a) (exponent b)
  exponent_mul : ∀ a b : D, exponent (mul a b) = exponent a + exponent b
  exponent_div : ∀ a b : D, exponent (div a b) = -(divisionPrecision : ℤ)
  num_digits : ∀ a : D, numDigits a = max 1 (Nat.digits 10 (coefficient a).natAbs).length

namespace Decimal

variable {D : Type} [Decimal D] [LawfulDecimal D]

attribute [simp] LawfulDecimal.val_zero_value LawfulDecimal.val_zero LawfulDecimal.val_new_from_int
  LawfulDecimal.val_add LawfulDecimal.val_sub LawfulDecimal.val_mul LawfulDecimal.equal_iff
  LawfulDecimal.less_than_iff LawfulDecimal.greater_than_iff LawfulDecimal.is_positive_iff
  LawfulDecimal.is_negative_iff

@[simp] theorem is_negative_eq_false (a : D) : isNegative a = false ↔ 0 ≤ val a := by
  rw [← Bool.not_eq_true, LawfulDecimal.is_negative_iff, not_lt]

@[simp] theorem greater_than_eq_false (a b : D) : greaterThan a b = false ↔ val a ≤ val b := by
  rw [← Bool.not_eq_true, LawfulDecimal.greater_than_iff, not_lt]

theorem val_foldl_add (l : List D) (start : D) : val (l.foldl add start) = val start + (l.map val).sum := by
  induction l generalizing start with
  | nil => simp
  | cons _ _ ih => simp [ih, add_assoc]

end Decimal

end LibCommons
