import LibCommons.Decimal

namespace LibCommons.Safe

open Decimal

def maxDecimalExponent : Int := 1000
def maxDecimalDigits : Nat := 1000

-- The text of the wrapped ErrDecimalOutOfBounds.
def errDecimalOutOfBounds : String := "decimal out of bounds"

def checkDecimal {D : Type} [Decimal D] (d : D) : Except String Unit :=
  if exponent d > maxDecimalExponent ∨ exponent d < -maxDecimalExponent then
    .error (errDecimalOutOfBounds ++ ": exponent " ++ toString (exponent d) ++ " exceeds magnitude " ++ toString maxDecimalExponent)
  else if numDigits d > maxDecimalDigits then
    .error (errDecimalOutOfBounds ++ ": " ++ toString (numDigits d) ++ " digits exceed " ++ toString maxDecimalDigits)
  else .ok ()

def InBounds {D : Type} [Decimal D] (d : D) : Prop := checkDecimal d = .ok ()

instance {D : Type} [Decimal D] (d : D) : Decidable (InBounds d) :=
  decidable_of_iff (exponent d ≤ maxDecimalExponent ∧ -maxDecimalExponent ≤ exponent d ∧ numDigits d ≤ maxDecimalDigits) (by
    unfold InBounds checkDecimal
    split
    · constructor
      · omega
      · simp
    split
    · constructor
      · omega
      · simp
    · constructor
      · simp
      · omega)

theorem in_bounds_iff {D} [Decimal D] (d : D) : InBounds d ↔ |exponent d| ≤ maxDecimalExponent ∧ numDigits d ≤ maxDecimalDigits := by
  unfold InBounds checkDecimal
  rw [abs_le]
  split
  · simp only [reduceCtorEq, false_iff, not_and]
    omega
  split
  · simp only [reduceCtorEq, false_iff, not_and]
    omega
  · simp only [true_iff]
    omega

end LibCommons.Safe
