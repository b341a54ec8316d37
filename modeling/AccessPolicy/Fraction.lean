import AccessPolicy.Error

/-!
# Fractions

The share of requests that something applies to.
-/

namespace AccessPolicy

/-- A fraction. Its value may exceed one. -/
structure Fraction where
  numerator : UInt32
  denominator : UInt32
  denominator_ne_zero : denominator ≠ 0
deriving DecidableEq

namespace Fraction

/-- The fraction of two numbers, the second of which must not be zero. -/
def ofParts (numerator denominator : UInt32) : Except Error Fraction :=
  if h : denominator ≠ 0 then .ok ⟨numerator, denominator, h⟩
  else .error (.invalidFraction numerator.toNat denominator.toNat)

/-- The value of a fraction, rounded to a double. -/
def ratio (f : Fraction) : Float :=
  f.numerator.toFloat / f.denominator.toFloat

def description (f : Fraction) : String :=
  Text.record "FractionMatcher"
    [("numerator", toString f.numerator.toNat), ("denominator", toString f.denominator.toNat)]

end Fraction

end AccessPolicy
