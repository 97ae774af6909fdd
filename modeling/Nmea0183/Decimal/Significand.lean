import Nmea0183.Decimal.Binary64

/-!
# Decimal digits of a binary number

A positive count of steps lies between two neighbouring powers of ten
(`decimalExponent`); its digits from that power down, rounded to a given number
of places, are a `Significand`.  Rounding up to the next power of ten moves the
exponent, so a significand of `places` places always has `places + 1` digits.
-/

namespace Nmea0183.Decimal

open Binary64 (stepsPerUnit)

/-- The exponent of the greatest power of ten that is not above a positive count of steps.
The count times `10 ^ 324` is at least one unit, so its whole part has a first digit to count
from. -/
def decimalExponent (steps : Nat) : Int :=
  ((Nat.toDigits 10 (steps * Nat.pow 10 324 / stepsPerUnit)).length : Int) - 325

/-- A count of steps, in units of `10 ^ exponent`, as a fraction. -/
def inUnitsOf (steps : Nat) (exponent : Int) : Nat × Nat :=
  if 0 ≤ exponent then (steps, stepsPerUnit * Nat.pow 10 exponent.toNat)
  else (steps * Nat.pow 10 (-exponent).toNat, stepsPerUnit)

/-- The decimal `digits * 10 ^ (exponent - places)`, whose first digit counts `10 ^ exponent`. -/
structure Significand where
  digits : Nat
  exponent : Int
  deriving DecidableEq, Repr

/-- A count of steps rounded to `places` digits after its first one. -/
def significand (places steps : Nat) : Significand :=
  if steps = 0 then ⟨0, 0⟩
  else
    let exponent := decimalExponent steps
    let (num, den) := inUnitsOf steps (exponent - places)
    let digits := roundHalfEven num den
    if digits = Nat.pow 10 (places + 1) then ⟨Nat.pow 10 places, exponent + 1⟩
    else ⟨digits, exponent⟩

/-- The digits of a number, at least `width` of them. -/
def padded (width n : Nat) : List Char :=
  List.leftpad width '0' (Nat.toDigits 10 n)

end Nmea0183.Decimal
