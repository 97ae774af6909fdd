/-!
# Rounding a quotient

The one rounding rule of the library: to the nearest integer, and a half to the
even neighbour.
-/

namespace Nmea0183.Decimal

/-- The integer nearest to `num / den`; halfway between two integers, the even one. -/
def roundHalfEven (num den : Nat) : Nat :=
  let floor := num / den
  let rest := num % den
  if den < 2 * rest ∨ (2 * rest = den ∧ floor % 2 = 1) then floor + 1 else floor

end Nmea0183.Decimal
