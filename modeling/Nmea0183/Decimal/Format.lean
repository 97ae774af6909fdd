import Nmea0183.Decimal.Significand
import Nmea0183.Text.Trailing

/-!
# Text of a floating point field

A field holds a number in one of three forms: with a fixed number of places, with
an exponent, or in whichever of the two is the shorter for a given number of
digits.  All three round the exact value of the number, a half to the even digit.
-/

namespace Nmea0183

/-- The form in which floating point numbers are written. -/
inductive FloatFormat where
  /-- A fixed number of places after the point. -/
  | fixed
  /-- One digit before the point, and an exponent. -/
  | scientific
  /-- The form that the size of the number suggests, without zeros at its end. -/
  | general
  deriving DecidableEq, Repr

namespace Decimal

/-- Digits before and after the point; without digits after it there is no point. -/
def pointed (whole fraction : List Char) : List Char :=
  if fraction.isEmpty then whole else whole ++ '.' :: fraction

/-- Digits without the zeros at their end. -/
def dropZeros (digits : List Char) : List Char :=
  dropTrailing (· == '0') digits

/-- An exponent: the mark, a sign, and two digits at least. -/
def exponentText (mark : Char) (exponent : Int) : List Char :=
  mark :: (if exponent < 0 then '-' else '+') :: padded 2 exponent.natAbs

/-- A count of steps with `places` digits after the point. -/
def fixedText (places steps : Nat) : List Char :=
  let units := roundHalfEven (steps * Nat.pow 10 places) Binary64.stepsPerUnit
  let digits := padded (places + 1) units
  let whole := digits.length - places
  pointed (digits.take whole) (digits.drop whole)

/-- A count of steps with one digit before the point, `places` after it, and an exponent. -/
def scientificText (places steps : Nat) : List Char :=
  let s := significand places steps
  let digits := padded (places + 1) s.digits
  pointed (digits.take 1) (digits.drop 1) ++ exponentText 'E' s.exponent

/-- A count of steps with `precision` digits, written with an exponent only when that is below
-4 or not below the number of digits, and without zeros at its end. -/
def generalText (precision steps : Nat) : List Char :=
  let count := max precision 1
  let s := significand (count - 1) steps
  let digits := padded count s.digits
  if -4 ≤ s.exponent ∧ s.exponent < count then
    if 0 ≤ s.exponent then
      let whole := s.exponent.toNat + 1
      pointed (digits.take whole) (dropZeros (digits.drop whole))
    else
      pointed ['0'] (dropZeros (List.replicate ((-s.exponent).toNat - 1) '0' ++ digits))
  else
    pointed (digits.take 1) (dropZeros (digits.drop 1)) ++ exponentText 'E' s.exponent

end Decimal

namespace Binary64

/-- The text of a number in a form and a precision.  The two forms that may hold an exponent
write the words for infinity and for no number in capitals; no number has no sign. -/
def text (format : FloatFormat) (precision : Nat) (x : Binary64) : List Char :=
  let sign := if x.negative then ['-'] else []
  let word := fun small large : List Char => if format = .fixed then small else large
  if x.isNaN then word ['n', 'a', 'n'] ['N', 'A', 'N']
  else if x.isInfinite then sign ++ word ['i', 'n', 'f'] ['I', 'N', 'F']
  else
    sign ++ match format with
      | .fixed => Decimal.fixedText precision x.steps
      | .scientific => Decimal.scientificText precision x.steps
      | .general => Decimal.generalText precision x.steps

end Binary64

end Nmea0183
