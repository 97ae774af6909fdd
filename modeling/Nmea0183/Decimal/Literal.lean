import Nmea0183.Decimal.Binary64

/-!
# Texts of floating point numbers

The texts that a reader takes for a number: digits with an optional point and an
optional exponent, or a word for infinity or for no number in any mixture of
cases, each with an optional sign.  `parse?` accepts nothing else, and `value`
gives the nearest number.
-/

namespace Nmea0183

/-- A number as it stands in a text. -/
inductive FloatLiteral where
  /-- Digits before the point, digits after it, and the exponent. -/
  | decimal (negative : Bool) (whole fraction : List Char) (exponent : Int)
  /-- Infinity. -/
  | infinity (negative : Bool)
  /-- No number. -/
  | nan
  deriving DecidableEq, Repr

namespace FloatLiteral

/-- A sign at the start of a text, and the rest. -/
def splitSign : List Char → Bool × List Char
  | '-' :: rest => (true, rest)
  | '+' :: rest => (false, rest)
  | text => (false, text)

/-- The exponent that ends a literal: none at all, or a mark, an optional sign and digits. -/
def exponent? : List Char → Option Int
  | [] => some 0
  | mark :: rest =>
    let (negative, digits) := splitSign rest
    if (mark = 'e' ∨ mark = 'E') ∧ digits ≠ [] ∧ digits.all Char.isDigit then
      let n : Int := Nat.ofDigitChars 10 digits 0
      some (if negative then -n else n)
    else none

/-- The digits after a point at the start of a text, and the rest. -/
def splitFraction : List Char → List Char × List Char
  | '.' :: rest => (rest.takeWhile Char.isDigit, rest.dropWhile Char.isDigit)
  | text => ([], text)

/-- A literal without words: digits before or after the point, and an exponent. -/
def decimal? (negative : Bool) (text : List Char) : Option FloatLiteral :=
  let whole := text.takeWhile Char.isDigit
  let (fraction, rest) := splitFraction (text.dropWhile Char.isDigit)
  if whole = [] ∧ fraction = [] then none
  else (exponent? rest).map (.decimal negative whole fraction)

/-- The literal that a text is, if it is one. -/
def parse? (text : List Char) : Option FloatLiteral :=
  let (negative, rest) := splitSign text
  let word := rest.map Char.toLower
  if word = ['i', 'n', 'f'] ∨ word = ['i', 'n', 'f', 'i', 'n', 'i', 't', 'y'] then
    some (.infinity negative)
  else if word = ['n', 'a', 'n'] then some .nan
  else decimal? negative rest

/-- The number nearest to a literal. -/
def value : FloatLiteral → Binary64
  | .decimal negative whole fraction exponent =>
    Binary64.ofDecimal negative (Nat.ofDigitChars 10 (whole ++ fraction) 0)
      (exponent - fraction.length)
  | .infinity negative => .infinity negative
  | .nan => .nan

end FloatLiteral

end Nmea0183
