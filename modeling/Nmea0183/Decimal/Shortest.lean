import Nmea0183.Decimal.Format

/-!
# Shortest text of a floating point number

A message shows a number by the fewest decimal digits that read back as the same
number, and of those by the digits nearest to it.  Any number reads back from
seventeen digits.
-/

namespace Nmea0183.Decimal

/-- The decimals of `places + 1` digits next to a count of steps, below and above. -/
def neighbours (places steps : Nat) (exponent : Int) : Nat × Nat :=
  let (num, den) := inUnitsOf steps (exponent - places)
  (num / den, num / den + 1)

/-- The nearer of the two decimals that read back as `x`, if one of them does. -/
def readingBack? (x : Binary64) (places : Nat) (exponent : Int) : Option Nat :=
  let (below, above) := neighbours places x.steps exponent
  let (num, den) := inUnitsOf x.steps (exponent - places)
  let readsBack := fun digits : Nat =>
    decide (Binary64.ofDecimal x.negative digits (exponent - places) = x)
  match readsBack below, readsBack above with
  | true, true => some (roundHalfEven num den)
  | true, false => some below
  | false, true => some above
  | false, false => none

/-- The decimal `digits * 10 ^ scale`. -/
structure Scaled where
  digits : Nat
  scale : Int
  deriving DecidableEq, Repr

/-- The first number of places, counted up from `places`, that is enough to read back.  The
decimal above may be the next power of ten, which one digit shows. -/
def shortestFrom (x : Binary64) (exponent : Int) : (fuel places : Nat) → Scaled
  | 0, places =>
    let (num, den) := inUnitsOf x.steps (exponent - places)
    ⟨roundHalfEven num den, exponent - places⟩
  | fuel + 1, places =>
    match readingBack? x places exponent with
    | some digits =>
      if digits = Nat.pow 10 (places + 1) then ⟨1, exponent + 1⟩
      else ⟨digits, exponent - places⟩
    | none => shortestFrom x exponent fuel (places + 1)

/-- The decimal of the fewest digits that reads back. -/
def shortest (x : Binary64) : Scaled :=
  if x.steps = 0 then ⟨0, 0⟩ else shortestFrom x (decimalExponent x.steps) 17 0

/-- Digits that count `10 ^ scale`: positional from `10 ^ (-4)` up to `10 ^ 16`, always with a
digit after the point, and otherwise with an exponent. -/
def shownDigits (digits : List Char) (scale : Int) : List Char :=
  let exponent := scale + digits.length - 1
  if exponent < -4 ∨ 16 ≤ exponent then
    pointed (digits.take 1) (digits.drop 1) ++ exponentText 'e' exponent
  else if exponent < 0 then
    pointed ['0'] (List.replicate ((-exponent).toNat - 1) '0' ++ digits)
  else
    let whole := exponent.toNat + 1
    if digits.length ≤ whole then
      pointed (digits ++ List.replicate (whole - digits.length) '0') ['0']
    else pointed (digits.take whole) (digits.drop whole)

end Nmea0183.Decimal

namespace Nmea0183.Binary64

/-- How a message shows a number. -/
def shown (x : Binary64) : String :=
  if x.isNaN then "nan"
  else
    let sign := if x.negative then "-" else ""
    if x.isInfinite then sign ++ "inf"
    else
      let s := Decimal.shortest x
      sign ++ String.ofList (Decimal.shownDigits (Nat.toDigits 10 s.digits) s.scale)

end Nmea0183.Binary64
