/-!
# Hexadecimal text

Numbers are written with upper-case digits and padded with zeros on the left;
digits of either case are read.
-/

namespace Nmea0183.Hex

/-- The value of a hexadecimal digit of either case. -/
def digit? (c : Char) : Option Nat :=
  if '0' ≤ c ∧ c ≤ '9' then some (c.toNat - 48)
  else if 'A' ≤ c ∧ c ≤ 'F' then some (c.toNat - 55)
  else if 'a' ≤ c ∧ c ≤ 'f' then some (c.toNat - 87)
  else none

/-- A hexadecimal digit of either case. -/
def isDigit (c : Char) : Bool :=
  (digit? c).isSome

/-- The number that a row of hexadecimal digits stands for. -/
def value (digits : List Char) : Nat :=
  digits.foldl (fun n c => 16 * n + (digit? c).getD 0) 0

/-- Lower-case digits, at least `width` of them. -/
def lower (width n : Nat) : List Char :=
  List.leftpad width '0' (Nat.toDigits 16 n)

/-- Upper-case digits, at least `width` of them. -/
def upper (width n : Nat) : List Char :=
  List.leftpad width '0' ((Nat.toDigits 16 n).map Char.toUpper)

/-- Upper-case digits of a signed number; the sign takes one place of the width. -/
def signed (width : Nat) (v : Int) : List Char :=
  if v < 0 then '-' :: upper (width - 1) v.natAbs else upper width v.natAbs

end Nmea0183.Hex
