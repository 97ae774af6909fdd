/-!
# Numerals

A row of decimal digits stands for a number.  Numbers are read from their digits,
and shown in them, up to a limit on the number of digits; zeros in front count.
-/

namespace Nmea0183

/-- Why a number is not read from digits, or not shown in them. -/
inductive NumeralFault where
  /-- The row has more digits than the limit. -/
  | tooLong (digits : Nat)
  /-- The number has more digits than the limit. -/
  | tooLarge
  deriving DecidableEq, Repr

namespace Numeral

/-- The greatest number of digits in which a number is read or shown. -/
def digitLimit : Nat := 4300

/-- The number of a row of digits. -/
def value (digits : List Char) : Except NumeralFault Nat :=
  if digits.length ≤ digitLimit then .ok (Nat.ofDigitChars 10 digits 0)
  else .error (.tooLong digits.length)

/-- An integer has few enough digits to be shown. -/
def isShown (i : Int) : Bool :=
  (Nat.toDigits 10 i.natAbs).length ≤ digitLimit

end Numeral

/-- The wording of a fault. -/
def NumeralFault.message : NumeralFault → String
  | tooLong digits =>
    s!"Exceeds the limit ({Numeral.digitLimit} digits) for integer string conversion: "
      ++ s!"value has {digits} digits; use sys.set_int_max_str_digits() to increase the limit"
  | tooLarge =>
    s!"Exceeds the limit ({Numeral.digitLimit} digits) for integer string conversion; "
      ++ "use sys.set_int_max_str_digits() to increase the limit"

end Nmea0183
