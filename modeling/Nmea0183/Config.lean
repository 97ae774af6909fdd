import Nmea0183.Fault

/-!
# Settings

What an encoder starts with, and how strict a decoder is.  A `Config` keeps its
ranges by construction; `Config.check` refuses given settings in the order
length, format, precision, width.
-/

namespace Nmea0183

/-- The settings of encoding and decoding. -/
structure Config where
  /-- The size of the buffer when the caller gives none. -/
  sentenceLength : Nat := 82
  floatFormat : FloatFormat := .fixed
  floatPrecision : Nat := 6
  /-- The least number of digits of an integer in hexadecimal. -/
  hexWidth : Nat := 4
  /-- Whether a sentence without a valid checksum is refused. -/
  requireChecksum : Bool := true
  sentenceLength_ge : 11 ≤ sentenceLength := by decide
  floatPrecision_le : floatPrecision ≤ 17 := by decide
  hexWidth_pos : 1 ≤ hexWidth := by decide
  hexWidth_le : hexWidth ≤ 8 := by decide
  deriving DecidableEq, Repr

namespace Config

/-- The settings of given values, if these are in their ranges. -/
def check (sentenceLength : Int) (floatFormat : Value) (floatPrecision hexWidth : Int)
    (requireChecksum : Bool) : Except ConfigFault Config :=
  if hl : 11 ≤ sentenceLength then
    match floatFormat with
    | .floatFormat format =>
      if hp : 0 ≤ floatPrecision ∧ floatPrecision ≤ 17 then
        if hw : 1 ≤ hexWidth ∧ hexWidth ≤ 8 then
          .ok
            { sentenceLength := sentenceLength.toNat
              floatFormat := format
              floatPrecision := floatPrecision.toNat
              hexWidth := hexWidth.toNat
              requireChecksum := requireChecksum
              sentenceLength_ge := by omega
              floatPrecision_le := by omega
              hexWidth_pos := by omega
              hexWidth_le := by omega }
        else .error (.hexWidth hexWidth)
      else .error (.floatPrecision floatPrecision)
    | other => .error (.floatFormat other)
  else .error (.sentenceLength sentenceLength)

end Config

end Nmea0183
