import Nmea0183.Fault
import Nmea0183.Text.Blank
import Nmea0183.Text.DecimalDigit
import Nmea0183.Text.Trailing

/-!
# Checksums

The checksum of a sentence is the exclusive or of the bytes between its `$` and
its first `*`.  A claim of a checksum is a number or a text of two characters,
which is read as a number of base 16 with the liberties that such texts take: a
sign or a blank may stand for one of the two digits.  Any other value claims
nothing that a checksum equals.
-/

namespace Nmea0183

/-- The exclusive or of some bytes. -/
def xorOf (bytes : Bytes) : UInt8 :=
  bytes.foldl (· ^^^ ·) 0

namespace Checksum

/-- The checksum of what follows the `$`: everything from the first `*` on is left out. -/
def ofBody (body : Bytes) : UInt8 :=
  xorOf (body.takeWhile (· != Wire.starByte))

/-- Where the checked part of a line ends; a negative length counts back from the end of the
line, and without a length the whole line is checked. -/
def endOf (size : Nat) : Option Int → Nat
  | none => size
  | some length =>
    if length < 0 then (size + length).toNat
    else if (size : Int) < length then size else length.toNat

/-- The checksum of a line, of which byte 0 is taken to be the `$`. -/
def ofSentence (line : Bytes) (length : Option Int) : UInt8 :=
  ofBody ((line.take (endOf line.length length)).drop 1)

/-- The two digits of a checksum. -/
def digits (sum : UInt8) : List Char :=
  Hex.upper 2 sum.toNat

/-- The two digits of a value that fits one byte; truth values count as 0 and 1. -/
def format (value : Value) : Except ChecksumFault (List Char) :=
  match Limit.keptBy? value (.atLeast 0), Limit.keptBy? value (.atMost 0xFF) with
  | some true, some true =>
    match value.count? with
    | some i => .ok (Hex.upper 2 i.toNat)
    | none => .error (.notInteger value.typeName)
  | none, _ => .error (.notOrdered value.typeName)
  | _, _ => .error (.outOfRange value)

/-- The character that a number is read from: every script's digits count as digits, and every
blank outside ASCII as a space. -/
def plainChar (c : Char) : Char :=
  if c.toNat < 127 then c
  else if Blank.isWideBlank c then ' '
  else match DecimalDigit.value? c with
    | some d => Nat.digitChar d
    | none => '?'

/-- The text that a number is read from; an ASCII text is read as it stands. -/
def plain (text : List Char) : List Char :=
  if text.all Ascii.isAscii then text else text.map plainChar

/-- A text without the ASCII blanks at its two ends. -/
def trim (text : List Char) : List Char :=
  dropTrailing Blank.isAsciiBlank (text.dropWhile Blank.isAsciiBlank)

/-- The number that a text of at most two characters is in base 16: one or two digits, or a sign
and a digit, with blanks around it. -/
def pair? (text : List Char) : Option Int :=
  match trim text with
  | [d] => do return ((← Hex.digit? d) : Int)
  | [c, d] => do
    let low ← Hex.digit? d
    if c = '+' then return (low : Int)
    else if c = '-' then return -(low : Int)
    else return ((16 * (← Hex.digit? c) + low : Nat) : Int)
  | _ => none

/-- The number that a text of exactly two characters claims. -/
def ofText (text : List Char) : Except ChecksumFault Int :=
  if text.length ≠ 2 then .error (.notTwoDigits text)
  else match pair? (plain text) with
    | some value => .ok value
    | none => .error (.notNumber text)

/-- The checksum that a value claims: a text claims the number that it is read as, and every other
value itself. -/
def claimed : Value → Except Fault Value
  | .text t => return .int (← (ofText t.toList).mapError .checksum)
  | .bytes b => do
    let t ← (Ascii.decode b).mapError .ascii
    return .int (← (ofText t).mapError .checksum)
  | v => .ok v

/-- Whether a line has the checksum that is claimed for it. -/
def verify (line : Bytes) (claim : Value) : Except Fault Bool := do
  return (Value.int (ofSentence line none).toNat).equals (← claimed claim)

end Checksum

end Nmea0183
