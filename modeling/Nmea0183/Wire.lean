import Nmea0183.Text.Latin

/-!
# The sentence on the wire

A sentence is `$TTMMM,field,…,field*HH` and a line end: a talker of two
characters, a message code of three, fields between commas, and a checksum of two
hexadecimal digits.  The characters that delimit these parts cannot stand in them.
-/

namespace Nmea0183.Wire

/-- The character that starts a sentence. -/
def start : Char := '$'

/-- The character between fields. -/
def comma : Char := ','

/-- The character before the checksum. -/
def star : Char := '*'

/-- The byte that starts a sentence. -/
def startByte : UInt8 := 0x24

/-- The byte between fields. -/
def commaByte : UInt8 := 0x2C

/-- The byte before the checksum. -/
def starByte : UInt8 := 0x2A

/-- Bytes among which there is no `*` differ from it. -/
theorem bne_starByte_of_notMem {bytes : Bytes} (h : starByte ∉ bytes) :
    ∀ b ∈ bytes, (b != starByte) = true := by
  intro b hb
  exact bne_iff_ne.2 fun heq => h (heq ▸ hb)

/-- The end of a line. -/
def terminator : Bytes := [0x0D, 0x0A]

/-- The characters that no field and no header token can hold, sorted. -/
def reserved : List Char := ['\n', '\r', start, star, comma]

/-- A character that no field and no header token can hold. -/
def isReserved (c : Char) : Bool :=
  reserved.contains c

/-- Blanks and zero bytes, which are dropped from the end of a received line. -/
def isTrailingJunk (c : Char) : Bool :=
  c.toNat = 0 || c.toNat = 0x20 || (0x09 ≤ c.toNat && c.toNat ≤ 0x0D)

/-- The length of `$`, talker, message code and comma. -/
def headerLength : Nat := 7

/-- The length of `*`, checksum and line end. -/
def suffixLength : Nat := 5

end Nmea0183.Wire
