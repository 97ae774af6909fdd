import Nmea0183.Checksum

/-!
# Received sentences

A received line is cut up once: blanks and zero bytes at its end are dropped, the
two digits after its last `*` are taken as the checksum, and the text between the
`$` and the first `*` is split at the commas.  A line without a leading `$` has
no fields; its checksum is looked at all the same.
-/

namespace Nmea0183

/-- A line as it was cut up. -/
structure Sentence where
  /-- The number of bytes of the line. -/
  size : Nat
  /-- The header token and the fields after it. -/
  fields : List (List Char)
  /-- The checksum that the line claims. -/
  claimed : Option UInt8
  /-- The claim is there and true. -/
  checksumValid : Bool
  deriving DecidableEq, Repr

namespace Sentence

/-- The text of a line without the junk at its end. -/
def content (line : Bytes) : List Char :=
  dropTrailing Wire.isTrailingJunk (Latin.decode line)

/-- The text after the last `*`, if there is one. -/
def afterLastStar? (text : List Char) : Option (List Char) :=
  if text.contains Wire.star then some (takeTrailing (· != Wire.star) text) else none

/-- The checksum claimed by the two digits after the last `*`; what follows them is not
looked at. -/
def claim? (text : List Char) : Option UInt8 :=
  match afterLastStar? text with
  | some (high :: low :: _) => do
    let high ← Hex.digit? high
    let low ← Hex.digit? low
    return UInt8.ofNat (16 * high + low)
  | _ => none

/-- The length of a text up to its last `*` and with it. -/
def lengthToLastStar (text : List Char) : Nat :=
  text.length - (takeTrailing (· != Wire.star) text).length

/-- The fields of a text that starts with `$`, up to its first `*`. -/
def split (text : List Char) : List (List Char) :=
  match text with
  | c :: body =>
    if c = Wire.start then (body.takeWhile (· != Wire.star)).splitOn Wire.comma else []
  | [] => []

/-- The parts of a line. -/
def ofBytes (line : Bytes) : Sentence :=
  let text := content line
  let claimed := claim? text
  { size := line.length
    fields := split text
    claimed
    checksumValid :=
      claimed == some (Checksum.ofSentence line (some (lengthToLastStar text))) }

/-- The number of fields, with the header token. -/
def fieldCount (s : Sentence) : Nat :=
  s.fields.length

/-- The claimed checksum, or 0 without a claim. -/
def checksum (s : Sentence) : UInt8 :=
  s.claimed.getD 0

/-- The header token. -/
def header (s : Sentence) : List Char :=
  s.fields.headD []

/-- The talker and the message code at the start of a header token that is long enough. -/
def tokens? (s : Sentence) : Option (List Char × List Char) :=
  let talkerLength := TokenKind.talker.length
  let codeLength := TokenKind.messageCode.length
  if talkerLength + codeLength ≤ s.header.length then
    some (s.header.take talkerLength, (s.header.drop talkerLength).take codeLength)
  else none

/-- The first two characters of a header token that is long enough. -/
def talker? (s : Sentence) : Option (List Char) :=
  s.tokens?.map Prod.fst

/-- The next three characters of a header token that is long enough. -/
def code? (s : Sentence) : Option (List Char) :=
  s.tokens?.map Prod.snd

end Sentence

end Nmea0183
