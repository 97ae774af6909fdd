import Nmea0183.Checksum
import Nmea0183.Line

/-!
# Frames

The frame of a sentence is all that stands around its body: the `$`, the `*` with
the checksum, and the line end.  `wrap` puts it around a body, `unwrap` takes it
off and checks the checksum, and `isValid` judges a complete line.
-/

namespace Nmea0183.Frame

/-- The bytes that a body cannot hold, in the order in which they are looked for. -/
def forbidden : List UInt8 := [Wire.startByte, Wire.starByte, 0x0D, 0x0A]

/-- The frame around a body that holds none of the bytes that delimit. -/
def around (body : Bytes) : Bytes :=
  Wire.startByte :: body
    ++ Wire.starByte :: Latin.encode (Checksum.digits (Checksum.ofBody body))
    ++ Wire.terminator

/-- The framed sentence of a body. -/
def wrap (body : Bytes) : Except Fault Bytes :=
  match forbidden.find? body.contains with
  | some b => .error (.bodyByte b)
  | none => .ok (around body)

/-- The framed sentence of a body that is given as a line. -/
def wrapLine (line : Line) : Except Fault Bytes := do
  wrap (← line.ascii)

/-- A line without one line end. -/
def dropTerminator (line : Bytes) : Bytes :=
  if Wire.terminator.isSuffixOf line then line.take (line.length - Wire.terminator.length)
  else line

/-- The bytes before the last `*` of a line, and those after it. -/
def splitAtLastStar? (line : Bytes) : Option (Bytes × Bytes) :=
  if line.contains Wire.starByte then
    let claimed := takeTrailing (· != Wire.starByte) line
    some (line.take (line.length - claimed.length - 1), claimed)
  else none

/-- The number that the bytes after the last `*` claim. -/
def claim (claimed : Bytes) : Except FramingFault Int :=
  if claimed.length ≠ 2 then .error (.badSuffix claimed)
  else match Checksum.pair? (Latin.decode claimed) with
    | some value => .ok value
    | none => .error (.badSuffix claimed)

/-- The body of a framed sentence; without `required` a sentence may lack its checksum. -/
def unwrap (line : Bytes) (required : Bool) : Except FramingFault Bytes := do
  if line.isEmpty then throw .empty
  if line.head? ≠ some Wire.startByte then throw .noStart
  let sentence := dropTerminator line
  match splitAtLastStar? sentence with
  | none => if required then throw .noSuffix else return sentence.drop 1
  | some (checked, claimed) =>
    let value ← claim claimed
    let computed := Checksum.ofSentence checked none
    if (computed.toNat : Int) ≠ value then throw (.mismatch computed value)
    return checked.drop 1

/-- The body of a framed sentence that is given as a line. -/
def unwrapLine (line : Line) (required : Bool) : Except Fault Bytes := do
  (unwrap (← line.ascii) required).mapError .framing

/-- An ASCII letter or digit. -/
def isAlphanumeric (b : UInt8) : Bool :=
  (Latin.charOf b).isAlphanum && b < 128

/-- Whether a line is one complete sentence: line end, frame, and a header of exactly five
letters and digits. -/
def isValid (line : Bytes) : Bool :=
  Wire.terminator.isSuffixOf line &&
    match unwrap line true with
    | .error _ => false
    | .ok body =>
      let header := body.takeWhile (· != Wire.commaByte)
      header.length = TokenKind.talker.length + TokenKind.messageCode.length
        && header.all isAlphanumeric

/-- Whether a line is one complete sentence, when it is given as a line. -/
def isValidLine (line : Line) : Except Fault Bool := do
  return isValid (← line.ascii)

end Nmea0183.Frame
