import Nmea0183.Line
import Nmea0183.Sentence

/-!
# Report on a sentence

What a person is shown of a received sentence: its header, its fields one on each
line, and what became of its checksum.
-/

namespace Nmea0183

namespace Report

/-- Lines as one text. -/
def unlines (lines : List String) : String :=
  String.join (lines.map (· ++ "\n"))

/-- A text between single or double quotes. -/
def quoted (text : List Char) : String :=
  Quoted.text (String.ofList text)

/-- A part of the header, or a remark that there is none; an empty part is none. -/
def headerPart (part : Option (List Char)) : String :=
  String.ofList (part.getD "(invalid)".toList)

/-- A number in at least two places. -/
def place (n : Nat) : String :=
  String.ofList (List.leftpad 2 ' ' (Nat.toDigits 10 n))

/-- The line on the checksum. -/
def checksumLine (s : Sentence) : String :=
  match s.claimed with
  | none => "Checksum:     missing"
  | some claimed =>
    "Checksum:     " ++ String.ofList (Checksum.digits claimed)
      ++ (if s.checksumValid then " (valid)" else " (INVALID)")

/-- The lines on a sentence. -/
def sentence (s : Sentence) : List String :=
  if s.fields.isEmpty then ["Not an NMEA sentence (missing '$')"]
  else
    ["Talker:       " ++ headerPart s.talker?,
     "Message code: " ++ headerPart s.code?,
     "Fields:       " ++ toString (s.fieldCount - 1)]
      ++ (s.fields.drop 1).zipIdx.map (fun (field, i) =>
        "  " ++ place (i + 1) ++ ". " ++ quoted field)
      ++ [checksumLine s]

/-- A sentence passes when it has a header and a valid checksum. -/
def passes (s : Sentence) : Bool :=
  s.tokens?.isSome && s.checksumValid

/-- The note that a log keeps of a received line. -/
def note (line : Bytes) : String :=
  let s := Sentence.ofBytes line
  if s.fields.isEmpty then
    "Sentence does not start with '$': " ++ quoted ((Sentence.content line).take 16)
  else
    let part := fun (p : Option (List Char)) => String.ofList (p.getD "None".toList)
    "Parsed sentence " ++ part s.talker? ++ part s.code?
      ++ s!": {s.fieldCount} fields, checksum "
      ++ (if s.checksumValid then "valid" else "invalid")

end Report

end Nmea0183
