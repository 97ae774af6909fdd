import Nmea0183.Registry

/-!
# Sample records

Records that know how to write and read themselves, records that know only one of
the two or neither, and routines to register for them.
-/

namespace Nmea0183.Samples

/-! ### Records -/

/-- A record without routines. -/
def point : RecordType where
  name := "Point"
  attributes := [("x", .int 0), ("y", .int 0)]

/-- A record with both routines. -/
def plain : RecordType where
  name := "Plain"
  attributes := [("count", .int 0)]

/-- A record with a message code. -/
def plainCoded : RecordType where
  name := "PlainCoded"
  attributes := [("a", .int 7), ("b", .float (.ofBits 0x40091EB851EB851F))]
  code := .text "RMC"

/-- A record with a message code that holds a comma. -/
def plainBadCode : RecordType where
  name := "PlainBadCode"
  attributes := [("count", .int 0)]
  code := .text "R,C"

/-- A record that can only be written. -/
def writeOnly : RecordType where
  name := "WriteOnly"
  attributes := [("v", .int 0)]

/-- A record that can only be read. -/
def readOnly : RecordType where
  name := "ReadOnly"
  attributes := [("v", .int 0)]

/-- A record that complains about numbers above 100. -/
def percent : RecordType where
  name := "Percent"
  attributes := [("value", .int 0)]

/-- A record of all the fields that a sentence has. -/
def bag : RecordType where
  name := "Bag"
  attributes := [("items", .list [])]
  code := .text "BAG"

/-- A record without routines that cannot be changed, for readers that answer with a new one. -/
def frozen : RecordType where
  name := "Frozen"
  attributes := [("value", .int 0)]
  immutable := true

/-- All records. -/
def records : List RecordType :=
  [point, plain, plainCoded, plainBadCode, writeOnly, readOnly, percent, bag, frozen]

/-! ### Routines -/

/-- A routine that writes what a payload gives, or fails with it. -/
def writer (label : String) (values : Payload → Except Fault (List Value)) : Writer :=
  .ofEncoding label fun p => match values p with
    | .ok values => Encoder.writeAll values
    | .error f => throw f

/-- A routine that writes the values under some names. -/
def writing (label : String) (names : List String) : Writer :=
  writer label fun p => names.mapM p.get

/-- A routine that reads an integer under each of some names. -/
def readingIntegers (label : String) (names : List String) : Reader where
  label := label
  run := do
    for name in names do
      Reading.assign name (.int (← Reading.take .int))
    return none

/-- A routine that reads an integer and a floating point number. -/
def codedReader : Reader where
  label := "coded"
  run := do
    Reading.assign "a" (.int (← Reading.take .int))
    Reading.assign "b" (.float (← Reading.take .float))
    return none

/-- A routine that reads a percentage, and complains about one above 100. -/
def percentReader : Reader where
  label := "percent"
  run := do
    let n ← Reading.take .uint
    if 100 < n then Decoder.flagLast "percentage" "out of range"
    else Reading.assign "value" (.int n)
    return none

/-- The values that a value is a row of: the items of a list, the characters of a text, the numbers
of bytes.  Other collections count as empty. -/
def row : Value → Except Fault (List Value)
  | .list items => .ok items
  | .text s => .ok (s.toList.map fun c => .text (String.ofList [c]))
  | .bytes b => .ok (b.map fun x => .int x.toNat)
  | v =>
    if v.typeName ∈ ["dict", "tuple", "set", "bytearray"] then .ok []
    else .error (.noRow v.typeName)

/-- A routine that writes every item of a list. -/
def bagWriter : Writer :=
  writer "bag" fun p => p.get "items" >>= row

/-- A routine that reads all fields that are left as the items of a list. -/
def bagReader : Reader where
  label := "bag"
  run := do
    let d := (← get).decoder
    let items ← (List.range d.remaining).mapM fun _ =>
      return Value.text (← Reading.take .string)
    Reading.assign "items" (.list items)
    return none

/-- The records that have routines of their own, and these. -/
def routines : List (RecordType × OwnRoutines) :=
  [(plain, ⟨writing "count" ["count"], readingIntegers "count" ["count"]⟩),
   (plainBadCode, ⟨writing "count" ["count"], readingIntegers "count" ["count"]⟩),
   (plainCoded, ⟨writing "coded" ["a", "b"], codedReader⟩),
   (writeOnly, ⟨writing "v" ["v"], none⟩),
   (readOnly, ⟨none, readingIntegers "v" ["v"]⟩),
   (percent, ⟨writing "percent" ["value"], percentReader⟩),
   (bag, ⟨bagWriter, bagReader⟩)]

/-- The routines that a record has of its own. -/
def own (t : RecordType) : OwnRoutines :=
  (routines.lookup t).getD {}

/-- Writes the coordinates of a point. -/
def pointWriter : Writer := writing "point" ["x", "y"]

/-- Writes the coordinates of a point in hexadecimal, and leaves the encoder in decimal. -/
def pointHexWriter : Writer :=
  writer "point_hex" fun p =>
    return [.manipulator .hex, ← p.get "x", ← p.get "y", .manipulator .dec]

/-- Writes the one value of a record. -/
def valueWriter : Writer := writing "value" ["value"]

/-- Writes the same fields whatever the payload. -/
def constWriter : Writer :=
  writer "const" fun _ => return [.text "X", .null, .int 1]

/-- All writers to register. -/
def writers : List Writer := [pointWriter, pointHexWriter, valueWriter, constWriter]

/-- Reads the coordinates of a point in place. -/
def pointReader : Reader := readingIntegers "point" ["x", "y"]

/-- Answers with a new point. -/
def newPointReader : Reader where
  label := "point_new"
  run := do
    let x ← Reading.take .int
    let y ← Reading.take .int
    return some { type := .record point, values := [.int x, .int y] }

/-- Answers with a new frozen record. -/
def frozenReader : Reader where
  label := "frozen"
  run := do
    let n ← Reading.take .int
    return some { type := .record frozen, values := [.int n] }

/-- Answers with a text, whatever was asked for. -/
def wrongReader : Reader where
  label := "wrong"
  run := return some (.ofValue (.text "oops"))

/-- Passes over one field. -/
def skipReader : Reader where
  label := "skip"
  run := do
    let _ ← Decoder.next?
    return none

/-- All readers to register. -/
def readers : List Reader := [pointReader, newPointReader, frozenReader, wrongReader, skipReader]

end Nmea0183.Samples
