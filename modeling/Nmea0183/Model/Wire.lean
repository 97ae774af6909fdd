import Nmea0183.Decoder.Basic
import Nmea0183.Encoder.Basic
import Nmea0183.Model.Schema

/-!
# Writing and reading the fields of a model

The values of an instance are written as one field each, in the order of the
schema; a register is written in hexadecimal whatever the base of the encoder.
Reading goes through the same fields in the same order; a field that cannot be
read, or whose value fails the test of its field, leaves a complaint and the old
value.  A fault that the reader of a field does not handle ends the reading, and
so does a test that cannot be applied to the value of its field.
-/

namespace Nmea0183

namespace Encoder

/-- Does something in hexadecimal.  An encoder that was in decimal is so again afterwards, also
after a failure. -/
def inHexadecimal {α : Type} (action : Encoding α) : Encoding α := fun e =>
  let withBase := fun (base : Base) (e : Encoder) => { e with modes := { e.modes with base } }
  let back := fun (e' : Encoder) => if e.modes.base = .decimal then withBase .decimal e' else e'
  match action (withBase .hexadecimal e) with
  | .ok a e' => .ok a (back e')
  | .error f e' => .error f (back e')

end Encoder

namespace FieldSchema

/-- Writes the value of a field. -/
def write (s : FieldSchema) (v : Value) : Encoding Unit :=
  if s.kind = .register ∧ v ≠ .null then Encoder.inHexadecimal (Encoder.write v)
  else Encoder.write v

/-- The value of a field after a new one was assigned, unless the new one fails the test; then
the old value stays, and the field that was read last is complained about. -/
def assign (s : FieldSchema) (typeName : String) (old new : Value) :
    Decoding (Except Fault Value) := fun d =>
  match s.constraint.test new with
  | .error f => (.error f, d)
  | .ok none => (.ok new, d)
  | .ok (some text) =>
    (.ok old, (Decoder.flagLast s.name s!"rejected by {typeName}: {text}" d).2)

/-- The value of a field after reading.  An empty text of an optional field stands for the
absence of a value, which passes every test. -/
def read (s : FieldSchema) (typeName : String) (old : Value) :
    Decoding (Except Fault Value) := fun d =>
  if s.optional ∧ d.peek? = some [] then (.ok .null, (Decoder.next? d).2)
  else
    match Decoder.take s.kind.reader d with
    | (.error f, d') => (.error f, d')
    | (.ok new, d') =>
      if d.errors.length < d'.errors.length then (.ok old, d') else s.assign typeName old new d'

end FieldSchema

namespace Model

/-- Writes the values of an instance. -/
def writeFields : List FieldSchema → List Value → Encoding Unit
  | s :: schemas, v :: values => do
    s.write v
    writeFields schemas values
  | _, _ => pure ()

/-- The values of an instance after reading, and the fault that ended it, if one did. -/
def readFields (typeName : String) :
    List FieldSchema → List Value → Decoding (List Value × Option Fault)
  | s :: schemas, old :: values => do
    match ← s.read typeName old with
    | .error f => return (old :: values, some f)
    | .ok v =>
      let (rest, stopped) ← readFields typeName schemas values
      return (v :: rest, stopped)
  | _, values => return (values, none)

end Model

end Nmea0183
