import Nmea0183.Decoder.FieldReader
import Nmea0183.Model.Basic

/-!
# Schemas

A schema says how each field of a model stands on the wire.  A model has one
unless a field has a type that no field of a sentence can hold.
-/

namespace Nmea0183

/-- The kinds of fields on the wire. -/
inductive WireKind where
  | bool
  | enumeration (e : Enumeration)
  | int
  | float
  | text
  | register
  deriving DecidableEq, Repr

namespace WireKind

/-- The name of a kind. -/
def label : WireKind → String
  | bool => "bool"
  | enumeration _ => "enum"
  | int => "int"
  | float => "float"
  | text => "str"
  | register => "register"

/-- The name of the type of the values. -/
def typeName : WireKind → String
  | bool => "bool"
  | enumeration e => e.name
  | int => "int"
  | float => "float"
  | text => "str"
  | register => "Register32"

/-- A kind as a layout describes it. -/
def describe : WireKind → String
  | enumeration e => s!"enum {e.name} ({e.shownMembers})"
  | register => "register (hex)"
  | bool => "bool (0/1)"
  | kind => kind.label

/-- The enumeration of a kind that has one. -/
def enumeration? : WireKind → Option Enumeration
  | enumeration e => some e
  | _ => none

/-- The kind as limits see it. -/
def limitedKind : WireKind → LimitedKind
  | int | float => .number
  | text => .text
  | bool | enumeration _ | register => .other

/-- The reader of the fields of a kind. -/
def reader : WireKind → FieldReader Value
  | bool => FieldReader.bool.map .bool
  | enumeration e => FieldReader.member e
  | int => FieldReader.int.map .int
  | float => FieldReader.float.map .float
  | text => FieldReader.string.map .text
  | register => FieldReader.register.map .register

end WireKind

/-- A field as it stands on the wire. -/
structure FieldSchema where
  name : String
  kind : WireKind
  optional : Bool
  /-- What a value of the field is tested for before it is assigned. -/
  constraint : Constraint

namespace FieldSchema

/-- A field as a layout describes it. -/
def describe (s : FieldSchema) : String :=
  if s.optional then s.kind.describe ++ ", optional" else s.kind.describe

end FieldSchema

namespace FieldType

/-- The reader of fields of a type, if there is one.  Members of any enumeration can be read, also
of one that no model may declare; those that are no integers are never found. -/
def reader : FieldType → Except Fault (FieldReader Value)
  | bool => .ok WireKind.bool.reader
  | int => .ok WireKind.int.reader
  | float => .ok WireKind.float.reader
  | text => .ok WireKind.text.reader
  | register => .ok WireKind.register.reader
  | enumeration e => .ok (WireKind.enumeration e).reader
  | unsupported type => .error (.unreadable type.shown)

end FieldType

namespace Field

/-- The kind of a field, if it has one. -/
def kind (f : Field) : Except SchemaFault WireKind :=
  match f.type with
  | .bool => .ok .bool
  | .enumeration e =>
    if e.isIntegerValued then .ok (.enumeration e) else .error (.enumValues f.name e.name)
  | .int => .ok .int
  | .float => .ok .float
  | .text => .ok .text
  | .register => .ok .register
  | .unsupported .integerOrText => .error (.union f.name)
  | .unsupported type => .error (.unsupported f.name type.shown)

/-- The schema of a field. -/
def schema (f : Field) : Except SchemaFault FieldSchema :=
  f.kind.map fun kind =>
    { name := f.name, kind, optional := f.optional
      constraint := f.limits.constraint kind.limitedKind }

end Field

namespace Model

/-- The schemas of the fields, up to the first field that has none. -/
def schema (m : Model) : Except SchemaFault (List FieldSchema) :=
  m.fields.mapM Field.schema

end Model

end Nmea0183
