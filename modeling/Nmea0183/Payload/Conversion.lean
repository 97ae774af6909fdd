import Nmea0183.Payload

/-!
# Payloads from integers

A field that holds an integer can be read as a payload of any type that makes one
from an integer.  Some types refuse certain integers, which the reader complains
about; others make no instance from an integer at all, which is a fault.
-/

namespace Nmea0183

namespace PayloadType

/-- The bare value that the type of a name makes from an integer, if it does not refuse it. -/
def bareOfInt? (typeName : String) (i : Int) : Except InstanceFault (Option Value) :=
  match typeName with
  | "int" => .ok (some (.int i))
  | "bool" => .ok (some (.bool (i != 0)))
  | "float" => .ok ((Binary64.ofInt? i).map .float)
  | "str" => .ok (some (.text (toString i)))
  | "Register32" => .ok ((Register.ofInt i).toOption.map .register)
  | "bytes" => .ok (if i < 0 then none else some (.bytes (List.replicate i.toNat 0)))
  | "NoneType" => .error (.nothingTaken "NoneType")
  | "object" => .error (.nothingTaken "object()")
  | _ => .error .notRow

/-- The payload that a type makes from an integer, if it does not refuse it.  A record takes it as
its first attribute; the members of an enumeration are not known from its name. -/
def ofInt? (type : PayloadType) (i : Int) : Except InstanceFault (Option Payload) :=
  let bare := fun (v : Option Value) => v.map fun v => { type, values := [v] }
  match type with
  | .model _ => .error .byNameOnly
  | .record r => .ok (some { type, values := .int i :: (r.attributes.drop 1).map Prod.snd })
  | .enumeration _ => .ok none
  | .applied .. => .error .notRow
  | .union _ => .error .choice
  | .value typeName => (bareOfInt? typeName i).map bare

/-- Reads an integer and makes a payload of a type from it; there is no payload without one. -/
def reader (type : PayloadType) : FieldReader Payload where
  fallback := .ofValue .null
  read text := do
    let i ← FieldReader.int.read text
    match type.ofInt? i with
    | .ok (some p) => return p
    | .ok none => throw (.complaint (.notMember type.name i))
    | .error f => throw (.fault (.construction f))

end PayloadType

end Nmea0183
