import Nmea0183.Value

/-!
# Registers with their source

A register shows the integer that it was made of as it was given, so that one
made of a member of an enumeration shows the member.  A change of its bits makes
a register of the plain number.
-/

namespace Nmea0183

/-- A register with the value that it was made of, which counts as its number. -/
structure SourcedRegister where
  register : Register
  source : Value
  integer_source : source.integer? = some (register.toNat : Int)

namespace SourcedRegister

/-- A register made of a plain number. -/
def ofRegister (r : Register) : SourcedRegister where
  register := r
  source := .int r.toNat
  integer_source := rfl

/-- The register of a value, which has to be an integer. -/
def ofValue (v : Value) : Except RegisterFault SourcedRegister :=
  match hv : v.integer? with
  | none => .error (.notInteger v.typeName)
  | some i =>
    match hr : Register.ofInt i with
    | .error f => .error f
    | .ok r => .ok ⟨r, v, by rw [hv, Register.toNat_of_ofInt hr]⟩

/-- The register with one bit set or cleared. -/
def withBit (r : SourcedRegister) (index : Int) (on : Bool) :
    Except RegisterFault SourcedRegister :=
  (r.register.withBit index on).map ofRegister

/-- How a message shows a register. -/
def shown (r : SourcedRegister) : String :=
  "Register32(value=" ++ r.source.shown ++ ")"

end SourcedRegister

end Nmea0183
