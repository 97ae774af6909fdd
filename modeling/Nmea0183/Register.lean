import Nmea0183.Hex

/-!
# Registers

A device reports flags as the bits of a register of 32 bits.  A register is
written on the wire in hexadecimal and shown with all its eight digits.
-/

namespace Nmea0183

/-- A register of 32 bits. -/
structure Register where
  word : UInt32
  deriving DecidableEq, Repr

/-- Why a number is no register, or no place in one. -/
inductive RegisterFault where
  /-- Not an integer at all, but of the named type. -/
  | notInteger (typeName : String)
  /-- An integer below zero or of more than 32 bits. -/
  | outOfRange (value : Int)
  /-- No bit of a register. -/
  | bitIndex (index : Int)
  deriving DecidableEq, Repr

namespace Register

/-- The greatest value that a register holds. -/
def maxValue : Nat := 0xFFFFFFFF

/-- The register of a value. -/
def ofInt (value : Int) : Except RegisterFault Register :=
  if 0 ≤ value ∧ value ≤ maxValue then .ok ⟨UInt32.ofNat value.toNat⟩
  else .error (.outOfRange value)

/-- The value of a register. -/
def toNat (r : Register) : Nat :=
  r.word.toNat

/-- The register of a value has that value. -/
theorem toNat_of_ofInt {value : Int} {r : Register} (h : ofInt value = .ok r) :
    (r.toNat : Int) = value := by
  unfold ofInt at h
  split at h
  · next bounds =>
    obtain ⟨nonneg, le⟩ := bounds
    injection h with h
    subst h
    simp only [toNat, UInt32.toNat_ofNat', maxValue] at *
    omega
  · cases h

/-- The place of a bit, counted from the lowest. -/
def place (index : Int) : Except RegisterFault Nat :=
  if 0 ≤ index ∧ index < 32 then .ok index.toNat else .error (.bitIndex index)

/-- Whether a bit is set. -/
def bit (r : Register) (index : Int) : Except RegisterFault Bool :=
  (place index).map r.toNat.testBit

/-- The register with one bit set or cleared. -/
def withBit (r : Register) (index : Int) (on : Bool) : Except RegisterFault Register := do
  let mask := (1 : UInt32) <<< UInt32.ofNat (← place index)
  return ⟨if on then r.word ||| mask else r.word &&& ~~~mask⟩

/-- A register with all its digits. -/
def shown (r : Register) : String :=
  "0x" ++ String.ofList (Hex.upper 8 r.toNat)

end Register

namespace RegisterFault

/-- The wording of a fault. -/
def message : RegisterFault → String
  | notInteger typeName => s!"Register32 value must be an int, got {typeName}"
  | outOfRange value => s!"Register32 value must be 0-0xFFFFFFFF, got {value}"
  | bitIndex index => s!"Register bit index must be 0-31, got {index}"

end RegisterFault

end Nmea0183
