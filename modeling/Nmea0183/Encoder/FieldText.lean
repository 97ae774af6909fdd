import Nmea0183.Fault

/-!
# Texts of fields

The text that a value has as a field depends on the value and on the modes of the
encoder, and on nothing else.  A value that has no text is refused with its cause.
-/

namespace Nmea0183

/-- The base in which integers are written. -/
inductive Base where
  | decimal
  | hexadecimal
  deriving DecidableEq, Repr

/-- How numbers are written at the moment. -/
structure Modes where
  base : Base
  floatFormat : FloatFormat
  precision : Nat
  /-- The least number of digits in hexadecimal. -/
  hexWidth : Nat
  deriving DecidableEq, Repr

/-- The least integer that a field holds. -/
def int32Min : Int := -0x80000000

/-- The greatest integer that a field holds in decimal. -/
def int32Max : Int := 0x7FFFFFFF

/-- The greatest integer that a field holds in hexadecimal. -/
def uint32Max : Int := 0xFFFFFFFF

namespace FieldText

/-- An integer in decimal. -/
def decimal (i : Int) : List Char :=
  if i < 0 then '-' :: Nat.toDigits 10 i.natAbs else Nat.toDigits 10 i.natAbs

/-- An integer in hexadecimal, a negative one by its two's complement in 32 bits. -/
def hexadecimal (width : Nat) (i : Int) : List Char :=
  '0' :: 'x' :: Hex.upper width (i % 0x100000000).toNat

/-- The text of an integer. -/
def ofInt (m : Modes) (i : Int) : Except EncodeFault (List Char) :=
  if i < int32Min ∨ uint32Max < i then .error (.notIn32Bits i)
  else match m.base with
    | .hexadecimal => .ok (hexadecimal m.hexWidth i)
    | .decimal => if int32Max < i then .error (.notInSigned32Bits i) else .ok (decimal i)

/-- The text of a floating point number. -/
def ofFloat (m : Modes) (x : Binary64) : List Char :=
  x.text m.floatFormat m.precision

/-- The text of a string, which is the string itself if the wire can carry it. -/
def ofString (s : String) : Except EncodeFault (List Char) :=
  let chars := s.toList
  if !chars.all Ascii.isAscii then .error (.notAscii s)
  else
    match Wire.reserved.filter chars.contains with
    | [] => .ok chars
    | found => .error (.reserved s found)

/-- The text of a value that has to be an integer; truth values are none. -/
def ofIntValue (m : Modes) (v : Value) : Except EncodeFault (List Char) :=
  match v.integer? with
  | some i => ofInt m i
  | none => .error (.expected "int" v.typeName)

/-- The number that a value stands for where a floating point one is wanted: an integer is
rounded, and truth values are no numbers. -/
def floatOf (v : Value) : Except Fault Binary64 :=
  match v with
  | .float x => .ok x
  | _ =>
    match v.integer? with
    | none => .error (.encode (.expected "float" v.typeName))
    | some i =>
      match Binary64.ofInt? i with
      | some x => .ok x
      | none => .error .floatOverflow

/-- The text of a value that has to be a number. -/
def ofFloatValue (m : Modes) (v : Value) : Except Fault (List Char) :=
  (floatOf v).map (ofFloat m)

/-- The text of a value that has to be a string. -/
def ofStringValue : Value → Except EncodeFault (List Char)
  | .text s => ofString s
  | v => .error (.expected "str" v.typeName)

/-- The text of a value by its type: nothing for the absence of a value, 0 or 1 for a truth
value, and for a member of an enumeration its integer. -/
def ofValue (m : Modes) (v : Value) : Except EncodeFault (List Char) :=
  match v with
  | .null => .ok []
  | .register r => ofInt m r.toNat
  | .bool b => ofInt m (if b then 1 else 0)
  | .member _ _ (.int i) _ => ofInt m i
  | .member .. => .error (.memberValue v)
  | .int i => ofInt m i
  | .float x => .ok (ofFloat m x)
  | .text s => ofString s
  | _ => .error (.unsupported v.typeName)

end FieldText

end Nmea0183
