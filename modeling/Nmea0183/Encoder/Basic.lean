import Nmea0183.Checksum
import Nmea0183.Config
import Nmea0183.Encoder.Buffer
import Nmea0183.Encoder.FieldText
import Nmea0183.Token

/-!
# Encoder

An encoder writes one sentence into a buffer of fixed size: the header when it is
made, each field with the comma after it, and at the end the checksum in place of
the last comma.  An operation that fails has written nothing; only a row of
writes leaves what it wrote before the value that failed.
-/

namespace Nmea0183

/-- The state of a sentence that is being written. -/
structure Encoder where
  talker : Talker
  code : MessageCode
  modes : Modes
  /-- All bytes of the window, written or not. -/
  buffer : Bytes
  /-- How many bytes of the buffer are written. -/
  length : Nat
  /-- The checksum of the sentence once it is complete. -/
  checksum : Option UInt8
  deriving DecidableEq, Repr

/-- An operation on an encoder, which leaves a state also when it fails. -/
abbrev Encoding (α : Type) := EStateM Fault Encoder α

namespace Encoder

/-! ### The state -/

/-- The size of the buffer. -/
def capacity (e : Encoder) : Nat :=
  e.buffer.length

/-- The room that is left. -/
def remaining (e : Encoder) : Nat :=
  e.capacity - e.length

/-- The bytes written so far. -/
def written (e : Encoder) : Bytes :=
  e.buffer.take e.length

/-- The sentence is complete. -/
def isFinalized (e : Encoder) : Bool :=
  e.checksum.isSome

/-- The state with a text written behind what is there. -/
def put (e : Encoder) (text : List Char) : Encoder :=
  { e with
    buffer := Buffer.overwrite e.buffer e.length (Latin.encode text)
    length := e.length + text.length }

/-- Writing inside the buffer keeps its size. -/
theorem capacity_put {e : Encoder} {text : List Char} (hl : e.length ≤ e.capacity)
    (ht : text.length ≤ e.remaining) : (e.put text).capacity = e.capacity := by
  apply Buffer.length_overwrite
  simp only [remaining, capacity, Latin.length_encode] at *
  omega

/-- What is written goes behind what was there. -/
theorem written_put {e : Encoder} {text : List Char} (hl : e.length ≤ e.capacity) :
    (e.put text).written = e.written ++ Latin.encode text := by
  simp only [put, written, Buffer.overwrite, capacity] at *
  have size : (e.buffer.take e.length ++ Latin.encode text).length = e.length + text.length := by
    rw [List.length_append, List.length_take, Latin.length_encode, Nat.min_eq_left hl]
  rw [List.take_append_of_le_length (by omega), List.take_of_length_le (by omega)]

/-- Writes a part of the sentence if there is room for it. -/
def reserve (part : Part) (text : List Char) : Encoding Unit := fun e =>
  if e.remaining < text.length then .error (.capacity part text.length e.remaining) e
  else .ok () (e.put text)

/-! ### The header -/

/-- The header of the sentence. -/
def headerText (e : Encoder) : List Char :=
  Wire.start :: e.talker.chars ++ e.code.chars ++ [Wire.comma]

/-- Discards everything written and starts afresh with the same header and the same modes. -/
def reset : Encoding Unit := do
  modify fun e => { e with length := 0, checksum := none }
  reserve .header (← get).headerText

/-- An encoder on a buffer, with the header written. -/
def ofTokens (buffer : Buffer) (talker : Talker) (code : MessageCode) (config : Config) :
    Except Fault Encoder :=
  let e : Encoder :=
    { talker, code
      modes := ⟨.decimal, config.floatFormat, config.floatPrecision, config.hexWidth⟩
      buffer := buffer.window
      length := 0
      checksum := none }
  if !buffer.writable then .error .readOnlyBuffer
  else match reserve .header e.headerText e with
    | .ok _ e => .ok e
    | .error f _ => .error f

/-- An encoder on a buffer, for a header that is still to be checked. -/
def start (buffer : Buffer) (talker code : Value) (config : Config) : Except Fault Encoder := do
  if !buffer.writable then throw .readOnlyBuffer
  let talker ← (Token.ofValue .talker talker).mapError .header
  let code ← (Token.ofValue .messageCode code).mapError .header
  ofTokens buffer talker code config

/-! ### Modes -/

/-- Switches the base of integers. -/
def setBase (base : Base) : Encoding Unit :=
  modify fun e => { e with modes := { e.modes with base } }

/-- Switches the form of floating point numbers, and their precision if one is given. -/
def setFloatFormat (format : Value) (precision : Option Int) : Encoding Unit := do
  match format with
  | .floatFormat f =>
    match precision with
    | none => modify fun e => { e with modes := { e.modes with floatFormat := f } }
    | some p =>
      if 0 ≤ p ∧ p ≤ 17 then
        modify fun e =>
          { e with modes := { e.modes with floatFormat := f, precision := p.toNat } }
      else throw (.encode (.precision p))
  | other => throw (.encode (.notFloatFormat other))

/-! ### Fields -/

/-- Writes a field with the comma after it. -/
def append (text : List Char) : Encoding Unit := do
  if (← get).isFinalized then throw (.encode .finalized)
  reserve .field (text ++ [Wire.comma])

/-- Writes the field that the modes of the encoder give, unless they give none. -/
def appendText (text : Modes → Except Fault (List Char)) : Encoding Unit := do
  match text (← get).modes with
  | .ok t => append t
  | .error f => throw f

/-- Writes an integer in the current base. -/
def writeInt (v : Value) : Encoding Unit :=
  appendText fun m => (FieldText.ofIntValue m v).mapError .encode

/-- Writes a floating point number in the current form. -/
def writeFloat (v : Value) : Encoding Unit :=
  appendText fun m => FieldText.ofFloatValue m v

/-- Writes a string as it stands. -/
def writeString (v : Value) : Encoding Unit :=
  appendText fun _ => (FieldText.ofStringValue v).mapError .encode

/-- Writes a register in the current base. -/
def writeRegister (v : Value) : Encoding Unit :=
  match v with
  | .register r => appendText fun m => (FieldText.ofInt m r.toNat).mapError .encode
  | _ => throw (.noAttribute v.typeName "to_uint")

/-- Writes an empty field. -/
def writeEmpty : Encoding Unit :=
  append []

/-- Writes a value by its type; a switch changes the modes instead. -/
def write : Value → Encoding Unit
  | .manipulator .hex => setBase .hexadecimal
  | .manipulator .dec => setBase .decimal
  | .manipulator .emptyField => writeEmpty
  | .floatFormat f => setFloatFormat (.floatFormat f) none
  | v => appendText fun m => (FieldText.ofValue m v).mapError .encode

/-- Writes values one after the other, up to the first that fails. -/
def writeAll : List Value → Encoding Unit
  | [] => pure ()
  | v :: rest => do
    write v
    writeAll rest

/-! ### The end of the sentence -/

/-- The length without a comma at the end of what is written. -/
def lengthBeforeComma (e : Encoder) : Nat :=
  if e.written.getLast? = some Wire.commaByte then e.length - 1 else e.length

/-- The state with the checksum in place of the last comma. -/
def sealed (e : Encoder) : Encoder :=
  let e := { e with length := e.lengthBeforeComma }
  let sum := Checksum.ofSentence e.buffer (some e.length)
  { e.put (Wire.star :: Checksum.digits sum ++ ['\r', '\n']) with checksum := some sum }

/-- Completes the sentence and returns it; a complete one is returned as it is. -/
def endMessage : Encoding Bytes := fun e =>
  if e.isFinalized ∨ e.length = 0 then .ok e.written e
  else
    let available := e.capacity - e.lengthBeforeComma
    if available < Wire.suffixLength then
      .error (.capacity .suffix Wire.suffixLength available) e
    else .ok e.sealed.written e.sealed

end Encoder

end Nmea0183
