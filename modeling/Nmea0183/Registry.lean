import Nmea0183.Payload
import Nmea0183.Token

/-!
# Registry

How payloads of a type are written and read is said by two routines.  A model has
those of its schema, a record may have its own, and any type may be given
routines by registering them, which then go before all others.  The first
registration of a type stands until it is taken back.
-/

namespace Nmea0183

/-- What a writing routine works on: the payload, and the encoder. -/
structure Writing where
  payload : Payload
  encoder : Encoder

/-- A routine that writes a payload.  Routines are the same when their labels are. -/
structure Writer where
  label : String
  run : EStateM Fault Writing Unit
  /-- The routine leaves the payload as it is, also when it fails. -/
  keepsPayload : ∀ w, match run w with
    | .ok _ w' => w'.payload = w.payload
    | .error _ w' => w'.payload = w.payload

namespace Writer

/-- The routine that writes what a payload gives, and only looks at the payload. -/
def ofEncoding (label : String) (write : Payload → Encoding Unit) : Writer where
  label := label
  run := fun w => match write w.payload w.encoder with
    | .ok _ encoder => .ok () { w with encoder }
    | .error f encoder => .error f { w with encoder }
  keepsPayload w := by cases write w.payload w.encoder <;> rfl

/-- What the routine does to an encoder. -/
def write (writer : Writer) (p : Payload) : Encoding Unit := fun encoder =>
  match writer.run ⟨p, encoder⟩ with
  | .ok _ w => .ok () w.encoder
  | .error f w => .error f w.encoder

/-- The routine does nothing else. -/
theorem run_eq (writer : Writer) (w : Writing) :
    writer.run w = match writer.write w.payload w.encoder with
      | .ok _ encoder => .ok () { w with encoder }
      | .error f encoder => .error f { w with encoder } := by
  have hkeeps := writer.keepsPayload w
  rw [write]
  cases hrun : writer.run w with
  | ok a w' =>
    rw [hrun] at hkeeps
    rw [← hkeeps]
  | error f w' =>
    rw [hrun] at hkeeps
    rw [← hkeeps]

/-- A routine that was made of what it writes writes just that. -/
theorem write_ofEncoding (label : String) (write : Payload → Encoding Unit) (p : Payload) :
    (ofEncoding label write).write p = write p := by
  funext encoder
  rw [Writer.write, ofEncoding]
  dsimp only
  cases write p encoder <;> rfl

end Writer

/-- What a reading routine works on: the payload, and the sentence. -/
structure Reading where
  payload : Payload
  decoder : Decoder

namespace Reading

/-- A step of the decoder is a step of reading. -/
instance : MonadLift (StateM Decoder) (EStateM Fault Reading) where
  monadLift step := fun r =>
    let (a, decoder) := step r.decoder
    .ok a { r with decoder }

/-- Takes the next field by a reader. -/
def take {α : Type} (fieldReader : FieldReader α) : EStateM Fault Reading α := fun r =>
  match Decoder.take fieldReader r.decoder with
  | (.ok a, decoder) => .ok a { r with decoder }
  | (.error f, decoder) => .error f { r with decoder }

/-- Puts a value under a name into the payload, as `Payload.set` allows. -/
def assign (name : String) (v : Value) : EStateM Fault Reading Unit := fun r =>
  match r.payload.set name v with
  | .ok payload => .ok () { r with payload }
  | .error f => .error f r

end Reading

/-- A routine that reads a payload in place, and may answer with another payload to be held
instead.  Routines are the same when their labels are. -/
structure Reader where
  label : String
  run : EStateM Fault Reading (Option Payload)

/-- The routines for the payloads of a type. -/
structure Codec where
  writer : Writer
  reader : Reader

namespace Codec

/-- Both routines are the same. -/
def same (a b : Codec) : Bool :=
  a.writer.label == b.writer.label && a.reader.label == b.reader.label

end Codec

namespace Model

/-- Writes the fields of an instance by the schema of its model. -/
def writer : Writer :=
  .ofEncoding "schema" fun p => match p.type with
    | .model m => match m.schema with
      | .ok schemas => writeFields schemas p.values
      | .error f => throw (.schema f)
    | _ => pure ()

/-- Reads the fields of an instance by the schema of its model. -/
def reader : Reader where
  label := "schema"
  run := fun r => match r.payload.type with
    | .model m => match m.schema with
      | .ok schemas =>
        let ((values, stopped), decoder) := readFields m.name schemas r.payload.values r.decoder
        let r := { payload := { r.payload with values }, decoder }
        match stopped with
        | none => .ok none r
        | some f => .error f r
      | .error f => .error (.schema f) r
    | _ => .ok none r

/-- The routines of models. -/
def codec : Codec := ⟨writer, reader⟩

end Model

/-- The routines that records have of their own, either of which may be missing. -/
structure OwnRoutines where
  writer : Option Writer := none
  reader : Option Reader := none

/-- A registration. -/
structure Entry where
  type : PayloadType
  codec : Codec
  code : Option MessageCode

namespace Entry

/-- Registrations that say the same. -/
def same (a b : Entry) : Bool :=
  a.type = b.type && a.codec.same b.codec && a.code == b.code

end Entry

/-- The registrations, and the routines that records have without any. -/
structure Registry where
  own : RecordType → OwnRoutines := fun _ => {}
  entries : List Entry := []

/-- The routines for a type and the message code that comes with them. -/
structure Resolution where
  codec : Codec
  code : Value
  /-- They come from a registration. -/
  registered : Bool

namespace Registry

/-- The registration of a type. -/
def find? (r : Registry) (type : PayloadType) : Option Entry :=
  r.entries.find? fun e => e.type = type

/-- Registers routines for a type.  A registration that says the same as the one that stands is
that one. -/
def register (r : Registry) (type : PayloadType) (writer : Option Writer)
    (reader : Option Reader) (code : Value) : Except Fault (Registry × Entry) := do
  let some writer := writer | throw (.registry .noRoutine)
  let some reader := reader | throw (.registry .noRoutine)
  let code ← match code with
    | .null => pure none
    | v => (Token.ofValue .messageCode v).mapError .header |>.map some
  let entry : Entry := ⟨type, ⟨writer, reader⟩, code⟩
  match r.find? type with
  | none => return ({ r with entries := r.entries ++ [entry] }, entry)
  | some standing =>
    if standing.same entry then return (r, standing)
    else throw (.registry (.conflict type.name))

/-- Takes the registration of a type back, if there is one. -/
def unregister (r : Registry) (type : PayloadType) : Registry :=
  { r with entries := r.entries.filter fun e => e.type ≠ type }

/-- The routines that a type has without a registration. -/
def ownCodec (r : Registry) (type : PayloadType) : Except SchemaFault Codec :=
  match type with
  | .model m => m.schema.map fun _ => Model.codec
  | .record t =>
    match r.own t with
    | ⟨some writer, some reader⟩ => .ok ⟨writer, reader⟩
    | ⟨none, some _⟩ => .error (.noRoutines t.name ["write_payload"])
    | ⟨some _, none⟩ => .error (.noRoutines t.name ["read_payload"])
    | ⟨none, none⟩ => .error (.noRoutines t.name ["write_payload", "read_payload"])
  | type => .error (.noRoutines type.name ["write_payload", "read_payload"])

/-- The routines for a type. -/
def codecFor (r : Registry) (type : PayloadType) : Except Fault Resolution :=
  match r.find? type with
  | some e =>
    .ok
      { codec := e.codec
        code := match e.code with
          | some c => .text c.text
          | none => .null
        registered := true }
  | none =>
    ((r.ownCodec type).mapError .schema).map fun codec =>
      { codec, code := type.code, registered := false }

/-- The message code of a type, if it has one: that of its registration, or else the one that is
declared with the type, which may turn out to be no message code. -/
def codeFor? (r : Registry) (type : PayloadType) : Except Fault (Option MessageCode) :=
  match (r.find? type).bind Entry.code with
  | some c => .ok (some c)
  | none =>
    match type.code with
    | .null => .ok none
    | v =>
      match Token.ofValue .messageCode v with
      | .ok c => .ok (some c)
      | .error f => .error (.schema (.badCode type.name f))

/-- The message code of a type that has to have one. -/
def codeFor (r : Registry) (type : PayloadType) : Except Fault MessageCode := do
  match ← r.codeFor? type with
  | some c => return c
  | none => throw (.schema (.noCode type.name))

end Registry

end Nmea0183
