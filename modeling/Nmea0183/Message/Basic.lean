import Nmea0183.Registry

/-!
# Messages

A message is empty, or it holds a payload of any type together with the routines
for it, a talker, a message code, and the checksum and the size of the sentence
that it was last written to or read from.  A message owns its payload, so copies
share nothing.
-/

namespace Nmea0183

/-- What a message that is not empty holds. -/
structure Holding where
  payload : Payload
  codec : Codec
  talker : Talker
  code : MessageCode
  checksum : UInt8 := 0
  size : Nat := 0

/-- A message. -/
inductive Message where
  | empty
  | held (h : Holding)

/-- What a caller wants a message to hold. -/
inductive Candidate where
  | payload (p : Payload)
  /-- A message, which cannot be held. -/
  | message

namespace Message

/-! ### Queries -/

/-- The message holds no payload. -/
def isEmpty : Message → Bool
  | empty => true
  | held _ => false

/-- The talker. -/
def talker? : Message → Option Talker
  | empty => none
  | held h => some h.talker

/-- The message code. -/
def code? : Message → Option MessageCode
  | empty => none
  | held h => some h.code

/-- The checksum of the last sentence, 0 before the first. -/
def checksum : Message → UInt8
  | empty => 0
  | held h => h.checksum

/-- The size of the last sentence, 0 before the first. -/
def size : Message → Nat
  | empty => 0
  | held h => h.size

/-- The payload. -/
def payload? : Message → Option Payload
  | empty => none
  | held h => some h.payload

/-- The type of the payload; that of the absence of a value for an empty message. -/
def type : Message → PayloadType
  | empty => .ofValue .null
  | held h => h.payload.type

/-- The payload is of exactly this type. -/
def isType (m : Message) (type : PayloadType) : Bool :=
  match m with
  | empty => false
  | held h => h.payload.type = type

/-- The payload, if it is of this type; the absence of a value is nothing to get. -/
def tryGet (m : Message) (type : PayloadType) : Option Payload :=
  if m.isType type ∧ type ≠ .ofValue .null then m.payload? else none

/-- The payload, which has to be of this type. -/
def get (m : Message) (type : PayloadType) : Except Fault Payload :=
  match m.tryGet type with
  | some p => .ok p
  | none => .error (.payloadType (.held m.type.name type.name))

/-- Checks that talker and message code are there. -/
def validateHeader (m : Message) : Except HeaderFault Unit := do
  if m.talker?.isNone then throw (.unset .talker)
  if m.code?.isNone then throw (.unset .messageCode)

/-- How a message shows itself. -/
def shown : Message → String
  | empty => "AnyMessage()"
  | held h =>
    "AnyMessage(talker=" ++ Quoted.text h.talker.text ++ ", message_code="
      ++ Quoted.text h.code.text ++ ", value=" ++ h.payload.shown ++ ")"

/-! ### Making and changing -/

/-- A message that holds a payload.  The payload's type is resolved first, then the message code
is looked up unless one is given, and then the tokens are checked. -/
def hold (r : Registry) (talker : Value) (candidate : Candidate) (code : Value) :
    Except Fault Message := do
  let .payload p := candidate | throw (.schema .nested)
  let resolution ← r.codecFor p.type
  let code ← match code with
    | .null => (r.codeFor p.type).map fun c => Value.text c.text
    | v => pure v
  let talker ← (Token.ofValue .talker talker).mapError .header
  let code ← (Token.ofValue .messageCode code).mapError .header
  return held { payload := p, codec := resolution.codec, talker, code }

/-- A message made of what is given, which is a talker and a payload, or nothing. -/
def create (r : Registry) (talker : Value) (candidate : Option Candidate) (code : Value) :
    Except Fault Message :=
  match talker, candidate with
  | .null, none => if code = .null then .ok empty else .error (.message .codeAlone)
  | .null, some _ => .error (.message .halfGiven)
  | _, none => .error (.message .halfGiven)
  | talker, some c => hold r talker c code

/-- A message with another talker. -/
def setTalker (m : Message) (v : Value) : Except Fault Message :=
  match m with
  | empty => .error (.emptyMessage (.set TokenKind.talker.label))
  | held h => do
    let talker ← (Token.ofValue .talker v).mapError .header
    return held { h with talker }

/-- A message with another message code. -/
def setCode (m : Message) (v : Value) : Except Fault Message :=
  match m with
  | empty => .error (.emptyMessage (.set TokenKind.messageCode.label))
  | held h => do
    let code ← (Token.ofValue .messageCode v).mapError .header
    return held { h with code }

/-- A message with another checksum. -/
def setChecksum (m : Message) (v : Value) : Except Fault Message :=
  match m with
  | empty => .error (.emptyMessage (.set "checksum"))
  | held h =>
    match v.integer? with
    | some i =>
      if 0 ≤ i ∧ i ≤ 0xFF then .ok (held { h with checksum := UInt8.ofNat i.toNat })
      else .error (.message (.checksum v))
    | none => .error (.message (.checksum v))

/-- A message with another size. -/
def setSize (m : Message) (v : Value) : Except Fault Message :=
  match m with
  | empty => .error (.emptyMessage (.set "size"))
  | held h =>
    match v.integer? with
    | some i =>
      if 0 ≤ i then .ok (held { h with size := i.toNat }) else .error (.message (.size v))
    | none => .error (.message (.size v))

/-- A message with its payload changed; an empty message has none to change. -/
def modifyPayload (m : Message) (change : Payload → Except Fault Payload) : Except Fault Message :=
  match m with
  | empty => .error (.payloadType (.held m.type.name m.type.name))
  | held h => do return held { h with payload := ← change h.payload }

/-- Moves everything out of a message: first the message that has it now, then the one that is
left behind. -/
def take (m : Message) : Message × Message :=
  (m, empty)

/-! ### Writing and reading the payload -/

/-- Writes the payload; header and checksum are up to the encoder. -/
def serialize : Message → Encoding Unit
  | empty => throw (.emptyMessage .serialize)
  | held h => h.codec.writer.write h.payload

/-- Reads the payload, in place or by a replacement of the same type. -/
def deserialize : EStateM Fault (Message × Decoder) Unit := fun (m, d) =>
  match m with
  | empty => .error (.emptyMessage .deserialize) (m, d)
  | held h =>
    let inPlace := fun (r : Reading) =>
      (held { h with payload := h.payload.reworked r.payload }, r.decoder)
    match h.codec.reader.run ⟨h.payload, d⟩ with
    | .error f r => .error f (inPlace r)
    | .ok none r => .ok () (inPlace r)
    | .ok (some p) r =>
      if p.type = h.payload.type then .ok () (held { h with payload := p }, r.decoder)
      else
        .error (.payloadType (.returned h.payload.type.name p.type.name)) (inPlace r)

end Message

end Nmea0183
