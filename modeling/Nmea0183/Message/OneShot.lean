import Nmea0183.Line
import Nmea0183.Message.Basic

/-!
# Whole sentences

A message is written to a whole sentence at once, or read from one.  Reading is
strict: a line that is no clean sentence of the payload's type is refused, and
the refusals are looked for in the order marker, header, checksum, message code,
fields.
-/

namespace Nmea0183

namespace Message

/-- A sentence, with the message that knows its checksum and size, and the buffer that holds
it. -/
structure Encoded where
  sentence : Bytes
  message : Message
  buffer : Buffer

/-- Writes the payload of a message and completes the sentence. -/
def writeSentence (m : Message) : Encoding Bytes := do
  m.serialize
  Encoder.endMessage

/-- Writes a message as a sentence; without a buffer, into a new one of the size that the
settings give. -/
def encode (m : Message) (buffer : Option Buffer) (config : Config) : Except Fault Encoded :=
  match m with
  | empty => .error (.emptyMessage .encode)
  | held h => do
    let buffer := buffer.getD { window := List.replicate config.sentenceLength 0 }
    let encoder ← Encoder.ofTokens buffer h.talker h.code config
    match m.writeSentence encoder with
    | .error f _ => throw f
    | .ok sentence e =>
      return {
        sentence
        message := held { h with checksum := e.checksum.getD 0, size := sentence.length }
        buffer := { buffer with window := e.buffer } }

/-- What a sentence is decoded into. -/
inductive Template where
  /-- A new payload of a type. -/
  | type (t : PayloadType)
  /-- A copy of a payload. -/
  | payload (p : Payload)
  /-- A message, into which no sentence is decoded. -/
  | message

namespace Template

/-- The type of the payload, if it can be carried at all. -/
def payloadType? : Template → Option PayloadType
  | type t => some t
  | payload p => some p.type
  | message => none

/-- The payload to read into. -/
def candidate : Template → Except Fault Candidate
  | type t => (Payload.instantiate t []).map .payload
  | payload p => .ok (.payload p)
  | message => .ok .message

end Template

/-- The tokens of a sentence that is fit to be decoded. -/
def acceptHeader (s : Sentence) (config : Config) : Except DecodeFault (List Char × List Char) := do
  if s.fields.isEmpty then throw .noMarker
  let some tokens := s.tokens? | throw (.malformedHeader s.header none)
  if config.requireChecksum && !s.checksumValid then
    match s.claimed with
    | some claimed => throw (.checksumMismatch claimed)
    | none => throw .missingChecksum
  return tokens

/-- Checks the message code of a sentence against the one of a type, if the type has one. -/
def checkCode (r : Registry) (type : PayloadType) (found : List Char) : Except Fault Unit := do
  match ← r.codeFor? type with
  | none => return ()
  | some expected =>
    if expected.chars ≠ found then
      throw (.decode (.codeMismatch found type.name expected.text))

/-- The message that a line decodes to. -/
def decode (r : Registry) (template : Template) (line : Line) (config : Config) :
    Except Fault Message := do
  let sentence := Sentence.ofBytes line.latin
  let (talker, code) ← (acceptHeader sentence config).mapError .decode
  if let some type := template.payloadType? then checkCode r type code
  let candidate ← template.candidate
  let message ←
    match hold r (.text (String.ofList talker)) candidate (.text (String.ofList code)) with
    | .ok m => pure m
    | .error (.header f) => throw (.decode (.malformedHeader sentence.header (some f)))
    | .error f => throw f
  match deserialize (message, { sentence }) with
  | .error f _ => throw f
  | .ok _ (message, decoder) =>
    if decoder.hasError then
      let typeName := (template.payloadType?.map PayloadType.name).getD message.type.name
      throw (.decode (.fields typeName decoder.errors))
    match message with
    | empty => return empty
    | held h =>
      return held { h with checksum := sentence.checksum, size := sentence.size }

end Message

end Nmea0183
