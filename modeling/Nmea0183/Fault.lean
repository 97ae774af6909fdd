import Nmea0183.Decimal.Numeral
import Nmea0183.Decoder.FieldError
import Nmea0183.Limit
import Nmea0183.Wire

/-!
# Faults

Every cause for which an operation fails, by the part of the library that finds
it, with the wording of each.  `Fault` is their union, for operations that can
fail for causes of several parts.
-/

namespace Nmea0183

/-! ### Text -/

namespace AsciiFault

/-- The wording of a fault. -/
def message : AsciiFault → String
  | characters start [c] =>
    "'ascii' codec can't encode character '" ++ String.ofList (Quoted.numbered c)
      ++ s!"' in position {start}: ordinal not in range(128)"
  | characters start run =>
    s!"'ascii' codec can't encode characters in position {start}-{start + run.length - 1}: "
      ++ "ordinal not in range(128)"
  | byte position value =>
    "'ascii' codec can't decode byte 0x" ++ String.ofList (Hex.lower 2 value.toNat)
      ++ s!" in position {position}: ordinal not in range(128)"

end AsciiFault

/-! ### Checksums, header tokens and frames -/

/-- Why a checksum cannot be written or compared. -/
inductive ChecksumFault where
  | outOfRange (value : Value)
  /-- A value of the type has no size to compare. -/
  | notOrdered (typeName : String)
  /-- A value of the type has a size, and no digits. -/
  | notInteger (typeName : String)
  | notTwoDigits (text : List Char)
  | notNumber (text : List Char)
  deriving DecidableEq, Repr

/-- The wording of a fault. -/
def ChecksumFault.message : ChecksumFault → String
  | outOfRange value => s!"Checksum must be 0-255, got {value.plain}"
  | notOrdered typeName =>
    "'<=' not supported between instances of 'int' and '" ++ typeName ++ "'"
  | notInteger typeName =>
    "Unknown format code 'X' for object of type '" ++ typeName ++ "'"
  | notTwoDigits text =>
    "Checksum must be 2 hex digits, got " ++ Quoted.text (String.ofList text)
  | notNumber text =>
    "invalid literal for int() with base 16: " ++ Quoted.text (String.ofList text)

/-- The two tokens of a header. -/
inductive TokenKind where
  | talker
  | messageCode
  deriving DecidableEq, Repr

namespace TokenKind

/-- The number of characters of a token. -/
def length : TokenKind → Nat
  | talker => 2
  | messageCode => 3

/-- The name of a token in messages. -/
def label : TokenKind → String
  | talker => "talker"
  | messageCode => "message code"

end TokenKind

/-- Why a value is no header token. -/
inductive HeaderFault where
  | notText (kind : TokenKind) (typeName : String)
  | wrongLength (kind : TokenKind) (text : List Char)
  | notAllowed (kind : TokenKind) (text : List Char)
  /-- The message holds no token at all. -/
  | unset (kind : TokenKind)
  deriving DecidableEq, Repr

/-- The wording of a fault. -/
def HeaderFault.message : HeaderFault → String
  | notText kind typeName => s!"{kind.label} must be a str, got {typeName}"
  | wrongLength kind text =>
    s!"{kind.label} must be exactly {kind.length} chars, got "
      ++ Quoted.text (String.ofList text)
  | notAllowed kind text =>
    s!"{kind.label} must be printable ASCII without delimiters, got "
      ++ Quoted.text (String.ofList text)
  | unset kind => s!"{kind.label} not set"

/-- Why a line is no framed sentence. -/
inductive FramingFault where
  | empty
  | noStart
  | noSuffix
  | badSuffix (claimed : Bytes)
  | mismatch (computed : UInt8) (claimed : Int)
  deriving DecidableEq, Repr

/-- The wording of a fault. -/
def FramingFault.message : FramingFault → String
  | empty => "Cannot unframe empty data"
  | noStart => "Sentence must start with '$'"
  | noSuffix => "Missing checksum suffix"
  | badSuffix claimed => "Checksum suffix must be 2 hex digits, got " ++ Quoted.bytes claimed
  | mismatch computed claimed =>
    "Checksum verification failed: computed " ++ String.ofList (Hex.upper 2 computed.toNat)
      ++ ", sentence claims " ++ String.ofList (Hex.signed 2 claimed)

/-! ### Writing -/

/-- Why settings are refused. -/
inductive ConfigFault where
  | sentenceLength (given : Int)
  | floatFormat (given : Value)
  | floatPrecision (given : Int)
  | hexWidth (given : Int)
  deriving DecidableEq, Repr

/-- The wording of a fault. -/
def ConfigFault.message : ConfigFault → String
  | sentenceLength given => s!"max_sentence_length must be >= 11, got {given}"
  | floatFormat given => s!"float_format must be a FloatFormat, got {given.shown}"
  | floatPrecision given => s!"float_precision must be 0-17, got {given}"
  | hexWidth given => s!"hex_width must be 1-8, got {given}"

/-- Why a value cannot be written as a field. -/
inductive EncodeFault where
  | notFloatFormat (given : Value)
  | precision (given : Int)
  /-- A member of an enumeration stands for something that is no integer. -/
  | memberValue (given : Value)
  | unsupported (typeName : String)
  | expected (wanted typeName : String)
  /-- An integer that no field holds; if it has too many digits, a caller is told of that instead
  (`Fault.told`). -/
  | notIn32Bits (value : Int)
  | notInSigned32Bits (value : Int)
  | notAscii (text : String)
  | reserved (text : String) (found : List Char)
  /-- The sentence is complete already. -/
  | finalized
  deriving DecidableEq, Repr

/-- The wording of a fault. -/
def EncodeFault.message : EncodeFault → String
  | notFloatFormat given => s!"Expected a FloatFormat, got {given.shown}"
  | precision given => s!"Float precision must be 0-17, got {given}"
  | memberValue given => s!"Enum {given.shown} has a non-integer value"
  | unsupported typeName => s!"Unsupported field type: {typeName}"
  | expected wanted typeName => s!"Expected {wanted}, got {typeName}"
  | notIn32Bits value => s!"Integer {value} does not fit in 32 bits"
  | notInSigned32Bits value => s!"Integer {value} does not fit in signed 32 bits; use hex mode"
  | notAscii text => "String field must be ASCII, got " ++ Quoted.text text
  | reserved text found =>
    "String field " ++ Quoted.text text ++ " contains reserved characters ["
      ++ ", ".intercalate (found.map fun c => Quoted.text (String.ofList [c])) ++ "]"
  | finalized => "Cannot append fields after end_message()"

/-- The parts of a sentence for which a buffer can lack room. -/
inductive Part where
  | header
  | field
  | suffix
  deriving DecidableEq, Repr

/-- The name of a part in messages. -/
def Part.label : Part → String
  | header => "header"
  | field => "field"
  | suffix => "checksum suffix"

/-! ### Reading -/

/-- Why a line does not decode as a message. -/
inductive DecodeFault where
  | noMarker
  | malformedHeader (token : List Char) (cause : Option HeaderFault)
  | checksumMismatch (claimed : UInt8)
  | missingChecksum
  | codeMismatch (found : List Char) (typeName expected : String)
  | fields (typeName : String) (errors : List FieldError)
  deriving DecidableEq, Repr

namespace DecodeFault

/-- The field errors that a fault reports. -/
def errors : DecodeFault → List FieldError
  | fields _ errors => errors
  | _ => []

/-- The wording of a fault. -/
def message : DecodeFault → String
  | noMarker => "Not an NMEA sentence: missing '$' marker"
  | malformedHeader token none =>
    "Malformed header token " ++ Quoted.text (String.ofList token)
  | malformedHeader token (some cause) =>
    "Malformed header token " ++ Quoted.text (String.ofList token) ++ ": " ++ cause.message
  | checksumMismatch claimed =>
    "Checksum mismatch: sentence claims " ++ String.ofList (Hex.upper 2 claimed.toNat)
  | missingChecksum => "Missing checksum"
  | codeMismatch found typeName expected =>
    "Message code mismatch: sentence is " ++ String.ofList found
      ++ s!", {typeName} expects {expected}"
  | fields typeName errors =>
    s!"Failed to decode {typeName}: " ++ "; ".intercalate (errors.map FieldError.message)

end DecodeFault

/-! ### Payload types and messages -/

/-- Why a type cannot be carried by a message. -/
inductive SchemaFault where
  /-- A field may hold values of several types. -/
  | union (field : String)
  /-- An enumeration has members that are no integers. -/
  | enumValues (field enumeration : String)
  /-- No field can hold the type, which is shown as given. -/
  | unsupported (field shown : String)
  /-- The type has no layout, and lacks the named routines. -/
  | noRoutines (typeName : String) (missing : List String)
  | noCode (typeName : String)
  | badCode (typeName : String) (cause : HeaderFault)
  /-- A message was to hold a message. -/
  | nested
  deriving DecidableEq, Repr

/-- The wording of a fault. -/
def SchemaFault.message : SchemaFault → String
  | union field => s!"Field {field}: only Optional[T] unions are supported"
  | enumValues field enumeration => s!"Field {field}: enum {enumeration} needs integer values"
  | unsupported field shown =>
    s!"Field {field}: unsupported type {shown}. "
      ++ "Supported: int, float, str, bool, Register32, int-valued Enum."
  | noRoutines typeName missing =>
    s!"{typeName} cannot be carried by AnyMessage: missing " ++ " and ".intercalate missing
      ++ ". Define the methods or call register_payload()."
  | noCode typeName =>
    s!"No message code known for {typeName}. Pass message_code=, set nmea_message_code, "
      ++ "or register one with register_payload()."
  | badCode typeName cause => s!"Invalid message code trait on {typeName}: {cause.message}"
  | nested => "An AnyMessage cannot hold another AnyMessage"

/-- Why a model refuses the value of a field. -/
inductive Rejection where
  | required
  /-- The value fails a test, which says why. -/
  | failed (text : String)
  /-- The type of the field has no equal of the value. -/
  | wanted (what : String)
  /-- The model has no such field to assign. -/
  | noField (field : String)
  /-- A value was given for no field of the model. -/
  | extra
  deriving DecidableEq, Repr

/-- The wording of a rejection. -/
def Rejection.message : Rejection → String
  | required => "Field required"
  | failed text => text
  | wanted what => s!"Input should be {what}"
  | noField field => "Object has no attribute '" ++ field ++ "'"
  | extra => "Extra inputs are not permitted"

/-- Why a type makes no instance of what it is given. -/
inductive InstanceFault where
  /-- An enumeration has no member without a value given. -/
  | noDefaultMember
  /-- A choice between types has no instances of its own. -/
  | choice
  /-- A value is given for a name that the type does not have. -/
  | unexpected (typeName name : String)
  /-- A model takes its values by name only. -/
  | byNameOnly
  /-- A row of values is not made from a number. -/
  | notRow
  /-- The type, shown as given, takes no value. -/
  | nothingTaken (shown : String)
  deriving DecidableEq, Repr

/-- The wording of a fault. -/
def InstanceFault.message : InstanceFault → String
  | noDefaultMember => "EnumType.__call__() missing 1 required positional argument: 'value'"
  | choice => "Cannot instantiate typing.Union"
  | unexpected typeName name =>
    typeName ++ ".__init__() got an unexpected keyword argument '" ++ name ++ "'"
  | byNameOnly => "BaseModel.__init__() takes 1 positional argument but 2 were given"
  | notRow => "'int' object is not iterable"
  | nothingTaken shown => shown ++ " takes no arguments"

/-- Why a payload is not put into a registry. -/
inductive RegistryFault where
  | noRoutine
  | conflict (typeName : String)
  deriving DecidableEq, Repr

/-- The wording of a fault. -/
def RegistryFault.message : RegistryFault → String
  | noRoutine => "write and read must be callable"
  | conflict typeName =>
    s!"{typeName} is already registered. Call unregister_payload() first to replace it."

/-- Why a message is not built or not changed. -/
inductive MessageFault where
  | codeAlone
  | halfGiven
  | checksum (given : Value)
  | size (given : Value)
  deriving DecidableEq, Repr

/-- The wording of a fault. -/
def MessageFault.message : MessageFault → String
  | codeAlone => "message_code given without talker and value"
  | halfGiven => "AnyMessage needs both a talker and a value (or neither)"
  | checksum given => s!"Checksum must be an int 0-255, got {given.shown}"
  | size given => s!"Size must be a non-negative int, got {given.shown}"

/-- What cannot be done with an empty message. -/
inductive EmptyUse where
  | set (name : String)
  | encode
  | serialize
  | deserialize
  deriving DecidableEq, Repr

/-- The wording of a refusal. -/
def EmptyUse.message : EmptyUse → String
  | set name => s!"Cannot set {name} on an empty AnyMessage"
  | encode => "Cannot encode an empty AnyMessage"
  | serialize => "Cannot serialize an empty AnyMessage"
  | deserialize => "Cannot deserialize into an empty AnyMessage"

/-- How the payload of a message has another type than it should. -/
inductive PayloadTypeFault where
  | held (typeName asked : String)
  | returned (typeName given : String)
  deriving DecidableEq, Repr

/-- The wording of a fault. -/
def PayloadTypeFault.message : PayloadTypeFault → String
  | held typeName asked => s!"AnyMessage holds {typeName}, not {asked}"
  | returned typeName given => s!"Reader for {typeName} returned {given}"

/-! ### All causes -/

/-- Every cause for which an operation of the library fails. -/
inductive Fault where
  | ascii (f : AsciiFault)
  | numeral (f : NumeralFault)
  | checksum (f : ChecksumFault)
  | header (f : HeaderFault)
  | framing (f : FramingFault)
  /-- A body to be framed holds a byte that delimits. -/
  | bodyByte (value : UInt8)
  | config (f : ConfigFault)
  | register (f : RegisterFault)
  | encode (f : EncodeFault)
  /-- A buffer lacks room for a part of a sentence. -/
  | capacity (part : Part) (required available : Nat)
  | readOnlyBuffer
  /-- An integer is beyond all finite floating point numbers. -/
  | floatOverflow
  /-- A complaint counts back beyond the first field. -/
  | noSuchField
  /-- No reader reads the type, which is shown as given. -/
  | unreadable (shown : String)
  /-- An enumeration without members is asked for one. -/
  | noMembers (enumeration : String)
  | decode (f : DecodeFault)
  | schema (f : SchemaFault)
  | rejected (f : Rejection)
  /-- A field is declared with a limit that says nothing about its values. -/
  | misapplied (m : MisappliedLimit)
  /-- What belongs to a type is no field of its instances. -/
  | typeAttribute (typeName name : String)
  /-- The payload has no such attribute. -/
  | noAttribute (typeName name : String)
  /-- What every member of an enumeration has cannot be changed. -/
  | innate (name : String)
  /-- The payload cannot be changed. -/
  | immutable (name : String)
  /-- A value of the type is no row of values. -/
  | noRow (typeName : String)
  | construction (f : InstanceFault)
  /-- The type is no model; types of some kinds are not named. -/
  | noModel (typeName : Option String)
  | registry (f : RegistryFault)
  | message (f : MessageFault)
  | emptyMessage (f : EmptyUse)
  | payloadType (f : PayloadTypeFault)
  deriving DecidableEq, Repr

/-- The wording of a fault. -/
def Fault.wording : Fault → String
  | ascii f => f.message
  | numeral f => f.message
  | checksum f => f.message
  | header f => f.message
  | framing f => f.message
  | bodyByte value => "Sentence body must not contain " ++ Quoted.bytes [value]
  | config f => f.message
  | register f => f.message
  | encode f => f.message
  | capacity part required available =>
    s!"Buffer too small for {part.label}: need {required} bytes, have {available}"
  | readOnlyBuffer => "SentenceEncoder requires a writable buffer"
  | floatOverflow => "int too large to convert to float"
  | noSuchField => "list index out of range"
  | unreadable shown => s!"Unsupported field type: {shown}"
  | noMembers enumeration => "<enum '" ++ enumeration ++ "'> has no members defined"
  | decode f => f.message
  | schema f => f.message
  | rejected f => f.message
  | misapplied m =>
    "Unable to apply constraint '" ++ m.limit.label ++ "' to supplied value " ++ m.given.plain
  | typeAttribute typeName name =>
    "'" ++ name ++ "' is a ClassVar of `" ++ typeName ++ "` and cannot be set on an instance. "
      ++ "If you want to set a value on the class, use `" ++ typeName ++ "." ++ name ++ " = value`."
  | noAttribute typeName name =>
    "'" ++ typeName ++ "' object has no attribute '" ++ name ++ "'"
  | innate name => "<enum 'Enum'> cannot set attribute '" ++ name ++ "'"
  | immutable name => "cannot assign to field '" ++ name ++ "'"
  | noRow typeName =>
    "nmeacomm.codec.encoder.SentenceEncoder.write() argument after * must be an iterable, not "
      ++ typeName
  | construction f => f.message
  | noModel none => "model_fields"
  | noModel (some typeName) => "type object '" ++ typeName ++ "' has no attribute 'model_fields'"
  | registry f => f.message
  | message f => f.message
  | emptyMessage f => f.message
  | payloadType f => f.message

/-- The integers that a caller gave and that stand in the wording of a fault. -/
def Fault.integers : Fault → List Int
  | checksum (.outOfRange given) => given.integers
  | config (.sentenceLength given) => [given]
  | config (.floatPrecision given) => [given]
  | config (.hexWidth given) => [given]
  | config (.floatFormat given) => given.integers
  | register (.outOfRange given) => [given]
  | register (.bitIndex given) => [given]
  | encode (.precision given) => [given]
  | encode (.notIn32Bits given) => [given]
  | encode (.notFloatFormat given) => given.integers
  | encode (.memberValue given) => given.integers
  | misapplied m => m.given.integers
  | message (.checksum given) => given.integers
  | message (.size given) => given.integers
  | _ => []

/-- What a caller is told of a fault: an integer in its wording that has too many digits to be
shown is a fault of its own, which comes in its place. -/
def Fault.told (f : Fault) : Fault :=
  if f.integers.all Numeral.isShown then f else .numeral .tooLarge

end Nmea0183
