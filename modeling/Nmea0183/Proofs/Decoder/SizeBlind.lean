import Mathlib.Tactic.Common
import Nmea0183.Proofs.Decoder.Positional
import Nmea0183.Proofs.Frame.TrailingJunk

/-!
# Reading does not look at the size of a sentence

A decoder knows how many bytes the line had that it reads, and no step of reading makes use of
that.  A step is blind to the size when it answers the same on a sentence that is longer and has the
same parts, and leaves a decoder that differs in the size alone (`Decoder.SizeBlind`).  All readers
are (`Decoder.sizeBlind_take`), and so are all rows of steps (`Decoder.sizeBlind_mapM_run`) and all
histories of actions (`Decoder.applyAll_grown`).
-/

namespace Nmea0183

namespace Decoder

variable {α β : Type}

/-- The decoder of a sentence that is longer by some bytes and has the same parts. -/
def grown (d : Decoder) (n : Nat) : Decoder :=
  { d with sentence := d.sentence.grown n }

/-- A step that answers the same whatever the size of the sentence, and does not change it. -/
def SizeBlind (step : Decoding α) : Prop :=
  ∀ d n, step (d.grown n) = ((step d).1, (step d).2.grown n)

/-- Two blind steps after each other are blind. -/
lemma SizeBlind.bind {step : Decoding α} {next : α → Decoding β} (h : SizeBlind step)
    (hnext : ∀ a, SizeBlind (next a)) : SizeBlind (step >>= next) := by
  intro d n
  change next (step (d.grown n)).1 (step (d.grown n)).2 = _
  rw [h d n]
  exact hnext _ _ n

/-- The next field is taken as it stands without a look at the size. -/
lemma sizeBlind_next? : SizeBlind next? := by
  intro d n
  have hpeek : (d.grown n).peek? = d.peek? := rfl
  rw [next?, next?, hpeek]
  cases d.peek? <;> rfl

/-- A reader takes the next field without a look at the size. -/
lemma sizeBlind_take (r : FieldReader α) : SizeBlind (take r) := by
  intro d n
  unfold take
  rw [sizeBlind_next? d n]
  rcases next? d with ⟨_ | text, d'⟩
  · rfl
  · dsimp only
    rcases r.read text with (c | f) | a <;> rfl

/-- A step through the fields does not look at the size. -/
lemma sizeBlind_run (s : Step) : SizeBlind s.run := by
  cases s with
  | read r =>
    rw [Step.run, r.run_eq_take]
    exact sizeBlind_take r.reader
  | peek => exact fun d n => rfl

/-- Rows of steps do not look at the size. -/
lemma sizeBlind_mapM_run (steps : List Step) : SizeBlind (steps.mapM Step.run) := by
  induction steps with
  | nil => exact fun d n => rfl
  | cons s steps ih =>
    rw [List.mapM_cons]
    exact (sizeBlind_run s).bind fun v => ih.bind fun vs d n => rfl

/-- An action leaves the same decoder but for the size. -/
lemma Action.apply_grown (a : Action) (d : Decoder) (n : Nat) :
    a.apply (d.grown n) = (a.apply d).grown n := by
  cases a with
  | step s => exact congrArg Prod.snd (sizeBlind_run s d n)
  | reset => rfl
  | flagLast expected reason => rfl
  | flagAt expected reason index =>
    have htext : textAt (d.grown n).sentence.fields index = textAt d.sentence.fields index := rfl
    rw [apply, apply, Decoder.flagAt, Decoder.flagAt, htext]
    cases textAt d.sentence.fields index <;> rfl

/-- A history leaves the same decoder but for the size. -/
lemma applyAll_grown (actions : List Action) (d : Decoder) (n : Nat) :
    applyAll actions (d.grown n) = (applyAll actions d).grown n := by
  induction actions generalizing d with
  | nil => rfl
  | cons a actions ih =>
    change applyAll actions (a.apply (d.grown n)) = (applyAll actions (a.apply d)).grown n
    rw [a.apply_grown, ih]

/-- Steps after a history answer the same, and leave the same decoder but for the size. -/
lemma mapM_run_applyAll_grown (actions : List Action) (steps : List Step) (d : Decoder) (n : Nat) :
    (steps.mapM Step.run) (applyAll actions (d.grown n)) =
      (((steps.mapM Step.run) (applyAll actions d)).1,
        ((steps.mapM Step.run) (applyAll actions d)).2.grown n) := by
  rw [applyAll_grown, sizeBlind_mapM_run]

/-- A decoder of a line with junk behind it differs in the size alone. -/
lemma ofBytes_append_junk {junk : Bytes} (h : ∀ b ∈ junk, b ∈ Wire.junkBytes) (line : Bytes) :
    ofBytes (line ++ junk) = (ofBytes line).grown junk.length := by
  rw [ofBytes, Sentence.ofBytes_append_junk h]
  rfl

end Decoder

end Nmea0183
