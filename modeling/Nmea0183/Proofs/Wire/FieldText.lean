import Mathlib.Tactic.Common
import Nmea0183.Encoder.FieldText
import Nmea0183.Proofs.Wire.Plain

/-!
# Texts of fields are plain

Whatever value a field is written for, and in whatever modes, its text is plain
(`plain_of_ofValue`): it never holds a character that delimits.  The texts of floating point
numbers are plain in every form and precision (`Binary64.plain_text`).
-/

namespace Nmea0183

open Wire

/-! ### Floating point numbers -/

namespace Decimal

/-- Padded digits are plain. -/
lemma plain_padded (width n : Nat) : Plain (padded width n) :=
  (plain_toDigits n).leftpad width (by decide)

/-- Plain digits around a point are plain. -/
lemma plain_pointed {whole fraction : List Char} (hw : Plain whole) (hf : Plain fraction) :
    Plain (pointed whole fraction) := by
  unfold pointed
  split
  · exact hw
  · exact plain_append.2 ⟨hw, plain_cons.2 ⟨by decide, hf⟩⟩

/-- The digits before a place and those behind it, around a point. -/
lemma plain_pointed_take_drop {digits : List Char} (h : Plain digits) (n : Nat) :
    Plain (pointed (digits.take n) (digits.drop n)) :=
  plain_pointed (h.of_subset (List.take_subset n digits)) (h.of_subset (List.drop_subset n digits))

/-- Plain digits stay plain without the zeros at their end. -/
lemma plain_dropZeros {digits : List Char} (h : Plain digits) : Plain (dropZeros digits) :=
  h.dropTrailing _

/-- The text of an exponent is plain. -/
lemma plain_exponentText {mark : Char} (hm : isPlain mark = true) (exponent : Int) :
    Plain (exponentText mark exponent) := by
  have hsign : isPlain (if exponent < 0 then '-' else '+') = true := by
    split <;> decide
  exact plain_cons.2 ⟨hm, plain_cons.2 ⟨hsign, plain_padded _ _⟩⟩

/-- A number with a fixed number of places is plain. -/
lemma plain_fixedText (places steps : Nat) : Plain (fixedText places steps) :=
  plain_pointed_take_drop (plain_padded _ _) _

/-- A number with an exponent is plain. -/
lemma plain_scientificText (places steps : Nat) : Plain (scientificText places steps) :=
  plain_append.2
    ⟨plain_pointed_take_drop (plain_padded _ _) _, plain_exponentText rfl _⟩

/-- A number in the form that its size suggests is plain. -/
lemma plain_generalText (precision steps : Nat) : Plain (generalText precision steps) := by
  have hdigits := plain_padded (max precision 1) (significand (max precision 1 - 1) steps).digits
  have hwhole := fun n => hdigits.of_subset (List.take_subset n _)
  have hrest := fun n => plain_dropZeros (hdigits.of_subset (List.drop_subset n _))
  unfold generalText
  dsimp only
  split
  · split
    · exact plain_pointed (hwhole _) (hrest _)
    · refine plain_pointed (by decide) (plain_dropZeros (plain_append.2 ⟨?_, hdigits⟩))
      exact plain_replicate _ (by decide)
  · exact plain_append.2 ⟨plain_pointed (hwhole 1) (hrest 1), plain_exponentText rfl _⟩

end Decimal

/-- The text of a floating point number is plain, in every form and precision. -/
theorem Binary64.plain_text (format : FloatFormat) (precision : Nat) (x : Binary64) :
    Plain (x.text format precision) := by
  have hsign : Plain (if x.negative then ['-'] else []) := by
    split <;> decide
  unfold Binary64.text
  dsimp only
  split
  · split <;> decide
  split
  · refine plain_append.2 ⟨hsign, ?_⟩
    split <;> decide
  · refine plain_append.2 ⟨hsign, ?_⟩
    cases format with
    | fixed => exact Decimal.plain_fixedText _ _
    | scientific => exact Decimal.plain_scientificText _ _
    | general => exact Decimal.plain_generalText _ _

/-! ### Integers -/

namespace FieldText

/-- An integer in decimal is plain. -/
lemma plain_decimal (i : Int) : Plain (decimal i) := by
  unfold decimal
  split
  · exact plain_cons.2 ⟨by decide, plain_toDigits _⟩
  · exact plain_toDigits _

/-- An integer in hexadecimal is plain. -/
lemma plain_hexadecimal (width : Nat) (i : Int) : Plain (hexadecimal width i) :=
  plain_cons.2 ⟨by decide, plain_cons.2 ⟨by decide, plain_upper _ _⟩⟩

/-- The text of an integer is plain. -/
lemma plain_of_ofInt {m : Modes} {i : Int} {t : List Char} (h : ofInt m i = .ok t) : Plain t := by
  unfold ofInt at h
  split at h
  · cases h
  split at h
  · cases h
    exact plain_hexadecimal _ _
  · split at h
    · cases h
    · cases h
      exact plain_decimal _

/-- A string is plain exactly if it is ASCII and none of the reserved characters is found in
it. -/
lemma plain_iff_filter_eq_nil {chars : List Char} :
    Plain chars ↔
      chars.all Ascii.isAscii = true ∧ reserved.filter chars.contains = [] := by
  simp only [Plain, isPlain, isReserved, List.filter_eq_nil_iff, List.all_eq_true,
    Bool.and_eq_true, Bool.not_eq_true', List.contains_eq_mem, decide_eq_false_iff_not,
    decide_eq_true_eq]
  constructor
  · exact fun h => ⟨fun c hc => (h c hc).1, fun c hr hc => (h c hc).2 hr⟩
  · exact fun h c hc => ⟨h.1 c hc, fun hr => h.2 c hr hc⟩

/-- The strings that have a text are the plain ones, and their text is the string itself. -/
lemma ofString_eq_ok_iff {s : String} {t : List Char} :
    ofString s = .ok t ↔ t = s.toList ∧ Plain s.toList := by
  rw [plain_iff_filter_eq_nil]
  unfold ofString
  dsimp only
  generalize s.toList = chars
  generalize reserved.filter chars.contains = found
  cases chars.all Ascii.isAscii with
  | false => simp
  | true =>
    cases found with
    | nil => simp [eq_comm]
    | cons c found => simp

/-- The text of a value that has to be an integer is plain. -/
lemma plain_of_ofIntValue {m : Modes} {v : Value} {t : List Char}
    (h : ofIntValue m v = .ok t) : Plain t := by
  unfold ofIntValue at h
  split at h
  · exact plain_of_ofInt h
  · cases h

/-- The text of a value that has to be a number is plain. -/
lemma plain_of_ofFloatValue {m : Modes} {v : Value} {t : List Char}
    (h : ofFloatValue m v = .ok t) : Plain t := by
  unfold ofFloatValue at h
  cases hx : floatOf v with
  | error f =>
    rw [hx] at h
    cases h
  | ok x =>
    rw [hx] at h
    cases h
    exact Binary64.plain_text _ _ _

/-- The text of a value that has to be a string is plain. -/
lemma plain_of_ofStringValue {v : Value} {t : List Char} (h : ofStringValue v = .ok t) :
    Plain t := by
  unfold ofStringValue at h
  split at h
  · obtain ⟨rfl, ht⟩ := ofString_eq_ok_iff.1 h
    exact ht
  · cases h

/-- The text of any value is plain. -/
theorem plain_of_ofValue {m : Modes} {v : Value} {t : List Char} (h : ofValue m v = .ok t) :
    Plain t := by
  unfold ofValue at h
  split at h
  · cases h
    exact plain_nil
  · exact plain_of_ofInt h
  · exact plain_of_ofInt h
  · exact plain_of_ofInt h
  · cases h
  · exact plain_of_ofInt h
  · cases h
    exact Binary64.plain_text _ _ _
  · obtain ⟨rfl, ht⟩ := ofString_eq_ok_iff.1 h
    exact ht
  · cases h

end FieldText

end Nmea0183
