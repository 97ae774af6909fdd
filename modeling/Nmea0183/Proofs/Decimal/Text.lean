import Mathlib.Algebra.Order.Field.Power
import Mathlib.Algebra.Order.Field.Rat
import Mathlib.Tactic.FieldSimp
import Nmea0183.Decimal.Format
import Nmea0183.Proofs.Decimal.Significand
import Nmea0183.Proofs.Decoder.FloatReader

/-!
# Texts of floating point numbers are numbers

Each of the three forms of a number is a text that a reader takes for a number with digits
(`spellsSize_fixedText`, `spellsSize_scientificText`, `spellsSize_generalText`), and what it spells
is the decimal that the number was rounded to: neither the place of the point, nor zeros at the end
that are left out, nor the choice of an exponent change it.  So in every form and precision a number
is written as a text of the language of numbers (`Binary64.exists_spellsFloat_text`).
-/

namespace Nmea0183

namespace Decimal

/-! ### What digits spell -/

/-- The size of what digits before a point, digits behind it and an exponent spell. -/
def spelled (whole fraction : List Char) (exponent : Int) : ℚ :=
  Nat.ofDigitChars 10 (whole ++ fraction) 0 * 10 ^ (exponent - fraction.length)

/-- A text without a sign spells a number of some size. -/
def SpellsSize (text : List Char) (size : ℚ) : Prop :=
  ∃ mantissa tail whole fraction exponent, text = mantissa ++ tail ∧
    SpellsMantissa mantissa whole fraction ∧ SpellsExponent tail exponent ∧
    spelled whole fraction exponent = size

/-- Zeros at the end of a fraction do not count. -/
lemma spelled_append_zeros (whole fraction : List Char) (n : Nat) (exponent : Int) :
    spelled whole (fraction ++ List.replicate n '0') exponent =
      spelled whole fraction exponent := by
  have hexponent : exponent - (fraction ++ List.replicate n '0').length =
      (exponent - fraction.length) - (n : Int) := by
    rw [List.length_append, List.length_replicate]
    omega
  rw [spelled, hexponent, ← List.append_assoc, Nat.ofDigitChars_append,
    Nat.ofDigitChars_replicate_zero, zpow_sub₀ (by norm_num), zpow_natCast, spelled]
  push_cast
  field_simp

/-- A fraction counts the same without the zeros at its end. -/
lemma spelled_dropZeros (whole fraction : List Char) (exponent : Int) :
    spelled whole (dropZeros fraction) exponent = spelled whole fraction exponent := by
  have hzeros : takeTrailing (· == '0') fraction =
      List.replicate (takeTrailing (· == '0') fraction).length '0' :=
    List.eq_replicate_of_mem fun c hc => by simpa using of_mem_takeTrailing hc
  conv_rhs => rw [← dropTrailing_append_takeTrailing (· == '0') fraction, hzeros]
  rw [spelled_append_zeros, dropZeros]

/-- Digits may be cut by a point anywhere. -/
lemma spelled_take_drop {digits : List Char} {n : Nat} (hn : n ≤ digits.length) (exponent : Int) :
    spelled (digits.take n) (digits.drop n) exponent =
      Nat.ofDigitChars 10 digits 0 * 10 ^ (exponent + n - digits.length) := by
  have hexponent : exponent - (digits.drop n).length = exponent + n - digits.length := by
    rw [List.length_drop]
    omega
  rw [spelled, List.take_append_drop, hexponent]

/-- Zeros in front of digits do not count. -/
lemma spelled_zeros (digits : List Char) (n : Nat) (exponent : Int) :
    spelled ['0'] (List.replicate n '0' ++ digits) exponent =
      Nat.ofDigitChars 10 digits 0 * 10 ^ (exponent - (n + digits.length : Nat)) := by
  have hzero : Nat.ofDigitChars 10 (['0'] ++ (List.replicate n '0' ++ digits)) 0 =
      Nat.ofDigitChars 10 digits 0 := by
    have hfirst : Nat.ofDigitChars 10 ['0'] 0 = 0 := rfl
    rw [Nat.ofDigitChars_append, Nat.ofDigitChars_append, hfirst,
      Nat.ofDigitChars_replicate_zero, Nat.mul_zero]
  rw [spelled, hzero, List.length_append, List.length_replicate]

/-! ### Padded digits -/

/-- Zeros in front of digits are digits. -/
lemma isDigit_zeros_append {digits : List Char} (n : Nat) (h : digits.all Char.isDigit = true) :
    (List.replicate n '0' ++ digits).all Char.isDigit = true := by
  rw [List.all_append, h, Bool.and_true]
  refine List.all_eq_true.2 fun c hc => ?_
  rw [List.eq_of_mem_replicate hc]
  rfl

/-- Padded digits are digits. -/
lemma isDigit_padded (width n : Nat) : (padded width n).all Char.isDigit = true :=
  isDigit_zeros_append _ (List.all_eq_true.2 fun _ hc => FieldReader.isDigit_of_mem_toDigits hc)

/-- Padded digits stand for their number. -/
lemma ofDigitChars_padded (width n : Nat) : Nat.ofDigitChars 10 (padded width n) 0 = n := by
  rw [padded, List.leftpad, Nat.ofDigitChars_append, Nat.ofDigitChars_replicate_zero, Nat.mul_zero,
    Nat.ofDigitChars_ten_toDigits]

/-- Padding makes digits as many as were asked for at least. -/
lemma le_length_padded (width n : Nat) : width ≤ (padded width n).length := by
  rw [padded, List.length_leftpad]
  exact Nat.le_max_left _ _

/-- There are padded digits. -/
lemma padded_ne_nil (width n : Nat) : padded width n ≠ [] := by
  have hpos : 0 < (padded width n).length := by
    rw [padded, List.length_leftpad]
    exact Nat.lt_of_lt_of_le Nat.length_toDigits_pos (Nat.le_max_right _ _)
  exact List.length_pos_iff.1 hpos

/-- Padding makes digits as many as were asked for if they are not more. -/
lemma length_padded {width n : Nat} (hwidth : 0 < width) (hn : n < 10 ^ width) :
    (padded width n).length = width := by
  rw [padded, List.length_leftpad]
  exact Nat.max_eq_left ((Nat.length_toDigits_le_iff (by decide) hwidth).2 hn)

/-! ### Mantissas and exponents -/

/-- Digits around a point are a mantissa. -/
lemma spellsMantissa_pointed {whole fraction : List Char} (hne : whole ≠ [])
    (hwhole : whole.all Char.isDigit = true) (hfraction : fraction.all Char.isDigit = true) :
    SpellsMantissa (pointed whole fraction) whole fraction := by
  unfold pointed
  split
  · next hempty =>
    rw [List.isEmpty_iff.1 hempty]
    exact .bare hne hwhole
  · exact .pointed (Or.inl hne) hwhole hfraction

/-- Digits stay digits without zeros at their end. -/
lemma isDigit_dropZeros {digits : List Char} (h : digits.all Char.isDigit = true) :
    (dropZeros digits).all Char.isDigit = true := by
  rw [← dropTrailing_append_takeTrailing (· == '0') digits, List.all_append,
    Bool.and_eq_true] at h
  exact h.1

/-- The text of an exponent is an exponent. -/
lemma spellsExponent_exponentText {mark : Char} (hmark : mark = 'e' ∨ mark = 'E')
    (exponent : Int) : SpellsExponent (exponentText mark exponent) exponent := by
  have hdigits : SpellsNatural (padded 2 exponent.natAbs) exponent.natAbs :=
    Wire.numeral_ten_iff.2 ⟨padded_ne_nil _ _, isDigit_padded _ _, ofDigitChars_padded _ _⟩
  unfold exponentText
  split
  · next hneg =>
    have hminus := SpellsExponent.marked hmark .minus hdigits
    rw [if_pos rfl, Int.natCast_natAbs, abs_of_neg hneg, neg_neg] at hminus
    exact hminus
  · next hnonneg =>
    have hplus := SpellsExponent.marked hmark .plus hdigits
    rw [if_neg Bool.false_ne_true, Int.natCast_natAbs, abs_of_nonneg (by omega)] at hplus
    exact hplus

/-- Digits around a point with an exponent behind them spell a number. -/
lemma spellsSize_pointed {whole fraction tail : List Char} {exponent : Int} (hne : whole ≠ [])
    (hwhole : whole.all Char.isDigit = true) (hfraction : fraction.all Char.isDigit = true)
    (htail : SpellsExponent tail exponent) :
    SpellsSize (pointed whole fraction ++ tail) (spelled whole fraction exponent) :=
  ⟨_, _, _, _, _, rfl, spellsMantissa_pointed hne hwhole hfraction, htail, rfl⟩

section Cut

variable {digits tail : List Char} {n : Nat} {exponent : Int}

/-- Digits are cut into digits, with one before the cut if it is not at the start. -/
lemma isDigit_take_drop (hdigits : digits.all Char.isDigit = true) (hpos : 0 < n)
    (hn : n ≤ digits.length) :
    digits.take n ≠ [] ∧ (digits.take n).all Char.isDigit = true ∧
      (digits.drop n).all Char.isDigit = true := by
  rw [← List.take_append_drop n digits, List.all_append, Bool.and_eq_true] at hdigits
  refine ⟨?_, hdigits⟩
  rw [← List.length_pos_iff, List.length_take]
  omega

/-- Digits that are cut by a point spell a number. -/
lemma spellsSize_cut (hdigits : digits.all Char.isDigit = true) (hpos : 0 < n)
    (hn : n ≤ digits.length) (htail : SpellsExponent tail exponent) :
    SpellsSize (pointed (digits.take n) (digits.drop n) ++ tail)
      (Nat.ofDigitChars 10 digits 0 * 10 ^ (exponent + n - digits.length)) := by
  obtain ⟨hne, hwhole, hfraction⟩ := isDigit_take_drop hdigits hpos hn
  rw [← spelled_take_drop hn]
  exact spellsSize_pointed hne hwhole hfraction htail

/-- So they do when the zeros at their end are left out. -/
lemma spellsSize_cut_dropZeros (hdigits : digits.all Char.isDigit = true) (hpos : 0 < n)
    (hn : n ≤ digits.length) (htail : SpellsExponent tail exponent) :
    SpellsSize (pointed (digits.take n) (dropZeros (digits.drop n)) ++ tail)
      (Nat.ofDigitChars 10 digits 0 * 10 ^ (exponent + n - digits.length)) := by
  obtain ⟨hne, hwhole, hfraction⟩ := isDigit_take_drop hdigits hpos hn
  rw [← spelled_take_drop hn, ← spelled_dropZeros]
  exact spellsSize_pointed hne hwhole (isDigit_dropZeros hfraction) htail

end Cut

/-! ### The three forms -/

/-- A number with a fixed number of places spells what it was rounded to. -/
theorem spellsSize_fixedText (places steps : Nat) :
    SpellsSize (fixedText places steps)
      (roundHalfEven (steps * Nat.pow 10 places) Binary64.stepsPerUnit *
        10 ^ (-(places : Int))) := by
  unfold fixedText
  generalize roundHalfEven (steps * Nat.pow 10 places) Binary64.stepsPerUnit = units
  have hlength := le_length_padded (places + 1) units
  have hcut := spellsSize_cut (n := (padded (places + 1) units).length - places)
    (isDigit_padded (places + 1) units) (by omega) (Nat.sub_le _ _) .absent
  have hexponent : (0 : Int) + ((padded (places + 1) units).length - places : Nat) -
      (padded (places + 1) units).length = -places := by omega
  rw [List.append_nil, ofDigitChars_padded, hexponent] at hcut
  exact hcut

/-- A number with an exponent spells what it was rounded to. -/
theorem spellsSize_scientificText (places steps : Nat) :
    SpellsSize (scientificText places steps) ((significand places steps).size places) := by
  unfold scientificText
  have hdigits := digits_significand_lt places steps
  generalize significand places steps = s at hdigits ⊢
  have hlength := length_padded (Nat.add_one_pos places) hdigits
  have hcut := spellsSize_cut (n := 1) (isDigit_padded (places + 1) s.digits) (by decide)
    (by omega) (spellsExponent_exponentText (Or.inr rfl) s.exponent)
  have hexponent : s.exponent + (1 : Nat) - (places + 1 : Nat) = s.exponent - places := by omega
  rw [hlength, ofDigitChars_padded, hexponent] at hcut
  exact hcut

/-- A number in the form that its size suggests spells what it was rounded to. -/
theorem spellsSize_generalText (precision steps : Nat) :
    SpellsSize (generalText precision steps)
      ((significand (max precision 1 - 1) steps).size (max precision 1 - 1)) := by
  unfold generalText
  obtain ⟨places, hcount⟩ : ∃ places, max precision 1 = places + 1 :=
    ⟨max precision 1 - 1, by omega⟩
  dsimp only
  rw [hcount, Nat.add_sub_cancel]
  have hdigits := digits_significand_lt places steps
  generalize significand places steps = s at hdigits ⊢
  have hlength := length_padded (Nat.add_one_pos places) hdigits
  have hrow := isDigit_padded (places + 1) s.digits
  have hvalue := ofDigitChars_padded (places + 1) s.digits
  generalize padded (places + 1) s.digits = digits at hlength hrow hvalue ⊢
  rw [Significand.size]
  split
  · next hplain =>
    split
    · next hwhole =>
      have hcut := spellsSize_cut_dropZeros (n := s.exponent.toNat + 1) hrow (Nat.add_one_pos _)
        (by omega) .absent
      have hexponent : (0 : Int) + (s.exponent.toNat + 1 : Nat) - digits.length =
          s.exponent - places := by omega
      rw [List.append_nil, hvalue, hexponent] at hcut
      exact hcut
    · next hsmall =>
      have hzeros : (List.replicate ((-s.exponent).toNat - 1) '0' ++ digits).all
          Char.isDigit = true := isDigit_zeros_append _ hrow
      have hpointed := spellsSize_pointed (List.cons_ne_nil '0' []) rfl
        (isDigit_dropZeros hzeros) .absent
      have hexponent : (0 : Int) - ((-s.exponent).toNat - 1 + digits.length : Nat) =
          s.exponent - places := by omega
      rw [List.append_nil, spelled_dropZeros, spelled_zeros, hvalue, hexponent] at hpointed
      exact hpointed
  · have hcut := spellsSize_cut_dropZeros (n := 1) hrow (by decide) (by omega)
      (spellsExponent_exponentText (Or.inr rfl) s.exponent)
    have hexponent : s.exponent + (1 : Nat) - digits.length = s.exponent - places := by omega
    rw [hvalue, hexponent] at hcut
    exact hcut

/-- What a count of steps is rounded to when it is written. -/
def writtenSize (format : FloatFormat) (precision steps : Nat) : ℚ :=
  match format with
  | .fixed =>
    roundHalfEven (steps * Nat.pow 10 precision) Binary64.stepsPerUnit * 10 ^ (-(precision : Int))
  | .scientific => (significand precision steps).size precision
  | .general => (significand (max precision 1 - 1) steps).size (max precision 1 - 1)

end Decimal

namespace Binary64

/-- A literal says what a number is, or what it was rounded to. -/
inductive WrittenAs (format : FloatFormat) (precision : Nat) (x : Binary64) : FloatLiteral → Prop
  | nan (h : x.isNaN = true) : WrittenAs format precision x .nan
  | infinity (h : x.isInfinite = true) : WrittenAs format precision x (.infinity x.negative)
  | decimal {whole fraction : List Char} {exponent : Int} (h : x.isFinite = true)
      (hsize : Decimal.spelled whole fraction exponent =
        Decimal.writtenSize format precision x.steps) :
      WrittenAs format precision x (.decimal x.negative whole fraction exponent)

variable {format : FloatFormat} {precision : Nat} {x : Binary64}

/-- The sign that a number is written with. -/
lemma spellsSign_text (negative : Bool) : SpellsSign (if negative then ['-'] else []) negative := by
  cases negative with
  | false => exact .absent
  | true => exact .minus

/-- A number is finite if it is neither infinite nor none. -/
lemma isFinite_iff : x.isFinite = true ↔ x.isNaN = false ∧ x.isInfinite = false := by
  simp only [isNaN, isInfinite, isFinite, decide_eq_true_eq, decide_eq_false_iff_not]
  omega

/-- What is infinite is not no number. -/
lemma isNaN_of_isInfinite (h : x.isInfinite = true) : x.isNaN = false := by
  simp only [isNaN, isInfinite, decide_eq_true_eq, decide_eq_false_iff_not] at h ⊢
  omega

/-- A finite number is written as its sign and digits that spell what it was rounded to. -/
lemma exists_text_of_isFinite (h : x.isFinite = true) (format : FloatFormat) (precision : Nat) :
    ∃ digits, x.text format precision = (if x.negative then ['-'] else []) ++ digits ∧
      Decimal.SpellsSize digits (Decimal.writtenSize format precision x.steps) := by
  obtain ⟨hnan, hinfinite⟩ := isFinite_iff.1 h
  cases format with
  | fixed =>
    refine ⟨_, ?_, Decimal.spellsSize_fixedText _ _⟩
    simp [text, hnan, hinfinite]
  | scientific =>
    refine ⟨_, ?_, Decimal.spellsSize_scientificText _ _⟩
    simp [text, hnan, hinfinite]
  | general =>
    refine ⟨_, ?_, Decimal.spellsSize_generalText _ _⟩
    simp [text, hnan, hinfinite]

/-- In every form and precision a number is written as a text of the language of numbers. -/
theorem exists_spellsFloat_text (format : FloatFormat) (precision : Nat) (x : Binary64) :
    ∃ literal, SpellsFloat (x.text format precision) literal ∧
      x.WrittenAs format precision literal := by
  have hsign := spellsSign_text x.negative
  cases hnan : x.isNaN with
  | true =>
    refine ⟨.nan, ?_, .nan hnan⟩
    have hword : x.text format precision =
        [] ++ if format = .fixed then ['n', 'a', 'n'] else ['N', 'A', 'N'] := by
      simp [text, hnan]
    rw [hword]
    exact .nan .absent (by split <;> decide)
  | false =>
    cases hinfinite : x.isInfinite with
    | true =>
      refine ⟨.infinity x.negative, ?_, .infinity hinfinite⟩
      have hword : x.text format precision = (if x.negative then ['-'] else []) ++
          if format = .fixed then ['i', 'n', 'f'] else ['I', 'N', 'F'] := by
        simp [text, hnan, hinfinite]
      rw [hword]
      exact .infinity hsign (by split <;> decide)
    | false =>
      have hfinite := isFinite_iff.2 ⟨hnan, hinfinite⟩
      obtain ⟨_, htext, mantissa, tail, whole, fraction, exponent, rfl, hmantissa, htail, hsize⟩ :=
        exists_text_of_isFinite hfinite format precision
      rw [htext]
      exact ⟨_, .decimal hsign hmantissa htail, .decimal hfinite hsize⟩

/-- A number is written as a text that is not empty. -/
lemma text_ne_nil (format : FloatFormat) (precision : Nat) (x : Binary64) :
    x.text format precision ≠ [] := by
  obtain ⟨literal, hspells, -⟩ := exists_spellsFloat_text format precision x
  exact FloatLiteral.ne_nil_of_spellsFloat hspells

/-- What is infinite is the infinity of its sign. -/
lemma infinity_negative (h : x.isInfinite = true) : infinity x.negative = x := by
  obtain ⟨negative, magnitude⟩ := x
  have hmagnitude : magnitude.val = infinityPattern := of_decide_eq_true h
  rw [infinity, ofPattern, mk.injEq]
  exact ⟨rfl, Fin.ext ((Nat.min_self _).trans hmagnitude.symm)⟩

/-- What is written comes back as a number, infinite or not, if and only if it was one. -/
lemma WrittenAs.isNaN_value {literal : FloatLiteral} (h : x.WrittenAs format precision literal) :
    literal.value.isNaN = x.isNaN := by
  cases h with
  | nan h =>
    rw [h]
    decide
  | infinity h => rw [FloatLiteral.value, infinity_negative h]
  | decimal h => rw [FloatLiteral.isNaN_value_decimal, (isFinite_iff.1 h).1]

/-- What is written of an infinity comes back as it was. -/
lemma WrittenAs.value_of_isInfinite {literal : FloatLiteral}
    (h : x.WrittenAs format precision literal) (hinfinite : x.isInfinite = true) :
    literal.value = x := by
  cases h with
  | nan h =>
    rw [isNaN_of_isInfinite hinfinite] at h
    cases h
  | infinity h => rw [FloatLiteral.value, infinity_negative h]
  | decimal h =>
    rw [(isFinite_iff.1 h).2] at hinfinite
    cases hinfinite

end Binary64

end Nmea0183
