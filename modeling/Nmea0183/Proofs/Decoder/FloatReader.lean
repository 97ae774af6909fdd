import Mathlib.Tactic.Common
import Nmea0183.Proofs.Decoder.IntegerReaders

/-!
# The language of the reader of floating point numbers

The texts that are taken for numbers form a language (`SpellsFloat`): decimal digits around an
optional point with an optional exponent behind them, or one of three words in any mixture of cases,
and an optional sign in front.  Parsing decides this language and finds the parts of each of its
texts (`FloatLiteral.parse?_eq_some_iff`), so the reader takes just the language
(`FieldReader.takes_float`).  What is spelled with digits is never read as no number
(`FloatLiteral.isNaN_value_decimal`).
-/

namespace Nmea0183

/-! ### The language -/

/-- An optional sign says whether a number is negative. -/
inductive SpellsSign : List Char → Bool → Prop
  | absent : SpellsSign [] false
  | plus : SpellsSign ['+'] false
  | minus : SpellsSign ['-'] true

/-- Decimal digits before a point and behind it, at least one altogether; the point may be missing
when there are none behind it. -/
inductive SpellsMantissa : List Char → List Char → List Char → Prop
  | bare {whole : List Char} (hne : whole ≠ []) (hwhole : whole.all Char.isDigit = true) :
      SpellsMantissa whole whole []
  | pointed {whole fraction : List Char} (hne : whole ≠ [] ∨ fraction ≠ [])
      (hwhole : whole.all Char.isDigit = true) (hfraction : fraction.all Char.isDigit = true) :
      SpellsMantissa (whole ++ '.' :: fraction) whole fraction

/-- An exponent is missing, or it is an integer behind a mark, possibly with a sign. -/
inductive SpellsExponent : List Char → Int → Prop
  | absent : SpellsExponent [] 0
  | marked {mark : Char} {sign digits : List Char} {negative : Bool} {n : Nat}
      (hmark : mark = 'e' ∨ mark = 'E') (hsign : SpellsSign sign negative)
      (hdigits : SpellsNatural digits n) :
      SpellsExponent (mark :: (sign ++ digits)) (if negative then -(n : Int) else n)

/-- A text stands for a number: with digits, or with a word for infinity or for no number. -/
inductive SpellsFloat : List Char → FloatLiteral → Prop
  | decimal {sign mantissa tail whole fraction : List Char} {negative : Bool} {exponent : Int}
      (hsign : SpellsSign sign negative) (hmantissa : SpellsMantissa mantissa whole fraction)
      (htail : SpellsExponent tail exponent) :
      SpellsFloat (sign ++ (mantissa ++ tail)) (.decimal negative whole fraction exponent)
  | infinity {sign word : List Char} {negative : Bool} (hsign : SpellsSign sign negative)
      (hword : word.map Char.toLower = ['i', 'n', 'f'] ∨
        word.map Char.toLower = ['i', 'n', 'f', 'i', 'n', 'i', 't', 'y']) :
      SpellsFloat (sign ++ word) (.infinity negative)
  | nan {sign word : List Char} {negative : Bool} (hsign : SpellsSign sign negative)
      (hword : word.map Char.toLower = ['n', 'a', 'n']) : SpellsFloat (sign ++ word) .nan

/-! ### First characters -/

/-- A character that is no sign. -/
def NoSign (c : Char) : Prop :=
  c ≠ '-' ∧ c ≠ '+'

/-- A digit is no sign. -/
lemma noSign_of_isDigit {c : Char} (h : c.isDigit = true) : NoSign c := by
  constructor <;> rintro rfl <;> exact absurd h (by decide)

/-- A digit has no other form in lower case. -/
lemma toLower_eq_self_of_isDigit {c : Char} (h : c.isDigit = true) : c.toLower = c := by
  simp only [Char.isDigit, Bool.and_eq_true, decide_eq_true_eq] at h
  unfold Char.toLower
  grind

/-- A mantissa begins with a digit or with the point. -/
lemma SpellsMantissa.exists_cons {mantissa whole fraction : List Char}
    (h : SpellsMantissa mantissa whole fraction) :
    ∃ c rest, mantissa = c :: rest ∧ (c.isDigit = true ∨ c = '.') := by
  cases h with
  | bare hne hwhole =>
    obtain ⟨c, rest, rfl⟩ := List.exists_cons_of_ne_nil hne
    rw [List.all_cons, Bool.and_eq_true] at hwhole
    exact ⟨c, rest, rfl, Or.inl hwhole.1⟩
  | pointed hne hwhole hfraction =>
    cases whole with
    | nil => exact ⟨_, _, rfl, Or.inr rfl⟩
    | cons c rest =>
      rw [List.all_cons, Bool.and_eq_true] at hwhole
      exact ⟨c, _, rfl, Or.inl hwhole.1⟩

/-- An exponent begins with its mark. -/
lemma SpellsExponent.head_cases {tail : List Char} {exponent : Int}
    (h : SpellsExponent tail exponent) :
    tail = [] ∨ ∃ mark rest, tail = mark :: rest ∧ mark.isDigit = false ∧ mark ≠ '.' := by
  cases h with
  | absent => exact Or.inl rfl
  | marked hmark =>
    refine Or.inr ⟨_, _, rfl, ?_⟩
    rcases hmark with rfl | rfl <;> decide

/-- A row of digits is all that a text has of digits at its start when no digit follows. -/
lemma span_isDigit_append {digits rest : List Char} (hdigits : digits.all Char.isDigit = true)
    (hrest : rest = [] ∨ ∃ c tail, rest = c :: tail ∧ c.isDigit = false) :
    (digits ++ rest).takeWhile Char.isDigit = digits ∧
      (digits ++ rest).dropWhile Char.isDigit = rest := by
  have hall := List.all_eq_true.1 hdigits
  rw [List.takeWhile_append_of_pos hall, List.dropWhile_append_of_pos hall]
  rcases hrest with rfl | ⟨c, tail, rfl, hc⟩
  · exact ⟨List.append_nil _, rfl⟩
  · rw [List.takeWhile_cons_of_neg (by simp [hc]), List.dropWhile_cons_of_neg (by simp [hc])]
    exact ⟨List.append_nil _, rfl⟩

namespace FloatLiteral

/-! ### Parts -/

/-- A sign is taken off from what does not begin with another. -/
lemma splitSign_append {sign : List Char} {negative : Bool} (hsign : SpellsSign sign negative)
    {c : Char} (hc : NoSign c) (rest : List Char) :
    splitSign (sign ++ c :: rest) = (negative, c :: rest) := by
  cases hsign with
  | absent =>
    rw [List.nil_append]
    unfold splitSign
    split
    · next heq => exact absurd (List.cons.inj heq).1 hc.1
    · next heq => exact absurd (List.cons.inj heq).1 hc.2
    · rfl
  | plus => rfl
  | minus => rfl

/-- What is taken off a text is a sign. -/
lemma exists_sign (text : List Char) :
    ∃ sign, SpellsSign sign (splitSign text).1 ∧ text = sign ++ (splitSign text).2 := by
  unfold splitSign
  split
  · exact ⟨['-'], .minus, rfl⟩
  · exact ⟨['+'], .plus, rfl⟩
  · exact ⟨[], .absent, rfl⟩

/-- Exponents are what the language takes for them. -/
lemma exponent?_eq_some_iff {text : List Char} {exponent : Int} :
    exponent? text = some exponent ↔ SpellsExponent text exponent := by
  constructor
  · intro h
    cases text with
    | nil =>
      cases h
      exact .absent
    | cons mark rest =>
      obtain ⟨sign, hsign, hrest⟩ := exists_sign rest
      rw [exponent?] at h
      dsimp only at h
      split at h
      · next hshape =>
        obtain ⟨hmark, hne, hdigits⟩ := hshape
        have hmarked := SpellsExponent.marked hmark hsign
          (Wire.numeral_ten_iff.2 ⟨hne, hdigits, rfl⟩)
        rw [← hrest, Option.some.inj h] at hmarked
        exact hmarked
      · cases h
  · intro h
    cases h with
    | absent => rfl
    | @marked mark sign digits negative n hmark hsign hnumeral =>
      obtain ⟨hne, hdigits, rfl⟩ := Wire.numeral_ten_iff.1 hnumeral
      obtain ⟨c, rest, rfl⟩ := List.exists_cons_of_ne_nil hne
      have hc : c.isDigit = true := List.all_eq_true.1 hdigits c List.mem_cons_self
      rw [exponent?, splitSign_append hsign (noSign_of_isDigit hc)]
      exact if_pos ⟨hmark, hne, hdigits⟩

/-- A fraction begins with a point, or there is none. -/
lemma splitFraction_cases (text : List Char) :
    (∃ behind, text = '.' :: behind ∧ splitFraction text =
      (behind.takeWhile Char.isDigit, behind.dropWhile Char.isDigit)) ∨
    splitFraction text = ([], text) := by
  unfold splitFraction
  split
  · exact Or.inl ⟨_, rfl, rfl⟩
  · exact Or.inr rfl

/-- Only a point begins a fraction. -/
lemma splitFraction_of_ne {text : List Char}
    (h : text = [] ∨ ∃ c rest, text = c :: rest ∧ c ≠ '.') : splitFraction text = ([], text) := by
  unfold splitFraction
  split
  · rcases h with h | ⟨c, rest, h, hc⟩
    · cases h
    · exact absurd (List.cons.inj h).1.symm hc
  · rfl

/-- What is read with digits is a mantissa with an exponent behind it. -/
lemma decimal?_eq_some_iff {negative : Bool} {text : List Char} {literal : FloatLiteral} :
    decimal? negative text = some literal ↔
      ∃ mantissa tail whole fraction exponent, text = mantissa ++ tail ∧
        SpellsMantissa mantissa whole fraction ∧ SpellsExponent tail exponent ∧
        literal = .decimal negative whole fraction exponent := by
  constructor
  · intro h
    have hparts : text.takeWhile Char.isDigit ++ text.dropWhile Char.isDigit = text :=
      List.takeWhile_append_dropWhile
    have hwhole : (text.takeWhile Char.isDigit).all Char.isDigit = true := List.all_takeWhile
    rw [decimal?] at h
    generalize text.takeWhile Char.isDigit = whole at h hparts hwhole
    generalize text.dropWhile Char.isDigit = rest at h hparts
    subst hparts
    rcases splitFraction_cases rest with ⟨behind, rfl, hsplit⟩ | hsplit
    · rw [hsplit] at h
      dsimp only at h
      split at h
      · cases h
      next hsome =>
      obtain ⟨exponent, hexponent, rfl⟩ := Option.map_eq_some_iff.1 h
      refine ⟨whole ++ '.' :: behind.takeWhile Char.isDigit, _, whole, _, exponent, ?_, ?_,
        exponent?_eq_some_iff.1 hexponent, rfl⟩
      · rw [List.append_assoc, List.cons_append, List.takeWhile_append_dropWhile]
      · exact .pointed (not_and_or.1 hsome) hwhole List.all_takeWhile
    · rw [hsplit] at h
      dsimp only at h
      split at h
      · cases h
      next hsome =>
      obtain ⟨exponent, hexponent, rfl⟩ := Option.map_eq_some_iff.1 h
      have hne : whole ≠ [] := fun hnil => hsome ⟨hnil, rfl⟩
      exact ⟨whole, rest, whole, [], exponent, rfl, .bare hne hwhole,
        exponent?_eq_some_iff.1 hexponent, rfl⟩
  · rintro ⟨mantissa, tail, whole, fraction, exponent, rfl, hmantissa, htail, rfl⟩
    have hexponent := exponent?_eq_some_iff.2 htail
    have hdigitless : tail = [] ∨ ∃ c rest, tail = c :: rest ∧ c.isDigit = false :=
      htail.head_cases.imp_right fun ⟨c, rest, h, hc⟩ => ⟨c, rest, h, hc.1⟩
    rw [decimal?]
    cases hmantissa with
    | bare hne hwhole =>
      obtain ⟨htake, hdrop⟩ := span_isDigit_append hwhole hdigitless
      have hfraction : splitFraction tail = ([], tail) :=
        splitFraction_of_ne (htail.head_cases.imp_right fun ⟨c, rest, h, hc⟩ => ⟨c, rest, h, hc.2⟩)
      rw [htake, hdrop, hfraction]
      dsimp only
      rw [if_neg (fun h => hne h.1), hexponent]
      rfl
    | pointed hne hwhole hfraction =>
      rw [List.append_assoc, List.cons_append]
      have hpoint : '.' :: (fraction ++ tail) = [] ∨
          ∃ c rest, '.' :: (fraction ++ tail) = c :: rest ∧ c.isDigit = false :=
        Or.inr ⟨_, _, rfl, by decide⟩
      obtain ⟨htake, hdrop⟩ := span_isDigit_append hwhole hpoint
      obtain ⟨htake', hdrop'⟩ := span_isDigit_append hfraction hdigitless
      rw [htake, hdrop, splitFraction, htake', hdrop']
      dsimp only
      rw [if_neg (not_and_or.2 hne), hexponent]
      rfl

/-! ### Literals -/

/-- A word for infinity or for no number begins with a letter. -/
lemma exists_cons_of_map_toLower {word : List Char} {first : Char} {rest : List Char}
    (h : word.map Char.toLower = first :: rest) (hfirst : first = 'i' ∨ first = 'n') :
    ∃ c tail, word = c :: tail ∧ NoSign c := by
  cases word with
  | nil => cases h
  | cons c tail =>
    have hc : c.toLower = first := (List.cons.inj h).1
    refine ⟨c, tail, rfl, ?_, ?_⟩ <;> rintro rfl <;> rcases hfirst with rfl | rfl <;>
      exact absurd hc (by decide)

/-- What begins with a digit or with the point is none of the words. -/
lemma map_toLower_ne_of_begins {c : Char} (hc : c.isDigit = true ∨ c = '.') {first : Char}
    (hfirst : first = 'i' ∨ first = 'n') (text rest : List Char) :
    (c :: text).map Char.toLower ≠ first :: rest := by
  intro h
  have hlower : c.toLower = first := (List.cons.inj h).1
  rcases hc with hc | rfl
  · rw [toLower_eq_self_of_isDigit hc] at hlower
    subst hlower
    rcases hfirst with rfl | rfl <;> exact absurd hc (by decide)
  · rcases hfirst with rfl | rfl <;> exact absurd hlower (by decide)

/-- Parsing finds the parts of the texts of the language, and nothing in other texts. -/
theorem parse?_eq_some_iff {text : List Char} {literal : FloatLiteral} :
    parse? text = some literal ↔ SpellsFloat text literal := by
  constructor
  · intro h
    obtain ⟨sign, hsign, htext⟩ := exists_sign text
    rw [parse?] at h
    dsimp only at h
    rw [htext]
    generalize (splitSign text).1 = negative at h hsign
    generalize (splitSign text).2 = rest at h
    split at h
    · next hword =>
      cases h
      exact .infinity hsign hword
    split at h
    · next hword =>
      cases h
      exact .nan hsign hword
    · obtain ⟨mantissa, tail, whole, fraction, exponent, rfl, hmantissa, htail, rfl⟩ :=
        decimal?_eq_some_iff.1 h
      exact .decimal hsign hmantissa htail
  · intro h
    rw [parse?]
    cases h with
    | @decimal sign mantissa tail whole fraction negative exponent hsign hmantissa htail =>
      have hdecimal : decimal? negative (mantissa ++ tail) =
          some (.decimal negative whole fraction exponent) :=
        decimal?_eq_some_iff.2
          ⟨mantissa, tail, whole, fraction, exponent, rfl, hmantissa, htail, rfl⟩
      obtain ⟨c, rest, rfl, hc⟩ := hmantissa.exists_cons
      have hnosign : NoSign c := by
        rcases hc with hc | rfl
        · exact noSign_of_isDigit hc
        · constructor <;> decide
      rw [List.cons_append] at hdecimal ⊢
      rw [splitSign_append hsign hnosign]
      dsimp only
      rw [if_neg (not_or.2 ⟨map_toLower_ne_of_begins hc (Or.inl rfl) _ _,
        map_toLower_ne_of_begins hc (Or.inl rfl) _ _⟩),
        if_neg (map_toLower_ne_of_begins hc (Or.inr rfl) _ _), hdecimal]
    | infinity hsign hword =>
      obtain ⟨c, tail, rfl, hc⟩ :=
        hword.elim (exists_cons_of_map_toLower · (Or.inl rfl))
          (exists_cons_of_map_toLower · (Or.inl rfl))
      rw [splitSign_append hsign hc]
      exact if_pos hword
    | nan hsign hword =>
      obtain ⟨c, tail, rfl, hc⟩ := exists_cons_of_map_toLower hword (Or.inr rfl)
      rw [splitSign_append hsign hc]
      dsimp only
      rw [hword]
      rfl

/-- The texts of the language are not empty. -/
lemma ne_nil_of_spellsFloat {text : List Char} {literal : FloatLiteral}
    (h : SpellsFloat text literal) : text ≠ [] := by
  rintro rfl
  have hnone := parse?_eq_some_iff.2 h
  cases hnone

end FloatLiteral

/-! ### Values -/

/-- A pattern that was counted is never that of no number. -/
lemma Binary64.isNaN_ofPattern (negative : Bool) (pattern : Nat) :
    (ofPattern negative pattern).isNaN = false :=
  decide_eq_false (Nat.not_lt_of_le (Nat.min_le_right _ _))

/-- A decimal is always rounded to a number. -/
lemma Binary64.isNaN_ofDecimal (negative : Bool) (digits : Nat) (exponent : Int) :
    (ofDecimal negative digits exponent).isNaN = false := by
  unfold ofDecimal
  dsimp only
  split
  · exact isNaN_ofPattern _ _
  split
  · exact isNaN_ofPattern _ _
  split
  · exact isNaN_ofPattern _ _
  split <;> exact isNaN_ofPattern _ _

/-- What is spelled with digits is read as a number. -/
theorem FloatLiteral.isNaN_value_decimal (negative : Bool) (whole fraction : List Char)
    (exponent : Int) : (value (.decimal negative whole fraction exponent)).isNaN = false :=
  Binary64.isNaN_ofDecimal _ _ _

namespace FieldReader

/-- Floating point numbers are read from the texts of the language. -/
theorem read_float_eq_ok_iff {text : List Char} {x : Binary64} :
    float.read text = .ok x ↔ ∃ literal, SpellsFloat text literal ∧ literal.value = x := by
  rw [float, bind_eq_ok_iff]
  refine exists_congr fun literal => ?_
  rw [shaped_eq_ok_iff, FloatLiteral.parse?_eq_some_iff]
  constructor
  · rintro ⟨⟨-, hspells⟩, hvalue⟩
    cases hvalue
    exact ⟨hspells, rfl⟩
  · rintro ⟨hspells, rfl⟩
    exact ⟨⟨FloatLiteral.ne_nil_of_spellsFloat hspells, hspells⟩, rfl⟩

/-- The reader of floating point numbers takes the language, with the values of its literals. -/
theorem takes_float (text : List Char) :
    float.Takes (.zero false) text fun x => ∃ literal, SpellsFloat text literal ∧
      literal.value = x :=
  takes_of_read_iff (fun _ => read_float_eq_ok_iff) (handles_float text)

end FieldReader

end Nmea0183
