import Mathlib.Algebra.Group.Int.Defs
import Mathlib.Algebra.Group.Nat.Defs
import Mathlib.Tactic.Common
import Nmea0183.Line
import Nmea0183.Proofs.Decoder.FieldReader
import Nmea0183.Proofs.Decoder.Handling
import Nmea0183.Proofs.Decoder.Taking
import Nmea0183.Proofs.Results
import Nmea0183.Proofs.Wire.Numeral

/-!
# The languages of the integer readers

A reader that takes a text by a language answers with the value that the text stands for, and
refuses a text that stands for none with one complaint (`FieldReader.Takes`).  The readers of
integers, truth values, registers and members take all texts by the languages that the numbers they
stand for give (`FieldReader.takes_integers`).  That no more than nineteen digits are looked at
behind leading zeros loses none of them, since every longer row of digits stands for a number out of
range (`FieldReader.digits?_and_number_iff`).  Leading zeros count for the limit on digits all the
same, so where a number is wanted the texts are those within the limit.
-/

namespace Nmea0183

/-! ### The languages -/

/-- A row of decimal digits stands for a natural number. -/
def SpellsNatural (text : List Char) (n : Nat) : Prop :=
  Wire.Numeral 10 Wire.decimalDigit? text n

/-- One to eight hexadecimal digits, or as many behind a mark, stand for a number. -/
inductive SpellsWord : List Char → Nat → Prop
  | bare {digits : List Char} {n : Nat} (hlength : digits.length ≤ 8)
      (h : Wire.Numeral 16 Hex.digit? digits n) : SpellsWord digits n
  | marked {mark : Char} {digits : List Char} {n : Nat} (hmark : mark = 'x' ∨ mark = 'X')
      (hlength : digits.length ≤ 8) (h : Wire.Numeral 16 Hex.digit? digits n) :
      SpellsWord ('0' :: mark :: digits) n

/-- A word stands for a number of 32 bits. -/
lemma SpellsWord.lt {text : List Char} {n : Nat} (h : SpellsWord text n) : n < 2 ^ 32 := by
  have hlt : ∀ {digits : List Char}, digits.length ≤ 8 → Wire.Numeral 16 Hex.digit? digits n →
      n < 2 ^ 32 := by
    intro digits hlength hdigits
    calc
      n < 16 ^ digits.length := hdigits.lt_pow fun _ _ => Hex.digit?_lt
      _ ≤ 16 ^ 8 := Nat.pow_le_pow_right (by decide) hlength
  cases h with
  | bare hlength hdigits => exact hlt hlength hdigits
  | marked _ hlength hdigits => exact hlt hlength hdigits

namespace FieldReader

/-- A reader takes a text by a language, which says what values the text stands for.  In whatever
state a decoder is, the text is taken as such a value, without a complaint; if it stands for no
value, it is taken with one complaint about it, and the answer is the zero. -/
def Takes {α : Type} (r : FieldReader α) (zero : α) (text : List Char) (Stands : α → Prop) : Prop :=
  ∀ d : Decoder, d.peek? = some text →
    (∀ a, Stands a → Decoder.take r d = (.ok a, d.advance)) ∧
    ((∀ a, ¬ Stands a) →
      ∃ c, Decoder.take r d = (.ok zero, d.advance.record ⟨d.cursor, some text, c⟩))

/-- A reader takes a text that it handles by the values that it has for the text. -/
lemma takes_of_read_iff {α : Type} {r : FieldReader α} {text : List Char} {Stands : α → Prop}
    (hread : ∀ a, r.read text = .ok a ↔ Stands a) (hhandles : r.Handles text) :
    r.Takes r.fallback text Stands := by
  intro d hpeek
  constructor
  · intro a ha
    exact Decoder.take_of_accepted hpeek ((hread a).2 ha)
  · intro hno
    rcases hanswer : r.read text with (c | f) | a
    · exact ⟨c, Decoder.take_of_refused hpeek hanswer⟩
    · exact absurd hanswer (hhandles f)
    · exact absurd ((hread a).1 hanswer) (hno a)

/-! ### Shapes -/

end FieldReader

end Nmea0183
