import Mathlib.Tactic.Common
import Nmea0183.Proofs.Decimal.Nearest
import Nmea0183.Proofs.Encoder.Refinement
import Nmea0183.Proofs.Model.Appending
import Nmea0183.Proofs.Wire.FieldText

/-!
# Floating point numbers on the wire

A number that is written as the last field of a sentence is there for a decoder of the completed
sentence, in whatever form it was written (`Encoder.exists_take_of_writeFloat`).  Every number is
written as a text of the language of numbers, so its reader makes no complaint and tells infinities,
finite numbers and what is no number apart (`Encoder.take_float_of_writeFloat`).  With seventeen
digits in the form that the size suggests it finds the very same number
(`Encoder.take_float_of_seventeen_digits`).
-/

namespace Nmea0183

/-- The bits of a number are those that it was made of. -/
lemma Binary64.toBits_ofBits (bits : UInt64) : (ofBits bits).toBits = bits := by
  have hlt : bits.toNat < 0x10000000000000000 := bits.toNat_lt
  have hbits : (if 0x8000000000000000 ≤ bits.toNat then 0x8000000000000000 else 0) +
      bits.toNat % 0x8000000000000000 = bits.toNat := by
    split <;> omega
  rw [toBits, ofBits]
  simp only [decide_eq_true_eq]
  rw [hbits, UInt64.ofNat_toNat]

/-- A decoder with one field left stands at the last. -/
lemma Decoder.peek?_of_remaining_one {d : Decoder} {before : List (List Char)} {text : List Char}
    (hfields : d.sentence.fields = before ++ [text]) (h : d.remaining = 1) :
    d.peek? = some text := by
  rw [remaining, hfields, List.length_append, List.length_singleton] at h
  have hcursor : d.cursor = before.length := by omega
  rw [peek?, hfields, hcursor, List.getElem?_concat_length]

namespace Encoder

section Writing

variable {e : Encoder}

/-- In an open encoder with room for a number and for the end of the sentence, the number is written
as one more field, and the sentence is completed with the number as the last of its fields. -/
lemma exists_endMessage_of_writeFloat (he : e.Reached) (hopen : e.isFinalized = false)
    (x : Binary64)
    (hroom : (FieldText.ofFloat e.modes x).length + Wire.suffixLength ≤ e.remaining) :
    ∃ e₁ e₂ sentence, perform (.writeFloat (.float x)) e = .ok () e₁ ∧
      e₁.Extends e [FieldText.ofFloat e.modes x] ∧ endMessage e₁ = .ok sentence e₂ ∧
      ∃ header fields, (Decoder.ofBytes sentence).sentence.fields =
        (header :: fields) ++ [FieldText.ofFloat e.modes x] := by
  obtain ⟨d, hrep⟩ := he.exists_represents
  have hdraft : d.isComplete = false := hrep.isFinalized_eq.symm.trans hopen
  have hsuffix : Wire.suffixLength = 5 := rfl
  rw [hrep.remaining_of_open hdraft, hsuffix] at hroom
  -- The draft takes the number as one more field.
  have htext : FieldText.ofFloatValue d.modes (.float x) = .ok (FieldText.ofFloat e.modes x) := by
    rw [hrep.modes_eq]
    rfl
  have hlength : (d.text ++ (FieldText.ofFloat e.modes x ++ [Wire.comma])).length ≤ d.room := by
    simp only [List.length_append, List.length_singleton]
    omega
  have hperform : Draft.perform (.writeFloat (.float x)) d =
      .ok () { d with fields := d.fields ++ [FieldText.ofFloat e.modes x] } := by
    have htexts : List.Forall₂ (fun text t => text d.modes = .ok t)
        [fun m => FieldText.ofFloatValue m (.float x)] [FieldText.ofFloat e.modes x] :=
      .cons htext .nil
    refine Draft.forM_of_room hdraft htexts ?_
    rw [Draft.text_append_field]
    exact hlength
  obtain ⟨e₁, hwrite, hrep₁⟩ := (perform_agree hrep (.writeFloat (.float x))).exists_ok hperform
  have hextends : e₁.Extends e [FieldText.ofFloat e.modes x] := by
    rcases appendText_extends he.length_le (fun m => FieldText.ofFloatValue m (.float x)) with
      ⟨f, hf⟩ | ⟨t, e', ht, hok, hextends⟩
    · have hrefused : perform (.writeFloat (.float x)) e = .error f e := hf
      rw [hrefused] at hwrite
      cases hwrite
    · have hsame : perform (.writeFloat (.float x)) e = .ok () e' := hok
      rw [hsame] at hwrite
      cases hwrite
      cases ht
      exact hextends
  -- The body has one byte less than the open sentence has behind its start, and the suffix follows.
  have hframe : (Frame.around (Latin.encode (Draft.body
      { d with fields := d.fields ++ [FieldText.ofFloat e.modes x] }))).length ≤ d.room := by
    have hbody := Draft.length_text { d with fields := d.fields ++ [FieldText.ofFloat e.modes x] }
    rw [Draft.text_append_field] at hbody
    simp only [List.length_append, List.length_singleton] at hbody
    rw [Frame.length_around, Latin.length_encode]
    omega
  obtain ⟨e₂, hend, hrep₂⟩ := exists_endMessage_eq hrep₁ hdraft hframe
  have hreceived := hrep₂.ofBytes_written rfl
  rw [hrep₂.written_eq] at hreceived
  refine ⟨e₁, e₂, _, hwrite, hextends, hend, d.header, d.fields, ?_⟩
  exact congrArg Sentence.fields hreceived

/-- A decoder of that sentence that has one field left finds what the number was written as. -/
lemma exists_take_of_writeFloat (he : e.Reached) (hopen : e.isFinalized = false)
    {format : FloatFormat} {precision : Nat} (hformat : e.modes.floatFormat = format)
    (hprecision : e.modes.precision = precision) (x : Binary64)
    (hroom : (x.text format precision).length + Wire.suffixLength ≤ e.remaining) :
    ∃ e₁ e₂ sentence, perform (.writeFloat (.float x)) e = .ok () e₁ ∧
      e₁.Extends e [x.text format precision] ∧ endMessage e₁ = .ok sentence e₂ ∧
      0 < (Decoder.ofBytes sentence).remaining ∧
      ∀ d : Decoder, d.sentence = (Decoder.ofBytes sentence).sentence → d.remaining = 1 →
        ∃ literal, SpellsFloat (x.text format precision) literal ∧
          x.WrittenAs format precision literal ∧
          Decoder.take FieldReader.float d = (.ok literal.value, d.advance) := by
  subst hformat hprecision
  obtain ⟨e₁, e₂, sentence, hwrite, hextends, hend, header, fields, hfields⟩ :=
    exists_endMessage_of_writeFloat he hopen x hroom
  refine ⟨e₁, e₂, sentence, hwrite, hextends, hend, ?_, ?_⟩
  · rw [Decoder.remaining, hfields, List.length_append, List.length_cons]
    exact Nat.lt_sub_of_add_lt (Nat.lt_add_of_pos_left (Nat.succ_pos _))
  · intro d hsentence hone
    rw [← hsentence] at hfields
    obtain ⟨literal, hspells, hwritten⟩ :=
      x.exists_spellsFloat_text e.modes.floatFormat e.modes.precision
    exact ⟨literal, hspells, hwritten, Decoder.take_of_accepted
      (Decoder.peek?_of_remaining_one hfields hone)
      (FieldReader.read_float_eq_ok_iff.2 ⟨literal, hspells, rfl⟩)⟩

/-- In any encoder any form may be chosen with any precision up to 17. -/
lemma perform_setFloatFormat (e : Encoder) (format : FloatFormat) {precision : Nat}
    (h : precision ≤ 17) :
    perform (.setFloatFormat (.floatFormat format) (some precision)) e =
      .ok () { e with modes := { e.modes with floatFormat := format, precision } } := by
  have hrange : (0 : Int) ≤ precision ∧ (precision : Int) ≤ 17 := by omega
  change setFloatFormat (.floatFormat format) (some precision) e = _
  rw [setFloatFormat, if_pos hrange]
  rfl

/-- Every number that is written is read.  In an open encoder any form may be chosen with any
precision up to 17.  In whatever form and precision a number is then written, its text is not empty,
plain, and in the language of numbers, where it spells what the number is rounded to; with room for
it and for the end of the sentence it is written and the sentence is completed, and a decoder of the
sentence that has one field left reads what it spells, without a complaint: no number for what is
none, the infinity for an infinity, and a number for any other. -/
theorem take_float_of_writeFloat (he : e.Reached) (hopen : e.isFinalized = false)
    {format : FloatFormat} {precision : Nat} (hformat : e.modes.floatFormat = format)
    (hprecision : e.modes.precision = precision) (x : Binary64)
    (hroom : (x.text format precision).length + Wire.suffixLength ≤ e.remaining) :
    (∀ (format : FloatFormat) (precision : Nat), precision ≤ 17 →
      perform (.setFloatFormat (.floatFormat format) (some precision)) e =
        .ok () { e with modes := { e.modes with floatFormat := format, precision } }) ∧
    (x.text format precision ≠ [] ∧ Wire.Plain (x.text format precision) ∧
      ∃ literal, SpellsFloat (x.text format precision) literal ∧
        x.WrittenAs format precision literal) ∧
    ∃ e₁ e₂ sentence, perform (.writeFloat (.float x)) e = .ok () e₁ ∧
      e₁.Extends e [x.text format precision] ∧ endMessage e₁ = .ok sentence e₂ ∧
      0 < (Decoder.ofBytes sentence).remaining ∧
      ∀ d : Decoder, d.sentence = (Decoder.ofBytes sentence).sentence → d.remaining = 1 →
        ∃ literal, SpellsFloat (x.text format precision) literal ∧
          x.WrittenAs format precision literal ∧
          Decoder.take FieldReader.float d = (.ok literal.value, d.advance) ∧
          literal.value.isNaN = x.isNaN ∧ (x.isInfinite = true → literal.value = x) := by
  refine ⟨fun format _ hle => perform_setFloatFormat e format hle,
    ⟨x.text_ne_nil _ _, x.plain_text _ _, x.exists_spellsFloat_text format precision⟩, ?_⟩
  obtain ⟨e₁, e₂, sentence, hwrite, hextends, hend, hremaining, htake⟩ :=
    exists_take_of_writeFloat he hopen hformat hprecision x hroom
  refine ⟨e₁, e₂, sentence, hwrite, hextends, hend, hremaining, ?_⟩
  intro d hsentence hone
  obtain ⟨literal, hspells, hwritten, hread⟩ := htake d hsentence hone
  exact ⟨literal, hspells, hwritten, hread, hwritten.isNaN_value, hwritten.value_of_isInfinite⟩

/-- A fresh encoder on a window of 64 bytes, in any form with any precision up to 17. -/
lemma exists_reached (format : FloatFormat) {precision : Nat} (h : precision ≤ 17) :
    ∃ e₀ e, start { window := List.replicate 64 0 } (.text "GP") (.text "GGA") {} = .ok e₀ ∧
      perform (.setFloatFormat (.floatFormat format) (some precision)) e₀ = .ok () e ∧
      e.Reached ∧ e.isFinalized = false ∧ e.modes.floatFormat = format ∧
      e.modes.precision = precision ∧ e.remaining = 57 := by
  obtain ⟨e₀, hstart, hopen, hremaining⟩ :
      ∃ e₀, start { window := List.replicate 64 0 } (.text "GP") (.text "GGA") {} = .ok e₀ ∧
        e₀.isFinalized = false ∧ e₀.remaining = 57 :=
    ⟨_, rfl, rfl, rfl⟩
  have hset := perform_setFloatFormat e₀ format h
  have hreached : e₀.Reached := ⟨_, _, _, _, e₀, [], hstart, rfl⟩
  have hafter := hreached.after_perform (.setFloatFormat (.floatFormat format) (some precision))
  rw [hset] at hafter
  exact ⟨e₀, _, hstart, hset, hafter, hopen, rfl, rfl, hremaining⟩

/-- The infinity below all numbers, in the form with an exponent and without places, is read back
as it is. -/
theorem take_float_of_writeFloat_infinity :
    ∃ e₀ e, start { window := List.replicate 64 0 } (.text "GP") (.text "GGA") {} = .ok e₀ ∧
      perform (.setFloatFormat (.floatFormat .scientific) (some (0 : Nat))) e₀ = .ok () e ∧
      ∃ e₁ e₂ sentence, perform (.writeFloat (.float (.infinity true))) e = .ok () e₁ ∧
        e₁.Extends e [['-', 'I', 'N', 'F']] ∧ endMessage e₁ = .ok sentence e₂ ∧
        ∀ d : Decoder, d.sentence = (Decoder.ofBytes sentence).sentence → d.remaining = 1 →
          Decoder.take FieldReader.float d = (.ok (.infinity true), d.advance) := by
  obtain ⟨e₀, e, hstart, hset, hreached, hopen, hformat, hprecision, hremaining⟩ :=
    exists_reached .scientific (Nat.zero_le 17)
  have htext : (Binary64.infinity true).text .scientific 0 = ['-', 'I', 'N', 'F'] := by decide
  obtain ⟨-, -, e₁, e₂, sentence, hwrite, hextends, hend, -, hread⟩ :=
    take_float_of_writeFloat hreached hopen hformat hprecision (.infinity true)
      (by rw [htext, hremaining]; decide)
  rw [htext] at hextends
  refine ⟨e₀, e, hstart, hset, e₁, e₂, sentence, hwrite, hextends, hend, ?_⟩
  intro d hsentence hone
  obtain ⟨_, -, -, htake, -, hsame⟩ := hread d hsentence hone
  rw [htake, hsame (by decide)]

/-- Seventeen digits carry every number.  In an open encoder that writes seventeen digits in the
form that the size of a number suggests, with room for the number and for the end of the sentence,
the number of any 64 bits is written and the sentence is completed, unless it is no number; a
decoder of the sentence that has one field left reads a number of the same 64 bits, without a
complaint. -/
theorem take_float_of_seventeen_digits (he : e.Reached) (hopen : e.isFinalized = false)
    (hformat : e.modes.floatFormat = .general) (hprecision : e.modes.precision = 17)
    {bits : UInt64} (hbits : (Binary64.ofBits bits).isNaN = false)
    (hroom : ((Binary64.ofBits bits).text .general 17).length + Wire.suffixLength ≤ e.remaining) :
    ∃ e₁ e₂ sentence, perform (.writeFloat (.float (.ofBits bits))) e = .ok () e₁ ∧
      e₁.Extends e [(Binary64.ofBits bits).text .general 17] ∧ endMessage e₁ = .ok sentence e₂ ∧
      0 < (Decoder.ofBytes sentence).remaining ∧
      ∀ d : Decoder, d.sentence = (Decoder.ofBytes sentence).sentence → d.remaining = 1 →
        ∃ y, Decoder.take FieldReader.float d = (.ok y, d.advance) ∧ y.toBits = bits := by
  obtain ⟨e₁, e₂, sentence, hwrite, hextends, hend, hremaining, htake⟩ :=
    exists_take_of_writeFloat he hopen hformat hprecision _ hroom
  refine ⟨e₁, e₂, sentence, hwrite, hextends, hend, hremaining, ?_⟩
  intro d hsentence hone
  obtain ⟨literal, -, hwritten, hread⟩ := htake d hsentence hone
  refine ⟨literal.value, hread, ?_⟩
  rw [hwritten.value_of_general (Nat.le_refl 17) hbits, Binary64.toBits_ofBits]

/-- The smallest positive number is read back as it is. -/
theorem take_float_of_seventeen_digits_smallest :
    ∃ e₀ e, start { window := List.replicate 64 0 } (.text "GP") (.text "GGA") {} = .ok e₀ ∧
      perform (.setFloatFormat (.floatFormat .general) (some (17 : Nat))) e₀ = .ok () e ∧
      ∃ e₁ e₂ sentence, perform (.writeFloat (.float (.ofBits 1))) e = .ok () e₁ ∧
        e₁.Extends e ["4.9406564584124654E-324".toList] ∧ endMessage e₁ = .ok sentence e₂ ∧
        ∀ d : Decoder, d.sentence = (Decoder.ofBytes sentence).sentence → d.remaining = 1 →
          ∃ y, Decoder.take FieldReader.float d = (.ok y, d.advance) ∧ y.toBits = 1 := by
  obtain ⟨e₀, e, hstart, hset, hreached, hopen, hformat, hprecision, hremaining⟩ :=
    exists_reached .general (Nat.le_refl 17)
  have hnumber : (Binary64.ofBits 1).isNaN = false := by decide
  have htext : (Binary64.ofBits 1).text .general 17 = "4.9406564584124654E-324".toList := by
    decide +kernel
  obtain ⟨e₁, e₂, sentence, hwrite, hextends, hend, -, hread⟩ :=
    take_float_of_seventeen_digits hreached hopen hformat hprecision hnumber
      (by rw [htext, hremaining]; decide)
  rw [htext] at hextends
  exact ⟨e₀, e, hstart, hset, e₁, e₂, sentence, hwrite, hextends, hend, hread⟩

end Writing

end Encoder

end Nmea0183
