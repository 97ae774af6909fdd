import Mathlib.Data.List.Basic
import Mathlib.Tactic.Common
import Nmea0183.Model.Standard
import Nmea0183.Proofs.Frame.Parts
import Nmea0183.Proofs.Frame.Received
import Nmea0183.Proofs.Message.Decoding

/-!
# The lines that decode

The lines that decode to an instance of a model make up a grammar, which is told of the text of
the line alone: what stands before any field is read (`Message.Headed`), and what the fields stand
for (`Model.Accepts`).  Decoding takes just the lines of the grammar, for the values that their
fields stand for (`Message.decode_accepts_exactly_grammar`).
-/

namespace Nmea0183

namespace Message

/-! ### The grammar -/

/-- What has to stand in a line before any field of a model is read from it: the marker, and a
first token that starts with a talker and a message code, the code of the model if it has one.
The checksum is valid if that is required. -/
structure Headed (m : Model) (config : Config) (line : Bytes) (talker : Talker)
    (code : MessageCode) : Prop where
  marker : (Sentence.content line).head? = some Wire.start
  tokens_prefix : talker.chars ++ code.chars <+:
    (Sentence.body line).takeWhile (· != Wire.comma)
  checksum_valid : config.requireChecksum = true → (Sentence.ofBytes line).checksumValid = true
  code_eq : m.code = .null ∨ m.code = .text code.text

/-- The lines that stand for an instance of a model: behind the first token there is a field for
each value, and stands for it. -/
structure Grammar (m : Model) (schemas : List FieldSchema) (config : Config) (line : Bytes)
    (talker : Talker) (code : MessageCode) (values : List Value) : Prop
    extends Headed m config line talker code where
  accepts : Model.Accepts ((Sentence.body line).splitOn Wire.comma) 1 schemas values

/-- The sentences that may be decoded are those of the lines that have what is needed. -/
lemma fits_iff_headed {m : Model} {config : Config} {line : Bytes} {talker : Talker}
    {code : MessageCode} :
    Fits m config (.ofBytes line) talker code ↔ Headed m config line talker code := by
  constructor
  · intro h
    have hmarker : (Sentence.content line).head? = some Wire.start := by
      by_contra hno
      have hfields := fields_ne_nil_of_tokens h.tokens_eq
      rw [Sentence.fields_of_no_marker hno] at hfields
      cases hfields
    refine ⟨hmarker, ?_, h.checksum_valid, h.code_eq⟩
    rw [← Sentence.header_of_marker hmarker]
    exact Sentence.tokens?_eq_some_iff.1 h.tokens_eq
  · intro h
    refine ⟨Sentence.tokens?_eq_some_iff.2 ?_, h.checksum_valid, h.code_eq⟩
    rw [Sentence.header_of_marker h.marker]
    exact h.tokens_prefix

section Decode

variable {r : Registry} {m : Model} {schemas : List FieldSchema} {template : Template}
  {p : Payload} {line : Line} {config : Config} {talker : Talker} {code : MessageCode}

/-- A line of the grammar decodes to the values that its fields stand for, whatever the template
holds. -/
lemma decode_of_grammar (h : r.Standard m schemas) (hoffers : template.Offers m p)
    {values : List Value} (hline : Grammar m schemas config line.latin talker code values) :
    decode r template line config = .ok (.held
      { payload := { p with values }, codec := Model.codec, talker, code
        checksum := (Sentence.ofBytes line.latin).checksum, size := line.latin.length }) := by
  obtain ⟨-, -, -, hlength⟩ := hoffers.spec h.schema_eq
  have haccepts : Model.Accepts (Sentence.ofBytes line.latin).fields 1 schemas values := by
    rw [Sentence.fields_of_marker hline.marker]
    exact hline.accepts
  have hread := Model.readFields_accepted m.name
    (d := { sentence := .ofBytes line.latin }) haccepts hlength
  rw [decode_of_fits h hoffers (fits_iff_headed.2 hline.toHeaded), hread]
  rfl

/-- A decoder that has not read anything stands at the first field after the header. -/
lemma cursor_of_headed (hline : Headed m config line.latin talker code) :
    1 = min 1 (Sentence.ofBytes line.latin).fields.length := by
  have hfields := fields_ne_nil_of_tokens (fits_iff_headed.2 hline).tokens_eq
  cases hparts : (Sentence.ofBytes line.latin).fields with
  | nil =>
    rw [hparts] at hfields
    cases hfields
  | cons header fields => rw [List.length_cons, Nat.min_eq_left (Nat.le_add_left 1 _)]

/-- A fault with which a field ends the reading is what decoding ends with. -/
lemma decode_of_stops (h : r.Standard m schemas) (hoffers : template.Offers m p)
    (hline : Headed m config line.latin talker code)
    (hstops : Model.Stops m.name ((Sentence.body line.latin).splitOn Wire.comma) 1 schemas) :
    ∃ f, decode r template line config = .error f ∧
      Model.StopsWith m.name ((Sentence.body line.latin).splitOn Wire.comma) 1 schemas f := by
  obtain ⟨-, -, -, hlength⟩ := hoffers.spec h.schema_eq
  rw [← Sentence.fields_of_marker hline.marker] at hstops ⊢
  obtain ⟨values, stopped, d, hread, hstopped, hwith, -⟩ := Model.readFields_spec m.name
    (d := { sentence := .ofBytes line.latin }) (cursor_of_headed hline) hlength
  rw [decode_of_fits h hoffers (fits_iff_headed.2 hline), hread]
  cases stopped with
  | none => exact absurd hstops (hstopped.1 rfl)
  | some f => exact ⟨f, rfl, hwith f rfl⟩

/-- Otherwise the fields that stand for no value are what a line is refused for. -/
lemma decode_of_failures (h : r.Standard m schemas) (hoffers : template.Offers m p)
    (hline : Headed m config line.latin talker code)
    (hgoes : ¬ Model.Stops m.name ((Sentence.body line.latin).splitOn Wire.comma) 1 schemas)
    (hno : ∀ values, ¬ Model.Accepts
      ((Sentence.body line.latin).splitOn Wire.comma) 1 schemas values) :
    decode r template line config = .error (.decode (.fields m.name
      (Model.failures m.name ((Sentence.body line.latin).splitOn Wire.comma) 1 schemas))) := by
  obtain ⟨-, -, -, hlength⟩ := hoffers.spec h.schema_eq
  rw [← Sentence.fields_of_marker hline.marker] at hgoes hno ⊢
  obtain ⟨values, stopped, d, hread, hstopped, -, hmore⟩ := Model.readFields_spec m.name
    (d := { sentence := .ofBytes line.latin }) (cursor_of_headed hline) hlength
  obtain rfl : stopped = none := hstopped.2 hgoes
  obtain ⟨herrors, haccepts⟩ := hmore rfl
  have herrors : d.errors =
      Model.failures m.name (Sentence.ofBytes line.latin).fields 1 schemas := herrors
  have hhas : d.hasError = true := by
    cases hnone : d.errors with
    | nil => exact absurd (haccepts (herrors.symm.trans hnone)) (hno values)
    | cons e errors => rw [Decoder.hasError, hnone]; rfl
  rw [decode_of_fits h hoffers (fits_iff_headed.2 hline), hread, decoded, if_pos hhas, herrors]

/-- Decoding ends with the message of a line of the grammar, with a refusal, or with a fault of a
field that ends the reading. -/
lemma decode_outcomes (h : r.Standard m schemas) (hoffers : template.Offers m p) (line : Line)
    (config : Config) :
    (∃ talker code values, Grammar m schemas config line.latin talker code values ∧
      decode r template line config = .ok (.held
        { payload := { p with values }, codec := Model.codec, talker, code
          checksum := (Sentence.ofBytes line.latin).checksum, size := line.latin.length })) ∨
      (∃ f, decode r template line config = .error (.decode f)) ∨
      (∃ f, decode r template line config = .error f ∧
        Model.StopsWith m.name ((Sentence.body line.latin).splitOn Wire.comma) 1 schemas f) := by
  by_cases hheaded : ∃ talker code, Headed m config line.latin talker code
  · obtain ⟨talker, code, hline⟩ := hheaded
    by_cases hstops :
        Model.Stops m.name ((Sentence.body line.latin).splitOn Wire.comma) 1 schemas
    · exact Or.inr (Or.inr (decode_of_stops h hoffers hline hstops))
    by_cases haccepts : ∃ values,
        Model.Accepts ((Sentence.body line.latin).splitOn Wire.comma) 1 schemas values
    · obtain ⟨values, haccepts⟩ := haccepts
      have hgrammar : Grammar m schemas config line.latin talker code values := ⟨hline, haccepts⟩
      exact Or.inl ⟨talker, code, values, hgrammar, decode_of_grammar h hoffers hgrammar⟩
    · exact Or.inr (Or.inl ⟨_, decode_of_failures h hoffers hline hstops
        fun values hvalues => haccepts ⟨values, hvalues⟩⟩)
  · refine Or.inr (Or.inl (decode_of_not_fits h hoffers fun talker code hfits => hheaded ?_))
    exact ⟨talker, code, fits_iff_headed.1 hfits⟩

/-- Decoding into instances of a model takes just the lines of its grammar, for a message with the
talker and the message code of the line, and with the values that its fields stand for in place of
those that the template has.  A line without what has to stand before the fields is refused with a
cause.  A line that has it is refused for the fields that stand for no value, with one complaint for
each of them and for no other, unless some field ends the reading with a fault: then that fault
comes out of the decoding instead. -/
theorem decode_accepts_exactly_grammar (h : r.Standard m schemas) (hoffers : template.Offers m p)
    (line : Line) (config : Config) :
    let texts := (Sentence.body line.latin).splitOn Wire.comma
    (∀ message, decode r template line config = .ok message ↔
      ∃ talker code values, Grammar m schemas config line.latin talker code values ∧
        message = .held
          { payload := { p with values }, codec := Model.codec, talker, code
            checksum := (Sentence.ofBytes line.latin).checksum, size := line.latin.length }) ∧
    ((∀ talker code, ¬ Headed m config line.latin talker code) →
      ∃ f, decode r template line config = .error (.decode f)) ∧
    ∀ talker code, Headed m config line.latin talker code →
      (Model.Stops m.name texts 1 schemas →
        ∃ f, decode r template line config = .error f ∧
          Model.StopsWith m.name texts 1 schemas f) ∧
      (¬ Model.Stops m.name texts 1 schemas →
        (∀ values, ¬ Model.Accepts texts 1 schemas values) →
        decode r template line config = .error (.decode (.fields m.name
          (Model.failures m.name texts 1 schemas))) ∧
        ∀ s ∈ schemas.zipIdx 1, (∃ c, s.1.verdict m.name texts[s.2]? = .refused c) ↔
          ¬ ∃ v text, texts[s.2]? = some text ∧ s.1.Accepts text v) := by
  intro texts
  refine ⟨fun message => ⟨fun hok => ?_, ?_⟩, fun hnone => ?_, ?_⟩
  · rcases decode_outcomes h hoffers line config with
      ⟨talker, code, values, hgrammar, hmessage⟩ | ⟨f, hf⟩ | ⟨f, hf, -⟩
    · rw [hmessage] at hok
      exact ⟨talker, code, values, hgrammar, (Except.ok.inj hok).symm⟩
    · rw [hf] at hok
      cases hok
    · rw [hf] at hok
      cases hok
  · rintro ⟨talker, code, values, hgrammar, rfl⟩
    exact decode_of_grammar h hoffers hgrammar
  · exact decode_of_not_fits h hoffers fun talker code hfits =>
      hnone talker code (fits_iff_headed.1 hfits)
  · intro talker code hline
    refine ⟨decode_of_stops h hoffers hline, fun hgoes hno =>
      ⟨decode_of_failures h hoffers hline hgoes hno, fun s hs => ?_⟩⟩
    exact FieldSchema.refused_iff fun f hf => hgoes ⟨f, s, hs, hf⟩

/-- An empty text of an optional field stands for the absence of a value, also where the template
has one. -/
theorem decode_accepts_exactly_grammar_of_two_fields :
    let m : Model :=
      { name := "Answer", module := "station", code := .text "ANS"
        fields :=
          [{ name := "count", type := .int, default := some (.int 0),
             limits := { atMost := some 99 } },
           { name := "note", type := .text, optional := true, default := some (.text "none") }] }
    let p : Payload := { type := .model m, values := [.int 7, .text "old"] }
    Registry.Standard {} m
        [⟨"count", .int, false, Limits.constraint { atMost := some 99 } .number⟩,
          ⟨"note", .text, true, Limits.constraint {} .text⟩] ∧
      Template.Offers (.payload p) m p ∧
      ∃ h, decode {} (.payload p) (.text "$PXANS-7,42,".toList)
          { requireChecksum := false } = .ok (.held h) ∧
        h.payload.values = [.int 42, .null] := by
  intro m p
  let schemas : List FieldSchema :=
    [⟨"count", .int, false, Limits.constraint { atMost := some 99 } .number⟩,
      ⟨"note", .text, true, Limits.constraint {} .text⟩]
  let code : MessageCode := ⟨['A', 'N', 'S'], rfl, by decide⟩
  have hstandard : Registry.Standard {} m schemas := ⟨rfl, rfl, Or.inr ⟨code, rfl⟩⟩
  have hoffers : Template.Offers (.payload p) m p := Or.inr ⟨rfl, rfl, rfl⟩
  let line : Line := .text "$PXANS-7,42,".toList
  have hgrammar : Grammar m schemas { requireChecksum := false } line.latin
      ⟨['P', 'X'], rfl, by decide⟩ code [.int 42, .null] := by
    refine ⟨⟨by decide, by decide, ?_, Or.inr rfl⟩, ?_⟩
    · intro hrequired
      cases hrequired
    · exact .cons ⟨"42".toList, by decide, rfl, rfl⟩ (.cons ⟨[], by decide, rfl⟩ .nil)
  obtain ⟨haccepted, -⟩ :=
    decode_accepts_exactly_grammar hstandard hoffers line { requireChecksum := false }
  exact ⟨hstandard, hoffers, _, (haccepted _).2 ⟨_, _, _, hgrammar, rfl⟩, rfl⟩

end Decode

end Message

end Nmea0183
