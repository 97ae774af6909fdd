import Mathlib.Data.List.Basic
import Mathlib.Tactic.Common
import Nmea0183.Proofs.Message.StrictDecode
import Nmea0183.Proofs.Model.Applicable

/-!
# Lines that are refused

Decoding a line into an instance of a model ends with a message, with a cause for which the line is
refused, or with a fault with which some field ended the reading (`Message.decode_cases`).  The last
is a mistake in the model, or a row of digits beyond the limit.  No line within the limit brings it
about where the fields are without mistakes: then the line decodes to a message or is refused, and
each field that stands for no value is complained about
(`Message.decode_refuses_where_limits_apply`).
-/

namespace Nmea0183

namespace Model

variable {m : Model} {schemas : List FieldSchema}

/-- A field that stands for no value is complained about, if no field ends the reading. -/
lemma mem_failures_of_not_accepts {typeName : String} {fields : List (List Char)} {start : Nat}
    {s : FieldSchema × Nat} (hs : s ∈ schemas.zipIdx start)
    (hgoes : ¬ Stops typeName fields start schemas)
    (hno : ¬ ∃ v text, fields[s.2]? = some text ∧ s.1.Accepts text v) :
    ∃ c, ⟨(min s.2 fields.length : Nat), fields[s.2]?, c⟩
      ∈ failures typeName fields start schemas := by
  obtain ⟨c, hc⟩ : ∃ c, s.1.verdict typeName fields[s.2]? = .refused c :=
    (FieldSchema.refused_iff fun f hf => hgoes ⟨f, s, hs, hf⟩).2 hno
  refine ⟨c, List.mem_filterMap.2 ⟨s, hs, ?_⟩⟩
  rw [hc]

/-- Fields without mistakes are read to the end by the routine of models from texts within the limit
on digits, with a complaint for each field that stands for no value. -/
theorem reader_run_of_applicable (hschema : m.schema = .ok schemas)
    (happly : ∀ s ∈ schemas, s.Applicable) {p : Payload} (hp : p.type = .model m)
    (hlength : p.values.length = schemas.length) {d : Decoder}
    (hdigits : ∀ text ∈ d.sentence.fields, text.length ≤ Numeral.digitLimit) :
    ∃ values d', Model.reader.run ⟨p, d⟩ = .ok none ⟨{ p with values }, d'⟩ ∧
      (d.cursor ≤ d.sentence.fields.length →
        d'.errors = d.errors ++ failures m.name d.sentence.fields d.cursor schemas ∧
        ∀ s ∈ schemas.zipIdx d.cursor,
          (¬ ∃ v text, d.sentence.fields[s.2]? = some text ∧ s.1.Accepts text v) →
          ∃ c, ⟨(min s.2 d.sentence.fields.length : Nat), d.sentence.fields[s.2]?, c⟩
            ∈ d'.errors) := by
  have hgoes : ¬ Stops m.name d.sentence.fields d.cursor schemas :=
    not_stops happly hdigits d.cursor
  have hrun := Model.reader_run hschema (r := ⟨p, d⟩) hp
  dsimp only at hrun
  rw [readFields_of_goes d.standsAt_cursor hgoes hlength] at hrun
  refine ⟨_, _, hrun, fun hcursor => ?_⟩
  dsimp only
  rw [Nat.max_eq_right hcursor, ← failures_eq_complaints]
  refine ⟨rfl, fun s hs hno => ?_⟩
  obtain ⟨c, hc⟩ := mem_failures_of_not_accepts hs hgoes hno
  exact ⟨c, List.mem_append_right _ hc⟩

end Model

namespace Message

variable {r : Registry} {m : Model} {schemas : List FieldSchema} {template : Template} {p : Payload}

/-- Decoding ends with a message, with a refusal, or with a fault of a field. -/
lemma decode_cases (h : r.Standard m schemas) (hoffers : template.Offers m p) (line : Line)
    (config : Config) :
    (∃ message, decode r template line config = .ok message) ∨
      (∃ f, decode r template line config = .error (.decode f)) ∨
      ∃ f, decode r template line config = .error f ∧
        Model.StopsWith m.name ((Sentence.body line.latin).splitOn Wire.comma) 1 schemas f := by
  rcases decode_outcomes h hoffers line config with ⟨_, _, _, -, hmessage⟩ | hno
  · exact Or.inl ⟨_, hmessage⟩
  · exact Or.inr hno

/-- Decoding ends with a message, with a refusal, or with a fault with which a field ended the
reading.  Where the fields are without mistakes, which is so if all limits say something about their
values and all enumerations have members, a line whose fields are within the limit on digits decodes
to a message or is refused; and reading any such fields goes on to the last one, with a complaint
for each field that stands for no value. -/
theorem decode_refuses_where_limits_apply (h : r.Standard m schemas)
    (hoffers : template.Offers m p) :
    (∀ line config, (∃ message, decode r template line config = .ok message) ∨
      (∃ f, decode r template line config = .error (.decode f)) ∨
      ∃ f, decode r template line config = .error f ∧
        Model.StopsWith m.name ((Sentence.body line.latin).splitOn Wire.comma) 1 schemas f) ∧
    ((∀ f ∈ m.fields, ∀ kind, f.kind = .ok kind →
        f.limits.AppliesTo kind ∧ ∀ e, kind = .enumeration e → e.members ≠ []) →
      ∀ s ∈ schemas, s.Applicable) ∧
    ((∀ s ∈ schemas, s.Applicable) →
      (∀ line config,
        (∀ text ∈ (Sentence.body line.latin).splitOn Wire.comma,
          text.length ≤ Numeral.digitLimit) →
        (∃ message, decode r template line config = .ok message) ∨
          ∃ f, decode r template line config = .error (.decode f)) ∧
      ∀ (values : List Value) (d : Decoder), values.length = schemas.length →
        (∀ text ∈ d.sentence.fields, text.length ≤ Numeral.digitLimit) →
        ∃ values' d', Model.reader.run ⟨{ p with values }, d⟩
            = .ok none ⟨{ p with values := values' }, d'⟩ ∧
          (d.cursor ≤ d.sentence.fields.length →
            d'.errors = d.errors ++ Model.failures m.name d.sentence.fields d.cursor schemas ∧
            ∀ s ∈ schemas.zipIdx d.cursor,
              (¬ ∃ v text, d.sentence.fields[s.2]? = some text ∧ s.1.Accepts text v) →
              ∃ c, ⟨(min s.2 d.sentence.fields.length : Nat), d.sentence.fields[s.2]?, c⟩
                ∈ d'.errors)) := by
  obtain ⟨-, -, hp, -⟩ := hoffers.spec h.schema_eq
  refine ⟨decode_cases h hoffers, Model.applicable_of_limits h.schema_eq, fun happly =>
    ⟨fun line config hdigits => ?_, fun values d hlength hdigits => ?_⟩⟩
  · rcases decode_cases h hoffers line config with hmessage | hrefused | ⟨f, -, hstops⟩
    · exact Or.inl hmessage
    · exact Or.inr hrefused
    · exact absurd ⟨f, hstops⟩ (Model.not_stops happly hdigits 1)
  · exact Model.reader_run_of_applicable h.schema_eq happly (p := { p with values }) hp hlength
      hdigits

/-- A text that is no number is complained about. -/
theorem decode_refuses_where_limits_apply_of_malformed :
    let m : Model :=
      { name := "Setting", module := "station", code := .text "SET"
        fields := [{ name := "gain", type := .int, default := some (.int 0),
                     limits := { atLeast := some 0 } }] }
    let s : FieldSchema := ⟨"gain", .int, false, Limits.constraint { atLeast := some 0 } .number⟩
    let p : Payload := { type := .model m, values := [.int 0] }
    let d : Decoder := { sentence := ⟨8, [['G', 'P', 'S', 'E', 'T'], ['x']], none, false⟩ }
    Registry.Standard {} m [s] ∧ Template.Offers (.type (.model m)) m p ∧ s.Applicable ∧
      (∀ line config,
        (∀ text ∈ (Sentence.body line.latin).splitOn Wire.comma,
          text.length ≤ Numeral.digitLimit) →
        (∃ message, decode {} (.type (.model m)) line config = .ok message) ∨
          ∃ f, decode {} (.type (.model m)) line config = .error (.decode f)) ∧
      ∃ values d' c, Model.reader.run ⟨p, d⟩ = .ok none ⟨{ p with values }, d'⟩ ∧
        ⟨1, some ['x'], c⟩ ∈ d'.errors := by
  intro m s p d
  have hstandard : Registry.Standard {} m [s] :=
    ⟨rfl, rfl, Or.inr ⟨⟨['S', 'E', 'T'], rfl, by decide⟩, rfl⟩⟩
  have hoffers : Template.Offers (.type (.model m)) m p := Or.inl ⟨rfl, rfl⟩
  obtain ⟨-, hlimits, hmore⟩ := decode_refuses_where_limits_apply hstandard hoffers
  have happly : ∀ t ∈ [s], t.Applicable := by
    refine hlimits (List.forall_mem_singleton.2 ?_)
    intro kind hkind
    obtain rfl : WireKind.int = kind := Except.ok.inj hkind
    exact ⟨by decide, nofun⟩
  obtain ⟨hends, hreads⟩ := hmore happly
  obtain ⟨values, d', hrun, herrors⟩ := hreads [.int 0] d rfl (by decide)
  obtain ⟨-, hcomplaints⟩ := herrors (by decide)
  have hread : s.kind.reader.read ['x'] = .error (.complaint (.malformed "int" ['x'])) := rfl
  have hnone : ¬ ∃ v text, d.sentence.fields[1]? = some text ∧ s.Accepts text v := by
    rintro ⟨v, text, htext, haccepts⟩
    cases htext
    cases hread.symm.trans haccepts.1
  obtain ⟨c, hc⟩ := hcomplaints (s, 1) List.mem_cons_self hnone
  exact ⟨hstandard, hoffers, happly s List.mem_cons_self, hends, values, d', c, hrun, hc⟩

/-- A register has no size, so that a bound on it ends the decoding of every line that has one. -/
theorem decode_of_bounded_register :
    let m : Model :=
      { name := "Flags", module := "station", code := .text "FLG"
        fields := [{ name := "flags", type := .register, default := some (.register ⟨1⟩),
                     limits := { atLeast := some 1 } }] }
    Registry.Standard {} m
        [⟨"flags", .register, false, Limits.constraint { atLeast := some 1 } .other⟩] ∧
      Payload.instantiate (.model m) [] = .ok { type := .model m, values := [.register ⟨1⟩] } ∧
      decode {} (.type (.model m)) (.bytes (Latin.encode "$GPFLG,0x0001*3F\r\n".toList)) {}
        = .error (.misapplied ⟨.atLeast 1, .register ⟨1⟩⟩) := by
  refine ⟨⟨rfl, rfl, Or.inr ⟨⟨['F', 'L', 'G'], rfl, by decide⟩, rfl⟩⟩, rfl, ?_⟩
  rfl

end Message

end Nmea0183
