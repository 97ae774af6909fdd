import Mathlib.Data.List.Basic
import Mathlib.Tactic.Common
import Nmea0183.Proofs.Decoder.Positional
import Nmea0183.Proofs.Message.Decoding

/-!
# Fields are read one apart from the other

Reading an instance of a model is reading each field at its own place (`Model.ReadsEach`): whether
a field is read, and as which value, depends on its schema, the text at its place and the value that
it had.  A field that is refused costs one complaint, with the place and the text of that field, and
shifts none of the others (`Model.reader_readsEach`).  A payload is read in steps that any caller
may take, so decoders that read payloads before are decoders after some history
(`Model.reached_readFields`).
-/

namespace Nmea0183

open Decoder (ofBytes)

/-! ### Payloads in histories -/

/-- The way to take a field of a kind. -/
def WireKind.toRead : WireKind → Decoder.Read
  | bool => .bool
  | enumeration e => .member e
  | int => .int
  | float => .float
  | text => .string
  | register => .register

/-- A field of a kind is read the way that the kind says. -/
lemma WireKind.reader_toRead (kind : WireKind) : kind.toRead.reader = kind.reader := by
  cases kind <;> rfl

/-- Reading a field leads to a decoder after some history. -/
lemma FieldSchema.reached_read {d : Decoder} (h : d.Reached) (s : FieldSchema) (typeName : String)
    (old : Value) : (s.read typeName old d).2.Reached := by
  rw [read]
  split
  · exact h.apply (.step (.read .next))
  have htake : (Decoder.take s.kind.reader d).2.Reached := by
    rw [← s.kind.reader_toRead, ← Decoder.Read.run_eq_take]
    exact h.apply (.step (.read s.kind.toRead))
  generalize Decoder.take s.kind.reader d = taken at htake
  rcases taken with ⟨f | new, d'⟩
  · exact htake
  dsimp only at htake ⊢
  split
  · exact htake
  rw [assign]
  split
  · exact htake
  · exact htake
  · exact htake.apply (.flagLast s.name _)

/-- Reading the fields of a model leads to a decoder after some history, wherever it stops. -/
theorem Model.reached_readFields {d : Decoder} (h : d.Reached) (typeName : String)
    (schemas : List FieldSchema) (olds : List Value) :
    (readFields typeName schemas olds d).2.Reached := by
  induction schemas generalizing olds d with
  | nil => cases olds <;> exact h
  | cons s schemas ih =>
    cases olds with
    | nil => exact h
    | cons old olds =>
      have hfirst := s.reached_read h typeName old
      rw [readFields_cons]
      generalize s.read typeName old d = first at hfirst
      rcases first with ⟨f | v, d'⟩
      · exact hfirst
      · exact ih hfirst olds

/-! ### Each field on its own -/

/-- A value keeps the constraint of a field: it passes the test.  The absence of a value, where it
is allowed, passes every test. -/
def FieldSchema.Keeps (s : FieldSchema) (v : Value) : Prop :=
  (s.optional = true ∧ v = .null) ∨ s.constraint.test v = .ok none

/-- What a text stands for keeps the constraint. -/
lemma FieldSchema.Accepts.keeps {s : FieldSchema} {text : List Char} {v : Value}
    (h : s.Accepts text v) : s.Keeps v := by
  unfold Accepts at h
  split at h
  · next hempty => exact Or.inl ⟨hempty.1, h⟩
  · exact Or.inr h.2

namespace Model

/-- Reading takes an instance and a decoder to others field by field.  The field `k` of the model is
the one `k` places behind that of the decoder: if its text stands for a value the field has that
value, and otherwise it has the old one and is complained about. -/
structure ReadsEach (m : Model) (schemas : List FieldSchema) (p : Payload) (d : Decoder)
    (p' : Payload) (d' : Decoder) : Prop where
  sentence_eq : d'.sentence = d.sentence
  /-- One field is taken for each schema, as long as there are any. -/
  cursor_eq : d'.cursor = d.cursor + min schemas.length d.remaining
  payload_eq : p' = { p with values := p'.values }
  length_eq : p'.values.length = schemas.length
  accepted : ∀ k s text v, schemas[k]? = some s →
    d.sentence.fields[d.cursor + k]? = some text → s.Accepts text v →
      p'.values[k]? = some v ∧ s.complaint? m.name d.sentence.fields[d.cursor + k]? = none
  refused : ∀ k s, schemas[k]? = some s →
    (¬ ∃ text v, d.sentence.fields[d.cursor + k]? = some text ∧ s.Accepts text v) →
      p'.values[k]? = p.values[k]? ∧
        (s.complaint? m.name d.sentence.fields[d.cursor + k]?).isSome = true
  /-- The complaints come in the order of the fields, each with the place and the text of its
  field; where there is no field, the place is the one behind the last. -/
  errors_eq : d'.errors = d.errors ++ (schemas.zipIdx d.cursor).filterMap fun s =>
    (s.1.complaint? m.name d.sentence.fields[s.2]?).map fun c =>
      let place := if s.2 < d.sentence.fields.length then s.2 else max 1 d.sentence.fields.length
      ⟨place, d.sentence.fields[s.2]?, c⟩

/-- The value of a field after reading. -/
lemma getElem?_valuesAfter {typeName : String} {fields : List (List Char)} {start k : Nat}
    {schemas : List FieldSchema} {olds : List Value} {s : FieldSchema} {old : Value}
    (hs : schemas[k]? = some s) (hold : olds[k]? = some old) :
    (valuesAfter typeName fields start schemas olds)[k]? =
      some (s.valueAfter typeName fields[start + k]? old) := by
  rw [valuesAfter, List.getElem?_zipWith, List.getElem?_zipIdx, hs, hold]
  rfl

/-- Where a decoder is placed, reading that goes on to the end reads each field on its own. -/
lemma readsEach_of_readFields {m : Model} {schemas : List FieldSchema} {p : Payload}
    {d d' : Decoder} {values : List Value} (hd : d.Placed)
    (hlength : p.values.length = schemas.length)
    (hread : readFields m.name schemas p.values d = ((values, none), d')) :
    ReadsEach m schemas p d { p with values } d' := by
  have hstands := hd.standsAt
  have hgoes : ¬ Stops m.name d.sentence.fields d.cursor schemas := by
    intro hstops
    obtain ⟨_, _, _, hstopped, -⟩ := readFields_of_stops hstands hstops hlength
    rw [hstopped] at hread
    cases hread
  rw [readFields_of_goes hstands hgoes hlength] at hread
  cases hread
  have hold : ∀ {k : Nat} {s : FieldSchema}, schemas[k]? = some s →
      ∃ old, p.values[k]? = some old := by
    intro k s hs
    obtain ⟨hlt, -⟩ := List.getElem?_eq_some_iff.1 hs
    exact ⟨_, List.getElem?_eq_getElem (hlength ▸ hlt)⟩
  constructor
  case sentence_eq => rfl
  case cursor_eq =>
    have hone := hd.one_le
    have hend := hd.le_end
    rw [Decoder.remaining]
    dsimp only
    omega
  case payload_eq => rfl
  case length_eq =>
    rw [valuesAfter, List.length_zipWith, List.length_zipIdx, hlength, Nat.min_self]
  case accepted =>
    intro k s text v hs htext hv
    obtain ⟨old, hold⟩ := hold hs
    have hverdict : s.verdict m.name d.sentence.fields[d.cursor + k]? = .accepted v :=
      FieldSchema.verdict_eq_accepted_iff.2 ⟨text, htext, hv⟩
    rw [getElem?_valuesAfter hs hold, FieldSchema.valueAfter, FieldSchema.complaint?, hverdict]
    exact ⟨rfl, rfl⟩
  case refused =>
    intro k s hs hno
    obtain ⟨old, hold⟩ := hold hs
    have hmem : (s, d.cursor + k) ∈ schemas.zipIdx d.cursor :=
      List.mk_add_mem_zipIdx_iff_getElem?.2 hs
    have hverdict : ∀ f, s.verdict m.name d.sentence.fields[d.cursor + k]? ≠
        .stopped f := fun f h => hgoes ⟨f, _, hmem, h⟩
    obtain ⟨c, hc⟩ := (FieldSchema.refused_iff hverdict).2 (by
      rintro ⟨v, text, h⟩
      exact hno ⟨text, v, h⟩)
    rw [getElem?_valuesAfter hs hold, FieldSchema.valueAfter, FieldSchema.complaint?, hc, hold]
    exact ⟨rfl, rfl⟩
  case errors_eq =>
    refine congrArg (d.errors ++ ·) (List.filterMap_congr fun s hs => ?_)
    have hplace : min s.2 (max 1 d.sentence.fields.length) =
        if s.2 < d.sentence.fields.length then s.2 else max 1 d.sentence.fields.length := by
      have hle := List.le_snd_of_mem_zipIdx hs
      have hone := hd.one_le
      split <;> omega
    rw [hplace]

/-- The values that an instance has after reading keep the constraints if those before did. -/
lemma ReadsEach.keeps {m : Model} {schemas : List FieldSchema} {p p' : Payload} {d d' : Decoder}
    (h : ReadsEach m schemas p d p' d')
    (hkeeps : ∀ (k : Nat) s v, schemas[k]? = some s → p.values[k]? = some v → s.Keeps v)
    (k : Nat) (s : FieldSchema) (v : Value) (hs : schemas[k]? = some s)
    (hv : p'.values[k]? = some v) : s.Keeps v := by
  by_cases hyes : ∃ text w, d.sentence.fields[d.cursor + k]? = some text ∧ s.Accepts text w
  · obtain ⟨text, w, htext, hw⟩ := hyes
    obtain ⟨hvalue, -⟩ := h.accepted k s text w hs htext hw
    rw [hvalue] at hv
    cases hv
    exact hw.keeps
  · obtain ⟨hvalue, -⟩ := h.refused k s hs hyes
    rw [hvalue] at hv
    exact hkeeps k s v hs hv

section Altered

variable {m : Model} {schemas : List FieldSchema} {p₁ p₁' p₂ p₂' : Payload}
  {d₁ d₁' d₂ d₂' : Decoder}

/-- If the text of one field is another, all other fields have the same values after reading. -/
lemma ReadsEach.getElem?_eq_of_set (h₁ : ReadsEach m schemas p₁ d₁ p₁' d₁')
    (h₂ : ReadsEach m schemas p₂ d₂ p₂' d₂') {j k : Nat} {text : List Char}
    (hfields : d₂.sentence.fields = d₁.sentence.fields.set j text) (hcursor : d₂.cursor = d₁.cursor)
    (hk : d₁.cursor + k ≠ j) (hold : p₂.values[k]? = p₁.values[k]?) :
    p₂'.values[k]? = p₁'.values[k]? := by
  have htext : d₂.sentence.fields[d₂.cursor + k]? = d₁.sentence.fields[d₁.cursor + k]? := by
    rw [hfields, hcursor, List.getElem?_set_ne hk.symm]
  cases hs : schemas[k]? with
  | none =>
    have hle := List.getElem?_eq_none_iff.1 hs
    have hle₁ : p₁'.values.length ≤ k := by rwa [h₁.length_eq]
    have hle₂ : p₂'.values.length ≤ k := by rwa [h₂.length_eq]
    rw [List.getElem?_eq_none hle₁, List.getElem?_eq_none hle₂]
  | some s =>
    by_cases hyes : ∃ t v, d₁.sentence.fields[d₁.cursor + k]? = some t ∧ s.Accepts t v
    · obtain ⟨t, v, ht, hv⟩ := hyes
      rw [(h₁.accepted k s t v hs ht hv).1, (h₂.accepted k s t v hs (htext.trans ht) hv).1]
    · have hno := hyes
      rw [← htext] at hno
      rw [(h₁.refused k s hs hyes).1, (h₂.refused k s hs hno).1, hold]

/-- If the text of one field is another, the complaints about all other fields are the same. -/
lemma ReadsEach.errors_eq_of_set (h₁ : ReadsEach m schemas p₁ d₁ p₁' d₁')
    (h₂ : ReadsEach m schemas p₂ d₂ p₂' d₂') {j : Nat} {text : List Char}
    (hfields : d₂.sentence.fields = d₁.sentence.fields.set j text)
    (hcursor : d₂.cursor = d₁.cursor) :
    (d₂'.errors.drop d₂.errors.length).filter (fun e => e.index ≠ (j : Int)) =
      (d₁'.errors.drop d₁.errors.length).filter fun e => e.index ≠ (j : Int) := by
  rw [h₁.errors_eq, h₂.errors_eq, List.drop_left, List.drop_left, hcursor, List.filter_filterMap,
    List.filter_filterMap]
  apply List.filterMap_congr
  intro s _
  have hlength : d₂.sentence.fields.length = d₁.sentence.fields.length := by
    rw [hfields, List.length_set]
  rw [hlength]
  by_cases hplace : s.2 = j ∧ j < d₁.sentence.fields.length
  · -- the complaint about the altered field is left out
    obtain ⟨rfl, hlt⟩ := hplace
    have hdropped : ∀ (text? : Option (List Char)) (c? : Option Complaint),
        Option.filter (fun e : FieldError => decide (e.index ≠ (s.2 : Int)))
          (c?.map fun c => ⟨(s.2 : Nat), text?, c⟩) = none := by
      intro text? c?
      cases c? <;> simp
    rw [if_pos hlt, hdropped, hdropped]
  · have htext : d₂.sentence.fields[s.2]? = d₁.sentence.fields[s.2]? := by
      rw [hfields]
      by_cases hj : s.2 = j
      · rw [List.set_eq_of_length_le (by omega)]
      · rw [List.getElem?_set_ne (Ne.symm hj)]
    rw [htext]

end Altered

/-- Reading that returns reads each field on its own. -/
lemma readsEach_of_reader_run {m : Model} {schemas : List FieldSchema}
    (hschema : m.schema = .ok schemas) {p p' : Payload} {d d' : Decoder} {answer : Option Payload}
    (hd : d.Reached) (hp : p.type = .model m) (hlength : p.values.length = schemas.length)
    (hreturns : reader.run ⟨p, d⟩ = .ok answer ⟨p', d'⟩) : ReadsEach m schemas p d p' d' := by
  rw [reader_run hschema hp] at hreturns
  dsimp only at hreturns
  split at hreturns
  · next values d'' hread =>
    cases hreturns
    exact readsEach_of_readFields hd.placed hlength hread
  · cases hreturns

/-- Reading a payload treats each field independently.  From any state that a decoder can come to,
reading an instance that returns reads each field at its own place (`ReadsEach`); values that keep
their constraints stay such values; and where the fields of another line differ in one text, every
other field has the same value afterwards, and the same complaint or none. -/
theorem reader_readsEach {m : Model} {schemas : List FieldSchema}
    (hschema : m.schema = .ok schemas) {p p' : Payload} {d d' : Decoder} {answer : Option Payload}
    (hd : d.Reached) (hp : p.type = .model m) (hlength : p.values.length = schemas.length)
    (hreturns : reader.run ⟨p, d⟩ = .ok answer ⟨p', d'⟩) :
    ReadsEach m schemas p d p' d' ∧
    ((∀ (k : Nat) s v, schemas[k]? = some s → p.values[k]? = some v → s.Keeps v) →
      ∀ (k : Nat) s v, schemas[k]? = some s → p'.values[k]? = some v → s.Keeps v) ∧
    ∀ (p₂ p₂' : Payload) (d₂ d₂' : Decoder) (answer₂ : Option Payload) (j : Nat)
      (text : List Char), d₂.Reached →
      d₂.sentence.fields = d.sentence.fields.set j text → d₂.cursor = d.cursor →
      p₂.type = .model m → p₂.values.length = schemas.length →
      reader.run ⟨p₂, d₂⟩ = .ok answer₂ ⟨p₂', d₂'⟩ →
        (∀ k, d.cursor + k ≠ j → p₂.values[k]? = p.values[k]? →
          p₂'.values[k]? = p'.values[k]?) ∧
        (d₂'.errors.drop d₂.errors.length).filter (fun e => e.index ≠ (j : Int)) =
          (d'.errors.drop d.errors.length).filter fun e => e.index ≠ (j : Int) := by
  have h := readsEach_of_reader_run hschema hd hp hlength hreturns
  refine ⟨h, h.keeps, ?_⟩
  intro p₂ p₂' d₂ d₂' answer₂ j text hd₂ hfields hcursor hp₂ hlength₂ hreturns₂
  have h₂ := readsEach_of_reader_run hschema hd₂ hp₂ hlength₂ hreturns₂
  constructor
  · intro k hk hold
    exact h.getElem?_eq_of_set h₂ hfields hcursor hk hold
  · exact h.errors_eq_of_set h₂ hfields hcursor

/-- A number that breaks its limit leaves its field with the old value, and the fields behind it are
read all the same. -/
theorem reader_readsEach_of_broken_limit :
    let m : Model :=
      { name := "Reading", module := "station"
        fields := [
          { name := "count", type := .int, limits := { atMost := some 100 } },
          { name := "note", type := .text, optional := true },
          { name := "flags", type := .register }] }
    let schemas : List FieldSchema :=
      [⟨"count", .int, false, Limits.constraint { atMost := some 100 } .number⟩,
        ⟨"note", .text, true, Limits.constraint {} .text⟩,
        ⟨"flags", .register, false, Limits.constraint {} .other⟩]
    let p : Payload := { type := .model m, values := [.int 7, .text "old", .register ⟨0⟩] }
    let p' : Payload := { p with values := [.int 7, .null, .register ⟨18⟩] }
    let d := ofBytes (Line.text "$GPRDG,250,,0x12".toList).latin
    ∃ d', reader.run ⟨p, d⟩ = .ok none ⟨p', d'⟩ ∧ ReadsEach m schemas p d p' d' := by
  intro m schemas p p' d
  have hschema : m.schema = .ok schemas := rfl
  have hvalues : (readFields m.name schemas p.values d).1 = (p'.values, none) := by decide +kernel
  have hreached : d.Reached := ⟨Line.text "$GPRDG,250,,0x12".toList, [], rfl⟩
  have hrun := reader_run hschema (r := ⟨p, d⟩) rfl
  dsimp only at hrun
  generalize readFields m.name schemas p.values d = result at hvalues hrun
  obtain ⟨read, d'⟩ := result
  obtain rfl : read = (p'.values, none) := hvalues
  exact ⟨d', hrun, (reader_readsEach hschema hreached rfl rfl hrun).1⟩

end Model

end Nmea0183
