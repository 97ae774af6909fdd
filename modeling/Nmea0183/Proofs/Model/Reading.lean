import Mathlib.Data.List.Basic
import Mathlib.Tactic.Common
import Nmea0183.Model.Wire
import Nmea0183.Proofs.Decoder.Taking
import Nmea0183.Proofs.Results

/-!
# What is read into an instance

Whether a field takes a text, and as which value, depends on its schema alone
(`FieldSchema.Accepts`); the verdict on a text also says what is complained about when it does not
(`FieldSchema.verdict`).  Reading the fields of a model is one verdict after the other: when all
texts are accepted the values are just those that the texts stand for (`Model.readFields_accepted`).
Where no field ends it, reading is a function of the texts, the old values and the place of the
decoder (`Model.readFields_of_goes`): every refused field leaves one complaint and no other does
(`Model.readFields_spec`).
-/

namespace Nmea0183

/-- The values of a kind. -/
def WireKind.Holds : WireKind → Value → Prop
  | .bool, v => ∃ b, v = .bool b
  | .int, v => ∃ i, v = .int i
  | .float, v => ∃ x, v = .float x
  | .text, v => ∃ s, v = .text s
  | .register, v => ∃ r, v = .register r
  | .enumeration e, v =>
    ∃ name value, (name, value) ∈ e.canonical ∧ v = .member e.name name value e.integral

/-- What becomes of a field when it is read. -/
inductive Verdict where
  | accepted (v : Value)
  | refused (c : Complaint)
  /-- A fault that ends the reading. -/
  | stopped (f : Fault)
  deriving DecidableEq, Repr

namespace FieldSchema

/-- A text stands for a value of a field: an empty text of an optional field for the absence of a
value, and every other for what the reader finds, if that passes the test. -/
def Accepts (s : FieldSchema) (text : List Char) (v : Value) : Prop :=
  if s.optional = true ∧ text = [] then v = .null
  else s.kind.reader.read text = .ok v ∧ s.constraint.test v = .ok none

/-- The verdict on a value that a reader found. -/
def judge (s : FieldSchema) (typeName : String) (v : Value) : Verdict :=
  match s.constraint.test v with
  | .error f => .stopped f
  | .ok none => .accepted v
  | .ok (some text) => .refused (.flagged s.name s!"rejected by {typeName}: {text}")

/-- The verdict on the text of a field, if there is a field. -/
def verdict (s : FieldSchema) (typeName : String) : Option (List Char) → Verdict
  | none => .refused .noMoreFields
  | some text =>
    if s.optional = true ∧ text = [] then .accepted .null
    else match s.kind.reader.read text with
      | .error (.complaint c) => .refused c
      | .error (.fault f) => .stopped f
      | .ok v => s.judge typeName v

/-- The texts that are accepted are those that stand for a value. -/
lemma verdict_eq_accepted_iff {s : FieldSchema} {typeName : String} {text? : Option (List Char)}
    {v : Value} :
    s.verdict typeName text? = .accepted v ↔ ∃ text, text? = some text ∧ s.Accepts text v := by
  cases text? with
  | none => simp [verdict]
  | some text =>
    have hsome : (∃ t, some text = some t ∧ s.Accepts t v) ↔ s.Accepts text v := by simp
    rw [hsome, verdict, Accepts]
    split
    · rw [Verdict.accepted.injEq, eq_comm]
    · rcases s.kind.reader.read text with (c | f) | w
      · simp
      · simp
      · dsimp only
        rw [judge]
        rcases htest : s.constraint.test w with f | (- | said)
        case ok.none =>
          constructor
          · intro h
            cases h
            exact ⟨rfl, htest⟩
          · rintro ⟨hw, -⟩
            cases hw
            rfl
        all_goals
          refine iff_of_false (by simp) ?_
          rintro ⟨hw, hpasses⟩
          cases hw
          rw [htest] at hpasses
          cases hpasses

/-- Where nothing stops, the texts that are refused are those that stand for no value. -/
lemma refused_iff {s : FieldSchema} {typeName : String} {text? : Option (List Char)}
    (hgoes : ∀ f, s.verdict typeName text? ≠ .stopped f) :
    (∃ c, s.verdict typeName text? = .refused c) ↔
      ¬ ∃ v text, text? = some text ∧ s.Accepts text v := by
  have haccepted : (∃ v text, text? = some text ∧ s.Accepts text v) ↔
      ∃ v, s.verdict typeName text? = .accepted v :=
    exists_congr fun v => verdict_eq_accepted_iff.symm
  rw [haccepted]
  cases hverdict : s.verdict typeName text? with
  | accepted v => simp
  | refused c => simp
  | stopped f => exact absurd hverdict (hgoes f)

/-- The value that a field has after reading: the one that was accepted, or else the old one. -/
def valueAfter (s : FieldSchema) (typeName : String) (text? : Option (List Char)) (old : Value) :
    Value :=
  match s.verdict typeName text? with
  | .accepted v => v
  | _ => old

/-- What is complained about when a field is read, if anything is. -/
def complaint? (s : FieldSchema) (typeName : String) (text? : Option (List Char)) :
    Option Complaint :=
  match s.verdict typeName text? with
  | .refused c => some c
  | _ => none

/-- What reading one field does, by the verdict on its text. -/
theorem read_eq (s : FieldSchema) (typeName : String) (old : Value) (d : Decoder) :
    s.read typeName old d =
      match s.verdict typeName d.peek? with
      | .accepted v => (.ok v, d.pass)
      | .refused c => (.ok old, d.pass.record ⟨d.cursor, d.peek?, c⟩)
      | .stopped f => (.error f, d.pass) := by
  rw [read]
  cases hpeek : d.peek? with
  | none =>
    have hpass : d.pass = d := by rw [Decoder.pass, hpeek]; rfl
    rw [if_neg (by simp), Decoder.take_of_none hpeek, hpass]
    simp [Decoder.record, verdict]
  | some text =>
    rw [Decoder.pass_of_some hpeek]
    by_cases hempty : s.optional = true ∧ text = []
    · rw [if_pos (by simp [hempty]), Decoder.next?_of_some hpeek, verdict, if_pos hempty]
    · rw [if_neg (by simpa using hempty), verdict, if_neg hempty]
      rcases hread : s.kind.reader.read text with (c | f) | v
      · rw [Decoder.take_of_refused hpeek hread]
        simp [Decoder.record, Decoder.advance]
      · rw [Decoder.take_of_fault hpeek hread]
      · rw [Decoder.take_of_accepted hpeek hread]
        dsimp only
        rw [if_neg (by simp [Decoder.advance]), assign, judge]
        rcases s.constraint.test v with f | (- | said)
        · rfl
        · rfl
        · dsimp only
          rw [Decoder.flagLast_advance, hpeek]

/-- The decoder behind a field that was read, with the complaint about it if there is one. -/
def decoderAfter (s : FieldSchema) (typeName : String) (d : Decoder) : Decoder :=
  { d.pass with errors := d.errors ++
    ((s.complaint? typeName d.peek?).map fun c => ⟨d.cursor, d.peek?, c⟩).toList }

/-- Reading a field leaves the sentence as it is. -/
lemma sentence_decoderAfter (s : FieldSchema) (typeName : String) (d : Decoder) :
    (s.decoderAfter typeName d).sentence = d.sentence :=
  d.sentence_pass.1

/-- Reading a field goes on to the next place. -/
lemma standsAt_decoderAfter {d : Decoder} {k stop : Nat} (h : d.StandsAt k stop)
    (s : FieldSchema) (typeName : String) :
    (s.decoderAfter typeName d).StandsAt (k + 1) stop :=
  ⟨h.pass.cursor_eq, h.pass.stop_eq⟩

/-- Where nothing stops, reading one field gives it its new value, goes on by one field, and adds
the complaint if there is one. -/
lemma read_of_goes {s : FieldSchema} {typeName : String} {d : Decoder}
    (hgoes : ∀ f, s.verdict typeName d.peek? ≠ .stopped f) (old : Value) :
    s.read typeName old d =
      (.ok (s.valueAfter typeName d.peek? old), s.decoderAfter typeName d) := by
  have herrors : d.pass.errors = d.errors := d.sentence_pass.2
  rw [read_eq, decoderAfter, valueAfter, complaint?]
  cases hverdict : s.verdict typeName d.peek? with
  | accepted v =>
    dsimp only [Option.map_none, Option.toList_none]
    rw [List.append_nil, ← herrors]
  | refused c =>
    dsimp only [Option.map_some, Option.toList_some, Decoder.record]
    rw [herrors]
  | stopped f => exact absurd hverdict (hgoes f)

end FieldSchema

namespace Model

/-- Reading several fields is reading the first and then the others, unless the first ends it. -/
lemma readFields_cons (typeName : String) (s : FieldSchema) (schemas : List FieldSchema)
    (old : Value) (olds : List Value) (d : Decoder) :
    readFields typeName (s :: schemas) (old :: olds) d =
      match s.read typeName old d with
      | (.error f, d') => ((old :: olds, some f), d')
      | (.ok v, d') =>
        let others := readFields typeName schemas olds d'
        ((v :: others.1.1, others.1.2), others.2) := by
  simp only [readFields, bind, StateT.bind]
  rcases s.read typeName old d with ⟨f | v, d'⟩ <;> rfl

/-- The fields from a place on stand for the values of an instance, each for its own. -/
def Accepts (fields : List (List Char)) (start : Nat) (schemas : List FieldSchema)
    (values : List Value) : Prop :=
  List.Forall₂ (fun s v => ∃ text, fields[s.2]? = some text ∧ s.1.Accepts text v)
    (schemas.zipIdx start) values

/-- The complaints about the fields from a place on, one for each that is refused.  A field that
is not there is complained about at the place after the last. -/
def failures (typeName : String) (fields : List (List Char)) (start : Nat)
    (schemas : List FieldSchema) : List FieldError :=
  (schemas.zipIdx start).filterMap fun s =>
    match s.1.verdict typeName fields[s.2]? with
    | .refused c => some ⟨(min s.2 fields.length : Nat), fields[s.2]?, c⟩
    | _ => none

/-- Some field from a place on ends the reading with a given fault. -/
def StopsWith (typeName : String) (fields : List (List Char)) (start : Nat)
    (schemas : List FieldSchema) (f : Fault) : Prop :=
  ∃ s ∈ schemas.zipIdx start, s.1.verdict typeName fields[s.2]? = .stopped f

/-- Some field from a place on ends the reading with a fault. -/
def Stops (typeName : String) (fields : List (List Char)) (start : Nat)
    (schemas : List FieldSchema) : Prop :=
  ∃ f, StopsWith typeName fields start schemas f

/-- Fields that stand for values are read as these values, whatever the instance had before. -/
theorem readFields_accepted (typeName : String) {schemas : List FieldSchema} {values : List Value}
    {olds : List Value} {d : Decoder} (h : Accepts d.sentence.fields d.cursor schemas values)
    (hlength : olds.length = schemas.length) :
    readFields typeName schemas olds d =
      ((values, none), { d with cursor := d.cursor + schemas.length }) := by
  induction schemas generalizing values olds d with
  | nil =>
    cases h
    obtain rfl := List.eq_nil_of_length_eq_zero hlength
    rfl
  | cons s schemas ih =>
    obtain ⟨old, olds, rfl⟩ := List.exists_cons_of_length_eq_add_one hlength
    rw [Accepts, List.zipIdx_cons] at h
    cases h with
    | @cons _ v _ values hfield hrest =>
    have hverdict : s.verdict typeName d.peek? = .accepted v :=
      FieldSchema.verdict_eq_accepted_iff.2 hfield
    obtain ⟨text, hpeek, -⟩ := hfield
    have hread : s.read typeName old d = (.ok v, d.advance) := by
      rw [FieldSchema.read_eq, hverdict, ← Decoder.pass_of_some hpeek]
    have hnext := @ih values olds d.advance hrest (Nat.succ.inj hlength)
    rw [readFields_cons, hread]
    dsimp only
    rw [hnext, Decoder.advance, List.length_cons]
    dsimp only
    rw [Nat.add_assoc, Nat.add_comm 1]

/-- The complaints about the fields from a place on, where the end of all fields is at `stop`. -/
def complaints (typeName : String) (fields : List (List Char)) (stop start : Nat)
    (schemas : List FieldSchema) : List FieldError :=
  (schemas.zipIdx start).filterMap fun s =>
    (s.1.complaint? typeName fields[s.2]?).map fun c => ⟨(min s.2 stop : Nat), fields[s.2]?, c⟩

/-- The values that an instance has after the fields from a place on were read. -/
def valuesAfter (typeName : String) (fields : List (List Char)) (start : Nat)
    (schemas : List FieldSchema) (olds : List Value) : List Value :=
  List.zipWith (fun s old => s.1.valueAfter typeName fields[s.2]? old) (schemas.zipIdx start) olds

/-- The complaints about the fields from a place on, the first one apart. -/
lemma complaints_cons (typeName : String) (fields : List (List Char)) (stop k : Nat)
    (s : FieldSchema) (schemas : List FieldSchema) :
    complaints typeName fields stop k (s :: schemas) =
      ((s.complaint? typeName fields[k]?).map fun c => ⟨(min k stop : Nat), fields[k]?, c⟩).toList
        ++ complaints typeName fields stop (k + 1) schemas := by
  rw [complaints, List.zipIdx_cons, List.filterMap_cons]
  cases s.complaint? typeName fields[k]? <;> rfl

/-- If the end is behind the last field, the complaints are the failures. -/
lemma failures_eq_complaints (typeName : String) (fields : List (List Char)) (k : Nat)
    (schemas : List FieldSchema) :
    failures typeName fields k schemas = complaints typeName fields fields.length k schemas := by
  rw [failures, complaints]
  congr 1
  funext s
  rw [FieldSchema.complaint?]
  cases s.1.verdict typeName fields[s.2]? <;> rfl

/-- The field that ends the reading with a given fault is the first one or another. -/
lemma stopsWith_cons (typeName : String) (fields : List (List Char)) (k : Nat) (s : FieldSchema)
    (schemas : List FieldSchema) (f : Fault) :
    StopsWith typeName fields k (s :: schemas) f ↔
      s.verdict typeName fields[k]? = .stopped f ∨
        StopsWith typeName fields (k + 1) schemas f := by
  rw [StopsWith, List.zipIdx_cons, List.exists_mem_cons_iff]
  rfl

/-- The field that ends the reading is the first one or another. -/
lemma stops_cons (typeName : String) (fields : List (List Char)) (k : Nat) (s : FieldSchema)
    (schemas : List FieldSchema) :
    Stops typeName fields k (s :: schemas) ↔
      (∃ f, s.verdict typeName fields[k]? = .stopped f) ∨
        Stops typeName fields (k + 1) schemas := by
  rw [Stops, Stops, ← exists_or]
  exact exists_congr fun f => stopsWith_cons ..

section Run

variable {typeName : String} {schemas : List FieldSchema} {olds : List Value} {d : Decoder}
  {k stop : Nat}

/-- Where no field ends it, reading gives each field its new value, goes on by one field for each,
and adds the complaints. -/
theorem readFields_of_goes (h : d.StandsAt k stop)
    (hgoes : ¬ Stops typeName d.sentence.fields k schemas)
    (hlength : olds.length = schemas.length) :
    readFields typeName schemas olds d =
      ((valuesAfter typeName d.sentence.fields k schemas olds, none),
        { d with
          cursor := min (k + schemas.length) stop
          errors := d.errors ++ complaints typeName d.sentence.fields stop k schemas }) := by
  induction schemas generalizing olds d k with
  | nil =>
    obtain rfl := List.eq_nil_of_length_eq_zero hlength
    have hcursor : min (k + 0) stop = d.cursor := h.cursor_eq.symm
    have herrors : d.errors ++ complaints typeName d.sentence.fields stop k [] = d.errors :=
      List.append_nil _
    rw [List.length_nil, hcursor, herrors]
    rfl
  | cons s schemas ih =>
    obtain ⟨old, olds, rfl⟩ := List.exists_cons_of_length_eq_add_one hlength
    obtain ⟨hfirst, hrest⟩ := not_or.1 ((stops_cons ..).not.1 hgoes)
    have hverdict : ∀ f, s.verdict typeName d.peek? ≠ .stopped f := by
      intro f hf
      rw [h.peek?_eq] at hf
      exact hfirst ⟨f, hf⟩
    have hsentence := s.sentence_decoderAfter typeName d
    rw [← hsentence] at hrest
    have hread := ih (FieldSchema.standsAt_decoderAfter h s typeName) hrest (Nat.succ.inj hlength)
    rw [readFields_cons, FieldSchema.read_of_goes hverdict]
    dsimp only
    rw [hread, complaints_cons, hsentence, FieldSchema.decoderAfter]
    dsimp only
    rw [h.peek?_eq, h.cursor_eq, List.length_cons, Nat.add_right_comm, Nat.add_assoc,
      List.append_assoc]
    rfl

/-- Where some field ends it, reading ends with the fault of such a field. -/
lemma readFields_of_stops (h : d.StandsAt k stop)
    (hstops : Stops typeName d.sentence.fields k schemas)
    (hlength : olds.length = schemas.length) :
    ∃ values f d', readFields typeName schemas olds d = ((values, some f), d') ∧
      StopsWith typeName d.sentence.fields k schemas f := by
  induction schemas generalizing olds d k with
  | nil =>
    obtain ⟨_, s, hs, -⟩ := hstops
    exact absurd hs List.not_mem_nil
  | cons s schemas ih =>
    obtain ⟨old, olds, rfl⟩ := List.exists_cons_of_length_eq_add_one hlength
    rw [readFields_cons]
    by_cases hfirst : ∃ f, s.verdict typeName d.sentence.fields[k]? = .stopped f
    · obtain ⟨f, hf⟩ := hfirst
      rw [FieldSchema.read_eq, h.peek?_eq, hf]
      exact ⟨_, f, _, rfl, (stopsWith_cons ..).2 (Or.inl hf)⟩
    · have hverdict : ∀ f, s.verdict typeName d.peek? ≠ .stopped f := by
        intro f hf
        rw [h.peek?_eq] at hf
        exact hfirst ⟨f, hf⟩
      have hrest := ((stops_cons ..).1 hstops).resolve_left hfirst
      rw [FieldSchema.read_of_goes hverdict]
      dsimp only
      rw [← s.sentence_decoderAfter typeName d] at hrest
      obtain ⟨values, f, d', hread, hwith⟩ :=
        ih (FieldSchema.standsAt_decoderAfter h s typeName) hrest (Nat.succ.inj hlength)
      rw [s.sentence_decoderAfter typeName d] at hwith
      rw [hread]
      exact ⟨_, f, d', rfl, (stopsWith_cons ..).2 (Or.inr hwith)⟩

/-- If nothing is complained about, the fields stand for the values that the instance has. -/
lemma accepts_of_complaints_eq_nil
    (hgoes : ¬ Stops typeName d.sentence.fields k schemas)
    (hnone : complaints typeName d.sentence.fields stop k schemas = [])
    (hlength : olds.length = schemas.length) :
    Accepts d.sentence.fields k schemas
      (valuesAfter typeName d.sentence.fields k schemas olds) := by
  induction schemas generalizing olds k with
  | nil =>
    obtain rfl := List.eq_nil_of_length_eq_zero hlength
    exact .nil
  | cons s schemas ih =>
    obtain ⟨old, olds, rfl⟩ := List.exists_cons_of_length_eq_add_one hlength
    obtain ⟨hfirst, hrest⟩ := not_or.1 ((stops_cons ..).not.1 hgoes)
    rw [complaints_cons] at hnone
    obtain ⟨hcomplaint, hcomplaints⟩ := List.append_eq_nil_iff.1 hnone
    refine .cons ?_ (ih hrest hcomplaints (Nat.succ.inj hlength))
    rw [FieldSchema.complaint?] at hcomplaint
    dsimp only
    rw [FieldSchema.valueAfter]
    cases hverdict : s.verdict typeName d.sentence.fields[k]? with
    | accepted v => exact FieldSchema.verdict_eq_accepted_iff.1 hverdict
    | refused c =>
      rw [hverdict] at hcomplaint
      cases hcomplaint
    | stopped f => exact absurd ⟨f, hverdict⟩ hfirst

/-- Reading goes on to the end just if no field ends it with a fault; a fault that it ends with is
that of some field.  At the end there is one complaint for each field that is refused; and if none
is, the fields stand for the values that the instance has. -/
theorem readFields_spec (typeName : String) {schemas : List FieldSchema} {olds : List Value}
    {d : Decoder} {k : Nat} (hk : d.cursor = min k d.sentence.fields.length)
    (hlength : olds.length = schemas.length) :
    ∃ values stopped d', readFields typeName schemas olds d = ((values, stopped), d') ∧
      (stopped = none ↔ ¬ Stops typeName d.sentence.fields k schemas) ∧
      (∀ f, stopped = some f → StopsWith typeName d.sentence.fields k schemas f) ∧
      (stopped = none → d'.errors = d.errors ++ failures typeName d.sentence.fields k schemas ∧
        (failures typeName d.sentence.fields k schemas = [] →
          Accepts d.sentence.fields k schemas values)) := by
  have h := Decoder.standsAt_of_cursor hk
  by_cases hstops : Stops typeName d.sentence.fields k schemas
  · obtain ⟨values, f, d', hread, hwith⟩ := readFields_of_stops h hstops hlength
    refine ⟨values, some f, d', hread, iff_of_false nofun fun hno => hno hstops, ?_, nofun⟩
    rintro _ ⟨⟩
    exact hwith
  · refine ⟨_, none, _, readFields_of_goes h hstops hlength,
      iff_of_true rfl hstops, nofun, fun _ => ?_⟩
    rw [failures_eq_complaints]
    exact ⟨rfl, fun hno => accepts_of_complaints_eq_nil hstops hno hlength⟩

end Run

end Model

end Nmea0183
