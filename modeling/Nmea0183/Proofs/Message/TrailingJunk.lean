import Mathlib.Tactic.Common
import Nmea0183.Message.OneShot
import Nmea0183.Proofs.Decoder.SizeBlind
import Nmea0183.Proofs.Message.Observation
import Nmea0183.Proofs.Model.Reading

/-!
# Junk at the end of a line is not decoded

A line with blanks and zero bytes behind it is read as without them, in whatever way it is read
field by field; and it is decoded as without them, to a message that differs in the size alone, or
it is refused for the same cause (`Message.decode_append_junk`).  This holds for payloads of all
models, whose fields are read by their schemas, and also for those whose registered routine does not
look at the size of the sentence.
-/

namespace Nmea0183

/-! ### Reading a payload -/

/-- Assigning what was read does not look at the size. -/
lemma FieldSchema.sizeBlind_assign (s : FieldSchema) (typeName : String) (old new : Value) :
    Decoder.SizeBlind (s.assign typeName old new) := by
  intro d n
  unfold assign
  rcases s.constraint.test new with f | (- | said) <;> rfl

/-- Reading a field of a model does not look at the size. -/
lemma FieldSchema.sizeBlind_read (s : FieldSchema) (typeName : String) (old : Value) :
    Decoder.SizeBlind (s.read typeName old) := by
  intro d n
  have hpeek : (d.grown n).peek? = d.peek? := rfl
  unfold read
  rw [hpeek, Decoder.sizeBlind_take s.kind.reader d n]
  rcases Decoder.take s.kind.reader d with ⟨f | new, d'⟩
  all_goals
    dsimp only
    split
    · rw [Decoder.sizeBlind_next? d n]
  · rfl
  · have herrors : (d.grown n).errors.length < (d'.grown n).errors.length ↔
        d.errors.length < d'.errors.length := Iff.rfl
    simp only [herrors]
    split
    · rfl
    · exact s.sizeBlind_assign typeName old new d' n

/-- Reading the fields of a model does not look at the size. -/
lemma Model.sizeBlind_readFields (typeName : String) (schemas : List FieldSchema)
    (olds : List Value) : Decoder.SizeBlind (readFields typeName schemas olds) := by
  induction schemas generalizing olds with
  | nil => exact fun d n => rfl
  | cons s schemas ih =>
    cases olds with
    | nil => exact fun d n => rfl
    | cons old olds =>
      rw [readFields]
      refine (s.sizeBlind_read typeName old).bind fun result => ?_
      cases result with
      | error m => exact fun d n => rfl
      | ok v => exact (ih olds).bind fun others d n => rfl

/-- The same reading of a sentence that is longer by some bytes and has the same parts. -/
def Reading.grown (r : Reading) (n : Nat) : Reading :=
  { r with decoder := r.decoder.grown n }

/-- A reading routine that answers the same whatever the size of the sentence. -/
def Reader.SizeBlind (reader : Reader) : Prop :=
  ∀ (r : Reading) (n : Nat), reader.run (r.grown n) =
    match reader.run r with
    | .ok p r' => .ok p (r'.grown n)
    | .error f r' => .error f (r'.grown n)

/-- The routine of models does not look at the size. -/
lemma Model.sizeBlind_reader : reader.SizeBlind := by
  rintro ⟨p, d⟩ n
  dsimp only [reader, Reading.grown]
  cases p.type with
  | model m =>
    dsimp only
    cases m.schema with
    | error f => rfl
    | ok schemas =>
      dsimp only
      rw [sizeBlind_readFields]
      rcases readFields m.name schemas p.values d with ⟨⟨values, stopped⟩, d'⟩
      cases stopped <;> rfl
  | _ => rfl

/-! ### Decoding -/

namespace Message

/-- The message of a sentence that is longer by some bytes and has the same parts. -/
def grown (n : Nat) : Message → Message
  | empty => empty
  | held h => held { h with size := h.size + n }

/-- A payload is read without a look at the size if its routine does not look at it. -/
lemma deserialize_grown {h : Holding} (hblind : h.codec.reader.SizeBlind) (d : Decoder) (n : Nat) :
    deserialize (held h, d.grown n) =
      match deserialize (held h, d) with
      | .ok _ (m, d') => .ok () (m, d'.grown n)
      | .error f (m, d') => .error f (m, d'.grown n) := by
  have hrun := hblind ⟨h.payload, d⟩ n
  dsimp only [Reading.grown] at hrun
  dsimp only [deserialize]
  rw [hrun]
  cases h.codec.reader.run ⟨h.payload, d⟩ with
  | error f r => rfl
  | ok p? r =>
    cases p? with
    | none => rfl
    | some p =>
      dsimp only
      split <;> rfl

/-- A payload that a template of a model offers is of that model. -/
lemma type_of_candidate {template : Template} {m : Model} {p : Payload}
    (htemplate : template.payloadType? = some (.model m))
    (hcandidate : template.candidate = .ok (.payload p)) : p.type = .model m := by
  cases template with
  | type t =>
    cases htemplate
    obtain ⟨_, hfresh, hp⟩ := map_eq_ok_iff.1 hcandidate
    cases hp
    obtain ⟨values, -, rfl⟩ := map_eq_ok_iff.1 hfresh
    rfl
  | payload q =>
    cases hcandidate
    exact Option.some.inj htemplate
  | message => cases htemplate

/-- The routine that reads a model does not look at the size, unless one is registered that does. -/
lemma sizeBlind_of_codecFor {r : Registry} {m : Model} {resolution : Resolution}
    (hroutine : ∀ entry, r.find? (.model m) = some entry → entry.codec.reader.SizeBlind)
    (hresolution : r.codecFor (.model m) = .ok resolution) :
    resolution.codec.reader.SizeBlind := by
  rw [Registry.codecFor] at hresolution
  cases hfind : r.find? (.model m) with
  | some entry =>
    rw [hfind] at hresolution
    cases hresolution
    exact hroutine entry hfind
  | none =>
    rw [hfind] at hresolution
    obtain ⟨codec, hcodec, rfl⟩ := map_eq_ok_iff.1 hresolution
    obtain ⟨schemas, -, rfl⟩ := map_eq_ok_iff.1 (mapError_eq_ok_iff.1 hcodec)
    exact Model.sizeBlind_reader

/-- A line that is received as another one but for its size is decoded to the same message but for
its size, or refused for the same cause. -/
theorem decode_grown {r : Registry} {m : Model} {template : Template} {config : Config}
    (htemplate : template.payloadType? = some (.model m))
    (hroutine : ∀ entry, r.find? (.model m) = some entry → entry.codec.reader.SizeBlind)
    {line line' : Line} {n : Nat}
    (hline : Sentence.ofBytes line'.latin = (Sentence.ofBytes line.latin).grown n) :
    decode r template line' config = (decode r template line config).map (grown n) := by
  rw [decode, decode, hline, htemplate]
  generalize Sentence.ofBytes line.latin = s
  have haccept : acceptHeader (s.grown n) config = acceptHeader s config := rfl
  have hheader : (s.grown n).header = s.header := rfl
  have hdecoder : ({ sentence := s.grown n } : Decoder) = Decoder.grown { sentence := s } n := rfl
  rw [haccept, hheader, hdecoder]
  dsimp only [bind, Except.bind, pure, Except.pure]
  cases (acceptHeader s config).mapError Fault.decode with
  | error f => rfl
  | ok tokens =>
    dsimp only
    cases checkCode r (.model m) tokens.2 with
    | error f => rfl
    | ok _ =>
      dsimp only
      cases hcandidate : template.candidate with
      | error f => rfl
      | ok candidate =>
        dsimp only
        cases hhold : hold r (.text (String.ofList tokens.1)) candidate
            (.text (String.ofList tokens.2)) with
        | error f => cases f <;> rfl
        | ok m₀ =>
          obtain ⟨p, resolution, t, c, rfl, hresolution, rfl, -⟩ := hold_eq_ok hhold
          rw [type_of_candidate htemplate hcandidate] at hresolution
          dsimp only
          rw [deserialize_grown (sizeBlind_of_codecFor hroutine hresolution)]
          cases deserialize (held _, { sentence := s }) with
          | error f result => rfl
          | ok _ result =>
            obtain ⟨m', d'⟩ := result
            have herrors : (d'.grown n).hasError = d'.hasError := rfl
            dsimp only
            rw [herrors]
            -- what is noted of the sentence at the end is all that differs
            cases d'.hasError with
            | true => rfl
            | false => cases m' <;> rfl

/-- Junk behind a line is irrelevant to everything but the size.  The sentence has the same parts,
and whatever was done with a decoder before, every row of reads gives the same answers and the same
complaints.  A payload of a model is decoded from the line as without the junk: to the same message
but for its size, or to the same refusal. -/
theorem decode_append_junk (line : Bytes) {junk : Bytes} (hjunk : ∀ b ∈ junk, b ∈ Wire.junkBytes) :
    let s := Sentence.ofBytes line
    let s' := Sentence.ofBytes (line ++ junk)
    (s'.fields = s.fields ∧ s'.talker? = s.talker? ∧ s'.code? = s.code? ∧
      s'.checksum = s.checksum ∧ s'.claimed.isSome = s.claimed.isSome ∧
      s'.checksumValid = s.checksumValid ∧ s'.size = s.size + junk.length) ∧
    (∀ (actions : List Decoder.Action) (steps : List Decoder.Step),
      let read := (steps.mapM Decoder.Step.run) (Decoder.applyAll actions (.ofBytes line))
      let read' := (steps.mapM Decoder.Step.run)
        (Decoder.applyAll actions (.ofBytes (line ++ junk)))
      read'.1 = read.1 ∧ read'.2.errors = read.2.errors ∧
        read'.2.remaining = read.2.remaining) ∧
    ∀ (r : Registry) (m : Model) (template : Template) (config : Config),
      template.payloadType? = some (.model m) →
      (∀ entry, r.find? (.model m) = some entry → entry.codec.reader.SizeBlind) →
      decode r template (.bytes (line ++ junk)) config =
        (decode r template (.bytes line) config).map (grown junk.length) := by
  intro s s'
  have hs : s' = s.grown junk.length := Sentence.ofBytes_append_junk hjunk line
  refine ⟨?_, fun actions steps => ?_, fun r m template config htemplate hroutine => ?_⟩
  · rw [hs]
    exact ⟨rfl, rfl, rfl, rfl, rfl, rfl, rfl⟩
  · intro read read'
    have hread : read' = (read.1, read.2.grown junk.length) := by
      dsimp only [read', read]
      rw [Decoder.ofBytes_append_junk hjunk, Decoder.mapM_run_applyAll_grown]
    rw [hread]
    exact ⟨rfl, rfl, rfl⟩
  · exact decode_grown htemplate hroutine hs

/-- A blank, a zero byte and a tab behind the line end make the size of a message larger by three,
and change nothing else of it. -/
theorem decode_append_junk_of_answer :
    let m : Model :=
      { name := "Answer", module := "station", code := .text "ANS"
        fields :=
          [{ name := "count", type := .int, default := some (.int 0) },
           { name := "flags", type := .register, default := some (.register ⟨0⟩) }] }
    let line := Latin.encode "$GPANS,7,beef*78\r\n".toList
    let junk : Bytes := [0x20, 0x00, 0x09]
    (∀ b ∈ junk, b ∈ Wire.junkBytes) ∧
      Template.payloadType? (.type (.model m)) = some (.model m) ∧
      ({} : Registry).find? (.model m) = none ∧
      (Sentence.ofBytes (line ++ junk)).checksumValid = true ∧
      ∃ h, decode {} (.type (.model m)) (.bytes line) {} = .ok (.held h) ∧
        h.payload.values = [.int 7, .register ⟨0xBEEF⟩] ∧ h.size = 18 ∧
        decode {} (.type (.model m)) (.bytes (line ++ junk)) {} =
          .ok (.held { h with size := 21 }) := by
  intro m line junk
  have hall : junk.all (fun b => decide (b ∈ Wire.junkBytes)) = true := by decide
  have hjunk : ∀ b ∈ junk, b ∈ Wire.junkBytes := fun b hb =>
    of_decide_eq_true (List.all_eq_true.1 hall b hb)
  obtain ⟨⟨-, -, -, -, -, hvalid, -⟩, -, hdecode⟩ := decode_append_junk line hjunk
  have hruns : (decode {} (.type (.model m)) (.bytes line) {}).toOption.map
      (fun m => (m.payload?.map Payload.values, m.size))
      = some (some [.int 7, .register ⟨0xBEEF⟩], 18) := by
    decide +kernel
  obtain ⟨message, hdecoded, hseen⟩ := Option.map_eq_some_iff.1 hruns
  have hline := toOption_eq_some_iff.1 hdecoded
  have hagain := hdecode {} m (.type (.model m)) {} rfl nofun
  rw [hline] at hagain
  refine ⟨hjunk, rfl, rfl, hvalid.trans (by decide), ?_⟩
  cases message with
  | empty => cases hseen
  | held h =>
    obtain ⟨hvalues, hsize⟩ := Prod.mk.inj hseen
    have hsize : h.size = 18 := hsize
    refine ⟨h, hline, Option.some.inj hvalues, hsize, ?_⟩
    rw [hagain, ← show h.size + junk.length = 21 by rw [hsize]; rfl]
    rfl

end Message

end Nmea0183
