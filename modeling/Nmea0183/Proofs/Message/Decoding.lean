import Mathlib.Data.List.Basic
import Mathlib.Data.List.Forall2
import Mathlib.Tactic.Common
import Nmea0183.Message.OneShot
import Nmea0183.Proofs.Model.Reading

/-!
# Decoding into an instance of a model

Before any field is read, a line has to have the marker, a header of two valid tokens, a checksum
if one is required, and the message code of the model if it has one (`Message.Fits`).  A line that
does not fit is refused with a cause (`Message.decode_of_not_fits`); of one that fits the fields are
read, and what is read into them decides (`Message.decode_of_fits`).  Payloads of any type are held
before they are read into (`Message.exists_of_decode`).
-/

namespace Nmea0183

/-! ### Instances of a model -/

/-- A new instance has a value for each field. -/
lemma Model.length_of_instantiate {m : Model} {given : List (String × Value)} {values : List Value}
    (h : m.instantiate given = .ok values) : values.length = m.fields.length := by
  unfold Model.instantiate at h
  cases hmisapplied : m.misapplied? given with
  | some limit =>
    rw [hmisapplied] at h
    cases h
  | none =>
    cases hvalues : m.fields.mapM (Model.initial given) with
    | error f =>
      rw [hmisapplied, hvalues] at h
      cases h
    | ok found =>
      rw [hmisapplied, hvalues] at h
      cases hgiven : given.all fun g => m.fields.any fun f => f.name == g.1 with
      | false =>
        rw [hgiven] at h
        cases h
      | true =>
        rw [hgiven] at h
        cases h
        exact (mapM_eq_ok_iff.1 hvalues).length_eq.symm

/-! ### What decoding starts from -/

/-- The routine of models reads the fields of an instance. -/
lemma Model.reader_run {m : Model} {schemas : List FieldSchema} (hschema : m.schema = .ok schemas)
    {r : Reading} (hp : r.payload.type = .model m) :
    Model.reader.run r =
      match readFields m.name schemas r.payload.values r.decoder with
      | ((values, none), d') => .ok none ⟨{ r.payload with values }, d'⟩
      | ((values, some f), d') => .error f ⟨{ r.payload with values }, d'⟩ := by
  dsimp only [Model.reader]
  rw [hp]
  dsimp only
  rw [hschema]
  dsimp only
  rcases readFields m.name schemas r.payload.values r.decoder with ⟨⟨values, stopped⟩, d'⟩
  cases stopped <;> rfl

/-- A template that offers a payload of a model: the model itself, if it has an instance for which
nothing is given, or any of its instances. -/
def Message.Template.Offers (t : Template) (m : Model) (p : Payload) : Prop :=
  (t = .type (.model m) ∧ Payload.instantiate (.model m) [] = .ok p) ∨
    (t = .payload p ∧ p.type = .model m ∧ p.values.length = m.fields.length)

/-- A model whose routines are those of its schema, and whose message code is one if it has any. -/
structure Registry.Standard (r : Registry) (m : Model) (schemas : List FieldSchema) : Prop where
  unregistered : r.find? (.model m) = none
  schema_eq : m.schema = .ok schemas
  code_valid : m.code = .null ∨ ∃ code : MessageCode, m.code = .text code.text

namespace Message

/-- No line is decoded into a message. -/
lemma decode_message (r : Registry) (line : Line) (config : Config) :
    ∃ f, decode r .message line config = .error f := by
  rw [decode]
  cases acceptHeader (.ofBytes line.latin) config with
  | error f => exact ⟨_, rfl⟩
  | ok tokens => exact ⟨_, rfl⟩

/-- What decoding a line goes through when it succeeds: a payload is held under the tokens of the
header, its fields are read, and the message notes the checksum and the size of the sentence. -/
lemma exists_of_decode {r : Registry} {template : Template} {line : Line} {config : Config}
    {m : Message} (hok : decode r template line config = .ok m) :
    ∃ candidate talker code m₀ m₁ d, hold r talker candidate code = .ok m₀ ∧
      deserialize (m₀, { sentence := .ofBytes line.latin }) = .ok () (m₁, d) ∧
      (m₁ = .empty ∧ m = .empty ∨ ∃ h checksum size,
        m₁ = .held h ∧ m = .held { h with checksum, size }) := by
  obtain rfl | ⟨type, htype⟩ : template = .message ∨ ∃ type, template.payloadType? = some type := by
    cases template with
    | type t => exact Or.inr ⟨t, rfl⟩
    | payload p => exact Or.inr ⟨p.type, rfl⟩
    | message => exact Or.inl rfl
  · obtain ⟨f, hf⟩ := decode_message r line config
    rw [hf] at hok
    cases hok
  · rw [decode, htype] at hok
    obtain ⟨tokens, -, hok⟩ := bind_eq_ok_iff.1 hok
    obtain ⟨_, -, hok⟩ := bind_eq_ok_iff.1 hok
    obtain ⟨candidate, -, hok⟩ := bind_eq_ok_iff.1 hok
    refine ⟨candidate, .text (String.ofList tokens.1), .text (String.ofList tokens.2), ?_⟩
    dsimp only at hok
    split at hok
    case h_2 => cases hok
    case h_3 => cases hok
    case h_1 m₀ hhold =>
      refine ⟨m₀, ?_⟩
      obtain ⟨_, hm₀, hok⟩ := bind_eq_ok_iff.1 hok
      cases hm₀
      split at hok
      case h_1 => cases hok
      case h_2 m₁ d hread =>
        refine ⟨m₁, d, hhold, hread, ?_⟩
        split at hok
        · cases hok
        · cases m₁ with
          | empty =>
            cases hok
            exact Or.inl ⟨rfl, rfl⟩
          | held h =>
            cases hok
            exact Or.inr ⟨h, _, _, rfl, rfl⟩

/-- The sentence of a line may be decoded into instances of a model: it has tokens, which may be a
talker and a message code, its checksum is valid if that is required, and the message code is that
of the model, if the model has one. -/
structure Fits (m : Model) (config : Config) (s : Sentence) (talker : Talker)
    (code : MessageCode) : Prop where
  tokens_eq : s.tokens? = some (talker.chars, code.chars)
  checksum_valid : config.requireChecksum = true → s.checksumValid = true
  code_eq : m.code = .null ∨ m.code = .text code.text

section Steps

variable {r : Registry} {m : Model} {schemas : List FieldSchema} {config : Config} {s : Sentence}

/-- A sentence that has tokens has fields. -/
lemma fields_ne_nil_of_tokens {tokens : List Char × List Char} (h : s.tokens? = some tokens) :
    s.fields.isEmpty = false := by
  cases hfields : s.fields with
  | nil =>
    have hnone : s.tokens? = none := by
      rw [Sentence.tokens?, if_neg]
      rw [Sentence.header, hfields]
      decide
    rw [hnone] at h
    cases h
  | cons header fields => rfl

/-- A header is accepted for its tokens, and for the checksum if that is required. -/
lemma acceptHeader_of_tokens {tokens : List Char × List Char} (htokens : s.tokens? = some tokens)
    (hchecksum : config.requireChecksum = true → s.checksumValid = true) :
    acceptHeader s config = .ok tokens := by
  have hfields := fields_ne_nil_of_tokens htokens
  have hvalid : (config.requireChecksum && !s.checksumValid) = false := by
    cases hrequired : config.requireChecksum with
    | false => rfl
    | true => rw [hchecksum hrequired]; rfl
  simp only [acceptHeader, hfields, htokens, hvalid]
  rfl

/-- A header that is accepted has tokens, and a valid checksum if that is required. -/
lemma tokens_of_acceptHeader {tokens : List Char × List Char}
    (h : acceptHeader s config = .ok tokens) :
    s.tokens? = some tokens ∧ (config.requireChecksum = true → s.checksumValid = true) := by
  unfold acceptHeader at h
  cases hfields : s.fields.isEmpty with
  | true =>
    rw [hfields] at h
    cases h
  | false =>
    cases htokens : s.tokens? with
    | none =>
      rw [hfields, htokens] at h
      cases h
    | some found =>
      cases hvalid : config.requireChecksum && !s.checksumValid with
      | true =>
        rw [hfields, htokens, hvalid] at h
        cases hclaimed : s.claimed <;> rw [hclaimed] at h <;> cases h
      | false =>
        rw [hfields, htokens, hvalid] at h
        cases h
        refine ⟨rfl, fun hrequired => ?_⟩
        rw [hrequired, Bool.true_and, Bool.not_eq_false'] at hvalid
        exact hvalid

/-- A model without a message code takes any sentence. -/
lemma checkCode_of_null (hr : r.find? (.model m) = none) (hcode : m.code = .null)
    (found : List Char) : checkCode r (.model m) found = .ok () := by
  simp only [checkCode, Registry.codeFor?, hr, PayloadType.code, hcode]
  rfl

/-- A model with a message code takes the sentences that have it. -/
lemma checkCode_of_text (hr : r.find? (.model m) = none) {code : MessageCode}
    (hcode : m.code = .text code.text) (found : List Char) :
    checkCode r (.model m) found =
      if code.chars ≠ found then .error (.decode (.codeMismatch found m.name code.text))
      else .ok () := by
  have hfor : r.codeFor? (.model m) = .ok (some code) := by
    rw [Registry.codeFor?, hr, PayloadType.code, hcode]
    dsimp only [Option.bind]
    rw [Token.ofValue_text]
  rw [checkCode, hfor]
  rfl

/-- The message code of a sentence is taken if it is that of the model or the model has none, and
refused with a cause if not. -/
lemma checkCode_cases (h : r.Standard m schemas) (found : List Char) :
    (checkCode r (.model m) found = .ok () ∧
      ∀ code : MessageCode, code.chars = found → m.code = .null ∨ m.code = .text code.text) ∨
    ∃ f, checkCode r (.model m) found = .error (.decode f) := by
  rcases h.code_valid with hnull | ⟨code, htext⟩
  · exact Or.inl ⟨checkCode_of_null h.unregistered hnull found, fun _ _ => Or.inl hnull⟩
  rw [checkCode_of_text h.unregistered htext]
  by_cases hfound : code.chars = found
  · refine Or.inl ⟨if_neg (by simp [hfound]), fun code' hcode' => Or.inr ?_⟩
    rw [htext, Token.text, Token.text, hfound, hcode']
  · exact Or.inr ⟨_, if_pos hfound⟩

/-- A payload of a model is held under valid tokens, with the routines of the schema. -/
lemma hold_of_tokens (h : r.Standard m schemas) {p : Payload} (hp : p.type = .model m)
    (talker : Talker) (code : MessageCode) :
    hold r (.text talker.text) (.payload p) (.text code.text) =
      .ok (.held { payload := p, codec := Model.codec, talker, code }) := by
  simp only [hold, hp, Registry.codecFor, h.unregistered, Registry.ownCodec, h.schema_eq,
    Token.ofValue_text, pure_bind]
  rfl

/-- A payload of a model is held under no other tokens. -/
lemma exists_tokens_of_hold (h : r.Standard m schemas) {p : Payload} (hp : p.type = .model m)
    (talker code : List Char) :
    (∃ (t : Talker) (c : MessageCode), t.chars = talker ∧ c.chars = code) ∨
      ∃ f, hold r (.text (String.ofList talker)) (.payload p) (.text (String.ofList code))
        = .error (.header f) := by
  cases htalker : Token.ofValue .talker (.text (String.ofList talker)) with
  | error f =>
    refine Or.inr ⟨f, ?_⟩
    simp only [hold, hp, Registry.codecFor, h.unregistered, Registry.ownCodec, h.schema_eq,
      htalker, pure_bind]
    rfl
  | ok t =>
    cases hcode : Token.ofValue .messageCode (.text (String.ofList code)) with
    | error f =>
      refine Or.inr ⟨f, ?_⟩
      simp only [hold, hp, Registry.codecFor, h.unregistered, Registry.ownCodec, h.schema_eq,
        htalker, hcode, pure_bind]
      rfl
    | ok c =>
      rw [Token.ofValue, String.toList_ofList] at htalker hcode
      exact Or.inl ⟨t, c, Token.chars_ofChars htalker, Token.chars_ofChars hcode⟩

/-- What a template offers can be read into. -/
lemma Template.Offers.spec {t : Template} {p : Payload} (h : t.Offers m p)
    (hschema : m.schema = .ok schemas) :
    t.payloadType? = some (.model m) ∧ t.candidate = .ok (.payload p) ∧ p.type = .model m ∧
      p.values.length = schemas.length := by
  have hlength : schemas.length = m.fields.length := (mapM_eq_ok_iff.1 hschema).length_eq.symm
  rcases h with ⟨rfl, hp⟩ | ⟨rfl, hp, hvalues⟩
  · rw [Template.payloadType?, Template.candidate, hp]
    rw [Payload.instantiate] at hp
    cases hvalues : m.instantiate [] with
    | error f =>
      rw [hvalues] at hp
      cases hp
    | ok values =>
      rw [hvalues] at hp
      cases hp
      exact ⟨rfl, rfl, rfl, (Model.length_of_instantiate hvalues).trans hlength.symm⟩
  · exact ⟨congrArg some hp, rfl, hp, hvalues.trans hlength.symm⟩

/-- The fields of an instance are read by the schema of its model. -/
lemma deserialize_eq (hschema : m.schema = .ok schemas) {h : Holding}
    (hp : h.payload.type = .model m) (hcodec : h.codec = Model.codec) (d : Decoder) :
    deserialize (.held h, d) =
      match Model.readFields m.name schemas h.payload.values d with
      | ((values, none), d') => .ok () (.held { h with payload := { h.payload with values } }, d')
      | ((values, some f), d') =>
        .error f (.held { h with payload := { h.payload with values } }, d') := by
  rw [deserialize, hcodec]
  dsimp only [Model.codec]
  rw [Model.reader_run hschema hp]
  dsimp only
  rcases Model.readFields m.name schemas h.payload.values d with ⟨⟨values, stopped⟩, d'⟩
  cases stopped <;> rfl

end Steps

section Decode

variable {r : Registry} {m : Model} {schemas : List FieldSchema} {template : Template}
  {p : Payload} {line : Line} {config : Config}

/-- What a line that fits decodes to, from what was read into the payload. -/
def decoded (m : Model) (p : Payload) (s : Sentence) (talker : Talker) (code : MessageCode) :
    (List Value × Option Fault) × Decoder → Except Fault Message
  | ((_, some f), _) => .error f
  | ((values, none), d) =>
    if d.hasError then .error (.decode (.fields m.name d.errors))
    else .ok (.held
      { payload := { p with values }, codec := Model.codec, talker, code
        checksum := s.checksum, size := s.size })

/-- A line that fits decodes to what is read into the payload that the template offers. -/
theorem decode_of_fits (h : r.Standard m schemas) (hoffers : template.Offers m p)
    {talker : Talker} {code : MessageCode}
    (hfits : Fits m config (.ofBytes line.latin) talker code) :
    decode r template line config = decoded m p (.ofBytes line.latin) talker code
      (Model.readFields m.name schemas p.values { sentence := .ofBytes line.latin }) := by
  obtain ⟨htype, hcandidate, hp, -⟩ := hoffers.spec h.schema_eq
  have haccept := acceptHeader_of_tokens hfits.tokens_eq hfits.checksum_valid
  have hcheck : checkCode r (.model m) code.chars = .ok () := by
    rcases hfits.code_eq with hnull | htext
    · exact checkCode_of_null h.unregistered hnull _
    · rw [checkCode_of_text h.unregistered htext, if_neg (by simp)]
  have hhold := hold_of_tokens h hp talker code
  rw [decode, htype, hcandidate, haccept]
  simp only [Except.mapError, bind, Except.bind, pure, Except.pure, hcheck]
  rw [← Token.text, ← Token.text, hhold]
  dsimp only
  rw [deserialize_eq h.schema_eq hp rfl]
  dsimp only
  rcases Model.readFields m.name schemas p.values { sentence := .ofBytes line.latin } with
    ⟨⟨values, stopped⟩, d⟩
  cases stopped with
  | some f => rfl
  | none =>
    rw [decoded]
    dsimp only
    cases d.hasError <;> rfl

/-- A line that does not fit is refused with a cause. -/
theorem decode_of_not_fits (h : r.Standard m schemas) (hoffers : template.Offers m p)
    (hfits : ∀ talker code, ¬ Fits m config (.ofBytes line.latin) talker code) :
    ∃ f, decode r template line config = .error (.decode f) := by
  obtain ⟨htype, hcandidate, hp, -⟩ := hoffers.spec h.schema_eq
  rw [decode, htype, hcandidate]
  cases haccept : acceptHeader (.ofBytes line.latin) config with
  | error f => exact ⟨f, rfl⟩
  | ok tokens =>
    obtain ⟨talker, code⟩ := tokens
    obtain ⟨htokens, hchecksum⟩ := tokens_of_acceptHeader haccept
    simp only [Except.mapError, bind, Except.bind, pure, Except.pure]
    rcases checkCode_cases h code with ⟨hcheck, hcode⟩ | ⟨f, hcheck⟩
    · rw [hcheck]
      dsimp only
      rcases exists_tokens_of_hold h hp talker code with ⟨t, c, rfl, rfl⟩ | ⟨f, hhold⟩
      · exact absurd ⟨htokens, hchecksum, hcode c rfl⟩ (hfits t c)
      · rw [hhold]
        exact ⟨_, rfl⟩
    · rw [hcheck]
      exact ⟨f, rfl⟩

end Decode

end Message

end Nmea0183
