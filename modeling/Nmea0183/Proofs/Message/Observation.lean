import Mathlib.Tactic.Common
import Nmea0183.Proofs.Message.Encoding
import Nmea0183.Proofs.Results

/-!
# What is seen of a message

A caller sees the payload of a message, its talker, its message code, its checksum and its size.
Either there is nothing to see, or all of it is there and valid (`Message.observe_valid`).  What the
operations on a message do is told of what is seen: an assignment changes one attribute, if the
message takes the value, and nothing else (`Message.assign_held`); reading keeps all but the
payload, and of the payload its type (`Message.deserialize_held`).
-/

namespace Nmea0183

namespace Message

/-- What a caller sees of a message. -/
structure Observation where
  payload : Option Payload
  talker : Option String
  code : Option String
  checksum : Int
  size : Int

/-- What a caller sees of this message. -/
def observe (m : Message) : Observation where
  payload := m.payload?
  talker := m.talker?.map Token.text
  code := m.code?.map Token.text
  checksum := m.checksum.toNat
  size := m.size

/-- A text of a length, of characters that a header token may hold. -/
def IsToken (length : Nat) (s : String) : Prop :=
  s.toList.length = length ∧ ∀ c ∈ s.toList, Token.isAllowed c = true

/-- What is seen of an empty message, or of one that holds a payload under a valid header. -/
inductive Observation.Valid : Observation → Prop
  | empty : Valid ⟨none, none, none, 0, 0⟩
  | held {p : Payload} {talker code : String} {checksum size : Int}
      (talker_isToken : IsToken 2 talker) (code_isToken : IsToken 3 code)
      (checksum_mem : 0 ≤ checksum ∧ checksum ≤ 255) (size_nonneg : 0 ≤ size) :
      Valid ⟨some p, some talker, some code, checksum, size⟩

/-- The text of a token is one. -/
lemma isToken_text {kind : TokenKind} (t : Token kind) : IsToken kind.length t.text := by
  have hchars : t.text.toList = t.chars := String.toList_ofList
  rw [IsToken, hchars]
  exact ⟨t.length_eq, List.all_eq_true.1 t.allowed⟩

/-- Every message is empty or valid. -/
theorem observe_valid (m : Message) : m.observe.Valid := by
  cases m with
  | empty => exact .empty
  | held h =>
    have hlt : h.checksum.toNat < 256 := h.checksum.toNat_lt
    have hsum : (0 : Int) ≤ h.checksum.toNat ∧ (h.checksum.toNat : Int) ≤ 255 := by omega
    exact .held (isToken_text h.talker) (isToken_text h.code) hsum (Int.natCast_nonneg _)

/-- The header of a message is there just if the message holds something. -/
lemma validateHeader_eq_ok_iff (m : Message) : m.validateHeader = .ok () ↔ m.isEmpty = false := by
  cases m with
  | empty => exact iff_of_false (fun h => by cases h) (fun h => by cases h)
  | held h => exact iff_of_true rfl rfl

/-- The type of a message is that of the payload that is seen. -/
lemma type_eq_of_observe {m m' : Message}
    (h : m.observe.payload.map Payload.type = m'.observe.payload.map Payload.type) :
    m.type = m'.type := by
  cases m with
  | empty =>
    cases m' with
    | empty => rfl
    | held h' => cases h
  | held hm =>
    cases m' with
    | empty => cases h
    | held h' => exact Option.some.inj h

/-! ### Assignments -/

/-- An attribute that a caller may assign. -/
inductive Attribute where
  | talker
  | code
  | checksum
  | size
  deriving DecidableEq, Repr

/-- A message with another value of an attribute. -/
def assign (m : Message) : Attribute → Value → Except Fault Message
  | .talker => m.setTalker
  | .code => m.setCode
  | .checksum => m.setChecksum
  | .size => m.setSize

/-- The values that an attribute can have. -/
def Attribute.Takes : Attribute → Value → Prop
  | talker, v => ∃ s, v = .text s ∧ IsToken 2 s
  | code, v => ∃ s, v = .text s ∧ IsToken 3 s
  | checksum, v => ∃ n, v.integer? = some n ∧ 0 ≤ n ∧ n ≤ 255
  | size, v => ∃ n, v.integer? = some n ∧ 0 ≤ n

/-- What is seen with another value of an attribute. -/
def Observation.put (o : Observation) : Attribute → Value → Observation
  | .talker, .text s => { o with talker := some s }
  | .code, .text s => { o with code := some s }
  | .checksum, v => { o with checksum := v.integer?.getD 0 }
  | .size, v => { o with size := v.integer?.getD 0 }
  | _, _ => o

/-- No attribute is the payload. -/
lemma Observation.payload_put (o : Observation) (x : Attribute) (v : Value) :
    (o.put x v).payload = o.payload := by
  unfold put
  split <;> rfl

/-- A message answers an assignment as it should: it takes the values that the attribute can have,
each for this attribute alone, and refuses all others. -/
def Attribute.Answers (x : Attribute) (h : Holding) (v : Value) (result : Except Fault Message) :
    Prop :=
  (x.Takes v ∧ ∃ m, result = .ok m ∧ m.observe = (held h).observe.put x v) ∨
    (¬ x.Takes v ∧ ∃ f, result = .error f)

/-- A value is a token of some kind just if it is a text of its length and characters. -/
lemma ofValue_cases (kind : TokenKind) (v : Value) :
    (∃ t : Token kind, v = .text t.text ∧ Token.ofValue kind v = .ok t) ∨
      ((¬ ∃ s, v = .text s ∧ IsToken kind.length s) ∧ ∃ f, Token.ofValue kind v = .error f) := by
  cases hv : Token.ofValue kind v with
  | ok t => exact Or.inl ⟨t, Token.ofValue_eq_ok_iff.1 hv, rfl⟩
  | error f =>
    refine Or.inr ⟨?_, f, rfl⟩
    rintro ⟨s, rfl, hlength, hallowed⟩
    let t : Token kind := ⟨s.toList, hlength, List.all_eq_true.2 hallowed⟩
    have htext : t.text = s := String.ofList_toList
    rw [← htext, Token.ofValue_text] at hv
    cases hv

/-- A talker is assigned as it should be. -/
lemma setTalker_held (h : Holding) (v : Value) :
    Attribute.talker.Answers h v ((held h).setTalker v) := by
  rw [setTalker]
  rcases ofValue_cases .talker v with ⟨t, rfl, ht⟩ | ⟨hno, f, hf⟩
  · rw [ht]
    exact Or.inl ⟨⟨t.text, rfl, isToken_text t⟩, _, rfl, rfl⟩
  · rw [hf]
    exact Or.inr ⟨hno, _, rfl⟩

/-- A message code is assigned as it should be. -/
lemma setCode_held (h : Holding) (v : Value) :
    Attribute.code.Answers h v ((held h).setCode v) := by
  rw [setCode]
  rcases ofValue_cases .messageCode v with ⟨t, rfl, ht⟩ | ⟨hno, f, hf⟩
  · rw [ht]
    exact Or.inl ⟨⟨t.text, rfl, isToken_text t⟩, _, rfl, rfl⟩
  · rw [hf]
    exact Or.inr ⟨hno, _, rfl⟩

/-- What is seen of a message with another checksum. -/
lemma observe_checksum (h : Holding) (sum : UInt8) :
    (held { h with checksum := sum }).observe
      = { (held h).observe with checksum := sum.toNat } :=
  rfl

/-- What is seen of a message with another size. -/
lemma observe_size (h : Holding) (n : Nat) :
    (held { h with size := n }).observe = { (held h).observe with size := n } :=
  rfl

/-- A checksum is assigned as it should be. -/
lemma setChecksum_held (h : Holding) (v : Value) :
    Attribute.checksum.Answers h v ((held h).setChecksum v) := by
  rw [setChecksum]
  cases hv : v.integer? with
  | none =>
    refine Or.inr ⟨?_, _, rfl⟩
    rintro ⟨n, hn, -⟩
    rw [hv] at hn
    cases hn
  | some n =>
    by_cases hrange : 0 ≤ n ∧ n ≤ 0xFF
    · have hlt : n.toNat < 256 := by omega
      have hsum : ((UInt8.ofNat n.toNat).toNat : Int) = n := by
        rw [UInt8.toNat_ofNat_of_lt' hlt, Int.toNat_of_nonneg hrange.1]
      refine Or.inl ⟨⟨n, hv, hrange⟩, _, if_pos hrange, ?_⟩
      rw [observe_checksum, hsum, Observation.put, hv, Option.getD_some]
    · refine Or.inr ⟨?_, _, if_neg hrange⟩
      rintro ⟨n', hn', hrange'⟩
      rw [hv] at hn'
      exact hrange (Option.some.inj hn' ▸ hrange')

/-- A size is assigned as it should be. -/
lemma setSize_held (h : Holding) (v : Value) :
    Attribute.size.Answers h v ((held h).setSize v) := by
  rw [setSize]
  cases hv : v.integer? with
  | none =>
    refine Or.inr ⟨?_, _, rfl⟩
    rintro ⟨n, hn, -⟩
    rw [hv] at hn
    cases hn
  | some n =>
    by_cases hrange : 0 ≤ n
    · refine Or.inl ⟨⟨n, hv, hrange⟩, _, if_pos hrange, ?_⟩
      rw [observe_size, Int.toNat_of_nonneg hrange, Observation.put, hv, Option.getD_some]
    · refine Or.inr ⟨?_, _, if_neg hrange⟩
      rintro ⟨n', hn', hrange'⟩
      rw [hv] at hn'
      exact hrange (Option.some.inj hn' ▸ hrange')

/-- A message that holds something answers every assignment as it should. -/
theorem assign_held (h : Holding) (x : Attribute) (v : Value) :
    x.Answers h v ((held h).assign x v) := by
  cases x with
  | talker => exact setTalker_held h v
  | code => exact setCode_held h v
  | checksum => exact setChecksum_held h v
  | size => exact setSize_held h v

/-- Nothing is assigned to an empty message. -/
lemma assign_empty (x : Attribute) (v : Value) :
    ∃ name, Message.empty.assign x v = .error (.emptyMessage (.set name)) := by
  cases x <;> exact ⟨_, rfl⟩

/-! ### Making a message -/

/-- What is held is a payload with the routines for its type, under the header that is given, or
under the message code that goes with the type. -/
lemma hold_eq_ok {r : Registry} {talker code : Value} {candidate : Candidate} {m : Message}
    (hok : hold r talker candidate code = .ok m) :
    ∃ (p : Payload) (resolution : Resolution) (t : Talker) (c : MessageCode),
      m = .held { payload := p, codec := resolution.codec, talker := t, code := c } ∧
      r.codecFor p.type = .ok resolution ∧ candidate = .payload p ∧ talker = .text t.text ∧
      (code = .text c.text ∨ (code = .null ∧ r.codeFor p.type = .ok c)) := by
  unfold hold at hok
  split at hok
  case h_2 => cases hok
  case h_1 p =>
  obtain ⟨resolution, hresolution, hok⟩ := bind_eq_ok_iff.1 hok
  have htokens : ∀ given : Value,
      (do
        let t ← (Token.ofValue .talker talker).mapError .header
        let c ← (Token.ofValue .messageCode given).mapError .header
        return held { payload := p, codec := resolution.codec, talker := t, code := c })
          = (.ok m : Except Fault Message) →
      ∃ (t : Talker) (c : MessageCode),
        m = .held { payload := p, codec := resolution.codec, talker := t, code := c } ∧
        talker = .text t.text ∧ given = .text c.text := by
    intro given hgiven
    obtain ⟨t, ht, hgiven⟩ := bind_eq_ok_iff.1 hgiven
    obtain ⟨c, hc, hgiven⟩ := bind_eq_ok_iff.1 hgiven
    exact ⟨t, c, (Except.ok.inj hgiven).symm, Token.ofValue_eq_ok_iff.1 (mapError_eq_ok_iff.1 ht),
      Token.ofValue_eq_ok_iff.1 (mapError_eq_ok_iff.1 hc)⟩
  dsimp only at hok
  split at hok
  · obtain ⟨given, hgiven, hok⟩ := bind_eq_ok_iff.1 hok
    obtain ⟨t, c, hm, htalker, hcode⟩ := htokens given hok
    obtain ⟨c', hfor, rfl⟩ := map_eq_ok_iff.1 hgiven
    have hc : Token.ofValue .messageCode (.text c'.text) = .ok c' := Token.ofValue_text c'
    rw [hcode, Token.ofValue_text] at hc
    obtain rfl := Except.ok.inj hc
    exact ⟨p, resolution, t, c, hm, hresolution, rfl, htalker, Or.inr ⟨rfl, hfor⟩⟩
  · obtain ⟨t, c, hm, htalker, hcode⟩ := htokens _ hok
    exact ⟨p, resolution, t, c, hm, hresolution, rfl, htalker, Or.inl hcode⟩

/-- What is made of nothing is empty; all else is made by holding a payload. -/
lemma create_eq_ok {r : Registry} {talker code : Value} {candidate : Option Candidate}
    {m : Message} (hok : create r talker candidate code = .ok m) :
    (m = .empty ∧ talker = .null ∧ candidate = none ∧ code = .null) ∨
      ∃ c, candidate = some c ∧ hold r talker c code = .ok m := by
  unfold create at hok
  split at hok
  · split at hok
    · next hcode => exact Or.inl ⟨(Except.ok.inj hok).symm, rfl, rfl, hcode⟩
    · cases hok
  · cases hok
  · cases hok
  · exact Or.inr ⟨_, rfl, hok⟩

/-! ### Reading -/

/-- Reading may change a payload, but not its type, and keeps all else.  What a routine answers
with is held instead if it is of the same type, and otherwise reported. -/
theorem deserialize_held (h : Holding) (d : Decoder) :
    (∃ p d', p.type = h.payload.type ∧
      (deserialize (.held h, d) = .ok () (.held { h with payload := p }, d') ∨
        ∃ f, deserialize (.held h, d) = .error f (.held { h with payload := p }, d'))) ∧
    ∀ q after, h.codec.reader.run ⟨h.payload, d⟩ = .ok (some q) after →
      (q.type = h.payload.type →
        deserialize (.held h, d) = .ok () (.held { h with payload := q }, after.decoder)) ∧
      (q.type ≠ h.payload.type →
        deserialize (.held h, d) =
          .error (.payloadType (.returned h.payload.type.name q.type.name))
            (.held { h with payload := h.payload.reworked after.payload }, after.decoder)) := by
  have hinPlace : ∀ p, (h.payload.reworked p).type = h.payload.type := fun _ => rfl
  rw [deserialize]
  dsimp only
  cases hrun : h.codec.reader.run ⟨h.payload, d⟩ with
  | error f after =>
    exact ⟨⟨_, _, hinPlace after.payload, Or.inr ⟨f, rfl⟩⟩, nofun⟩
  | ok answer after =>
    cases answer with
    | none => exact ⟨⟨_, _, hinPlace after.payload, Or.inl rfl⟩, nofun⟩
    | some q =>
      dsimp only
      refine ⟨?_, ?_⟩
      · by_cases htype : q.type = h.payload.type
        · exact ⟨q, _, htype, Or.inl (if_pos htype)⟩
        · exact ⟨_, _, hinPlace after.payload, Or.inr ⟨_, if_neg htype⟩⟩
      · intro q' after' hanswer
        cases hanswer
        exact ⟨fun htype => if_pos htype, fun htype => if_neg htype⟩

end Message

end Nmea0183
