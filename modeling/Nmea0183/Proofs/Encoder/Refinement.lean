import Mathlib.Tactic.Common
import Nmea0183.Proofs.Encoder.Requests
import Nmea0183.Proofs.Frame.Received

/-!
# Encoders write what drafts say

An encoder represents a draft when its buffer holds, up to its length, exactly what the draft has
for contents, whatever stands behind (`Encoder.Represents`).  Every request keeps this and gives
the same answer on both sides (`Encoder.handle_agree`); by induction so does every operation and
every history of operations, also one in which operations fail (`Encoder.represents_runAll`).
-/

namespace Nmea0183

namespace Encoder

/-! ### The encoder beside its draft -/

/-- An encoder represents a draft when the bytes up to its length are the contents of the draft,
its checksum is that of the draft, and the fields of the draft are plain. -/
structure Represents (e : Encoder) (d : Draft) : Prop where
  header_eq : d.header = e.talker.chars ++ e.code.chars
  room_eq : d.room = e.capacity
  modes_eq : d.modes = e.modes
  headerLength_le : Wire.headerLength ≤ e.capacity
  length_le : e.length ≤ e.capacity
  written_eq : e.written = d.contents
  checksum_eq : e.checksum = d.checksum
  plain : ∀ field ∈ d.fields, Wire.Plain field

namespace Represents

variable {e : Encoder} {d : Draft}

/-- The header and the fields are plain. -/
lemma plain_tokens (h : e.Represents d) : ∀ token ∈ d.header :: d.fields, Wire.Plain token := by
  refine List.forall_mem_cons.2 ⟨?_, h.plain⟩
  rw [h.header_eq]
  exact Wire.plain_append.2 ⟨e.talker.plain, e.code.plain⟩

/-- Encoder and draft are complete at the same time. -/
lemma isFinalized_eq (h : e.Represents d) : e.isFinalized = d.isComplete := by
  rw [isFinalized, h.checksum_eq, Draft.checksum]
  split
  · next hd => rw [hd, Option.isSome_some]
  · next hd => rw [Bool.eq_false_iff.2 hd, Option.isSome_none]

/-- The bytes of an open sentence. -/
lemma written_of_open (h : e.Represents d) (ho : d.isComplete = false) :
    e.written = Latin.encode d.text := by
  rw [h.written_eq, Draft.contents, if_neg (by simp [ho])]

/-- The length of an open sentence. -/
lemma length_of_open (h : e.Represents d) (ho : d.isComplete = false) :
    e.length = d.text.length := by
  have hlength : e.written.length = e.length := List.length_take_of_le h.length_le
  rw [← hlength, h.written_of_open ho, Latin.length_encode]

/-- The room of an open sentence. -/
lemma remaining_of_open (h : e.Represents d) (ho : d.isComplete = false) :
    e.remaining = d.room - d.text.length := by
  rw [remaining, h.room_eq, h.length_of_open ho]

end Represents

/-- The same answer on both sides, and an encoder that represents the draft. -/
def Agree : EStateM.Result Fault Encoder Unit → EStateM.Result Fault Draft Unit → Prop
  | .ok _ e, .ok _ d => e.Represents d
  | .error f e, .error g d => f = g ∧ e.Represents d
  | _, _ => False

/-! ### What a request does to both -/

section Requests

variable {e : Encoder} {d : Draft}

/-- A field that finds room stands behind the others. -/
lemma Represents.put_field (h : e.Represents d) (ho : d.isComplete = false) {t : List Char}
    (ht : Wire.Plain t) (hroom : ¬ e.remaining < (t ++ [Wire.comma]).length) :
    (e.put (t ++ [Wire.comma])).Represents { d with fields := d.fields ++ [t] } := by
  have hfits : (t ++ [Wire.comma]).length ≤ e.remaining := Nat.le_of_not_lt hroom
  have hcapacity : (e.put (t ++ [Wire.comma])).capacity = e.capacity :=
    capacity_put h.length_le hfits
  refine ⟨h.header_eq, h.room_eq.trans hcapacity.symm, h.modes_eq, ?_, ?_, ?_, ?_, ?_⟩
  · rw [hcapacity]
    exact h.headerLength_le
  · rw [hcapacity]
    have hle := h.length_le
    rw [remaining] at hfits
    change e.length + _ ≤ _
    omega
  · rw [written_put h.length_le, h.written_of_open ho, ← Latin.encode_append,
      ← Draft.text_append_field, Draft.contents, if_neg (by simp [ho])]
  · change e.checksum = _
    rw [h.checksum_eq, Draft.checksum, Draft.checksum, if_neg (by simp [ho]),
      if_neg (by simp [ho])]
  · intro field hfield
    rcases List.mem_append.1 hfield with hfield | hfield
    · exact h.plain field hfield
    · rw [List.mem_singleton.1 hfield]
      exact ht

/-- Appending a plain field agrees. -/
lemma append_agree (h : e.Represents d) {t : List Char} (ht : Wire.Plain t) :
    Agree (append t e) (Draft.append t d) := by
  rw [append_apply, Draft.append, h.isFinalized_eq]
  cases ho : d.isComplete with
  | true => exact ⟨rfl, h⟩
  | false =>
    have hlength : (t ++ [Wire.comma]).length = t.length + 1 := by simp
    rw [if_neg Bool.false_ne_true, if_neg Bool.false_ne_true, reserve, ← h.remaining_of_open ho,
      ← hlength]
    split
    · exact ⟨rfl, h⟩
    · next hroom =>
      have hput := h.put_field ho ht hroom
      rw [ho] at hput
      exact hput

/-- The last byte of an open sentence is a comma. -/
lemma Represents.lengthBeforeComma_eq (h : e.Represents d) (ho : d.isComplete = false) :
    e.lengthBeforeComma = d.body.length + 1 := by
  have hlast : e.written.getLast? = some Wire.commaByte := by
    rw [h.written_of_open ho, Draft.text_eq, Latin.encode_append]
    exact List.getLast?_concat
  rw [lengthBeforeComma, if_pos hlast, h.length_of_open ho, Draft.length_text]
  rfl

/-- The bytes before the last comma of an open sentence. -/
lemma Represents.take_lengthBeforeComma (h : e.Represents d) (ho : d.isComplete = false) :
    e.buffer.take e.lengthBeforeComma = Latin.encode (Wire.start :: d.body) := by
  have htake : e.buffer.take e.lengthBeforeComma = e.written.take e.lengthBeforeComma := by
    rw [written, List.take_take, Nat.min_eq_left]
    rw [h.lengthBeforeComma_eq ho, h.length_of_open ho, Draft.length_text]
    omega
  have hlength : e.lengthBeforeComma = (Latin.encode (Wire.start :: d.body)).length := by
    rw [h.lengthBeforeComma_eq ho, Latin.length_encode, List.length_cons]
  rw [htake, h.written_of_open ho, Draft.text_eq, Latin.encode_append, hlength, List.take_left]

/-- The checksum of the bytes before the last comma is that of the body. -/
lemma Represents.ofSentence_eq (h : e.Represents d) (ho : d.isComplete = false) :
    Checksum.ofSentence e.buffer (some e.lengthBeforeComma)
      = Checksum.ofBody (Latin.encode d.body) := by
  have hle : e.lengthBeforeComma ≤ e.buffer.length := by
    have := h.length_le
    rw [h.length_of_open ho, Draft.length_text, capacity] at this
    rw [h.lengthBeforeComma_eq ho]
    omega
  rw [Checksum.ofSentence_take _ hle, h.take_lengthBeforeComma ho]
  rfl

/-- A sentence that finds room for its suffix is the framed body. -/
lemma Represents.complete (h : e.Represents d) (ho : d.isComplete = false)
    (hroom : ¬ e.capacity - e.lengthBeforeComma < Wire.suffixLength) :
    e.sealed.Represents { d with isComplete := true } := by
  let e' : Encoder := { e with length := e.lengthBeforeComma }
  let sum := Checksum.ofBody (Latin.encode d.body)
  let suffix := Wire.star :: Checksum.digits sum ++ ['\r', '\n']
  have hsealed : e.sealed = { e'.put suffix with checksum := some sum } := by
    rw [sealed, h.ofSentence_eq ho]
  have hsuffix : suffix.length = Wire.suffixLength := by
    obtain ⟨high, low, hdigits, -⟩ := Checksum.exists_digits sum
    simp only [suffix, hdigits]
    rfl
  have hlength : e'.length ≤ e'.capacity := by
    change e.lengthBeforeComma ≤ e.capacity
    have : 0 < Wire.suffixLength := by decide
    omega
  have hcapacity : (e'.put suffix).capacity = e.capacity := by
    refine capacity_put hlength ?_
    rw [hsuffix]
    exact Nat.le_of_not_lt hroom
  have hwritten : (e'.put suffix).written = Frame.around (Latin.encode d.body) := by
    rw [written_put hlength, written]
    change e.buffer.take e.lengthBeforeComma ++ _ = _
    rw [h.take_lengthBeforeComma ho, Frame.around_encode]
    rfl
  rw [hsealed]
  refine ⟨h.header_eq, h.room_eq.trans hcapacity.symm, h.modes_eq, ?_, ?_, hwritten, rfl, h.plain⟩
  · change _ ≤ (e'.put suffix).capacity
    rw [hcapacity]
    exact h.headerLength_le
  · change e.lengthBeforeComma + suffix.length ≤ (e'.put suffix).capacity
    rw [hcapacity, hsuffix]
    have : e.lengthBeforeComma ≤ e.capacity := hlength
    omega

/-- An open sentence is neither complete nor without its header. -/
lemma Represents.not_isFinalized_or (h : e.Represents d) (ho : d.isComplete = false) :
    ¬ (e.isFinalized = true ∨ e.length = 0) := by
  rw [h.isFinalized_eq, ho, h.length_of_open ho, Draft.length_text]
  simp

/-- Completing without looking at the sentence, as a function of the state. -/
lemma discard_endMessage_apply (e : Encoder) :
    discard endMessage e =
      match endMessage e with
      | .ok _ e' => .ok () e'
      | .error f e' => .error f e' := by
  change EStateM.map _ endMessage e = _
  rw [EStateM.map]
  cases endMessage e <;> rfl

/-- Completing agrees. -/
lemma endMessage_agree (h : e.Represents d) :
    Agree (discard endMessage e) (Draft.complete d) := by
  rw [discard_endMessage_apply, endMessage, Draft.complete]
  cases ho : d.isComplete with
  | true =>
    rw [if_pos (Or.inl (h.isFinalized_eq.trans ho)), if_pos rfl]
    exact h
  | false =>
    have havailable : d.room - (d.body.length + 1) = e.capacity - e.lengthBeforeComma := by
      rw [h.room_eq, h.lengthBeforeComma_eq ho]
    rw [if_neg (h.not_isFinalized_or ho), if_neg Bool.false_ne_true]
    dsimp only
    rw [havailable]
    by_cases hroom : e.capacity - e.lengthBeforeComma < Wire.suffixLength
    · rw [if_pos hroom, if_pos hroom]
      exact ⟨rfl, h⟩
    · rw [if_neg hroom, if_neg hroom]
      exact h.complete ho hroom

/-- The length of the header. -/
lemma length_headerText (e : Encoder) : e.headerText.length = Wire.headerLength := by
  simp only [headerText, List.length_append, List.length_cons, e.talker.length_eq,
    e.code.length_eq]
  rfl

/-- A fresh encoder represents a fresh draft once the header is written. -/
lemma reserve_header (e : Encoder) (hroom : Wire.headerLength ≤ e.capacity)
    (hlength : e.length = 0) (hopen : e.checksum = none) :
    reserve .header e.headerText e = .ok () (e.put e.headerText) ∧
      (e.put e.headerText).Represents
        ⟨e.talker.chars ++ e.code.chars, e.capacity, e.modes, [], false⟩ := by
  have hheader := e.length_headerText
  have hfits : e.headerText.length ≤ e.remaining := by
    rw [hheader, remaining, hlength]
    exact hroom
  have hle : e.length ≤ e.capacity := by
    rw [hlength]
    exact Nat.zero_le _
  have hcapacity : (e.put e.headerText).capacity = e.capacity := capacity_put hle hfits
  refine ⟨?_, rfl, hcapacity.symm, rfl, ?_, ?_, ?_, hopen, List.forall_mem_nil _⟩
  · rw [reserve, if_neg (Nat.not_lt_of_le hfits)]
  · rw [hcapacity]
    exact hroom
  · change e.length + e.headerText.length ≤ _
    rw [hcapacity, hheader, hlength, Nat.zero_add]
    exact hroom
  · have hnone : e.written = [] := by rw [written, hlength, List.take_zero]
    rw [written_put hle, hnone, List.nil_append]
    simp [headerText, Draft.text, Draft.contents]

/-- Starting afresh agrees. -/
lemma reset_agree (h : e.Represents d) :
    Agree (reset e) (.ok () { d with fields := [], isComplete := false }) := by
  let e' : Encoder := { e with length := 0, checksum := none }
  have hreset : reset e = reserve .header e'.headerText e' := rfl
  obtain ⟨hok, hrep⟩ := reserve_header e' h.headerLength_le rfl rfl
  rw [hreset, hok]
  change Represents _ { d with fields := [], isComplete := false }
  rw [h.header_eq, h.room_eq, h.modes_eq]
  exact hrep

end Requests

/-! ### Requests, operations and histories -/

section Histories

variable {e : Encoder} {d : Draft}

/-- Every request agrees. -/
theorem handle_agree (h : e.Represents d) {r : Request} (hr : r.Plain) :
    Agree (handle r e) (Draft.handle r d) := by
  cases r with
  | field text =>
    rw [handle, appendText_apply, Draft.handle]
    dsimp only
    rw [h.modes_eq]
    cases ht : text e.modes with
    | ok t => exact append_agree h (hr _ _ ht)
    | error f => exact ⟨rfl, h⟩
  | modes change =>
    rw [handle, Draft.handle]
    dsimp only
    rw [h.modes_eq]
    cases change e.modes with
    | ok modes => exact ⟨h.header_eq, h.room_eq, rfl, h.headerLength_le, h.length_le,
        h.written_eq, h.checksum_eq, h.plain⟩
    | error f => exact ⟨rfl, h⟩
  | complete => exact endMessage_agree h
  | restart => exact reset_agree h

/-- A row of requests agrees, up to the first one that fails. -/
lemma forM_agree (h : e.Represents d) {requests : List Request}
    (hr : ∀ r ∈ requests, r.Plain) :
    Agree (requests.forM handle e) (requests.forM Draft.handle d) := by
  induction requests generalizing e d with
  | nil => exact h
  | cons r requests ih =>
    obtain ⟨hr, hrest⟩ := List.forall_mem_cons.1 hr
    have hstep := handle_agree h hr
    change Agree (EStateM.bind (handle r) _ e) (EStateM.bind (Draft.handle r) _ d)
    rw [EStateM.bind, EStateM.bind]
    cases he : handle r e with
    | ok _ e' =>
      cases hd : Draft.handle r d with
      | ok _ d' =>
        rw [he, hd] at hstep
        exact ih hstep hrest
      | error g d' =>
        rw [he, hd] at hstep
        exact hstep.elim
    | error f e' =>
      cases hd : Draft.handle r d with
      | ok _ d' =>
        rw [he, hd] at hstep
        exact hstep.elim
      | error g d' =>
        rw [he, hd] at hstep
        exact hstep

/-- Every operation agrees. -/
theorem perform_agree (h : e.Represents d) (op : Operation) :
    Agree (perform op e) (Draft.perform op d) := by
  rw [perform_eq_forM]
  exact forM_agree h Operation.plain_of_mem_requests

/-- Every history of operations gets the same answers, and leaves an encoder that represents the
draft. -/
theorem represents_runAll (h : e.Represents d) (ops : List Operation) :
    (runAll perform ops e).1 = (runAll Draft.perform ops d).1 ∧
      (runAll perform ops e).2.Represents (runAll Draft.perform ops d).2 := by
  induction ops generalizing e d with
  | nil => exact ⟨rfl, h⟩
  | cons op ops ih =>
    have hstep := perform_agree h op
    rw [runAll, runAll]
    cases he : perform op e with
    | ok _ e' =>
      cases hd : Draft.perform op d with
      | ok _ d' =>
        rw [he, hd] at hstep
        obtain ⟨hanswers, hrep⟩ := ih hstep
        exact ⟨congrArg _ hanswers, hrep⟩
      | error g d' =>
        rw [he, hd] at hstep
        exact hstep.elim
    | error f e' =>
      cases hd : Draft.perform op d with
      | ok _ d' =>
        rw [he, hd] at hstep
        exact hstep.elim
      | error g d' =>
        rw [he, hd] at hstep
        obtain ⟨rfl, hstep⟩ := hstep
        obtain ⟨hanswers, hrep⟩ := ih hstep
        exact ⟨congrArg _ hanswers, hrep⟩

end Histories

/-! ### The beginning and the end of a sentence -/

/-- The state of a fresh encoder before its header is written. -/
def blank (buffer : Buffer) (talker : Talker) (code : MessageCode) (config : Config) : Encoder where
  talker := talker
  code := code
  modes := ⟨.decimal, config.floatFormat, config.floatPrecision, config.hexWidth⟩
  buffer := buffer.window
  length := 0
  checksum := none

/-- Making an encoder is writing the header, on a buffer that may be written. -/
lemma ofTokens_eq (buffer : Buffer) (talker : Talker) (code : MessageCode) (config : Config) :
    ofTokens buffer talker code config =
      let e := blank buffer talker code config
      if !buffer.writable then .error .readOnlyBuffer
      else match reserve .header e.headerText e with
        | .ok _ e => .ok e
        | .error f _ => .error f :=
  rfl

/-- An encoder is made exactly on a buffer that may be written and admits the header, and it
represents a fresh draft. -/
lemma ofTokens_cases (buffer : Buffer) (talker : Talker) (code : MessageCode) (config : Config) :
    (buffer.writable = true ∧ Wire.headerLength ≤ buffer.window.length ∧
      ∃ e, ofTokens buffer talker code config = .ok e ∧
        e.Represents (.start talker code buffer.window.length config)) ∨
    (¬ (buffer.writable = true ∧ Wire.headerLength ≤ buffer.window.length) ∧
      ∃ f, ofTokens buffer talker code config = .error f) := by
  rw [ofTokens_eq]
  let e := blank buffer talker code config
  dsimp only
  cases hwritable : buffer.writable with
  | false => exact Or.inr ⟨by simp, _, rfl⟩
  | true =>
    by_cases hroom : Wire.headerLength ≤ buffer.window.length
    · obtain ⟨hok, hrep⟩ := reserve_header e hroom rfl rfl
      rw [hok]
      exact Or.inl ⟨rfl, hroom, _, rfl, hrep⟩
    · have hfull : e.remaining < e.headerText.length := by
        rw [length_headerText]
        exact Nat.lt_of_not_le hroom
      rw [reserve, if_pos hfull]
      exact Or.inr ⟨fun h => hroom h.2, _, rfl⟩

/-- A fresh encoder represents a fresh draft. -/
lemma exists_start_eq {buffer : Buffer} (hwritable : buffer.writable = true)
    (hroom : Wire.headerLength ≤ buffer.window.length) (talker : Talker) (code : MessageCode)
    (config : Config) :
    ∃ e, start buffer (.text talker.text) (.text code.text) config = .ok e ∧
      e.Represents (.start talker code buffer.window.length config) := by
  have hstart : start buffer (.text talker.text) (.text code.text) config =
      ofTokens buffer talker code config := by
    rw [start, Token.ofValue_text, Token.ofValue_text, if_neg (by simp [hwritable])]
    rfl
  rw [hstart]
  rcases ofTokens_cases buffer talker code config with ⟨-, -, h⟩ | ⟨h, -⟩
  · exact h
  · exact absurd ⟨hwritable, hroom⟩ h

/-- An encoder that was made represents a fresh draft. -/
lemma represents_of_ofTokens {buffer : Buffer} {talker : Talker} {code : MessageCode}
    {config : Config} {e : Encoder} (hok : ofTokens buffer talker code config = .ok e) :
    e.Represents (.start talker code buffer.window.length config) := by
  rcases ofTokens_cases buffer talker code config with ⟨-, -, e', he, hrep⟩ | ⟨-, f, hf⟩
  · rw [he] at hok
    cases hok
    exact hrep
  · rw [hf] at hok
    cases hok

/-- Completing succeeds only on the way to a complete draft, and returns what is written. -/
lemma represents_of_endMessage {e e' : Encoder} {d : Draft} {sentence : Bytes}
    (h : e.Represents d) (hok : endMessage e = .ok sentence e') :
    e'.Represents { d with isComplete := true } ∧ sentence = e'.written := by
  cases ho : d.isComplete with
  | true =>
    rw [endMessage, if_pos (Or.inl (h.isFinalized_eq.trans ho))] at hok
    cases hok
    rw [← ho]
    exact ⟨h, rfl⟩
  | false =>
    rw [endMessage, if_neg (h.not_isFinalized_or ho)] at hok
    dsimp only at hok
    split at hok
    · cases hok
    · next hroom =>
      cases hok
      exact ⟨h.complete ho hroom, rfl⟩

/-- Whatever operations went before, what is completed is the framed sentence of the header of the
draft and of plain fields. -/
lemma Represents.exists_fields_of_endMessage {e e' : Encoder} {d : Draft} (h : e.Represents d)
    {ops : List Operation} {sentence : Bytes}
    (hok : endMessage (runAll perform ops e).2 = .ok sentence e') :
    ∃ fields, (∀ token ∈ d.header :: fields, Wire.Plain token) ∧
      sentence = Frame.around (Latin.encode (Wire.joined (d.header :: fields))) := by
  obtain ⟨-, hrep⟩ := represents_runAll h ops
  obtain ⟨hrep', rfl⟩ := represents_of_endMessage hrep hok
  refine ⟨(runAll Draft.perform ops d).2.fields, ?_⟩
  rw [← Draft.header_runAll ops d]
  refine ⟨hrep'.plain_tokens, ?_⟩
  rw [hrep'.written_eq, Draft.contents, if_pos rfl]
  rfl

/-- The sentences that encoders complete, after whatever operations, with their headers. -/
inductive Completed : List Char → Bytes → Prop
  | intro {buffer : Buffer} {talker code : Value} {config : Config} {ops : List Operation}
      {e e' : Encoder} {sentence : Bytes} (hstart : start buffer talker code config = .ok e)
      (hend : endMessage (runAll perform ops e).2 = .ok sentence e') :
      Completed (e.talker.chars ++ e.code.chars) sentence

/-- A completed sentence is the framed one of its header and of plain fields. -/
lemma Completed.exists_fields {header : List Char} {sentence : Bytes}
    (h : Completed header sentence) :
    header.length = TokenKind.talker.length + TokenKind.messageCode.length ∧
      ∃ fields, (∀ token ∈ header :: fields, Wire.Plain token) ∧
        sentence = Frame.around (Latin.encode (Wire.joined (header :: fields))) := by
  cases h with
  | @intro buffer talker code config ops e e' _ hstart hend =>
    refine ⟨by rw [List.length_append, e.talker.length_eq, e.code.length_eq], ?_⟩
    rw [start] at hstart
    split at hstart
    · cases hstart
    · obtain ⟨t, -, hstart⟩ := bind_eq_ok_iff.1 hstart
      obtain ⟨c, -, hstart⟩ := bind_eq_ok_iff.1 hstart
      have hrep := represents_of_ofTokens hstart
      rw [← hrep.header_eq]
      exact hrep.exists_fields_of_endMessage hend

/-- A sentence for which the buffer has room is completed. -/
lemma exists_endMessage_eq {e : Encoder} {d : Draft} (h : e.Represents d)
    (ho : d.isComplete = false)
    (hroom : (Frame.around (Latin.encode d.body)).length ≤ d.room) :
    ∃ e', endMessage e = .ok (Frame.around (Latin.encode d.body)) e' ∧
      e'.Represents { d with isComplete := true } := by
  rw [Frame.length_around, Latin.length_encode] at hroom
  have hsuffix : Wire.suffixLength = 5 := rfl
  have hlength : ¬ e.capacity - e.lengthBeforeComma < Wire.suffixLength := by
    rw [h.lengthBeforeComma_eq ho, ← h.room_eq]
    omega
  have hrep := h.complete ho hlength
  refine ⟨e.sealed, ?_, hrep⟩
  rw [endMessage, if_neg (h.not_isFinalized_or ho)]
  dsimp only
  rw [if_neg hlength, hrep.written_eq, Draft.contents, if_pos rfl]
  rfl

/-- The sentence of a complete draft is received with the tokens that were written. -/
lemma Represents.ofBytes_written {e : Encoder} {d : Draft} (h : e.Represents d)
    (hd : d.isComplete = true) :
    Sentence.ofBytes e.written =
      { size := e.written.length
        fields := d.header :: d.fields
        claimed := e.checksum
        checksumValid := true } := by
  have hwritten : e.written = Frame.around (Latin.encode (Wire.joined (d.header :: d.fields))) := by
    rw [h.written_eq, Draft.contents, if_pos hd]
    rfl
  have hchecksum : e.checksum
      = some (Checksum.ofBody (Latin.encode (Wire.joined (d.header :: d.fields)))) := by
    rw [h.checksum_eq, Draft.checksum, if_pos hd]
    rfl
  rw [hwritten, hchecksum]
  exact Sentence.ofBytes_around_joined (List.cons_ne_nil _ _) h.plain_tokens

/-- What a draft does without failing, its encoder does. -/
lemma Agree.exists_ok {a : EStateM.Result Fault Encoder Unit}
    {b : EStateM.Result Fault Draft Unit} (h : Agree a b) {d : Draft} (hb : b = .ok () d) :
    ∃ e, a = .ok () e ∧ e.Represents d := by
  rw [hb] at h
  cases a with
  | ok _ e => exact ⟨e, rfl, h⟩
  | error f e => exact h.elim

end Encoder

end Nmea0183
