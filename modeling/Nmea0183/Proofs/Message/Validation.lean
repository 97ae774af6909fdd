import Mathlib.Data.List.Basic
import Mathlib.Tactic.Common
import Nmea0183.Proofs.Encoder.Refinement
import Nmea0183.Proofs.Frame.SuffixReaders
import Nmea0183.Proofs.Message.Encoding

/-!
# Validating what was encoded

A sentence that an encoder completes has the frame that validation asks for, whatever its fields
are.  Its header may be any printable token, whereas validation asks for letters and digits.  So a
completed sentence is valid just if its talker and its message code consist of letters and digits
(`Message.isValid_iff_alphanumeric_header`).  This holds of encoded messages too, whose payloads are
written by operations on the encoder and by nothing else (`Writer.Operates`), as those of models are
(`Model.writer_operates`).
-/

namespace Nmea0183

/-! ### Routines that operate on the encoder -/

namespace Encoder

/-- Operations lead from one state of an encoder to another, whether they fail or not. -/
def Reaches (e e' : Encoder) : Prop :=
  ∃ ops, (runAll perform ops e).2 = e'

lemma Reaches.refl (e : Encoder) : e.Reaches e :=
  ⟨[], rfl⟩

lemma Reaches.trans {e e' e'' : Encoder} (h : e.Reaches e') (h' : e'.Reaches e'') :
    e.Reaches e'' := by
  obtain ⟨ops, rfl⟩ := h
  obtain ⟨more, rfl⟩ := h'
  exact ⟨ops ++ more, runAll_append perform ops more e⟩

/-- What one operation leaves is reached. -/
lemma Reaches.of_perform {op : Operation} {e e' : Encoder} (h : perform op e = .ok () e') :
    e.Reaches e' := by
  refine ⟨[op], ?_⟩
  rw [runAll, h]
  rfl

/-- What one written value leaves is reached. -/
lemma Reaches.of_write {v : Value} {e e' : Encoder} (h : write v e = .ok () e') :
    e.Reaches e' := by
  have hrow : perform (.write [v]) e = .ok () e' := run_bind_eq_ok_iff.2 ⟨(), e', h, rfl⟩
  exact .of_perform hrow

/-- So is what it leaves when it is written in hexadecimal. -/
lemma Reaches.of_inHexadecimal_write {v : Value} {e e' : Encoder}
    (h : inHexadecimal (write v) e = .ok () e') : e.Reaches e' := by
  let e₁ : Encoder := { e with modes := { e.modes with base := .hexadecimal } }
  have hbase : perform (.setBase .hexadecimal) e = .ok () e₁ := rfl
  rw [inHexadecimal] at h
  dsimp only at h
  cases hwrite : write v e₁ with
  | error f e₂ =>
    rw [hwrite] at h
    cases h
  | ok _ e₂ =>
    rw [hwrite] at h
    have hback : e₂.Reaches e' := by
      obtain rfl := (EStateM.Result.ok.inj h).2
      split
      · have hdecimal : perform (.setBase .decimal) e₂
            = .ok () { e₂ with modes := { e₂.modes with base := .decimal } } := rfl
        exact .of_perform hdecimal
      · exact .refl e₂
    exact ((Reaches.of_perform hbase).trans (.of_write hwrite)).trans hback

end Encoder

/-- A routine that writes a payload by operations on the encoder and by nothing else. -/
def Writer.Operates (w : Writer) : Prop :=
  ∀ p e e', w.write p e = .ok () e' → e.Reaches e'

namespace Model

/-- Writing the values of an instance is operating on the encoder. -/
lemma reaches_of_writeFields {schemas : List FieldSchema} {values : List Value} {e e' : Encoder}
    (h : writeFields schemas values e = .ok () e') : e.Reaches e' := by
  induction schemas generalizing values e with
  | nil =>
    cases h
    exact .refl _
  | cons s schemas ih =>
    cases values with
    | nil =>
      cases h
      exact .refl _
    | cons v values =>
      obtain ⟨_, e₁, hwrite, hrest⟩ := run_bind_eq_ok_iff.1 h
      have hfirst : e.Reaches e₁ := by
        rw [FieldSchema.write] at hwrite
        split at hwrite
        · exact .of_inHexadecimal_write hwrite
        · exact .of_write hwrite
      exact hfirst.trans (ih hrest)

/-- The routine of models operates on the encoder. -/
theorem writer_operates : writer.Operates := by
  intro p e e' h
  rw [writer, Writer.write_ofEncoding] at h
  cases htype : p.type with
  | model m =>
    rw [htype] at h
    dsimp only at h
    cases hschema : m.schema with
    | error f =>
      rw [hschema] at h
      cases h
    | ok schemas =>
      rw [hschema] at h
      exact reaches_of_writeFields h
  | _ =>
    rw [htype] at h
    cases h
    exact .refl _

end Model

/-! ### What validation asks for -/

namespace Frame

/-- The header of joined plain tokens is what stands before the first comma. -/
lemma takeWhile_encode_joined {header : List Char} {fields : List (List Char)}
    (h : ∀ token ∈ header :: fields, Wire.Plain token) :
    (Latin.encode (Wire.joined (header :: fields))).takeWhile (· != Wire.commaByte)
      = Latin.encode header := by
  have hbytes := Latin.takeWhile_decode Wire.commaByte
    (Latin.encode (Wire.joined (header :: fields)))
  have htext : (Wire.joined (header :: fields)).takeWhile (· != Wire.comma) = header := by
    rw [← headD_splitOn, Wire.splitOn_joined (List.cons_ne_nil _ _) h, List.headD_cons]
  rw [Wire.decode_encode_joined h] at hbytes
  rw [← Latin.encode_decode (List.takeWhile _ _), ← hbytes]
  exact congrArg Latin.encode htext

/-- The bytes of a plain text are letters and digits if its characters are. -/
lemma all_isAlphanumeric_encode {text : List Char} (h : Wire.Plain text) :
    (Latin.encode text).all isAlphanumeric = true ↔ ∀ c ∈ text, c.isAlphanum = true := by
  have hbyte : ∀ c ∈ text, isAlphanumeric (Latin.byteOf c) = c.isAlphanum := by
    intro c hc
    have hascii := Wire.isAscii_of_isPlain (h c hc)
    have hchar := Latin.charOf_byteOf (Wire.toNat_lt_of_isAscii hascii)
    have hsmall : Latin.byteOf c < 128 := by
      rw [UInt8.lt_iff_toNat_lt, ← Latin.toNat_charOf, hchar]
      exact of_decide_eq_true hascii
    rw [isAlphanumeric, hchar, decide_eq_true hsmall, Bool.and_true]
  rw [Latin.encode, List.all_map, List.all_eq_true]
  constructor
  · intro hall c hc
    rw [← hbyte c hc]
    exact hall c hc
  · intro hall c hc
    rw [Function.comp_apply, hbyte c hc]
    exact hall c hc

/-- A framed sentence of plain tokens is valid if its header consists of five letters and digits. -/
lemma isValid_around_joined {header : List Char} {fields : List (List Char)}
    (h : ∀ token ∈ header :: fields, Wire.Plain token)
    (hlength : header.length = TokenKind.talker.length + TokenKind.messageCode.length) :
    isValid (around (Latin.encode (Wire.joined (header :: fields)))) = true ↔
      ∀ c ∈ header, c.isAlphanum = true := by
  have hends : Wire.terminator.isSuffixOf
      (around (Latin.encode (Wire.joined (header :: fields)))) = true :=
    List.isSuffixOf_iff_suffix.2 (List.suffix_append _ _)
  have hunwrap : unwrap (around (Latin.encode (Wire.joined (header :: fields)))) true
      = .ok (Latin.encode (Wire.joined (header :: fields))) := by
    rw [around_eq_claiming, unwrap_claiming, if_pos rfl]
  rw [isValid, hends, hunwrap, Bool.true_and]
  dsimp only
  rw [takeWhile_encode_joined h, Latin.length_encode, decide_eq_true hlength, Bool.true_and]
  exact all_isAlphanumeric_encode (h header List.mem_cons_self)

end Frame

namespace Message

/-- The sentences that are finalized, with their headers: what an encoder completes, and what a
message is encoded to whose payload is written by operations on the encoder. -/
inductive Finalized : List Char → Bytes → Prop
  | completed {header : List Char} {sentence : Bytes}
      (hcompleted : Encoder.Completed header sentence) : Finalized header sentence
  | encoded {h : Holding} {buffer : Option Buffer} {config : Config} {encoded : Encoded}
      (hoperates : h.codec.writer.Operates)
      (hencode : encode (.held h) buffer config = .ok encoded) :
      Finalized (h.talker.chars ++ h.code.chars) encoded.sentence

/-- A finalized sentence is the framed one of its header and of plain fields. -/
lemma Finalized.exists_fields {header : List Char} {sentence : Bytes}
    (h : Finalized header sentence) :
    header.length = TokenKind.talker.length + TokenKind.messageCode.length ∧
      ∃ fields, (∀ token ∈ header :: fields, Wire.Plain token) ∧
        sentence = Frame.around (Latin.encode (Wire.joined (header :: fields))) := by
  cases h with
  | completed hcompleted => exact hcompleted.exists_fields
  | @encoded h buffer config encoded hoperates hencode =>
    refine ⟨by rw [List.length_append, h.talker.length_eq, h.code.length_eq], ?_⟩
    obtain ⟨b, e₀, e₁, e₂, hmake, hwrite, hend, -⟩ := exists_of_encode hencode
    obtain ⟨ops, rfl⟩ := hoperates h.payload e₀ e₁ hwrite
    exact (Encoder.represents_of_ofTokens hmake).exists_fields_of_endMessage hend

/-- A finalized sentence is valid just if its talker and its message code consist of letters and
digits. -/
theorem isValid_iff_alphanumeric_header {header : List Char} {sentence : Bytes}
    (h : Finalized header sentence) :
    Frame.isValid sentence = true ↔ ∀ c ∈ header, c.isAlphanum = true := by
  obtain ⟨hlength, fields, hplain, rfl⟩ := h.exists_fields
  exact Frame.isValid_around_joined hplain hlength

/-- An instance of a model is encoded to a valid sentence under a header of letters. -/
theorem isValid_iff_alphanumeric_header_of_answer :
    let m : Model :=
      { name := "Answer", module := "station", code := .text "ANS"
        fields := [{ name := "count", type := .int }] }
    let h : Holding :=
      { payload := { type := .model m, values := [.int 42] }, codec := Model.codec
        talker := ⟨['P', 'X'], rfl, by decide⟩, code := ⟨['A', 'N', 'S'], rfl, by decide⟩ }
    ∃ encoded, encode (.held h) none {} = .ok encoded ∧
      Finalized "PXANS".toList encoded.sentence ∧ Frame.isValid encoded.sentence = true := by
  intro m h
  have hencodes : (encode (.held h) none {}).toOption.isSome = true := by decide +kernel
  obtain ⟨encoded, hencoded⟩ := Option.isSome_iff_exists.1 hencodes
  have hencode := toOption_eq_some_iff.1 hencoded
  have hfinalized : Finalized "PXANS".toList encoded.sentence :=
    .encoded Model.writer_operates hencode
  have hletters : ∀ c ∈ "PXANS".toList, c.isAlphanum = true := List.all_eq_true.1 rfl
  exact ⟨encoded, hencode, hfinalized, (isValid_iff_alphanumeric_header hfinalized).2 hletters⟩

/-- A talker may hold a hyphen for an encoder, but not in a valid sentence. -/
theorem finalized_sentence_not_valid :
    let sentence := Latin.encode "$G-ACK,1*3E\r\n".toList
    Finalized "G-ACK".toList sentence ∧ Frame.isValid sentence = false := by
  intro sentence
  let buffer : Buffer := ⟨[], List.replicate 20 0, [], true⟩
  have hroom : Wire.headerLength ≤ buffer.window.length := by decide
  let talker : Talker := ⟨['G', '-'], rfl, by decide⟩
  let code : MessageCode := ⟨['A', 'C', 'K'], rfl, by decide⟩
  obtain ⟨e, hstart, hrep⟩ := Encoder.exists_start_eq (by rfl) hroom talker code {}
  have hheader : "G-ACK".toList = e.talker.chars ++ e.code.chars := hrep.header_eq
  obtain ⟨-, hrep⟩ := Encoder.represents_runAll hrep [.writeInt (.int 1)]
  obtain ⟨e', hend, -⟩ := Encoder.exists_endMessage_eq hrep rfl (by decide +kernel)
  have hsentence : Frame.around (Latin.encode (runAll Draft.perform [.writeInt (.int 1)]
      (Draft.start talker code buffer.window.length {})).2.body) = sentence := by decide +kernel
  rw [hsentence] at hend
  rw [hheader]
  exact ⟨.completed (.intro hstart hend), by decide⟩

end Message

end Nmea0183
