import Mathlib.Data.List.Basic
import Mathlib.Tactic.Common
import Nmea0183.Proofs.Encoder.Refinement
import Nmea0183.Proofs.Frame.Received
import Nmea0183.Proofs.Frame.SuffixReaders
import Nmea0183.Proofs.Frame.Unwrapping

/-!
# Sentences with one wrong byte

When one byte of the body of a sentence is replaced by another, the exclusive or of the body
changes, and both readers refuse the sentence.  There is one exception: a byte that is replaced by
a `*` ends what the checksum speaks for.  Then it is the exclusive or of the bytes before it that
is held against the claim, and it is the same just if the bytes from there on cancel out.  A
receiver takes the sentence then, for the fields before the `*`
(`Frame.replaced_byte_refused_iff`).
-/

namespace Nmea0183

/-! ### The checksum of a body with one byte replaced -/

/-- Replacing one byte of a row brings in no other byte than the new one. -/
lemma notMem_replace {before after : Bytes} {a b c : UInt8} (h : a ∉ before ++ c :: after)
    (hne : a ≠ b) : a ∉ before ++ b :: after := by
  intro hmem
  rcases List.mem_append.1 hmem with hbefore | hrest
  · exact h (List.mem_append_left _ hbefore)
  rcases List.mem_cons.1 hrest with hbyte | hafter
  · exact hne hbyte
  · exact h (List.mem_append_right _ (List.mem_cons_of_mem c hafter))

/-- Rows that differ in one byte have different exclusive ors. -/
lemma xorOf_replace_inj {before after : Bytes} {b c : UInt8} :
    xorOf (before ++ b :: after) = xorOf (before ++ c :: after) ↔ b = c := by
  rw [xorOf_append, xorOf_append, xorOf_cons, xorOf_cons, UInt8.xor_right_inj, UInt8.xor_left_inj]

namespace Checksum

/-- A `*` in the place of a byte cuts the body short there. -/
lemma ofBody_append_star {before : Bytes} (h : Wire.starByte ∉ before) (after : Bytes) :
    ofBody (before ++ Wire.starByte :: after) = xorOf before := by
  rw [ofBody, takeWhile_bne_append_cons, ← ofBody, ofBody_of_notMem h]

/-- Another byte in one place leaves the checksum of a body as it is just if it is a `*` and the
bytes of the body from there on cancel out. -/
lemma ofBody_replace_iff {before after : Bytes} {b c : UInt8}
    (hbody : Wire.starByte ∉ before ++ c :: after) (hne : b ≠ c) :
    ofBody (before ++ b :: after) = ofBody (before ++ c :: after) ↔
      b = Wire.starByte ∧ xorOf (c :: after) = 0 := by
  rw [ofBody_of_notMem hbody]
  by_cases hstar : b = Wire.starByte
  · have hbefore : Wire.starByte ∉ before := fun h => hbody (List.mem_append_left _ h)
    rw [hstar, ofBody_append_star hbefore, xorOf_append, eq_comm, xor_left_eq_self_iff]
    exact (and_iff_right rfl).symm
  · rw [ofBody_of_notMem (notMem_replace hbody (Ne.symm hstar)), xorOf_replace_inj]
    exact iff_of_false hne fun h => hstar h.1

end Checksum

namespace Frame

/-! ### Sentences that are sent -/

/-- The sentences that are sent: what framing makes of a body, and what an encoder completes. -/
inductive Sent : Bytes → Prop
  | framed {line : Line} {sentence : Bytes} (hwrap : wrapLine line = .ok sentence) : Sent sentence
  | completed {header : List Char} {sentence : Bytes}
      (hcompleted : Encoder.Completed header sentence) : Sent sentence

/-- A body that can be framed holds no `*`. -/
lemma star_notMem_of_wrap {body sentence : Bytes} (h : wrap body = .ok sentence) :
    Wire.starByte ∉ body ∧ sentence = around body := by
  rw [wrap] at h
  split at h
  · cases h
  · next hnone =>
    have hstar := List.find?_eq_none.1 hnone Wire.starByte (by decide)
    exact ⟨by simpa using hstar, (Except.ok.inj h).symm⟩

/-- Every sentence that is sent is the frame around a body without a `*`. -/
lemma Sent.exists_body {sentence : Bytes} (h : Sent sentence) :
    ∃ body, Wire.starByte ∉ body ∧ sentence = around body := by
  cases h with
  | framed hwrap =>
    obtain ⟨body, -, hwrap⟩ := bind_eq_ok_iff.1 hwrap
    exact ⟨body, star_notMem_of_wrap hwrap⟩
  | completed hcompleted =>
    obtain ⟨-, fields, hplain, rfl⟩ := hcompleted.exists_fields
    exact ⟨_, Wire.notMem_encode_joined hplain (c := Wire.star) rfl (by decide), rfl⟩

/-- What stands between the `$` and the `*` of a frame is its body, and behind it are the digits of
the checksum. -/
lemma parts_of_around_eq {body text suffix : Bytes} (hstar : Wire.starByte ∉ body)
    (h : around body = Wire.startByte :: text ++ Wire.starByte :: suffix) :
    text = body ∧
      suffix = Latin.encode (Checksum.digits (Checksum.ofBody body)) ++ Wire.terminator := by
  have hbefore : Wire.starByte ∉ Wire.startByte :: body := by
    intro hmem
    rcases List.mem_cons.1 hmem with h | h
    · exact absurd h (by decide)
    · exact hstar h
  have hafter : Wire.starByte ∉
      Latin.encode (Checksum.digits (Checksum.ofBody body)) ++ Wire.terminator := by
    intro hmem
    rcases List.mem_append.1 hmem with h | h
    · exact star_notMem_encode_digits _ h
    · exact absurd h (by decide)
  have hparts : (Wire.startByte :: body) ++ Wire.starByte ::
      (Latin.encode (Checksum.digits (Checksum.ofBody body)) ++ Wire.terminator)
      = (Wire.startByte :: text) ++ Wire.starByte :: suffix := by
    rw [← h, around, List.append_assoc]
    rfl
  obtain ⟨htext, -, hsuffix⟩ := (List.append_cons_inj_of_notMem hbefore hafter).1 hparts
  exact ⟨(List.cons.inj htext).2.symm, hsuffix.symm⟩

/-- A sentence that was sent is refused with one byte between `$` and `*` replaced: to a receiver
its claim is not true, and it is not unwrapped.  The exception is a `*` in place of a byte where the
bytes of the sentence from there on to its `*` cancel out; then its claim is true to a receiver,
namely of the bytes before the new `*`. -/
theorem replaced_byte_refused_iff {sentence before after suffix : Bytes} {b c : UInt8}
    (hsent : Sent sentence)
    (hplace : sentence = Wire.startByte :: (before ++ c :: after) ++ Wire.starByte :: suffix)
    (hne : b ≠ c) :
    let received := Wire.startByte :: (before ++ b :: after) ++ Wire.starByte :: suffix
    let Cancels := b = Wire.starByte ∧ xorOf (c :: after) = 0
    ((Sentence.ofBytes received).checksumValid = false ↔ ¬ Cancels) ∧
      (¬ Cancels → ∀ required, ∃ f,
        unwrapLine (.bytes received) required = .error (.framing f)) := by
  intro received Cancels
  obtain ⟨body, hstar, hbody⟩ := hsent.exists_body
  obtain ⟨rfl, hsuffix⟩ := parts_of_around_eq hstar (hbody.symm.trans hplace)
  set sum := Checksum.ofBody (before ++ c :: after) with hsum
  have hreceived : received = claiming (before ++ b :: after) sum := by
    simp only [received, hsuffix, claiming, List.append_assoc, List.cons_append]
  have hsame : Checksum.ofBody (before ++ b :: after) = sum ↔ Cancels :=
    Checksum.ofBody_replace_iff hstar hne
  have hvalid : (Sentence.ofBytes received).checksumValid
      = decide (sum = Checksum.ofBody (before ++ b :: after)) := by
    rw [hreceived, Sentence.ofBytes_claiming]
  constructor
  · rw [hvalid, decide_eq_false_iff_not, eq_comm, hsame]
  · intro hcancels required
    refine ⟨.mismatch (Checksum.ofBody (before ++ b :: after)) sum.toNat, ?_⟩
    have hunwrap : unwrap received required
        = .error (.mismatch (Checksum.ofBody (before ++ b :: after)) sum.toNat) := by
      rw [hreceived, unwrap_claiming, if_neg fun h => hcancels (hsame.1 h)]
    change (unwrap received required).mapError Fault.framing = _
    rw [hunwrap]
    rfl

/-- A `*` in place of a byte is refused like any other where the rest does not cancel out. -/
theorem replaced_byte_refused_iff_of_header :
    let sentence := Latin.encode "$GPACK,1*43\r\n".toList
    let received := Latin.encode "$GP*CK,1*43\r\n".toList
    Sent sentence ∧
      sentence = Wire.startByte :: (Latin.encode ['G', 'P'] ++ Latin.byteOf 'A'
        :: Latin.encode "CK,1".toList) ++ Wire.starByte :: Latin.encode "43\r\n".toList ∧
      Wire.starByte ≠ Latin.byteOf 'A' ∧
      xorOf (Latin.byteOf 'A' :: Latin.encode "CK,1".toList) ≠ 0 ∧
      (Sentence.ofBytes received).checksumValid = false ∧
      ∃ f, unwrapLine (.bytes received) true = .error (.framing f) := by
  intro sentence received
  have hwrap : wrapLine (.text "GPACK,1".toList) = .ok sentence := rfl
  have hsent : Sent sentence := .framed hwrap
  have hplace : sentence = Wire.startByte :: (Latin.encode ['G', 'P'] ++ Latin.byteOf 'A'
      :: Latin.encode "CK,1".toList) ++ Wire.starByte :: Latin.encode "43\r\n".toList := by decide
  have hne : Wire.starByte ≠ Latin.byteOf 'A' := by decide
  have hcancels : xorOf (Latin.byteOf 'A' :: Latin.encode "CK,1".toList) ≠ 0 := by decide
  obtain ⟨hvalid, hrefused⟩ := replaced_byte_refused_iff hsent hplace hne
  exact ⟨hsent, hplace, hne, hcancels, hvalid.2 fun h => hcancels h.2,
    hrefused (fun h => hcancels h.2) true⟩

/-- A field of two equal digits is lost to a `*` in place of the first: a receiver takes the
sentence, with an empty field. -/
theorem replaced_digit_taken :
    let sentence := Latin.encode "$GPACK,11*72\r\n".toList
    let received := Latin.encode "$GPACK,*1*72\r\n".toList
    Sent sentence ∧
      sentence = Wire.startByte :: (Latin.encode "GPACK,".toList ++ Latin.byteOf '1'
        :: Latin.encode ['1']) ++ Wire.starByte :: Latin.encode "72\r\n".toList ∧
      received = Wire.startByte :: (Latin.encode "GPACK,".toList ++ Wire.starByte
        :: Latin.encode ['1']) ++ Wire.starByte :: Latin.encode "72\r\n".toList ∧
      Wire.starByte ≠ Latin.byteOf '1' ∧
      (Sentence.ofBytes received).checksumValid = true ∧
      (Sentence.ofBytes received).fields = ["GPACK".toList, []] := by
  intro sentence received
  have hwrap : wrapLine (.text "GPACK,11".toList) = .ok sentence := rfl
  refine ⟨.framed hwrap, ?_⟩
  decide

end Frame

end Nmea0183
