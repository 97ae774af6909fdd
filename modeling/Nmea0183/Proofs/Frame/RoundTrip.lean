import Mathlib.Data.List.Basic
import Mathlib.Tactic.Common
import Nmea0183.CommandLine.Run
import Nmea0183.Proofs.Frame.SuffixReaders

/-!
# Frames that are taken off again

A framed sentence is read by two parsers that share no code: unwrapping cuts a line at its last `*`
and takes off one line end, receiving takes off all blanks and zero bytes and splits at the commas.
Both give back the body that was framed, whatever bytes stand in it, and unwrapping does so with
the line end and without it (`Frame.both_parsers_undo_wrap`).  What the program prints for a body is
the frame without its line end, and that passes the program's own check just if the header is long
enough.
-/

namespace Nmea0183

namespace Frame

/-! ### The frame without its line end -/

/-- The frame around a body, without the line end. -/
def unterminated (body : Bytes) : Bytes :=
  Wire.startByte :: body ++ Wire.starByte :: Latin.encode (Checksum.digits (Checksum.ofBody body))

/-- The line end is the last part of a frame. -/
lemma around_eq_unterminated (body : Bytes) :
    around body = unterminated body ++ Wire.terminator :=
  rfl

/-- A body that holds none of the bytes that delimit can be framed. -/
lemma wrap_of_notMem {body : Bytes} (h : ∀ b ∈ forbidden, b ∉ body) :
    wrap body = .ok (around body) := by
  have hnone : forbidden.find? body.contains = none := by
    rw [List.find?_eq_none]
    intro b hb hmem
    exact h b hb (List.contains_iff_mem.1 hmem)
  rw [wrap, hnone]

/-- Without its line end a frame ends in two digits, which have the checksum as their value. -/
lemma exists_unterminated_eq (body : Bytes) :
    ∃ a b, unterminated body = Wire.startByte :: body ++ Wire.starByte :: [a, b] ∧
      Hex.isDigit (Latin.charOf a) = true ∧ Hex.isDigit (Latin.charOf b) = true ∧
      Hex.value [Latin.charOf a, Latin.charOf b] = (Checksum.ofBody body).toNat := by
  obtain ⟨high, low, hdigits, hhigh, hlow, hvalue⟩ :=
    Checksum.exists_digits (Checksum.ofBody body)
  have hback : ∀ {c}, Hex.isDigit c = true → Latin.charOf (Latin.byteOf c) = c := by
    intro c hc
    have hle := Hex.toNat_le_of_isDigit hc
    exact Latin.charOf_byteOf (by omega)
  refine ⟨Latin.byteOf high, Latin.byteOf low, ?_, ?_, ?_, ?_⟩
  · rw [unterminated, hdigits]
    rfl
  · rwa [hback hhigh]
  · rwa [hback hlow]
  · rwa [hback hhigh, hback hlow]

/-- A frame without its line end has no other line end that could be dropped. -/
lemma dropTerminator_unterminated (body : Bytes) :
    dropTerminator (unterminated body) = unterminated body := by
  obtain ⟨a, b, hunterminated, -, hdigit, -⟩ := exists_unterminated_eq body
  obtain ⟨ending, hline, hending⟩ := exists_ending (unterminated body)
  rcases hending with rfl | rfl
  · rw [List.append_nil] at hline
    exact hline.symm
  · -- then the last digit is a line feed
    have hsplit : (Wire.startByte :: body ++ [Wire.starByte]) ++ [a, b]
        = dropTerminator (unterminated body) ++ Wire.terminator := by
      rw [← hline, hunterminated]
      simp
    obtain ⟨-, hlast⟩ := List.append_inj' hsplit rfl
    obtain ⟨-, hfeed⟩ : a = 0x0D ∧ b = 0x0A := by simpa [Wire.terminator] using hlast
    rw [hfeed] at hdigit
    exact absurd hdigit (by decide)

/-! ### The two parsers -/

/-- A line that is a frame apart from its end is unwrapped to the body. -/
lemma unwrap_of_dropTerminator {line body : Bytes} (h : dropTerminator line = unterminated body)
    (required : Bool) : unwrap line required = .ok body := by
  rw [unwrap_of_parts h (star_notMem_encode_digits _), claim_encode_digits]
  exact if_neg (not_not.2 rfl)

/-- A frame without its line end is received with the fields of the body and a true claim. -/
lemma parts_unterminated {body : Bytes} (hstar : Wire.starByte ∉ body) :
    (Sentence.ofBytes (unterminated body)).fields = (Latin.decode body).splitOn Wire.comma ∧
      (Sentence.ofBytes (unterminated body)).checksumValid = true := by
  obtain ⟨a, b, hunterminated, hfirst, hsecond, hvalue⟩ := exists_unterminated_eq body
  have hcontent := Sentence.content_suffix_of_isDigit body (a := a) hsecond
  rw [← hunterminated] at hcontent
  obtain ⟨hfields, -, hvalid⟩ := Sentence.parts_of_content hcontent hfirst hsecond
  rw [Latin.takeWhile_decode_of_notMem hstar] at hfields
  refine ⟨hfields, hvalid.2 ?_⟩
  rw [hvalue, UInt8.ofNat_toNat]

/-! ### The program -/

/-- A sentence with a valid checksum passes if its header is long enough. -/
lemma passes_iff_of_checksumValid {s : Sentence} (h : s.checksumValid = true) :
    Report.passes s = true ↔
      TokenKind.talker.length + TokenKind.messageCode.length ≤ s.header.length := by
  rw [Report.passes, h, Bool.and_true, Sentence.tokens?]
  split
  · next hlong => exact iff_of_true rfl hlong
  · next hshort => exact iff_of_false Bool.false_ne_true hshort

/-- A body of ASCII bytes is framed as a text just as it is framed as bytes. -/
lemma wrapLine_text_decode {body : Bytes} (hascii : ∀ b ∈ body, b < 128) :
    wrapLine (.text (Latin.decode body)) = wrap body := by
  have hchars : ∀ c ∈ Latin.decode body, Ascii.isAscii c = true := by
    intro c hc
    obtain ⟨b, hb, rfl⟩ := List.mem_map.1 hc
    rw [Ascii.isAscii, Latin.toNat_charOf, decide_eq_true_eq]
    exact hascii b hb
  rw [wrapLine, Line.ascii, encode_of_isAscii hchars, Latin.encode_decode]
  rfl

/-- For an ASCII body the program prints its frame without the line end. -/
lemma frame_decode {body : Bytes} (h : ∀ b ∈ forbidden, b ∉ body)
    (hascii : ∀ b ∈ body, b < 128) :
    CommandLine.frame (String.ofList (Latin.decode body)) =
      { stdout := String.ofList (Latin.decode (unterminated body)) ++ "\n" } := by
  have hdropped : dropTerminator (around body) = unterminated body := dropTerminator_append _
  rw [CommandLine.frame, String.toList_ofList, wrapLine_text_decode hascii, wrap_of_notMem h]
  dsimp only
  rw [hdropped]

/-- The program's check of a printed frame succeeds if the first field of the body is as long as a
header. -/
lemma check_unterminated {body : Bytes} (hstar : Wire.starByte ∉ body) (verbose : Bool) :
    (CommandLine.check verbose (String.ofList (Latin.decode (unterminated body)))).exit = 0 ↔
      5 ≤ (((Latin.decode body).splitOn Wire.comma).headD []).length := by
  obtain ⟨hfields, hvalid⟩ := parts_unterminated hstar
  have hpasses := passes_iff_of_checksumValid hvalid
  rw [Sentence.header, hfields] at hpasses
  have hexit : (CommandLine.check verbose
      (String.ofList (Latin.decode (unterminated body)))).exit = 0 ↔
      Report.passes (Sentence.ofBytes (unterminated body)) = true := by
    rw [CommandLine.check, String.toList_ofList, Line.latin, Latin.encode_decode]
    dsimp only
    split <;> simp_all
  exact hexit.trans hpasses

/-- Framing a body without `$`, `*` and line ends is undone by both parsers.  It is unwrapped to the
body, with and without its line end and whether or not a checksum is required, and it is received
with a true claim and the text of the body, split at the commas, as its fields.  If the body is
ASCII, the program prints the frame without its line end, and its check of that succeeds just if the
first field has at least five characters. -/
theorem both_parsers_undo_wrap {body : Bytes} (h : ∀ b ∈ forbidden, b ∉ body) :
    ∃ sentence, wrapLine (.bytes body) = .ok (sentence ++ Wire.terminator) ∧
      (∀ required,
        unwrapLine (.bytes (sentence ++ Wire.terminator)) required = .ok body ∧
        unwrapLine (.bytes sentence) required = .ok body) ∧
      (∃ sum, Sentence.ofBytes (sentence ++ Wire.terminator) =
        { size := (sentence ++ Wire.terminator).length
          fields := (Latin.decode body).splitOn Wire.comma
          claimed := some sum
          checksumValid := true }) ∧
      ((∀ b ∈ body, b < 128) →
        let printed := String.ofList (Latin.decode sentence)
        CommandLine.frame (String.ofList (Latin.decode body)) = { stdout := printed ++ "\n" } ∧
          ∀ verbose, (CommandLine.check verbose printed).exit = 0 ↔
            5 ≤ (((Latin.decode body).splitOn Wire.comma).headD []).length) := by
  have hstar : Wire.starByte ∉ body := h _ (by decide)
  refine ⟨unterminated body, wrap_of_notMem h, ?_, ?_, ?_⟩
  · intro required
    constructor
    · rw [unwrapLine, Line.ascii]
      change (unwrap _ required).mapError _ = _
      rw [unwrap_of_dropTerminator (dropTerminator_append _) required]
      rfl
    · rw [unwrapLine, Line.ascii]
      change (unwrap _ required).mapError _ = _
      rw [unwrap_of_dropTerminator (dropTerminator_unterminated body) required]
      rfl
  · rw [← around_eq_unterminated]
    exact ⟨_, Sentence.ofBytes_around hstar⟩
  · intro hascii
    exact ⟨frame_decode h hascii, check_unterminated hstar⟩

/-- A body that ends in a blank and a zero byte is unwrapped and received with both, and its printed
frame passes the check. -/
theorem both_parsers_undo_wrap_of_trailing_junk :
    let body : Bytes := Latin.encode "GPGGA,42, \x00".toList
    (∀ b ∈ forbidden, b ∉ body) ∧ (∀ b ∈ body, b < 128) ∧
      ∃ sentence, wrapLine (.bytes body) = .ok (sentence ++ Wire.terminator) ∧
        unwrapLine (.bytes sentence) true = .ok body ∧
        (Sentence.ofBytes (sentence ++ Wire.terminator)).fields =
          ["GPGGA".toList, "42".toList, " \x00".toList] ∧
        (CommandLine.check false (String.ofList (Latin.decode sentence))).exit = 0 := by
  intro body
  have hforbidden : ∀ b ∈ forbidden, b ∉ body := by decide +kernel
  have hascii : ∀ b ∈ body, b < 128 := by decide +kernel
  obtain ⟨sentence, hwrap, hunwrap, ⟨sum, hreceived⟩, hprogram⟩ :=
    both_parsers_undo_wrap hforbidden
  obtain ⟨-, hcheck⟩ := hprogram hascii
  refine ⟨hforbidden, hascii, sentence, hwrap, (hunwrap true).2, ?_, (hcheck false).2 (by decide)⟩
  rw [hreceived]
  show (Latin.decode body).splitOn Wire.comma = _
  decide

end Frame

end Nmea0183
