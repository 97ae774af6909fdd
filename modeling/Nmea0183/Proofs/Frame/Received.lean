import Mathlib.Data.List.Basic
import Mathlib.Data.List.TakeWhile
import Mathlib.Tactic.Common
import Nmea0183.Frame
import Nmea0183.Proofs.Frame.Parts
import Nmea0183.Proofs.Wire.Hexadecimal
import Nmea0183.Proofs.Wire.Joined

/-!
# Framed bodies

What framing puts around a body and what a receiver makes of it.  Joined plain tokens can be
framed (`Frame.wrapLine_joined`).  A received frame with any checksum in it claims that checksum,
which is held against the body (`Sentence.ofBytes_claiming`).  So a frame around a body without `*`
has the text of the body as its fields, and claims the checksum that is true of it
(`Sentence.ofBytes_around`), and joined plain tokens are received as they were sent
(`Sentence.ofBytes_around_joined`).
-/

namespace Nmea0183

/-! ### The two digits of a checksum -/

namespace Checksum

/-- A checksum has exactly two digits, which are digits and have its value. -/
lemma exists_digits (sum : UInt8) :
    ∃ high low : Char, digits sum = [high, low] ∧ Hex.isDigit high = true ∧
      Hex.isDigit low = true ∧ Hex.value [high, low] = sum.toNat := by
  have hlength : (digits sum).length = 2 :=
    Hex.length_upper_eq (by decide) (show sum.toNat < 16 ^ 2 from sum.toNat_lt)
  obtain ⟨high, low, hdigits⟩ := List.length_eq_two.1 hlength
  have hmem : ∀ c ∈ [high, low], Hex.isDigit c = true := by
    intro c hc
    rw [← hdigits] at hc
    exact Hex.isDigit_of_mem_upper hc
  refine ⟨high, low, hdigits, hmem high (by simp), hmem low (by simp), ?_⟩
  rw [← hdigits]
  exact Hex.value_upper 2 sum.toNat

end Checksum

/-! ### Framing -/

namespace Frame

/-- A text that is ASCII throughout has its bytes. -/
lemma encode_of_isAscii {text : List Char} (h : ∀ c ∈ text, Ascii.isAscii c = true) :
    Ascii.encode text = .ok (Latin.encode text) := by
  rw [Ascii.encode, List.dropWhile_eq_nil_iff.2 h]

/-- A frame around a body, with any checksum behind it. -/
def claiming (body : Bytes) (sum : UInt8) : Bytes :=
  Wire.startByte :: body ++ Wire.starByte :: Latin.encode (Checksum.digits sum) ++ Wire.terminator

/-- Framing puts the checksum of the body behind it. -/
lemma around_eq_claiming (body : Bytes) :
    around body = claiming body (Checksum.ofBody body) :=
  rfl

/-- The bytes of a framed text are those of the `$`, the text and its suffix. -/
lemma around_encode (text : List Char) :
    around (Latin.encode text) = Latin.encode (Wire.start :: text) ++ Latin.encode
      (Wire.star :: (Checksum.digits (Checksum.ofBody (Latin.encode text)) ++ ['\r', '\n'])) := by
  have hends : Latin.byteOf Wire.start = Wire.startByte ∧ Latin.byteOf Wire.star = Wire.starByte
    ∧ Latin.encode ['\r', '\n'] = Wire.terminator := by decide
  obtain ⟨hstart, hstar, hterminator⟩ := hends
  rw [around, Latin.encode_cons, Latin.encode_cons, Latin.encode_append, hstart, hstar,
    hterminator, List.append_assoc]
  rfl

/-- The length of a framed sentence. -/
lemma length_around (body : Bytes) : (around body).length = body.length + 6 := by
  obtain ⟨high, low, hdigits, -⟩ := Checksum.exists_digits (Checksum.ofBody body)
  simp [around, hdigits, Latin.encode, Wire.terminator]

end Frame

/-! ### Receiving -/

namespace Sentence

/-- The text of a received frame: the line end is dropped. -/
lemma content_claiming (body : Bytes) (sum : UInt8) :
    content (Frame.claiming body sum) =
      Wire.start :: Latin.decode body ++ Wire.star :: Checksum.digits sum := by
  obtain ⟨high, low, hdigits, -, hlow, -⟩ := Checksum.exists_digits sum
  have hplain : Wire.Plain (Checksum.digits sum) := Wire.plain_upper _ _
  have hdecode : Latin.decode (Frame.claiming body sum) = (Wire.start :: Latin.decode body
      ++ Wire.star :: Checksum.digits sum) ++ ['\r', '\n'] := by
    have hends : Latin.charOf Wire.startByte = Wire.start ∧ Latin.charOf Wire.starByte = Wire.star
      ∧ Latin.decode Wire.terminator = ['\r', '\n'] := by decide
    obtain ⟨hstart, hstar, hterminator⟩ := hends
    rw [Frame.claiming, Latin.decode_append, Latin.decode_append, hterminator]
    rw [Latin.decode, List.map_cons, hstart, Latin.decode, List.map_cons, hstar]
    congr 3
    exact hplain.decode_encode
  have hend : dropTrailing Wire.isTrailingJunk ['\r', '\n'] = [] := rfl
  have hcut := dropTrailing_append_cons (Hex.isTrailingJunk_of_isDigit hlow)
    (Wire.start :: Latin.decode body ++ [Wire.star, high]) ['\r', '\n']
  rw [hend] at hcut
  rw [content, hdecode, hdigits]
  simpa using hcut

/-- The parts of a line whose text is a `$`, a body, a `*` and two digits: its fields are those of
the body up to the first `*`, and the two digits are held against the checksum of the body. -/
lemma parts_of_content {line body : Bytes} {high low : Char}
    (hcontent : content line = Wire.start :: Latin.decode body ++ Wire.star :: [high, low])
    (hhigh : Hex.isDigit high = true) (hlow : Hex.isDigit low = true) :
    (ofBytes line).fields = ((Latin.decode body).takeWhile (· != Wire.star)).splitOn Wire.comma ∧
      (ofBytes line).claimed = some (UInt8.ofNat (Hex.value [high, low])) ∧
      ((ofBytes line).checksumValid = true ↔
        UInt8.ofNat (Hex.value [high, low]) = Checksum.ofBody body) := by
  have hmarker : (content line).head? = some Wire.start := by
    rw [hcontent]
    rfl
  have hbody : Sentence.body line = (Latin.decode body).takeWhile (· != Wire.star) := by
    rw [Sentence.body, hcontent, List.cons_append, List.drop_one, List.tail_cons,
      takeWhile_bne_append_cons]
  have hclaims : Claims (content line) high low :=
    ⟨_, [], hcontent, List.not_mem_nil, hhigh, hlow⟩
  have hclaimed : (ofBytes line).claimed = some (UInt8.ofNat (Hex.value [high, low])) :=
    hclaims.claim?_eq
  refine ⟨?_, hclaimed, ?_⟩
  · rw [fields_of_marker hmarker, hbody]
  · rw [checksumValid_iff hmarker, hclaimed, hbody, ← Checksum.ofBody_eq_xorOf, Option.some_inj]

/-- The parts of a received frame: its fields are those of the text up to the first `*`, and its
claim is held against the checksum of the body. -/
theorem ofBytes_claiming (body : Bytes) (sum : UInt8) :
    ofBytes (Frame.claiming body sum) =
      { size := (Frame.claiming body sum).length
        fields := ((Latin.decode body).takeWhile (· != Wire.star)).splitOn Wire.comma
        claimed := some sum
        checksumValid := decide (sum = Checksum.ofBody body) } := by
  obtain ⟨high, low, hdigits, hhigh, hlow, hvalue⟩ := Checksum.exists_digits sum
  have hcontent := content_claiming body sum
  rw [hdigits] at hcontent
  obtain ⟨hfields, hclaimed, hvalid⟩ := parts_of_content hcontent hhigh hlow
  rw [hvalue, UInt8.ofNat_toNat] at hclaimed hvalid
  have hvalid : (ofBytes (Frame.claiming body sum)).checksumValid
      = decide (sum = Checksum.ofBody body) := by
    rw [Bool.eq_iff_iff, hvalid, decide_eq_true_iff]
  rw [← hfields, ← hclaimed, ← hvalid]
  rfl

/-- The parts of a received frame around a body that holds no `*`: its fields are those of the
text of the body, and it claims the checksum that is true of it. -/
theorem ofBytes_around {body : Bytes} (h : Wire.starByte ∉ body) :
    ofBytes (Frame.around body) =
      { size := (Frame.around body).length
        fields := (Latin.decode body).splitOn Wire.comma
        claimed := some (Checksum.ofBody body)
        checksumValid := true } := by
  rw [Frame.around_eq_claiming, ofBytes_claiming, Latin.takeWhile_decode_of_notMem h,
    decide_eq_true rfl]

/-- Joined plain tokens are received as they were sent. -/
theorem ofBytes_around_joined {tokens : List (List Char)} (hne : tokens ≠ [])
    (h : ∀ token ∈ tokens, Wire.Plain token) :
    ofBytes (Frame.around (Latin.encode (Wire.joined tokens))) =
      { size := (Frame.around (Latin.encode (Wire.joined tokens))).length
        fields := tokens
        claimed := some (Checksum.ofBody (Latin.encode (Wire.joined tokens)))
        checksumValid := true } := by
  have hstar : Wire.starByte ∉ Latin.encode (Wire.joined tokens) :=
    Wire.notMem_encode_joined h (c := Wire.star) rfl (by decide)
  rw [ofBytes_around hstar, Wire.decode_encode_joined h, Wire.splitOn_joined hne h]

/-- The tokens of a header are what it starts with. -/
lemma tokens?_eq_some_iff {s : Sentence} {talker : Talker} {code : MessageCode} :
    s.tokens? = some (talker.chars, code.chars) ↔ talker.chars ++ code.chars <+: s.header := by
  have htalker : talker.chars.length = TokenKind.talker.length := talker.length_eq
  have hcode : code.chars.length = TokenKind.messageCode.length := code.length_eq
  rw [tokens?]
  constructor
  · intro h
    by_cases hlong : TokenKind.talker.length + TokenKind.messageCode.length ≤ s.header.length
    · rw [if_pos hlong] at h
      obtain ⟨htake, hdrop⟩ := Prod.mk.inj (Option.some.inj h)
      rw [← htake, ← hdrop, ← List.take_add]
      exact List.take_prefix _ _
    · rw [if_neg hlong] at h
      cases h
  · rintro ⟨rest, hrest⟩
    have hlong : TokenKind.talker.length + TokenKind.messageCode.length ≤ s.header.length := by
      rw [← hrest, List.length_append, List.length_append, htalker, hcode]
      exact Nat.le_add_right _ _
    have htake : s.header.take TokenKind.talker.length = talker.chars := by
      rw [← hrest, List.append_assoc, ← htalker, List.take_left]
    have hdrop : (s.header.drop TokenKind.talker.length).take TokenKind.messageCode.length
        = code.chars := by
      rw [← hrest, List.append_assoc, ← htalker, List.drop_left, ← hcode, List.take_left]
    rw [if_pos hlong, htake, hdrop]

end Sentence

end Nmea0183
