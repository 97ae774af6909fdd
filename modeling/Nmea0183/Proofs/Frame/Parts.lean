import Mathlib.Data.List.Basic
import Mathlib.Data.List.TakeWhile
import Mathlib.Tactic.Common
import Nmea0183.Proofs.Wire.Hexadecimal
import Nmea0183.Proofs.Wire.Joined
import Nmea0183.Sentence

/-!
# The parts of a received line

A received line is looked at from three places: the fields end at the first `*` of its text, the
claim stands behind the last one, and the checksum is computed over the bytes of the line up to the
last `*`, where it stops at the first.  All three speak of the same part of the line, the text
between the `$` and the first `*` (`Sentence.body`): its parts are the fields
(`Sentence.fields_of_marker`), and its checksum is what the claim is held against
(`Sentence.checksumValid_iff`).  So a line is its fields with commas between them, after the `$`,
and before something that is no field; and its claim is true just if it is the exclusive or of what
was handed out as fields (`Sentence.ofBytes_covers_line`).
-/

namespace Nmea0183

/-! ### Up to the first of some character -/

/-- What stands before the first of some element does not depend on what stands behind it. -/
lemma takeWhile_bne_append_cons {α : Type} [BEq α] [LawfulBEq α] (a : α) (xs ys : List α) :
    (xs ++ a :: ys).takeWhile (· != a) = xs.takeWhile (· != a) := by
  induction xs with
  | nil => simp
  | cons x xs ih => simp only [List.cons_append, List.takeWhile_cons, ih]

/-- The part of a text before the first of some character is the first part when it is split
there. -/
lemma headD_splitOn (c : Char) (text : List Char) :
    (text.splitOn c).headD [] = text.takeWhile (· != c) := by
  induction text with
  | nil => rfl
  | cons d text ih =>
    rw [List.splitOn_cons_eq_if_modifyHead]
    by_cases hd : (d == c) = true
    · rw [if_pos hd, List.headD_cons, List.takeWhile_cons_of_neg (by simpa using hd)]
    · rw [if_neg hd, List.takeWhile_cons_of_pos (by simpa using hd), ← ih]
      cases hparts : text.splitOn c with
      | nil => exact absurd hparts (List.splitOn_ne_nil c text)
      | cons part parts => rfl

/-- The parts of a text hold what the text holds, but not the character that it was split at. -/
lemma mem_of_mem_splitOn {c d : Char} {text part : List Char} (hpart : part ∈ text.splitOn c)
    (hd : d ∈ part) : d ∈ text ∧ d ≠ c := by
  induction text generalizing part with
  | nil =>
    have hnil : part ∈ [[]] := hpart
    rw [List.mem_singleton.1 hnil] at hd
    exact absurd hd List.not_mem_nil
  | cons e text ih =>
    -- what is found in the parts of the rest is found in the rest
    have hrest : ∀ part ∈ text.splitOn c, d ∈ part → d ∈ e :: text ∧ d ≠ c := by
      intro part hpart hd
      obtain ⟨hmem, hne⟩ := ih hpart hd
      exact ⟨List.mem_cons_of_mem e hmem, hne⟩
    rw [List.splitOn_cons_eq_if_modifyHead] at hpart
    split at hpart
    · rcases List.mem_cons.1 hpart with rfl | hpart
      · exact absurd hd List.not_mem_nil
      · exact hrest part hpart hd
    · next he =>
      obtain ⟨first, parts, hparts⟩ := List.exists_cons_of_ne_nil (List.splitOn_ne_nil c text)
      rw [hparts] at hpart hrest
      rw [List.modifyHead_cons] at hpart
      rcases List.mem_cons.1 hpart with rfl | hpart
      · rcases List.mem_cons.1 hd with rfl | hd
        · exact ⟨List.mem_cons_self, by simpa using he⟩
        · exact hrest first List.mem_cons_self hd
      · exact hrest part (List.mem_cons_of_mem first hpart) hd

/-- The first of some byte is the first of its character. -/
lemma Latin.takeWhile_decode (b : UInt8) (bytes : Bytes) :
    (decode bytes).takeWhile (· != charOf b) = decode (bytes.takeWhile (· != b)) := by
  have hsame : ((· != charOf b) ∘ charOf) = (· != b) := by
    funext d
    have hinj : charOf d = charOf b ↔ d = b := by
      constructor
      · intro h
        rw [← byteOf_charOf d, h, byteOf_charOf]
      · rintro rfl
        rfl
    rw [Function.comp_apply, Bool.eq_iff_iff, bne_iff_ne, bne_iff_ne, ne_eq, ne_eq, hinj]
  rw [decode, List.takeWhile_map, hsame]
  rfl

/-- Bytes that hold no `*` have no `*` in their text. -/
lemma Latin.takeWhile_decode_of_notMem {bytes : Bytes} (h : Wire.starByte ∉ bytes) :
    (decode bytes).takeWhile (· != Wire.star) = decode bytes := by
  have hstar := takeWhile_decode Wire.starByte bytes
  rw [List.takeWhile_eq_self_iff.2 (Wire.bne_starByte_of_notMem h)] at hstar
  exact hstar

/-- A checksum is computed over the body alone when the line ends there. -/
lemma Checksum.ofSentence_take (line : Bytes) {n : Nat} (hn : n ≤ line.length) :
    ofSentence line (some n) = ofBody ((line.take n).drop 1) := by
  have hend : endOf line.length (some (n : Int)) = n := by
    simp only [endOf]
    split
    · omega
    split
    · omega
    · exact Int.toNat_natCast n
  rw [ofSentence, hend]

/-- The checksum of a body is the exclusive or of the bytes of its text up to the first `*`. -/
lemma Checksum.ofBody_eq_xorOf (body : Bytes) :
    ofBody body = xorOf (Latin.encode ((Latin.decode body).takeWhile (· != Wire.star))) := by
  have hstar := Latin.takeWhile_decode Wire.starByte body
  rw [ofBody, ← Latin.encode_decode (body.takeWhile _), ← hstar]
  rfl

namespace Sentence

/-! ### The text of a line -/

/-- Nothing is lost of a line but the junk at its end. -/
lemma exists_junk (line : Bytes) :
    ∃ junk, Latin.decode line = content line ++ junk ∧
      ∀ c ∈ junk, Wire.isTrailingJunk c = true :=
  ⟨takeTrailing Wire.isTrailingJunk (Latin.decode line),
    (dropTrailing_append_takeTrailing _ _).symm, fun _ hc => of_mem_takeTrailing hc⟩

/-- The first bytes of a line are those of the start of its text. -/
lemma decode_take {line : Bytes} {before after : List Char} (h : content line = before ++ after) :
    before.length ≤ line.length ∧ Latin.decode (line.take before.length) = before := by
  obtain ⟨junk, hjunk, -⟩ := exists_junk line
  rw [h, List.append_assoc] at hjunk
  have hlength := congrArg List.length hjunk
  rw [Latin.length_decode, List.length_append] at hlength
  refine ⟨by omega, ?_⟩
  have htake : Latin.decode (line.take before.length) = (Latin.decode line).take before.length :=
    List.map_take
  rw [htake, hjunk, List.take_left]

/-- The text of a line between its marker and its first `*`. -/
def body (line : Bytes) : List Char :=
  ((content line).drop 1).takeWhile (· != Wire.star)

/-- The body ends before the first `*`. -/
lemma notMem_body (line : Bytes) : Wire.star ∉ body line := by
  intro hstar
  have hall := List.all_eq_true.1 (List.all_takeWhile (p := (· != Wire.star))
    (l := (content line).drop 1)) Wire.star hstar
  exact absurd hall (by decide)

/-- A line with the marker has the parts of its body as fields. -/
lemma fields_of_marker {line : Bytes} (h : (content line).head? = some Wire.start) :
    (ofBytes line).fields = (body line).splitOn Wire.comma := by
  obtain ⟨rest, hcontent⟩ : ∃ rest, content line = Wire.start :: rest :=
    ⟨(content line).tail, (List.cons_head?_tail h).symm⟩
  change split (content line) = _
  rw [body, hcontent, split, if_pos rfl, List.drop_one, List.tail_cons]

/-- A line without the marker has no fields. -/
lemma fields_of_no_marker {line : Bytes} (h : (content line).head? ≠ some Wire.start) :
    (ofBytes line).fields = [] := by
  change split (content line) = _
  cases hcontent : content line with
  | nil => rfl
  | cons c rest =>
    rw [hcontent, List.head?_cons] at h
    rw [split, if_neg fun hc => h (congrArg some hc)]

/-- The header of a line with the marker is what stands before the first comma. -/
lemma header_of_marker {line : Bytes} (h : (content line).head? = some Wire.start) :
    (ofBytes line).header = (body line).takeWhile (· != Wire.comma) := by
  rw [header, fields_of_marker h, headD_splitOn]

/-- Only a line with the marker has fields. -/
lemma fields_eq_nil_iff (line : Bytes) :
    (ofBytes line).fields = [] ↔ (content line).head? ≠ some Wire.start := by
  constructor
  · intro hnone hmarker
    rw [fields_of_marker hmarker] at hnone
    exact List.splitOn_ne_nil _ _ hnone
  · intro hmarker
    exact fields_of_no_marker hmarker

/-- With commas between them the fields are the body again. -/
lemma joined_fields {line : Bytes} (h : (content line).head? = some Wire.start) :
    Wire.joined (ofBytes line).fields = body line := by
  rw [fields_of_marker h]
  exact List.intercalate_splitOn Wire.comma

/-- The fields hold no character that ends them. -/
lemma notMem_of_mem_fields {line : Bytes} {field : List Char}
    (hfield : field ∈ (ofBytes line).fields) : Wire.comma ∉ field ∧ Wire.star ∉ field := by
  by_cases hmarker : (content line).head? = some Wire.start
  · rw [fields_of_marker hmarker] at hfield
    constructor
    · intro hcomma
      exact (mem_of_mem_splitOn hfield hcomma).2 rfl
    · intro hstar
      have hbody : Wire.star ∈ body line := (mem_of_mem_splitOn hfield hstar).1
      exact notMem_body line hbody
  · rw [fields_of_no_marker hmarker] at hfield
    exact absurd hfield List.not_mem_nil

/-- Behind the body of a line there is a `*`, or nothing but junk. -/
lemma exists_rest {line : Bytes} (h : (content line).head? = some Wire.start) :
    ∃ rest, Latin.decode line = Wire.start :: body line ++ rest ∧
      (rest.head? = some Wire.star ∨ ∀ c ∈ rest, Wire.isTrailingJunk c = true) := by
  obtain ⟨junk, hline, hjunk⟩ := exists_junk line
  obtain ⟨text, hcontent⟩ : ∃ text, content line = Wire.start :: text :=
    ⟨(content line).tail, (List.cons_head?_tail h).symm⟩
  have hbody : body line = text.takeWhile (· != Wire.star) := by
    rw [body, hcontent, List.drop_one, List.tail_cons]
  refine ⟨text.dropWhile (· != Wire.star) ++ junk, ?_, ?_⟩
  · rw [hline, hcontent, hbody, List.cons_append, List.cons_append, ← List.append_assoc,
      List.takeWhile_append_dropWhile]
  · have hfirst := List.head?_dropWhile_not (· != Wire.star) text
    cases hrest : text.dropWhile (· != Wire.star) with
    | nil => exact Or.inr hjunk
    | cons c others =>
      rw [hrest] at hfirst
      have hc : (c != Wire.star) = false := hfirst
      rw [bne_eq_false_iff_eq] at hc
      exact Or.inl (congrArg some hc)

/-! ### The claim of a line -/

/-- What stands behind the last `*`. -/
lemma afterLastStar?_append (before : List Char) {after : List Char} (h : Wire.star ∉ after) :
    afterLastStar? (before ++ Wire.star :: after) = some after := by
  have hne : ∀ c ∈ after, (c != Wire.star) = true := by
    intro c hc
    exact bne_iff_ne.2 fun heq => h (heq ▸ hc)
  rw [afterLastStar?, if_pos (by simp), takeTrailing_append_cons (by decide),
    takeTrailing_eq_self hne]

/-- The last `*` stands where it is the last one. -/
lemma lengthToLastStar_append (before : List Char) {after : List Char} (h : Wire.star ∉ after) :
    lengthToLastStar (before ++ Wire.star :: after) = before.length + 1 := by
  have hne : ∀ c ∈ after, (c != Wire.star) = true := by
    intro c hc
    exact bne_iff_ne.2 fun heq => h (heq ▸ hc)
  rw [lengthToLastStar, takeTrailing_append_cons (by decide), takeTrailing_eq_self hne,
    List.length_append, List.length_cons]
  omega

/-- A text without a `*` claims nothing. -/
lemma claim?_of_notMem {text : List Char} (h : Wire.star ∉ text) : claim? text = none := by
  rw [claim?, afterLastStar?, if_neg (by simpa using h)]

/-- What is claimed are two digits behind the last `*`. -/
lemma exists_digits_of_claim? {text : List Char} {sum : UInt8} (h : claim? text = some sum) :
    ∃ high low rest, afterLastStar? text = some (high :: low :: rest) ∧
      Hex.isDigit high = true ∧ Hex.isDigit low = true := by
  rw [claim?] at h
  split at h
  · next high low rest hafter =>
    obtain ⟨m, hm, h⟩ := Option.bind_eq_some_iff.1 h
    obtain ⟨n, hn, -⟩ := Option.bind_eq_some_iff.1 h
    exact ⟨high, low, rest, hafter, Hex.isDigit_of_digit? hm, Hex.isDigit_of_digit? hn⟩
  · cases h

/-- The last `*` of a text stands before two hexadecimal digits. -/
def Claims (text : List Char) (high low : Char) : Prop :=
  ∃ before rest, text = before ++ Wire.star :: high :: low :: rest ∧ Wire.star ∉ rest ∧
    Hex.isDigit high = true ∧ Hex.isDigit low = true

/-- The two digits that a text claims are read as one byte. -/
lemma Claims.claim?_eq {text : List Char} {high low : Char} (h : Claims text high low) :
    claim? text = some (UInt8.ofNat (Hex.value [high, low])) := by
  obtain ⟨before, rest, rfl, hrest, hhigh, hlow⟩ := h
  have hafter : Wire.star ∉ high :: low :: rest := by
    intro hmem
    rcases List.mem_cons.1 hmem with heq | hmem
    · exact Hex.ne_star_of_isDigit hhigh heq.symm
    rcases List.mem_cons.1 hmem with heq | hmem
    · exact Hex.ne_star_of_isDigit hlow heq.symm
    · exact hrest hmem
  obtain ⟨m, hm⟩ := Option.isSome_iff_exists.1 hhigh
  obtain ⟨n, hn⟩ := Option.isSome_iff_exists.1 hlow
  rw [claim?, afterLastStar?_append before hafter, Hex.value_of_digits hm hn]
  simp only [hm, hn]
  rfl

/-- Nothing else is a claim. -/
lemma exists_claims_of_claim? {text : List Char} {sum : UInt8} (h : claim? text = some sum) :
    ∃ high low, Claims text high low := by
  obtain ⟨high, low, rest, htext, hhigh, hlow⟩ := exists_digits_of_claim? h
  by_cases hstar : Wire.star ∈ text
  · obtain ⟨before, after, rfl, hafter⟩ := exists_last_of_mem hstar
    rw [afterLastStar?_append before hafter, Option.some_inj] at htext
    subst htext
    refine ⟨high, low, before, rest, rfl, fun hrest => hafter ?_, hhigh, hlow⟩
    exact List.mem_cons_of_mem _ (List.mem_cons_of_mem _ hrest)
  · rw [claim?_of_notMem hstar] at h
    cases h

/-- The checksum that a claim is held against is that of the body, wherever the last `*` stands. -/
lemma ofSentence_lengthToLastStar {line : Bytes} (hmarker : (content line).head? = some Wire.start)
    (hstar : Wire.star ∈ content line) :
    Checksum.ofSentence line (some (lengthToLastStar (content line))) =
      xorOf (Latin.encode (body line)) := by
  obtain ⟨before, after, hcontent, hafter⟩ := exists_last_of_mem hstar
  -- the marker stands before the last `*`
  obtain ⟨checked, rfl⟩ : ∃ checked, before = Wire.start :: checked := by
    rw [hcontent] at hmarker
    cases before with
    | nil => exact absurd (Option.some.inj hmarker) (by decide)
    | cons c checked => exact ⟨checked, by rw [← Option.some.inj hmarker]⟩
  have hsplit : content line = (Wire.start :: checked ++ [Wire.star]) ++ after := by
    rw [hcontent, List.append_assoc, List.singleton_append]
  have hcount : lengthToLastStar (content line)
      = (Wire.start :: checked ++ [Wire.star]).length := by
    rw [hcontent, lengthToLastStar_append _ hafter, List.length_append, List.length_singleton]
  obtain ⟨hle, htake⟩ := decode_take hsplit
  have hchecked : Latin.decode ((line.take (lengthToLastStar (content line))).drop 1)
      = checked ++ [Wire.star] := by
    have hdrop : ∀ bytes : Bytes, Latin.decode (bytes.drop 1) = (Latin.decode bytes).drop 1 :=
      fun bytes => List.map_drop
    rw [hdrop, hcount, htake, List.cons_append, List.drop_one, List.tail_cons]
  have hbody : body line = checked.takeWhile (· != Wire.star) := by
    rw [body, hcontent, List.cons_append, List.drop_one, List.tail_cons, takeWhile_bne_append_cons]
  rw [Checksum.ofSentence_take line (hcount ▸ hle), Checksum.ofBody_eq_xorOf, hchecked, hbody,
    takeWhile_bne_append_cons]

/-- The claim of a line with the marker is true just if it is the checksum of the body. -/
theorem checksumValid_iff {line : Bytes} (hmarker : (content line).head? = some Wire.start) :
    (ofBytes line).checksumValid = true ↔
      (ofBytes line).claimed = some (xorOf (Latin.encode (body line))) := by
  have hvalid : (ofBytes line).checksumValid = true ↔ (ofBytes line).claimed
      = some (Checksum.ofSentence line (some (lengthToLastStar (content line)))) := beq_iff_eq
  by_cases hstar : Wire.star ∈ content line
  · rw [hvalid, ofSentence_lengthToLastStar hmarker hstar]
  · have hnone : (ofBytes line).claimed = none := claim?_of_notMem hstar
    rw [hvalid, hnone]
    exact iff_of_false (Option.some_ne_none _).symm (Option.some_ne_none _).symm

/-! ### What the parts make up -/

/-- Talker and message code are there together. -/
lemma tokens?_cases (s : Sentence) :
    (5 ≤ s.header.length ∧ ∃ talker code, s.talker? = some talker ∧ s.code? = some code ∧
      talker.length = 2 ∧ code.length = 3 ∧ talker ++ code <+: s.header) ∨
    (s.header.length < 5 ∧ s.talker? = none ∧ s.code? = none) := by
  rw [talker?, code?, tokens?]
  by_cases hlong : TokenKind.talker.length + TokenKind.messageCode.length ≤ s.header.length
  · have hfive : 5 ≤ s.header.length := hlong
    refine Or.inl ⟨hfive, s.header.take 2, (s.header.drop 2).take 3, ?_, ?_, ?_, ?_, ?_⟩
    · rw [if_pos hlong]
      rfl
    · rw [if_pos hlong]
      rfl
    · rw [List.length_take]
      omega
    · rw [List.length_take, List.length_drop]
      omega
    · rw [← List.take_add]
      exact List.take_prefix _ _
  · refine Or.inr ⟨Nat.lt_of_not_le hlong, ?_, ?_⟩ <;> rw [if_neg hlong] <;> rfl

/-- Receiving a line loses nothing of it and invents nothing.  A line without the marker has no
fields.  Every other line is the marker and its fields with commas between them, before a `*` or
before nothing but junk; no field holds a comma or a `*`, and the claim is true just if it is the
exclusive or of what the fields were cut from, also if there are several `*`.  There is a claim just
if two hexadecimal digits stand behind the last `*`, and it is their value.  Talker and message code
are the first five characters of the header, or neither is there. -/
theorem ofBytes_covers_line (line : Bytes) :
    let s := ofBytes line
    let text := content line
    let spoken := Wire.joined s.fields
    (s.fieldCount = 0 ↔ text.head? ≠ some Wire.start) ∧
    (0 < s.fieldCount →
      (∃ rest, Latin.decode line = Wire.start :: spoken ++ rest ∧
        (rest.head? = some Wire.star ∨ ∀ c ∈ rest, Wire.isTrailingJunk c = true)) ∧
      (∀ field ∈ s.fields, Wire.comma ∉ field ∧ Wire.star ∉ field) ∧
      (s.checksumValid = true ↔
        s.claimed.isSome = true ∧ xorOf (Latin.encode spoken) = s.checksum)) ∧
    (s.claimed.isSome = true ↔ ∃ high low, Claims text high low) ∧
    (∀ high low, Claims text high low → s.checksum.toNat = Hex.value [high, low]) ∧
    (s.claimed.isSome = false → s.checksum = 0) ∧
    ((5 ≤ s.header.length ∧ ∃ talker code, s.talker? = some talker ∧ s.code? = some code ∧
        talker.length = 2 ∧ code.length = 3 ∧ talker ++ code <+: s.header) ∨
      (s.header.length < 5 ∧ s.talker? = none ∧ s.code? = none)) := by
  intro s text spoken
  have hclaimed : s.claimed = claim? text := rfl
  refine ⟨?_, ?_, ?_, ?_, ?_, tokens?_cases s⟩
  · rw [fieldCount, List.length_eq_zero_iff]
    exact fields_eq_nil_iff line
  · intro hcount
    have hmarker : text.head? = some Wire.start := by
      by_contra hno
      have hnone : s.fields = [] := (fields_eq_nil_iff line).2 hno
      rw [fieldCount, hnone] at hcount
      exact absurd hcount (by decide)
    have hspoken : spoken = body line := joined_fields hmarker
    refine ⟨?_, fun field hfield => notMem_of_mem_fields hfield, ?_⟩
    · rw [hspoken]
      exact exists_rest hmarker
    · rw [checksumValid_iff hmarker, hspoken]
      change s.claimed = _ ↔ _
      rw [checksum]
      cases s.claimed with
      | none => simp
      | some sum => simp [eq_comm]
  · constructor
    · intro hsome
      obtain ⟨sum, hsum⟩ := Option.isSome_iff_exists.1 hsome
      exact exists_claims_of_claim? (hclaimed.symm.trans hsum)
    · rintro ⟨high, low, hclaims⟩
      rw [hclaimed, hclaims.claim?_eq]
      rfl
  · intro high low hclaims
    obtain ⟨before, rest, -, -, hhigh, hlow⟩ := id hclaims
    rw [checksum, hclaimed, hclaims.claim?_eq, Option.getD_some]
    exact UInt8.toNat_ofNat_of_lt' (Hex.value_lt_of_isDigit hhigh hlow)
  · intro hnone
    cases hclaim : s.claimed with
    | none => rw [checksum, hclaim, Option.getD_none]
    | some sum =>
      rw [hclaim] at hnone
      cases hnone

/-- The fields and the checksum end at the first `*`, and the claim stands behind the last. -/
example :
    let s := ofBytes (Latin.encode "$GPACK,1*9,X*43 \r\n".toList)
    s.fields = ["GPACK".toList, ['1']] ∧ s.checksum = 0x43 ∧ s.checksumValid = true := by
  decide

end Sentence

end Nmea0183
