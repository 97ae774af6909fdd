import Mathlib.Data.List.Basic
import Mathlib.Tactic.Common
import Nmea0183.Proofs.Decoder.FieldReader
import Nmea0183.Proofs.Frame.Received
import Nmea0183.Proofs.Frame.Unwrapping

/-!
# Readers of a checksum suffix

Three readers look at the two characters behind the `*` of a sentence: unwrapping a line, verifying
a claim, and receiving a line.  Two hexadecimal digits are the same to all of them.  The first two
read a number of base 16, and so take one digit with a blank beside it or a sign before it as well
(`Checksum.LooselySpells`), which is no claim to a receiver.  So they agree just if the checksum is
not spelled loosely (`Frame.suffix_readers_agree_iff_not_loose`).
-/

namespace Nmea0183

namespace Checksum

/-! ### Spellings of a number -/

/-- Two hexadecimal digits that have a number as their value. -/
def Spells (first second : Char) (n : Nat) : Prop :=
  Hex.isDigit first = true ∧ Hex.isDigit second = true ∧ Hex.value [first, second] = n

/-- The other pairs of characters that are read as a number of base 16: one digit with a blank on
either side or a plus before it, and zero with a minus. -/
def LooselySpells (first second : Char) (n : Nat) : Prop :=
  (Blank.isAsciiBlank first = true ∧ Hex.digit? second = some n) ∨
  (Hex.digit? first = some n ∧ Blank.isAsciiBlank second = true) ∨
  (first = '+' ∧ Hex.digit? second = some n) ∨
  (first = '-' ∧ Hex.digit? second = some 0 ∧ n = 0)

instance (first second : Char) (n : Nat) : Decidable (Spells first second n) :=
  inferInstanceAs (Decidable (_ ∧ _ ∧ _))

instance (first second : Char) (n : Nat) : Decidable (LooselySpells first second n) :=
  inferInstanceAs (Decidable (_ ∨ _ ∨ _ ∨ _))

/-- A character that stands in some spelling of a number. -/
def isSpelling (c : Char) : Bool :=
  Hex.isDigit c || Blank.isAsciiBlank c || c == '+' || c == '-'

/-- A digit is no blank. -/
lemma isAsciiBlank_of_isDigit {c : Char} (hc : Hex.isDigit c = true) :
    Blank.isAsciiBlank c = false := by
  have hge := Hex.toNat_ge_of_isDigit hc
  simp only [Blank.isAsciiBlank, Bool.or_eq_false_iff, Bool.and_eq_false_iff,
    decide_eq_false_iff_not]
  omega

/-- Two digits do not spell a number loosely. -/
lemma not_looselySpells_of_isDigit {first second : Char} {n : Nat}
    (hfirst : Hex.isDigit first = true) (hsecond : Hex.isDigit second = true) :
    ¬ LooselySpells first second n := by
  rintro (⟨hblank, -⟩ | ⟨-, hblank⟩ | ⟨rfl, -⟩ | ⟨rfl, -⟩)
  · rw [isAsciiBlank_of_isDigit hfirst] at hblank
    cases hblank
  · rw [isAsciiBlank_of_isDigit hsecond] at hblank
    cases hblank
  · exact absurd hfirst (by decide)
  · exact absurd hfirst (by decide)

/-- Of two characters the blanks are taken off. -/
lemma trim_pair (first second : Char) :
    trim [first, second] = (if Blank.isAsciiBlank first then [] else [first])
      ++ if Blank.isAsciiBlank second then [] else [second] := by
  rw [trim, dropTrailing]
  cases hfirst : Blank.isAsciiBlank first <;> cases hsecond : Blank.isAsciiBlank second <;>
    simp [hfirst, hsecond]

/-- One character is read as the digit that it is. -/
lemma pair?_of_trim_singleton {text : List Char} {c : Char} (h : trim text = [c]) (n : Nat) :
    pair? text = some (n : Int) ↔ Hex.digit? c = some n := by
  have hread : pair? text = (Hex.digit? c).map fun m : Nat => (m : Int) := by
    rw [pair?, h]
    cases hc : Hex.digit? c <;> simp [hc]
  rw [hread, Option.map_eq_some_iff]
  constructor
  · rintro ⟨m, hm, hmn⟩
    rw [hm, Int.natCast_inj.1 hmn]
  · intro hn
    exact ⟨n, hn, rfl⟩

/-- Two characters without a blank are read as two digits, or as a sign and a digit. -/
lemma pair?_of_trim_pair {text : List Char} {c d : Char} (h : trim text = [c, d]) (n : Nat) :
    pair? text = some (n : Int) ↔
      Spells c d n ∨ (c = '+' ∧ Hex.digit? d = some n) ∨
        (c = '-' ∧ Hex.digit? d = some 0 ∧ n = 0) := by
  have hsigns : Hex.isDigit '+' = false ∧ Hex.isDigit '-' = false ∧ '+' ≠ '-' := by decide
  obtain ⟨hplus, hminus, hne⟩ := hsigns
  cases hd : Hex.digit? d with
  | none =>
    have hread : pair? text = none := by
      rw [pair?, h]
      simp only [hd]
      rfl
    simp [hread, Spells, Hex.isDigit, hd]
  | some low =>
    have hread : pair? text =
        if c = '+' then some (low : Int)
        else if c = '-' then some (-(low : Int))
        else (Hex.digit? c).map fun high => ((16 * high + low : Nat) : Int) := by
      rw [pair?, h]
      simp only [hd]
      cases Hex.digit? c <;> rfl
    rw [hread]
    by_cases hc : c = '+'
    · rw [if_pos hc, Option.some_inj, Int.natCast_inj]
      simp [Spells, hc, hplus, hne]
    by_cases hc' : c = '-'
    · have hzero : -(low : Int) = n ↔ low = 0 ∧ n = 0 := by omega
      rw [if_neg hc, if_pos hc', Option.some_inj, hzero]
      simp [Spells, hc', hminus, hne.symm]
    · rw [if_neg hc, if_neg hc']
      cases hhigh : Hex.digit? c with
      | none => simp [Spells, Hex.isDigit, hc, hc', hhigh]
      | some high =>
        rw [Spells, Hex.value_of_digits hhigh hd, Option.map_some, Option.some_inj,
          Int.natCast_inj]
        simp [Hex.isDigit, hc, hc', hhigh, hd]

/-- Two characters are read as a natural number if they spell it, loosely or not. -/
theorem pair?_eq_natCast_iff {first second : Char} {n : Nat} :
    pair? [first, second] = some (n : Int) ↔
      Spells first second n ∨ LooselySpells first second n := by
  have htrim := trim_pair first second
  have hblank : ∀ {c}, Blank.isAsciiBlank c = true →
      Hex.digit? c = none ∧ Hex.isDigit c = false ∧ c ≠ '+' ∧ c ≠ '-' := by
    intro c hc
    have hdigit : Hex.digit? c = none := by
      cases hc' : Hex.digit? c with
      | none => rfl
      | some m =>
        rw [isAsciiBlank_of_isDigit (Hex.isDigit_of_digit? hc')] at hc
        cases hc
    refine ⟨hdigit, by rw [Hex.isDigit, hdigit, Option.isSome_none], ?_, ?_⟩ <;>
      rintro rfl <;> exact absurd hc (by decide)
  cases hfirst : Blank.isAsciiBlank first <;> cases hsecond : Blank.isAsciiBlank second <;>
    simp only [hfirst, hsecond, if_true, if_false, Bool.false_eq_true, List.nil_append,
      List.append_nil, List.singleton_append] at htrim
  · rw [pair?_of_trim_pair htrim]
    simp [LooselySpells, hfirst, hsecond]
  · obtain ⟨hdigit, hisDigit, -, -⟩ := hblank hsecond
    rw [pair?_of_trim_singleton htrim]
    simp [Spells, LooselySpells, hfirst, hsecond, hdigit, hisDigit]
  · obtain ⟨hdigit, hisDigit, hplus, hminus⟩ := hblank hfirst
    rw [pair?_of_trim_singleton htrim]
    simp [Spells, LooselySpells, hfirst, hsecond, hdigit, hisDigit, hplus, hminus]
  · obtain ⟨hdigit, hisDigit, hplus, hminus⟩ := hblank hfirst
    obtain ⟨hdigit', -, -, -⟩ := hblank hsecond
    have hnone : pair? [first, second] = none := by rw [pair?, htrim]
    simp [hnone, Spells, LooselySpells, hdigit, hdigit', hisDigit, hplus, hminus]

/-- Only some characters stand in a spelling. -/
lemma isSpelling_of_spells {first second : Char} {n : Nat}
    (h : Spells first second n ∨ LooselySpells first second n) :
    isSpelling first = true ∧ isSpelling second = true := by
  have hdigit : ∀ {c m}, Hex.digit? c = some m → isSpelling c = true := by
    intro c m hc
    simp [isSpelling, Hex.isDigit_of_digit? hc]
  have hblank : ∀ {c}, Blank.isAsciiBlank c = true → isSpelling c = true := by
    intro c hc
    simp [isSpelling, hc]
  rcases h with ⟨hfirst, hsecond, -⟩ | ⟨hfirst, hsecond⟩ | ⟨hfirst, hsecond⟩ | ⟨rfl, hsecond⟩ |
    ⟨rfl, hsecond, -⟩
  · simp [isSpelling, hfirst, hsecond]
  · exact ⟨hblank hfirst, hdigit hsecond⟩
  · exact ⟨hdigit hfirst, hblank hsecond⟩
  · exact ⟨rfl, hdigit hsecond⟩
  · exact ⟨rfl, hdigit hsecond⟩

/-- A character of a spelling is ASCII and no `*`. -/
lemma isAscii_of_isSpelling {c : Char} (hc : isSpelling c = true) :
    Ascii.isAscii c = true ∧ c ≠ Wire.star := by
  have hle : c.toNat ≤ 102 := by
    simp only [isSpelling, Bool.or_eq_true, beq_iff_eq] at hc
    rcases hc with ((hdigit | hblank) | rfl) | rfl
    · exact Hex.toNat_le_of_isDigit hdigit
    · simp only [Blank.isAsciiBlank, Bool.or_eq_true, Bool.and_eq_true, decide_eq_true_eq] at hblank
      omega
    · decide
    · decide
  constructor
  · simp only [Ascii.isAscii, decide_eq_true_eq]
    omega
  · rintro rfl
    exact absurd hc (by decide)

/-! ### Verifying a claim -/

/-- Bytes whose characters are ASCII have them as their text. -/
lemma ascii_decode {bytes : Bytes} (h : ∀ c ∈ Latin.decode bytes, Ascii.isAscii c = true) :
    Ascii.decode bytes = .ok (Latin.decode bytes) := by
  have hsmall : ∀ b ∈ bytes, decide (b < 128) = true := by
    intro b hb
    have hc := h (Latin.charOf b) (List.mem_map_of_mem hb)
    rw [Ascii.isAscii, Latin.toNat_charOf, decide_eq_true_eq] at hc
    exact decide_eq_true hc
  rw [Ascii.decode, List.dropWhile_eq_nil_iff.2 hsmall]

/-- Only ASCII bytes have a text. -/
lemma isAscii_of_ascii_decode {bytes : Bytes} {text : List Char}
    (h : Ascii.decode bytes = .ok text) :
    text = Latin.decode bytes ∧ ∀ c ∈ text, Ascii.isAscii c = true := by
  unfold Ascii.decode at h
  split at h
  · next hnil =>
    obtain rfl := Except.ok.inj h
    refine ⟨rfl, fun c hc => ?_⟩
    obtain ⟨b, hb, rfl⟩ := List.mem_map.1 hc
    have hsmall := of_decide_eq_true (List.dropWhile_eq_nil_iff.1 hnil b hb)
    rw [Ascii.isAscii, Latin.toNat_charOf]
    exact decide_eq_true hsmall
  · cases h

/-- Two ASCII characters claim the number that they are read as. -/
lemma ofText_eq_ok_iff {text : List Char} (hlength : text.length = 2)
    (hascii : ∀ c ∈ text, Ascii.isAscii c = true) {value : Int} :
    ofText text = .ok value ↔ pair? text = some value := by
  have hplain : plain text = text := by
    rw [plain, if_pos (List.all_eq_true.2 hascii)]
  rw [ofText, if_neg (not_not.2 hlength), hplain]
  cases pair? text <;> simp

/-- Two bytes are verified as a claim if they are read as the checksum of the line. -/
lemma verify_bytes_iff {line : Bytes} {a b : UInt8} :
    verify line (.bytes [a, b]) = .ok true ↔
      pair? (Latin.decode [a, b]) = some ((ofSentence line none).toNat : Int) := by
  cases hdecode : Ascii.decode [a, b] with
  | error f =>
    have hverify : verify line (.bytes [a, b]) = .error (.ascii f) := by
      simp only [verify, claimed, hdecode]
      rfl
    rw [hverify]
    constructor
    · intro h
      cases h
    · intro h
      obtain ⟨ha, hb⟩ := isSpelling_of_spells (pair?_eq_natCast_iff.1 h)
      have hascii : ∀ c ∈ Latin.decode [a, b], Ascii.isAscii c = true := by
        intro c hc
        rcases List.mem_pair.1 hc with rfl | rfl
        · exact (isAscii_of_isSpelling ha).1
        · exact (isAscii_of_isSpelling hb).1
      rw [ascii_decode hascii] at hdecode
      cases hdecode
  | ok text =>
    obtain ⟨rfl, hascii⟩ := isAscii_of_ascii_decode hdecode
    have hvalue : ofText (Latin.decode [a, b]) = .ok ((ofSentence line none).toNat : Int) ↔
        pair? (Latin.decode [a, b]) = some ((ofSentence line none).toNat : Int) :=
      ofText_eq_ok_iff (Latin.length_decode [a, b]) hascii
    have hclaimed : claimed (.bytes [a, b]) =
        (ofText (Latin.decode [a, b])).mapError .checksum >>= fun value => .ok (.int value) := by
      simp only [claimed, hdecode]
      rfl
    rw [← hvalue, verify, hclaimed]
    cases ofText (Latin.decode [a, b]) with
    | error f => exact ⟨nofun, nofun⟩
    | ok value =>
      change Except.ok _ = Except.ok true ↔ _
      rw [Except.ok.injEq, Except.ok.injEq, Value.int_equals_int_iff, eq_comm]

end Checksum

/-! ### Receiving a suffix -/

namespace Sentence

/-- The text of a received line with a suffix of two bytes: blanks at its end are dropped. -/
lemma content_suffix (body : Bytes) (a b : UInt8) :
    content (Wire.startByte :: body ++ Wire.starByte :: [a, b]) =
      (Wire.start :: Latin.decode body) ++
        Wire.star :: dropTrailing Wire.isTrailingJunk [Latin.charOf a, Latin.charOf b] := by
  have hends : Latin.charOf Wire.startByte = Wire.start ∧
      Latin.charOf Wire.starByte = Wire.star := by
    decide
  obtain ⟨hstart, hstar⟩ := hends
  rw [content, Latin.decode_append, ← dropTrailing_append_cons (by decide), ← hstart, ← hstar]
  rfl

/-- Two bytes behind a `*` that are claimed are two digits. -/
lemma isDigit_of_claim?_suffix {body : Bytes} {a b : UInt8} {sum : UInt8}
    (h : claim? (content (Wire.startByte :: body ++ Wire.starByte :: [a, b])) = some sum) :
    Hex.isDigit (Latin.charOf a) = true ∧ Hex.isDigit (Latin.charOf b) = true := by
  obtain ⟨c, d, rest, hafter, hc, hd⟩ := exists_digits_of_claim? h
  rw [content_suffix, afterLastStar?, if_pos (by simp), takeTrailing_append_cons (by decide),
    Option.some_inj] at hafter
  have hsuffix : c :: d :: rest <:+
      dropTrailing Wire.isTrailingJunk [Latin.charOf a, Latin.charOf b] :=
    ⟨_, hafter ▸ dropTrailing_append_takeTrailing _ _⟩
  have hprefix : dropTrailing Wire.isTrailingJunk [Latin.charOf a, Latin.charOf b] <+:
      [Latin.charOf a, Latin.charOf b] :=
    ⟨_, dropTrailing_append_takeTrailing _ _⟩
  -- the two digits are all that there is behind the `*`
  have hall := (hsuffix.sublist.trans hprefix.sublist).eq_of_length_le (by simp)
  simp only [List.cons.injEq] at hall
  obtain ⟨hfirst, hsecond, -⟩ := hall
  exact ⟨hfirst ▸ hc, hsecond ▸ hd⟩

/-- The text of a received line that ends in a digit: nothing is dropped. -/
lemma content_suffix_of_isDigit (body : Bytes) {a b : UInt8}
    (hdigit : Hex.isDigit (Latin.charOf b) = true) :
    content (Wire.startByte :: body ++ Wire.starByte :: [a, b]) =
      Wire.start :: Latin.decode body ++ Wire.star :: [Latin.charOf a, Latin.charOf b] := by
  have hkept : dropTrailing Wire.isTrailingJunk [Latin.charOf a, Latin.charOf b]
      = [Latin.charOf a, Latin.charOf b] :=
    dropTrailing_append_cons (Hex.isTrailingJunk_of_isDigit hdigit) [Latin.charOf a] []
  rw [content_suffix, hkept]

/-- Two digits behind the only `*` of a line are compared with the checksum of the body. -/
lemma checksumValid_suffix_of_digits {body : Bytes} (hstar : Wire.starByte ∉ body) {a b : UInt8}
    (hfirst : Hex.isDigit (Latin.charOf a) = true) (hsecond : Hex.isDigit (Latin.charOf b) = true) :
    (ofBytes (Wire.startByte :: body ++ Wire.starByte :: [a, b])).checksumValid = true ↔
      UInt8.ofNat (Hex.value [Latin.charOf a, Latin.charOf b]) = xorOf body := by
  have hcontent := content_suffix_of_isDigit body (a := a) hsecond
  obtain ⟨-, -, hvalid⟩ := parts_of_content hcontent hfirst hsecond
  rw [hvalid, Checksum.ofBody_of_notMem hstar]

/-- Two bytes behind the only `*` of a line are a true claim if they spell the checksum with two
digits. -/
lemma checksumValid_suffix_iff {body : Bytes} (hstar : Wire.starByte ∉ body) (a b : UInt8) :
    (ofBytes (Wire.startByte :: body ++ Wire.starByte :: [a, b])).checksumValid = true ↔
      Checksum.Spells (Latin.charOf a) (Latin.charOf b) (xorOf body).toNat := by
  constructor
  · intro hvalid
    obtain ⟨hfirst, hsecond⟩ := isDigit_of_claim?_suffix (beq_iff_eq.1 hvalid)
    have hsum := (checksumValid_suffix_of_digits hstar hfirst hsecond).1 hvalid
    refine ⟨hfirst, hsecond, ?_⟩
    rw [← hsum, UInt8.toNat_ofNat_of_lt' (Hex.value_lt_of_isDigit hfirst hsecond)]
  · rintro ⟨hfirst, hsecond, hvalue⟩
    refine (checksumValid_suffix_of_digits hstar hfirst hsecond).2 ?_
    rw [hvalue, UInt8.ofNat_toNat]

end Sentence

namespace Frame

/-! ### Unwrapping a frame -/

/-- The digits of a checksum hold no `*`. -/
lemma star_notMem_encode_digits (sum : UInt8) :
    Wire.starByte ∉ Latin.encode (Checksum.digits sum) := by
  have hplain : Wire.Plain (Checksum.digits sum) := Wire.plain_upper _ _
  exact Latin.byteOf_notMem_encode (c := Wire.star) (by decide)
    (fun c hc => Wire.toNat_lt_of_isAscii (Wire.isAscii_of_isPlain (hplain c hc)))
    (hplain.notMem rfl)

/-- The digits of a checksum are read as the checksum. -/
lemma claim_encode_digits (sum : UInt8) :
    claim (Latin.encode (Checksum.digits sum)) = .ok (sum.toNat : Int) := by
  have hplain : Wire.Plain (Checksum.digits sum) := Wire.plain_upper _ _
  obtain ⟨high, low, hdigits, hhigh, hlow, hvalue⟩ := Checksum.exists_digits sum
  rw [claim_eq_ok_iff, hplain.decode_encode, hdigits]
  exact ⟨rfl, Checksum.pair?_eq_natCast_iff.2 (Or.inl ⟨hhigh, hlow, hvalue⟩)⟩

/-- A frame is unwrapped if the checksum that stands in it is that of the body. -/
lemma unwrap_claiming (body : Bytes) (sum : UInt8) (required : Bool) :
    unwrap (claiming body sum) required =
      if Checksum.ofBody body = sum then .ok body
      else .error (.mismatch (Checksum.ofBody body) sum.toNat) := by
  have hparts : dropTerminator (claiming body sum)
      = Wire.startByte :: body ++ Wire.starByte :: Latin.encode (Checksum.digits sum) :=
    dropTerminator_append _
  have hclaim : unwrap (claiming body sum) required =
      if ((Checksum.ofBody body).toNat : Int) ≠ sum.toNat then
        .error (.mismatch (Checksum.ofBody body) sum.toNat)
      else .ok body := by
    rw [unwrap_of_parts hparts (star_notMem_encode_digits sum), claim_encode_digits]
    rfl
  rw [hclaim]
  by_cases hsum : Checksum.ofBody body = sum
  · rw [if_pos hsum, if_neg (not_not.2 (by rw [hsum]))]
  · have hne : ((Checksum.ofBody body).toNat : Int) ≠ sum.toNat :=
      fun h => hsum (UInt8.toNat_inj.1 (Int.natCast_inj.1 h))
    rw [if_neg hsum, if_pos hne]

/-! ### Unwrapping a suffix -/

/-- What two bytes are read as a natural number for is ASCII without a `*`. -/
lemma star_notMem_of_pair? {a b : UInt8} {n : Nat}
    (h : Checksum.pair? (Latin.decode [a, b]) = some (n : Int)) : Wire.starByte ∉ [a, b] := by
  obtain ⟨ha, hb⟩ := Checksum.isSpelling_of_spells (Checksum.pair?_eq_natCast_iff.1 h)
  intro hmem
  rcases List.mem_pair.1 hmem with rfl | rfl
  · exact (Checksum.isAscii_of_isSpelling ha).2 rfl
  · exact (Checksum.isAscii_of_isSpelling hb).2 rfl

/-- A line with one `*` before its last two bytes is sealed if they claim the checksum. -/
lemma sealed_suffix_iff {body out claimed : Bytes} {a b : UInt8} :
    Sealed (Wire.startByte :: body ++ Wire.starByte :: [a, b]) out claimed ↔
      out = body ∧ claimed = [a, b] ∧
        Checksum.pair? (Latin.decode [a, b]) = some ((Checksum.ofBody body).toNat : Int) := by
  set line := Wire.startByte :: body ++ Wire.starByte :: [a, b] with hline
  obtain ⟨ending, hparts, hending⟩ := exists_ending line
  constructor
  · intro h
    rw [h.dropTerminator_eq, hline] at hparts
    rcases hending with rfl | rfl
    · rw [List.append_nil] at hparts
      obtain ⟨hbody, hclaimed⟩ := List.append_inj' hparts (by simp [h.length_eq])
      obtain rfl := (List.cons.inj hbody).2
      obtain rfl := (List.cons.inj hclaimed).2
      exact ⟨rfl, rfl, h.pair?_eq⟩
    · -- then the `*` is the last byte of the claim, where none stands
      obtain ⟨c, d, rfl⟩ := List.length_eq_two.1 h.length_eq
      have hsplit : (Wire.startByte :: body ++ [Wire.starByte]) ++ [a, b]
          = ((Wire.startByte :: out ++ [Wire.starByte, c]) ++ [d]) ++ Wire.terminator := by
        simpa using hparts
      obtain ⟨hchecked, -⟩ := List.append_inj' hsplit rfl
      obtain ⟨-, hlast⟩ := List.append_inj' hchecked rfl
      exact absurd (by simp [(List.cons.inj hlast).1]) h.star_notMem
  · rintro ⟨rfl, rfl, hpair⟩
    refine ⟨?_, star_notMem_of_pair? hpair, rfl, hpair⟩
    rcases hending with rfl | rfl
    · rw [List.append_nil] at hparts
      exact hparts.symm
    · -- the line end is no claim
      have hsplit : (Wire.startByte :: out ++ [Wire.starByte]) ++ [a, b]
          = dropTerminator line ++ Wire.terminator := by
        rw [← hparts]
        simp [hline]
      have hnone : Checksum.pair? (Latin.decode Wire.terminator) = none := by decide
      obtain ⟨-, hterminator⟩ := List.append_inj' hsplit rfl
      rw [hterminator, hnone] at hpair
      cases hpair

/-- Two bytes behind the only `*` of a line are read the same when it is unwrapped and when it is
verified, namely as a number of base 16 that may be spelled loosely.  A receiver looks for two
digits.  So the three agree on all suffixes but the loose ones, and on all that are digits. -/
theorem suffix_readers_agree_iff_not_loose {body : Bytes} (hstar : Wire.starByte ∉ body)
    (a b : UInt8) :
    let line := Wire.startByte :: body ++ Wire.starByte :: [a, b]
    let sum := (xorOf body).toNat
    let Strict := Checksum.Spells (Latin.charOf a) (Latin.charOf b) sum
    let Loose := Checksum.LooselySpells (Latin.charOf a) (Latin.charOf b) sum
    (∀ required out, unwrap line required = .ok out ↔ out = body ∧ (Strict ∨ Loose)) ∧
    (Checksum.verify (Wire.startByte :: body) (.bytes [a, b]) = .ok true ↔ Strict ∨ Loose) ∧
    ((Sentence.ofBytes line).checksumValid = true ↔ Strict) ∧
    (((∃ out, unwrap line true = .ok out) ↔ (Sentence.ofBytes line).checksumValid = true)
      ↔ ¬ Loose) ∧
    (Hex.isDigit (Latin.charOf a) = true → Hex.isDigit (Latin.charOf b) = true → ¬ Loose) := by
  intro line sum Strict Loose
  have hline : Wire.starByte ∈ line := by simp [line]
  have hread : Checksum.pair? (Latin.decode [a, b]) = some (sum : Int) ↔ Strict ∨ Loose :=
    Checksum.pair?_eq_natCast_iff
  have hexclusive : Strict → ¬ Loose := fun h =>
    Checksum.not_looselySpells_of_isDigit h.1 h.2.1
  have hunwrap : ∀ required out,
      unwrap line required = .ok out ↔ out = body ∧ (Strict ∨ Loose) := by
    intro required out
    rw [unwrap_eq_ok_iff hline]
    simp only [line, sealed_suffix_iff, Checksum.ofBody_of_notMem hstar]
    constructor
    · rintro ⟨claimed, hout, -, hpair⟩
      exact ⟨hout, hread.1 hpair⟩
    · rintro ⟨hout, hspelled⟩
      exact ⟨[a, b], hout, rfl, hread.2 hspelled⟩
  have hverify : Checksum.verify (Wire.startByte :: body) (.bytes [a, b]) = .ok true
      ↔ Strict ∨ Loose := by
    rw [Checksum.verify_bytes_iff, Checksum.ofSentence_none, List.drop_one, List.tail_cons,
      Checksum.ofBody_of_notMem hstar, hread]
  have hvalid : (Sentence.ofBytes line).checksumValid = true ↔ Strict :=
    Sentence.checksumValid_suffix_iff hstar a b
  have hsome : (∃ out, unwrap line true = .ok out) ↔ Strict ∨ Loose := by
    simp only [hunwrap, exists_eq_left]
  refine ⟨hunwrap, hverify, hvalid, ?_, Checksum.not_looselySpells_of_isDigit⟩
  rw [hsome, hvalid]
  constructor
  · intro hagree hloose
    exact hexclusive (hagree.1 (Or.inr hloose)) hloose
  · intro hloose
    exact ⟨fun h => h.resolve_right hloose, Or.inl⟩

/-- Two digits are the same to all three. -/
theorem suffix_readers_agree_iff_not_loose_of_digits :
    let body := Latin.encode "GPGGA,0N".toList
    let line := Latin.encode "$GPGGA,0N*04".toList
    Wire.starByte ∉ body ∧ line = Wire.startByte :: body ++ Wire.starByte :: [0x30, 0x34] ∧
      unwrap line true = .ok body ∧
      Checksum.verify (Wire.startByte :: body) (.bytes [0x30, 0x34]) = .ok true ∧
      (Sentence.ofBytes line).checksumValid = true := by
  intro body line
  have hstar : Wire.starByte ∉ body := by decide
  have hspells : Checksum.Spells (Latin.charOf 0x30) (Latin.charOf 0x34) (xorOf body).toNat := by
    decide
  obtain ⟨hunwrap, hverify, hvalid, -⟩ := suffix_readers_agree_iff_not_loose hstar 0x30 0x34
  exact ⟨hstar, by decide, (hunwrap true body).2 ⟨rfl, Or.inl hspells⟩,
    hverify.2 (Or.inl hspells), hvalid.2 hspells⟩

/-- A sign and a digit are unwrapped and verified, but are no claim to a receiver. -/
theorem suffix_readers_disagree_on_sign :
    let body := Latin.encode "GPGGA,0N".toList
    let line := Latin.encode "$GPGGA,0N*+4".toList
    Wire.starByte ∉ body ∧ line = Wire.startByte :: body ++ Wire.starByte :: [0x2B, 0x34] ∧
      unwrap line true = .ok body ∧
      Checksum.verify (Wire.startByte :: body) (.bytes [0x2B, 0x34]) = .ok true ∧
      (Sentence.ofBytes line).checksumValid = false ∧ Hex.isDigit '+' = false := by
  refine ⟨by decide, by decide, by decide, ?_, by decide, by decide⟩
  exact Checksum.verify_bytes_iff.2 (by decide)

end Frame

end Nmea0183
