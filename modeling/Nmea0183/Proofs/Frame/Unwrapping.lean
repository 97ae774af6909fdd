import Mathlib.Data.LawfulXor.Basic
import Mathlib.Data.List.Basic
import Mathlib.Data.List.TakeWhile
import Mathlib.Tactic.Common
import Nmea0183.Frame
import Nmea0183.Proofs.Results

/-!
# Lines that are unwrapped

A line that holds a `*` is unwrapped just if, apart from its end, it is a `$`, a body, a `*` and two
characters that claim the checksum of the body (`Frame.unwrap_eq_ok_iff`).  The last `*` stands
before the claim, whereas the checksum stops at the first one.  So the claim speaks for what stands
before the first `*` of the line; what stands between the first `*` and the last is part of the body
and is not checked (`Frame.unwrap_checks_up_to_first_star`).
-/

namespace Nmea0183

/-! ### Exclusive or -/

/-- The exclusive or may start from any byte. -/
lemma foldl_xor_eq (bytes : Bytes) (b : UInt8) :
    bytes.foldl (· ^^^ ·) b = b ^^^ xorOf bytes := by
  induction bytes generalizing b with
  | nil => exact (UInt8.xor_zero).symm
  | cons c bytes ih =>
    have hcons : xorOf (c :: bytes) = c ^^^ xorOf bytes := by
      rw [xorOf, List.foldl_cons, ih, UInt8.zero_xor]
    rw [List.foldl_cons, ih, hcons, UInt8.xor_assoc]

/-- The exclusive or of a row is that of its first byte with the others. -/
lemma xorOf_cons (b : UInt8) (bytes : Bytes) : xorOf (b :: bytes) = b ^^^ xorOf bytes := by
  rw [xorOf, List.foldl_cons, foldl_xor_eq, UInt8.zero_xor]

/-- The exclusive or of two rows is that of the two results. -/
lemma xorOf_append (a b : Bytes) : xorOf (a ++ b) = xorOf a ^^^ xorOf b := by
  rw [xorOf, List.foldl_append, foldl_xor_eq]
  rfl

namespace Checksum

/-- The checksum of a whole line is that of what follows the `$`. -/
lemma ofSentence_none (line : Bytes) : ofSentence line none = ofBody (line.drop 1) := by
  rw [ofSentence, endOf, List.take_length]

/-- Without a `*` the whole body counts. -/
lemma ofBody_of_notMem {body : Bytes} (h : Wire.starByte ∉ body) : ofBody body = xorOf body := by
  rw [ofBody, List.takeWhile_eq_self_iff.2 (Wire.bne_starByte_of_notMem h)]

/-- What the checksum leaves out of a body makes up the difference to the exclusive or of all of
its bytes. -/
lemma xorOf_eq_ofBody_iff (body : Bytes) :
    xorOf body = ofBody body ↔ xorOf (body.dropWhile (· != Wire.starByte)) = 0 := by
  have hparts : xorOf body = ofBody body ^^^ xorOf (body.dropWhile (· != Wire.starByte)) := by
    rw [ofBody, ← xorOf_append, List.takeWhile_append_dropWhile]
  rw [hparts, xor_left_eq_self_iff]

end Checksum

namespace Frame

/-! ### The parts of a line -/

/-- A line is cut at its last `*`. -/
lemma splitAtLastStar?_append {checked claimed : Bytes} (h : Wire.starByte ∉ claimed) :
    splitAtLastStar? (checked ++ Wire.starByte :: claimed) = some (checked, claimed) := by
  have htrailing : takeTrailing (· != Wire.starByte) (checked ++ Wire.starByte :: claimed)
      = claimed := by
    rw [takeTrailing_append_cons (by decide),
      takeTrailing_eq_self (Wire.bne_starByte_of_notMem h)]
  have hlength : (checked ++ Wire.starByte :: claimed).length - claimed.length - 1
      = checked.length := by
    rw [List.length_append, List.length_cons]
    omega
  rw [splitAtLastStar?, if_pos (by simp), htrailing]
  dsimp only
  rw [hlength, List.take_left]

/-- A line without a `*` is not cut. -/
lemma splitAtLastStar?_of_notMem {line : Bytes} (h : Wire.starByte ∉ line) :
    splitAtLastStar? line = none := by
  rw [splitAtLastStar?, if_neg (by simpa using h)]

/-- One line end is dropped. -/
lemma dropTerminator_append (line : Bytes) : dropTerminator (line ++ Wire.terminator) = line := by
  have hsuffix : Wire.terminator.isSuffixOf (line ++ Wire.terminator) = true :=
    List.isSuffixOf_iff_suffix.2 (List.suffix_append _ _)
  rw [dropTerminator, if_pos hsuffix, List.length_append, Nat.add_sub_cancel, List.take_left]

/-- Nothing is dropped but a line end. -/
lemma exists_ending (line : Bytes) :
    ∃ ending, line = dropTerminator line ++ ending ∧ (ending = [] ∨ ending = Wire.terminator) := by
  by_cases hsuffix : Wire.terminator <:+ line
  · obtain ⟨rest, rfl⟩ := hsuffix
    exact ⟨Wire.terminator, by rw [dropTerminator_append], Or.inr rfl⟩
  · refine ⟨[], ?_, Or.inl rfl⟩
    rw [dropTerminator, if_neg fun h => hsuffix (List.isSuffixOf_iff_suffix.1 h), List.append_nil]

/-- The line end holds no `*`. -/
lemma mem_dropTerminator_iff {line : Bytes} :
    Wire.starByte ∈ dropTerminator line ↔ Wire.starByte ∈ line := by
  obtain ⟨ending, hline, hending⟩ := exists_ending line
  have hstar : Wire.starByte ∉ ending := by
    rcases hending with rfl | rfl
    · exact List.not_mem_nil
    · decide
  constructor
  · intro h
    rw [hline]
    exact List.mem_append_left _ h
  · intro h
    rw [hline] at h
    exact (List.mem_append.1 h).resolve_right hstar

/-- A claim is a number that is read from two bytes. -/
lemma claim_eq_ok_iff {claimed : Bytes} {value : Int} :
    claim claimed = .ok value ↔
      claimed.length = 2 ∧ Checksum.pair? (Latin.decode claimed) = some value := by
  rw [claim]
  by_cases hlength : claimed.length = 2
  · rw [if_neg (not_not.2 hlength)]
    cases Checksum.pair? (Latin.decode claimed) <;> simp [hlength]
  · rw [if_pos hlength]
    simp [hlength]

/-- A line that starts as it should is unwrapped by its two parts. -/
lemma unwrap_cons (rest : Bytes) (required : Bool) :
    unwrap (Wire.startByte :: rest) required =
      match splitAtLastStar? (dropTerminator (Wire.startByte :: rest)) with
      | none =>
        if required then .error .noSuffix
        else .ok ((dropTerminator (Wire.startByte :: rest)).drop 1)
      | some (checked, claimed) =>
        claim claimed >>= fun value =>
          if ((Checksum.ofSentence checked none).toNat : Int) ≠ value then
            .error (.mismatch (Checksum.ofSentence checked none) value)
          else .ok (checked.drop 1) :=
  rfl

/-- A line that starts with something else is refused. -/
lemma unwrap_of_head_ne {line : Bytes} (h : line.head? ≠ some Wire.startByte) (required : Bool) :
    ∃ f, unwrap line required = .error f := by
  cases line with
  | nil => exact ⟨.empty, rfl⟩
  | cons b rest =>
    refine ⟨.noStart, ?_⟩
    rw [unwrap, List.isEmpty_cons, if_neg Bool.false_ne_true, if_pos h]
    rfl

/-- A line that starts as it should and holds a `*` is a `$`, a body, the last `*` and a claim. -/
lemma exists_parts {line : Bytes} (hhead : line.head? = some Wire.startByte)
    (hstar : Wire.starByte ∈ line) :
    ∃ body claimed, dropTerminator line = Wire.startByte :: body ++ Wire.starByte :: claimed ∧
      Wire.starByte ∉ claimed := by
  obtain ⟨checked, claimed, hparts, hclaimed⟩ :=
    exists_last_of_mem (mem_dropTerminator_iff.2 hstar)
  obtain ⟨ending, hline, -⟩ := exists_ending line
  rw [hline, hparts] at hhead
  cases checked with
  | nil => exact absurd (Option.some.inj hhead) (by decide)
  | cons b body =>
    obtain rfl : b = Wire.startByte := Option.some.inj hhead
    exact ⟨body, claimed, hparts, hclaimed⟩

/-- A line of such parts is unwrapped if its claim is the checksum of the body. -/
lemma unwrap_of_parts {line body claimed : Bytes} {required : Bool}
    (hparts : dropTerminator line = Wire.startByte :: body ++ Wire.starByte :: claimed)
    (hclaimed : Wire.starByte ∉ claimed) :
    unwrap line required = claim claimed >>= fun value =>
      if ((Checksum.ofBody body).toNat : Int) ≠ value then
        .error (.mismatch (Checksum.ofBody body) value)
      else .ok body := by
  obtain ⟨ending, hline, -⟩ := exists_ending line
  obtain ⟨rest, rfl⟩ : ∃ rest, line = Wire.startByte :: rest := by
    rw [hline, hparts]
    exact ⟨_, rfl⟩
  rw [unwrap_cons, hparts, splitAtLastStar?_append hclaimed]
  dsimp only
  rw [Checksum.ofSentence_none, List.drop_one, List.tail_cons]

/-- Apart from its end, a line is a `$`, a body, the last `*` and two bytes that claim the checksum
of the body. -/
structure Sealed (line body claimed : Bytes) : Prop where
  dropTerminator_eq : dropTerminator line = Wire.startByte :: body ++ Wire.starByte :: claimed
  star_notMem : Wire.starByte ∉ claimed
  length_eq : claimed.length = 2
  pair?_eq : Checksum.pair? (Latin.decode claimed) = some ((Checksum.ofBody body).toNat : Int)

/-- A line that holds a `*` is unwrapped to the bodies that it is sealed with. -/
theorem unwrap_eq_ok_iff {line body : Bytes} {required : Bool} (hstar : Wire.starByte ∈ line) :
    unwrap line required = .ok body ↔ ∃ claimed, Sealed line body claimed := by
  constructor
  · intro hok
    by_cases hhead : line.head? = some Wire.startByte
    · obtain ⟨found, claimed, hparts, hclaimed⟩ := exists_parts hhead hstar
      rw [unwrap_of_parts hparts hclaimed] at hok
      obtain ⟨value, hclaim, hok⟩ := bind_eq_ok_iff.1 hok
      by_cases hsum : ((Checksum.ofBody found).toNat : Int) = value
      · rw [if_neg (not_not.2 hsum)] at hok
        obtain rfl : found = body := Except.ok.inj hok
        obtain ⟨hlength, hpair⟩ := claim_eq_ok_iff.1 hclaim
        exact ⟨claimed, hparts, hclaimed, hlength, hsum ▸ hpair⟩
      · rw [if_pos hsum] at hok
        cases hok
    · obtain ⟨f, hf⟩ := unwrap_of_head_ne hhead required
      rw [hf] at hok
      cases hok
  · rintro ⟨claimed, hsealed⟩
    rw [unwrap_of_parts hsealed.dropTerminator_eq hsealed.star_notMem,
      claim_eq_ok_iff.2 ⟨hsealed.length_eq, hsealed.pair?_eq⟩]
    exact if_neg (not_not.2 rfl)

/-- Where a checksum is required, a line without a `*` is refused. -/
lemma mem_of_unwrap_required {line body : Bytes} (hok : unwrap line true = .ok body) :
    Wire.starByte ∈ line := by
  by_contra hstar
  by_cases hhead : line.head? = some Wire.startByte
  · obtain ⟨rest, rfl⟩ : ∃ rest, line = Wire.startByte :: rest :=
      ⟨line.tail, (List.cons_head?_tail hhead).symm⟩
    rw [unwrap_cons, splitAtLastStar?_of_notMem fun h => hstar (mem_dropTerminator_iff.1 h)] at hok
    cases hok
  · obtain ⟨f, hf⟩ := unwrap_of_head_ne hhead true
    rw [hf] at hok
    cases hok

/-- A valid line ends as a line should, and is unwrapped. -/
lemma unwrap_of_isValid {line : Bytes} (hvalid : isValid line = true) :
    line = dropTerminator line ++ Wire.terminator ∧ ∃ body, unwrap line true = .ok body := by
  rw [isValid, Bool.and_eq_true] at hvalid
  obtain ⟨hsuffix, hbody⟩ := hvalid
  constructor
  · obtain ⟨rest, rfl⟩ := List.isSuffixOf_iff_suffix.1 hsuffix
    rw [dropTerminator_append]
  · cases hunwrap : unwrap line true with
    | error f =>
      rw [hunwrap] at hbody
      cases hbody
    | ok body => exact ⟨body, rfl⟩

/-- The one `*` of a sealed line stands before the claim. -/
lemma Sealed.star_notMem_body {line body claimed : Bytes} (h : Sealed line body claimed)
    (hone : line.count Wire.starByte = 1) : Wire.starByte ∉ body := by
  obtain ⟨ending, hline, hending⟩ := exists_ending line
  have hcount : line.count Wire.starByte = body.count Wire.starByte + 1 := by
    have hnone : claimed.count Wire.starByte = 0 := List.count_eq_zero.2 h.star_notMem
    have hrest : ending.count Wire.starByte = 0 := by
      rcases hending with rfl | rfl <;> rfl
    rw [hline, h.dropTerminator_eq, List.count_append, hrest, List.count_append,
      List.count_cons_self, hnone, List.count_cons_of_ne (by decide)]
  exact List.count_eq_zero.1 (by omega)

/-- The claim that a line is unwrapped for is the exclusive or of the body up to its first `*`.  It
is that of the whole body just if the bytes from there on cancel out, and in particular if the line
holds no `*` but the one before the claim.  So no byte of a valid line with one `*` is left out. -/
theorem unwrap_checks_up_to_first_star (line : Bytes) :
    (∀ required body, Wire.starByte ∈ line → unwrap line required = .ok body →
      ∃ claimed, Sealed line body claimed ∧
        Checksum.pair? (Latin.decode claimed)
          = some ((xorOf (body.takeWhile (· != Wire.starByte))).toNat : Int) ∧
        (Checksum.pair? (Latin.decode claimed) = some ((xorOf body).toNat : Int) ↔
          xorOf (body.dropWhile (· != Wire.starByte)) = 0) ∧
        (line.count Wire.starByte = 1 →
          Checksum.pair? (Latin.decode claimed) = some ((xorOf body).toNat : Int))) ∧
    (isValid line = true → line.count Wire.starByte = 1 →
      ∃ body claimed,
        line = Wire.startByte :: body ++ Wire.starByte :: claimed ++ Wire.terminator ∧
        claimed.length = 2 ∧
        Checksum.pair? (Latin.decode claimed) = some ((xorOf body).toNat : Int)) := by
  constructor
  · intro required body hstar hok
    obtain ⟨claimed, hsealed⟩ := (unwrap_eq_ok_iff hstar).1 hok
    have hwhole : Checksum.pair? (Latin.decode claimed) = some ((xorOf body).toNat : Int) ↔
        xorOf (body.dropWhile (· != Wire.starByte)) = 0 := by
      rw [hsealed.pair?_eq, ← Checksum.xorOf_eq_ofBody_iff, Option.some_inj, Int.natCast_inj,
        UInt8.toNat_inj, eq_comm]
    refine ⟨claimed, hsealed, hsealed.pair?_eq, hwhole, fun hone => ?_⟩
    rw [hsealed.pair?_eq, Checksum.ofBody_of_notMem (hsealed.star_notMem_body hone)]
  · intro hvalid hone
    obtain ⟨hline, body, hok⟩ := unwrap_of_isValid hvalid
    obtain ⟨claimed, hsealed⟩ := (unwrap_eq_ok_iff (mem_of_unwrap_required hok)).1 hok
    refine ⟨body, claimed, ?_, hsealed.length_eq, ?_⟩
    · rw [hsealed.dropTerminator_eq] at hline
      exact hline
    · rw [hsealed.pair?_eq, Checksum.ofBody_of_notMem (hsealed.star_notMem_body hone)]

/-- A line with one `*` is checked throughout. -/
theorem unwrap_checks_up_to_first_star_of_acknowledgement :
    let line := Latin.encode "$GPACK,1*43\r\n".toList
    let body := Latin.encode "GPACK,1".toList
    Wire.starByte ∈ line ∧ unwrap line true = .ok body ∧ line.count Wire.starByte = 1 ∧
      isValid line = true ∧ (∃ claimed, Sealed line body claimed ∧
        Checksum.pair? (Latin.decode claimed) = some ((xorOf body).toNat : Int)) ∧
      ∃ body' claimed, line = Wire.startByte :: body' ++ Wire.starByte :: claimed
        ++ Wire.terminator := by
  intro line body
  have hstar : Wire.starByte ∈ line := by decide
  have hok : unwrap line true = .ok body := by decide
  have hone : line.count Wire.starByte = 1 := by decide
  have hvalid : isValid line = true := by decide
  obtain ⟨claimed, hsealed, -, -, hwhole⟩ :=
    (unwrap_checks_up_to_first_star line).1 true body hstar hok
  obtain ⟨body', claimed', hline, -⟩ := (unwrap_checks_up_to_first_star line).2 hvalid hone
  exact ⟨hstar, hok, hone, hvalid, ⟨claimed, hsealed, hwhole hone⟩, body', claimed', hline⟩

/-- What stands between two `*` is handed out unchecked, and the line counts as valid. -/
theorem unwrap_leaves_bytes_unchecked :
    let line := Latin.encode "$GPACK,1*9,OVERRIDE*43\r\n".toList
    let body := Latin.encode "GPACK,1*9,OVERRIDE".toList
    line = Wire.startByte :: body ++ Wire.starByte :: Latin.encode ['4', '3'] ++ Wire.terminator ∧
      unwrap line true = .ok body ∧ isValid line = true ∧
      Checksum.pair? ['4', '3'] = some 67 ∧ (xorOf body).toNat ≠ 67 := by
  decide

end Frame

end Nmea0183
