import Mathlib.Tactic.Common
import Nmea0183.Proofs.Frame.Parts

/-!
# Junk at the end of a line

Blanks and zero bytes behind a line change nothing of what is received but its size
(`Sentence.ofBytes_append_junk`).  The text of the line is the same, since they are dropped from its
end.  The checksum is computed over the bytes of the line as it came, but no further than the last
`*` of the text, and what is dropped stands behind that.
-/

namespace Nmea0183

namespace Wire

/-- Space, tab, line feed, vertical tab, form feed, carriage return, and the zero byte. -/
def junkBytes : List UInt8 := [0x20, 0x09, 0x0A, 0x0B, 0x0C, 0x0D, 0x00]

/-- What is dropped from the end of a line are the characters of these bytes. -/
lemma isTrailingJunk_charOf_iff (b : UInt8) :
    isTrailingJunk (Latin.charOf b) = true ↔ b ∈ junkBytes := by
  have hbytes : ∀ c : UInt8, b = c ↔ b.toNat = c.toNat := fun c => UInt8.toNat_inj.symm
  simp only [isTrailingJunk, Latin.toNat_charOf, junkBytes, List.mem_cons, List.not_mem_nil,
    or_false, hbytes, Bool.or_eq_true, Bool.and_eq_true, decide_eq_true_eq]
  change _ ↔ b.toNat = 32 ∨ b.toNat = 9 ∨ b.toNat = 10 ∨ b.toNat = 11 ∨ b.toNat = 12 ∨
    b.toNat = 13 ∨ b.toNat = 0
  omega

end Wire

namespace Sentence

/-- The sentence of a line that is longer by some bytes and has the same parts. -/
def grown (s : Sentence) (n : Nat) : Sentence :=
  { s with size := s.size + n }

section Junk

variable {junk : Bytes}

/-- The text of a line does not depend on the junk behind it. -/
lemma content_append_junk (h : ∀ b ∈ junk, b ∈ Wire.junkBytes) (line : Bytes) :
    content (line ++ junk) = content line := by
  have hjunk : ∀ c ∈ Latin.decode junk, Wire.isTrailingJunk c = true := by
    intro c hc
    obtain ⟨b, hb, rfl⟩ := List.mem_map.1 hc
    exact (Wire.isTrailingJunk_charOf_iff b).2 (h b hb)
  rw [content, content, Latin.decode_append, dropTrailing_append_of_all hjunk]

/-- The text of a line is no longer than the line. -/
lemma length_content_le (line : Bytes) : (content line).length ≤ line.length := by
  obtain ⟨junk, hline, -⟩ := exists_junk line
  have hlength := congrArg List.length hline
  rw [Latin.length_decode, List.length_append] at hlength
  omega

/-- The checksum up to the last `*` is that of the line without what stands behind it. -/
lemma ofSentence_append (line junk : Bytes) :
    Checksum.ofSentence (line ++ junk) (some (lengthToLastStar (content line))) =
      Checksum.ofSentence line (some (lengthToLastStar (content line))) := by
  have hle : lengthToLastStar (content line) ≤ line.length :=
    Nat.le_trans (Nat.sub_le _ _) (length_content_le line)
  have hlonger : lengthToLastStar (content line) ≤ (line ++ junk).length := by
    rw [List.length_append]
    exact Nat.le_add_right_of_le hle
  rw [Checksum.ofSentence_take _ hlonger, Checksum.ofSentence_take _ hle,
    List.take_append_of_le_length hle]

/-- A line is received as without the junk behind it, but for its size. -/
theorem ofBytes_append_junk (h : ∀ b ∈ junk, b ∈ Wire.junkBytes) (line : Bytes) :
    ofBytes (line ++ junk) = (ofBytes line).grown junk.length := by
  rw [ofBytes, content_append_junk h, List.length_append, ofSentence_append]
  rfl

end Junk

end Sentence

end Nmea0183
