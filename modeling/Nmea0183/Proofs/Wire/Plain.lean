import Mathlib.Tactic.Common
import Nmea0183.Hex
import Nmea0183.Text.Trailing
import Nmea0183.Token

/-!
# Plain texts

A text is plain when it is ASCII and holds none of the characters that delimit.  Header tokens
are plain (`Token.plain`), and so are rows of digits of either base (`plain_toDigits`,
`plain_upper`).  A plain text comes back from its bytes (`Latin.decode_encode`).
-/

namespace Nmea0183

namespace Latin

@[simp] lemma encode_cons (c : Char) (text : List Char) :
    encode (c :: text) = byteOf c :: encode text :=
  rfl

/-- A character below `U+0100` is the character of its byte. -/
lemma charOf_byteOf {c : Char} (h : c.toNat < 256) : charOf (byteOf c) = c := by
  have hb : (UInt8.ofNat c.toNat).toNat = c.toNat := by
    rw [UInt8.toNat_ofNat']
    exact Nat.mod_eq_of_lt h
  rw [byteOf, if_pos h, charOf, hb, Char.ofNat_toNat]

/-- The bytes of a text give it back when all its characters are below `U+0100`. -/
lemma decode_encode {text : List Char} (h : ∀ c ∈ text, c.toNat < 256) :
    decode (encode text) = text := by
  rw [decode, encode, List.map_map]
  conv_rhs => rw [← List.map_id text]
  exact List.map_congr_left fun c hc => charOf_byteOf (h c hc)

/-- A character that a text does not hold has no byte among those of the text. -/
lemma byteOf_notMem_encode {c : Char} {text : List Char} (hc : c.toNat < 256)
    (ht : ∀ d ∈ text, d.toNat < 256) (h : c ∉ text) : byteOf c ∉ encode text := by
  intro hmem
  obtain ⟨d, hd, hbyte⟩ := List.mem_map.1 hmem
  have hdc : d = c := by rw [← charOf_byteOf (ht d hd), hbyte, charOf_byteOf hc]
  exact h (hdc ▸ hd)

end Latin

namespace Wire

/-- A character that a field may hold: ASCII, and none that delimits. -/
def isPlain (c : Char) : Bool :=
  Ascii.isAscii c && !isReserved c

/-- A text that a field may hold. -/
def Plain (text : List Char) : Prop :=
  ∀ c ∈ text, isPlain c = true

instance (text : List Char) : Decidable (Plain text) :=
  decidable_of_iff (text.all isPlain = true) List.all_eq_true

/-! ### Building plain texts -/

@[simp] lemma plain_nil : Plain [] := List.forall_mem_nil _

@[simp] lemma plain_cons {c : Char} {text : List Char} :
    Plain (c :: text) ↔ isPlain c = true ∧ Plain text :=
  List.forall_mem_cons

@[simp] lemma plain_append {a b : List Char} : Plain (a ++ b) ↔ Plain a ∧ Plain b :=
  List.forall_mem_append

/-- What is taken from a plain text is plain. -/
lemma Plain.of_subset {a b : List Char} (h : Plain b) (hab : a ⊆ b) : Plain a :=
  fun c hc => h c (hab hc)

/-- A plain character may be repeated. -/
lemma plain_replicate {c : Char} (n : Nat) (h : isPlain c = true) : Plain (List.replicate n c) := by
  intro d hd
  rw [List.eq_of_mem_replicate hd]
  exact h

/-- A plain text may be padded with a plain character. -/
lemma Plain.leftpad {text : List Char} (h : Plain text) (n : Nat) {c : Char}
    (hc : isPlain c = true) : Plain (List.leftpad n c text) :=
  plain_append.2 ⟨plain_replicate _ hc, h⟩

/-- The rest of a plain text after its trailing part is plain. -/
lemma Plain.dropTrailing {text : List Char} (h : Plain text) (p : Char → Bool) :
    Plain (dropTrailing p text) := by
  refine h.of_subset fun c hc => ?_
  rw [← dropTrailing_append_takeTrailing p text]
  exact List.mem_append_left _ hc

/-! ### Digits -/

/-- The characters of a number in a base are digits of that base. -/
lemma exists_digitChar_of_mem_toDigits {b : Nat} (hb : 1 < b) {n : Nat} {c : Char}
    (hc : c ∈ Nat.toDigits b n) : ∃ d < b, c = Nat.digitChar d := by
  induction n using Nat.strongRecOn with
  | ind n ih =>
    rw [Nat.toDigits_eq_if hb] at hc
    split at hc
    · next hn => exact ⟨n, hn, List.mem_singleton.1 hc⟩
    · next hn =>
      rcases List.mem_append.1 hc with hc | hc
      · exact ih (n / b) (Nat.div_lt_self (by omega) hb) hc
      · exact ⟨n % b, Nat.mod_lt _ (by omega), List.mem_singleton.1 hc⟩

/-- Digits up to the hexadecimal ones are plain, in lower case and in upper case. -/
lemma isPlain_digitChar {d : Nat} (hd : d < 16) :
    isPlain (Nat.digitChar d) = true ∧ isPlain (Nat.digitChar d).toUpper = true := by
  revert d
  decide

/-- The text of a natural number in decimal is plain. -/
lemma plain_toDigits (n : Nat) : Plain (Nat.toDigits 10 n) := by
  intro c hc
  obtain ⟨d, hd, rfl⟩ := exists_digitChar_of_mem_toDigits (by decide) hc
  exact (isPlain_digitChar (by omega)).1

/-- The text of a natural number in hexadecimal is plain. -/
lemma plain_upper (width n : Nat) : Plain (Hex.upper width n) := by
  refine Plain.leftpad (fun c hc => ?_) width (by decide)
  obtain ⟨c', hc', rfl⟩ := List.mem_map.1 hc
  obtain ⟨d, hd, rfl⟩ := exists_digitChar_of_mem_toDigits (by decide) hc'
  exact (isPlain_digitChar hd).2

/-! ### Bytes of plain texts -/

/-- A plain character is ASCII. -/
lemma isAscii_of_isPlain {c : Char} (h : isPlain c = true) : Ascii.isAscii c = true :=
  (Bool.and_eq_true_iff.1 h).1

/-- An ASCII character is below `U+0100`. -/
lemma toNat_lt_of_isAscii {c : Char} (h : Ascii.isAscii c = true) : c.toNat < 256 := by
  have : c.toNat < 128 := of_decide_eq_true h
  omega

/-- A plain text comes back from its bytes. -/
lemma Plain.decode_encode {text : List Char} (h : Plain text) :
    Latin.decode (Latin.encode text) = text :=
  Latin.decode_encode fun c hc => toNat_lt_of_isAscii (isAscii_of_isPlain (h c hc))

/-- A plain text holds no character that delimits. -/
lemma Plain.notMem {text : List Char} (h : Plain text) {c : Char} (hc : isReserved c = true) :
    c ∉ text := by
  intro hmem
  have := h c hmem
  simp [isPlain, hc] at this

/-- A character that delimits is below `U+0100`. -/
lemma toNat_lt_of_isReserved {c : Char} (h : isReserved c = true) : c.toNat < 256 := by
  have hreserved : reserved.all (fun c => decide (c.toNat < 256)) = true := by decide
  exact of_decide_eq_true (List.all_eq_true.1 hreserved c (List.contains_iff_mem.1 h))

end Wire

/-- The characters of a header token are plain. -/
lemma Token.plain {kind : TokenKind} (t : Token kind) : Wire.Plain t.chars := by
  intro c hc
  have hc := List.all_eq_true.1 t.allowed c hc
  simp only [isAllowed, Bool.and_eq_true, decide_eq_true_eq, Bool.not_eq_true'] at hc
  obtain ⟨⟨-, hle⟩, hreserved⟩ := hc
  simp only [Wire.isPlain, Ascii.isAscii, hreserved, Bool.not_false, Bool.and_true,
    decide_eq_true_eq]
  omega

end Nmea0183
