import Mathlib.Algebra.Group.Nat.Defs
import Mathlib.Tactic.Common
import Nmea0183.Proofs.Wire.Plain

/-!
# Hexadecimal digits

The digits that are written for a number have that number as their value, however far they are
padded (`Hex.value_upper`), they are digits (`Hex.isDigit_of_mem_upper`), and a number below
`16 ^ k` has at most `k` of them beyond the padding (`Hex.length_upper_le`).  A digit is neither a
`*` nor junk at the end of a line.
-/

namespace Nmea0183.Hex

/-- Each digit of a number in upper case has the value that it was written for. -/
lemma digit?_toUpper_digitChar {d : Nat} (hd : d < 16) :
    digit? (Nat.digitChar d).toUpper = some d := by
  revert d
  decide

/-- A further digit at the end counts for itself, and the others for sixteen times as much. -/
lemma value_append_singleton (digits : List Char) (c : Char) :
    value (digits ++ [c]) = 16 * value digits + (digit? c).getD 0 := by
  rw [value, List.foldl_append]
  rfl

/-- The digits of a number have that number as their value. -/
lemma value_toDigits (n : Nat) : value ((Nat.toDigits 16 n).map Char.toUpper) = n := by
  induction n using Nat.strongRecOn with
  | ind n ih =>
    rw [Nat.toDigits_eq_if (by decide)]
    split
    · next hn =>
      have : value [(Nat.digitChar n).toUpper] =
          16 * 0 + (digit? (Nat.digitChar n).toUpper).getD 0 := rfl
      rw [List.map_singleton, this, digit?_toUpper_digitChar hn]
      simp
    · next hn =>
      have hmod : n % 16 < 16 := Nat.mod_lt _ (by decide)
      rw [List.map_append, List.map_singleton, value_append_singleton, ih (n / 16) (by omega),
        digit?_toUpper_digitChar hmod, Option.getD_some]
      omega

/-- Zeros in front do not count. -/
lemma value_replicate_append (n : Nat) (digits : List Char) :
    value (List.replicate n '0' ++ digits) = value digits := by
  induction n with
  | zero => rfl
  | succ n ih => exact ih

/-- The padded digits of a number have that number as their value. -/
theorem value_upper (width n : Nat) : value (upper width n) = n := by
  rw [upper, List.leftpad, value_replicate_append, value_toDigits]

/-- What is written for a number are digits. -/
lemma isDigit_of_mem_upper {width n : Nat} {c : Char} (hc : c ∈ upper width n) :
    isDigit c = true := by
  rcases List.mem_append.1 hc with hc | hc
  · rw [List.eq_of_mem_replicate hc]
    rfl
  · obtain ⟨c', hc', rfl⟩ := List.mem_map.1 hc
    obtain ⟨d, hd, rfl⟩ := Wire.exists_digitChar_of_mem_toDigits (by decide) hc'
    rw [isDigit, digit?_toUpper_digitChar hd]
    rfl

/-- The number of digits is the width, or that of the unpadded digits if they are more. -/
lemma length_upper (width n : Nat) :
    (upper width n).length = max width (Nat.toDigits 16 n).length := by
  rw [upper, List.length_leftpad, List.length_map]

/-- A number of at most `width` digits is written with exactly so many. -/
lemma length_upper_eq {width n : Nat} (hw : 0 < width) (hn : n < 16 ^ width) :
    (upper width n).length = width := by
  rw [length_upper]
  exact Nat.max_eq_left ((Nat.length_toDigits_le_iff (by decide) hw).2 hn)

/-- The characters that are digits stand from `0` on. -/
lemma toNat_ge_of_isDigit {c : Char} (hc : isDigit c = true) : 48 ≤ c.toNat := by
  have hle : ∀ low : Char, 48 ≤ low.toNat → low ≤ c → 48 ≤ c.toNat :=
    fun low hlow h => Nat.le_trans hlow h
  unfold isDigit digit? at hc
  split at hc
  · next h => exact hle '0' (by decide) h.1
  split at hc
  · next h => exact hle 'A' (by decide) h.1
  split at hc
  · next h => exact hle 'a' (by decide) h.1
  · cases hc

/-- The characters that are digits stand up to `f`. -/
lemma toNat_le_of_isDigit {c : Char} (hc : isDigit c = true) : c.toNat ≤ 102 := by
  have hle : ∀ high : Char, high.toNat ≤ 102 → c ≤ high → c.toNat ≤ 102 :=
    fun high hhigh h => Nat.le_trans h hhigh
  unfold isDigit digit? at hc
  split at hc
  · next h => exact hle '9' (by decide) h.2
  split at hc
  · next h => exact hle 'F' (by decide) h.2
  split at hc
  · next h => exact hle 'f' (by decide) h.2
  · cases hc

/-- A digit stands for less than sixteen. -/
lemma digit?_lt {c : Char} {n : Nat} (h : digit? c = some n) : n < 16 := by
  have hle : ∀ high : Char, c ≤ high → c.toNat ≤ high.toNat := fun _ h => h
  unfold digit? at h
  split at h
  · next hc =>
    have := hle '9' hc.2
    have : ('9').toNat = 57 := rfl
    have := Option.some.inj h
    omega
  split at h
  · next hc =>
    have := hle 'F' hc.2
    have : ('F').toNat = 70 := rfl
    have := Option.some.inj h
    omega
  split at h
  · next hc =>
    have := hle 'f' hc.2
    have : ('f').toNat = 102 := rfl
    have := Option.some.inj h
    omega
  · cases h

/-- A digit is no junk at the end of a line. -/
lemma isTrailingJunk_of_isDigit {c : Char} (hc : isDigit c = true) :
    Wire.isTrailingJunk c = false := by
  have := toNat_ge_of_isDigit hc
  simp only [Wire.isTrailingJunk, Bool.or_eq_false_iff, Bool.and_eq_false_iff,
    decide_eq_false_iff_not]
  omega

/-- A digit is no `*`. -/
lemma ne_star_of_isDigit {c : Char} (hc : isDigit c = true) : c ≠ Wire.star := by
  rintro rfl
  exact absurd hc (by decide)

/-- What has a value as a digit is a digit. -/
lemma isDigit_of_digit? {c : Char} {n : Nat} (h : digit? c = some n) : isDigit c = true := by
  rw [isDigit, h]
  rfl

/-- Two digits have the value that they spell. -/
lemma value_of_digits {first second : Char} {m n : Nat} (hfirst : digit? first = some m)
    (hsecond : digit? second = some n) : value [first, second] = 16 * m + n := by
  rw [value]
  simp [hfirst, hsecond]

/-- Two digits have the value of one byte. -/
lemma value_lt_of_isDigit {first second : Char} (hfirst : isDigit first = true)
    (hsecond : isDigit second = true) : value [first, second] < 256 := by
  obtain ⟨m, hm⟩ := Option.isSome_iff_exists.1 hfirst
  obtain ⟨n, hn⟩ := Option.isSome_iff_exists.1 hsecond
  have hm' := digit?_lt hm
  have hn' := digit?_lt hn
  rw [value_of_digits hm hn]
  omega

end Nmea0183.Hex
