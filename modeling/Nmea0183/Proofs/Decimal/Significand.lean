import Mathlib.Algebra.Order.Field.Power
import Mathlib.Algebra.Order.Field.Rat
import Mathlib.Tactic.Linarith
import Mathlib.Tactic.Positivity
import Mathlib.Tactic.Ring
import Nmea0183.Decimal.Significand

/-!
# Significands are near

Rounding moves a quotient by no more than one half, and to the integer that it is nearer to than one
half (`abs_roundHalfEven_sub_le`, `roundHalfEven_eq_of_near`).  The exponent of a count of steps
is that of the greatest power of ten that is not above it (`decimalExponent_bounds`), so a
significand has no more digits than were asked for, and it stands for a decimal that is as near as
these digits allow (`significand_near`).
-/

namespace Nmea0183.Decimal

open Binary64 (stepsPerUnit)

/-! ### Rounding -/

/-- In whole numbers, twice the rounded quotient is off by no more than the divisor. -/
lemma roundHalfEven_bounds (num : Nat) {den : Nat} (hden : 0 < den) :
    2 * num ≤ 2 * roundHalfEven num den * den + den ∧
      2 * roundHalfEven num den * den ≤ 2 * num + den := by
  have hparts := Nat.div_add_mod num den
  have hrest := Nat.mod_lt num hden
  unfold roundHalfEven
  dsimp only
  split <;> constructor <;> grind

/-- Rounding moves a quotient by at most one half. -/
lemma abs_roundHalfEven_sub_le (num : Nat) {den : Nat} (hden : 0 < den) :
    |(roundHalfEven num den : ℚ) - num / den| ≤ 1 / 2 := by
  have hpos : (0 : ℚ) < den := by exact_mod_cast hden
  obtain ⟨hlow, hhigh⟩ := roundHalfEven_bounds num hden
  have hlow : 2 * (num : ℚ) ≤ 2 * roundHalfEven num den * den + den := by exact_mod_cast hlow
  have hhigh : 2 * (roundHalfEven num den : ℚ) * den ≤ 2 * num + den := by exact_mod_cast hhigh
  rw [abs_le]
  constructor
  · rw [neg_le_sub_iff_le_add, div_le_iff₀ hpos]
    linarith
  · rw [sub_le_iff_le_add, ← sub_le_iff_le_add', le_div_iff₀ hpos]
    linarith

/-- A quotient is rounded to the integer that it is nearer to than one half. -/
lemma roundHalfEven_eq_of_near {num den n : Nat} (hlow : 2 * n * den < 2 * num + den)
    (hhigh : 2 * num < 2 * n * den + den) : roundHalfEven num den = n := by
  have hden : 0 < den := by omega
  obtain ⟨hbelow, habove⟩ := roundHalfEven_bounds num hden
  have hle : roundHalfEven num den < n + 1 := by
    refine Nat.lt_of_mul_lt_mul_right (a := 2 * den) ?_
    linarith
  have hge : n < roundHalfEven num den + 1 := by
    refine Nat.lt_of_mul_lt_mul_right (a := 2 * den) ?_
    linarith
  omega

/-! ### Rows of digits -/

/-- A positive number is at least the power of ten that its first digit counts. -/
lemma pow_length_toDigits_le {n : Nat} (hn : 0 < n) :
    10 ^ ((Nat.toDigits 10 n).length - 1) ≤ n := by
  by_contra hlt
  have hne : (Nat.toDigits 10 n).length - 1 ≠ 0 := by
    intro hzero
    rw [hzero] at hlt
    omega
  have hshort := (Nat.length_toDigits_le_iff (by decide) (Nat.pos_of_ne_zero hne)).2
    (Nat.lt_of_not_le hlt)
  omega

/-- A number is below the power of ten behind its digits. -/
lemma lt_pow_length_toDigits (n : Nat) : n < 10 ^ (Nat.toDigits 10 n).length :=
  (Nat.length_toDigits_le_iff (by decide) Nat.length_toDigits_pos).1 (Nat.le_refl _)

/-! ### Exponents -/

/-- What a count of steps amounts to. -/
def amount (steps : Nat) : ℚ :=
  steps / stepsPerUnit

/-- The smallest positive number is not below `10 ^ (-324)`. -/
lemma stepsPerUnit_le {steps : Nat} (h : 0 < steps) : stepsPerUnit ≤ steps * Nat.pow 10 324 := by
  have hone : stepsPerUnit ≤ Nat.pow 10 324 := by decide +kernel
  generalize Nat.pow 10 324 = n at hone ⊢
  exact Nat.le_trans hone (Nat.le_mul_of_pos_left n h)

/-- A count of steps that is positive amounts to more than nothing. -/
lemma amount_pos {steps : Nat} (h : 0 < steps) : 0 < amount steps := by
  have hsteps : (0 : ℚ) < steps := by exact_mod_cast h
  have hunit : (0 : ℚ) < stepsPerUnit := by exact_mod_cast Binary64.stepsPerUnit_pos
  exact div_pos hsteps hunit

/-- The digits of the whole part of a count of steps, in units of a power of ten that is not above
it, tell the powers of ten that it lies between. -/
lemma amount_bounds {steps k : Nat} (h : stepsPerUnit ≤ steps * Nat.pow 10 k) :
    let digits := (Nat.toDigits 10 (steps * Nat.pow 10 k / stepsPerUnit)).length
    (10 : ℚ) ^ ((digits : Int) - (k + 1)) ≤ amount steps ∧
      amount steps < (10 : ℚ) ^ ((digits : Int) - k) := by
  intro digits
  have hwhole : 0 < steps * Nat.pow 10 k / stepsPerUnit :=
    Nat.div_pos h Binary64.stepsPerUnit_pos
  have hlow : 10 ^ (digits - 1) * stepsPerUnit ≤ steps * 10 ^ k :=
    (Nat.le_div_iff_mul_le Binary64.stepsPerUnit_pos).1 (pow_length_toDigits_le hwhole)
  have hhigh : steps * 10 ^ k < 10 ^ digits * stepsPerUnit :=
    (Nat.div_lt_iff_lt_mul Binary64.stepsPerUnit_pos).1 (lt_pow_length_toDigits _)
  have hunit : (0 : ℚ) < stepsPerUnit := by exact_mod_cast Binary64.stepsPerUnit_pos
  have hfactor : (0 : ℚ) < 10 ^ k := by positivity
  have hfirst : (digits : Int) - (k + 1) = ((digits - 1 : Nat) : Int) - k := by
    have hpos : 0 < digits := Nat.length_toDigits_pos
    omega
  rw [hfirst, zpow_sub₀ (by norm_num), zpow_sub₀ (by norm_num)]
  simp only [zpow_natCast]
  rw [amount, div_le_div_iff₀ hfactor hunit, div_lt_div_iff₀ hunit hfactor]
  exact ⟨by exact_mod_cast hlow, by exact_mod_cast hhigh⟩

/-- A positive count of steps lies between the powers of ten that its exponent gives. -/
theorem decimalExponent_bounds {steps : Nat} (h : 0 < steps) :
    (10 : ℚ) ^ decimalExponent steps ≤ amount steps ∧
      amount steps < (10 : ℚ) ^ (decimalExponent steps + 1) := by
  have hbounds := amount_bounds (stepsPerUnit_le h)
  unfold decimalExponent
  dsimp only at hbounds
  generalize (Nat.toDigits 10 (steps * Nat.pow 10 324 / stepsPerUnit)).length = digits at hbounds ⊢
  have hlow : (digits : Int) - 325 = digits - ((324 : Nat) + 1) := by omega
  have hhigh : (digits : Int) - 325 + 1 = digits - (324 : Nat) := by omega
  rw [hhigh, hlow]
  exact hbounds

/-! ### Significands -/

/-- A count of steps in units of a power of ten is the quotient of the two. -/
lemma inUnitsOf_eq (steps : Nat) (exponent : Int) :
    0 < (inUnitsOf steps exponent).2 ∧
      ((inUnitsOf steps exponent).1 : ℚ) / (inUnitsOf steps exponent).2 =
        amount steps / 10 ^ exponent := by
  have hunit := Binary64.stepsPerUnit_pos
  unfold inUnitsOf amount
  generalize stepsPerUnit = unit at hunit ⊢
  split
  · next hexponent =>
    refine ⟨Nat.mul_pos hunit (Nat.pow_pos (by decide)), ?_⟩
    obtain ⟨k, rfl⟩ := Int.eq_ofNat_of_zero_le hexponent
    dsimp only
    rw [Int.toNat_natCast, zpow_natCast, div_div]
    push_cast [Nat.pow_eq]
    rfl
  · next hexponent =>
    refine ⟨hunit, ?_⟩
    obtain ⟨k, hk⟩ := Int.eq_ofNat_of_zero_le (show 0 ≤ -exponent by omega)
    obtain rfl : exponent = -(k : Int) := by omega
    dsimp only
    rw [neg_neg, Int.toNat_natCast, zpow_neg, zpow_natCast, div_inv_eq_mul,
      div_mul_eq_mul_div]
    push_cast [Nat.pow_eq]
    rfl

/-- The decimal that a significand with some places stands for. -/
def Significand.size (s : Significand) (places : Nat) : ℚ :=
  s.digits * 10 ^ (s.exponent - places)

/-- The first digit of a significand that is rounded up to the next power of ten counts ten times
as much. -/
lemma Significand.size_carry (places : Nat) (exponent : Int) :
    size ⟨Nat.pow 10 places, exponent + 1⟩ places =
      size ⟨Nat.pow 10 (places + 1), exponent⟩ places := by
  have hexponent : exponent + 1 - places = (exponent - places) + 1 := by omega
  have hdigits : Nat.pow 10 (places + 1) = Nat.pow 10 places * 10 := rfl
  rw [size, size, hexponent, zpow_add_one₀ (by norm_num), hdigits]
  push_cast
  ring

/-- The significand of a positive count of steps. -/
lemma significand_of_pos {places steps : Nat} (h : 0 < steps) {exponent : Int} {num den : Nat}
    (hexponent : decimalExponent steps = exponent)
    (hquotient : inUnitsOf steps (exponent - places) = (num, den)) :
    significand places steps =
      if roundHalfEven num den = Nat.pow 10 (places + 1) then
        ⟨Nat.pow 10 places, exponent + 1⟩
      else ⟨roundHalfEven num den, exponent⟩ := by
  unfold significand
  rw [if_neg (Nat.ne_of_gt h), hexponent]
  dsimp only
  rw [hquotient]

/-- Rounding to some places finds a decimal that is as near as these places allow, and it has no
more than one digit besides them. -/
theorem significand_near (places : Nat) {steps : Nat} (h : 0 < steps) :
    (significand places steps).digits < 10 ^ (places + 1) ∧
      |(significand places steps).size places - amount steps| ≤
        amount steps / (2 * 10 ^ places) := by
  obtain ⟨hlow, hhigh⟩ := decimalExponent_bounds h
  obtain ⟨exponent, hexponent⟩ : ∃ exponent, decimalExponent steps = exponent := ⟨_, rfl⟩
  obtain ⟨⟨num, den⟩, hunits⟩ : ∃ quotient, inUnitsOf steps (exponent - places) = quotient :=
    ⟨_, rfl⟩
  obtain ⟨hden, hquotient⟩ := inUnitsOf_eq steps (exponent - places)
  rw [hunits] at hden hquotient
  rw [hexponent] at hlow hhigh
  rw [significand_of_pos h hexponent hunits]
  have hrounded := abs_roundHalfEven_sub_le num hden
  rw [hquotient] at hrounded
  generalize roundHalfEven num den = digits at hrounded ⊢
  -- The unit of the last digit, of which the count of steps holds `10 ^ places` at least and fewer
  -- than ten times as many.
  have hunit : (0 : ℚ) < 10 ^ (exponent - places) := by positivity
  have hexact : exponent = (exponent - places) + places := by omega
  have hlow : (10 : ℚ) ^ (exponent - places) * 10 ^ places ≤ amount steps := by
    rw [hexact, zpow_add₀ (by norm_num), zpow_natCast] at hlow
    exact hlow
  have hhigh : amount steps < (10 : ℚ) ^ (exponent - places) * 10 ^ (places + 1) := by
    rw [hexact, zpow_add_one₀ (by norm_num), zpow_add₀ (by norm_num), zpow_natCast] at hhigh
    calc
      amount steps < _ := hhigh
      _ = _ := by ring
  have hnear : |digits * 10 ^ (exponent - places) - amount steps| ≤
      amount steps / (2 * 10 ^ places) := by
    have hscaled : (digits : ℚ) * 10 ^ (exponent - places) - amount steps =
        (digits - amount steps / 10 ^ (exponent - places)) * 10 ^ (exponent - places) := by
      rw [sub_mul, div_mul_cancel₀ _ hunit.ne']
    calc
      |digits * 10 ^ (exponent - places) - amount steps|
        = |digits - amount steps / 10 ^ (exponent - places)| * 10 ^ (exponent - places) := by
          rw [hscaled, abs_mul, abs_of_pos hunit]
      _ ≤ 1 / 2 * 10 ^ (exponent - places) := mul_le_mul_of_nonneg_right hrounded hunit.le
      _ ≤ amount steps / (2 * 10 ^ places) := by
        rw [le_div_iff₀ (by positivity)]
        linarith
  have hle : digits ≤ 10 ^ (places + 1) := by
    by_contra hlt
    have hmore : (10 : ℚ) ^ (places + 1) + 1 ≤ digits := by exact_mod_cast Nat.lt_of_not_le hlt
    have hless : amount steps / 10 ^ (exponent - places) < 10 ^ (places + 1) := by
      rw [div_lt_iff₀' hunit]
      exact hhigh
    have habove := (abs_le.1 hrounded).2
    linarith
  split
  · next hcarry =>
    rw [Significand.size_carry, ← hcarry]
    exact ⟨Nat.pow_lt_pow_right (by decide) (Nat.lt_succ_self _), hnear⟩
  · next hcarry => exact ⟨Nat.lt_of_le_of_ne hle hcarry, hnear⟩

/-- A significand has no more digits than one besides its places. -/
lemma digits_significand_lt (places steps : Nat) :
    (significand places steps).digits < 10 ^ (places + 1) := by
  rcases Nat.eq_zero_or_pos steps with rfl | h
  · exact Nat.pow_pos (by decide)
  · exact (significand_near places h).1

end Nmea0183.Decimal
