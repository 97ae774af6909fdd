import Mathlib.Algebra.Order.Field.Power
import Mathlib.Algebra.Order.Field.Rat
import Mathlib.Tactic.Linarith
import Mathlib.Tactic.Positivity
import Mathlib.Tactic.Ring
import Nmea0183.Proofs.Decimal.Text

/-!
# Seventeen digits determine a number

The size of a finite number is a mantissa of at most 53 bits times a power of two, and its pattern
counts on through the powers of two (`Binary64.exists_canonical`).  A fraction that is nearer to the
size than one part in `2 ^ 54` of it therefore rounds to the number, also just below a power of two,
where the spacing is half of what it is above (`Binary64.ofRatio_of_near`).  Seventeen digits are as
near as that (`Binary64.WrittenAs.value_of_general`).
-/

namespace Nmea0183

open Binary64 (stepsPerUnit)
open Decimal

namespace Binary64

/-! ### Patterns -/

/-- A finite number is a mantissa times a power of two, and its pattern counts the powers of two
that are passed over. -/
structure Canonical (x : Binary64) (k m : Nat) : Prop where
  pattern_eq : x.magnitude.val = k * binade + m
  steps_eq : x.steps = m * 2 ^ k
  lt : m < 2 * binade
  normal : k = 0 ∨ binade ≤ m
  le : k ≤ 2045

/-- Every finite number has a mantissa. -/
lemma exists_canonical {x : Binary64} (h : x.isFinite = true) : ∃ k m, x.Canonical k m := by
  have hpattern : x.magnitude.val < 2047 * binade := of_decide_eq_true h
  by_cases hsmall : x.magnitude.val < binade
  · refine ⟨0, x.magnitude.val, by omega, ?_, by omega, Or.inl rfl, by omega⟩
    rw [steps, if_pos hsmall, Nat.pow_zero, Nat.mul_one]
  · have hparts := Nat.div_add_mod x.magnitude.val binade
    have hrest : x.magnitude.val % binade < binade := Nat.mod_lt _ (by decide)
    have hfirst : 1 ≤ x.magnitude.val / binade :=
      (Nat.le_div_iff_mul_le (by decide)).2 (by omega)
    have hlast : x.magnitude.val / binade < 2047 :=
      (Nat.div_lt_iff_lt_mul (by decide)).2 hpattern
    obtain ⟨k, hk⟩ := Nat.exists_eq_add_of_le' hfirst
    refine ⟨k, binade + x.magnitude.val % binade, ?_, ?_, by omega,
      Or.inr (Nat.le_add_right _ _), by omega⟩
    · rw [hk, Nat.mul_succ, Nat.mul_comm] at hparts
      omega
    · rw [steps, if_neg hsmall, hk, Nat.add_sub_cancel]
      rfl

/-- The number of a finite pattern. -/
lemma ofPattern_magnitude {x : Binary64} (h : x.isFinite = true) :
    ofPattern x.negative x.magnitude.val = x := by
  obtain ⟨negative, magnitude⟩ := x
  have hmagnitude : magnitude.val < infinityPattern := of_decide_eq_true h
  rw [ofPattern, mk.injEq]
  exact ⟨rfl, Fin.ext (Nat.min_eq_left (Nat.le_of_lt hmagnitude))⟩

/-! ### Fractions -/

/-- The bits of a quotient tell how many units of a power of two it holds. -/
lemma le_log2_div_iff {num den j : Nat} (hden : 0 < den) (hj : 0 < j) (k : Nat) :
    j + k ≤ (num / den).log2 ↔ 2 ^ j * (den * 2 ^ k) ≤ num := by
  have hquotient : 2 ^ (j + k) ≤ num / den ↔ 2 ^ j * (den * 2 ^ k) ≤ num := by
    rw [Nat.le_div_iff_mul_le hden, Nat.pow_add, Nat.mul_assoc, Nat.mul_comm _ den]
  rw [← hquotient]
  by_cases hzero : num / den = 0
  · have hpos := Nat.two_pow_pos (j + k)
    rw [hzero, Nat.log2_zero]
    omega
  · exact Nat.le_log2 hzero

section Fractions

variable {x : Binary64} {k m num den : Nat}

/-- A quotient is nearer to a mantissa of `2 ^ k` steps than one part in `2 ^ 54` of it. -/
structure Near (k m num den : Nat) : Prop where
  den_pos : 0 < den
  below : m * (den * 2 ^ k) * 2 ^ 54 < num * 2 ^ 54 + m * (den * 2 ^ k)
  above : num * 2 ^ 54 < m * (den * 2 ^ k) * 2 ^ 54 + m * (den * 2 ^ k)

/-- A quotient that is near the size of a number has as many bits as the size, or one less when the
mantissa is the first with its bits. -/
lemma Near.dropped_cases (hx : x.Canonical k m) (h : Near k m num den) :
    (num / den).log2 + 1 - 53 = k ∨ (num / den).log2 + 1 - 53 + 1 = k ∧ m = binade := by
  obtain ⟨hden, hbelow, habove⟩ := h
  have hmost : (m + 1) * (den * 2 ^ k) ≤ 2 ^ 53 * (den * 2 ^ k) := Nat.mul_le_mul_right _ hx.lt
  rw [Nat.succ_mul] at hmost
  have hupper : ¬ 53 + k ≤ (num / den).log2 := by
    rw [le_log2_div_iff hden (by decide)]
    omega
  rcases Nat.eq_zero_or_pos k with rfl | hk
  · exact Or.inl (by omega)
  have hnormal : binade ≤ m := hx.normal.resolve_left (Nat.ne_of_gt hk)
  have hfirst : 2 ^ 52 * (den * 2 ^ k) ≤ m * (den * 2 ^ k) := Nat.mul_le_mul_right _ hnormal
  have hlower : 51 + k ≤ (num / den).log2 := by
    rw [le_log2_div_iff hden (by decide)]
    omega
  by_cases hsame : 52 + k ≤ (num / den).log2
  · exact Or.inl (by omega)
  · refine Or.inr ⟨by omega, Nat.le_antisymm (Nat.le_of_not_lt fun hmore => ?_) hnormal⟩
    have hsecond : (2 ^ 52 + 1) * (den * 2 ^ k) ≤ m * (den * 2 ^ k) :=
      Nat.mul_le_mul_right _ hmore
    rw [le_log2_div_iff hden (by decide)] at hsame
    omega

/-- What is near the size of a number is rounded to its pattern. -/
lemma Near.pattern_eq (hx : x.Canonical k m) (h : Near k m num den) :
    let dropped := (num / den).log2 + 1 - 53
    dropped * binade + roundHalfEven num (den * Nat.pow 2 dropped) = x.magnitude.val := by
  intro dropped
  have hcases : dropped = k ∨ dropped + 1 = k ∧ m = binade := h.dropped_cases hx
  obtain ⟨hden, hbelow, habove⟩ := h
  rw [hx.pattern_eq]
  rcases hcases with hsame | ⟨hnext, hfirst⟩
  · have hmost : m * (den * 2 ^ k) ≤ 2 ^ 53 * (den * 2 ^ k) :=
      Nat.mul_le_mul_right _ (Nat.le_of_lt hx.lt)
    have hrounded : roundHalfEven num (den * 2 ^ k) = m :=
      roundHalfEven_eq_of_near (by rw [Nat.mul_assoc]; omega) (by rw [Nat.mul_assoc]; omega)
    rw [hsame]
    exact congrArg (k * binade + ·) hrounded
  · -- Below the power of two the steps are half as large, and there are twice as many of them.
    have hhalf : m * (den * 2 ^ k) = 2 * 2 ^ 52 * (den * 2 ^ dropped) := by
      rw [hfirst, ← hnext, Nat.pow_succ, binade]
      ring
    have hrounded : roundHalfEven num (den * 2 ^ dropped) = 2 * 2 ^ 52 :=
      roundHalfEven_eq_of_near (by rw [Nat.mul_assoc]; omega) (by rw [Nat.mul_assoc]; omega)
    have hpattern : dropped * binade + 2 * 2 ^ 52 = k * binade + m := by
      rw [hfirst, ← hnext, binade]
      omega
    rw [← hpattern]
    exact congrArg (dropped * binade + ·) hrounded

/-- A quotient that differs from the size of a number by less than one part in `2 ^ 54` is near its
mantissa. -/
lemma near_of_abs_lt (hx : x.Canonical k m) (hden : 0 < den)
    (h : |(num : ℚ) / den - amount x.steps| * 2 ^ 54 < amount x.steps) :
    Near k m (num * stepsPerUnit) den := by
  have hunit := stepsPerUnit_pos
  rw [amount, hx.steps_eq] at h
  generalize stepsPerUnit = unit at hunit h ⊢
  have hden' : (0 : ℚ) < den := by exact_mod_cast hden
  have hunit' : (0 : ℚ) < unit := by exact_mod_cast hunit
  rw [div_sub_div _ _ hden'.ne' hunit'.ne', abs_div, abs_of_pos (mul_pos hden' hunit'),
    div_mul_eq_mul_div, div_lt_div_iff₀ (mul_pos hden' hunit') hunit', ← mul_assoc] at h
  have h := lt_of_mul_lt_mul_right h hunit'.le
  have hbelow := neg_abs_le (num * unit - den * (m * 2 ^ k : Nat) : ℚ)
  have habove := le_abs_self (num * unit - den * (m * 2 ^ k : Nat) : ℚ)
  have hsize : ((m * (den * 2 ^ k) : Nat) : ℚ) = den * (m * 2 ^ k : Nat) := by
    push_cast
    ring
  refine ⟨hden, ?_, ?_⟩
  · have hlt : ((m * (den * 2 ^ k) : Nat) : ℚ) * 2 ^ 54 <
        (num * unit : Nat) * 2 ^ 54 + (m * (den * 2 ^ k) : Nat) := by
      rw [hsize]
      push_cast at *
      linarith
    exact_mod_cast hlt
  · have hlt : ((num * unit : Nat) : ℚ) * 2 ^ 54 <
        (m * (den * 2 ^ k) : Nat) * 2 ^ 54 + (m * (den * 2 ^ k) : Nat) := by
      rw [hsize]
      push_cast at *
      linarith
    exact_mod_cast hlt

/-- The number nearest to what differs from the size of a finite number by less than one part in
`2 ^ 54` is the number itself. -/
theorem ofRatio_of_near (hx : x.isFinite = true) (hden : 0 < den)
    (h : |(num : ℚ) / den - amount x.steps| * 2 ^ 54 < amount x.steps) :
    ofRatio x.negative num den = x := by
  obtain ⟨k, m, hcanonical⟩ := exists_canonical hx
  have hpattern := (near_of_abs_lt hcanonical hden h).pattern_eq hcanonical
  unfold ofRatio
  dsimp only at hpattern ⊢
  rw [hpattern, ofPattern_magnitude hx]

end Fractions

/-! ### Decimals -/

/-- A count of steps is not below a power of ten that is no more than it in whole numbers. -/
lemma zpow_le_amount {steps k : Nat} (h : stepsPerUnit ≤ steps * Nat.pow 10 k) :
    (10 : ℚ) ^ (-(k : Int)) ≤ amount steps := by
  have hunit : (0 : ℚ) < stepsPerUnit := by exact_mod_cast stepsPerUnit_pos
  have hle : (stepsPerUnit : ℚ) ≤ steps * 10 ^ k := by exact_mod_cast h
  rw [amount, zpow_neg, zpow_natCast, le_div_iff₀ hunit, inv_mul_le_iff₀ (by positivity)]
  linarith

/-- A count of steps is below a power of ten that is more than it in whole numbers. -/
lemma amount_lt_zpow {steps k : Nat} (h : steps < Nat.pow 10 k * stepsPerUnit) :
    amount steps < (10 : ℚ) ^ (k : Int) := by
  have hunit : (0 : ℚ) < stepsPerUnit := by exact_mod_cast stepsPerUnit_pos
  rw [amount, zpow_natCast, div_lt_iff₀ hunit]
  exact_mod_cast h

/-- A canonical size is below 53 bits of the greatest step there may be. -/
lemma Canonical.steps_lt {x : Binary64} {k m : Nat} (h : x.Canonical k m) {n bound : Nat}
    (hk : k ≤ n) (hbound : 2 ^ 53 * Nat.pow 2 n ≤ bound) : x.steps < bound := by
  have hpow : 2 ^ k ≤ Nat.pow 2 n := Nat.pow_le_pow_right (by decide) hk
  calc
    x.steps = m * 2 ^ k := h.steps_eq
    _ < 2 ^ 53 * 2 ^ k := Nat.mul_lt_mul_of_pos_right h.lt (Nat.two_pow_pos k)
    _ ≤ 2 ^ 53 * Nat.pow 2 n := Nat.mul_le_mul_left _ hpow
    _ ≤ bound := hbound

/-- No finite number reaches `10 ^ 309`. -/
lemma steps_lt {x : Binary64} (h : x.isFinite = true) :
    x.steps < Nat.pow 10 309 * stepsPerUnit := by
  obtain ⟨k, m, hx⟩ := exists_canonical h
  exact hx.steps_lt hx.le (by decide +kernel)

/-- A decimal lies between the powers of ten that the place of its first digit gives. -/
lemma zpow_places {digits : Nat} (h : 0 < digits) (exponent : Int) :
    let places : Int := (Nat.toDigits 10 digits).length + exponent
    (10 : ℚ) ^ (places - 1) ≤ digits * 10 ^ exponent ∧
      (digits : ℚ) * 10 ^ exponent < 10 ^ places := by
  intro places
  have hunit : (0 : ℚ) < 10 ^ exponent := by positivity
  have hpos : 0 < (Nat.toDigits 10 digits).length := Nat.length_toDigits_pos
  have hfirst : places - 1 = ((Nat.toDigits 10 digits).length - 1 : Nat) + exponent := by omega
  have hlow : (10 : ℚ) ^ ((Nat.toDigits 10 digits).length - 1) ≤ digits := by
    exact_mod_cast pow_length_toDigits_le h
  have hhigh : (digits : ℚ) < 10 ^ (Nat.toDigits 10 digits).length := by
    exact_mod_cast lt_pow_length_toDigits digits
  constructor
  · rw [hfirst, zpow_add₀ (by norm_num), zpow_natCast]
    exact mul_le_mul_of_nonneg_right hlow hunit.le
  · rw [zpow_add₀ (by norm_num), zpow_natCast]
    exact mul_lt_mul_of_pos_right hhigh hunit

section Decimals

variable {x : Binary64} {digits : Nat} {exponent : Int}

/-- A decimal that differs from the size of a finite number by less than one part in `2 ^ 54` is
positive, and the place of its first digit is neither so far up nor so far down that the decimal
would be cut off. -/
lemma places_of_near (hx : x.isFinite = true)
    (h : |(digits : ℚ) * 10 ^ exponent - amount x.steps| * 2 ^ 54 < amount x.steps) :
    let places : Int := (Nat.toDigits 10 digits).length + exponent
    0 < digits ∧ ¬ 311 < places ∧ ¬ places < -330 := by
  intro places
  have hbelow := neg_abs_le ((digits : ℚ) * 10 ^ exponent - amount x.steps)
  have habove := le_abs_self ((digits : ℚ) * 10 ^ exponent - amount x.steps)
  have hsteps : 0 < x.steps := by
    refine Nat.pos_of_ne_zero fun hzero => ?_
    rw [hzero, amount, Nat.cast_zero, zero_div] at h
    linarith [abs_nonneg ((digits : ℚ) * 10 ^ exponent - 0)]
  have hdigits : 0 < digits := by
    refine Nat.pos_of_ne_zero fun hzero => ?_
    rw [hzero, Nat.cast_zero, zero_mul] at h hbelow
    linarith [amount_pos hsteps]
  obtain ⟨hfirst, hlast⟩ := zpow_places hdigits exponent
  have hlow := zpow_le_amount (stepsPerUnit_le hsteps)
  have hhigh := amount_lt_zpow (steps_lt hx)
  have hten : ∀ k : Int, (10 : ℚ) ^ (k + 1) = 10 ^ k * 10 := zpow_add_one₀ (by norm_num)
  -- The decimal is less than twice the size, and the size less than twice the decimal.
  have hlarge : (10 : ℚ) ^ (places - 1) < 10 ^ (((309 : Nat) : Int) + 1) := by
    rw [hten]
    linarith
  have hsmall : (10 : ℚ) ^ (-((324 : Nat) : Int)) < 10 ^ (places + 1) := by
    rw [hten]
    linarith
  rw [zpow_lt_zpow_iff_right₀ (by norm_num)] at hlarge hsmall
  exact ⟨hdigits, by omega, by omega⟩

/-- The number nearest to a decimal that differs from the size of a finite number by less than one
part in `2 ^ 54` is the number itself. -/
theorem ofDecimal_of_near (hx : x.isFinite = true)
    (h : |(digits : ℚ) * 10 ^ exponent - amount x.steps| * 2 ^ 54 < amount x.steps) :
    ofDecimal x.negative digits exponent = x := by
  obtain ⟨hdigits, hlarge, hsmall⟩ := places_of_near hx h
  unfold ofDecimal
  dsimp only at hlarge hsmall ⊢
  rw [if_neg (Nat.ne_of_gt hdigits), if_neg hlarge, if_neg hsmall]
  split
  · next hexponent =>
    obtain ⟨k, rfl⟩ := Int.eq_ofNat_of_zero_le hexponent
    refine ofRatio_of_near hx Nat.one_pos ?_
    rw [zpow_natCast] at h
    rw [Int.toNat_natCast, Nat.cast_one, div_one]
    exact_mod_cast h
  · next hexponent =>
    obtain ⟨k, hk⟩ := Int.eq_ofNat_of_zero_le (show 0 ≤ -exponent by omega)
    obtain rfl : exponent = -(k : Int) := by omega
    refine ofRatio_of_near hx (Nat.pow_pos (by decide)) ?_
    rw [zpow_neg, zpow_natCast, ← div_eq_mul_inv] at h
    rw [neg_neg, Int.toNat_natCast]
    exact_mod_cast h

end Decimals

/-! ### Coming back -/

variable {x : Binary64}

/-- A number without size is the zero of its sign. -/
lemma eq_zero_of_steps (hx : x.isFinite = true) (hsteps : x.steps = 0) : zero x.negative = x := by
  obtain ⟨k, m, hcanonical⟩ := exists_canonical hx
  have hm : m = 0 := by
    have hproduct := hcanonical.steps_eq
    rw [hsteps] at hproduct
    exact (Nat.mul_eq_zero.1 hproduct.symm).resolve_right (Nat.ne_of_gt (Nat.two_pow_pos k))
  have hk : k = 0 := hcanonical.normal.resolve_right (by rw [hm]; decide)
  have hpattern := hcanonical.pattern_eq
  rw [hm, hk, Nat.zero_mul] at hpattern
  have hsame := ofPattern_magnitude hx
  rwa [hpattern] at hsame

/-- A significand of seventeen digits or more is near its count of steps. -/
lemma abs_size_sub_lt {places steps : Nat} (hplaces : 16 ≤ places) (hsteps : 0 < steps) :
    |(significand places steps).size places - amount steps| * 2 ^ 54 < amount steps := by
  have hpos := amount_pos hsteps
  have hnear := (significand_near places hsteps).2
  have hpow : (10 : ℚ) ^ 16 ≤ 10 ^ places := pow_le_pow_right₀ (by norm_num) hplaces
  rw [le_div_iff₀ (by positivity)] at hnear
  have hsixteen : |(significand places steps).size places - amount steps| * (2 * 10 ^ 16) ≤
      amount steps := by
    refine le_trans (mul_le_mul_of_nonneg_left ?_ (abs_nonneg _)) hnear
    linarith
  linarith

/-- Seventeen digits or more of a finite number, with its sign, come back as the number. -/
theorem value_of_spelled (hx : x.isFinite = true) {places : Nat} (hplaces : 16 ≤ places)
    {whole fraction : List Char} {exponent : Int}
    (hsize : spelled whole fraction exponent = (significand places x.steps).size places) :
    FloatLiteral.value (.decimal x.negative whole fraction exponent) = x := by
  rw [FloatLiteral.value]
  rw [spelled] at hsize
  rcases Nat.eq_zero_or_pos x.steps with hsteps | hsteps
  · have hdigits : Nat.ofDigitChars 10 (whole ++ fraction) 0 = 0 := by
      have hzero : (significand places 0).size places = 0 := by
        rw [significand, if_pos rfl, Significand.size, Nat.cast_zero, zero_mul]
      have hunit : (10 : ℚ) ^ (exponent - fraction.length) ≠ 0 := by positivity
      rw [hsteps, hzero] at hsize
      exact_mod_cast (mul_eq_zero.1 hsize).resolve_right hunit
    rw [hdigits, ofDecimal]
    exact eq_zero_of_steps hx hsteps
  · refine ofDecimal_of_near hx ?_
    rw [hsize]
    exact abs_size_sub_lt hplaces hsteps

/-- What is written with seventeen digits or more in the form that the size suggests comes back,
if it is a number. -/
theorem WrittenAs.value_of_general {precision : Nat} (hprecision : 17 ≤ precision)
    {literal : FloatLiteral} (h : x.WrittenAs .general precision literal)
    (hx : x.isNaN = false) : literal.value = x := by
  cases h with
  | nan hnan => rw [hnan] at hx; cases hx
  | infinity hinfinite => exact infinity_negative hinfinite
  | decimal hfinite hsize => exact value_of_spelled hfinite (by omega) hsize

end Binary64

end Nmea0183
