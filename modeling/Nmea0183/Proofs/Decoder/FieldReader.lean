import Mathlib.Algebra.Group.Nat.Defs
import Mathlib.Tactic.Common
import Nmea0183.Decoder.FieldReader
import Nmea0183.Proofs.Results
import Nmea0183.Proofs.Wire.Hexadecimal

/-!
# Readers undo texts

What is written for an integer, a truth value, a register or a member of an enumeration is read
as just that (`read_int_decimal`, `read_bool_decimal`, `read_register_hexadecimal`,
`read_member_decimal`).  A reader takes more than what is written: leading zeros, digits of either
case, and hexadecimal digits without their mark.
-/

namespace Nmea0183

namespace FieldReader

/-! ### Decimal digits -/

/-- The decimal digits of a number are digits. -/
lemma isDigit_of_mem_toDigits {n : Nat} {c : Char} (hc : c ∈ Nat.toDigits 10 n) :
    c.isDigit = true := by
  obtain ⟨d, hd, rfl⟩ := Wire.exists_digitChar_of_mem_toDigits (by decide) hc
  exact (show ∀ d < 10, (Nat.digitChar d).isDigit = true by decide) d hd

/-- Rows of digits are taken as they stand. -/
lemma digits?_eq_some_iff {text digits : List Char} :
    digits? text = some digits ↔ text = digits ∧ text ≠ [] ∧ text.all Char.isDigit = true ∧
      (text.dropWhile (· == '0')).length ≤ 19 := by
  unfold digits?
  split
  · next h => simp only [Option.some_inj, h, ne_eq, not_false_eq_true, and_self, and_true]
  · next h => simp only [reduceCtorEq, false_iff, not_and] at h ⊢; grind

/-- A row of digits behind a minus is that of a negative number, and one without a minus that of a
number that is not negative. -/
lemma signedDigits?_eq_some_iff {text digits : List Char} {negative : Bool} :
    signedDigits? text = some (negative, digits) ↔
      text = (if negative then '-' :: digits else digits) ∧ digits? digits = some digits := by
  -- what is found is the row itself
  have hrow : ∀ {row : List Char} {found : Bool},
      (digits? row).map (fun digits => (found, digits)) = some (negative, digits) ↔
        found = negative ∧ row = digits ∧ digits? digits = some digits := by
    intro row found
    rw [Option.map_eq_some_iff]
    constructor
    · rintro ⟨row', hrow, heq⟩
      obtain ⟨rfl, -⟩ := digits?_eq_some_iff.1 hrow
      cases heq
      exact ⟨rfl, rfl, hrow⟩
    · rintro ⟨rfl, rfl, hrow⟩
      exact ⟨row, hrow, rfl⟩
  unfold signedDigits?
  split
  · rw [hrow]
    cases negative with
    | false =>
      refine iff_of_false (by simp) ?_
      rintro ⟨rfl, hdigits⟩
      obtain ⟨-, -, hall, -⟩ := digits?_eq_some_iff.1 hdigits
      cases hall
    | true => simp
  · next hminus =>
    rw [hrow]
    cases negative with
    | false => simp
    | true =>
      refine iff_of_false (by simp) ?_
      rintro ⟨rfl, -⟩
      exact hminus _ rfl

/-! ### Readers -/

/-- A shaped reader answers with what the shape gives for a text that is not empty. -/
lemma shaped_eq_ok_iff {α : Type} {expected : String} {parse? : List Char → Option α}
    {text : List Char} {a : α} :
    shaped expected parse? text = .ok a ↔ text ≠ [] ∧ parse? text = some a := by
  unfold shaped
  split
  · next h => simp [h]
  · next h =>
    cases parse? text with
    | none => simp
    | some b => simp [h]

end FieldReader

/-! ### Members of enumerations -/

namespace Value

/-- Values are equal when their sizes are, or when they have none and are the same. -/
lemma equals_iff {a b : Value} :
    a.equals b = true ↔ a.steps? = b.steps? ∧ (a.steps? = none → a = b) := by
  unfold equals
  cases a.steps? with
  | none => cases b.steps? <;> simp
  | some m => cases b.steps? <;> simp

/-- Integers are equal if they are the same. -/
lemma int_equals_int_iff {i j : Int} : (int i).equals (int j) = true ↔ i = j := by
  have hunit : (Binary64.stepsPerUnit : Int) ≠ 0 := by
    have := Binary64.stepsPerUnit_pos
    omega
  rw [equals_iff]
  constructor
  · intro h
    exact Int.eq_of_mul_eq_mul_right hunit (Option.some.inj h.1)
  · rintro rfl
    exact ⟨rfl, fun _ => rfl⟩

/-- Values that equal the same value equal each other. -/
lemma equals_of_equals {a b c : Value} (hac : a.equals c = true) (hbc : b.equals c = true) :
    a.equals b = true := by
  obtain ⟨hacsteps, hacsame⟩ := equals_iff.1 hac
  obtain ⟨hbcsteps, hbcsame⟩ := equals_iff.1 hbc
  refine equals_iff.2 ⟨hacsteps.trans hbcsteps.symm, fun hnone => ?_⟩
  rw [hacsame hnone, hbcsame (hbcsteps.trans (hacsteps.symm.trans hnone))]

end Value

namespace Enumeration

/-- Values that are no aliases are different. -/
lemma pairwise_withoutAliases (named : List (String × Value)) :
    (withoutAliases named).Pairwise fun a b => a.2.equals b.2 = false := by
  have hstep : ∀ (named kept : List (String × Value)),
      kept.Pairwise (fun a b => a.2.equals b.2 = false) →
      (named.foldl (fun kept m =>
        if kept.any fun k => k.2.equals m.2 then kept else kept ++ [m]) kept).Pairwise
          fun a b => a.2.equals b.2 = false := by
    intro named
    induction named with
    | nil => exact fun kept h => h
    | cons m named ih =>
      intro kept h
      refine ih _ ?_
      dsimp only
      split
      · exact h
      · next hnew =>
        refine List.pairwise_append.2 ⟨h, List.pairwise_singleton _ _, fun k hk b hb => ?_⟩
        rw [List.mem_singleton.1 hb]
        exact Bool.eq_false_iff.2 fun heq => hnew (List.any_eq_true.2 ⟨k, hk, heq⟩)
  exact hstep named [] List.Pairwise.nil

/-- A member that is no alias is the first of every value that its own equals. -/
lemma first?_of_mem_canonical {e : Enumeration} {name : String} {v w : Value}
    (h : (name, v) ∈ e.canonical) (hvw : v.equals w = true) : e.first? w = some (name, v) := by
  have hpairwise : e.canonical.Pairwise fun a b => a.2.equals b.2 = false :=
    pairwise_withoutAliases _
  rw [first?]
  generalize e.canonical = members at h hpairwise
  induction members with
  | nil => exact absurd h List.not_mem_nil
  | cons m members ih =>
    obtain ⟨hm, hrest⟩ := List.pairwise_cons.1 hpairwise
    rcases List.mem_cons.1 h with rfl | h
    · exact List.find?_cons_of_pos hvw
    · have hother : m.2.equals w = false := Bool.eq_false_iff.2 fun hmw =>
        Bool.eq_false_iff.1 (hm _ h) (Value.equals_of_equals hmw hvw)
      rw [List.find?_cons_of_neg (by simp [hother])]
      exact ih h hrest

/-- A member that is no alias is found by every value that its own equals. -/
theorem find?_of_mem_canonical {e : Enumeration} {name : String} {v w : Value}
    (h : (name, v) ∈ e.canonical) (hvw : v.equals w = true) :
    e.find? w = some (.member e.name name v e.integral) := by
  rw [find?, first?_of_mem_canonical h hvw]
  rfl

/-- The first of a value is a member that is no alias and whose value equals it. -/
lemma mem_canonical_of_first? {e : Enumeration} {name : String} {v w : Value}
    (h : e.first? w = some (name, v)) : (name, v) ∈ e.canonical ∧ v.equals w = true := by
  unfold first? at h
  have hequals := List.find?_some h
  exact ⟨List.mem_of_find?_eq_some h, hequals⟩

/-- What a type answers for a value: the member whose value equals it, declared or made of several
flags; or, if no member has the value, the member of another value that stands in for it. -/
inductive Answers (e : Enumeration) (w : Value) : Value → Prop
  | own {name : String} {v : Value} (hmem : (name, v) ∈ e.canonical) (hequals : v.equals w = true) :
      Answers e w (.member e.name name v e.integral)
  | standIn {name : String} {v other : Value} (hmem : (name, v) ∈ e.canonical)
      (hnone : ∀ m ∈ e.canonical, m.2.equals w = false) (hstand : e.standIn? w = some other)
      (hequals : v.equals other = true) : Answers e w (.member e.name name v e.integral)

/-- What is found by a value is what the type answers for it. -/
theorem find?_eq_some_iff {e : Enumeration} {v w : Value} : e.find? w = some v ↔ e.Answers w v := by
  constructor
  · intro h
    rw [find?] at h
    cases hfirst : e.first? w with
    | some m =>
      rw [hfirst] at h
      cases h
      obtain ⟨hmem, hequals⟩ := mem_canonical_of_first? hfirst
      exact .own hmem hequals
    | none =>
      rw [hfirst, Option.none_or] at h
      obtain ⟨m, hm, rfl⟩ := Option.map_eq_some_iff.1 h
      obtain ⟨_, hstand, hm⟩ := Option.bind_eq_some_iff.1 hm
      obtain ⟨hmem, hequals⟩ := mem_canonical_of_first? hm
      have hnone : ∀ m ∈ e.canonical, m.2.equals w = false := fun m hm =>
        Bool.eq_false_iff.2 (List.find?_eq_none.1 hfirst m hm)
      exact .standIn hmem hnone hstand hequals
  · intro h
    cases h with
    | own hmem hequals => exact find?_of_mem_canonical hmem hequals
    | standIn hmem hnone hstand hequals =>
      have hfirst : e.first? w = none :=
        List.find?_eq_none.2 fun m hm => Bool.eq_false_iff.1 (hnone m hm)
      rw [find?, hfirst, hstand, Option.none_or, Option.bind_some,
        first?_of_mem_canonical hmem hequals]
      rfl

end Enumeration

end Nmea0183
