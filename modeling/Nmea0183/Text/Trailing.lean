/-!
# Trailing parts of a list

The end of a list that satisfies a test, taken off or looked at from the right.
-/

namespace Nmea0183

/-- A list without the longest run at its end that satisfies `p`. -/
def dropTrailing {α : Type} (p : α → Bool) (xs : List α) : List α :=
  (xs.reverse.dropWhile p).reverse

/-- The longest run at the end of a list that satisfies `p`. -/
def takeTrailing {α : Type} (p : α → Bool) (xs : List α) : List α :=
  (xs.reverse.takeWhile p).reverse

/-- Nothing is lost between the two parts. -/
theorem dropTrailing_append_takeTrailing {α : Type} (p : α → Bool) (xs : List α) :
    dropTrailing p xs ++ takeTrailing p xs = xs := by
  rw [dropTrailing, takeTrailing, ← List.reverse_append, List.takeWhile_append_dropWhile,
    List.reverse_reverse]

/-- The run at the end satisfies the test throughout. -/
theorem of_mem_takeTrailing {α : Type} {p : α → Bool} {xs : List α} {x : α}
    (h : x ∈ takeTrailing p xs) : p x = true := by
  rw [takeTrailing, List.mem_reverse] at h
  exact List.all_eq_true.1 List.all_takeWhile x h

/-- What stands before an element that fails the test is not part of the run. -/
theorem dropTrailing_append_cons {α : Type} {p : α → Bool} {c : α} (hc : p c = false)
    (xs ys : List α) : dropTrailing p (xs ++ c :: ys) = xs ++ c :: dropTrailing p ys := by
  have hreverse : (xs ++ c :: ys).reverse = ys.reverse ++ c :: xs.reverse := by simp
  rw [dropTrailing, dropTrailing, hreverse, List.dropWhile_append]
  split
  · next hall =>
    rw [List.isEmpty_iff.1 hall]
    simp [hc]
  · simp

/-- The run at the end does not reach beyond an element that fails the test. -/
theorem takeTrailing_append_cons {α : Type} {p : α → Bool} {c : α} (hc : p c = false)
    (xs ys : List α) : takeTrailing p (xs ++ c :: ys) = takeTrailing p ys := by
  have hparts := dropTrailing_append_takeTrailing p (xs ++ c :: ys)
  have hrest := dropTrailing_append_takeTrailing p ys
  rw [dropTrailing_append_cons hc, List.append_assoc, List.cons_append] at hparts
  have hcancel := List.append_cancel_left hparts
  rw [List.cons.injEq] at hcancel
  exact List.append_cancel_left (hcancel.2.trans hrest.symm)

/-- More that satisfies the test is part of the run. -/
theorem dropTrailing_append_of_all {α : Type} {p : α → Bool} {ys : List α}
    (h : ∀ y ∈ ys, p y = true) (xs : List α) : dropTrailing p (xs ++ ys) = dropTrailing p xs := by
  have hall : ∀ y ∈ ys.reverse, p y = true := fun y hy => h y (List.mem_reverse.1 hy)
  rw [dropTrailing, dropTrailing, List.reverse_append, List.dropWhile_append_of_pos hall]

/-- A list that holds an element has a last place where it stands. -/
theorem exists_last_of_mem {α : Type} {a : α} {xs : List α} (h : a ∈ xs) :
    ∃ before after, xs = before ++ a :: after ∧ a ∉ after := by
  obtain ⟨after, before, hxs, hafter⟩ := List.eq_append_cons_of_mem (List.mem_reverse.2 h)
  refine ⟨before.reverse, after.reverse, ?_, by simpa using hafter⟩
  have hreverse := congrArg List.reverse hxs
  simpa using hreverse

/-- A list that satisfies the test throughout is one run. -/
theorem takeTrailing_eq_self {α : Type} {p : α → Bool} {xs : List α}
    (h : ∀ x ∈ xs, p x = true) : takeTrailing p xs = xs := by
  have hall : ∀ x ∈ xs.reverse, p x = true := fun x hx => h x (List.mem_reverse.1 hx)
  have hrun : (xs.reverse ++ []).takeWhile p = xs.reverse ++ [] :=
    List.takeWhile_append_of_pos hall
  rw [List.append_nil] at hrun
  rw [takeTrailing, hrun, List.reverse_reverse]

end Nmea0183
