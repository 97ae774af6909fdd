import Nmea0183.Value

/-!
# Limits

A field may limit its values: numbers by bounds, and texts by bounds on their
length.  Each limit is a rule of its own, which a value keeps or breaks.  A limit
says nothing about values that have no size, or no length, to compare; to apply
it to one is a mistake in the declaration, and not in the value.  What kind of
values a field is declared for decides in which order its limits are looked at,
and what a broken one is said to be a limit on.
-/

namespace Nmea0183

/-- A limit on a value. -/
inductive Limit where
  | atMost (bound : Int)
  | below (bound : Int)
  | atLeast (bound : Int)
  | above (bound : Int)
  | minLength (bound : Nat)
  | maxLength (bound : Nat)
  deriving DecidableEq, Repr

/-- The kinds of declared values, as far as limits tell them apart. -/
inductive LimitedKind where
  | number
  | text
  | bytes
  /-- Rows of values of any type. -/
  | list
  /-- Rows of integers, whose items are counted while they are checked. -/
  | integers
  | dictionary
  /-- Values of any other type, or of several types. -/
  | other
  deriving DecidableEq, Repr

/-- A limit that says nothing about the value that it is applied to. -/
structure MisappliedLimit where
  limit : Limit
  given : Value
  deriving DecidableEq, Repr

namespace Value

/-- The number that a bound is compared as with floating point numbers. -/
def floatBound (bound : Int) : Binary64 :=
  Binary64.ofRatio (decide (bound < 0)) bound.natAbs 1

/-- How a number compares with a bound: in no order at all if it is not a number. -/
def compareFloat? (x bound : Binary64) : Option Ordering :=
  if x.lt bound then some .lt
  else if bound.lt x then some .gt
  else if x.le bound then some .eq
  else none

/-- How the size of a value compares with a bound, for values that have a size; truth values
count as 0 and 1. -/
def compareBound? (v : Value) (bound : Int) : Option (Option Ordering) :=
  match v with
  | float x => some (compareFloat? x (floatBound bound))
  | v => v.count?.map fun i => some (compare i bound)

/-- The length of a value that has one. -/
def length? : Value → Option Nat
  | text s => some s.length
  | bytes b => some b.length
  | list items => some items.length
  | v@(foreign _) => if v.holds then none else some 0
  | _ => none

end Value

namespace Limit

/-- The name under which a limit is declared. -/
def label : Limit → String
  | atMost _ => "le"
  | below _ => "lt"
  | atLeast _ => "ge"
  | above _ => "gt"
  | minLength _ => "min_length"
  | maxLength _ => "max_length"

/-- Whether a value keeps a limit, if the limit says anything about it.  What is no number breaks
every bound. -/
def keptBy? (v : Value) : Limit → Option Bool
  | atMost bound => (v.compareBound? bound).map fun o => o == some .lt || o == some .eq
  | below bound => (v.compareBound? bound).map fun o => o == some .lt
  | atLeast bound => (v.compareBound? bound).map fun o => o == some .gt || o == some .eq
  | above bound => (v.compareBound? bound).map fun o => o == some .gt
  | minLength bound => v.length?.map fun n => decide (bound ≤ n)
  | maxLength bound => v.length?.map fun n => decide (n ≤ bound)

/-- A count of things in words. -/
def counted (n : Nat) (thing : String) : String :=
  if n = 1 then s!"1 {thing}" else s!"{n} {thing}s"

/-- A bound on the length of a value in words. -/
def lengthMessage (kind : LimitedKind) (v : Value) (side : String) (bound : Nat) : String :=
  let items := fun (row : String) =>
    s!"{row} should have {side} " ++ counted bound "item"
      ++ s!" after validation, not {v.length?.getD 0}"
  match kind with
  | .text => s!"String should have {side} " ++ counted bound "character"
  | .bytes => s!"Data should have {side} " ++ counted bound "byte"
  | .list | .integers => items "List"
  | .dictionary => items "Dictionary"
  | .number | .other => items "Value"

/-- What is said of a value that breaks a limit. -/
def message (kind : LimitedKind) (v : Value) : Limit → String
  | atMost bound => s!"Input should be less than or equal to {bound}"
  | below bound => s!"Input should be less than {bound}"
  | atLeast bound => s!"Input should be greater than or equal to {bound}"
  | above bound => s!"Input should be greater than {bound}"
  | minLength bound => lengthMessage kind v "at least" bound
  | maxLength bound => lengthMessage kind v "at most" bound

/-- The first of some limits that a value breaks, if it breaks any. -/
def firstBroken (v : Value) : List Limit → Except MisappliedLimit (Option Limit)
  | [] => .ok none
  | limit :: rest =>
    match limit.keptBy? v with
    | none => .error ⟨limit, v⟩
    | some false => .ok (some limit)
    | some true => firstBroken v rest

end Limit

end Nmea0183
