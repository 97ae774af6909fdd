import Nmea0183.Decimal.Rounding

/-!
# Binary floating point numbers of 64 bits

A number is its sign and the other 63 bits of its pattern, read as one natural
number.  Every finite number is a whole count of the smallest positive one, so
its size is an exact natural number (`steps`), and a fraction is rounded to the
nearest pattern in exact arithmetic (`ofRatio`): patterns count on through the
powers of two, so a mantissa that rounds up to the next power needs no case of
its own.
-/

namespace Nmea0183

/-- A floating point number by its pattern: the sign bit, and the 63 bits below it. -/
structure Binary64 where
  negative : Bool
  magnitude : Fin 0x8000000000000000
  deriving DecidableEq, Repr

namespace Binary64

/-- The number of patterns from one power of two to the next, which is the power 52 of two. -/
def binade : Nat := 0x10000000000000

/-- The first pattern that is no finite number; it stands for infinity. -/
def infinityPattern : Nat := 2047 * binade

/-- The smallest positive number is one part of this many. -/
def stepsPerUnit : Nat := Nat.pow 2 1074

theorem stepsPerUnit_pos : 0 < stepsPerUnit := by
  unfold stepsPerUnit
  generalize 1074 = n
  exact Nat.pow_pos (by decide)

/-- The number of a pattern; patterns beyond infinity are taken as infinity. -/
def ofPattern (negative : Bool) (pattern : Nat) : Binary64 :=
  ⟨negative, ⟨min pattern infinityPattern, by unfold infinityPattern binade; omega⟩⟩

/-- The zero of a sign. -/
def zero (negative : Bool) : Binary64 :=
  ofPattern negative 0

/-- The infinity of a sign. -/
def infinity (negative : Bool) : Binary64 :=
  ofPattern negative infinityPattern

/-- A pattern that is no number. -/
def nan : Binary64 :=
  ⟨false, ⟨infinityPattern + binade / 2, by decide⟩⟩

/-- No number. -/
def isNaN (x : Binary64) : Bool :=
  infinityPattern < x.magnitude.val

/-- Infinity of either sign. -/
def isInfinite (x : Binary64) : Bool :=
  x.magnitude.val = infinityPattern

/-- A number that is neither infinite nor no number. -/
def isFinite (x : Binary64) : Bool :=
  x.magnitude.val < infinityPattern

/-- The size of a finite number, counted in the smallest positive number. -/
def steps (x : Binary64) : Nat :=
  let p := x.magnitude.val
  if p < binade then p else (binade + p % binade) * Nat.pow 2 (p / binade - 1)

/-- The number of 64 bits. -/
def ofBits (bits : UInt64) : Binary64 :=
  ⟨0x8000000000000000 ≤ bits.toNat, ⟨bits.toNat % 0x8000000000000000, Nat.mod_lt _ (by decide)⟩⟩

/-- The 64 bits of a number. -/
def toBits (x : Binary64) : UInt64 :=
  UInt64.ofNat ((if x.negative then 0x8000000000000000 else 0) + x.magnitude.val)

/-- The number nearest to `num / den`, and of two equally near the one whose pattern is even.
A count of steps of at most 53 bits is a number; a greater one loses its low bits until 53 are
left. -/
def ofRatio (negative : Bool) (num den : Nat) : Binary64 :=
  let scaled := num * stepsPerUnit
  let dropped := (scaled / den).log2 + 1 - 53
  ofPattern negative (dropped * binade + Decimal.roundHalfEven scaled (den * Nat.pow 2 dropped))

/-- The number nearest to `digits * 10 ^ exponent`.  A decimal beyond `10 ^ 310` is infinite and
one below `10 ^ (-330)` is zero, whatever its digits. -/
def ofDecimal (negative : Bool) (digits : Nat) (exponent : Int) : Binary64 :=
  let places : Int := (Nat.toDigits 10 digits).length + exponent
  if digits = 0 then zero negative
  else if 311 < places then infinity negative
  else if places < -330 then zero negative
  else if 0 ≤ exponent then ofRatio negative (digits * Nat.pow 10 exponent.toNat) 1
  else ofRatio negative digits (Nat.pow 10 (-exponent).toNat)

/-- The number nearest to an integer, unless the integer is too large for a finite one. -/
def ofInt? (v : Int) : Option Binary64 :=
  let x := ofRatio (decide (v < 0)) v.natAbs 1
  if x.isFinite then some x else none

/-- A finite number as a signed count of steps. -/
def signedSteps (x : Binary64) : Int :=
  if x.negative then -(x.steps : Int) else x.steps

/-- Strict order; a number that is none is not below anything, nor above. -/
def lt (x y : Binary64) : Bool :=
  !x.isNaN && !y.isNaN && decide (x.signedSteps < y.signedSteps)

/-- Order; a number that is none is not ordered with anything. -/
def le (x y : Binary64) : Bool :=
  !x.isNaN && !y.isNaN && decide (x.signedSteps ≤ y.signedSteps)

end Binary64

end Nmea0183
