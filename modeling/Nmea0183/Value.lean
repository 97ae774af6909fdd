import Nmea0183.Decimal.Shortest
import Nmea0183.Register
import Nmea0183.Text.Quoted

/-!
# Values

What a caller hands to an encoder or keeps in a payload.  Beside the values that
fit a field there are the switches that change how an encoder writes, and values
of types that no field can hold, which messages name.
-/

namespace Nmea0183

/-- A switch given to an encoder among the values. -/
inductive Manipulator where
  /-- Integers in hexadecimal from here on. -/
  | hex
  /-- Integers in decimal from here on. -/
  | dec
  /-- One empty field. -/
  | emptyField
  deriving DecidableEq, Repr

/-- A value of any type. -/
inductive Value where
  /-- The absence of a value; it fills an empty field. -/
  | null
  | bool (b : Bool)
  | int (i : Int)
  | float (x : Binary64)
  | text (s : String)
  | bytes (b : Bytes)
  | register (r : Register)
  /-- A member of an enumeration with its value; `integral` when members count as integers. -/
  | member (enumeration name : String) (value : Value) (integral : Bool)
  | manipulator (m : Manipulator)
  | floatFormat (f : FloatFormat)
  | list (items : List Value)
  /-- A value of a type that no field can hold. -/
  | foreign (typeName : String)
  deriving Repr

namespace Value

mutual

/-- Equality of values is decidable. -/
def decEq : (a b : Value) → Decidable (a = b)
  | null, b => by cases b <;> first | exact isTrue rfl | exact isFalse nofun
  | bool x, b => by
    cases b
    case bool y => exact decidable_of_iff (x = y) (by simp)
    all_goals exact isFalse nofun
  | int x, b => by
    cases b
    case int y => exact decidable_of_iff (x = y) (by simp)
    all_goals exact isFalse nofun
  | float x, b => by
    cases b
    case float y => exact decidable_of_iff (x = y) (by simp)
    all_goals exact isFalse nofun
  | text x, b => by
    cases b
    case text y => exact decidable_of_iff (x = y) (by simp)
    all_goals exact isFalse nofun
  | bytes x, b => by
    cases b
    case bytes y => exact decidable_of_iff (x = y) (by simp)
    all_goals exact isFalse nofun
  | register x, b => by
    cases b
    case register y => exact decidable_of_iff (x = y) (by simp)
    all_goals exact isFalse nofun
  | member e n v i, b => by
    cases b
    case member e' n' v' i' =>
      exact @decidable_of_iff _ (e = e' ∧ n = n' ∧ v = v' ∧ i = i') (by simp)
        (@instDecidableAnd _ _ _ (@instDecidableAnd _ _ _ (@instDecidableAnd _ _ (decEq v v') _)))
    all_goals exact isFalse nofun
  | manipulator x, b => by
    cases b
    case manipulator y => exact decidable_of_iff (x = y) (by simp)
    all_goals exact isFalse nofun
  | floatFormat x, b => by
    cases b
    case floatFormat y => exact decidable_of_iff (x = y) (by simp)
    all_goals exact isFalse nofun
  | list xs, b => by
    cases b
    case list ys => exact @decidable_of_iff _ (xs = ys) (by simp) (decEqList xs ys)
    all_goals exact isFalse nofun
  | foreign x, b => by
    cases b
    case foreign y => exact decidable_of_iff (x = y) (by simp)
    all_goals exact isFalse nofun

/-- Equality of lists of values is decidable. -/
def decEqList : (xs ys : List Value) → Decidable (xs = ys)
  | [], ys => by cases ys <;> first | exact isTrue rfl | exact isFalse nofun
  | x :: xs, ys => by
    cases ys
    case nil => exact isFalse nofun
    case cons y ys =>
      exact @decidable_of_iff _ (x = y ∧ xs = ys) (by simp)
        (@instDecidableAnd _ _ (decEq x y) (decEqList xs ys))

end

instance : DecidableEq Value := decEq

instance : Inhabited Value := ⟨null⟩

/-- The name of a value's type. -/
def typeName : Value → String
  | null => "NoneType"
  | bool _ => "bool"
  | int _ => "int"
  | float _ => "float"
  | text _ => "str"
  | bytes _ => "bytes"
  | register _ => "Register32"
  | member enumeration .. => enumeration
  | manipulator _ => "Manipulator"
  | floatFormat _ => "FloatFormat"
  | list _ => "list"
  | foreign name => name

/-- The integer that a value counts as; truth values do not count as integers. -/
def integer? : Value → Option Int
  | int i => some i
  | member _ _ (int i) true => some i
  | _ => none

/-- The integer that a value counts as where truth values count as 0 and 1. -/
def count? : Value → Option Int
  | bool b => some (if b then 1 else 0)
  | v => v.integer?

/-- The size of a number in the steps of floating point numbers; truth values count as 0 and 1. -/
def steps? : Value → Option Int
  | bool b => some (if b then Binary64.stepsPerUnit else 0)
  | int i => some (i * Binary64.stepsPerUnit)
  | float x => if x.isFinite then some x.signedSteps else none
  | member _ _ (int i) true => some (i * Binary64.stepsPerUnit)
  | _ => none

/-- Equality across the types of numbers: numbers are equal when their sizes are. -/
def equals (a b : Value) : Bool :=
  match a.steps?, b.steps? with
  | some m, some n => m = n
  | none, none => a = b
  | _, _ => false

/-- A value as a condition: zeros, empty values and the absence of a value do not hold. -/
def holds : Value → Bool
  | null => false
  | bool b => b
  | int i => i ≠ 0
  | float x => x.magnitude.val ≠ 0
  | text s => !s.isEmpty
  | bytes b => !b.isEmpty
  | list items => !items.isEmpty
  | member _ _ (int i) true => i ≠ 0
  | foreign typeName => typeName ∉ ["dict", "tuple", "set", "bytearray"]
  | _ => true

/-- An object of a type that no field can hold, as messages show it; rows are empty. -/
def shownForeign : String → String
  | "dict" => "{}"
  | "tuple" => "()"
  | "set" => "set()"
  | "bytearray" => "bytearray(b'')"
  | "complex" => "1j"
  | "type" => "<class 'int'>"
  | typeName => "<" ++ typeName ++ ">"

/-- A truth value as messages show it. -/
def shownBool (b : Bool) : String :=
  if b then "True" else "False"

/-- A member of an enumeration as messages show it. -/
def shownMember (enumeration name value : String) : String :=
  "<" ++ enumeration ++ "." ++ name ++ ": " ++ value ++ ">"

/-- How a message shows a value. -/
def shown : Value → String
  | null => "None"
  | bool b => shownBool b
  | int i => toString i
  | float x => x.shown
  | text s => Quoted.text s
  | bytes b => Quoted.bytes b
  | register r => s!"Register32(value={r.toNat})"
  | member enumeration name value _ => shownMember enumeration name value.shown
  | manipulator .hex => shownMember "Manipulator" "HEX" (Quoted.text "hex")
  | manipulator .dec => shownMember "Manipulator" "DEC" (Quoted.text "dec")
  | manipulator .emptyField => shownMember "Manipulator" "EMPTY_FIELD" (Quoted.text "empty")
  | floatFormat .fixed => shownMember "FloatFormat" "FIXED" (Quoted.text "f")
  | floatFormat .scientific => shownMember "FloatFormat" "SCIENTIFIC" (Quoted.text "E")
  | floatFormat .general => shownMember "FloatFormat" "GENERAL" (Quoted.text "G")
  | list items => "[" ++ ", ".intercalate (items.map shown) ++ "]"
  | foreign typeName => shownForeign typeName

/-- The integers that stand in a value as messages show it. -/
def integers : Value → List Int
  | int i => [i]
  | member _ _ value _ => value.integers
  | list items => (items.map integers).flatten
  | _ => []

/-- A value as it stands in a running text: texts without quotes, registers with all their digits,
and members by their names, unless they count as integers. -/
def plain : Value → String
  | text s => s
  | register r => r.shown
  | member _ _ value true => value.plain
  | member enumeration name _ false => enumeration ++ "." ++ name
  | manipulator .hex => "Manipulator.HEX"
  | manipulator .dec => "Manipulator.DEC"
  | manipulator .emptyField => "Manipulator.EMPTY_FIELD"
  | floatFormat .fixed => "FloatFormat.FIXED"
  | floatFormat .scientific => "FloatFormat.SCIENTIFIC"
  | floatFormat .general => "FloatFormat.GENERAL"
  | v => v.shown

end Value

end Nmea0183
