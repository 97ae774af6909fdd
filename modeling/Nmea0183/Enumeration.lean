import Nmea0183.Value

/-!
# Enumerations

An enumeration names some values.  A name given to a value that has one already
is an alias: it stands for the first member of that value, and does not count as
a member of its own.  A type of flags has members beside the declared ones, which
it makes of several flags; and a type may answer for a number that is no value of
a member with a member of its choice.
-/

namespace Nmea0183

/-- A type of named values; `integral` when its members count as integers. -/
structure Enumeration where
  name : String
  members : List (String × Value)
  integral : Bool := false
  /-- Members that the type makes of several flags, for the numbers that a field can hold. -/
  composites : List (String × Int) := []
  /-- Numbers for which the type answers with the member of another value. -/
  standIns : List (Int × Value) := []
  /-- To ask for a number is a fault if there are no members; otherwise the number is refused.
  Which of both it is depends on the platform. -/
  emptyIsFault : Bool := false
  deriving DecidableEq, Repr

namespace Enumeration

/-- Named values without those whose value has a name before. -/
def withoutAliases (named : List (String × Value)) : List (String × Value) :=
  named.foldl (fun kept m => if kept.any fun k => k.2.equals m.2 then kept else kept ++ [m]) []

/-- The declared members without the aliases, in the order of their declaration. -/
def declared (e : Enumeration) : List (String × Value) :=
  withoutAliases e.members

/-- All members without the aliases, the declared ones first. -/
def canonical (e : Enumeration) : List (String × Value) :=
  withoutAliases (e.members ++ e.composites.map fun m => (m.1, .int m.2))

/-- The first name of a value. -/
def first? (e : Enumeration) (value : Value) : Option (String × Value) :=
  e.canonical.find? fun m => m.2.equals value

/-- The value whose member answers for a number. -/
def standIn? (e : Enumeration) (value : Value) : Option Value :=
  (e.standIns.find? fun s => (Value.int s.1).equals value).map Prod.snd

/-- The member of a value: the one that has it, or else the one that the type answers with. -/
def find? (e : Enumeration) (value : Value) : Option Value :=
  ((e.first? value).or ((e.standIn? value).bind e.first?)).map fun m =>
    .member e.name m.1 m.2 e.integral

/-- The member of a name or of an alias. -/
def named? (e : Enumeration) (name : String) : Option Value := do
  let m ← e.members.find? fun m => m.1 == name
  e.find? m.2

/-- An enumeration whose declared members all have an integer, which is what a field can hold. -/
def isIntegerValued (e : Enumeration) : Bool :=
  e.declared.all fun m => match m.2 with
    | .int _ => true
    | _ => false

/-- The members as a layout shows them, each after its value. -/
def shownMembers (e : Enumeration) : String :=
  ", ".intercalate (e.declared.map fun m => m.2.plain ++ "=" ++ m.1)

end Enumeration

end Nmea0183
