import Nmea0183.Model.Basic

/-!
# Instances of models

An instance of a model is the list of the values of its fields, in their order.
A field takes values of its type that keep its limits.  Of other values it takes
numbers that its type has an equal to, and holds the equal instead; numbers that
have none are refused.
-/

namespace Nmea0183

/-- Several choices in words. -/
def Rejection.choices (texts : List String) : String :=
  match texts.reverse with
  | last :: second :: others =>
    ", ".intercalate (second :: others).reverse ++ " or " ++ last
  | _ => ", ".intercalate texts

namespace Enumeration

/-- What a field of an enumeration takes, in words; an alias has the value of its member. -/
def wanted (e : Enumeration) : String :=
  if e.members.isEmpty then "an instance of " ++ e.name
  else Rejection.choices (e.members.map fun m => ((e.first? m.2).getD m).2.shown)

end Enumeration

namespace UnsupportedType

/-- What a field of a type takes, in words. -/
def wanted : UnsupportedType → String
  | bytes => "a valid bytes"
  | list | integers => "a valid list"
  | dictionary => "a valid dictionary"
  | nothing => "None"
  | integerOrText => "a valid integer"
  | anything | named _ => "a value"

/-- The value that a field of a type holds for a number. -/
def ofNumber (i : Int) : UnsupportedType → Except Rejection Value
  | integerOrText | anything | named _ => .ok (.int i)
  | type => .error (.wanted type.wanted)

end UnsupportedType

namespace FieldType

/-- What a field of a type takes, in words. -/
def wanted : FieldType → String
  | bool => "a valid boolean"
  | int => "a valid integer"
  | float => "a valid number"
  | text => "a valid string"
  | register => "a dictionary or an instance of Register32"
  | enumeration e => e.wanted
  | unsupported type => type.wanted

/-- The value that a field of a type holds for a number. -/
def ofNumber (i : Int) : FieldType → Except Rejection Value
  | bool =>
    if i = 0 then .ok (.bool false)
    else if i = 1 then .ok (.bool true)
    else .error (.wanted "a valid boolean, unable to interpret input")
  | int => .ok (.int i)
  | float =>
    match Binary64.ofInt? i with
    | some x => .ok (.float x)
    | none => .error (.wanted "a valid number")
  | enumeration e =>
    match e.find? (.int i) with
    | some member => .ok member
    | none => .error (.wanted e.wanted)
  | unsupported type => type.ofNumber i
  | type => .error (.wanted type.wanted)

/-- The value that a field of a type holds for the absence of a value. -/
def ofNull : FieldType → Except Rejection Value
  | unsupported .nothing | unsupported .anything => .ok .null
  | type => .error (.wanted type.wanted)

/-- The value that a field of a type holds for a given one; what is no number is left as it is. -/
def accept (t : FieldType) (v : Value) : Except Rejection Value :=
  let numberOr := match v.count? with
    | some i => t.ofNumber i
    | none => .ok v
  match t, v with
  | _, .null => t.ofNull
  | bool, .bool _ | float, .float _ | unsupported .anything, _ => .ok v
  | enumeration e, .member name .. => if name = e.name then .ok v else numberOr
  | _, _ => numberOr

end FieldType

namespace Field

/-- The value that a field holds for a given one, if it takes it. -/
def accept (f : Field) (v : Value) : Except Fault Value :=
  if f.mayLack ∧ v = .null then .ok v
  else do
    let v ← (f.type.accept v).mapError .rejected
    match ← (f.limits.constraint f.type.limitedKind).test v with
    | some text => throw (.rejected (.failed text))
    | none => return v

end Field

namespace Model

/-- The value of a field of a new instance, from the values that are given by name. -/
def initial (given : List (String × Value)) (f : Field) : Except Fault Value :=
  match given.lookup f.name with
  | some v => f.accept v
  | none =>
    match f.default with
    | some v => .ok v
    | none => .error (.rejected .required)

/-- The first limit that says nothing about the value that is given for its field. -/
def misapplied? (m : Model) (given : List (String × Value)) : Option MisappliedLimit :=
  m.fields.findSome? fun f =>
    match initial given f with
    | .error (.misapplied m) => some m
    | _ => none

/-- The values of a new instance.  Given values are checked in the order of the fields, after the
limits themselves; values that a field starts with are not checked. -/
def instantiate (m : Model) (given : List (String × Value)) : Except Fault (List Value) := do
  if let some misapplied := m.misapplied? given then throw (.misapplied misapplied)
  let values ← m.fields.mapM (initial given)
  if given.all fun g => m.fields.any fun f => f.name == g.1 then return values
  else throw (.rejected .extra)

end Model

end Nmea0183
