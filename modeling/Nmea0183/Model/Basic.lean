import Nmea0183.Enumeration
import Nmea0183.Fault

/-!
# Models

A model declares the fields of a payload in the order in which they are written:
a name, a type, a value to start with, and limits that the value keeps.  Limits
are one kind of test on values (`Constraint`).
-/

namespace Nmea0183

/-- A type of values that no field of a sentence can hold. -/
inductive UnsupportedType where
  | bytes
  /-- Rows of values of any type. -/
  | list
  /-- Rows of integers. -/
  | integers
  | dictionary
  /-- The type of the absence of a value. -/
  | nothing
  /-- Values of every type. -/
  | anything
  /-- A choice between integers and texts. -/
  | integerOrText
  /-- Any other type, as messages show it. -/
  | named (shown : String)
  deriving DecidableEq, Repr

namespace UnsupportedType

/-- How messages show a type. -/
def shown : UnsupportedType → String
  | bytes => "<class 'bytes'>"
  | list => "<class 'list'>"
  | integers => "list[int]"
  | dictionary => "<class 'dict'>"
  | nothing => "<class 'NoneType'>"
  | anything => "<class 'object'>"
  | integerOrText => "typing.Union[int, str]"
  | named shown => shown

/-- The kind of the values, as limits see it. -/
def limitedKind : UnsupportedType → LimitedKind
  | bytes => .bytes
  | list => .list
  | integers => .integers
  | dictionary => .dictionary
  | _ => .other

end UnsupportedType

/-- The type of a field as a model declares it. -/
inductive FieldType where
  | bool
  | int
  | float
  | text
  | register
  | enumeration (e : Enumeration)
  | unsupported (type : UnsupportedType)
  deriving DecidableEq, Repr

/-- The kind of the values of a type, as limits see it. -/
def FieldType.limitedKind : FieldType → LimitedKind
  | int | float => .number
  | text => .text
  | unsupported type => type.limitedKind
  | bool | register | enumeration _ => .other

/-- A test on the values of a field.  Nothing is said of a value that passes it, and something of
one that fails it; of a value that it cannot be applied to, the test itself is at fault. -/
structure Constraint where
  test : Value → Except Fault (Option String)

/-- The limits that the value of a field keeps. -/
structure Limits where
  atMost : Option Int := none
  below : Option Int := none
  atLeast : Option Int := none
  above : Option Int := none
  minLength : Option Nat := none
  maxLength : Option Nat := none
  deriving DecidableEq, Repr

namespace Limits

/-- The limits that are set, in the order in which a value is checked against them.  For numbers
the upper bounds come first, for all other kinds the strict lower bound.  Rows of integers are
found too long before they are found too short. -/
def inOrder (l : Limits) (kind : LimitedKind) : List Limit :=
  let atMost := l.atMost.map .atMost
  let below := l.below.map .below
  let atLeast := l.atLeast.map .atLeast
  let above := l.above.map .above
  let minLength := l.minLength.map .minLength
  let maxLength := l.maxLength.map .maxLength
  let bounds := match kind with
    | .number => [atMost, below, atLeast, above]
    | _ => [above, atLeast, below, atMost]
  let lengths := match kind with
    | .integers => [maxLength, minLength]
    | _ => [minLength, maxLength]
  (bounds ++ lengths).filterMap id

/-- The limit that a value breaks first, if it breaks any. -/
def broken? (l : Limits) (kind : LimitedKind) (v : Value) :
    Except MisappliedLimit (Option Limit) :=
  Limit.firstBroken v (l.inOrder kind)

/-- The test whether a value keeps the limits. -/
def constraint (l : Limits) (kind : LimitedKind) : Constraint where
  test v := match l.broken? kind v with
    | .error m => .error (.misapplied m)
    | .ok limit? => .ok (limit?.map fun limit => limit.message kind v)

end Limits

/-- A field of a model. -/
structure Field where
  name : String
  type : FieldType
  /-- The field may be without a value. -/
  optional : Bool := false
  /-- The value of an instance that is given none; without it a value has to be given. -/
  default : Option Value := none
  limits : Limits := {}
  deriving DecidableEq, Repr

/-- The absence of a value is allowed; a type that holds nothing else is not wider for it. -/
def Field.mayLack (f : Field) : Bool :=
  f.optional && f.type != .unsupported .nothing

/-- A declared type of payloads. -/
structure Model where
  name : String
  /-- The module that declares the model. -/
  module : String
  /-- The message code that goes with the model, as declared; none is the absence of a value. -/
  code : Value := .null
  fields : List Field
  /-- Which declaration of its module this is: two declarations are two types, also when both say
  the same. -/
  declaration : Nat := 0
  deriving DecidableEq, Repr

namespace Model

/-- The fields with one more; a field of the same name is declared anew in its old place. -/
def addField (fields : List Field) (f : Field) : List Field :=
  if fields.any fun g => g.name == f.name then
    fields.map fun g => if g.name == f.name then f else g
  else fields ++ [f]

/-- A model with the fields of another before its own; without a code it has the other's. -/
def extend (base : Model) (name module : String) (code : Option Value) (fields : List Field) :
    Model where
  name := name
  module := module
  code := code.getD base.code
  fields := fields.foldl addField base.fields

/-- How messages show a model. -/
def shown (m : Model) : String :=
  "<class '" ++ m.module ++ "." ++ m.name ++ "'>"

end Model

end Nmea0183
