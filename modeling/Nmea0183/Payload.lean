import Nmea0183.Model.Instance
import Nmea0183.Model.Wire

/-!
# Payloads

A payload is an instance of a model, a plain record of attributes that knows
nothing of sentences, or a bare value.  In each case it is its type and the list
of its values; a bare value is its only one.  A record also takes attributes that
its type does not have.
-/

namespace Nmea0183

/-- A plain type of named attributes with their first values. -/
structure RecordType where
  name : String
  attributes : List (String × Value)
  /-- The message code that goes with the type, as declared; none is the absence of a value. -/
  code : Value := .null
  /-- The attributes keep their first values. -/
  immutable : Bool := false
  deriving DecidableEq, Repr

/-- The types of payloads. -/
inductive PayloadType where
  | model (m : Model)
  | record (r : RecordType)
  /-- An enumeration, by its name; its members are bare values. -/
  | enumeration (name : String)
  /-- A type with an argument, which goes by its name alone. -/
  | applied (name argument : String)
  /-- A choice between the types of these names; it has no values but theirs. -/
  | union (alternatives : List String)
  /-- Any other type of bare values, by its name. -/
  | value (typeName : String)
  deriving DecidableEq, Repr

namespace PayloadType

/-- The name of a type. -/
def name : PayloadType → String
  | model m => m.name
  | record r => r.name
  | enumeration name => name
  | applied name _ => name
  | union _ => "Union"
  | value typeName => typeName

/-- The message code that is declared with a type. -/
def code : PayloadType → Value
  | model m => m.code
  | record r => r.code
  | _ => .null

/-- The names of the values of a payload. -/
def valueNames : PayloadType → List String
  | model m => m.fields.map Field.name
  | record r => r.attributes.map Prod.fst
  | _ => []

/-- The schema of a type, which has to be a model. -/
def schema : PayloadType → Except Fault (List FieldSchema)
  | model m => m.schema.mapError .schema
  | enumeration _ | union _ => .error (.noModel none)
  | other => .error (.noModel other.name)

/-- The type of a bare value. -/
def ofValue : Value → PayloadType
  | .member name .. => enumeration name
  | v => value v.typeName

end PayloadType

/-- A payload: its type and its values. -/
structure Payload where
  type : PayloadType
  values : List Value
  /-- Attributes beside those of the type. -/
  extra : List (String × Value) := []
  deriving DecidableEq, Repr

namespace Payload

/-- A bare value as a payload. -/
def ofValue (v : Value) : Payload where
  type := .ofValue v
  values := [v]

/-- The values with their names. -/
def named (p : Payload) : List (String × Value) :=
  p.type.valueNames.zip p.values

/-- The attributes that a bare value has of its own. -/
def innate (p : Payload) : List (String × Value) :=
  match p.type, p.values with
  | .enumeration _, [.member _ name v _] => [("name", .text name), ("value", v)]
  | .value _, [.register r] => [("value", .int r.toNat)]
  | _, _ => []

/-- The value of a name. -/
def get? (p : Payload) (name : String) : Option Value :=
  (p.named ++ p.innate ++ p.extra).lookup name

/-- The value of a name, which has to be there. -/
def get (p : Payload) (name : String) : Except Fault Value :=
  match p.get? name with
  | some v => .ok v
  | none => .error (.noAttribute p.type.name name)

/-- The values with another one under a name. -/
def replaced (names : List String) (values : List Value) (name : String) (v : Value) :
    List Value :=
  (names.zip values).map fun (n, old) => if n == name then v else old

/-- A payload with another value under a name, which becomes an attribute of its own unless the
type has it. -/
def put (p : Payload) (name : String) (v : Value) : Payload :=
  if name ∈ p.type.valueNames then
    { p with values := replaced p.type.valueNames p.values name v }
  else { p with extra := (p.extra.filter fun a => a.1 != name) ++ [(name, v)] }

/-- The name that stands for the message code of a model, which is no field. -/
def codeName : String := "nmea_message_code"

/-- The value that an instance of a model holds for one under a name.  A name that is no field is
refused unless it begins with an underscore, which marks it as none. -/
def admitted (m : Model) (name : String) (v : Value) : Except Fault Value :=
  match m.fields.find? fun f => f.name == name with
  | some f => f.accept v
  | none =>
    if name = codeName then .error (.typeAttribute m.name name)
    else if name.toList.head? = some '_' then .ok v
    else .error (.rejected (.noField name))

/-- A payload with another value under a name, if its type allows it. -/
def set (p : Payload) (name : String) (v : Value) : Except Fault Payload :=
  match p.type with
  | .model m => (admitted m name v).map (p.put name)
  | .record r => if r.immutable then .error (.immutable name) else .ok (p.put name v)
  | .enumeration _ =>
    if (p.innate.lookup name).isSome then .error (.innate name) else .ok (p.put name v)
  | .value "Register32" => .error (.immutable name)
  | other => .error (.noAttribute other.name name)

/-- A payload with one more item at the end of a list under a name. -/
def append (p : Payload) (name : String) (v : Value) : Except Fault Payload := do
  match ← p.get name with
  | .list items => return p.put name (.list (items ++ [v]))
  | other => throw (.noAttribute other.typeName "append")

/-- A payload after a routine worked on it in its place, which changes what it holds and never what
type it has. -/
def reworked (p result : Payload) : Payload :=
  { result with type := p.type }

/-- A new record with the values that are given by name.  One that can be changed takes any name
for an attribute, one that cannot takes those of its type alone. -/
def ofRecord (r : RecordType) (given : List (String × Value)) : Except Fault Payload :=
  let fresh : Payload := { type := .record r, values := r.attributes.map Prod.snd }
  match r.immutable, given.find? fun g => !r.attributes.any fun a => a.1 == g.1 with
  | true, some (name, _) => .error (.construction (.unexpected r.name name))
  | _, _ => .ok (given.foldl (fun p (name, v) => p.put name v) fresh)

/-- A new payload of a type, from the values that are given by name.  The bare values are the
zeros of their types, which are then changed to hold what is given; an enumeration and a choice
between types have none. -/
def instantiate (type : PayloadType) (given : List (String × Value)) : Except Fault Payload :=
  let bare := fun (v : Value) =>
    given.foldlM (fun (p : Payload) (name, v) => p.set name v) { type, values := [v] }
  match type with
  | .model m => (m.instantiate given).map fun values => { type, values }
  | .record r => ofRecord r given
  | .enumeration _ => .error (.construction .noDefaultMember)
  | .applied .. => bare (.list [])
  | .union _ => .error (.construction .choice)
  | .value "NoneType" => bare .null
  | .value "bool" => bare (.bool false)
  | .value "int" => bare (.int 0)
  | .value "float" => bare (.float (.zero false))
  | .value "str" => bare (.text "")
  | .value "bytes" => bare (.bytes [])
  | .value "list" => bare (.list [])
  | .value "Register32" => bare (.register ⟨0⟩)
  | .value typeName => bare (.foreign typeName)

/-- A bare value that cannot be changed in its place. -/
def isConstant (p : Payload) : Bool :=
  match p.type, p.values with
  | .enumeration _, _ => true
  | .value _, [v] =>
    match v with
    | .list _ | .register _ => false
    | .foreign typeName => typeName ∈ ["complex", "tuple", "type"]
    | _ => true
  | _, _ => false

/-- Two holders share a payload although neither was given the other's: a copy of a value that
cannot be changed is the value itself. -/
def isSharedWith (a b : Payload) : Bool :=
  a.isConstant && a = b

/-- How a message shows a payload. -/
def shown (p : Payload) : String :=
  match p.type with
  | .model _ | .record _ =>
    p.type.name ++ "(" ++ ", ".intercalate (p.named.map fun (n, v) => n ++ "=" ++ v.shown) ++ ")"
  | _ => ", ".intercalate (p.values.map Value.shown)

end Payload

end Nmea0183
