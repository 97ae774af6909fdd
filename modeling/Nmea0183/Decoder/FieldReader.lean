import Nmea0183.Decimal.Literal
import Nmea0183.Decoder.FieldError
import Nmea0183.Encoder.FieldText
import Nmea0183.Enumeration

/-!
# Field readers

A field reader turns the text of one field into a value, or into a complaint.
What it answers depends on the text alone; without a text, or with a bad one, a
decoder goes on with the reader's `fallback`.  There are two faults that no reader
handles: a row of digits that is too long to be read as a number, and an
enumeration without members that is asked for one.
-/

namespace Nmea0183

/-- Why a text is not read as a value. -/
inductive Unread where
  /-- Bad data, which is complained about. -/
  | complaint (c : Complaint)
  /-- A fault that the reader does not handle. -/
  | fault (f : Fault)
  deriving DecidableEq, Repr

/-- A way to read the text of one field. -/
structure FieldReader (α : Type) where
  /-- What stands in for a field that cannot be read. -/
  fallback : α
  /-- The value of a text. -/
  read : List Char → Except Unread α

namespace FieldReader

/-- Reads a text that must not be empty by a function that knows its shape. -/
def shaped {α : Type} (expected : String) (parse? : List Char → Option α) (text : List Char) :
    Except Unread α :=
  if text = [] then .error (.complaint (.empty expected))
  else match parse? text with
    | some a => .ok a
    | none => .error (.complaint (.malformed expected text))

/-! ### Shapes of texts -/

/-- A row of decimal digits with at most 19 of them after leading zeros, which is more than any
number in range has. -/
def digits? (text : List Char) : Option (List Char) :=
  if text ≠ [] ∧ text.all Char.isDigit ∧ (text.dropWhile (· == '0')).length ≤ 19 then some text
  else none

/-- Such a row with an optional minus, which says whether the number is negative. -/
def signedDigits? : List Char → Option (Bool × List Char)
  | '-' :: digits => (digits? digits).map fun digits => (true, digits)
  | digits => (digits? digits).map fun digits => (false, digits)

/-- The number of a row of digits. -/
def number (digits : List Char) : Except Unread Nat :=
  (Numeral.value digits).mapError fun f => .fault (.numeral f)

/-- Reads a number from its digits. -/
def natural (expected : String) (text : List Char) : Except Unread Nat := do
  number (← shaped expected digits? text)

/-- Reads an integer from its digits and its sign. -/
def integer (expected : String) (text : List Char) : Except Unread Int := do
  let (negative, digits) ← shaped expected signedDigits? text
  let n ← number digits
  return if negative then -(n : Int) else n

/-- A text without the mark that hexadecimal digits may have in front. -/
def withoutMark : List Char → List Char
  | '0' :: 'x' :: digits => digits
  | '0' :: 'X' :: digits => digits
  | digits => digits

/-- One to eight hexadecimal digits, with or without their mark. -/
def word? (text : List Char) : Option Register :=
  let digits := withoutMark text
  if digits ≠ [] ∧ digits.length ≤ 8 ∧ digits.all Hex.isDigit then
    some ⟨UInt32.ofNat (Hex.value digits)⟩
  else none

/-! ### Readers -/

/-- Reads a signed integer of 32 bits. -/
def int : FieldReader Int where
  fallback := 0
  read text := do
    let i ← integer "int" text
    if int32Min ≤ i ∧ i ≤ int32Max then return i else throw (.complaint (.outOfRange "int" i))

/-- Reads an unsigned integer of 32 bits. -/
def uint : FieldReader Nat where
  fallback := 0
  read text := do
    let n ← natural "uint" text
    if (n : Int) ≤ uint32Max then return n else throw (.complaint (.outOfRange "uint" n))

/-- Reads a floating point number. -/
def float : FieldReader Binary64 where
  fallback := .zero false
  read text := do
    let literal ← shaped "float" FloatLiteral.parse? text
    return literal.value

/-- Reads a register from hexadecimal digits. -/
def register : FieldReader Register where
  fallback := ⟨0⟩
  read text := shaped "register" word? text

/-- Reads any text as it stands. -/
def string : FieldReader String where
  fallback := ""
  read text := .ok (String.ofList text)

/-- Reads a truth value from one of two digits; a text of another shape than a number's is
malformed, any other number is refused. -/
def bool : FieldReader Bool where
  fallback := false
  read text := do
    let _ ← shaped "bool" digits? text
    if text = ['0'] then return false
    else if text = ['1'] then return true
    else throw (.complaint (.notZeroOrOne text))

/-- Reads a member of an enumeration by its integer. -/
def member (e : Enumeration) : FieldReader Value where
  fallback := .null
  read text := do
    let i ← int.read text
    match e.find? (.int i) with
    | some m => return m
    | none =>
      if e.members = [] ∧ e.emptyIsFault then throw (.fault (.noMembers e.name))
      else throw (.complaint (.notMember e.name i))

/-- A reader whose answers are wrapped. -/
def map {α β : Type} (f : α → β) (r : FieldReader α) : FieldReader β where
  fallback := f r.fallback
  read text := (r.read text).map f

end FieldReader

end Nmea0183
