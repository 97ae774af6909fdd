import Nmea0183.Text.Quoted

/-!
# Field errors

Bad data in a sentence is not a failure of the reader: it is recorded with the
place and the text of the field, and reading goes on.
-/

namespace Nmea0183

/-- Why a field could not be read as what was expected. -/
inductive Complaint where
  /-- There is no field left. -/
  | noMoreFields
  /-- The field is empty. -/
  | empty (expected : String)
  /-- The text of the field has the wrong shape. -/
  | malformed (expected : String) (text : List Char)
  /-- The number is well formed but too large or too small. -/
  | outOfRange (expected : String) (value : Int)
  /-- A truth value is neither of the two digits. -/
  | notZeroOrOne (text : List Char)
  /-- No member of the enumeration has the number. -/
  | notMember (enumeration : String) (value : Int)
  /-- A payload refused what was read. -/
  | flagged (expected reason : String)
  deriving DecidableEq, Repr

namespace Complaint

/-- What was expected of the field. -/
def expected : Complaint → String
  | noMoreFields => "field"
  | empty expected => expected
  | malformed expected _ => expected
  | outOfRange expected _ => expected
  | notZeroOrOne _ => "bool"
  | notMember enumeration _ => enumeration
  | flagged expected _ => expected

/-- What is wrong with the field. -/
def reason : Complaint → String
  | noMoreFields => "no more fields"
  | empty _ => "empty field"
  | malformed expected text => s!"invalid {expected} text " ++ Quoted.text (String.ofList text)
  | outOfRange _ value => s!"{value} out of 32-bit range"
  | notZeroOrOne text => "expected 0 or 1, got " ++ Quoted.text (String.ofList text)
  | notMember _ value => s!"{value} is not a valid member"
  | flagged _ reason => reason

end Complaint

/-- A complaint about one field: its place, where 0 is the header, and its text if there is one. -/
structure FieldError where
  index : Int
  text : Option (List Char)
  complaint : Complaint
  deriving DecidableEq, Repr

namespace FieldError

/-- The wording of a field error. -/
def message (e : FieldError) : String :=
  s!"field {e.index} ({e.complaint.expected}): {e.complaint.reason}"

end FieldError

end Nmea0183
