import Nmea0183.Decoder.FieldReader
import Nmea0183.Sentence

/-!
# Decoder

A decoder hands out the fields of a sentence in order.  It stands at a field;
every read takes the field there and goes on to the next, whether or not the
field could be read, and past the last field it stays where it is.  Complaints
are collected and never stop the reading; a fault that a reader does not handle
is what the read answers, and a caller may go on behind the field all the same.
-/

namespace Nmea0183

/-- The fields of a sentence, the place of the next one, and the complaints so far. -/
structure Decoder where
  sentence : Sentence
  cursor : Nat := 1
  errors : List FieldError := []
  deriving DecidableEq, Repr

/-- A step of reading, which always leaves a decoder. -/
abbrev Decoding (α : Type) := StateM Decoder α

namespace Decoder

/-- A decoder of a line, at the first field after the header. -/
def ofBytes (line : Bytes) : Decoder :=
  { sentence := .ofBytes line }

/-- The number of fields that are still to be read. -/
def remaining (d : Decoder) : Nat :=
  d.sentence.fields.length - d.cursor

/-- There is a complaint. -/
def hasError (d : Decoder) : Bool :=
  !d.errors.isEmpty

/-- The next field, if there is one; it stays the next. -/
def peek? (d : Decoder) : Option (List Char) :=
  d.sentence.fields[d.cursor]?

/-- The decoder with one more complaint. -/
def record (d : Decoder) (e : FieldError) : Decoder :=
  { d with errors := d.errors ++ [e] }

/-- The decoder at the field after the next one. -/
def advance (d : Decoder) : Decoder :=
  { d with cursor := d.cursor + 1 }

/-- Goes back to the first field after the header, and forgets all complaints. -/
def reset : Decoding Unit :=
  modify fun d => { d with cursor := 1, errors := [] }

/-- Takes the next field as it stands, if there is one. -/
def next? : Decoding (Option (List Char)) := fun d =>
  match d.peek? with
  | none => (none, d.record ⟨d.cursor, none, .noMoreFields⟩)
  | some text => (some text, d.advance)

/-- Takes the next field by a reader. -/
def take {α : Type} (r : FieldReader α) : Decoding (Except Fault α) := fun d =>
  match next? d with
  | (none, d') => (.ok r.fallback, d')
  | (some text, d') =>
    match r.read text with
    | .ok a => (.ok a, d')
    | .error (.complaint c) => (.ok r.fallback, d'.record ⟨d.cursor, some text, c⟩)
    | .error (.fault f) => (.error f, d')

/-- Complains about the field that was read last. -/
def flagLast (expected reason : String) : Decoding Unit :=
  modify fun d =>
    let index : Nat := d.cursor - 1
    d.record ⟨index, d.sentence.fields[index]?, .flagged expected reason⟩

/-- The text of a field, where a negative place counts back from the last field; a place beyond
the last field has none. -/
def textAt (fields : List (List Char)) (index : Int) : Except Fault (Option (List Char)) :=
  if 0 ≤ index then .ok fields[index.toNat]?
  else if (-index).toNat ≤ fields.length then .ok fields[fields.length - (-index).toNat]?
  else .error .noSuchField

/-- Complains about a field at a place. -/
def flagAt (d : Decoder) (expected reason : String) (index : Int) : Except Fault Decoder := do
  let text ← textAt d.sentence.fields index
  return d.record ⟨index, text, .flagged expected reason⟩

end Decoder

end Nmea0183
