import Mathlib.Tactic.Common
import Nmea0183.Model.Schema
import Nmea0183.Proofs.Decoder.FieldReader
import Nmea0183.Proofs.Results

/-!
# What readers handle

A reader handles a text when it answers with a value or with a complaint (`FieldReader.Handles`).
Two things are not handled: a row of digits that is too long to be read as a number, and an
enumeration without members.  So every text within the limit on digits is handled by the readers of
all kinds, those of enumerations with at least one member included (`WireKind.handles_reader`).
-/

namespace Nmea0183

namespace FieldReader

/-- The reader answers with a value or with a complaint. -/
def Handles {α : Type} (r : FieldReader α) (text : List Char) : Prop :=
  ∀ f, r.read text ≠ .error (.fault f)

/-- Wrapped answers are given where the reader answers. -/
lemma Handles.map {α β : Type} {r : FieldReader α} {text : List Char} (h : r.Handles text)
    (f : α → β) : (r.map f).Handles text :=
  fun fault hfault => h fault (map_eq_error_iff.1 hfault)

/-! ### Shapes and numbers -/

/-- A text of the wrong shape is complained about. -/
lemma shaped_ne_fault {α : Type} {expected : String} {parse? : List Char → Option α}
    {text : List Char} (f : Fault) : shaped expected parse? text ≠ .error (.fault f) := by
  unfold shaped
  split
  · simp
  · split <;> simp

/-- A row of digits within the limit has a number. -/
lemma number_ne_error {digits : List Char} (h : digits.length ≤ Numeral.digitLimit) (u : Unread) :
    number digits ≠ .error u := by
  rw [number, Numeral.value, if_pos h]
  exact nofun

/-- The digits of an integer are no more than its text has characters. -/
lemma length_le_of_signedDigits? {text digits : List Char} {negative : Bool}
    (h : signedDigits? text = some (negative, digits)) : digits.length ≤ text.length := by
  obtain ⟨rfl, -⟩ := signedDigits?_eq_some_iff.1 h
  cases negative with
  | false => exact Nat.le_refl _
  | true => exact Nat.le_succ _

/-- Numbers are read or complained about within the limit. -/
lemma natural_ne_fault {expected : String} {text : List Char}
    (h : text.length ≤ Numeral.digitLimit) (f : Fault) :
    natural expected text ≠ .error (.fault f) := by
  intro hfault
  rcases bind_eq_error_iff.1 hfault with hshaped | ⟨digits, hshaped, hnumber⟩
  · exact shaped_ne_fault f hshaped
  · obtain ⟨-, hdigits⟩ := shaped_eq_ok_iff.1 hshaped
    obtain ⟨rfl, -⟩ := digits?_eq_some_iff.1 hdigits
    exact number_ne_error h _ hnumber

/-- Integers are read or complained about within the limit. -/
lemma integer_ne_fault {expected : String} {text : List Char}
    (h : text.length ≤ Numeral.digitLimit) (f : Fault) :
    integer expected text ≠ .error (.fault f) := by
  intro hfault
  rcases bind_eq_error_iff.1 hfault with hshaped | ⟨⟨negative, digits⟩, hshaped, hvalue⟩
  · exact shaped_ne_fault f hshaped
  · obtain ⟨-, hdigits⟩ := shaped_eq_ok_iff.1 hshaped
    rcases bind_eq_error_iff.1 hvalue with hnumber | ⟨n, -, hreturn⟩
    · exact number_ne_error (Nat.le_trans (length_le_of_signedDigits? hdigits) h) _ hnumber
    · cases hreturn

/-- A value that is out of range is complained about. -/
lemma ranged_ne_fault {α : Type} {found : Except Unread α} {InRange : α → Prop}
    [DecidablePred InRange] {complain : α → Complaint} {f : Fault}
    (h : found ≠ .error (.fault f)) :
    (found >>= fun a => if InRange a then pure a else throw (.complaint (complain a))) ≠
      .error (.fault f) := by
  intro hfault
  rcases bind_eq_error_iff.1 hfault with hfound | ⟨a, -, hrange⟩
  · exact h hfound
  · split at hrange <;> cases hrange

/-! ### Readers -/

/-- Integers of any size are handled within the limit. -/
lemma handles_int {text : List Char} (h : text.length ≤ Numeral.digitLimit) :
    int.Handles text :=
  fun f => ranged_ne_fault (integer_ne_fault h f)

/-- Natural numbers of any size are handled within the limit. -/
lemma handles_uint {text : List Char} (h : text.length ≤ Numeral.digitLimit) :
    uint.Handles text :=
  fun f => ranged_ne_fault (natural_ne_fault h f)

/-- Every text is handled where a floating point number is wanted. -/
lemma handles_float (text : List Char) : float.Handles text := by
  intro f hfault
  rcases bind_eq_error_iff.1 hfault with hshaped | ⟨_, -, hreturn⟩
  · exact shaped_ne_fault f hshaped
  · cases hreturn

/-- Every text is handled where a register is wanted. -/
lemma handles_register (text : List Char) : register.Handles text :=
  fun f hfault => shaped_ne_fault f hfault

/-- Every text is handled where a text is wanted. -/
lemma handles_string (text : List Char) : string.Handles text :=
  fun _ => nofun

/-- Every text is handled where a truth value is wanted: no number is made of its digits. -/
lemma handles_bool (text : List Char) : bool.Handles text := by
  intro f hfault
  rcases bind_eq_error_iff.1 hfault with hshaped | ⟨_, -, hdigit⟩
  · exact shaped_ne_fault f hshaped
  · split at hdigit
    · cases hdigit
    · split at hdigit <;> cases hdigit

/-- A number is handled within the limit, whether it has a member or not, if there are members. -/
lemma handles_member {e : Enumeration} (he : e.members ≠ []) {text : List Char}
    (h : text.length ≤ Numeral.digitLimit) : (member e).Handles text := by
  intro f hfault
  rcases bind_eq_error_iff.1 hfault with hint | ⟨i, -, hmember⟩
  · exact handles_int h f hint
  · split at hmember
    · cases hmember
    · rw [if_neg fun hempty => he hempty.1] at hmember
      cases hmember

end FieldReader

/-- The readers of all kinds handle the texts within the limit; that of an enumeration does if it
has a member. -/
theorem WireKind.handles_reader {kind : WireKind}
    (hmembers : ∀ e, kind = .enumeration e → e.members ≠ []) {text : List Char}
    (h : text.length ≤ Numeral.digitLimit) : kind.reader.Handles text := by
  cases kind with
  | bool => exact (FieldReader.handles_bool text).map _
  | enumeration e => exact FieldReader.handles_member (hmembers e rfl) h
  | int => exact (FieldReader.handles_int h).map _
  | float => exact (FieldReader.handles_float text).map _
  | text => exact (FieldReader.handles_string text).map _
  | register => exact (FieldReader.handles_register text).map _

end Nmea0183
