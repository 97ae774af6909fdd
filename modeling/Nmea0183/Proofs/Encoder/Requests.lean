import Mathlib.Tactic.Common
import Nmea0183.Encoder.Basic
import Nmea0183.Proofs.Encoder.Draft
import Nmea0183.Proofs.Results
import Nmea0183.Proofs.Wire.FieldText

/-!
# Operations as requests

The operations of an encoder are rows of requests (`Encoder.perform_eq_forM`), and what a request
writes is plain whatever value it is made for (`Operation.plain_of_mem_requests`).  So one
statement about each of the four kinds of request is a statement about all operations.
-/

namespace Nmea0183

namespace Encoder

/-- Performs an operation. -/
def perform : Operation → Encoding Unit
  | .write values => writeAll values
  | .writeInt v => writeInt v
  | .writeFloat v => writeFloat v
  | .writeString v => writeString v
  | .writeRegister v => writeRegister v
  | .writeEmpty => writeEmpty
  | .setBase base => setBase base
  | .setFloatFormat format precision => setFloatFormat format precision
  | .endMessage => discard endMessage
  | .reset => reset

/-- Fulfils a request. -/
def handle : Request → Encoding Unit
  | .field text => appendText text
  | .modes change => fun e =>
    match change e.modes with
    | .ok modes => .ok () { e with modes }
    | .error f => .error f e
  | .complete => discard endMessage
  | .restart => reset

/-! ### One operation of the encoder -/

/-- Appending a field, as a function of the state. -/
lemma append_apply (text : List Char) (e : Encoder) :
    append text e =
      if e.isFinalized then .error (.encode .finalized) e
      else reserve .field (text ++ [Wire.comma]) e := by
  have hbind : append text e =
      (if e.isFinalized then
        (throw (.encode .finalized) : Encoding PUnit) >>= fun _ =>
          reserve .field (text ++ [Wire.comma])
      else reserve .field (text ++ [Wire.comma])) e := rfl
  rw [hbind]
  split <;> rfl

/-- Appending a text that the modes give, as a function of the state. -/
lemma appendText_apply (text : Modes → Except Fault (List Char)) (e : Encoder) :
    appendText text e =
      match text e.modes with
      | .ok t => append t e
      | .error f => .error f e := by
  have hbind : appendText text e =
      (match text e.modes with
      | .ok t => append t
      | .error f => (throw f : Encoding Unit)) e := rfl
  rw [hbind]
  cases text e.modes <;> rfl

/-- Every write of a value is the request that the value makes. -/
lemma write_eq_handle (v : Value) : write v = handle (.ofValue v) := by
  cases v with
  | manipulator m => cases m <;> rfl
  | _ => rfl

/-- A row of writes is the row of the requests. -/
lemma writeAll_eq_forM (values : List Value) :
    writeAll values = (values.map Request.ofValue).forM handle := by
  induction values with
  | nil => rfl
  | cons v values ih =>
    rw [writeAll, List.map_cons, ih, write_eq_handle]
    rfl

/-- A request alone is a row of requests. -/
lemma forM_singleton (r : Request) : [r].forM handle = handle r := by
  funext e
  change EStateM.bind (handle r) _ e = _
  rw [EStateM.bind]
  cases handle r e <;> rfl

/-- Every operation is the row of its requests. -/
lemma perform_eq_forM (op : Operation) : perform op = op.requests.forM handle := by
  cases op with
  | write values => exact writeAll_eq_forM values
  | writeRegister v =>
    rw [Operation.requests, forM_singleton]
    cases v <;> rfl
  | setFloatFormat format precision =>
    rw [Operation.requests, forM_singleton]
    funext e
    cases format with
    | floatFormat f =>
      cases precision with
      | none => rfl
      | some p =>
        simp only [perform, setFloatFormat, handle, Operation.floatModes]
        split <;> rfl
    | _ => rfl
  | _ =>
    rw [Operation.requests, forM_singleton]
    rfl

end Encoder

/-! ### Plain requests -/

/-- A request whose text, if it has one, is plain. -/
def Request.Plain : Request → Prop
  | .field text => ∀ m t, text m = .ok t → Wire.Plain t
  | _ => True

/-- A value that is written asks for a plain field or for none. -/
lemma Request.plain_ofValue (v : Value) : (Request.ofValue v).Plain := by
  have hvalue : (Request.field fun m => (FieldText.ofValue m v).mapError .encode).Plain :=
    fun m t ht => FieldText.plain_of_ofValue (mapError_eq_ok_iff.1 ht)
  cases v with
  | manipulator s =>
    cases s with
    | emptyField =>
      intro m t ht
      cases ht
      exact Wire.plain_nil
    | _ => trivial
  | floatFormat f => trivial
  | _ => exact hvalue

/-- No operation asks for a field that is not plain. -/
lemma Operation.plain_of_mem_requests {op : Operation} : ∀ r ∈ op.requests, r.Plain := by
  cases op with
  | write values =>
    intro r hr
    obtain ⟨v, -, rfl⟩ := List.mem_map.1 hr
    exact Request.plain_ofValue v
  | writeInt v =>
    exact List.forall_mem_singleton.2 fun m t ht =>
      FieldText.plain_of_ofIntValue (mapError_eq_ok_iff.1 ht)
  | writeFloat v =>
    exact List.forall_mem_singleton.2 fun m t ht => FieldText.plain_of_ofFloatValue ht
  | writeString v =>
    exact List.forall_mem_singleton.2 fun m t ht =>
      FieldText.plain_of_ofStringValue (mapError_eq_ok_iff.1 ht)
  | writeRegister v =>
    refine List.forall_mem_singleton.2 fun m t ht => ?_
    cases v with
    | register r => exact FieldText.plain_of_ofInt (mapError_eq_ok_iff.1 ht)
    | _ => cases ht
  | writeEmpty =>
    refine List.forall_mem_singleton.2 fun m t ht => ?_
    cases ht
    exact Wire.plain_nil
  | _ => exact List.forall_mem_singleton.2 trivial

end Nmea0183
