import Mathlib.Tactic.Common
import Nmea0183.Encoder.Basic
import Nmea0183.Frame
import Nmea0183.Proofs.Results
import Nmea0183.Proofs.Wire.Joined

/-!
# Drafts

A draft is a sentence that is being written, without the buffer that it is written into: its
header, the texts of the fields that were accepted, the modes, the room that there is, and whether
it is complete.  Every operation of an encoder comes down to a few requests (`Operation.requests`),
and a draft says what each request does: one more field, other modes, completion, or a fresh
start.  `Draft.contents` is what a caller then sees, the open sentence or the framed body.  What
every request keeps is kept by every history (`Draft.runAll_induction`); so a complete draft stays
as it is until the next reset (`Draft.runAll_of_isComplete`).
-/

namespace Nmea0183

/-- An operation that a caller asks of an encoder. -/
inductive Operation where
  | write (values : List Value)
  | writeInt (v : Value)
  | writeFloat (v : Value)
  | writeString (v : Value)
  | writeRegister (v : Value)
  | writeEmpty
  | setBase (base : Base)
  | setFloatFormat (format : Value) (precision : Option Int)
  | endMessage
  | reset
  deriving DecidableEq, Repr

/-- What an operation comes down to. -/
inductive Request where
  /-- One more field, with the text that the modes give. -/
  | field (text : Modes → Except Fault (List Char))
  /-- Other modes. -/
  | modes (change : Modes → Except Fault Modes)
  /-- The end of the sentence. -/
  | complete
  /-- A fresh sentence with the same header and the same modes. -/
  | restart

/-- What a value that is written asks for: a switch changes the modes, and every other value is a
field. -/
def Request.ofValue : Value → Request
  | .manipulator .hex => .modes fun m => .ok { m with base := .hexadecimal }
  | .manipulator .dec => .modes fun m => .ok { m with base := .decimal }
  | .manipulator .emptyField => .field fun _ => .ok []
  | .floatFormat f => .modes fun m => .ok { m with floatFormat := f }
  | v => .field fun m => (FieldText.ofValue m v).mapError .encode

namespace Operation

/-- The change of modes that a format and a precision ask for. -/
def floatModes (format : Value) (precision : Option Int) (m : Modes) : Except Fault Modes :=
  match format, precision with
  | .floatFormat f, none => .ok { m with floatFormat := f }
  | .floatFormat f, some p =>
    if 0 ≤ p ∧ p ≤ 17 then .ok { m with floatFormat := f, precision := p.toNat }
    else .error (.encode (.precision p))
  | other, _ => .error (.encode (.notFloatFormat other))

/-- The text of a value that has to be a register. -/
def registerText (v : Value) (m : Modes) : Except Fault (List Char) :=
  match v with
  | .register r => (FieldText.ofInt m r.toNat).mapError .encode
  | v => .error (.noAttribute v.typeName "to_uint")

/-- The requests that an operation consists of, in their order. -/
def requests : Operation → List Request
  | write values => values.map Request.ofValue
  | writeInt v => [.field fun m => (FieldText.ofIntValue m v).mapError .encode]
  | writeFloat v => [.field fun m => FieldText.ofFloatValue m v]
  | writeString v => [.field fun _ => (FieldText.ofStringValue v).mapError .encode]
  | writeRegister v => [.field (registerText v)]
  | writeEmpty => [.field fun _ => .ok []]
  | setBase base => [.modes fun m => .ok { m with base }]
  | setFloatFormat format precision => [.modes (floatModes format precision)]
  | endMessage => [.complete]
  | reset => [.restart]

end Operation

/-! ### Histories of operations -/

/-- The answers to operations one after the other and the state that they leave; one that fails
does not end the history. -/
def runAll {σ : Type} (perform : Operation → EStateM Fault σ Unit) :
    List Operation → σ → List (Except Fault Unit) × σ
  | [], s => ([], s)
  | op :: ops, s =>
    match perform op s with
    | .ok _ s' => ((runAll perform ops s').1.cons (.ok ()), (runAll perform ops s').2)
    | .error f s' => ((runAll perform ops s').1.cons (.error f), (runAll perform ops s').2)

/-- A history in two parts is one history. -/
lemma runAll_append {σ : Type} (perform : Operation → EStateM Fault σ Unit)
    (ops more : List Operation) (s : σ) :
    (runAll perform (ops ++ more) s).2 = (runAll perform more (runAll perform ops s).2).2 := by
  induction ops generalizing s with
  | nil => rfl
  | cons op ops ih =>
    rw [List.cons_append, runAll, runAll]
    cases perform op s with
    | ok _ s' => exact ih s'
    | error f s' => exact ih s'

/-! ### Drafts and what requests do to them -/

/-- A sentence that is being written. -/
structure Draft where
  /-- The talker and the message code. -/
  header : List Char
  /-- The size that the sentence may have. -/
  room : Nat
  modes : Modes
  /-- The texts of the fields that were accepted. -/
  fields : List (List Char) := []
  isComplete : Bool := false
  deriving DecidableEq, Repr

/-- A step of drafting, which leaves a draft also when it fails. -/
abbrev Drafting (α : Type) := EStateM Fault Draft α

namespace Draft

/-- A draft without fields. -/
def start (talker : Talker) (code : MessageCode) (room : Nat) (config : Config) : Draft where
  header := talker.chars ++ code.chars
  room := room
  modes := ⟨.decimal, config.floatFormat, config.floatPrecision, config.hexWidth⟩

/-- The text of the open sentence: the header and each field are followed by a comma. -/
def text (d : Draft) : List Char :=
  Wire.start :: d.header ++ Wire.comma :: d.fields.flatMap (· ++ [Wire.comma])

/-- The header and the fields with commas between them. -/
def body (d : Draft) : List Char :=
  Wire.joined (d.header :: d.fields)

/-- The bytes that are written: those of the open sentence, or the framed body. -/
def contents (d : Draft) : Bytes :=
  if d.isComplete then Frame.around (Latin.encode d.body) else Latin.encode d.text

/-- The checksum of a complete sentence. -/
def checksum (d : Draft) : Option UInt8 :=
  if d.isComplete then some (Checksum.ofBody (Latin.encode d.body)) else none

/-- Accepts a field if the sentence is still open and there is room for the field and a comma. -/
def append (text : List Char) : Drafting Unit := fun d =>
  let available := d.room - d.text.length
  if d.isComplete then .error (.encode .finalized) d
  else if available < text.length + 1 then
    .error (.capacity .field (text.length + 1) available) d
  else .ok () { d with fields := d.fields ++ [text] }

/-- Completes the sentence if there is room for its suffix; a complete one stays as it is. -/
def complete : Drafting Unit := fun d =>
  let available := d.room - (d.body.length + 1)
  if d.isComplete then .ok () d
  else if available < Wire.suffixLength then
    .error (.capacity .suffix Wire.suffixLength available) d
  else .ok () { d with isComplete := true }

/-- Fulfils a request. -/
def handle : Request → Drafting Unit
  | .field text => fun d =>
    match text d.modes with
    | .ok t => append t d
    | .error f => .error f d
  | .modes change => fun d =>
    match change d.modes with
    | .ok modes => .ok () { d with modes }
    | .error f => .error f d
  | .complete => complete
  | .restart => fun d => .ok () { d with fields := [], isComplete := false }

/-- Performs an operation, up to the first request that fails. -/
def perform (op : Operation) : Drafting Unit :=
  op.requests.forM handle

/-! ### The text and the body -/

/-- The open sentence is the body after the `$`, with one comma behind it. -/
lemma text_eq (d : Draft) : d.text = Wire.start :: d.body ++ [Wire.comma] := by
  rw [body, List.cons_append, Wire.joined_cons_append_comma]
  rfl

/-- More fields are more texts, with a comma behind each. -/
lemma text_append_fields (d : Draft) (ts : List (List Char)) :
    text { d with fields := d.fields ++ ts } = d.text ++ ts.flatMap (· ++ [Wire.comma]) := by
  simp [text]

/-- One more field is one more text with a comma behind it. -/
lemma text_append_field (d : Draft) (t : List Char) :
    text { d with fields := d.fields ++ [t] } = d.text ++ (t ++ [Wire.comma]) := by
  rw [text_append_fields, List.flatMap_singleton]

/-- The length of the open sentence. -/
lemma length_text (d : Draft) : d.text.length = d.body.length + 2 := by
  rw [text_eq]
  simp

/-- A field for which there is room is accepted. -/
lemma append_of_room {d : Draft} (ho : d.isComplete = false) {t : List Char}
    (hroom : (d.text ++ (t ++ [Wire.comma])).length ≤ d.room) :
    append t d = .ok () { d with fields := d.fields ++ [t] } := by
  simp only [List.length_append, List.length_singleton] at hroom
  rw [append, if_neg (by simp [ho]), if_neg (by omega)]

/-- After a request that succeeds the row goes on. -/
lemma forM_cons_of_ok {r : Request} {requests : List Request} {d d' : Draft}
    (h : handle r d = .ok () d') :
    (r :: requests).forM handle d = requests.forM handle d' := by
  change EStateM.bind (handle r) _ d = _
  rw [EStateM.bind, h]

/-- A row of fields is accepted if each has a text and there is room for all of them. -/
lemma forM_of_room {texts : List (Modes → Except Fault (List Char))} {ts : List (List Char)}
    {d : Draft} (ho : d.isComplete = false)
    (hts : List.Forall₂ (fun text t => text d.modes = .ok t) texts ts)
    (hroom : (text { d with fields := d.fields ++ ts }).length ≤ d.room) :
    (texts.map Request.field).forM handle d = .ok () { d with fields := d.fields ++ ts } := by
  induction texts generalizing d ts with
  | nil =>
    cases hts
    rw [List.append_nil]
    rfl
  | cons text texts ih =>
    obtain ⟨t, ts, ht, hrest, rfl⟩ := List.forall₂_cons_left_iff.1 hts
    have hfirst : handle (.field text) d = .ok () { d with fields := d.fields ++ [t] } := by
      rw [handle]
      dsimp only
      rw [ht]
      refine append_of_room ho (Nat.le_trans ?_ hroom)
      rw [text_append_fields, List.flatMap_cons, ← List.append_assoc]
      simp
    have hsplit : d.fields ++ t :: ts = (d.fields ++ [t]) ++ ts := by simp
    rw [hsplit] at hroom
    rw [List.map_cons, forM_cons_of_ok hfirst, hsplit]
    exact ih (d := { d with fields := d.fields ++ [t] }) ho hrest hroom

/-- The draft that a step leaves, whether it fails or not. -/
def after : EStateM.Result Fault Draft Unit → Draft
  | .ok _ d => d
  | .error _ d => d

/-- What every request of a row keeps is kept by the row, wherever it stops. -/
lemma forM_induction {P : Draft → Prop} {requests : List Request}
    (hstep : ∀ r ∈ requests, ∀ d, P d → P (after (handle r d))) {d : Draft} (hd : P d) :
    P (after (requests.forM handle d)) := by
  induction requests generalizing d with
  | nil => exact hd
  | cons r requests ih =>
    obtain ⟨hr, hrest⟩ := List.forall_mem_cons.1 hstep
    have hd := hr d hd
    change P (after (EStateM.bind (handle r) _ d))
    rw [EStateM.bind]
    cases hresult : handle r d with
    | ok _ d' =>
      rw [hresult] at hd
      exact ih hrest hd
    | error f d' =>
      rw [hresult] at hd
      exact hd

/-- What every request of a history keeps is kept by the history. -/
theorem runAll_induction {P : Draft → Prop} {ops : List Operation}
    (hstep : ∀ op ∈ ops, ∀ r ∈ op.requests, ∀ d, P d → P (after (handle r d))) {d : Draft}
    (hd : P d) : P (runAll perform ops d).2 := by
  induction ops generalizing d with
  | nil => exact hd
  | cons op ops ih =>
    obtain ⟨hop, hrest⟩ := List.forall_mem_cons.1 hstep
    have hd : P (after (perform op d)) := forM_induction hop hd
    rw [runAll]
    cases hresult : perform op d with
    | ok _ d' =>
      rw [hresult] at hd
      exact ih hrest hd
    | error f d' =>
      rw [hresult] at hd
      exact ih hrest hd

/-- No request changes the header. -/
lemma header_handle (r : Request) (d : Draft) : (after (handle r d)).header = d.header := by
  cases r with
  | field text =>
    rw [handle]
    dsimp only
    cases text d.modes with
    | ok t =>
      dsimp only [append]
      split
      · rfl
      · split <;> rfl
    | error f => rfl
  | modes change =>
    rw [handle]
    dsimp only
    cases change d.modes <;> rfl
  | complete =>
    dsimp only [handle, complete]
    split
    · rfl
    · split <;> rfl
  | restart => rfl

/-- No history changes the header. -/
lemma header_runAll (ops : List Operation) (d : Draft) :
    (runAll perform ops d).2.header = d.header :=
  runAll_induction (P := fun d' => d'.header = d.header)
    (fun _ _ r _ d' hd => (header_handle r d').trans hd) rfl

end Draft

end Nmea0183
