import Mathlib.Data.List.Basic
import Mathlib.Data.List.Induction
import Mathlib.Tactic.Common
import Nmea0183.Proofs.Message.Observation
import Nmea0183.Proofs.Results

/-!
# Histories of registrations

Routines are registered for types and taken back, one call after the other, and a call that fails
changes nothing (`Registry.fulfilled_perform`).  So the registration of a type is the first valid
one that was asked for since it was last taken back, whatever was asked for other types
(`Registry.find?_run`).
-/

namespace Nmea0183

namespace Registry

/-- A call that changes the registrations. -/
inductive Call where
  | register (type : PayloadType) (writer : Option Writer) (reader : Option Reader) (code : Value)
  | unregister (type : PayloadType)

namespace Call

/-- The registration that a call asks for, if it is valid: both routines are there, and the message
code is one, or there is none. -/
def registration? : Call → Option Entry
  | register type (some writer) (some reader) code =>
    match code with
    | .null => some ⟨type, ⟨writer, reader⟩, none⟩
    | v => (Token.ofValue .messageCode v).toOption.map fun c => ⟨type, ⟨writer, reader⟩, some c⟩
  | _ => none

/-- The valid registration of a type that a call asks for. -/
def asks? (type : PayloadType) (c : Call) : Option Entry :=
  c.registration?.filter fun e => e.type = type

/-- The call takes the registration of a type back. -/
def takesBack (type : PayloadType) : Call → Bool
  | register .. => false
  | unregister other => other = type

/-- A call that was made did what it should. -/
def Fulfilled (before after : Registry) (result : Except Fault (Option Entry)) (c : Call) : Prop :=
  match c with
  | unregister type =>
    result = .ok none ∧ after.find? type = none ∧
      ∀ other, other ≠ type → after.find? other = before.find? other
  | register type .. =>
    match c.registration?, before.find? type with
    | none, _ => (∃ f, result = .error f) ∧ after = before
    | some e, none =>
      result = .ok (some e) ∧ after.find? type = some e ∧
        ∀ other, other ≠ type → after.find? other = before.find? other
    | some e, some standing =>
      if standing.same e then result = .ok (some standing) ∧ after = before
      else result = .error (.registry (.conflict type.name)) ∧ after = before

end Call

/-- Makes a call; one that fails leaves the registrations as they were. -/
def perform (r : Registry) : Call → Registry × Except Fault (Option Entry)
  | .register type writer reader code =>
    match r.register type writer reader code with
    | .ok (r', e) => (r', .ok (some e))
    | .error f => (r, .error f)
  | .unregister type => (r.unregister type, .ok none)

/-- Makes calls one after the other, also those that follow on a failure. -/
def run (r : Registry) (calls : List Call) : Registry :=
  calls.foldl (fun r c => (r.perform c).1) r

/-- The first valid registration of a type that is asked for since it was last taken back. -/
def firstSince (calls : List Call) (type : PayloadType) : Option Entry :=
  (takeTrailing (fun c => !c.takesBack type) calls).findSome? (Call.asks? type)

/-! ### One call -/

/-- What is registered is found for its type, unless something stands for it already. -/
lemma find?_add (r : Registry) (e : Entry) (type : PayloadType) :
    find? { r with entries := r.entries ++ [e] } type =
      (r.find? type).or (if e.type = type then some e else none) := by
  rw [find?, find?, List.find?_append, List.find?_singleton]
  simp

/-- What is taken back is not found, and all else is. -/
lemma find?_unregister (r : Registry) (type other : PayloadType) :
    (r.unregister type).find? other = if type = other then none else r.find? other := by
  rw [unregister, find?, find?, List.find?_filter]
  by_cases htype : type = other
  · rw [if_pos htype, List.find?_eq_none]
    intro e _
    simp [htype]
  · rw [if_neg htype]
    congr 1
    funext e
    by_cases he : e.type = other
    · simp [he, Ne.symm htype]
    · simp [he]

/-- Adds a registration, or finds the one that stands for its type, if that says the same. -/
def add (r : Registry) (e : Entry) : Except Fault (Registry × Entry) :=
  match r.find? e.type with
  | none => .ok ({ r with entries := r.entries ++ [e] }, e)
  | some standing =>
    if standing.same e then .ok (r, standing) else .error (.registry (.conflict e.type.name))

/-- Registering with a value for the message code checks the value, and then adds the
registration. -/
lemma register_of_ne_null (r : Registry) (type : PayloadType) (writer : Writer) (reader : Reader)
    {code : Value} (hcode : code ≠ .null) :
    Call.registration? (.register type (some writer) (some reader) code) =
        ((Token.ofValue .messageCode code).toOption.map fun c =>
          ⟨type, ⟨writer, reader⟩, some c⟩) ∧
      r.register type (some writer) (some reader) code =
        ((Token.ofValue .messageCode code).mapError .header).map some >>= fun c =>
          r.add ⟨type, ⟨writer, reader⟩, c⟩ := by
  cases code with
  | null => exact absurd rfl hcode
  | _ => exact ⟨rfl, rfl⟩

/-- A registration is valid if both routines are there, and the message code is one if it is not the
absence of a value. -/
lemma isSome_registration?_iff (type : PayloadType) (writer : Option Writer)
    (reader : Option Reader) (code : Value) :
    (Call.registration? (.register type writer reader code)).isSome = true ↔
      writer.isSome = true ∧ reader.isSome = true ∧
        (code = .null ∨ ∃ s, code = .text s ∧ Message.IsToken TokenKind.messageCode.length s) := by
  cases writer with
  | none => exact iff_of_false nofun nofun
  | some writer =>
    cases reader with
    | none => exact iff_of_false nofun nofun
    | some reader =>
      by_cases hnull : code = .null
      · subst hnull
        exact iff_of_true rfl ⟨rfl, rfl, Or.inl rfl⟩
      · rw [(register_of_ne_null {} type writer reader hnull).1]
        rcases Message.ofValue_cases .messageCode code with ⟨c, hc, hok⟩ | ⟨hno, f, herror⟩
        · rw [hok]
          exact iff_of_true rfl ⟨rfl, rfl, Or.inr ⟨c.text, hc, Message.isToken_text c⟩⟩
        · rw [herror]
          refine iff_of_false nofun ?_
          rintro ⟨-, -, hcode⟩
          exact hcode.elim hnull hno

/-- A registration that is found goes before all else: its routines are those of the type, and so
is its message code, if it has one. -/
lemma resolved_of_find? {r : Registry} {type : PayloadType} {e : Entry}
    (hfind : r.find? type = some e) :
    r.codecFor type = .ok
        { codec := e.codec
          code := (e.code.map fun c => Value.text c.text).getD .null
          registered := true } ∧
      ∀ c, e.code = some c → r.codeFor? type = .ok (some c) ∧ r.codeFor type = .ok c := by
  constructor
  · obtain ⟨_, codec, code⟩ := e
    rw [codecFor, hfind]
    cases code <;> rfl
  · intro c hcode
    have hfor : r.codeFor? type = .ok (some c) := by
      rw [codeFor?, hfind, Option.bind_some, hcode]
    refine ⟨hfor, ?_⟩
    rw [codeFor, hfor]
    rfl

/-- An invalid registration fails, and a valid one is added. -/
lemma register_cases (r : Registry) (type : PayloadType) (writer : Option Writer)
    (reader : Option Reader) (code : Value) :
    (Call.registration? (.register type writer reader code) = none ∧
      ∃ f, r.register type writer reader code = .error f) ∨
    ∃ e, Call.registration? (.register type writer reader code) = some e ∧ e.type = type ∧
      r.register type writer reader code = r.add e := by
  cases writer with
  | none => exact Or.inl ⟨rfl, _, rfl⟩
  | some writer =>
    cases reader with
    | none => exact Or.inl ⟨rfl, _, rfl⟩
    | some reader =>
      by_cases hnull : code = .null
      · subst hnull
        exact Or.inr ⟨_, rfl, rfl, rfl⟩
      · obtain ⟨hentry, hregister⟩ := register_of_ne_null r type writer reader hnull
        rw [hentry, hregister]
        cases Token.ofValue .messageCode code with
        | error f => exact Or.inl ⟨rfl, _, rfl⟩
        | ok c => exact Or.inr ⟨_, rfl, rfl, rfl⟩

/-- A call does what it should. -/
theorem fulfilled_perform (r : Registry) (c : Call) :
    c.Fulfilled r (r.perform c).1 (r.perform c).2 := by
  cases c with
  | unregister type =>
    refine ⟨rfl, ?_, ?_⟩
    · exact (find?_unregister r type type).trans (if_pos rfl)
    · intro other hother
      exact (find?_unregister r type other).trans (if_neg hother.symm)
  | register type writer reader code =>
    rw [Call.Fulfilled, perform]
    rcases register_cases r type writer reader code with ⟨hnone, f, hf⟩ | ⟨e, he, rfl, hregister⟩
    · rw [hnone, hf]
      exact ⟨⟨f, rfl⟩, rfl⟩
    · rw [he, hregister, add]
      cases hfind : r.find? e.type with
      | none =>
        refine ⟨rfl, ?_, ?_⟩
        · rw [find?_add, hfind, if_pos rfl, Option.none_or]
        · intro other hother
          rw [find?_add, if_neg hother.symm, Option.or_none]
      | some standing =>
        dsimp only
        split
        · exact ⟨rfl, rfl⟩
        · exact ⟨rfl, rfl⟩

/-- After a call a type has no registration if the call took it back, and otherwise the one that
stood, or else the one that the call asked for. -/
lemma find?_perform (r : Registry) (c : Call) (type : PayloadType) :
    (r.perform c).1.find? type =
      if c.takesBack type then none else (r.find? type).or (c.asks? type) := by
  cases c with
  | unregister other =>
    have hasks : Call.asks? type (.unregister other) = none := rfl
    rw [perform, find?_unregister, Call.takesBack, hasks, Option.or_none]
    simp
  | register other writer reader code =>
    rw [Call.takesBack, if_neg Bool.false_ne_true, perform, Call.asks?]
    rcases register_cases r other writer reader code with
      ⟨hnone, f, hf⟩ | ⟨e, he, rfl, hregister⟩
    · rw [hnone, hf, Option.filter_none, Option.or_none]
    · have hasked : (some e).filter (fun e => decide (e.type = type)) =
          if e.type = type then some e else none := by
        simp [Option.filter]
      rw [he, hregister, hasked, add]
      cases hfind : r.find? e.type with
      | none => exact find?_add r e type
      | some standing =>
        -- what stands is kept, whether the call fails or not
        have hkept : (r.find? type).or (if e.type = type then some e else none) = r.find? type := by
          by_cases hsame : e.type = type
          · rw [← hsame, hfind, Option.some_or]
          · rw [if_neg hsame, Option.or_none]
        rw [hkept]
        dsimp only
        by_cases hsame : standing.same e = true
        · rw [if_pos hsame]
        · rw [if_neg hsame]

/-! ### Histories -/

/-- One more call is looked at before the others. -/
lemma firstSince_concat (calls : List Call) (c : Call) (type : PayloadType) :
    firstSince (calls ++ [c]) type =
      if c.takesBack type then none else (firstSince calls type).or (c.asks? type) := by
  rw [firstSince, firstSince, takeTrailing, takeTrailing, List.reverse_concat]
  cases htakes : c.takesBack type with
  | true =>
    rw [List.takeWhile_cons_of_neg (by simp [htakes])]
    rfl
  | false =>
    rw [List.takeWhile_cons_of_pos (by simp [htakes]), List.reverse_cons, List.findSome?_append,
      List.findSome?_singleton]
    rfl

/-- A type is registered as it was first asked for since it was last taken back. -/
theorem find?_run {r : Registry} (hempty : r.entries = []) (calls : List Call)
    (type : PayloadType) : (r.run calls).find? type = firstSince calls type := by
  induction calls using List.reverseRecOn with
  | nil =>
    rw [run, List.foldl_nil, find?, hempty]
    rfl
  | append_singleton calls c ih =>
    rw [run, List.foldl_concat, find?_perform, firstSince_concat, ← ih]
    rfl

end Registry

end Nmea0183
