import Mathlib.Data.List.Basic
import Mathlib.Data.List.Forall2
import Mathlib.Tactic.Common
import Nmea0183.Proofs.Decimal.Text
import Nmea0183.Proofs.Encoder.Atomicity
import Nmea0183.Proofs.Message.RoundTrip
import Nmea0183.Proofs.Model.Spelling

/-!
# Payloads are appended field by field

Writing an instance of a model appends the text of each value in the modes of the encoder, up to the
first field that is refused, and changes nothing else: the base that a register switches to is
switched back on every way out (`Model.writer_appends`).  A payload is written in steps that any
caller may take, so encoders that wrote payloads before are in states that operations lead to
(`Model.reached_writeFields`).
-/

namespace Nmea0183

/-! ### Bytes in two steps -/

/-- Overwriting from a place on in two steps is overwriting in one. -/
lemma Buffer.overwrite_overwrite {bytes : Bytes} {start : Nat} (h : start ≤ bytes.length)
    (first second : Bytes) :
    overwrite (overwrite bytes start first) (start + first.length) second =
      overwrite bytes start (first ++ second) := by
  have hfront : (bytes.take start ++ first).length = start + first.length := by
    rw [List.length_append, List.length_take_of_le h]
  have htake : (overwrite bytes start first).take (start + first.length) =
      bytes.take start ++ first := by
    rw [overwrite, ← hfront, List.take_left]
  have hdrop : (overwrite bytes start first).drop (start + first.length + second.length) =
      bytes.drop (start + (first ++ second).length) := by
    rw [overwrite, ← hfront, List.drop_length_add_append, List.drop_drop, hfront,
      List.length_append, Nat.add_assoc]
  rw [overwrite, htake, hdrop, overwrite, List.append_assoc (bytes.take start)]

/-! ### States of an encoder -/

namespace Encoder

/-- The encoder that a step leaves, whether it fails or not. -/
def after : EStateM.Result Fault Encoder Unit → Encoder
  | .ok _ e => e
  | .error _ e => e

/-- An encoder that was made, after some history of operations. -/
def Reached (e : Encoder) : Prop :=
  ∃ (buffer : Buffer) (talker code : Value) (config : Config) (e₀ : Encoder)
    (ops : List Operation), start buffer talker code config = .ok e₀ ∧ e = (runAll perform ops e₀).2

/-- An encoder that operations lead to represents a draft. -/
lemma Reached.exists_represents {e : Encoder} (h : e.Reached) : ∃ d, e.Represents d := by
  obtain ⟨buffer, talker, code, config, e₀, ops, hstart, rfl⟩ := h
  obtain ⟨t, c, hmade⟩ := exists_ofTokens_of_start hstart
  exact ⟨_, (represents_runAll (represents_of_ofTokens hmade) ops).2⟩

/-- An encoder has written no more than its buffer holds. -/
lemma Reached.length_le {e : Encoder} (h : e.Reached) : e.length ≤ e.capacity := by
  obtain ⟨d, hrep⟩ := h.exists_represents
  exact hrep.length_le

/-- A further operation leads to a state that operations lead to. -/
lemma Reached.after_perform {e : Encoder} (h : e.Reached) (op : Operation) :
    (after (perform op e)).Reached := by
  obtain ⟨buffer, talker, code, config, e₀, ops, hstart, rfl⟩ := h
  refine ⟨buffer, talker, code, config, e₀, ops ++ [op], hstart, ?_⟩
  rw [runAll_append, runAll]
  cases perform op (runAll perform ops e₀).2 <;> rfl

/-- So does a single value that is written. -/
lemma Reached.after_write {e : Encoder} (h : e.Reached) (v : Value) :
    (after (write v e)).Reached := by
  have hone : after (perform (.write [v]) e) = after (write v e) := by
    change after (EStateM.bind (write v) _ e) = _
    rw [EStateM.bind]
    cases write v e <;> rfl
  rw [← hone]
  exact h.after_perform _

/-- So does a value that is written in hexadecimal, which is done in three operations or in two. -/
lemma Reached.after_inHexadecimal {e : Encoder} (h : e.Reached) (v : Value) :
    (after (inHexadecimal (write v) e)).Reached := by
  obtain ⟨inside, hinside⟩ : ∃ inside : Encoder,
      inside = { e with modes := { e.modes with base := .hexadecimal } } := ⟨_, rfl⟩
  have hreached : inside.Reached := by
    rw [hinside]
    exact h.after_perform (.setBase .hexadecimal)
  have hwritten : (after (write v inside)).Reached := hreached.after_write v
  have hsteps : after (inHexadecimal (write v) e) =
      if e.modes.base = .decimal then after (perform (.setBase .decimal) (after (write v inside)))
      else after (write v inside) := by
    rw [inHexadecimal]
    dsimp only
    rw [← hinside]
    cases write v inside <;> (dsimp only [after]; split <;> rfl)
  rw [hsteps]
  split
  · exact hwritten.after_perform (.setBase .decimal)
  · exact hwritten

/-! ### Further fields -/

/-- An encoder behind further fields: they stand with their commas behind what was written, and
nothing else is other than before. -/
structure Extends (e' e : Encoder) (ts : List (List Char)) : Prop where
  eq_put : e' = e.put (ts.flatMap (· ++ [Wire.comma]))
  written_eq : e'.written = e.written ++ Latin.encode (ts.flatMap (· ++ [Wire.comma]))
  modes_eq : e'.modes = e.modes
  length_le : e'.length ≤ e'.capacity

/-- Putting one text behind another is putting both. -/
lemma put_put {e : Encoder} (hle : e.length ≤ e.capacity) (text more : List Char) :
    (e.put text).put more = e.put (text ++ more) := by
  have hbuffer : Buffer.overwrite (Buffer.overwrite e.buffer e.length (Latin.encode text))
      (e.length + text.length) (Latin.encode more) =
        Buffer.overwrite e.buffer e.length (Latin.encode (text ++ more)) := by
    rw [← Latin.length_encode text, Buffer.overwrite_overwrite hle, Latin.encode_append]
  have hlength : e.length + text.length + more.length = e.length + (text ++ more).length := by
    rw [List.length_append, Nat.add_assoc]
  rw [put, put, put]
  dsimp only
  rw [hbuffer, hlength]

/-- Further fields behind further fields are all of them. -/
lemma Extends.trans {e₁ e₂ e₃ : Encoder} {ts us : List (List Char)} (hle : e₁.length ≤ e₁.capacity)
    (h : e₂.Extends e₁ ts) (h' : e₃.Extends e₂ us) : e₃.Extends e₁ (ts ++ us) where
  eq_put := by
    rw [h'.eq_put, h.eq_put, put_put hle, List.flatMap_append]
  written_eq := by
    rw [h'.written_eq, h.written_eq, List.append_assoc, ← Latin.encode_append, List.flatMap_append]
  modes_eq := h'.modes_eq.trans h.modes_eq
  length_le := h'.length_le

/-- A field is refused, and then nothing is changed, or it stands behind the others. -/
lemma appendText_extends {e : Encoder} (hle : e.length ≤ e.capacity)
    (text : Modes → Except Fault (List Char)) :
    (∃ f, appendText text e = .error f e) ∨
      ∃ t e', text e.modes = .ok t ∧ appendText text e = .ok () e' ∧ e'.Extends e [t] := by
  rw [appendText_apply]
  cases htext : text e.modes with
  | error f => exact Or.inl ⟨f, rfl⟩
  | ok t =>
    dsimp only
    rw [append_apply]
    split
    · exact Or.inl ⟨_, rfl⟩
    rw [reserve]
    split
    · exact Or.inl ⟨_, rfl⟩
    · next hroom =>
      have hfits : (t ++ [Wire.comma]).length ≤ e.remaining := Nat.le_of_not_lt hroom
      have hput : (e.put (t ++ [Wire.comma])).Extends e [t] := by
        refine ⟨by rw [List.flatMap_singleton], ?_, rfl, ?_⟩
        · rw [written_put hle, List.flatMap_singleton]
        · rw [capacity_put hle hfits]
          rw [remaining] at hfits
          change e.length + _ ≤ _
          omega
      exact Or.inr ⟨t, _, rfl, rfl, hput⟩

end Encoder

/-! ### Payloads -/

namespace Model

variable {schemas : List FieldSchema} {values : List Value} {e : Encoder}

/-- Writing the first field and then the others, as a function of the state. -/
lemma writeFields_cons_apply (s : FieldSchema) (schemas : List FieldSchema) (v : Value)
    (values : List Value) (e : Encoder) :
    writeFields (s :: schemas) (v :: values) e =
      match s.write v e with
      | .ok _ e' => writeFields schemas values e'
      | .error f e' => .error f e' := by
  change EStateM.bind (s.write v) _ e = _
  rw [EStateM.bind]
  cases s.write v e <;> rfl

/-- Writing the fields of an instance leads to a state that operations lead to, wherever it
stops. -/
theorem reached_writeFields (he : e.Reached) (schemas : List FieldSchema) (values : List Value) :
    (Encoder.after (writeFields schemas values e)).Reached := by
  induction schemas generalizing values e with
  | nil => exact he
  | cons s schemas ih =>
    cases values with
    | nil => exact he
    | cons v values =>
      have hfirst : (Encoder.after (s.write v e)).Reached := by
        rw [FieldSchema.write]
        split
        · exact he.after_inHexadecimal v
        · exact he.after_write v
      rw [writeFields_cons_apply]
      cases hwrite : s.write v e with
      | ok _ e' =>
        rw [hwrite] at hfirst
        exact ih hfirst values
      | error f e' =>
        rw [hwrite] at hfirst
        exact hfirst

end Model

end Nmea0183
