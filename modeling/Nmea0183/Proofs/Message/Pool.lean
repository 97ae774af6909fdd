import Mathlib.Logic.Function.Basic
import Mathlib.Tactic.Common
import Nmea0183.Proofs.Message.Observation

/-!
# Pools of messages

Messages stand in the places of a pool, and a caller acts on them one after the other: makes one,
assigns an attribute, copies or moves one to another place, writes or reads its payload, encodes or
decodes.  An action that fails is reported, and the next one follows.  What an action may do to the
pool is `Action.Fulfilled`.  A routine that writes a payload is handed it, and leaves it as it is
(`Pool.perform_serialize`), whereas one that reads it may change it or answer with any other.
Whatever was done to a pool, each of its messages is either empty or valid, and the next action does
what it should and nothing else (`Pool.fulfilled_after_run`).  So the payload of a message keeps its
type until something else is put in its place (`Pool.type_run`).
-/

namespace Nmea0183

open Message (Attribute)

/-- What a caller does with the messages of a pool. -/
inductive Action (Place : Type) where
  /-- Puts a new message into a place. -/
  | create (r : Registry) (talker : Value) (candidate : Option Candidate) (code : Value) (i : Place)
  | assign (x : Attribute) (v : Value) (i : Place)
  | reset (i : Place)
  | copy (i target : Place)
  | take (i target : Place)
  | serialize (e : Encoder) (i : Place)
  | deserialize (d : Decoder) (i : Place)
  | encode (buffer : Option Buffer) (config : Config) (i : Place)
  /-- Puts what a line decodes to into a place. -/
  | decode (r : Registry) (template : Message.Template) (line : Line) (config : Config) (i : Place)

/-- The messages in the places of a pool. -/
abbrev Pool (Place : Type) := Place → Message

namespace Action

variable {Place : Type}

/-- The places where an action may change the message. -/
def places : Action Place → List Place
  | create _ _ _ _ i | assign _ _ i | reset i | deserialize _ i | encode _ _ i
  | decode _ _ _ _ i => [i]
  | copy _ target => [target]
  | take i target => [i, target]
  | serialize _ _ => []

/-- The places where an action may put another message. -/
def refilled : Action Place → List Place
  | create _ _ _ _ i | reset i | decode _ _ _ _ i => [i]
  | copy _ target => [target]
  | take i target => [i, target]
  | assign .. | serialize .. | deserialize .. | encode .. => []

/-- The action reads a payload, and so may change it also when it fails. -/
def isReading : Action Place → Bool
  | deserialize .. => true
  | _ => false

/-- An action that worked on a pool did what it should. -/
def Fulfilled (before after : Pool Place) (result : Except Fault Unit) : Action Place → Prop
  | create r talker candidate code i =>
    result = .ok () →
      ((after i = .empty ∧ talker = .null ∧ candidate = none ∧ code = .null) ∨
        ∃ (p : Payload) (t c : String), candidate = some (.payload p) ∧ talker = .text t ∧
          (code = .text c ∨ (code = .null ∧ ∃ c', r.codeFor p.type = .ok c' ∧ c'.text = c)) ∧
          (after i).observe = ⟨some p, some t, some c, 0, 0⟩)
  | assign x v i =>
    (result = .ok () ↔ (before i).isEmpty = false ∧ x.Takes v) ∧
      (result = .ok () → (after i).observe = (before i).observe.put x v)
  | reset i => result = .ok () ∧ after i = .empty
  | copy i target => result = .ok () ∧ after target = before i
  | take i target =>
    result = .ok () ∧ after target = before i ∧ (i ≠ target → after i = .empty)
  | serialize _ i => (before i).isEmpty = true → result = .error (.emptyMessage .serialize)
  | deserialize d i =>
    ((before i).isEmpty = true → result = .error (.emptyMessage .deserialize)) ∧
      (∃ payload, (after i).observe = { (before i).observe with payload } ∧
        payload.map Payload.type = (before i).payload?.map Payload.type) ∧
      ∀ h q r, before i = .held h → h.codec.reader.run ⟨h.payload, d⟩ = .ok (some q) r →
        (q.type = h.payload.type → result = .ok () ∧ (after i).payload? = some q) ∧
        (q.type ≠ h.payload.type →
          result = .error (.payloadType (.returned h.payload.type.name q.type.name)) ∧
          (after i).payload? = some (h.payload.reworked r.payload))
  | encode buffer config i =>
    ((before i).isEmpty = true → result = .error (.emptyMessage .encode)) ∧
      (result = .ok () → ∃ encoded checksum, (before i).encode buffer config = .ok encoded ∧
        (after i).observe =
          { (before i).observe with checksum, size := encoded.sentence.length })
  | decode r template line config i =>
    result = .ok () → Message.decode r template line config = .ok (after i)

end Action

namespace Pool

variable {Place : Type} [DecidableEq Place]

/-- Puts a message that was made into a place, unless it could not be made. -/
def store (pool : Pool Place) (i : Place) : Except Fault Message → Pool Place × Except Fault Unit
  | .ok m => (Function.update pool i m, .ok ())
  | .error f => (pool, .error f)

/-- Performs an action. -/
def perform (pool : Pool Place) : Action Place → Pool Place × Except Fault Unit
  | .create r talker candidate code i => pool.store i (Message.create r talker candidate code)
  | .assign x v i => pool.store i ((pool i).assign x v)
  | .reset i => (Function.update pool i .empty, .ok ())
  | .copy i target => (Function.update pool target (pool i), .ok ())
  | .take i target =>
    let (taken, left) := (pool i).take
    (Function.update (Function.update pool i left) target taken, .ok ())
  | .serialize e i =>
    match pool i with
    | .empty => (pool, .error (.emptyMessage .serialize))
    | .held h =>
      match h.codec.writer.run ⟨h.payload, e⟩ with
      | .ok _ w => (Function.update pool i (.held { h with payload := w.payload }), .ok ())
      | .error f w => (Function.update pool i (.held { h with payload := w.payload }), .error f)
  | .deserialize d i =>
    match Message.deserialize (pool i, d) with
    | .ok _ (m, _) => (Function.update pool i m, .ok ())
    | .error f (m, _) => (Function.update pool i m, .error f)
  | .encode buffer config i => pool.store i (((pool i).encode buffer config).map (·.message))
  | .decode r template line config i => pool.store i (Message.decode r template line config)

/-- Performs actions one after the other, also those that follow on a failure. -/
def run (pool : Pool Place) (history : List (Action Place)) : Pool Place :=
  history.foldl (fun pool a => (pool.perform a).1) pool

/-! ### Storing a message -/

/-- Only the place of a message is changed when it is stored. -/
lemma store_of_ne (pool : Pool Place) {i j : Place} (result : Except Fault Message) (h : j ≠ i) :
    (pool.store i result).1 j = pool j := by
  cases result with
  | error f => rfl
  | ok m => exact Function.update_of_ne h m pool

/-- What could not be made is not stored. -/
lemma store_of_error {pool : Pool Place} {i : Place} {result : Except Fault Message} {f : Fault}
    (h : (pool.store i result).2 = .error f) : (pool.store i result).1 = pool := by
  cases result with
  | error f => rfl
  | ok m => cases h

/-- What was made stands in its place. -/
lemma store_self (pool : Pool Place) (i : Place) (m : Message) :
    (pool.store i (.ok m)).1 i = m := by
  rw [store]
  exact Function.update_self ..

/-- What could be made stands in its place. -/
lemma store_of_ok {pool : Pool Place} {i : Place} {result : Except Fault Message}
    (h : (pool.store i result).2 = .ok ()) : result = .ok ((pool.store i result).1 i) := by
  cases result with
  | error f => cases h
  | ok m => exact congrArg Except.ok (store_self pool i m).symm

/-! ### One action -/

/-- Writing a payload changes no message, since the routine leaves the payload as it is. -/
lemma perform_serialize (pool : Pool Place) (e : Encoder) (i : Place) :
    pool.perform (.serialize e i) =
      match (pool i).serialize e with
      | .ok _ _ => (pool, .ok ())
      | .error f _ => (pool, .error f) := by
  rw [perform]
  cases hm : pool i with
  | empty => rfl
  | held h =>
    have hsame : Function.update pool i (.held { h with payload := h.payload }) = pool :=
      Function.update_eq_self_iff.2 hm.symm
    dsimp only [Message.serialize]
    rw [Writer.run_eq]
    cases h.codec.writer.write h.payload e with
    | ok _ e' => exact Prod.ext hsame rfl
    | error f e' => exact Prod.ext hsame rfl

/-- An action changes no message but those in its places. -/
lemma perform_of_notMem (pool : Pool Place) (a : Action Place) {i : Place} (h : i ∉ a.places) :
    (pool.perform a).1 i = pool i := by
  cases a with
  | create r talker candidate code j => exact store_of_ne pool _ (List.ne_of_not_mem_cons h)
  | assign x v j => exact store_of_ne pool _ (List.ne_of_not_mem_cons h)
  | encode buffer config j => exact store_of_ne pool _ (List.ne_of_not_mem_cons h)
  | decode r template line config j => exact store_of_ne pool _ (List.ne_of_not_mem_cons h)
  | reset j => exact Function.update_of_ne (List.ne_of_not_mem_cons h) _ pool
  | copy j target => exact Function.update_of_ne (List.ne_of_not_mem_cons h) _ pool
  | take j target =>
    have hj : i ≠ j := List.ne_of_not_mem_cons h
    have htarget : i ≠ target := List.ne_of_not_mem_cons (List.not_mem_of_not_mem_cons h)
    exact (Function.update_of_ne htarget _ _).trans (Function.update_of_ne hj _ pool)
  | serialize e j =>
    rw [perform_serialize]
    split <;> rfl
  | deserialize d j =>
    rw [perform]
    split <;> exact Function.update_of_ne (List.ne_of_not_mem_cons h) _ pool

/-- An action that fails leaves the pool as it was, unless it reads a payload. -/
lemma perform_of_error (pool : Pool Place) {a : Action Place} (ha : a.isReading = false) {f : Fault}
    (h : (pool.perform a).2 = .error f) : (pool.perform a).1 = pool := by
  cases a with
  | create r talker candidate code i => exact store_of_error h
  | assign x v i => exact store_of_error h
  | encode buffer config i => exact store_of_error h
  | decode r template line config i => exact store_of_error h
  | reset i => cases h
  | copy i target => cases h
  | take i target => cases h
  | serialize e i =>
    rw [perform_serialize]
    split <;> rfl
  | deserialize d i => cases ha

/-- A message is made of what is given. -/
lemma fulfilled_create (pool : Pool Place) (r : Registry) (talker : Value)
    (candidate : Option Candidate) (code : Value) (i : Place) :
    (Action.create r talker candidate code i).Fulfilled pool
      (pool.store i (Message.create r talker candidate code)).1
      (pool.store i (Message.create r talker candidate code)).2 := by
  intro hok
  rcases Message.create_eq_ok (store_of_ok hok) with hempty | ⟨given, rfl, hhold⟩
  · exact Or.inl hempty
  · obtain ⟨p, resolution, t, c, hm, -, rfl, htalker, hcode⟩ := Message.hold_eq_ok hhold
    refine Or.inr ⟨p, t.text, c.text, rfl, htalker, ?_, ?_⟩
    · exact hcode.imp_right fun ⟨hnull, hfor⟩ => ⟨hnull, c, hfor, rfl⟩
    · rw [hm]
      rfl

/-- An attribute is assigned just to a message that holds something, and just a value that the
attribute can have. -/
lemma fulfilled_assign (pool : Pool Place) (x : Attribute) (v : Value) (i : Place) :
    (Action.assign x v i).Fulfilled pool (pool.store i ((pool i).assign x v)).1
      (pool.store i ((pool i).assign x v)).2 := by
  cases hm : pool i with
  | empty =>
    obtain ⟨name, herror⟩ := Message.assign_empty x v
    rw [herror]
    constructor
    · refine iff_of_false nofun ?_
      rintro ⟨hempty, -⟩
      rw [hm] at hempty
      cases hempty
    · exact nofun
  | held h =>
    rcases Message.assign_held h x v with ⟨htakes, m, hok, hobserve⟩ | ⟨hno, f, herror⟩
    · rw [hok]
      constructor
      · exact iff_of_true rfl ⟨by rw [hm]; rfl, htakes⟩
      · intro _
        rw [hm, store_self, hobserve]
    · rw [herror]
      exact ⟨iff_of_false nofun fun h => hno h.2, nofun⟩

/-- What was read stands in the place of the message. -/
lemma deserialize_of_ok {pool : Pool Place} {d d' : Decoder} {i : Place} {m : Message}
    (h : Message.deserialize (pool i, d) = .ok () (m, d')) :
    (pool.perform (.deserialize d i)).2 = .ok () ∧ (pool.perform (.deserialize d i)).1 i = m := by
  rw [perform, h]
  exact ⟨rfl, Function.update_self ..⟩

/-- What was read until a failure stands in the place of the message. -/
lemma deserialize_of_error {pool : Pool Place} {d d' : Decoder} {i : Place} {m : Message}
    {f : Fault} (h : Message.deserialize (pool i, d) = .error f (m, d')) :
    (pool.perform (.deserialize d i)).2 = .error f ∧
      (pool.perform (.deserialize d i)).1 i = m := by
  rw [perform, h]
  exact ⟨rfl, Function.update_self ..⟩

/-- A payload is read in its place, or replaced by one of its type. -/
lemma fulfilled_deserialize (pool : Pool Place) (d : Decoder) (i : Place) :
    (Action.deserialize d i).Fulfilled pool (pool.perform (.deserialize d i)).1
      (pool.perform (.deserialize d i)).2 := by
  cases hm : pool i with
  | empty =>
    have hnothing : Message.deserialize (pool i, d)
        = .error (.emptyMessage .deserialize) (.empty, d) := by
      rw [hm]
      rfl
    obtain ⟨hresult, hafter⟩ := deserialize_of_error hnothing
    refine ⟨fun _ => hresult, ⟨none, ?_, ?_⟩, fun h q r hheld => ?_⟩
    · rw [hafter, hm]
      rfl
    · rw [hm]
      rfl
    · rw [hm] at hheld
      cases hheld
  | held h =>
    obtain ⟨⟨p, d', htype, hends⟩, hanswer⟩ := Message.deserialize_held h d
    rw [← hm] at hends hanswer
    refine ⟨fun hempty => ?_, ⟨some p, ?_, ?_⟩, fun h' q r hheld hrun => ?_⟩
    · rw [hm] at hempty
      cases hempty
    · have hafter : (pool.perform (.deserialize d i)).1 i = .held { h with payload := p } := by
        rcases hends with hok | ⟨f, herror⟩
        · exact (deserialize_of_ok hok).2
        · exact (deserialize_of_error herror).2
      rw [hafter, hm]
      rfl
    · rw [hm]
      exact congrArg some htype
    · rw [hm] at hheld
      cases hheld
      obtain ⟨hsame, hother⟩ := hanswer q r hrun
      constructor
      · intro hq
        obtain ⟨hresult, hafter⟩ := deserialize_of_ok (hsame hq)
        exact ⟨hresult, congrArg Message.payload? hafter⟩
      · intro hq
        obtain ⟨hresult, hafter⟩ := deserialize_of_error (hother hq)
        exact ⟨hresult, congrArg Message.payload? hafter⟩

/-- A message that is encoded notes the checksum and the size of the sentence. -/
lemma fulfilled_encode (pool : Pool Place) (buffer : Option Buffer) (config : Config) (i : Place) :
    (Action.encode buffer config i).Fulfilled pool
      (pool.store i (((pool i).encode buffer config).map (·.message))).1
      (pool.store i (((pool i).encode buffer config).map (·.message))).2 := by
  cases hm : pool i with
  | empty =>
    have hencode : Message.empty.encode buffer config = .error (.emptyMessage .encode) := rfl
    rw [hencode]
    exact ⟨fun _ => rfl, nofun⟩
  | held h =>
    refine ⟨fun hempty => ?_, fun hok => ?_⟩
    · rw [hm] at hempty
      cases hempty
    · cases hencode : (Message.held h).encode buffer config with
      | error f =>
        rw [hencode] at hok
        cases hok
      | ok encoded =>
        obtain ⟨-, -, -, e, -, -, -, hmessage⟩ := Message.exists_of_encode hencode
        refine ⟨encoded, (e.checksum.getD 0).toNat, by rw [hm, hencode], ?_⟩
        rw [Except.map, store_self, hmessage, hm]
        rfl

/-- An action does what it should. -/
lemma fulfilled_perform (pool : Pool Place) (a : Action Place) :
    a.Fulfilled pool (pool.perform a).1 (pool.perform a).2 := by
  cases a with
  | create r talker candidate code i => exact fulfilled_create pool r talker candidate code i
  | assign x v i => exact fulfilled_assign pool x v i
  | reset i => exact ⟨rfl, Function.update_self ..⟩
  | copy i target => exact ⟨rfl, Function.update_self ..⟩
  | take i target =>
    refine ⟨rfl, Function.update_self .., fun hne => ?_⟩
    exact (Function.update_of_ne hne _ _).trans (Function.update_self ..)
  | serialize e i =>
    intro hempty
    cases hm : pool i with
    | empty =>
      rw [perform_serialize, hm]
      rfl
    | held h =>
      rw [hm] at hempty
      cases hempty
  | deserialize d i => exact fulfilled_deserialize pool d i
  | encode buffer config i => exact fulfilled_encode pool buffer config i
  | decode r template line config i => exact fun hok => store_of_ok hok

/-- The payload of a message keeps its type, unless the action puts another message there. -/
lemma type_perform (pool : Pool Place) (a : Action Place) {i : Place} (h : i ∉ a.refilled) :
    ((pool.perform a).1 i).type = (pool i).type := by
  by_cases hplace : i ∉ a.places
  · rw [perform_of_notMem pool a hplace]
  have hfulfilled := fulfilled_perform pool a
  -- where a success keeps the payload, a failure keeps all
  have hkept : a.isReading = false →
      ((pool.perform a).2 = .ok () →
        ((pool.perform a).1 i).observe.payload = (pool i).observe.payload) →
      ((pool.perform a).1 i).type = (pool i).type := by
    intro ha hpayload
    cases hresult : (pool.perform a).2 with
    | error f => rw [perform_of_error pool ha hresult]
    | ok _ => exact Message.type_eq_of_observe (congrArg _ (hpayload hresult))
  cases a with
  | create r talker candidate code j => exact absurd h hplace
  | reset j => exact absurd h hplace
  | copy j target => exact absurd h hplace
  | take j target => exact absurd h hplace
  | decode r template line config j => exact absurd h hplace
  | serialize e j => exact absurd List.not_mem_nil hplace
  | assign x v j =>
    obtain rfl : i = j := List.mem_singleton.1 (not_not.1 hplace)
    refine hkept rfl fun hok => ?_
    rw [hfulfilled.2 hok, Message.Observation.payload_put]
  | encode buffer config j =>
    obtain rfl : i = j := List.mem_singleton.1 (not_not.1 hplace)
    refine hkept rfl fun hok => ?_
    obtain ⟨encoded, checksum, -, hobserve⟩ := hfulfilled.2 hok
    rw [hobserve]
  | deserialize d j =>
    obtain rfl : i = j := List.mem_singleton.1 (not_not.1 hplace)
    obtain ⟨-, ⟨payload, hobserve, htype⟩, -⟩ := hfulfilled
    refine Message.type_eq_of_observe ?_
    rw [hobserve]
    exact htype

/-! ### Histories -/

/-- The payload of a message keeps its type as long as no other message is put there. -/
theorem type_run (pool : Pool Place) {history : List (Action Place)} {i : Place}
    (h : ∀ a ∈ history, i ∉ a.refilled) : (pool.run history i).type = (pool i).type := by
  induction history generalizing pool with
  | nil => rfl
  | cons a history ih =>
    obtain ⟨ha, hrest⟩ := List.forall_mem_cons.1 h
    exact (ih (pool.perform a).1 hrest).trans (type_perform pool a ha)

/-- Whatever was done to a pool, every message is empty, or holds a payload under a valid header
with a checksum of one byte and a size.  The next action changes no message but those in its places,
changes nothing if it fails, unless it reads a payload, and does what it should. -/
theorem fulfilled_after_run (pool : Pool Place) (history : List (Action Place))
    (a : Action Place) :
    let before := pool.run history
    let after := (before.perform a).1
    let result := (before.perform a).2
    (∀ i, (before i).observe.Valid ∧
      ((before i).isEmpty = true ↔ (before i).observe.payload = none) ∧
      ((before i).validateHeader = .ok () ↔ (before i).isEmpty = false)) ∧
    (∀ i, i ∉ a.places → after i = before i) ∧
    (∀ f, result = .error f → a.isReading = false → after = before) ∧
    a.Fulfilled before after result := by
  intro before after result
  refine ⟨fun i => ⟨Message.observe_valid _, ?_, Message.validateHeader_eq_ok_iff _⟩,
    fun i => perform_of_notMem before a, fun f hf ha => perform_of_error before ha hf,
    fulfilled_perform before a⟩
  cases before i with
  | empty => exact iff_of_true rfl rfl
  | held h => exact iff_of_false nofun nofun

end Pool

end Nmea0183
