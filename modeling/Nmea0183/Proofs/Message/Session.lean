import Mathlib.Logic.Function.Basic
import Mathlib.Data.List.Basic
import Mathlib.Data.List.Induction
import Mathlib.Tactic.Common
import Nmea0183.Proofs.Message.Decoding
import Nmea0183.Proofs.Message.Pool
import Nmea0183.Proofs.Message.Registration

/-!
# Messages beside changing registrations

A program registers routines, takes registrations back, and works with messages, in any order.  The
registrations are looked at when a message is built, and never again: each message, and each copy of
it, has the routines that its type was resolved to then (`Session.routed_run`), and what becomes of
messages that are there does not depend on the registrations (`Session.pool_run`).  Together with
the history of the registrations this is
`Session.first_registrations_stand_and_messages_keep_routines`.
-/

namespace Nmea0183

/-! ### The routines of a message -/

namespace Message

/-- The type of the payload and the routines for it, which an empty message lacks. -/
def routines : Message → Option (PayloadType × Codec)
  | empty => none
  | held h => some (h.payload.type, h.codec)

/-- A message has the routines to which some registrations resolve its type. -/
def RoutedBy (r : Registry) (m : Message) : Prop :=
  ∀ type codec, m.routines = some (type, codec) →
    ∃ resolution, r.codecFor type = .ok resolution ∧ codec = resolution.codec

variable {r : Registry} {m m' : Message}

/-- An empty message has no routines. -/
lemma routedBy_empty (r : Registry) : empty.RoutedBy r :=
  nofun

/-- With the same routines a message is resolved by the same registrations. -/
lemma RoutedBy.of_routines_eq (h : m.RoutedBy r) (hsame : m'.routines = m.routines) :
    m'.RoutedBy r := by
  rw [RoutedBy, hsame]
  exact h

/-- What is held has the routines to which the registrations resolve its type. -/
lemma routedBy_of_hold {talker code : Value} {candidate : Candidate}
    (hok : hold r talker candidate code = .ok m) : m.RoutedBy r := by
  obtain ⟨p, resolution, t, c, rfl, hresolution, -⟩ := hold_eq_ok hok
  intro type codec hroutines
  cases hroutines
  exact ⟨resolution, hresolution, rfl⟩

/-- What is made has the routines to which the registrations resolve its type. -/
lemma routedBy_of_create {talker code : Value} {candidate : Option Candidate}
    (hok : create r talker candidate code = .ok m) : m.RoutedBy r := by
  rcases create_eq_ok hok with ⟨rfl, -⟩ | ⟨c, -, hhold⟩
  · exact routedBy_empty r
  · exact routedBy_of_hold hhold

/-- An assignment keeps the routines. -/
lemma routines_assign {x : Attribute} {v : Value} (hok : m.assign x v = .ok m') :
    m'.routines = m.routines := by
  cases m with
  | empty =>
    obtain ⟨name, herror⟩ := assign_empty x v
    rw [herror] at hok
    cases hok
  | held h =>
    cases x with
    | talker =>
      obtain ⟨t, -, hok⟩ := bind_eq_ok_iff.1 hok
      cases hok
      rfl
    | code =>
      obtain ⟨c, -, hok⟩ := bind_eq_ok_iff.1 hok
      cases hok
      rfl
    | checksum =>
      rw [assign, setChecksum] at hok
      split at hok
      · split at hok
        · cases hok
          rfl
        · cases hok
      · cases hok
    | size =>
      rw [assign, setSize] at hok
      split at hok
      · split at hok
        · cases hok
          rfl
        · cases hok
      · cases hok

/-- Reading keeps the routines, whether it succeeds or not. -/
lemma routines_deserialize {d d' : Decoder}
    (hends : deserialize (m, d) = .ok () (m', d') ∨
      ∃ f, deserialize (m, d) = .error f (m', d')) : m'.routines = m.routines := by
  cases m with
  | empty =>
    rcases hends with hok | ⟨f, herror⟩
    · cases hok
    · cases herror
      rfl
  | held h =>
    obtain ⟨⟨p, _, htype, hends'⟩, -⟩ := deserialize_held h d
    have hm' : m' = held { h with payload := p } := by
      rcases hends' with hok | ⟨f, herror⟩
      · simp only [hok, EStateM.Result.ok.injEq, reduceCtorEq, exists_false, or_false] at hends
        exact (Prod.ext_iff.1 hends.2).1.symm
      · simp only [herror, EStateM.Result.error.injEq, reduceCtorEq, false_or] at hends
        obtain ⟨-, -, hends⟩ := hends
        exact (Prod.ext_iff.1 hends).1.symm
    rw [hm', routines, routines, htype]

/-- Encoding keeps the routines. -/
lemma routines_encode {buffer : Option Buffer} {config : Config} {encoded : Encoded}
    (hok : m.encode buffer config = .ok encoded) : encoded.message.routines = m.routines := by
  cases m with
  | empty => cases hok
  | held h =>
    obtain ⟨_, _, _, _, -, -, -, hmessage⟩ := exists_of_encode hok
    rw [hmessage]
    rfl

/-- What a line decodes to has the routines to which the registrations resolve its type. -/
lemma routedBy_of_decode {template : Template} {line : Line} {config : Config}
    (hok : decode r template line config = .ok m) : m.RoutedBy r := by
  obtain ⟨_, _, _, m₀, m₁, d, hhold, hread, hm⟩ := exists_of_decode hok
  have hsame : m.routines = m₁.routines := by
    rcases hm with ⟨rfl, rfl⟩ | ⟨h, _, _, rfl, rfl⟩
    · rfl
    · rfl
  exact (routedBy_of_hold hhold).of_routines_eq (hsame.trans (routines_deserialize (Or.inl hread)))

end Message

/-! ### Sessions -/

namespace Action

variable {Place : Type}

/-- The action with other registrations to look at. -/
def under (r : Registry) : Action Place → Action Place
  | create _ talker candidate code i => create r talker candidate code i
  | decode _ template line config i => decode r template line config i
  | a => a

/-- The action looks at the registrations, to build a message. -/
def isBuilding : Action Place → Bool
  | create .. | decode .. => true
  | _ => false

/-- The registrations under which the messages were built, after an action that worked: a new
message was built under those that stand, and a copy or a moved one under those of the original. -/
def traced [DecidableEq Place] (standing : Registry) (builtUnder : Place → Registry) :
    Action Place → Place → Registry
  | create _ _ _ _ i | decode _ _ _ _ i => Function.update builtUnder i standing
  | copy i target | take i target => Function.update builtUnder target (builtUnder i)
  | _ => builtUnder

/-- An action that builds nothing does not look at the registrations. -/
lemma under_of_not_isBuilding (r : Registry) {a : Action Place} (h : a.isBuilding = false) :
    a.under r = a := by
  cases a with
  | create | decode => cases h
  | _ => rfl

/-- A message was built under the registrations that stand, or is one that was there, or a copy of
one. -/
lemma traced_cases [DecidableEq Place] (standing : Registry) (builtUnder : Place → Registry)
    (a : Action Place) (i : Place) :
    a.traced standing builtUnder i = standing ∨
      ∃ j, a.traced standing builtUnder i = builtUnder j := by
  have hupdate : ∀ j r, Function.update builtUnder j r i = r ∨
      ∃ k, Function.update builtUnder j r i = builtUnder k := by
    intro j r
    rcases eq_or_ne i j with rfl | hne
    · exact Or.inl (Function.update_self ..)
    · exact Or.inr ⟨i, Function.update_of_ne hne ..⟩
  cases a with
  | create _ _ _ _ j => exact hupdate j standing
  | decode _ _ _ _ j => exact hupdate j standing
  | copy j target => exact Or.inr ((hupdate target (builtUnder j)).elim (fun h => ⟨j, h⟩) id)
  | take j target => exact Or.inr ((hupdate target (builtUnder j)).elim (fun h => ⟨j, h⟩) id)
  | _ => exact Or.inr ⟨i, rfl⟩

end Action

/-- What happens in a session. -/
inductive Event (Place : Type) where
  | call (c : Registry.Call)
  | act (a : Action Place)

namespace Event

variable {Place : Type}

/-- The call that changes the registrations. -/
def call? : Event Place → Option Registry.Call
  | call c => some c
  | act _ => none

/-- The action on the messages. -/
def act? : Event Place → Option (Action Place)
  | call _ => none
  | act a => some a

/-- The event builds a message. -/
def isBuilding : Event Place → Bool
  | call _ => false
  | act a => a.isBuilding

end Event

/-- The registrations and the messages of a program, and for each place the registrations under
which the message in it was built. -/
structure Session (Place : Type) where
  registry : Registry
  pool : Pool Place
  builtUnder : Place → Registry

namespace Session

variable {Place : Type}

/-- Nothing is registered, and all messages are empty. -/
def start (own : RecordType → OwnRoutines) : Session Place where
  registry := { own }
  pool := fun _ => .empty
  builtUnder := fun _ => { own }

variable [DecidableEq Place]

/-- What one event does: a call changes the registrations, and an action works on the messages under
the registrations that stand. -/
def step (s : Session Place) : Event Place → Session Place
  | .call c => { s with registry := (s.registry.perform c).1 }
  | .act a =>
    let (pool, result) := s.pool.perform (a.under s.registry)
    let builtUnder :=
      match result with
      | .ok () => a.traced s.registry s.builtUnder
      | .error _ => s.builtUnder
    { s with pool, builtUnder }

/-- What happens one after the other. -/
def run (s : Session Place) (events : List (Event Place)) : Session Place :=
  events.foldl step s

/-- Each message has the routines to which its type was resolved when it was built. -/
def Routed (s : Session Place) : Prop :=
  ∀ i, (s.pool i).RoutedBy (s.builtUnder i)

variable {s : Session Place}

/-- A message that stands in a place has the routines that are noted for the place. -/
lemma Routed.update (h : s.Routed) {i : Place} {m : Message} {r : Registry} (hm : m.RoutedBy r)
    (j : Place) :
    (Function.update s.pool i m j).RoutedBy (Function.update s.builtUnder i r j) := by
  rcases eq_or_ne j i with rfl | hne
  · rw [Function.update_self, Function.update_self]
    exact hm
  · rw [Function.update_of_ne hne, Function.update_of_ne hne]
    exact h j

/-- A message that is changed in its place keeps the routines that are noted for the place. -/
lemma Routed.change (h : s.Routed) {i : Place} {m : Message} (hm : m.RoutedBy (s.builtUnder i))
    (j : Place) : (Function.update s.pool i m j).RoutedBy (s.builtUnder j) := by
  rw [← Function.update_eq_self i s.builtUnder]
  exact h.update hm j

/-- An event leaves to each message the routines to which its type was resolved. -/
theorem routed_step (h : s.Routed) (e : Event Place) : (s.step e).Routed := by
  cases e with
  | call c => exact h
  | act a =>
    intro j
    cases a with
    | create _ talker candidate code i =>
      rw [step, Action.under, Pool.perform]
      cases hresult : Message.create s.registry talker candidate code with
      | error f => exact h j
      | ok m => exact h.update (Message.routedBy_of_create hresult) j
    | decode _ template line config i =>
      rw [step, Action.under, Pool.perform]
      cases hresult : Message.decode s.registry template line config with
      | error f => exact h j
      | ok m => exact h.update (Message.routedBy_of_decode hresult) j
    | assign x v i =>
      rw [step, Action.under_of_not_isBuilding s.registry rfl, Pool.perform]
      cases hresult : (s.pool i).assign x v with
      | error f => exact h j
      | ok m => exact h.change ((h i).of_routines_eq (Message.routines_assign hresult)) j
    | encode buffer config i =>
      rw [step, Action.under_of_not_isBuilding s.registry rfl, Pool.perform]
      cases hresult : (s.pool i).encode buffer config with
      | error f => exact h j
      | ok encoded => exact h.change ((h i).of_routines_eq (Message.routines_encode hresult)) j
    | deserialize d i =>
      rw [step, Action.under_of_not_isBuilding s.registry rfl, Pool.perform]
      cases hresult : Message.deserialize (s.pool i, d) with
      | error f after =>
        have hsame := Message.routines_deserialize (Or.inr ⟨f, hresult⟩)
        exact h.change ((h i).of_routines_eq hsame) j
      | ok _ after =>
        have hsame := Message.routines_deserialize (Or.inl hresult)
        exact h.change ((h i).of_routines_eq hsame) j
    | serialize e i =>
      rw [step, Action.under_of_not_isBuilding s.registry rfl, Pool.perform_serialize]
      cases (s.pool i).serialize e <;> exact h j
    | reset i => exact h.change (Message.routedBy_empty _) j
    | copy i target => exact h.update (h i) j
    | take i target =>
      have hleft : Routed { s with pool := Function.update s.pool i .empty } :=
        h.change (Message.routedBy_empty _)
      exact hleft.update (h i) j

/-- In a run each message keeps the routines to which its type was resolved. -/
theorem routed_run (h : s.Routed) (events : List (Event Place)) : (s.run events).Routed := by
  induction events generalizing s with
  | nil => exact h
  | cons e events ih => exact ih (routed_step h e)

/-- Only the calls change the registrations. -/
theorem registry_run (s : Session Place) (events : List (Event Place)) :
    (s.run events).registry = s.registry.run (events.filterMap Event.call?) := by
  induction events generalizing s with
  | nil => rfl
  | cons e events ih =>
    rw [run, List.foldl_cons]
    refine (ih (s.step e)).trans ?_
    cases e <;> rfl

/-- Unless a message is built, what becomes of the messages does not depend on the registrations,
nor on the calls that change them. -/
theorem pool_run (s : Session Place) {events : List (Event Place)}
    (h : ∀ e ∈ events, e.isBuilding = false) :
    (s.run events).pool = s.pool.run (events.filterMap Event.act?) := by
  induction events generalizing s with
  | nil => rfl
  | cons e events ih =>
    obtain ⟨he, hrest⟩ := List.forall_mem_cons.1 h
    rw [run, List.foldl_cons]
    refine (ih (s.step e) hrest).trans ?_
    cases e with
    | call c => rfl
    | act a =>
      have hpool : (s.step (.act a)).pool = (s.pool.perform a).1 := by
        rw [step, Action.under_of_not_isBuilding s.registry he]
      rw [hpool]
      rfl

/-- The registrations under which a message was built are those that stood at some time. -/
theorem builtUnder_run (own : RecordType → OwnRoutines) (events : List (Event Place)) (i : Place) :
    ∃ before after, events = before ++ after ∧
      ((start own).run events).builtUnder i = ((start own).run before).registry := by
  -- from the end, since an event may move a message to the place
  induction events using List.reverseRecOn generalizing i with
  | nil => exact ⟨[], [], rfl, rfl⟩
  | append_singleton events e ih =>
    have hstep : ∀ s : Session Place, (s.step e).builtUnder i = s.registry ∨
        ∃ j, (s.step e).builtUnder i = s.builtUnder j := by
      intro s
      cases e with
      | call c => exact Or.inr ⟨i, rfl⟩
      | act a =>
        rw [step]
        rcases s.pool.perform (a.under s.registry) with ⟨pool, f | _⟩
        · exact Or.inr ⟨i, rfl⟩
        · exact a.traced_cases s.registry s.builtUnder i
    rw [run, List.foldl_concat]
    rcases hstep ((start own).run events) with hnow | ⟨j, hearlier⟩
    · exact ⟨events, [e], rfl, hnow⟩
    · obtain ⟨before, after, hevents, hbuilt⟩ := ih j
      refine ⟨before, after ++ [e], ?_, hearlier.trans hbuilt⟩
      rw [hevents, List.append_assoc]

/-- At any time of a session the registration of a type is the first valid one since the type was
last taken back, and its routines and its message code are those of the type.  The next call does
what it should, and changes nothing if it fails.  Each message has the routines to which its type
was resolved when the message was built, or the one that it is a copy of.  Whatever happens later,
as long as no message is built, the messages become what they would without any calls: so a message
writes and reads as before, whatever is registered or taken back. -/
theorem first_registrations_stand_and_messages_keep_routines (own : RecordType → OwnRoutines)
    (events : List (Event Place)) :
    let s := (start own).run events
    (∀ type, s.registry.find? type =
      Registry.firstSince (events.filterMap Event.call?) type) ∧
    (∀ type e, s.registry.find? type = some e →
      s.registry.codecFor type = .ok
        { codec := e.codec
          code := (e.code.map fun c => Value.text c.text).getD .null
          registered := true } ∧
      ∀ c, e.code = some c → Message.IsToken 3 c.text ∧
        s.registry.codeFor? type = .ok (some c) ∧ s.registry.codeFor type = .ok c) ∧
    (∀ c : Registry.Call,
      c.Fulfilled s.registry (s.registry.perform c).1 (s.registry.perform c).2) ∧
    (∀ type writer reader code,
      (Registry.Call.register type writer reader code).registration?.isSome = true ↔
        writer.isSome = true ∧ reader.isSome = true ∧
          (code = .null ∨ ∃ t, code = .text t ∧ Message.IsToken 3 t)) ∧
    (∀ i h, s.pool i = .held h → ∃ before after resolution, events = before ++ after ∧
      s.builtUnder i = ((start own).run before).registry ∧
      (s.builtUnder i).codecFor h.payload.type = .ok resolution ∧
      h.codec = resolution.codec ∧
      (s.pool i).serialize = resolution.codec.writer.write h.payload) ∧
    (∀ later, (∀ e ∈ later, e.isBuilding = false) →
      (s.run later).pool = s.pool.run (later.filterMap Event.act?)) ∧
    ∀ (calls : List Registry.Call) (i : Place),
      ((s.run (calls.map .call)).pool i).serialize = (s.pool i).serialize ∧
      ∀ d, Message.deserialize ((s.run (calls.map .call)).pool i, d) =
        Message.deserialize (s.pool i, d) := by
  intro s
  refine ⟨?_, ?_, ?_, ?_, ?_, ?_, ?_⟩
  · intro type
    rw [registry_run]
    exact Registry.find?_run rfl _ type
  · intro type e hfind
    obtain ⟨hcodec, hcode⟩ := Registry.resolved_of_find? hfind
    exact ⟨hcodec, fun c hc => ⟨Message.isToken_text c, hcode c hc⟩⟩
  · exact Registry.fulfilled_perform s.registry
  · exact Registry.isSome_registration?_iff
  · intro i h hheld
    obtain ⟨before, after, hevents, hbuilt⟩ := builtUnder_run own events i
    have hrouted : (s.pool i).RoutedBy (s.builtUnder i) :=
      routed_run (fun j => Message.routedBy_empty _) events i
    rw [hheld] at hrouted ⊢
    obtain ⟨resolution, hresolution, hcodec⟩ := hrouted _ _ rfl
    refine ⟨before, after, resolution, hevents, hbuilt, hresolution, hcodec, ?_⟩
    rw [Message.serialize, hcodec]
  · exact fun later => pool_run s
  · intro calls i
    have hkept : (s.run (calls.map .call)).pool = s.pool := by
      rw [pool_run s (by simp [Event.isBuilding]), List.filterMap_map]
      have hnone : Event.act? ∘ Event.call = fun _ => (none : Option (Action Place)) := rfl
      rw [hnone, List.filterMap_none]
      rfl
    rw [hkept]
    exact ⟨rfl, fun d => rfl⟩

end Session

end Nmea0183
