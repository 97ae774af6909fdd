import Mathlib.Tactic.Common
import Nmea0183.Line
import Nmea0183.Proofs.Decoder.Handling
import Nmea0183.Proofs.Decoder.Taking

/-!
# Reads go by place

Whatever was done with a decoder before, a reset leaves it as it was made (`reset_applyAll`).  From
there on the reads go through the fields one by one: behind any steps of which `k` are reads the
decoder stands at the field `k + 1` (`standsAt_mapM_run`), so that the next read sees just that
field, adds at most one complaint, which names that field, and leaves all earlier complaints as
they are (`read_after_steps`).  Behind the last field every read is the same complaint again.  A
read that ends with a fault goes by place like any other: it leaves no complaint, and the next read
sees the next field.
-/

namespace Nmea0183

namespace Decoder

/-! ### What a caller can do -/

/-- The ways to take the next field. -/
inductive Read where
  | int
  | uint
  | float
  | register
  | string
  | bool
  | member (e : Enumeration)
  /-- The field as it stands. -/
  | next
  deriving DecidableEq, Repr

/-- A field as a caller gets it as it stands: its text, or nothing. -/
def plain : Option (List Char) → Value
  | none => .null
  | some text => .text (String.ofList text)

namespace Read

/-- Takes the next field. -/
def run : Read → Decoding (Except Fault Value)
  | int => Except.map Value.int <$> take FieldReader.int
  | uint => Except.map (fun n : Nat => Value.int n) <$> take FieldReader.uint
  | float => Except.map Value.float <$> take FieldReader.float
  | register => Except.map Value.register <$> take FieldReader.register
  | string => Except.map Value.text <$> take FieldReader.string
  | bool => Except.map Value.bool <$> take FieldReader.bool
  | member e => take (FieldReader.member e)
  | next => (fun text? => .ok (plain text?)) <$> next?

/-- The reader that knows what is made of a text. -/
def reader : Read → FieldReader Value
  | int => FieldReader.int.map .int
  | uint => FieldReader.uint.map fun n : Nat => .int n
  | float => FieldReader.float.map .float
  | register => FieldReader.register.map .register
  | string => FieldReader.string.map .text
  | bool => FieldReader.bool.map .bool
  | member e => FieldReader.member e
  | next => { fallback := .null, read := fun text => .ok (.text (String.ofList text)) }

/-- The answer that stands in for a field that is not there or cannot be read. -/
def zero : Read → Value
  | int => .int 0
  | uint => .int 0
  | float => .float (.zero false)
  | register => .register ⟨0⟩
  | string => .text ""
  | bool => .bool false
  | member _ => .null
  | next => .null

/-- Each reader falls back to its zero. -/
lemma fallback_reader (r : Read) : r.reader.fallback = r.zero := by
  cases r <;> rfl

/-- Each reader handles the texts within the limit on digits; that of an enumeration does if it has
a member. -/
lemma handles_reader {r : Read} (hmembers : ∀ e, r = member e → e.members ≠ [])
    {text : List Char} (h : text.length ≤ Numeral.digitLimit) : r.reader.Handles text := by
  cases r with
  | int => exact (FieldReader.handles_int h).map _
  | uint => exact (FieldReader.handles_uint h).map _
  | float => exact (FieldReader.handles_float text).map _
  | register => exact (FieldReader.handles_register text).map _
  | string => exact (FieldReader.handles_string text).map _
  | bool => exact (FieldReader.handles_bool text).map _
  | member e => exact FieldReader.handles_member (hmembers e rfl) h
  | next => exact fun _ => nofun

end Read

/-- A step through the fields. -/
inductive Step where
  | read (r : Read)
  | peek
  deriving DecidableEq, Repr

namespace Step

/-- Takes the next field, or looks at it as it stands. -/
def run : Step → Decoding (Except Fault Value)
  | read r => r.run
  | peek => fun d => (.ok (plain d.peek?), d)

/-- The step takes a field. -/
def isRead : Step → Bool
  | read _ => true
  | peek => false

end Step

/-- Anything that can be done with a decoder. -/
inductive Action where
  | step (s : Step)
  | reset
  | flagLast (expected reason : String)
  | flagAt (expected reason : String) (index : Int)
  deriving DecidableEq, Repr

/-- The decoder that an action leaves, also if it fails. -/
def Action.apply : Action → Decoder → Decoder
  | step s, d => (s.run d).2
  | reset, d => (Decoder.reset d).2
  | flagLast expected reason, d => (Decoder.flagLast expected reason d).2
  | flagAt expected reason index, d =>
    match d.flagAt expected reason index with
    | .ok d' => d'
    | .error _ => d

/-- The decoder that a history of actions leaves. -/
def applyAll (actions : List Action) (d : Decoder) : Decoder :=
  actions.foldl (fun d a => a.apply d) d

/-! ### One read -/

/-- Wrapped answers are those of the reader, wrapped. -/
lemma take_map {α β : Type} (f : α → β) (r : FieldReader α) :
    take (r.map f) = Except.map f <$> take r := by
  funext d
  change take (r.map f) d = ((take r d).1.map f, (take r d).2)
  cases hpeek : d.peek? with
  | none => rw [take_of_none hpeek, take_of_none hpeek]; rfl
  | some text =>
    rw [take_of_some hpeek, take_of_some hpeek]
    dsimp only [FieldReader.map]
    rcases r.read text with (c | f) | a <;> rfl

/-- Every read is that of its reader. -/
lemma Read.run_eq_take (r : Read) : r.run = take r.reader := by
  cases r with
  | member e => rfl
  | next =>
    funext d
    change ((.ok (plain (next? d).1) : Except Fault Value), (next? d).2) = _
    cases hpeek : d.peek? with
    | none => rw [take_of_none hpeek, next?, hpeek]; rfl
    | some text => rw [take_of_some hpeek, next?_of_some hpeek]; rfl
  | _ => rw [run, ← take_map, reader]

/-- A reader leaves the sentence as it is, and goes on behind the next field. -/
lemma take_eq_pass {α : Type} (r : FieldReader α) (d : Decoder) :
    (take r d).2.sentence = d.sentence ∧ (take r d).2.cursor = d.pass.cursor := by
  unfold pass
  cases hpeek : d.peek? with
  | none =>
    rw [take_of_none hpeek]
    exact ⟨rfl, rfl⟩
  | some text =>
    rw [take_of_some hpeek]
    dsimp only [Option.isSome_some]
    rcases r.read text with (c | f) | a <;> exact ⟨rfl, rfl⟩

/-- A reader goes on to the next place. -/
lemma StandsAt.take {α : Type} {d : Decoder} {k stop : Nat} (h : d.StandsAt k stop)
    (r : FieldReader α) : (take r d).2.StandsAt (k + 1) stop := by
  obtain ⟨hsentence, hcursor⟩ := take_eq_pass r d
  obtain ⟨hk, hstop⟩ := h.pass
  rw [d.sentence_pass.1] at hstop
  constructor
  · rw [hcursor, hk]
  · rw [hcursor, hsentence, hstop]

/-! ### Rows of steps -/

/-- A step leaves the sentence as it is. -/
lemma sentence_run (s : Step) (d : Decoder) : (s.run d).2.sentence = d.sentence := by
  cases s with
  | read r =>
    rw [Step.run, r.run_eq_take]
    exact (take_eq_pass r.reader d).1
  | peek => rfl

/-- A step goes on to the next place if it is a read. -/
lemma StandsAt.run {d : Decoder} {k stop : Nat} (h : d.StandsAt k stop) (s : Step) :
    (s.run d).2.StandsAt (k + [s].countP Step.isRead) stop := by
  cases s with
  | read r =>
    rw [Step.run, r.run_eq_take]
    exact h.take r.reader
  | peek => exact h

/-- A row of steps goes on by as many places as there are reads in it. -/
lemma standsAt_mapM_run {d : Decoder} {k stop : Nat} (h : d.StandsAt k stop) (steps : List Step) :
    ((steps.mapM Step.run) d).2.StandsAt (k + steps.countP Step.isRead) stop ∧
      ((steps.mapM Step.run) d).2.sentence = d.sentence := by
  induction steps generalizing d k with
  | nil => exact ⟨h, rfl⟩
  | cons s steps ih =>
    obtain ⟨hstands, hsentence⟩ := ih (h.run s)
    have hrun : ((s :: steps).mapM Step.run d).2 = ((steps.mapM Step.run) (s.run d).2).2 := by
      rw [List.mapM_cons]
      rfl
    have hcount : (s :: steps).countP Step.isRead =
        [s].countP Step.isRead + steps.countP Step.isRead := by
      rw [← List.countP_append, List.singleton_append]
    rw [hrun, hcount, ← Nat.add_assoc]
    exact ⟨hstands, hsentence.trans (sentence_run s d)⟩

/-! ### Histories -/

/-- A decoder that can come about stands somewhere behind the header, at most behind the last
field. -/
structure Placed (d : Decoder) : Prop where
  one_le : 1 ≤ d.cursor
  le_end : d.cursor ≤ max 1 d.sentence.fields.length

/-- The end of such a decoder is behind the last field, or behind the header if there is none. -/
lemma Placed.standsAt {d : Decoder} (h : d.Placed) :
    d.StandsAt d.cursor (max 1 d.sentence.fields.length) := by
  obtain ⟨hone, hend⟩ := h
  have hstop : max d.cursor d.sentence.fields.length = max 1 d.sentence.fields.length := by omega
  rw [← hstop]
  exact d.standsAt_cursor

/-- Wherever a decoder goes on to, it is placed. -/
lemma StandsAt.placed {d : Decoder} {k : Nat} (h : d.StandsAt k (max 1 d.sentence.fields.length))
    (hk : 1 ≤ k) : d.Placed := by
  have hcursor := h.cursor_eq
  constructor <;> omega

/-- A decoder is placed when it is made. -/
lemma placed_ofBytes (line : Bytes) : (ofBytes line).Placed :=
  ⟨Nat.le_refl 1, Nat.le_max_left ..⟩

/-- A complaint about a place changes neither the sentence nor the place of the decoder. -/
lemma flagAt_eq {d d' : Decoder} {expected reason : String} {index : Int}
    (h : d.flagAt expected reason index = .ok d') :
    d'.sentence = d.sentence ∧ d'.cursor = d.cursor := by
  unfold flagAt at h
  cases htext : textAt d.sentence.fields index with
  | error f =>
    rw [htext] at h
    cases h
  | ok text =>
    rw [htext] at h
    cases h
    exact ⟨rfl, rfl⟩

/-- No action changes the sentence, and each leaves the decoder placed. -/
lemma Action.apply_placed (a : Action) {d : Decoder} (h : d.Placed) :
    (a.apply d).sentence = d.sentence ∧ (a.apply d).Placed := by
  cases a with
  | step s =>
    have hsentence := sentence_run s d
    have hstands := h.standsAt.run s
    rw [← hsentence] at hstands
    exact ⟨hsentence, hstands.placed (Nat.le_add_right_of_le h.one_le)⟩
  | reset => exact ⟨rfl, Nat.le_refl 1, Nat.le_max_left ..⟩
  | flagLast expected reason => exact ⟨rfl, h.one_le, h.le_end⟩
  | flagAt expected reason index =>
    rw [Action.apply]
    cases hflag : d.flagAt expected reason index with
    | error f => exact ⟨rfl, h⟩
    | ok d' =>
      obtain ⟨hsentence, hcursor⟩ := flagAt_eq hflag
      refine ⟨hsentence, ?_, ?_⟩
      · rw [hcursor]
        exact h.one_le
      · rw [hcursor, hsentence]
        exact h.le_end

/-- No history changes the sentence, and each leaves the decoder placed. -/
theorem applyAll_placed (actions : List Action) {d : Decoder} (h : d.Placed) :
    (applyAll actions d).sentence = d.sentence ∧ (applyAll actions d).Placed := by
  induction actions generalizing d with
  | nil => exact ⟨rfl, h⟩
  | cons a actions ih =>
    obtain ⟨hsentence, hplaced⟩ := a.apply_placed h
    obtain ⟨hrest, hend⟩ := ih hplaced
    exact ⟨hrest.trans hsentence, hend⟩

/-- A decoder of a line after some history. -/
def Reached (d : Decoder) : Prop :=
  ∃ (line : Line) (actions : List Action), d = applyAll actions (ofBytes line.latin)

/-- A further action leads to a decoder after some history. -/
lemma Reached.apply {d : Decoder} (h : d.Reached) (a : Action) : (a.apply d).Reached := by
  obtain ⟨line, actions, rfl⟩ := h
  refine ⟨line, actions ++ [a], ?_⟩
  rw [applyAll, applyAll, List.foldl_append]
  rfl

/-- A decoder after some history is placed. -/
lemma Reached.placed {d : Decoder} (h : d.Reached) : d.Placed := by
  obtain ⟨line, actions, rfl⟩ := h
  exact (applyAll_placed actions (placed_ofBytes line.latin)).2

/-- After a reset a decoder is as it was made, whatever was done with it before. -/
theorem reset_applyAll (actions : List Action) (line : Bytes) :
    (reset (applyAll actions (ofBytes line))).2 = ofBytes line := by
  have hsentence := (applyAll_placed actions (placed_ofBytes line)).1
  change ({ sentence := (applyAll actions (ofBytes line)).sentence } : Decoder) = _
  rw [hsentence]
  rfl

/-- Reads go by place, from the start and after a reset alike, whatever was done before.  Behind
steps of which `k` are reads, `k` of the fields behind the header are taken; the next read is told
the text of the field `k + 1` and nothing else, and goes on behind it, with at most one more
complaint, about that field and with the zero of the reader as the answer; if there is no such
field, the read stays where it is, with the zero and one more complaint.  A fault that the reader
does not handle is what the read answers, without a complaint; within the limit on digits there is
none, unless a member is wanted of an enumeration without members. -/
theorem read_after_steps (line : Line) (actions : List Action) (steps : List Step) (r : Read) :
    let start := (reset (applyAll actions (ofBytes line.latin))).2
    let fields := (Sentence.ofBytes line.latin).fields
    let k := steps.countP Step.isRead
    let d := ((steps.mapM Step.run) start).2
    (steps.mapM Step.run) start = (steps.mapM Step.run) (ofBytes line.latin) ∧
    d.remaining = fields.length - 1 - k ∧
    Step.peek.run d = (.ok (plain fields[k + 1]?), d) ∧
    (∀ text, fields[k + 1]? = some text →
      (∃ v, r.reader.read text = .ok v ∧ r.run d = (.ok v, d.advance)) ∨
      (∃ c, r.reader.read text = .error (.complaint c) ∧
        r.run d = (.ok r.zero, d.advance.record ⟨(k + 1 : Nat), some text, c⟩)) ∨
      ∃ f, r.reader.read text = .error (.fault f) ∧ r.run d = (.error f, d.advance) ∧
        (Numeral.digitLimit < text.length ∨ ∃ e, r = .member e ∧ e.members = [])) ∧
    (fields.length ≤ k + 1 →
      ∃ e : FieldError, e.index = (max 1 fields.length : Nat) ∧ e.text = none ∧
        e.complaint.reason = "no more fields" ∧ r.run d = (.ok r.zero, d.record e)) := by
  intro start fields k d
  have hstart : start = ofBytes line.latin := reset_applyAll actions line.latin
  have hbegin : start.StandsAt 1 (max 1 fields.length) := by
    rw [hstart]
    exact (placed_ofBytes line.latin).standsAt
  obtain ⟨hstands, hsentence⟩ := standsAt_mapM_run hbegin steps
  have hfields : d.sentence.fields = fields := by
    rw [show d.sentence = start.sentence from hsentence, hstart]
    rfl
  have hd : d.StandsAt (k + 1) (max 1 fields.length) := by
    rw [Nat.add_comm]
    exact hstands
  have hrun : r.run d = take r.reader d := by rw [r.run_eq_take]
  refine ⟨by rw [hstart], ?_, ?_, ?_, ?_⟩
  · have hcursor := hd.cursor_eq
    rw [remaining, hfields]
    omega
  · rw [← hfields, ← hd.peek?_eq]
    rfl
  · intro text htext
    rw [← hfields] at htext
    have hpeek : d.peek? = some text := hd.peek?_eq.trans htext
    have hcursor : d.cursor = k + 1 := hd.cursor_of_some htext
    rw [hrun]
    cases hread : r.reader.read text with
    | ok v => exact Or.inl ⟨v, rfl, take_of_accepted hpeek hread⟩
    | error u =>
      cases u with
      | complaint c =>
        refine Or.inr (Or.inl ⟨c, rfl, ?_⟩)
        rw [take_of_refused hpeek hread, hcursor, r.fallback_reader]
      | fault f =>
        refine Or.inr (Or.inr ⟨f, rfl, take_of_fault hpeek hread, ?_⟩)
        by_contra hhandled
        obtain ⟨hlength, hmembers⟩ := not_or.1 hhandled
        exact Read.handles_reader (fun e he hnil => hmembers ⟨e, he, hnil⟩)
          (Nat.le_of_not_lt hlength) f hread
  · intro hend
    have hnone : d.sentence.fields[k + 1]? = none := by
      rw [hfields]
      exact List.getElem?_eq_none hend
    have hcursor : d.cursor = max 1 fields.length := hd.cursor_of_none hnone
    refine ⟨⟨(max 1 fields.length : Nat), none, .noMoreFields⟩, rfl, rfl, rfl, ?_⟩
    rw [hrun, take_of_none (hd.peek?_eq.trans hnone), hcursor, r.fallback_reader]

end Decoder

end Nmea0183
