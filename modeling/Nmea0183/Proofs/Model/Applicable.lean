import Mathlib.Data.List.Basic
import Mathlib.Tactic.Common
import Nmea0183.Proofs.Decoder.Handling
import Nmea0183.Proofs.Model.Reading
import Nmea0183.Proofs.Results

/-!
# Fields that do not end the reading

Three things end the reading of an instance with a fault: a test that cannot be applied to the value
that was read, an enumeration without members, and a row of digits that is too long to be read as a
number.  The first two are mistakes in the model.  A field without them (`FieldSchema.Applicable`)
lets no text within the limit on digits end the reading (`FieldSchema.verdict_ne_stopped`,
`Model.not_stops`).  Limits may be declared for a field of any kind, also for one whose values have
no size, or no length, to compare; the test whether a value keeps them applies to all values of a
kind if every limit says something about these (`Limits.constraint_applies`).
-/

namespace Nmea0183

namespace WireKind

/-- The values of a kind are numbers, or count as such. -/
def isOrdered : WireKind → Bool
  | bool | int | float => true
  | enumeration e => e.integral
  | text | register => false

/-- A limit says something about the values of a kind: a bound about numbers, a length about
texts. -/
def takes (kind : WireKind) : Limit → Bool
  | .minLength _ | .maxLength _ => kind = .text
  | .atMost _ | .below _ | .atLeast _ | .above _ => kind.isOrdered

/-- The declared members of the enumeration that a kind has stand for integers. -/
def IsIntegerValued (kind : WireKind) : Prop :=
  ∀ e, kind = .enumeration e → e.isIntegerValued = true

end WireKind

/-- A test that can be applied to every value of a kind. -/
def Constraint.AppliesTo (c : Constraint) (kind : WireKind) : Prop :=
  ∀ v, kind.Holds v → ∃ said?, c.test v = .ok said?

/-- Every limit says something about the values of a kind. -/
def Limits.AppliesTo (l : Limits) (kind : WireKind) : Prop :=
  ∀ limit ∈ l.inOrder kind.limitedKind, kind.takes limit = true

instance (l : Limits) (kind : WireKind) : Decidable (l.AppliesTo kind) :=
  inferInstanceAs (Decidable (∀ _ ∈ _, _))

/-- A field without a mistake that ends its reading: its test can be applied to the values of its
kind, and the enumeration that it is read as, if it is, has a member. -/
structure FieldSchema.Applicable (s : FieldSchema) : Prop where
  test_applies : s.constraint.AppliesTo s.kind
  members_ne_nil : ∀ e, s.kind = .enumeration e → e.members ≠ []

/-! ### Values that are read -/

/-- What is read from a field is a value of its kind. -/
lemma WireKind.holds_of_read {kind : WireKind} {text : List Char} {v : Value}
    (h : kind.reader.read text = .ok v) : kind.Holds v := by
  cases kind with
  | bool =>
    obtain ⟨b, -, rfl⟩ := map_eq_ok_iff.1 h
    exact ⟨b, rfl⟩
  | int =>
    obtain ⟨i, -, rfl⟩ := map_eq_ok_iff.1 h
    exact ⟨i, rfl⟩
  | float =>
    obtain ⟨x, -, rfl⟩ := map_eq_ok_iff.1 h
    exact ⟨x, rfl⟩
  | text => exact ⟨String.ofList text, (Except.ok.inj h).symm⟩
  | register =>
    obtain ⟨r, -, rfl⟩ := map_eq_ok_iff.1 h
    exact ⟨r, rfl⟩
  | enumeration e =>
    obtain ⟨i, -, h⟩ := bind_eq_ok_iff.1 h
    cases hfind : e.find? (.int i) with
    | none =>
      rw [hfind] at h
      dsimp only at h
      split at h <;> cases h
    | some member =>
      rw [hfind] at h
      cases h
      cases Enumeration.find?_eq_some_iff.1 hfind with
      | own hmem => exact ⟨_, _, hmem, rfl⟩
      | standIn hmem => exact ⟨_, _, hmem, rfl⟩

/-- Named values of which the first ones have lost their aliases are these and others. -/
lemma Enumeration.mem_withoutAliases_append {named others : List (String × Value)}
    {m : String × Value} (h : m ∈ withoutAliases (named ++ others)) :
    m ∈ withoutAliases named ∨ m ∈ others := by
  rw [withoutAliases, List.foldl_append, ← withoutAliases] at h
  generalize withoutAliases named = kept at h
  induction others generalizing kept with
  | nil => exact Or.inl h
  | cons other others ih =>
    rw [List.foldl_cons] at h
    rcases ih _ h with hkept | hothers
    · split at hkept
      · exact Or.inl hkept
      · rcases List.mem_append.1 hkept with hkept | hother
        · exact Or.inl hkept
        · exact Or.inr (List.mem_singleton.1 hother ▸ List.mem_cons_self)
    · exact Or.inr (List.mem_cons_of_mem _ hothers)

/-- If the declared members stand for integers, those that are made of several flags do too. -/
lemma Enumeration.exists_int_of_mem_canonical {e : Enumeration} (h : e.isIntegerValued = true)
    {name : String} {v : Value} (hmem : (name, v) ∈ e.canonical) : ∃ i, v = .int i := by
  rcases mem_withoutAliases_append hmem with hdeclared | hcomposite
  · have hint := List.all_eq_true.1 h _ hdeclared
    cases v with
    | int i => exact ⟨i, rfl⟩
    | _ => cases hint
  · obtain ⟨m, -, hm⟩ := List.mem_map.1 hcomposite
    cases hm
    exact ⟨_, rfl⟩

/-! ### Limits and values -/

/-- Numbers, and what counts as such, compare with every bound. -/
lemma WireKind.exists_compareBound? {kind : WireKind} (hkind : kind.IsIntegerValued)
    (hordered : kind.isOrdered = true)
    {v : Value} (hv : kind.Holds v) (bound : Int) : ∃ o, v.compareBound? bound = some o := by
  cases kind with
  | bool =>
    obtain ⟨b, rfl⟩ := hv
    exact ⟨_, rfl⟩
  | int =>
    obtain ⟨i, rfl⟩ := hv
    exact ⟨_, rfl⟩
  | float =>
    obtain ⟨x, rfl⟩ := hv
    exact ⟨_, rfl⟩
  | enumeration e =>
    obtain ⟨name, value, hmem, rfl⟩ := hv
    have hintegral : e.integral = true := hordered
    obtain ⟨i, rfl⟩ := Enumeration.exists_int_of_mem_canonical (hkind e rfl) hmem
    rw [hintegral]
    exact ⟨_, rfl⟩
  | text => cases hordered
  | register => cases hordered

/-- A limit that says something about the values of a kind is kept or broken by each of them. -/
lemma WireKind.keptBy?_ne_none {kind : WireKind} (hkind : kind.IsIntegerValued) {limit : Limit}
    (htakes : kind.takes limit = true) {v : Value} (hv : kind.Holds v) :
    limit.keptBy? v ≠ none := by
  have hbound : ∀ bound (kept : Option Ordering → Bool), kind.isOrdered = true →
      (v.compareBound? bound).map kept ≠ none := by
    intro bound kept hordered
    obtain ⟨o, ho⟩ := kind.exists_compareBound? hkind hordered hv bound
    rw [ho]
    exact Option.some_ne_none _
  have hlength : ∀ kept : Nat → Bool, kind = .text → v.length?.map kept ≠ none := by
    rintro kept rfl
    obtain ⟨s, rfl⟩ := hv
    exact Option.some_ne_none _
  cases limit with
  | atMost bound => exact hbound bound _ htakes
  | below bound => exact hbound bound _ htakes
  | atLeast bound => exact hbound bound _ htakes
  | above bound => exact hbound bound _ htakes
  | minLength bound => exact hlength _ (of_decide_eq_true htakes)
  | maxLength bound => exact hlength _ (of_decide_eq_true htakes)

/-- Limits of which each is kept or broken have a first broken one, or none. -/
lemma Limit.firstBroken_ne_error {v : Value} {limits : List Limit}
    (h : ∀ limit ∈ limits, limit.keptBy? v ≠ none) (m : MisappliedLimit) :
    Limit.firstBroken v limits ≠ .error m := by
  induction limits with
  | nil => exact fun hnone => by cases hnone
  | cons limit rest ih =>
    obtain ⟨hlimit, hrest⟩ := List.forall_mem_cons.1 h
    rw [Limit.firstBroken]
    cases hkept : limit.keptBy? v with
    | none => exact absurd hkept hlimit
    | some kept =>
      cases kept with
      | false => exact fun hsome => by cases hsome
      | true => exact ih hrest

/-- The test whether a value keeps some limits can be applied to the values of a kind if all of
these limits say something about them. -/
theorem Limits.constraint_applies {l : Limits} {kind : WireKind} (hkind : kind.IsIntegerValued)
    (h : l.AppliesTo kind) : (l.constraint kind.limitedKind).AppliesTo kind := by
  intro v hv
  rw [constraint]
  dsimp only
  cases hbroken : l.broken? kind.limitedKind v with
  | error m =>
    exact absurd hbroken (Limit.firstBroken_ne_error
      (fun limit hlimit => WireKind.keptBy?_ne_none hkind (h limit hlimit) hv) m)
  | ok limit? => exact ⟨_, rfl⟩

/-! ### Reading to the end -/

/-- A field without mistakes lets no text within the limit on digits end the reading. -/
theorem FieldSchema.verdict_ne_stopped {s : FieldSchema} (h : s.Applicable) (typeName : String)
    {text? : Option (List Char)} (hlength : ∀ text ∈ text?, text.length ≤ Numeral.digitLimit)
    (f : Fault) : s.verdict typeName text? ≠ .stopped f := by
  intro hverdict
  unfold verdict at hverdict
  split at hverdict
  · cases hverdict
  next text =>
  split at hverdict
  · cases hverdict
  split at hverdict
  · cases hverdict
  · next f' hread =>
    exact WireKind.handles_reader h.members_ne_nil (hlength text rfl) f' hread
  · next v hread =>
    obtain ⟨said?, htest⟩ := h.test_applies v (WireKind.holds_of_read hread)
    rw [judge, htest] at hverdict
    cases said? <;> cases hverdict

namespace Model

/-- Every field of a schema is that of a declared field. -/
lemma exists_field_of_mem_schema {m : Model} {schemas : List FieldSchema}
    (h : m.schema = .ok schemas) {s : FieldSchema} (hs : s ∈ schemas) :
    ∃ f ∈ m.fields, f.schema = .ok s := by
  have hrow : List.Forall₂ (fun f s => f.schema = .ok s) m.fields schemas :=
    mapM_eq_ok_iff.1 h
  clear h
  generalize m.fields = fields at hrow
  induction hrow with
  | nil => exact absurd hs List.not_mem_nil
  | cons hfield _ ih =>
    rcases List.mem_cons.1 hs with rfl | hs
    · exact ⟨_, List.mem_cons_self, hfield⟩
    · obtain ⟨f, hf, hfs⟩ := ih hs
      exact ⟨f, List.mem_cons_of_mem _ hf, hfs⟩

/-- A declared field has the kind of an enumeration only if the members stand for integers. -/
lemma isIntegerValued_of_kind {f : Field} {kind : WireKind} (h : f.kind = .ok kind) :
    kind.IsIntegerValued := by
  rintro e rfl
  unfold Field.kind at h
  split at h
  case h_2 e' _ =>
    by_cases he' : e'.isIntegerValued = true
    · rw [if_pos he'] at h
      cases h
      exact he'
    · rw [if_neg he'] at h
      cases h
  all_goals cases h

/-- A model is without mistakes if the limits that it declares say something about the values of
their fields, and all its enumerations have members. -/
theorem applicable_of_limits {m : Model} {schemas : List FieldSchema} (h : m.schema = .ok schemas)
    (hfields : ∀ f ∈ m.fields, ∀ kind, f.kind = .ok kind →
      f.limits.AppliesTo kind ∧ ∀ e, kind = .enumeration e → e.members ≠ []) :
    ∀ s ∈ schemas, s.Applicable := by
  intro s hs
  obtain ⟨f, hmem, hf⟩ := exists_field_of_mem_schema h hs
  obtain ⟨kind, hkind, rfl⟩ := map_eq_ok_iff.1 hf
  obtain ⟨hlimits, hmembers⟩ := hfields f hmem kind hkind
  exact ⟨Limits.constraint_applies (isIntegerValued_of_kind hkind) hlimits, hmembers⟩

/-- Fields without mistakes let no row of texts within the limit on digits end the reading. -/
theorem not_stops {typeName : String} {schemas : List FieldSchema}
    (h : ∀ s ∈ schemas, s.Applicable) {fields : List (List Char)}
    (hlength : ∀ text ∈ fields, text.length ≤ Numeral.digitLimit) (start : Nat) :
    ¬ Stops typeName fields start schemas := by
  rintro ⟨f, s, hs, hverdict⟩
  have hmem : s.1 ∈ schemas := List.fst_mem_of_mem_zipIdx hs
  refine FieldSchema.verdict_ne_stopped (h s.1 hmem) typeName (fun text htext => ?_) f hverdict
  exact hlength text (List.mem_of_getElem? htext)

end Model

end Nmea0183
