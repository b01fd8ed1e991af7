import ValueSets.Proofs.Listing

/-!
# The kind of an element type and the kinds of what it takes

A restricted set decides by its element type alone whether its members have a natural order, where
an unrestricted one goes through the members from left to right and widens the kind found so far.
What a type of a kind takes is of a kind that this one covers (`Ty.kind?_of_takes`), and widening
does not lead out of what a kind covers. So the walk ends with the least kind that covers those of
all values, in whatever order they come (`commonKind?_eq_some_iff`), and the kind of the type covers
that one.

`Collection.elementType_decides_kind` says so of all values that a set takes, and that the order of
two of them is decided without a fault: values of a kind are numbers and texts, since no list, table
or value set has one.
-/

set_option autoImplicit false

namespace ValueSets

/-! ## The walk over the members -/

namespace Kind

variable {i j k : Kind}

theorem Covers.antisymm (hkj : k.Covers j) (hjk : j.Covers k) : k = j := by
  rcases hkj with rfl | ⟨rfl, rfl⟩
  · rfl
  · rcases hjk with h | ⟨h, -⟩
    · exact h
    · cases h

theorem eq_integer_of_covers (h : Kind.integer.Covers j) : j = .integer :=
  h.resolve_right (by simp)

/-- Widening stays within what a kind covers. -/
theorem Covers.join? (hi : k.Covers i) (hj : k.Covers j) :
    ∃ l, i.join? j = some l ∧ k.Covers l := by
  revert hi hj
  cases i <;> cases j <;> cases k <;> decide

theorem Covers.extend? {seen : Option Kind} (hseen : ∀ i, seen = some i → k.Covers i)
    (hj : k.Covers j) : ∃ l, Kind.extend? seen j = some l ∧ k.Covers l := by
  cases seen with
  | none => exact ⟨j, rfl, hj⟩
  | some i => exact (hseen i rfl).join? hj

end Kind

/-- A walk over values whose kinds are covered ends with a kind that is covered. -/
theorem commonKindFrom?_of_covers {k : Kind} {seen : Option Kind} {vs : List Value}
    (hseen : ∀ i, seen = some i → k.Covers i)
    (hvs : ∀ v ∈ vs, ∃ j, v.kind? = some j ∧ k.Covers j) (hsome : seen.isSome = true ∨ vs ≠ []) :
    ∃ l, commonKindFrom? seen vs = some l ∧ k.Covers l := by
  induction vs generalizing seen with
  | nil =>
    obtain ⟨i, hi⟩ := Option.isSome_iff_exists.1 (hsome.resolve_right (by simp))
    exact ⟨i, hi, hseen i hi⟩
  | cons v vs ih =>
    obtain ⟨j, hkind, hj⟩ := hvs v (by simp)
    obtain ⟨l, hextend, hl⟩ := Kind.Covers.extend? hseen hj
    unfold commonKindFrom?
    rw [hkind]
    dsimp only
    rw [hextend]
    exact ih (fun i hi => Option.some.inj hi ▸ hl) (fun w hw => hvs w (by simp [hw])) (.inl rfl)

/-- The common kind is the least one that covers the kinds of all values. -/
theorem commonKind?_eq_some_iff {k : Kind} {vs : List Value} :
    commonKind? vs = some k ↔ vs ≠ [] ∧ (∀ v ∈ vs, ∃ j, v.kind? = some j ∧ k.Covers j) ∧
      ∀ l : Kind, (∀ v ∈ vs, ∃ j, v.kind? = some j ∧ l.Covers j) → l.Covers k := by
  have hleast : ∀ l : Kind, vs ≠ [] → (∀ v ∈ vs, ∃ j, v.kind? = some j ∧ l.Covers j) →
      ∃ m, commonKind? vs = some m ∧ l.Covers m := fun l hne hl =>
    commonKindFrom?_of_covers (by simp) hl (.inr hne)
  constructor
  · intro h
    have hne : vs ≠ [] := by
      rintro rfl
      cases h
    refine ⟨hne, (Value.covers_of_commonKindFrom? h).2, fun l hl => ?_⟩
    obtain ⟨m, hm, hcovers⟩ := hleast l hne hl
    cases h.symm.trans hm
    exact hcovers
  · rintro ⟨hne, hk, hmin⟩
    obtain ⟨m, hm, hcovers⟩ := hleast k hne hk
    have hback := hmin m (Value.covers_of_commonKindFrom? hm).2
    rw [hm, hcovers.antisymm hback]

/-! ## Values of a kind -/

namespace Value

variable {v : Value} {k : Kind}

/-- Whether a value, if it is a box, is a list, a table or a value set. -/
def HasBoxType (v : Value) : Prop := ∀ b, v = .box b → b.type ∈ [Ty.list, .table, .set]

/-- The boxes that sessions make are lists, tables and value sets. -/
theorem hasBoxType_of_create {s t : Session} {w : Value} (hv : v.HasBoxType)
    (h : Act.outcome (Act.create v) s = (.ok w, t)) : w.HasBoxType := by
  intro b hb
  cases v with
  | list | table | set =>
    cases h
    cases hb
    simp [typeOf]
  | box a =>
    cases h
    exact hv b hb
  | _ =>
    cases h
    cases hb

/-- A value of a kind can be kept by key. -/
theorem isHashable_of_kind? (hv : v.HasBoxType) (hk : v.kind? = some k) : v.isHashable = true := by
  cases v with
  | int | level | float | fraction | text | symbol => rfl
  | box b =>
    have hnone : ∀ t ∈ [Ty.list, .table, .set], t.kind? = none := by decide
    cases (hnone b.type (hv b rfl)).symm.trans hk
  | handle h => cases (Ty.kind?_sets h.cls).symm.trans hk
  | type t =>
    have hnone : t.typeOf.kind? = none := by cases t <;> rfl
    cases hnone.symm.trans hk
  | null | bool | bytes | tuple | list | table | set | frozenSet | color | config => cases hk

end Value

namespace Collection

/-- The kind of the element type of a set covers the kinds of all that it takes. Their common kind
is that kind, or the integer kind where that kind is the real one; it is the integer kind exactly if
all of them are integers. So where the element type alone promises a natural order, the values have
one, and none of the questions of order between them fails. -/
theorem elementType_decides_kind {c : Collection} {t : Ty} {vs : List Value}
    (htype : c.config.elementType = some t) (hne : vs ≠ [])
    (htakes : ∀ v ∈ vs, c.takes v = true) :
    (∀ k, t.kind? = some k →
      (commonKind? vs = some k ∨ k = .real ∧ commonKind? vs = some .integer) ∧
      (commonKind? vs = some .integer ↔ ∀ v ∈ vs, v.kind? = some .integer)) ∧
    (hasNaturalOrder vs c.config.elementType = true → hasNaturalOrder vs none = true ∧
      ((∀ v ∈ vs, v.HasBoxType) → ∀ (s : Session) (o : Order), ∀ v ∈ vs, ∀ w ∈ vs,
        ∃ b, s.isOrdered o v w = .ok b)) := by
  have htaken : ∀ v ∈ vs, t.takes v = true := by
    intro v hv
    have h := htakes v hv
    unfold takes at h
    rwa [htype] at h
  have hkinds : ∀ k, t.kind? = some k → ∀ v ∈ vs, ∃ j, v.kind? = some j ∧ k.Covers j :=
    fun k hk v hv => Ty.kind?_of_takes hk (htaken v hv)
  have hcommon : ∀ k, t.kind? = some k → ∃ l, commonKind? vs = some l ∧ k.Covers l :=
    fun k hk => commonKindFrom?_of_covers (by simp) (hkinds k hk) (.inr hne)
  rw [htype]
  refine ⟨fun k hk => ⟨?_, ?_⟩, fun horder => ⟨?_, fun hboxes s o => ?_⟩⟩
  · obtain ⟨l, hl, rfl | ⟨rfl, rfl⟩⟩ := hcommon k hk
    · exact .inl hl
    · exact .inr ⟨rfl, hl⟩
  · rw [commonKind?_eq_some_iff]
    constructor
    · rintro ⟨-, hcovers, -⟩ v hv
      obtain ⟨j, hj, hj'⟩ := hcovers v hv
      rw [hj, Kind.eq_integer_of_covers hj']
    · intro hintegers
      refine ⟨hne, fun v hv => ⟨_, hintegers v hv, .refl _⟩, fun l hl => ?_⟩
      obtain ⟨v, hv⟩ := List.exists_mem_of_ne_nil vs hne
      obtain ⟨j, hj, hlj⟩ := hl v hv
      cases (hintegers v hv).symm.trans hj
      exact hlj
  · obtain ⟨k, hk⟩ := Option.isSome_iff_exists.1 horder
    obtain ⟨l, hl, -⟩ := hcommon k hk
    exact Option.isSome_iff_exists.2 ⟨l, hl⟩
  · obtain ⟨k, hk⟩ := Option.isSome_iff_exists.1 horder
    have hhash : ∀ v ∈ vs, v.isHashable = true := by
      intro v hv
      obtain ⟨j, hj, -⟩ := hkinds k hk v hv
      exact Value.isHashable_of_kind? (hboxes v hv) hj
    refine s.exists_isOrdered (Value.ofOneOrder_of_hasNaturalOrder hhash ?_ horder) o
    exact fun e he => Option.some.inj he ▸ htaken

/-- A set of floats takes a level and a whole number, and what they have in common is the integer
kind. -/
theorem elementType_decides_kind_of_float :
    let c : Collection :=
      ⟨.float, { identity := 1, settings := { elementType := some .float } }, [], none⟩
    let vs : List Value := [.level .mid, .int 7]
    hasNaturalOrder vs c.config.elementType = true ∧ hasNaturalOrder vs none = true ∧
      commonKind? vs = some .integer ∧
      ∀ s : Session, ∃ b, s.isOrdered .less (.int 7) (.level .mid) = .ok b := by
  intro c vs
  have htakes : ∀ v ∈ vs, c.takes v = true := by decide
  have hboxes : ∀ v ∈ vs, v.HasBoxType := by
    intro v hv b hb
    subst hb
    simp [vs] at hv
  have hsome : vs ≠ [] := by simp [vs]
  have htype : c.config.elementType = some .float := rfl
  obtain ⟨hkinds, horder⟩ := elementType_decides_kind htype hsome htakes
  obtain ⟨hnatural, hordered⟩ := horder rfl
  refine ⟨rfl, hnatural, (hkinds .real rfl).2.2 (by decide), fun s => ?_⟩
  exact hordered hboxes s .less _ (by simp [vs]) _ (by simp [vs])

end Collection

end ValueSets
