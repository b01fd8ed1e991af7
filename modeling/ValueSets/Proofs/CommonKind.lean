import ValueSets.Proofs.Kinds

/-!
# The common kind does not depend on order

The walk that looks for a common kind goes from left to right, widens the kind seen so far and stops
at the first value that does not fit. Having seen nothing yet and having found nothing look the same
to it. What it ends with is still a matter of the values alone: it is the least kind that covers all
of them (`commonKind?_eq_some_iff`), so the kinds that cover all values are those that cover it
(`commonKind?_eq_some_iff_coversAll`). The common kind of two lists in a row is then the least one
that covers those of the two, and nothing else about the lists matters.

`commonKind_decided` states the rule by which the common kind is found, that it depends only on
which kinds occur, and that the kinds of two lists determine that of the two in a row.
-/

set_option autoImplicit false

namespace ValueSets

/-- Whether a value is of a kind of numbers. -/
def Value.IsNumber (v : Value) : Prop := v.kind? = some .integer ∨ v.kind? = some .real

instance : DecidablePred Value.IsNumber :=
  fun v => inferInstanceAs (Decidable (v.kind? = some .integer ∨ v.kind? = some .real))

/-- The kinds are those of texts and of numbers. -/
theorem Value.isText_or_isNumber {v : Value} (h : v.kind? ≠ none) :
    v.kind? = some .string ∨ v.IsNumber := by
  obtain ⟨k, hk⟩ := Option.ne_none_iff_exists'.1 h
  cases k with
  | string => exact .inl hk
  | integer => exact .inr (.inl hk)
  | real => exact .inr (.inr hk)

namespace Kind

variable {i j k l : Kind} {vs ws : List Value}

/-- Whether each of the values has a kind, and a kind covers all of them. -/
def CoversAll (k : Kind) (vs : List Value) : Prop := ∀ v ∈ vs, ∃ j, v.kind? = some j ∧ k.Covers j

theorem CoversAll.trans (hkl : k.Covers l) (h : l.CoversAll vs) : k.CoversAll vs := by
  intro v hv
  obtain ⟨j, hj, hlj⟩ := h v hv
  exact ⟨j, hj, hkl.trans hlj⟩

theorem coversAll_append : k.CoversAll (vs ++ ws) ↔ k.CoversAll vs ∧ k.CoversAll ws :=
  List.forall_mem_append

theorem coversAll_of_forall (h : ∀ v ∈ vs, v.kind? = some k) : k.CoversAll vs :=
  fun v hv => ⟨k, h v hv, .refl k⟩

/-- Only the real kind covers another one. -/
theorem coversAll_iff_forall (hk : k ≠ .real) :
    k.CoversAll vs ↔ ∀ v ∈ vs, v.kind? = some k := by
  refine ⟨fun h v hv => ?_, coversAll_of_forall⟩
  obtain ⟨j, hj, rfl | ⟨hreal, -⟩⟩ := h v hv
  · exact hj
  · exact absurd hreal hk

theorem coversAll_real_iff : Kind.real.CoversAll vs ↔ ∀ v ∈ vs, v.IsNumber := by
  refine forall₂_congr fun v _ => ⟨?_, ?_⟩
  · rintro ⟨j, hj, rfl | ⟨-, rfl⟩⟩
    · exact .inr hj
    · exact .inl hj
  · rintro (hv | hv)
    · exact ⟨_, hv, .inr ⟨rfl, rfl⟩⟩
    · exact ⟨_, hv, .refl _⟩

/-- A text and a number are covered by no kind. -/
theorem not_coversAll_of_mixed {v w : Value} (hv : v ∈ vs) (hw : w ∈ vs)
    (htext : v.kind? = some .string) (hnumber : w.IsNumber) : ¬ k.CoversAll vs := by
  intro h
  obtain ⟨i, hi, hki⟩ := h v hv
  obtain ⟨j, hj, hkj⟩ := h w hw
  have heq : i.isNumeric = j.isNumeric := hki.isNumeric_eq.trans hkj.isNumeric_eq.symm
  rw [htext, Option.some.injEq] at hi
  subst hi
  rcases hnumber with hw' | hw'
  all_goals
    rw [hw', Option.some.injEq] at hj
    subst hj
    cases heq

/-- Widening finds the least kind that covers both. -/
theorem join?_eq_some_iff :
    i.join? j = some k ↔ ∀ l : Kind, l.Covers i ∧ l.Covers j ↔ l.Covers k := by
  have hdecided : ∀ i j k : Kind,
      i.join? j = some k ↔ ∀ l ∈ [Kind.integer, .real, .string],
        (l.Covers i ∧ l.Covers j ↔ l.Covers k) := by
    intro i j k
    cases i <;> cases j <;> cases k <;> decide
  rw [hdecided]
  exact ⟨fun h l => h l (by cases l <;> simp), fun h l _ => h l⟩

end Kind

variable {k : Kind} {vs ws : List Value}

/-- The kinds that cover all values are those that cover the common kind. -/
theorem commonKind?_eq_some_iff_coversAll :
    commonKind? vs = some k ↔ vs ≠ [] ∧ ∀ l : Kind, l.CoversAll vs ↔ l.Covers k := by
  rw [commonKind?_eq_some_iff]
  constructor
  · rintro ⟨hne, hk, hleast⟩
    exact ⟨hne, fun l => ⟨hleast l, fun hl => Kind.CoversAll.trans hl hk⟩⟩
  · rintro ⟨hne, hall⟩
    exact ⟨hne, (hall k).2 (.refl k), fun l => (hall l).1⟩

/-- Values that one kind covers have a common kind. -/
theorem exists_commonKind? (hne : vs ≠ []) (h : k.CoversAll vs) :
    ∃ l, commonKind? vs = some l ∧ k.Covers l :=
  commonKindFrom?_of_covers (by simp) h (.inr hne)

theorem commonKind?_eq_none_iff :
    commonKind? vs = none ↔ vs = [] ∨ ∀ k : Kind, ¬ k.CoversAll vs := by
  constructor
  · intro h
    by_contra! hsome
    obtain ⟨hne, k, hk⟩ := hsome
    obtain ⟨l, hl, -⟩ := exists_commonKind? hne hk
    rw [h] at hl
    cases hl
  · intro h
    by_contra hsome
    obtain ⟨k, hk⟩ := Option.ne_none_iff_exists'.1 hsome
    obtain ⟨hne, hall⟩ := commonKind?_eq_some_iff_coversAll.1 hk
    exact h.elim hne fun hnone => hnone k ((hall k).2 (.refl k))

/-- Values of one kind have it in common, and no other kind but the real one is had in common by
values of several. -/
theorem commonKind?_eq_some_iff_forall (hk : k ≠ .real) :
    commonKind? vs = some k ↔ vs ≠ [] ∧ ∀ v ∈ vs, v.kind? = some k := by
  constructor
  · intro h
    obtain ⟨hne, hall⟩ := commonKind?_eq_some_iff_coversAll.1 h
    exact ⟨hne, (Kind.coversAll_iff_forall hk).1 ((hall k).2 (.refl k))⟩
  · rintro ⟨hne, h⟩
    obtain ⟨l, hl, hkl | ⟨hreal, -⟩⟩ := exists_commonKind? hne (Kind.coversAll_of_forall h)
    · rw [hl, hkl]
    · exact absurd hreal hk

theorem commonKind?_eq_real_iff :
    commonKind? vs = some .real ↔
      vs ≠ [] ∧ (∀ v ∈ vs, v.IsNumber) ∧ ∃ v ∈ vs, v.kind? ≠ some .integer := by
  have hinteger : commonKind? vs = some .integer ↔ vs ≠ [] ∧ ∀ v ∈ vs, v.kind? = some .integer :=
    commonKind?_eq_some_iff_forall (by simp)
  constructor
  · intro h
    obtain ⟨hne, hall⟩ := commonKind?_eq_some_iff_coversAll.1 h
    refine ⟨hne, Kind.coversAll_real_iff.1 ((hall _).2 (.refl _)), ?_⟩
    by_contra! hintegers
    cases h.symm.trans (hinteger.2 ⟨hne, hintegers⟩)
  · rintro ⟨hne, hnumbers, v, hv, hother⟩
    obtain ⟨l, hl, rfl | ⟨-, rfl⟩⟩ := exists_commonKind? hne (Kind.coversAll_real_iff.2 hnumbers)
    · exact hl
    · exact absurd ((hinteger.1 hl).2 v hv) hother

/-- There is no common kind of no values, of values one of which has no kind, and of a text and a
number, and there is one of all others. -/
theorem commonKind?_eq_none_iff_mixed :
    commonKind? vs = none ↔ vs = [] ∨ (∃ v ∈ vs, v.kind? = none) ∨
      (∃ v ∈ vs, v.kind? = some .string) ∧ ∃ v ∈ vs, v.IsNumber := by
  rw [commonKind?_eq_none_iff]
  refine or_congr_right ⟨fun h => ?_, ?_⟩
  · by_contra! hfit
    obtain ⟨hkinds, hunmixed⟩ := hfit
    have hcases : ∀ v ∈ vs, v.kind? = some .string ∨ v.IsNumber :=
      fun v hv => Value.isText_or_isNumber (hkinds v hv)
    by_cases htext : ∃ v ∈ vs, v.kind? = some .string
    · -- beside a text there are no numbers, so the others are texts
      exact h .string (Kind.coversAll_of_forall fun v hv =>
        (hcases v hv).resolve_right (hunmixed htext v hv))
    · exact h .real (Kind.coversAll_real_iff.2 fun v hv =>
        (hcases v hv).resolve_left fun hv' => htext ⟨v, hv, hv'⟩)
  · rintro (⟨v, hv, hnone⟩ | ⟨⟨v, hv, htext⟩, w, hw, hnumber⟩) k hk
    · obtain ⟨j, hj, -⟩ := hk v hv
      rw [hnone] at hj
      cases hj
    · exact Kind.not_coversAll_of_mixed hv hw htext hnumber hk

/-- The common kind depends on nothing but which kinds cover all values, and whether there are
values. -/
theorem commonKind?_congr (hne : vs = [] ↔ ws = [])
    (h : ∀ k : Kind, k.CoversAll vs ↔ k.CoversAll ws) : commonKind? vs = commonKind? ws := by
  refine Option.ext fun k => ?_
  rw [commonKind?_eq_some_iff_coversAll, commonKind?_eq_some_iff_coversAll, Ne, hne]
  simp only [h]

/-- Which kinds occur decides which kind is had in common, whatever the order and the number of
occurrences. -/
theorem commonKind?_eq_of_kinds
    (h : ∀ k, k ∈ vs.map Value.kind? ↔ k ∈ ws.map Value.kind?) :
    commonKind? vs = commonKind? ws := by
  have hall : ∀ (k : Kind) (us : List Value),
      k.CoversAll us ↔ ∀ o ∈ us.map Value.kind?, ∃ j, o = some j ∧ k.Covers j := by
    intro k us
    rw [List.forall_mem_map]
    rfl
  refine commonKind?_congr ?_ fun k => by simp only [hall, h]
  rw [← List.map_eq_nil_iff (f := Value.kind?), ← List.map_eq_nil_iff (f := Value.kind?),
    List.eq_nil_iff_forall_not_mem, List.eq_nil_iff_forall_not_mem]
  simp only [h]

/-- The common kind of two lists in a row is what those of the two widen to. -/
theorem commonKind?_append (hvs : vs ≠ []) (hws : ws ≠ []) :
    commonKind? (vs ++ ws) =
      (commonKind? vs).bind fun i => (commonKind? ws).bind fun j => i.join? j := by
  cases hi : commonKind? vs with
  | none =>
    have hnone := (commonKind?_eq_none_iff.1 hi).resolve_left hvs
    exact commonKind?_eq_none_iff.2 (.inr fun k hk => hnone k (Kind.coversAll_append.1 hk).1)
  | some i =>
    cases hj : commonKind? ws with
    | none =>
      have hnone := (commonKind?_eq_none_iff.1 hj).resolve_left hws
      exact commonKind?_eq_none_iff.2 (.inr fun k hk => hnone k (Kind.coversAll_append.1 hk).2)
    | some j =>
      obtain ⟨-, hvs'⟩ := commonKind?_eq_some_iff_coversAll.1 hi
      obtain ⟨-, hws'⟩ := commonKind?_eq_some_iff_coversAll.1 hj
      refine Option.ext fun k => ?_
      rw [commonKind?_eq_some_iff_coversAll, Option.bind_some, Option.bind_some,
        Kind.join?_eq_some_iff]
      simp only [Kind.coversAll_append, hvs', hws', ne_eq, List.append_eq_nil_iff, hvs, false_and,
        not_false_eq_true, true_and]

/-- The common kind is found by rule. There is none if there are no values, if one of them has no
kind, or if there is both a text and a number. All others have the kind of strings if all of them
are texts, the integer kind if all of them are integers, and the real kind if all of them are
numbers and one at least is no integer. So only the kinds that occur matter, in whatever order and
however often, and the common kind of two lists in a row is what the common kinds of the two widen
to: there is none if one of the two has none. -/
theorem commonKind_decided (vs : List Value) :
    (commonKind? vs = none ↔ vs = [] ∨ (∃ v ∈ vs, v.kind? = none) ∨
      (∃ v ∈ vs, v.kind? = some .string) ∧ ∃ v ∈ vs, v.IsNumber) ∧
    (commonKind? vs = some .string ↔ vs ≠ [] ∧ ∀ v ∈ vs, v.kind? = some .string) ∧
    (commonKind? vs = some .integer ↔ vs ≠ [] ∧ ∀ v ∈ vs, v.kind? = some .integer) ∧
    (commonKind? vs = some .real ↔
      vs ≠ [] ∧ (∀ v ∈ vs, v.IsNumber) ∧ ∃ v ∈ vs, v.kind? ≠ some .integer) ∧
    (∀ ws : List Value, (∀ k, k ∈ vs.map Value.kind? ↔ k ∈ ws.map Value.kind?) →
      commonKind? vs = commonKind? ws) ∧
    ∀ ws : List Value, vs ≠ [] → ws ≠ [] → commonKind? (vs ++ ws) =
      (commonKind? vs).bind fun i => (commonKind? ws).bind fun j => i.join? j :=
  ⟨commonKind?_eq_none_iff_mixed, commonKind?_eq_some_iff_forall (by simp),
    commonKind?_eq_some_iff_forall (by simp), commonKind?_eq_real_iff,
    fun _ => commonKind?_eq_of_kinds, fun _ => commonKind?_append⟩

/-- A level and a quotient have the real kind in common, in either order and if the level is
repeated. Behind a text they have none. -/
theorem commonKind_decided_of_levels :
    let vs : List Value := [.level .mid, .fraction (1 / 3)]
    let ws : List Value := [.fraction (1 / 3), .level .mid, .level .mid]
    commonKind? vs = some .real ∧ commonKind? ws = some .real ∧
      commonKind? ([.text "a"] ++ vs) = none := by
  intro vs ws
  obtain ⟨-, -, -, hreal, hkinds, -⟩ := commonKind_decided vs
  obtain ⟨-, htext, -, -, -, happend⟩ := commonKind_decided [.text "a"]
  have hvs : commonKind? vs = some .real := hreal.2 ⟨by simp [vs], by decide, by decide⟩
  have hws : commonKind? vs = commonKind? ws := by
    refine hkinds ws fun k => ?_
    simp only [vs, ws, List.map_cons, List.map_nil, List.mem_cons]
    tauto
  have ha : commonKind? [.text "a"] = some .string := htext.2 ⟨by simp, by decide⟩
  have hmixed := happend vs (by simp) (by simp [vs])
  rw [ha, hvs] at hmixed
  exact ⟨hvs, hws ▸ hvs, hmixed⟩

end ValueSets
