import ValueSets.Proofs.Collection.Proper

/-!
# What the algebra makes of lawful sets

Between two lawful sets no question fails, so each operation has an answer that can be written down:
the members of an intersection or a difference are a filter of those of one operand, and a union or
a symmetric difference is decided by adding members of the other operand to one of these. Only
adding can fail, where the element type of the receiver refuses what the operand has.

`Collection.Lawful.combine_eq_ok` puts this together for two sets that take the same values. There
every operation succeeds, and what the result has is decided value by value by `SetOperator.keeps`.
-/

set_option autoImplicit false

namespace ValueSets.Collection.Lawful

open Fallible

variable {c d : Collection} (same : Sameness)

/-! ## Questions -/

/-- Between lawful sets, asking for the members of the other one does not fail. -/
theorem isSuperset_eq (hc : c.Lawful) (hd : d.Lawful) :
    c.isSuperset same d = .ok (d.members.all c.holds) := by
  unfold Collection.isSuperset Collection.hasAll
  exact allM_eq_ok fun x hx => hc.has_of_isHashable same (hd.hashable x hx)

/-- Two lawful sets are equal if they have as many members and the first has those of the second. -/
theorem equal_eq (hc : c.Lawful) (hd : d.Lawful) :
    c.equal same d = .ok (c.size == d.size && d.members.all c.holds) := by
  unfold Collection.equal
  cases c.size == d.size with
  | true => exact hc.isSuperset_eq same hd
  | false => rfl

/-- Two lawful sets are equal if they have the same values. -/
theorem equal_of_holds_eq (hc : c.Lawful) (hd : d.Lawful) (h : ∀ x, c.holds x = d.holds x) :
    c.equal same d = .ok true := by
  have hle : ∀ {a b : Collection}, a.Lawful → (∀ x, a.holds x = b.holds x) → a.size ≤ b.size := by
    intro a b ha hab
    refine Members.length_le_of_hasKey ha.distinct fun x hx => ?_
    have hb : b.holds x = true := (hab x).symm.trans (ha.holds_of_mem hx)
    exact hasKey_of_holds hb
  have hsize : (c.size == d.size) = true :=
    beq_iff_eq.2 (Nat.le_antisymm (hle hc h) (hle hd fun x => (h x).symm))
  have hall : d.members.all c.holds = true :=
    List.all_eq_true.2 fun x hx => (h x).trans (hd.holds_of_mem hx)
  rw [hc.equal_eq same hd, hsize, hall]
  rfl

theorem membersIn_eq (hc : c.Lawful) (hd : d.Lawful) :
    c.membersIn same d = .ok (c.members.filter d.holds) := by
  unfold Collection.membersIn
  exact filterM_eq_ok fun x hx => hd.has_of_isHashable same (hc.hashable x hx)

theorem membersNotIn_eq (hc : c.Lawful) (hd : d.Lawful) :
    c.membersNotIn same d = .ok (c.members.filter fun x => !d.holds x) := by
  unfold Collection.membersNotIn
  refine filterM_eq_ok (p := fun x => !d.holds x) fun x hx => ?_
  rw [hd.has_of_isHashable same (hc.hashable x hx)]
  rfl

/-! ## Results -/

/-- An empty set like a lawful one takes on members that it may have as they stand. -/
theorem insertedEmpty_eq (hc : c.Lawful) {ms : List Value}
    (hms : ∀ m ∈ ms, c.takes m = true ∧ m.isHashable = true) (hdistinct : Members.Distinct ms) :
    (c.holding []).inserted same ms = .ok (c.holding ms) := by
  have hempty : (c.holding []).Lawful := hc.cleared
  rw [hempty.inserted_eq same ms, Keyed.insert_eq_ok_iff]
  refine ⟨hms, ?_⟩
  have hadd : Members.addAll [] ms = [] ++ ms := Members.addAll_eq_append hdistinct
  rw [holding_members, hadd]
  rfl

theorem insertedEmpty_sublist (hc : c.Lawful) {ms : List Value} (hms : ms.Sublist c.members) :
    (c.holding []).inserted same ms = .ok (c.holding ms) := by
  have hlawful := hc.sublist hms
  exact hc.insertedEmpty_eq same (fun m hm => ⟨hlawful.taken m hm, hlawful.hashable m hm⟩)
    hlawful.distinct

theorem like_eq (hc : c.Lawful) : c.like same c.members = .ok c := by
  unfold Collection.like
  rw [hc.emptied_eq]
  exact hc.insertedEmpty_sublist same (List.Sublist.refl _)

theorem union_eq (hc : c.Lawful) : c.union same d = Keyed.insert c d.members := by
  unfold Collection.union
  rw [hc.like_eq]
  exact hc.inserted_eq same d.members

/-- An intersection filters the members of the smaller set, of the second one on a tie. -/
theorem intersection_eq (hc : c.Lawful) (hd : d.Lawful) :
    c.intersection same d = .ok (c.holding (if c.size < d.size then c.members.filter d.holds
      else d.members.filter c.holds)) := by
  unfold Collection.intersection
  rw [hc.emptied_eq]
  simp only [bind, Except.bind]
  split
  · rw [hc.membersIn_eq same hd]
    exact hc.insertedEmpty_sublist same List.filter_sublist
  · rw [hd.membersIn_eq same hc]
    refine hc.insertedEmpty_eq same (fun m hm => ?_) (List.Pairwise.filter _ hd.distinct)
    obtain ⟨hm, hholds⟩ := List.mem_filter.1 hm
    unfold Collection.holds at hholds
    exact ⟨(Bool.and_eq_true _ _ ▸ hholds).1, hd.hashable m hm⟩

theorem difference_eq (hc : c.Lawful) (hd : d.Lawful) :
    c.difference same d = .ok (c.holding (c.members.filter fun x => !d.holds x)) := by
  unfold Collection.difference
  rw [hc.emptied_eq, hc.membersNotIn_eq same hd]
  exact hc.insertedEmpty_sublist same List.filter_sublist

/-- A symmetric difference adds what only the second set has to the difference. -/
theorem symmetricDifference_eq (hc : c.Lawful) (hd : d.Lawful) :
    c.symmetricDifference same d =
      Keyed.insert (c.holding (c.members.filter fun x => !d.holds x))
        (d.members.filter fun x => !c.holds x) := by
  unfold Collection.symmetricDifference
  rw [hc.difference_eq same hd, hd.membersNotIn_eq same hc]
  exact (hc.sublist List.filter_sublist).inserted_eq same _

/-! ## Sets that take the same values -/

variable {x : Value}

theorem holds_of_takes (hx : c.takes x = true) : c.holds x = Value.hasKey x c.members := by
  unfold Collection.holds
  rw [hx, Bool.true_and]

theorem holds_of_not_takes (hx : c.takes x = false) : c.holds x = false := by
  unfold Collection.holds
  rw [hx, Bool.false_and]

/-- Filtering the members of one set by another one that takes the same values is filtering their
keys. -/
theorem hasKey_filter_holds (hc : c.Lawful) (halike : ∀ y, d.takes y = c.takes y)
    (hx : c.takes x = true) (keep : Bool → Bool) :
    Value.hasKey x (c.members.filter fun m => keep (d.holds m)) =
      (Value.hasKey x c.members && keep (d.holds x)) := by
  have hfilter : (c.members.filter fun m => keep (d.holds m)) =
      c.members.filter fun m => keep (Value.hasKey m d.members) := by
    apply List.filter_congr
    intro m hm
    rw [holds_of_takes ((halike m).trans (hc.taken m hm))]
  rw [hfilter, Members.hasKey_filter, holds_of_takes ((halike x).trans hx)]
  intro y z hyz
  rw [Value.hasKey_congr hyz]

/-- What an operation makes of a lawful set is lawful. -/
theorem of_combine (hc : c.Lawful) (op : SetOperator) {r : Collection}
    (hr : c.combine same op d = .ok r) : r.Lawful := by
  have hmade := hc.proper.combine hr
  exact hmade.proper.lawful (hmade.cls ▸ hc.keyed)

/-- Between lawful sets that take the same values every operation succeeds, and decides by
`SetOperator.keeps` for each key that they take. -/
theorem combine_eq_holding (hc : c.Lawful) (hd : d.Lawful) (halike : ∀ y, d.takes y = c.takes y)
    (op : SetOperator) :
    ∃ ms, c.combine same op d = .ok (c.holding ms) ∧ ∀ x, c.takes x = true →
      Value.hasKey x ms = op.keeps (Value.hasKey x c.members) (Value.hasKey x d.members) := by
  have halike' : ∀ y, c.takes y = d.takes y := fun y => (halike y).symm
  have hadd : ∀ m ∈ d.members, c.takes m = true ∧ m.isHashable = true :=
    fun m hm => ⟨(halike' m).trans (hd.taken m hm), hd.hashable m hm⟩
  cases op with
  | union =>
    refine ⟨_, (hc.union_eq same).trans (Keyed.insert_eq_ok_iff.2 ⟨hadd, rfl⟩), fun x hx => ?_⟩
    exact Members.hasKey_addAll c.members d.members x
  | intersection =>
    refine ⟨_, hc.intersection_eq same hd, fun x hx => ?_⟩
    split
    · have hwalk := hc.hasKey_filter_holds halike hx id
      rw [holds_of_takes ((halike x).trans hx)] at hwalk
      exact hwalk
    · have hwalk := hd.hasKey_filter_holds halike' ((halike x).trans hx) id
      rw [holds_of_takes hx] at hwalk
      exact hwalk.trans (Bool.and_comm _ _)
  | difference =>
    refine ⟨_, hc.difference_eq same hd, fun x hx => ?_⟩
    have hwalk := hc.hasKey_filter_holds halike hx not
    rw [holds_of_takes ((halike x).trans hx)] at hwalk
    exact hwalk
  | symmetricDifference =>
    refine ⟨_, (hc.symmetricDifference_eq same hd).trans (Keyed.insert_eq_ok_iff.2
      ⟨fun m hm => hadd m (List.mem_filter.1 hm).1, rfl⟩), fun x hx => ?_⟩
    have hleft := hc.hasKey_filter_holds halike hx not
    have hright := hd.hasKey_filter_holds halike' ((halike x).trans hx) not
    rw [holds_of_takes ((halike x).trans hx)] at hleft
    rw [holds_of_takes hx] at hright
    rw [holding_members, Members.hasKey_addAll, hleft, hright]
    cases Value.hasKey x c.members <;> cases Value.hasKey x d.members <;> rfl

/-- What an operation makes of lawful sets that take the same values is lawful, and has what
`SetOperator.keeps` says of what the operands have. -/
theorem combine_eq_ok (hc : c.Lawful) (hd : d.Lawful) (halike : ∀ y, d.takes y = c.takes y)
    (op : SetOperator) :
    ∃ r, c.combine same op d = .ok r ∧ r.Lawful ∧ r.config = c.config ∧
      ∀ x, r.holds x = op.keeps (c.holds x) (d.holds x) := by
  obtain ⟨ms, hms, hkeys⟩ := hc.combine_eq_holding same hd halike op
  refine ⟨c.holding ms, hms, hc.of_combine same op hms, rfl, fun x => ?_⟩
  cases hx : c.takes x with
  | true =>
    rw [holds_of_takes (c := c.holding ms) hx, holds_of_takes hx,
      holds_of_takes ((halike x).trans hx)]
    exact hkeys x hx
  | false =>
    -- none of the three sets has what they do not take
    rw [holds_of_not_takes (c := c.holding ms) hx, holds_of_not_takes hx,
      holds_of_not_takes ((halike x).trans hx)]
    cases op <;> rfl

end ValueSets.Collection.Lawful
