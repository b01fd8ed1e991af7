import ValueSets.Proofs.MixedTypes
import ValueSets.Proofs.SmallerOperand

/-!
# Counting what the algebra makes

Two sets of one element type divide what they have into three regions: what both have, and what only
one of them has. The members of the shared region differ from set to set, since each has its own
value for a key, but there are equally many on both sides (`Collection.Lawful.shared_comm`). Every
operation puts some of the regions together, and `SetOperator.count` adds up their sizes.

`Collection.operations_counted` draws the identities between the sizes of two sets and of what the
operations make of them: the one of a union and an intersection, the one of a difference and the
intersection that it leaves out, and that inclusion can be read off either.
-/

set_option autoImplicit false

namespace ValueSets

/-- The size of what an operator makes of two sets that have `both` keys in common, where the first
has `left` and the second `right` others. -/
def SetOperator.count (left both right : Nat) : SetOperator → Nat
  | .union => left + both + right
  | .intersection => both
  | .difference => left
  | .symmetricDifference => left + right

namespace Collection

/-- How many members of a set another one has, too. -/
def shared (c d : Collection) : Nat := (c.members.filter d.holds).length

/-- How many members of a set another one does not have. -/
def unshared (c d : Collection) : Nat := (c.members.filter fun m => !d.holds m).length

variable {c d : Collection}

theorem shared_add_unshared (c d : Collection) : c.shared d + c.unshared d = c.size :=
  (List.length_eq_length_filter_add d.holds).symm

/-- A set has all members of another one if the other one has none by itself. -/
theorem all_holds_iff (c d : Collection) : d.members.all c.holds = true ↔ d.unshared c = 0 := by
  unfold unshared
  rw [List.length_eq_zero_iff, List.filter_eq_nil_iff, List.all_eq_true]
  simp

namespace Lawful

/-- Two sets of one element type have equally many members in common with each other. -/
theorem shared_comm (hc : c.Lawful) (hd : d.Lawful)
    (htype : c.config.elementType = d.config.elementType) : c.shared d = d.shared c := by
  have hkeys := (hc.sameKeys_walks_iff hd).2 (hc.agreeAbout_of_elementType_eq hd htype)
  exact (hc.holding_walk d).size_eq (hc.holding_walk_back hd) hkeys

/-- What an operation makes of two sets of one element type has the size of its regions. -/
theorem size_combine (same : Sameness) (hc : c.Lawful) (hd : d.Lawful)
    (htype : c.config.elementType = d.config.elementType) {op : SetOperator} {r : Collection}
    (h : c.combine same op d = .ok r) :
    r.size = op.count (c.unshared d) (c.shared d) (d.unshared c) := by
  cases op with
  | union =>
    -- a union looks at the keys alone, but the first set takes every member of the second
    have hholds : (d.members.filter fun n => !Value.hasKey n c.members) =
        d.members.filter fun n => !c.holds n := by
      refine List.filter_congr fun n hn => ?_
      rw [holds_of_takes ((takes_congr htype n).trans (hd.taken n hn))]
    have hsize := shared_add_unshared c d
    rw [hc.union_eq_ok same hd h, hholds]
    simp only [size, unshared, shared, SetOperator.count, holding_members,
      List.length_append] at hsize ⊢
    omega
  | intersection =>
    have hcomm := hc.shared_comm hd htype
    have hr : c.intersection same d = .ok r := h
    rw [hc.intersection_eq same hd, Except.ok.injEq] at hr
    subst hr
    split
    · rfl
    · exact hcomm.symm
  | difference =>
    have hr : c.difference same d = .ok r := h
    rw [hc.difference_eq same hd, Except.ok.injEq] at hr
    subst hr
    rfl
  | symmetricDifference =>
    rw [hc.symmetricDifference_eq_ok same hd h]
    exact List.length_append

/-- A set does not have what another one has with which it shares nothing. -/
theorem has_of_apart (same : Sameness) (hc : c.Lawful) (hd : d.Lawful)
    (hapart : ∀ x, c.holds x = true → d.holds x = false) {x : Value}
    (hx : c.has same x = .ok true) : d.has same x = .ok false := by
  obtain ⟨hhash, -, -⟩ := (hc.has_eq_true_iff same).1 hx
  rw [hc.has_of_isHashable same hhash, Except.ok.injEq] at hx
  rw [hd.has_of_isHashable same hhash, hapart x hx]

/-- A union of two sets of one element type is equal to every set that has what either has. -/
theorem union_equal (same : Sameness) {e : Collection} (hc : c.Lawful) (hd : d.Lawful)
    (he : e.Lawful) (halike : ∀ x, d.takes x = c.takes x)
    (hholds : ∀ x, e.holds x = (c.holds x || d.holds x)) :
    ∃ r, c.union same d = .ok r ∧ r.equal same e = .ok true ∧ e.equal same r = .ok true := by
  obtain ⟨r, hr, hrlawful, -, hrholds⟩ := hc.combine_eq_ok same hd halike .union
  have hagree : ∀ x, r.holds x = e.holds x := fun x => (hrholds x).trans (hholds x).symm
  exact ⟨r, hr, hrlawful.equal_of_holds_eq same he hagree,
    he.equal_of_holds_eq same hrlawful fun x => (hagree x).symm⟩

end Lawful

/-- The operations on two sets of one element type all succeed, whatever their classes are, and
their results have sizes that belong together. An intersection and a difference have no value in
common, and put together, in either order, they are equal to the first operand. A set includes
another one exactly if their union is no larger than the set, if their intersection is as large as
the other one, and if the other one has nothing that the set does not have. -/
theorem operations_counted (same : Sameness) (hc : c.IsReachable) (hd : d.IsReachable)
    (htype : c.config.elementType = d.config.elementType) :
    ∃ left right : SetOperator → Collection,
      (∀ op, c.combine same op d = .ok (left op)) ∧
      (∀ op, d.combine same op c = .ok (right op)) ∧
      (left .union).size + (left .intersection).size = c.size + d.size ∧
      (left .difference).size + (right .intersection).size = c.size ∧
      (left .symmetricDifference).size = (left .difference).size + (right .difference).size ∧
      (∀ x, (left .intersection).has same x = .ok true →
        (left .difference).has same x = .ok false) ∧
      (∃ r, (left .intersection).union same (left .difference) = .ok r ∧
        r.equal same c = .ok true ∧ c.equal same r = .ok true) ∧
      (∃ r, (left .difference).union same (left .intersection) = .ok r ∧
        r.equal same c = .ok true ∧ c.equal same r = .ok true) ∧
      ∃ superset : Bool, c.isSuperset same d = .ok superset ∧
        (superset = true ↔ (left .union).size = c.size) ∧
        (superset = true ↔ (left .intersection).size = d.size) ∧
        (superset = true ↔ (right .difference).members = []) := by
  have hclawful := hc.lawful
  have hdlawful := hd.lawful
  choose left hleft hleftlawful hleftconfig hleftholds using
    hclawful.combine_eq_ok same hdlawful (takes_congr htype.symm)
  choose right hright _ _ _ using hdlawful.combine_eq_ok same hclawful (takes_congr htype)
  have hleftsize := fun op => hclawful.size_combine same hdlawful htype (hleft op)
  have hrightsize := fun op => hdlawful.size_combine same hclawful htype.symm (hright op)
  have hcsize := shared_add_unshared c d
  have hdsize := shared_add_unshared d c
  have hshared := hclawful.shared_comm hdlawful htype
  have hlefttakes : ∀ op op' x, (left op).takes x = (left op').takes x := by
    intro op op' x
    apply takes_congr
    rw [hleftconfig op, hleftconfig op']
  refine ⟨left, right, hleft, hright, ?_, ?_, ?_, fun x hx => ?_, ?_, ?_,
    d.members.all c.holds, hclawful.isSuperset_eq same hdlawful, ?_, ?_, ?_⟩
  · rw [hleftsize, hleftsize]
    simp only [SetOperator.count]
    omega
  · rw [hleftsize, hrightsize]
    simp only [SetOperator.count]
    omega
  · rw [hleftsize, hleftsize, hrightsize]
    rfl
  · refine (hleftlawful .intersection).has_of_apart same (hleftlawful .difference) ?_ hx
    intro y hy
    rw [hleftholds] at hy ⊢
    obtain ⟨hboth, hboth'⟩ := Bool.and_eq_true_iff.1 hy
    rw [hboth, hboth']
    rfl
  · refine (hleftlawful _).union_equal same (hleftlawful _) hclawful (hlefttakes _ _) fun x => ?_
    rw [hleftholds, hleftholds]
    cases c.holds x <;> cases d.holds x <;> rfl
  · refine (hleftlawful _).union_equal same (hleftlawful _) hclawful (hlefttakes _ _) fun x => ?_
    rw [hleftholds, hleftholds]
    cases c.holds x <;> cases d.holds x <;> rfl
  · rw [all_holds_iff, hleftsize]
    simp only [SetOperator.count]
    omega
  · rw [all_holds_iff, hleftsize]
    simp only [SetOperator.count]
    omega
  · rw [all_holds_iff, ← List.length_eq_zero_iff]
    have hsize : (right .difference).members.length = d.unshared c := hrightsize .difference
    rw [hsize]

/-- A truth value and the level of its key are shared by two unrestricted sets that have another
level each. -/
theorem operations_counted_of_truth_value :
    let same : Sameness := fun x y => .ok (x.sameKey y)
    let c : Collection :=
      ⟨.inMemory, { identity := 1, settings := {} }, [.bool true, .level .mid], none⟩
    let d : Collection :=
      ⟨.inMemory, { identity := 2, settings := {} }, [.level .high, .level .low], none⟩
    ∃ left right : SetOperator → Collection,
      (∀ op, c.combine same op d = .ok (left op)) ∧
      (∀ op, d.combine same op c = .ok (right op)) ∧
      (left .union).size + (left .intersection).size = 4 ∧
      (left .difference).size + (right .intersection).size = 2 ∧
      (left .intersection).size ≠ 2 ∧ (right .difference).members ≠ [] := by
  intro same c d
  let s := (({} : Session).after
    { step := .construct .inMemory, args := [.bool true, .level .mid] }).after
    { step := .construct .inMemory, args := [.level .high, .level .low] }
  have hs : s.IsReachable :=
    .step (.step .refl (Instruction.isPlain_of_no_config (by decide) hasPlainConfig_nil))
      (Instruction.isPlain_of_no_config (by decide) hasPlainConfig_nil)
  have hcollections : s.collections = [c, d] := rfl
  have hc : c.IsReachable := ⟨s, hs, by simp [hcollections], rfl⟩
  have hd : d.IsReachable := ⟨s, hs, by simp [hcollections], rfl⟩
  obtain ⟨left, right, hleft, hright, hunion, hdifference, -, -, -, -, superset, hsuperset,
    -, hintersection, hrest⟩ := operations_counted same hc hd rfl
  have hnot : superset = false := by
    have hfalse : c.isSuperset same d = .ok false := rfl
    rw [hfalse, Except.ok.injEq] at hsuperset
    exact hsuperset.symm
  subst hnot
  refine ⟨left, right, hleft, hright, hunion, hdifference, fun h => ?_, fun h => ?_⟩
  · exact Bool.false_ne_true (hintersection.2 h)
  · exact Bool.false_ne_true (hrest.2 h)

end Collection

end ValueSets
