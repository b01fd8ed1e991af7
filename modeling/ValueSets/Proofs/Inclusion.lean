import ValueSets.Proofs.Collection.Algebra
import ValueSets.Proofs.Session.Reachable

/-!
# Equality and inclusion

Equality of sets asks for one inclusion and for the numbers of members. Since no two members are the
same key, the other inclusion follows as far as keys go. But a set does not have what its element
type does not take, whatever its key is, so between sets of different element types equality may
hold without the other inclusion, and depend on which of the sets is asked.

`Collection.Lawful.includes_eq` says what equality lacks: that the element type of the second set
takes the members of the first.
-/

set_option autoImplicit false

namespace ValueSets.Collection

variable {c d : Collection}

theorem holds_iff {x : Value} :
    c.holds x = true ↔ c.takes x = true ∧ Value.hasKey x c.members = true := by
  unfold holds
  rw [Bool.and_eq_true]

namespace Lawful

/-- Two lawful sets include each other if the first is equal to the second and its members are taken
by the second. -/
theorem includes_eq (hc : c.Lawful) (hd : d.Lawful) :
    (d.members.all c.holds && c.members.all d.holds) =
      ((c.size == d.size && d.members.all c.holds) && c.members.all d.takes) := by
  rw [Bool.eq_iff_iff]
  simp only [Bool.and_eq_true, List.all_eq_true, beq_iff_eq]
  constructor
  · rintro ⟨hsuperset, hsubset⟩
    have hle : d.size ≤ c.size := Members.length_le_of_hasKey hd.distinct fun y hy =>
      hasKey_of_holds (hsuperset y hy)
    have hge : c.size ≤ d.size := Members.length_le_of_hasKey hc.distinct fun x hx =>
      hasKey_of_holds (hsubset x hx)
    exact ⟨⟨Nat.le_antisymm hge hle, hsuperset⟩, fun x hx => (holds_iff.1 (hsubset x hx)).1⟩
  · rintro ⟨⟨hsize, hsuperset⟩, htaken⟩
    refine ⟨hsuperset, fun x hx => holds_iff.2 ⟨htaken x hx, ?_⟩⟩
    -- as many keys, of which the first set has each: none of its own is left over
    have hkeys := Members.hasKey_of_length_le hd.distinct
      (fun y hy => hasKey_of_holds (hsuperset y hy)) (Nat.le_of_eq hsize)
    exact hkeys x hx

theorem taken_of_elementType_eq (hc : c.Lawful)
    (htype : d.config.elementType = c.config.elementType) : c.members.all d.takes = true := by
  refine List.all_eq_true.2 fun x hx => ?_
  rw [takes_congr htype x]
  exact hc.taken x hx

end Lawful

/-- A set that has the members of another one takes them. -/
theorem taken_of_equal (h : (c.size == d.size && d.members.all c.holds) = true) :
    d.members.all c.takes = true := by
  refine List.all_eq_true.2 fun y hy => ?_
  have hholds : c.holds y = true := List.all_eq_true.1 (Bool.and_eq_true_iff.1 h).2 y hy
  exact (holds_iff.1 hholds).1

/-- Between sets of reachable sessions no question of equality or inclusion fails. Equality is
mutual inclusion unless the first set is equal to the second and has a member that the second does
not take, and it is the same in both directions unless this is so in one of them. -/
theorem equal_eq_inclusion_iff (same : Sameness) (hc : c.IsReachable) (hd : d.IsReachable) :
    ∃ equal back superset subset : Bool,
      c.equal same d = .ok equal ∧ d.equal same c = .ok back ∧
      c.isSuperset same d = .ok superset ∧ d.isSuperset same c = .ok subset ∧
      (superset && subset) = (equal && c.members.all d.takes) ∧
      (equal = (superset && subset) ↔
        (equal = true → ∀ x ∈ c.members, d.takes x = true)) ∧
      (equal = back ↔ (equal = true → ∀ x ∈ c.members, d.takes x = true) ∧
        (back = true → ∀ y ∈ d.members, c.takes y = true)) ∧
      (c.config.elementType = d.config.elementType →
        equal = (superset && subset) ∧ equal = back) := by
  have hclawful := hc.lawful
  have hdlawful := hd.lawful
  have hforth := hclawful.includes_eq hdlawful
  have hback := hdlawful.includes_eq hclawful
  rw [Bool.and_comm] at hback
  have hequal := taken_of_equal (c := c) (d := d)
  have hequal' := taken_of_equal (c := d) (d := c)
  refine ⟨_, _, _, _, hclawful.equal_eq same hdlawful, hdlawful.equal_eq same hclawful,
    hclawful.isSuperset_eq same hdlawful, hdlawful.isSuperset_eq same hclawful, hforth, ?_⟩
  simp only [← List.all_eq_true]
  generalize (d.members.all c.holds && c.members.all d.holds) = both at *
  generalize (c.size == d.size && d.members.all c.holds) = equal at *
  generalize (d.size == c.size && c.members.all d.holds) = back at *
  have hagree : (equal = true → c.members.all d.takes = true) →
      (back = true → d.members.all c.takes = true) → equal = back := by
    intro hall hall'
    rw [Bool.eq_iff_iff]
    constructor
    · intro h
      rw [h, hall h, Bool.and_true, hback, Bool.and_eq_true] at hforth
      exact hforth.1
    · intro h
      rw [h, hall' h, Bool.and_true, hforth, Bool.and_eq_true] at hback
      exact hback.1
  refine ⟨?_, ⟨?_, fun h => hagree h.1 h.2⟩, fun htype => ?_⟩
  · rw [hforth]
    cases equal <;> simp
  · rintro rfl
    exact ⟨hequal', hequal⟩
  · have hall := hclawful.taken_of_elementType_eq htype.symm
    have hall' := hdlawful.taken_of_elementType_eq htype
    exact ⟨by rw [hforth, hall, Bool.and_true], hagree (fun _ => hall) fun _ => hall'⟩

/-- An unrestricted set and a set of whole numbers of one member agree on their equality. -/
theorem equal_eq_inclusion_of_levels :
    let same : Sameness := fun x y => .ok (x.sameKey y)
    let c : Collection := ⟨.inMemory, { identity := 1, settings := {} }, [.level .low], none⟩
    let d : Collection :=
      ⟨.int, { identity := 2, settings := { elementType := some .int } }, [.level .low], none⟩
    ∃ superset subset : Bool,
      c.isSuperset same d = .ok superset ∧ d.isSuperset same c = .ok subset ∧
      c.equal same d = .ok (superset && subset) ∧ d.equal same c = .ok (superset && subset) := by
  intro same c d
  let s := (({} : Session).after { step := .construct .inMemory, args := [.level .low] }).after
    { step := .construct .int, args := [.level .low] }
  have hs : s.IsReachable :=
    .step (.step .refl (Instruction.isPlain_of_no_config (by decide) hasPlainConfig_nil))
      (Instruction.isPlain_of_no_config (by decide) hasPlainConfig_nil)
  have hcollections : s.collections = [c, d] := rfl
  have hc : c.IsReachable := ⟨s, hs, by simp [hcollections], rfl⟩
  have hd : d.IsReachable := ⟨s, hs, by simp [hcollections], rfl⟩
  obtain ⟨equal, back, superset, subset, hequal, hback, hsuperset, hsubset, -, hincludes, hagree,
    -⟩ := equal_eq_inclusion_iff same hc hd
  have htaken : ∀ x ∈ c.members, d.takes x = true := by decide
  have htaken' : ∀ y ∈ d.members, c.takes y = true := by decide
  have hforth := hincludes.2 fun _ => htaken
  have hsame := hagree.2 ⟨fun _ => htaken, fun _ => htaken'⟩
  exact ⟨superset, subset, hsuperset, hsubset, hforth ▸ hequal, hforth ▸ hsame ▸ hback⟩

/-- A set of a truth value is equal to a set of the whole number of its key, which does not include
it and is not equal to it. -/
theorem equal_without_inclusion :
    ∃ c d : Collection, c.IsReachable ∧ d.IsReachable ∧ ∀ same,
      c.equal same d = .ok true ∧ c.isSuperset same d = .ok true ∧
      d.isSuperset same c = .ok false ∧ d.equal same c = .ok false := by
  let s := (({} : Session).after { step := .construct .inMemory, args := [.bool true] }).after
    { step := .construct .int, args := [.level .low] }
  have hs : s.IsReachable :=
    .step (.step .refl (Instruction.isPlain_of_no_config (by decide) hasPlainConfig_nil))
      (Instruction.isPlain_of_no_config (by decide) hasPlainConfig_nil)
  let c : Collection := ⟨.inMemory, { identity := 1, settings := {} }, [.bool true], none⟩
  let d : Collection :=
    ⟨.int, { identity := 2, settings := { elementType := some .int } }, [.level .low], none⟩
  have hcollections : s.collections = [c, d] := rfl
  refine ⟨c, d, ⟨s, hs, by simp [hcollections], rfl⟩, ⟨s, hs, by simp [hcollections], rfl⟩, ?_⟩
  exact fun same => ⟨rfl, rfl, rfl, rfl⟩

end ValueSets.Collection
