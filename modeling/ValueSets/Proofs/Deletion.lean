import ValueSets.Proofs.Collection.Dropping
import ValueSets.Proofs.Requests

/-!
# Dropping and asking

What becomes of a set when elements are dropped is settled by those before the first that would have
to be looked for and cannot be hashed. `Session.deletion_decided` carries this over to requests,
next to the question for one element, and says what the answers to such questions are after elements
were dropped.

The question fails wherever dropping would have to look for an element that cannot be hashed, also
if the set is empty and nothing is looked for: `Session.emptySet_passes_over` is where the two come
apart.
-/

set_option autoImplicit false

namespace ValueSets

namespace Collection

variable {c : Collection} {x y : Value} {xs : List Value}

/-- Dropping a single element fails exactly where asking for it does, except on an empty set. -/
theorem obstacle?_singleton (c : Collection) (x : Value) :
    c.obstacle? [x] = some x ↔ c.stopsAt x = true ∧ c.members ≠ [] := by
  by_cases hstops : c.stopsAt x = true
  · by_cases hempty : c.members = []
    · simp [(obstacle?_of_nil hempty [x]).2, hempty]
    · simp [(obstacle?_of_stopsAt hempty hstops []).2, hempty, hstops]
  · simp [obstacle?, stop?, hstops]

/-- Where dropping succeeds, none of the elements is held any more. -/
theorem holds_remaining_of_mem (hsuccess : c.obstacle? xs = none) (hx : x ∈ xs) :
    (c.holding (c.remaining xs)).holds x = false := by
  by_cases htakes : c.takes x = true
  · have hgone : Value.hasKey x (xs.filter c.takes) = true :=
      Value.hasKey_iff.2 ⟨x, List.mem_filter.2 ⟨hx, htakes⟩, Value.sameKey_refl x⟩
    unfold holds
    rw [remaining_eq_kept hsuccess, holding_members]
    unfold kept
    rw [Members.hasKey_without, hgone]
    simp
  · exact Lawful.holds_of_not_takes (c := c.holding _) (Bool.eq_false_iff.2 htakes)

/-- What is the same key as no element is held as before. -/
theorem holds_remaining_of_forall (hy : ∀ x ∈ xs, x.sameKey y = false) :
    (c.holding (c.remaining xs)).holds y = c.holds y := by
  have hnot : Value.hasKey y (c.sought xs) = false :=
    Value.hasKey_eq_false_iff.2 fun x hx => hy x (of_mem_sought hx).1
  unfold holds remaining
  rw [holding_members, Members.hasKey_without, hnot, Bool.not_false, Bool.and_true]
  rfl

end Collection

namespace Session

open Act

variable {s u : Session} {i : Instruction} {h : Handle} {x : Value} {xs : List Value}

namespace Calls

/-- A request to drop elements leaves what the primitive leaves, and is answered by its result. -/
theorem execute_delete (hs : s.Sound) (hcall : s.Calls i .delete h xs u) :
    ∃ t, (Session.execute i).run s = (⟨match (s.collection h).obstacle? xs with
        | some x => .error (.unhashable x)
        | none => .ok .null, []⟩, t) ∧
      t.collections = s.collections.set h.index
        ((s.collection h).holding ((s.collection h).remaining xs)) := by
  have hattempt := hcall.outcome_delete hs
  have hcollections := hcall.collections_store hs
    ((s.collection h).holding ((s.collection h).remaining xs))
  rw [Keyed.delete_eq_remaining] at hattempt
  unfold Collection.dropping at hattempt
  cases hobstacle : (s.collection h).obstacle? xs with
  | some x =>
    rw [hobstacle] at hattempt
    have hrun := execute_run_of_unhashable hattempt
    rw [written_eq_nil (t := u.store h _) hcall.log_eq] at hrun
    exact ⟨_, hrun, hcollections⟩
  | none =>
    rw [hobstacle] at hattempt
    obtain ⟨t, hrun, ht⟩ := hcall.execute_run hs hattempt hcall.log_eq fun _ => rfl
    exact ⟨t, hrun, ht.trans hcollections⟩

/-- A request for an element leaves the sets as they are. -/
theorem execute_has (hs : s.Sound) (hcall : s.Calls i .has h [x] u) :
    ∃ t, (Session.execute i).run s = (⟨if (s.collection h).stopsAt x then .error (.unhashable x)
        else .ok (.bool ((s.collection h).holds x)), []⟩, t) ∧
      t.collections = s.collections := by
  have hattempt := hcall.outcome_has hs
  have hsame := (hcall.like hs).collections
  rw [Keyed.has_eq] at hattempt
  by_cases hstops : (s.collection h).stopsAt x = true
  · rw [if_pos hstops] at hattempt ⊢
    have hrun := execute_run_of_unhashable hattempt
    rw [written_eq_nil hcall.log_eq] at hrun
    exact ⟨u, hrun, hsame⟩
  · rw [if_neg hstops] at hattempt ⊢
    obtain ⟨t, hrun, ht⟩ := hcall.execute_run hs hattempt hcall.log_eq fun _ => rfl
    exact ⟨t, hrun, ht.trans hsame⟩

end Calls

/-- A request to drop elements takes the keys of those that the set takes out of it, up to the first
that cannot be hashed, and leaves the other members in order. It fails at that one, unless no member
is left. A request for an element changes nothing. It fails for every value that the set takes and
that cannot be hashed, and else answers whether the set takes the value and has its key. So after
dropping has succeeded the set has none of the elements, and it has what it had of all other keys.
-/
theorem deletion_decided (hs : s.IsReachable) (h : Handle) :
    let c := s.collection h
    (∀ i xs u, s.Calls i .delete h xs u → ∃ t,
      (Session.execute i).run s = (⟨match c.obstacle? xs with
        | some x => .error (.unhashable x)
        | none => .ok .null, []⟩, t) ∧
      t.collections = s.collections.set h.index (c.holding (c.remaining xs))) ∧
    (∀ i x u, s.Calls i .has h [x] u → ∃ t,
      (Session.execute i).run s = (⟨if c.stopsAt x then .error (.unhashable x)
        else .ok (.bool (c.holds x)), []⟩, t) ∧
      t.collections = s.collections) ∧
    (∀ x, c.obstacle? [x] = some x ↔ c.stopsAt x = true ∧ c.members ≠ []) ∧
    (∀ xs, c.obstacle? xs = none → ∀ x ∈ xs, (c.holding (c.remaining xs)).holds x = false) ∧
    ∀ xs y, (∀ x ∈ xs, x.sameKey y = false) → (c.holding (c.remaining xs)).holds y = c.holds y := by
  intro c
  exact ⟨fun i xs u hcall => hcall.execute_delete hs.sound,
    fun i x u hcall => hcall.execute_has hs.sound, fun x => c.obstacle?_singleton x,
    fun xs hsuccess x hx => Collection.holds_remaining_of_mem hsuccess hx,
    fun xs y hy => Collection.holds_remaining_of_forall hy⟩

/-- Two levels are in a set without an element type, and a list stands between them where they are
dropped. The first one goes, the list is reported, and the level behind it stays. -/
theorem deletion_decided_of_list :
    let s := ({} : Session).after
      { step := .construct .inMemory, args := [.level .low, .level .mid], target? := some "a" }
    let i : Instruction :=
      { step := .call .delete "a", args := [.level .mid, .list [], .level .low] }
    ∃ x t, (Session.execute i).run s = (⟨.error (.unhashable x), []⟩, t) ∧
      x.typeName = "list" ∧ t.collections.map (·.members) = [[.level .low]] := by
  intro s i
  let x : Value := .box ⟨0, .list⟩
  let xs : List Value := [.level .mid, x, .level .low]
  have hs : s.IsReachable :=
    .step .refl (Instruction.isPlain_of_no_config (by decide) Collection.hasPlainConfig_nil)
  have hcall : s.Calls i .delete ⟨0, .inMemory⟩ xs (outcome i.arguments s.begun).2 :=
    ⟨⟨"a", rfl, rfl, rfl⟩, rfl⟩
  obtain ⟨hdelete, -⟩ := deletion_decided hs ⟨0, .inMemory⟩
  obtain ⟨t, hrun, ht⟩ := hdelete i xs _ hcall
  have hobstacle : (s.collection ⟨0, .inMemory⟩).obstacle? xs = some x := rfl
  have hremaining : (s.collection ⟨0, .inMemory⟩).remaining xs = [.level .low] := rfl
  rw [hobstacle] at hrun
  rw [hremaining] at ht
  exact ⟨x, t, hrun, rfl, by rw [ht]; rfl⟩

/-- An empty set without an element type refuses to look for a list, but drops it without complaint.
-/
theorem emptySet_passes_over :
    let s := ({} : Session).after { step := .construct .inMemory, target? := some "a" }
    let i : Instruction := { step := .call .delete "a", args := [.list []] }
    let j : Instruction := { step := .call .has "a", args := [.list []] }
    ∃ h x u, s.IsReachable ∧ s.Calls i .delete h [x] u ∧ s.Calls j .has h [x] u ∧
      (s.collection h).takes x = true ∧ x.isHashable = false ∧
      ((Session.execute i).run s).1.outcome = .ok .null ∧
      ((Session.execute j).run s).1.outcome = .error (.unhashable x) := by
  intro s i j
  have hs : s.IsReachable :=
    .step .refl (Instruction.isPlain_of_no_config (by decide) Collection.hasPlainConfig_nil)
  exact ⟨⟨0, .inMemory⟩, .box ⟨0, .list⟩, _, hs, ⟨⟨"a", rfl, rfl, rfl⟩, rfl⟩,
    ⟨⟨"a", rfl, rfl, rfl⟩, rfl⟩, rfl, rfl, rfl, rfl⟩

end Session

end ValueSets
