import Mathlib.Data.List.TakeWhile
import ValueSets.Proofs.Collection.Lawful

/-!
# Dropping elements

Of the elements that are to be dropped a set passes over those that its element type does not take,
and looks for the others, up to the first that cannot be hashed. `Keyed.delete_eq_remaining` says
what becomes of the members, which is settled by the elements before that one, and of the call: it
fails where the set stops (`Collection.stop?`), unless no member is left by then. In that case
nothing is looked for any more, so nothing has to be hashed, and the members that stay are those
that no element at all would drop (`Collection.remaining_eq_kept`).
-/

set_option autoImplicit false

namespace ValueSets

/-- Taking the keys of values out of a list leaves its other keys. -/
theorem Members.hasKey_without (ms ys : List Value) (x : Value) :
    Value.hasKey x (ms.filter fun m => !Value.hasKey m ys) =
      (Value.hasKey x ms && !Value.hasKey x ys) :=
  hasKey_filter (fun y z hyz => by rw [Value.hasKey_congr hyz]) ms x

namespace Collection

variable {c : Collection} {x y : Value} {xs : List Value}

/-- Whether a set would have to look for a value that cannot be hashed. -/
def stopsAt (c : Collection) (x : Value) : Bool := c.takes x && !x.isHashable

/-- The first element that a set would have to look for although it cannot be hashed. -/
def stop? (c : Collection) (xs : List Value) : Option Value := xs.find? c.stopsAt

/-- The elements that are looked for: those that the set takes, up to where it stops. -/
def sought (c : Collection) (xs : List Value) : List Value :=
  (xs.takeWhile fun x => !c.stopsAt x).filter c.takes

/-- The members that stay when elements are dropped. -/
def remaining (c : Collection) (xs : List Value) : List Value :=
  c.members.filter fun m => !Value.hasKey m (c.sought xs)

/-- The members that stay when elements are dropped and all of them are passed. -/
def kept (c : Collection) (xs : List Value) : List Value :=
  c.members.filter fun m => !Value.hasKey m (xs.filter c.takes)

/-- The element at which dropping fails: where the set stops, unless no member is left. -/
def obstacle? (c : Collection) (xs : List Value) : Option Value :=
  if (c.remaining xs).isEmpty then none else c.stop? xs

/-- The result of dropping elements. -/
def dropping (c : Collection) (xs : List Value) : Except Fault Unit :=
  match c.obstacle? xs with
  | some x => .error (.unhashable x)
  | none => .ok ()

theorem dropping_eq_ok_iff : c.dropping xs = .ok () ↔ c.obstacle? xs = none := by
  unfold dropping
  cases c.obstacle? xs with
  | none => simp
  | some x => simp

theorem stopsAt_of_isHashable (c : Collection) (hx : x.isHashable = true) :
    c.stopsAt x = false := by
  unfold stopsAt
  rw [hx]
  exact Bool.and_false _

theorem stopsAt_of_not_takes (hx : c.takes x = false) : c.stopsAt x = false := by
  unfold stopsAt
  rw [hx]
  exact Bool.false_and _

@[simp] theorem sought_nil : c.sought [] = [] := rfl

/-- Nothing is looked for behind an element at which the set stops. -/
theorem sought_cons_of_stopsAt (hx : c.stopsAt x = true) : c.sought (x :: xs) = [] := by
  unfold sought
  rw [List.takeWhile_cons_of_neg (by simp [hx])]
  rfl

theorem sought_cons (hx : c.stopsAt x = false) :
    c.sought (x :: xs) = if c.takes x then x :: c.sought xs else c.sought xs := by
  unfold sought
  rw [List.takeWhile_cons_of_pos (by simp [hx]), List.filter_cons]

/-- What is looked for is among the elements, and the set takes it. -/
theorem of_mem_sought (hx : x ∈ c.sought xs) : x ∈ xs ∧ c.takes x = true := by
  obtain ⟨hx, htakes⟩ := List.mem_filter.1 hx
  exact ⟨(List.takeWhile_sublist _).subset hx, htakes⟩

/-- If a set does not stop it looks for all elements that it takes. -/
theorem sought_eq_filter (hstop : c.stop? xs = none) : c.sought xs = xs.filter c.takes := by
  have hall : ∀ x ∈ xs, (!c.stopsAt x) = true := by
    intro x hx
    have hnot := List.find?_eq_none.1 hstop x hx
    simpa using hnot
  unfold sought
  rw [List.takeWhile_eq_self_iff.2 hall]

/-! ### One element after the other -/

/-- An empty set passes over everything. -/
theorem obstacle?_of_nil (hempty : c.members = []) (xs : List Value) :
    c.remaining xs = [] ∧ c.obstacle? xs = none := by
  have hremaining : c.remaining xs = [] := by
    unfold remaining
    rw [hempty]
    rfl
  refine ⟨hremaining, ?_⟩
  unfold obstacle?
  rw [hremaining]
  rfl

/-- Where a set stops everything is left as it was. -/
theorem obstacle?_of_stopsAt (hsome : c.members ≠ []) (hx : c.stopsAt x = true) (xs : List Value) :
    c.remaining (x :: xs) = c.members ∧ c.obstacle? (x :: xs) = some x := by
  have hremaining : c.remaining (x :: xs) = c.members := by
    simp [remaining, sought_cons_of_stopsAt hx]
  refine ⟨hremaining, ?_⟩
  unfold obstacle? stop?
  rw [hremaining, if_neg (by simp [hsome]), List.find?_cons_of_pos hx]

/-- What a set does not take makes no difference. -/
theorem obstacle?_of_not_takes (hx : c.takes x = false) (xs : List Value) :
    c.remaining (x :: xs) = c.remaining xs ∧ c.obstacle? (x :: xs) = c.obstacle? xs := by
  have hpassed := stopsAt_of_not_takes hx
  have hremaining : c.remaining (x :: xs) = c.remaining xs := by
    unfold remaining
    rw [sought_cons hpassed, if_neg (by simp [hx])]
  refine ⟨hremaining, ?_⟩
  unfold obstacle? stop?
  rw [hremaining, List.find?_cons_of_neg (by simp [hpassed])]

/-- An element that is found can be dropped before the others. -/
theorem obstacle?_drop (htakes : c.takes x = true) (hx : x.isHashable = true) (xs : List Value) :
    (c.holding (Members.drop c.members x)).remaining xs = c.remaining (x :: xs) ∧
      (c.holding (Members.drop c.members x)).obstacle? xs = c.obstacle? (x :: xs) := by
  have hpassed := c.stopsAt_of_isHashable hx
  have hsought : (c.holding (Members.drop c.members x)).sought xs = c.sought xs := rfl
  have hstop : (c.holding (Members.drop c.members x)).stop? xs = c.stop? xs := rfl
  have hremaining :
      (c.holding (Members.drop c.members x)).remaining xs = c.remaining (x :: xs) := by
    unfold remaining
    rw [hsought, sought_cons hpassed, if_pos htakes, holding_members]
    unfold Members.drop
    rw [List.filter_filter]
    refine List.filter_congr fun m _ => ?_
    rw [Value.hasKey_cons, Bool.not_or, Bool.and_comm, Value.sameKey_comm m x]
  refine ⟨hremaining, ?_⟩
  unfold obstacle?
  rw [hremaining, hstop]
  unfold stop?
  rw [List.find?_cons_of_neg (by simp [hpassed])]

/-! ### What succeeds -/

/-- Where dropping succeeds, the members stay whose keys are not among the elements. -/
theorem remaining_eq_kept (h : c.obstacle? xs = none) : c.remaining xs = c.kept xs := by
  unfold obstacle? at h
  split at h
  · -- the elements that are left out could only have dropped more
    rename_i hempty
    have hnil : c.remaining xs = [] := List.isEmpty_iff.1 hempty
    rw [hnil, eq_comm]
    unfold remaining at hnil
    unfold kept
    rw [List.filter_eq_nil_iff] at hnil ⊢
    intro m hm
    have hsought := hnil m hm
    simp only [Bool.not_eq_true', Bool.not_eq_false, Value.hasKey_iff] at hsought ⊢
    obtain ⟨x, hx, hxm⟩ := hsought
    obtain ⟨hx, htakes⟩ := of_mem_sought hx
    exact ⟨x, List.mem_filter.2 ⟨hx, htakes⟩, hxm⟩
  · unfold remaining kept
    rw [sought_eq_filter h]

/-- A set without members, or one that is never stopped, passes all elements. -/
theorem obstacle?_eq_none (h : c.members = [] ∨ c.stop? xs = none) : c.obstacle? xs = none := by
  rcases h with hempty | hstop
  · exact (obstacle?_of_nil hempty xs).2
  · unfold obstacle?
    rw [hstop, ite_self]

theorem stop?_eq_none_iff : c.stop? xs = none ↔ ∀ x ∈ xs, c.stopsAt x = false := by
  unfold stop?
  rw [List.find?_eq_none]
  simp

theorem kept_append (c : Collection) (xs ys : List Value) :
    (c.holding (c.kept xs)).kept ys = c.kept (xs ++ ys) := by
  have htakes : (c.holding (c.kept xs)).takes = c.takes := rfl
  unfold kept at htakes ⊢
  rw [htakes, holding_members, List.filter_filter, List.filter_append]
  refine List.filter_congr fun m _ => ?_
  rw [Value.hasKey_append, Bool.not_or, Bool.and_comm]

end Collection

namespace Keyed

open Collection

/-- Dropping elements leaves the members whose keys are not looked for, and fails where the set
stops and has a member left. -/
theorem delete_eq_remaining (c : Collection) (xs : List Value) :
    delete c xs = (c.dropping xs, c.holding (c.remaining xs)) := by
  unfold dropping
  induction xs generalizing c with
  | nil =>
    have hself : c.remaining [] = c.members := by simp [remaining]
    have hnone : c.obstacle? [] = none := by simp [obstacle?, stop?]
    rw [hself, hnone]
    rfl
  | cons x xs ih =>
    unfold delete
    by_cases hempty : c.members = []
    · obtain ⟨hremaining, hobstacle⟩ := obstacle?_of_nil hempty xs
      obtain ⟨hremaining', hobstacle'⟩ := obstacle?_of_nil hempty (x :: xs)
      rw [if_pos (by simp [hempty]), ih, hremaining, hobstacle, hremaining', hobstacle']
    by_cases htakes : c.takes x = true
    · rw [if_neg (by simp [hempty, htakes])]
      by_cases hhash : x.isHashable = true
      · have hdelete := ih (c.holding (Members.drop c.members x))
        obtain ⟨hremaining, hobstacle⟩ := obstacle?_drop htakes hhash xs
        rw [hremaining, hobstacle] at hdelete
        rw [if_neg (by simp [hhash])]
        exact hdelete
      · have hstops : c.stopsAt x = true := by simp [stopsAt, htakes, hhash]
        obtain ⟨hremaining, hobstacle⟩ := obstacle?_of_stopsAt hempty hstops xs
        rw [if_pos (by simp [hhash]), hremaining, hobstacle]
        rfl
    · obtain ⟨hremaining, hobstacle⟩ := obstacle?_of_not_takes (Bool.eq_false_iff.2 htakes) xs
      rw [if_pos (by simp [htakes]), ih, hremaining, hobstacle]

/-- Asking fails where the set would stop, and answers for everything else. -/
theorem has_eq (c : Collection) (x : Value) :
    has c x = if c.stopsAt x then .error (.unhashable x) else .ok (c.holds x) := by
  unfold has stopsAt holds
  cases c.takes x with
  | false => rfl
  | true => cases x.isHashable <;> rfl

end Keyed

end ValueSets
