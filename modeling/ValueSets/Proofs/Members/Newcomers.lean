import Mathlib.Data.List.Induction
import ValueSets.Members.Lemmas

/-!
# Which values are added

Adding goes value by value, and each is looked for in what has been gathered by then. In the end the
list has at its back the values that have the key of no old member and of no earlier value, each in
its turn: `Members.addAll_eq_append_newcomers`.
-/

set_option autoImplicit false

namespace ValueSets.Members

open Value

/-- The values that have the key of no member and of no earlier value, in their order. -/
def newcomers (ms xs : List Value) : List Value :=
  (xs.zipIdx.filter fun p => !hasKey p.1 ms && !hasKey p.1 (xs.take p.2)).map Prod.fst

theorem mem_of_mem_newcomers {ms xs : List Value} {x : Value} (hx : x ∈ newcomers ms xs) :
    x ∈ xs := by
  obtain ⟨p, hp, rfl⟩ := List.mem_map.1 hx
  exact List.fst_mem_of_mem_zipIdx (List.mem_filter.1 hp).1

theorem hasKey_eq_false_of_mem_newcomers {ms xs : List Value} {x : Value}
    (hx : x ∈ newcomers ms xs) : hasKey x ms = false := by
  obtain ⟨p, hp, rfl⟩ := List.mem_map.1 hx
  have hnew := (List.mem_filter.1 hp).2
  simp only [Bool.and_eq_true, Bool.not_eq_true'] at hnew
  exact hnew.1

/-- Whether a last value is new depends on all that came before it. -/
theorem newcomers_concat (ms xs : List Value) (x : Value) :
    newcomers ms (xs ++ [x]) =
      newcomers ms xs ++ if hasKey x (ms ++ xs) then [] else [x] := by
  have hfront : ∀ p ∈ xs.zipIdx, (xs ++ [x]).take p.2 = xs.take p.2 := by
    intro p hp
    have hlt := List.snd_lt_of_mem_zipIdx hp
    exact List.take_append_of_le_length (by omega)
  have hlast : [x].zipIdx xs.length = [(x, xs.length)] := rfl
  unfold newcomers
  rw [List.zipIdx_append, List.filter_append, List.map_append]
  congr 1
  · refine congrArg (List.map Prod.fst) (List.filter_congr fun p hp => ?_)
    rw [hfront p hp]
  · rw [Nat.zero_add, hlast, List.filter_cons, List.take_left, hasKey_append]
    cases hasKey x ms <;> cases hasKey x xs <;> rfl

/-- Adding values puts the new ones behind the members. -/
theorem addAll_eq_append_newcomers (ms xs : List Value) :
    addAll ms xs = ms ++ newcomers ms xs := by
  induction xs using List.reverseRecOn with
  | nil => simp [newcomers]
  | append_singleton xs x ih =>
    have hstep : addAll ms (xs ++ [x]) = add (addAll ms xs) x := addAll_append ms xs [x]
    have hkey : hasKey x (addAll ms xs) = hasKey x (ms ++ xs) := by
      rw [hasKey_addAll, hasKey_append]
    rw [hstep, newcomers_concat]
    unfold add
    rw [hkey, ih]
    split
    · rw [List.append_nil]
    · rw [List.append_assoc]

end ValueSets.Members
