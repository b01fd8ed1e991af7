import ValueSets.Members
import ValueSets.Value.KeyLaws

/-!
# What adding and dropping do to the keys of a list

The view of a list of members is the question `Value.hasKey`. Each operation has one law for it, and
each keeps `Members.Distinct`, which says that no two members are the same key.
-/

set_option autoImplicit false

namespace ValueSets

namespace Value

/-- A key is held exactly if some member is that key. -/
theorem hasKey_iff {x : Value} {ms : List Value} :
    hasKey x ms = true ↔ ∃ m ∈ ms, sameKey m x = true := by
  simp [hasKey]

/-- No member is a key that is not held. -/
theorem hasKey_eq_false_iff {x : Value} {ms : List Value} :
    hasKey x ms = false ↔ ∀ m ∈ ms, sameKey m x = false := by
  simp [hasKey]

/-- A list that is put together holds what its parts hold. -/
@[simp] theorem hasKey_append (x : Value) (ms ns : List Value) :
    hasKey x (ms ++ ns) = (hasKey x ms || hasKey x ns) := by
  simp [hasKey]

/-- The first member is asked before the others. -/
@[simp] theorem hasKey_cons (x m : Value) (ms : List Value) :
    hasKey x (m :: ms) = (sameKey m x || hasKey x ms) := by
  simp [hasKey]

/-- The empty list holds nothing. -/
@[simp] theorem hasKey_nil (x : Value) : hasKey x [] = false := rfl

/-- Comparing with the same key gives the same answer. -/
theorem sameKey_congr_right {x y : Value} (h : sameKey x y = true) (m : Value) :
    sameKey m x = sameKey m y := by
  rw [Bool.eq_iff_iff]
  constructor
  · intro hx
    exact sameKey_trans hx h
  · intro hy
    exact sameKey_trans hy (sameKey_comm x y ▸ h)

/-- A list answers the same for the same key. -/
theorem hasKey_congr {x y : Value} (h : sameKey x y = true) (ms : List Value) :
    hasKey x ms = hasKey y ms := by
  simp only [hasKey, sameKey_congr_right h]

end Value

namespace Members

open Value

/-- After adding `x`, a list holds what it held and `x`. -/
theorem hasKey_add (ms : List Value) (x y : Value) :
    hasKey y (add ms x) = (hasKey y ms || sameKey x y) := by
  unfold add
  split
  case isTrue hx =>
    cases hxy : sameKey x y with
    | false => simp
    | true => rw [← hasKey_congr hxy ms, hx, Bool.true_or]
  case isFalse hx => simp

/-- After adding values, a list holds what it held and those values. -/
theorem hasKey_addAll (ms xs : List Value) (y : Value) :
    hasKey y (addAll ms xs) = (hasKey y ms || hasKey y xs) := by
  induction xs generalizing ms with
  | nil => simp
  | cons x xs ih =>
    have hstep : addAll ms (x :: xs) = addAll (add ms x) xs := rfl
    rw [hstep, ih, hasKey_add, hasKey_cons, Bool.or_assoc]

/-- After dropping `x`, a list holds what it held except `x`. -/
theorem hasKey_drop (ms : List Value) (x y : Value) :
    hasKey y (drop ms x) = (hasKey y ms && !sameKey x y) := by
  rw [Bool.eq_iff_iff]
  simp only [drop, hasKey_iff, List.mem_filter, Bool.and_eq_true, Bool.not_eq_true']
  constructor
  · rintro ⟨m, ⟨hm, hmx⟩, hmy⟩
    refine ⟨⟨m, hm, hmy⟩, ?_⟩
    cases hxy : sameKey x y with
    | false => rfl
    | true => rw [sameKey_congr_right hxy m, hmy] at hmx; exact hmx
  · rintro ⟨⟨m, hm, hmy⟩, hxy⟩
    refine ⟨m, ⟨hm, ?_⟩, hmy⟩
    cases hmx : sameKey m x with
    | false => rfl
    | true =>
      rw [← sameKey_congr_right hmy x, sameKey_comm, hmx] at hxy
      exact hxy

/-- No two members are the same key. -/
def Distinct (ms : List Value) : Prop := ms.Pairwise fun m n => sameKey m n = false

/-- Adding a value keeps members distinct. -/
theorem Distinct.add {ms : List Value} (h : Distinct ms) (x : Value) : Distinct (add ms x) := by
  unfold Members.add
  split
  case isTrue => exact h
  case isFalse hx =>
    refine List.pairwise_append.2 ⟨h, List.pairwise_singleton _ x, ?_⟩
    intro m hm y hy
    rw [List.mem_singleton.1 hy]
    exact hasKey_eq_false_iff.1 (Bool.not_eq_true _ ▸ hx) m hm

/-- Adding values keeps members distinct. -/
theorem Distinct.addAll {ms : List Value} (h : Distinct ms) (xs : List Value) :
    Distinct (addAll ms xs) := by
  induction xs generalizing ms with
  | nil => exact h
  | cons x xs ih => exact ih (h.add x)

/-- Dropping a value keeps members distinct. -/
theorem Distinct.drop {ms : List Value} (h : Distinct ms) (x : Value) : Distinct (drop ms x) :=
  h.filter _

/-- Merges one more entry into entries of different keys. -/
def mergeEntry (merged : List (Value × Value)) (entry : Value × Value) : List (Value × Value) :=
  if merged.any fun e => e.1.sameKey entry.1 then
    merged.map fun e => if e.1.sameKey entry.1 then (e.1, entry.2) else e
  else merged ++ [entry]

theorem mergeEntries_eq_foldl (es : List (Value × Value)) :
    mergeEntries es = es.foldl mergeEntry [] := rfl

end Members

end ValueSets
