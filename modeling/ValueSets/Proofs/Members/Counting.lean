import ValueSets.Members.Lemmas

/-!
# Counting distinct members

Members of which no two are the same key cannot be more than the members of a list that has all of
their keys. `Members.hasKey_of_length_le` is the other side of it, on which the equality of sets
rests: where both lists are of one length, the inclusion holds in both directions.

The module also says what `Members.addAll` makes of members that are distinct already, and of those
that are there already, and that dropping one of distinct members leaves all others. The keys of a
table are distinct, so a list of them is added as it stands.
-/

set_option autoImplicit false

namespace ValueSets.Members

open Value

/-- A list without one of its members still holds every key other than that of the member. -/
theorem hasKey_of_hasKey_cons {x y : Value} {front back : List Value}
    (h : hasKey x (front ++ y :: back) = true) (hyx : sameKey y x = false) :
    hasKey x (front ++ back) = true := by
  rw [hasKey_append, hasKey_cons, hyx, Bool.false_or] at h
  rw [hasKey_append]
  exact h

/-- Distinct members whose keys a list holds are no more than the members of that list. -/
theorem length_le_of_hasKey {xs ys : List Value} (hxs : Distinct xs)
    (h : ∀ x ∈ xs, hasKey x ys = true) : xs.length ≤ ys.length := by
  induction xs generalizing ys with
  | nil => exact Nat.zero_le _
  | cons x xs ih =>
    obtain ⟨hx, hxs⟩ := List.pairwise_cons.1 hxs
    obtain ⟨y, hy, hyx⟩ := hasKey_iff.1 (h x (by simp))
    obtain ⟨front, back, rfl⟩ := List.append_of_mem hy
    -- the member that has the key of `x` has the key of none of the others
    have hrest : ∀ z ∈ xs, hasKey z (front ++ back) = true := by
      intro z hz
      apply hasKey_of_hasKey_cons (h z (by simp [hz]))
      rw [← hx z hz, sameKey_comm y z, sameKey_comm x z]
      exact sameKey_congr_right hyx z
    have hle := ih hxs hrest
    simp only [List.length_append, List.length_cons] at hle ⊢
    omega

/-- Distinct members whose keys a list holds have all keys of that list, if it is not longer. -/
theorem hasKey_of_length_le {xs ys : List Value} (hxs : Distinct xs)
    (h : ∀ x ∈ xs, hasKey x ys = true) (hlen : ys.length ≤ xs.length) :
    ∀ y ∈ ys, hasKey y xs = true := by
  intro y hy
  cases hyxs : hasKey y xs with
  | true => rfl
  | false =>
    obtain ⟨front, back, rfl⟩ := List.append_of_mem hy
    have hrest : ∀ x ∈ xs, hasKey x (front ++ back) = true := by
      intro x hx
      apply hasKey_of_hasKey_cons (h x hx)
      rw [sameKey_comm]
      exact hasKey_eq_false_iff.1 hyxs x hx
    have hle := length_le_of_hasKey hxs hrest
    simp only [List.length_append, List.length_cons] at hle hlen
    omega

/-- A filter that answers the same for the same key keeps the keys that pass it. -/
theorem hasKey_filter {p : Value → Bool} (hp : ∀ x y, sameKey x y = true → p x = p y)
    (ms : List Value) (x : Value) : hasKey x (ms.filter p) = (hasKey x ms && p x) := by
  induction ms with
  | nil => rfl
  | cons m ms ih =>
    rw [hasKey_cons, List.filter_cons]
    cases hmx : sameKey m x with
    | true =>
      rw [hp m x hmx]
      cases hpx : p x with
      | true => simp [hmx]
      | false => simp [ih, hpx]
    | false =>
      split
      · rw [hasKey_cons, hmx, ih, Bool.false_or, Bool.false_or]
      · rw [ih, Bool.false_or]

/-- What a list has after adding values was there, or was added. -/
theorem mem_of_mem_addAll {ms xs : List Value} {m : Value} (h : m ∈ addAll ms xs) :
    m ∈ ms ∨ m ∈ xs := by
  induction xs generalizing ms with
  | nil => exact .inl h
  | cons x xs ih =>
    have hstep : m ∈ addAll (add ms x) xs := h
    rcases ih hstep with hm | hm
    · unfold add at hm
      split at hm
      · exact .inl hm
      · rcases List.mem_append.1 hm with hm | hm
        · exact .inl hm
        · exact .inr (by simp [List.mem_singleton.1 hm])
    · exact .inr (by simp [hm])

/-- Distinct members are added as they stand. -/
theorem addAll_eq_append {ms xs : List Value} (h : Distinct (ms ++ xs)) :
    addAll ms xs = ms ++ xs := by
  induction xs generalizing ms with
  | nil => simp
  | cons x xs ih =>
    have hnew : hasKey x ms = false := by
      rw [hasKey_eq_false_iff]
      intro m hm
      exact (List.pairwise_append.1 h).2.2 m hm x (by simp)
    have hadd : add ms x = ms ++ [x] := by
      unfold add
      rw [hnew]
      rfl
    have hstep : addAll ms (x :: xs) = addAll (add ms x) xs := rfl
    rw [hstep, hadd, ih (by simpa using h)]
    simp

/-- Dropping one of distinct members leaves those before and behind it. -/
theorem drop_eq_append {front back : List Value} {x : Value}
    (h : Distinct (front ++ x :: back)) : drop (front ++ x :: back) x = front ++ back := by
  obtain ⟨-, hback, hfront⟩ := List.pairwise_append.1 h
  have hkept : ∀ {ms : List Value}, (∀ m ∈ ms, sameKey m x = false) →
      ms.filter (fun m => !sameKey m x) = ms := by
    intro ms hms
    exact List.filter_eq_self.2 fun m hm => by simp [hms m hm]
  unfold drop
  rw [List.filter_append, List.filter_cons, sameKey_refl, Bool.not_true,
    hkept fun m hm => hfront m hm x (by simp), hkept fun m hm => ?_]
  · rfl
  · rw [sameKey_comm]
    exact (List.pairwise_cons.1 hback).1 m hm

/-! ## The keys of a table -/

/-- Merging an entry adds its key, unless it is there. -/
theorem map_fst_mergeEntry (merged : List (Value × Value)) (entry : Value × Value) :
    (mergeEntry merged entry).map (·.1) = add (merged.map (·.1)) entry.1 := by
  have hany : (merged.any fun e => e.1.sameKey entry.1) =
      hasKey entry.1 (merged.map (·.1)) := by
    unfold hasKey
    rw [List.any_map]
    rfl
  unfold mergeEntry add
  rw [hany]
  split
  · rw [List.map_map]
    refine List.map_congr_left fun e _ => ?_
    dsimp only [Function.comp]
    split <;> rfl
  · simp

/-- A table has the first of each key of its entries. -/
theorem map_fst_mergeEntries (es : List (Value × Value)) :
    (mergeEntries es).map (·.1) = addAll [] (es.map (·.1)) := by
  have hfold : ∀ merged, (es.foldl mergeEntry merged).map (·.1) =
      addAll (merged.map (·.1)) (es.map (·.1)) := by
    induction es with
    | nil => exact fun _ => rfl
    | cons e es ih =>
      intro merged
      rw [List.foldl_cons, ih, map_fst_mergeEntry]
      rfl
  exact hfold []

/-- The keys of a table are added as they stand. -/
theorem addAll_keys (es : List (Value × Value)) :
    addAll [] ((mergeEntries es).map (·.1)) = (mergeEntries es).map (·.1) := by
  have hdistinct : Distinct ((mergeEntries es).map (·.1)) := by
    rw [map_fst_mergeEntries]
    exact Distinct.addAll List.Pairwise.nil _
  exact addAll_eq_append hdistinct

end ValueSets.Members
