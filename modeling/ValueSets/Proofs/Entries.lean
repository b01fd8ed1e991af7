import Mathlib.Data.List.Nodup

/-!
# Entries by name

Variables, arguments and the globals of a package are lists of entries, each under a name. What
stands under a name is what the first entry of that name holds. A new entry takes the place of those
of its name, and goes to the end if there are none (`lookup_entered`).
-/

set_option autoImplicit false

namespace ValueSets

variable {α β : Type}

theorem mem_of_lookup {named : List (String × α)} {name : String} {v : α}
    (h : named.lookup name = some v) : (name, v) ∈ named := by
  obtain ⟨before, after, hsplit, -⟩ := List.lookup_eq_some_iff.1 h
  simp [hsplit]

theorem lookup_map (f : α → β) (named : List (String × α)) (name : String) :
    (named.map (Prod.map id f)).lookup name = (named.lookup name).map f := by
  induction named with
  | nil => rfl
  | cons b named ih =>
    rw [List.map_cons, List.lookup_cons, List.lookup_cons]
    cases hname : name == b.1 with
    | true => simp [Prod.map, hname]
    | false => simpa [Prod.map, hname] using ih

theorem lookup_cons_eq (name : String) (b : String × α) (named : List (String × α)) :
    (b :: named).lookup name = if name = b.1 then some b.2 else named.lookup name := by
  rw [List.lookup_cons]
  by_cases hname : name = b.1
  · simp [hname]
  · simp [hname, beq_false_of_ne hname]

theorem lookup_eq_none {name : String} {named : List (String × α)}
    (h : name ∉ named.map (·.1)) : named.lookup name = none := by
  refine List.lookup_eq_none_iff.2 fun b hb => bne_iff_ne.2 ?_
  rintro rfl
  exact h (List.mem_map_of_mem hb)

theorem any_eq_true_iff {name : String} {named : List (String × α)} :
    (named.any fun b => b.1 == name) = true ↔ name ∈ named.map (·.1) := by
  simp

/-- Replacing what stands under one name leaves what stands under the others. -/
theorem lookup_replaced (name other : String) (v : α) (named : List (String × α)) :
    (named.map fun b => if b.1 == other then (other, v) else b).lookup name =
      if name = other ∧ (named.any fun b => b.1 == other) = true then some v
      else named.lookup name := by
  induction named with
  | nil => simp
  | cons b named ih =>
    rw [List.map_cons, lookup_cons_eq, lookup_cons_eq, ih, List.any_cons]
    by_cases hkey : b.1 = other
    · by_cases hname : name = other <;> simp [hkey, hname]
    · rw [beq_false_of_ne hkey, Bool.false_or]
      by_cases hname : name = b.1 <;> simp [hkey, hname]

/-- A new entry stands under its name, and nothing else changes. -/
theorem lookup_entered (name other : String) (v : α) (named : List (String × α)) :
    (if named.any fun b => b.1 == other then
        named.map fun b => if b.1 == other then (other, v) else b
      else named ++ [(other, v)]).lookup name =
      if name = other then some v else named.lookup name := by
  split
  · rename_i hany
    rw [lookup_replaced, hany]
    simp
  · rename_i hnone
    rw [List.lookup_append, lookup_cons_eq, List.lookup_nil]
    by_cases hname : name = other
    · rw [hname, lookup_eq_none (mt any_eq_true_iff.2 hnone), if_pos rfl, Option.none_or]
    · rw [if_neg hname, if_neg hname, Option.or_none]

/-- A new entry leaves each name with one entry at most. -/
theorem nodup_entered {other : String} {v : α} {named : List (String × α)}
    (h : (named.map (·.1)).Nodup) :
    ((if named.any fun b => b.1 == other then
        named.map fun b => if b.1 == other then (other, v) else b
      else named ++ [(other, v)]).map (·.1)).Nodup := by
  split
  · have hnames : ∀ b : String × α, (if b.1 == other then (other, v) else b).1 = b.1 := by
      intro b
      split
      · rename_i hkey
        exact (eq_of_beq hkey).symm
      · rfl
    rw [List.map_map]
    simpa only [Function.comp_def, hnames] using h
  · rename_i hnone
    rw [List.map_append]
    refine List.nodup_append.2 ⟨h, List.nodup_singleton _, fun name hname key hkey heq => ?_⟩
    rw [List.map_singleton, List.mem_singleton] at hkey
    rw [heq, hkey] at hname
    exact hnone (any_eq_true_iff.2 hname)

end ValueSets
