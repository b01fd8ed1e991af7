import ValueSets.Proofs.Fallible
import ValueSets.Proofs.Members.Counting
import ValueSets.Proofs.Value.Grounded
import ValueSets.Value.Combination

/-!
# Where the items of a value set come from

Whatever an operation on tables does with places, it puts nothing there but the items that it was
given. So what holds of each item of the operands holds of each item of the result:
`Slots.Each` is preserved by each operation on tables. From this the operators on values other than
sets of the library make grounded values of grounded ones, and never a handle:
`Value.grounded_of_combine` and `Value.grounded_of_combineSets`.
-/

set_option autoImplicit false

namespace ValueSets

open Fallible

namespace Slots

variable {P : Value → Prop} {t u : Slots} {v : Value} {vs : List Value}

/-- Whether something holds of each item of a table. -/
def Each (P : Value → Prop) (t : Slots) : Prop := ∀ v ∈ t.items, P v

theorem each_iff : Each P t ↔ ∀ v, Slot.taken v ∈ t → P v := by
  unfold Each items
  simp only [List.mem_filterMap, Array.mem_toList_iff]
  constructor
  · intro h v hv
    exact h v ⟨_, hv, rfl⟩
  · rintro h v ⟨slot, hslot, hitem⟩
    cases slot with
    | taken w =>
      cases hitem
      exact h v hslot
    | free | dropped => cases hitem

/-! ## Places -/

theorem each_ofSize (size : Nat) : Each P (ofSize size) := by
  rw [each_iff]
  intro v hv
  simp [ofSize] at hv

theorem each_none : Each P none := each_ofSize leastSize

/-- Changing one place leaves the items at the others. -/
theorem Each.setIfInBounds (ht : Each P t) {slot : Slot} (hslot : ∀ v, slot = .taken v → P v)
    (place : Nat) : Each P (t.setIfInBounds place slot) := by
  rw [each_iff] at ht ⊢
  intro v hv
  rcases Array.mem_or_eq_of_mem_setIfInBounds hv with hv | hv
  · exact ht v hv
  · exact hslot v hv.symm

theorem Each.put (ht : Each P t) (hv : P v) : Each P (t.put v) := by
  unfold Slots.put
  simp only
  split
  · refine ht.setIfInBounds (fun w hw => ?_) _
    cases hw
    exact hv
  · exact ht

theorem Each.putAll (ht : Each P t) (hvs : ∀ v ∈ vs, P v) : Each P (vs.foldl Slots.put t) :=
  List.foldlRecOn vs Slots.put ht fun _ hu v hv => hu.put (hvs v hv)

theorem Each.resized (ht : Each P t) (count : Nat) : Each P (t.resized count) := by
  unfold Slots.resized
  simp only
  split
  · exact ht
  · exact (each_ofSize _).putAll ht

theorem Each.spread (ht : Each P t) : Each P t.spread := ht.resized _

/-! ## Adding and dropping -/

theorem Each.add (ht : Each P t) (hv : P v) : Each P (t.add v) := by
  unfold Slots.add
  split
  · exact ht
  · have hput := ht.put hv
    simp only
    split
    · exact hput
    · exact hput.spread

theorem Each.addAll (ht : Each P t) (hvs : ∀ v ∈ vs, P v) : Each P (t.addAll vs) :=
  List.foldlRecOn vs Slots.add ht fun _ hu v hv => hu.add (hvs v hv)

theorem each_ofKeys (hvs : ∀ v ∈ vs, P v) : Each P (ofKeys vs) := each_none.addAll hvs

theorem Each.drop (ht : Each P t) (x : Value) : Each P (t.drop x) := by
  rw [each_iff] at ht ⊢
  intro v hv
  obtain ⟨slot, hslot, hwithout⟩ := Array.mem_map.1 hv
  cases slot with
  | free | dropped => cases hwithout
  | taken w =>
    simp only [Slot.without] at hwithout
    split at hwithout
    · cases hwithout
    · cases hwithout
      exact ht v hslot

theorem Each.tidied (ht : Each P t) : Each P t.tidied := by
  unfold Slots.tidied
  split
  · exact ht
  · exact ht.spread

theorem Each.prepared (ht : Each P t) (count : Nat) : Each P (t.prepared count) := by
  unfold Slots.prepared
  split
  · exact ht
  · exact ht.resized _

theorem Each.merge (ht : Each P t) (hu : Each P u) : Each P (t.merge u) := by
  unfold Slots.merge
  have hprepared := ht.prepared u.items.length
  split
  · exact ht
  · simp only
    split
    · split
      · exact hu
      · exact hprepared.putAll hu
    · exact hprepared.addAll hu

theorem Each.copy (ht : Each P t) : Each P t.copy := each_none.merge ht

theorem each_ofLayout (hvs : ∀ v ∈ vs, P v) (layout : Layout) : Each P (ofLayout vs layout) := by
  unfold ofLayout
  split
  · refine List.foldlRecOn _ _ ?_ fun t ht p hp => ?_
    · refine List.foldlRecOn _ _ (each_ofSize _) fun t ht place _ => ?_
      exact ht.setIfInBounds (fun v hv => by cases hv) place
    · refine ht.setIfInBounds (fun v hv => ?_) p.1
      cases hv
      exact hvs _ (List.of_mem_zip hp).2
  · exact each_ofKeys hvs

end Slots

/-! ## Operators -/

namespace Value

open Slots

variable {P : Value → Prop} {t u : Slots} {vs ws : List Value}

theorem each_toggle (ht : Each P t) (hvs : ∀ v ∈ vs, P v) : Each P (toggle t vs) := by
  refine List.foldlRecOn vs _ ht fun u hu v hv => ?_
  split
  · exact hu.drop v
  · exact hu.add (hvs v hv)

theorem each_takeOut (ht : Each P t) (vs : List Value) : Each P (takeOut t vs) :=
  (List.foldlRecOn vs Slots.drop ht fun _ hu v _ => hu.drop v).tidied

theorem each_within (hvs : ∀ v ∈ vs, P v) : ∀ v ∈ within vs ws, P v :=
  fun v hv => hvs v (List.mem_filter.1 hv).1

theorem each_without (hvs : ∀ v ∈ vs, P v) : ∀ v ∈ without vs ws, P v :=
  fun v hv => hvs v (List.mem_filter.1 hv).1

theorem each_subtractSlots (ht : Each P t) (u : Slots) : Each P (subtractSlots t u) := by
  unfold subtractSlots
  split
  · exact each_takeOut ht.copy _
  · exact each_ofKeys (each_without ht)

theorem each_combineSlots (op : SetOperator) (isSelf : Bool) (ht : Each P t) (hu : Each P u) :
    Each P (combineSlots op isSelf t u) := by
  cases op with
  | union =>
    unfold combineSlots
    simp only
    split
    · exact ht.copy
    · exact ht.copy.merge hu
  | intersection =>
    unfold combineSlots
    simp only
    split
    · exact ht.copy
    · split
      · exact each_ofKeys (each_within ht)
      · exact each_ofKeys (each_within hu)
  | difference => exact each_subtractSlots ht u
  | symmetricDifference => exact each_toggle hu.copy ht

theorem each_updateSlots (op : SetOperator) (isSelf : Bool) (ht : Each P t) (hu : Each P u) :
    Each P (updateSlots op isSelf t u) := by
  cases op with
  | union =>
    unfold updateSlots
    simp only
    split
    · exact ht
    · exact ht.merge hu
  | intersection => exact each_combineSlots .intersection isSelf ht hu
  | difference =>
    unfold updateSlots
    simp only
    split
    · exact each_none
    · split
      · exact each_takeOut ht _
      · exact each_takeOut ht _
  | symmetricDifference =>
    unfold updateSlots
    simp only
    split
    · exact each_none
    · exact each_toggle ht hu

theorem each_commonKeys {xs found ys : List Value} (hfound : ∀ v ∈ found, P v)
    (hws : ∀ v ∈ ws, P v) (h : commonKeys xs found ws = .ok ys) : ∀ v ∈ ys, P v := by
  induction ws generalizing found with
  | nil =>
    cases h
    exact hfound
  | cons w ws ih =>
    unfold commonKeys at h
    obtain ⟨_, -, h⟩ := bind_eq_ok.1 h
    have hrest : ∀ v ∈ ws, P v := fun v hv => hws v (by simp [hv])
    split at h
    · have hadd : ∀ v ∈ Members.add found w, P v := by
        intro v hv
        have hadded : v ∈ Members.addAll found [w] := hv
        rcases Members.mem_of_mem_addAll hadded with hv | hv
        · exact hfound v hv
        · exact hws v (by simp [List.mem_singleton.1 hv])
      simp only at h
      split at h
      · cases h
        exact hadd
      · exact ih hadd hrest h
    · exact ih hfound hrest h

theorem each_combineKeys {op : SetOperator} (ht : Each P t) (hvs : ∀ v ∈ vs, P v)
    (h : combineKeys op t vs = .ok u) : Each P u := by
  cases op with
  | union =>
    obtain ⟨_, -, h⟩ := bind_eq_ok.1 h
    cases h
    exact ht.copy.addAll hvs
  | intersection =>
    unfold combineKeys at h
    cases hys : commonKeys t.items [] vs with
    | error fault =>
      rw [hys] at h
      cases h
    | ok ys =>
      rw [hys] at h
      cases h
      exact each_ofKeys (each_commonKeys (by simp) hvs hys)
  | difference =>
    obtain ⟨_, -, h⟩ := bind_eq_ok.1 h
    cases h
    exact each_takeOut ht.copy vs
  | symmetricDifference =>
    obtain ⟨_, -, h⟩ := bind_eq_ok.1 h
    cases h
    exact each_toggle (each_ofKeys hvs) ht

theorem each_combineEntryKeys (op : SetOperator) (ht : Each P t) (hvs : ∀ v ∈ vs, P v) :
    Each P (combineEntryKeys op t vs) := by
  cases op with
  | union => exact (ht.copy.prepared _).addAll hvs
  | intersection => exact each_ofKeys (each_within hvs)
  | difference =>
    unfold combineEntryKeys
    simp only
    split
    · exact each_takeOut ht.copy vs
    · exact each_ofKeys (each_without ht)
  | symmetricDifference => exact each_toggle ((each_none.prepared _).addAll hvs) ht

/-! ## Grounded value sets -/

variable {classes : List SetClass} {v w : Value}

theorem grounded_toSet : t.toSet.Grounded classes ↔ Each (Grounded classes) t := grounded_set

theorem grounded_toFrozenSet : t.toFrozenSet.Grounded classes ↔ Each (Grounded classes) t :=
  grounded_frozenSet

theorem grounded_withSlots (ht : Each (Grounded classes) t) :
    (v.withSlots t).Grounded classes := by
  unfold withSlots
  split
  · exact grounded_toFrozenSet.2 ht
  · exact grounded_toSet.2 ht

theorem withSlots_ne_handle (v : Value) (t : Slots) (h : Handle) : v.withSlots t ≠ .handle h := by
  unfold withSlots
  split
  all_goals
    intro heq
    cases heq

/-- The places of a grounded value set hold grounded items. -/
theorem each_of_slots (hv : v.Grounded classes) (ht : v.slots? = some t) :
    Each (Grounded classes) t := by
  unfold slots? at ht
  split at ht
  · cases ht
    exact each_ofLayout (grounded_set.1 hv) _
  · cases ht
    exact each_ofLayout (grounded_frozenSet.1 hv) _
  · cases ht

theorem each_getD_slots (hv : v.Grounded classes) :
    Each (Grounded classes) (v.slots?.getD Slots.none) := by
  cases ht : v.slots? with
  | none => exact each_none
  | some t => exact each_of_slots hv ht

/-- Combining grounded value sets makes a grounded one. -/
theorem grounded_of_combineSets {op : SetOperator} {isSelf : Bool} {made : Value}
    (hv : v.Grounded classes) (hw : w.Grounded classes)
    (h : combineSets? op isSelf v w = some made) :
    made.Grounded classes ∧ ∀ h, made ≠ .handle h := by
  unfold combineSets? at h
  simp only [Option.bind_eq_bind, Option.bind_eq_some_iff, Option.pure_def,
    Option.some.injEq] at h
  obtain ⟨t, ht, u, hu, rfl⟩ := h
  refine ⟨grounded_withSlots ?_, withSlots_ne_handle v _⟩
  exact each_combineSlots op isSelf (each_of_slots hv ht) (each_of_slots hw hu)

/-- A difference of numbers is a number. -/
theorem answerable_of_difference {made : Value} (h : difference? v w = some (.ok made)) :
    made.Answerable classes ∧ ∀ h, made ≠ .handle h := by
  unfold difference? at h
  split at h
  case h_1 | h_2 =>
    simp only [Option.bind_eq_bind, Option.bind_eq_some_iff, Option.pure_def,
      Option.some.injEq, bind_eq_ok] at h
    obtain ⟨x, -, y, -, p, -, q, -, hmade⟩ := h
    cases hmade
    exact (noSet_of_no_references rfl).answerable
  case h_3 =>
    split at h
    · cases h
      exact answerable_of_isNumber rfl
    · cases h

/-- Combining grounded values that are no value sets makes a grounded one or a number. -/
theorem answerable_of_combine {op : SetOperator} {made : Value} (hv : v.Grounded classes)
    (hw : w.Grounded classes) (h : combine? op v w = some (.ok made)) :
    made.Answerable classes ∧ ∀ h, made ≠ .handle h := by
  unfold combine? at h
  split at h
  -- two tables
  case h_1 =>
    split at h
    · cases h
      rw [grounded_table] at hv hw
      exact NoSet.answerable ⟨grounded_table.2 (entriesGrounded_append.2 ⟨hv, hw⟩).merge, by simp⟩
    · cases h
  -- two truth values
  case h_2 =>
    split at h
    · cases h
      exact answerable_of_isNumber rfl
    · cases h
      exact (noSet_of_no_references rfl).answerable
  -- two types, or a type and the null value
  case h_3 | h_4 | h_5 =>
    split at h
    · cases h
      exact (noSet_of_no_references rfl).answerable
    · cases h
  -- two whole numbers, or other numbers
  case h_6 =>
    split at h
    · cases h
      exact answerable_of_isNumber rfl
    · split at h
      · exact answerable_of_difference h
      · cases h

end Value

end ValueSets
