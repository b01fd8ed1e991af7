import Mathlib.Data.List.Basic
import ValueSets.Collection.Operator
import ValueSets.Proofs.Members.Counting

/-!
# Lawful sets

What holds of every set that keeps its members by key, from the moment it is made. Its members are
hashable, no two are the same key, and the element type takes each of them; where the class fixes an
element type, the set is restricted to that type or to one below it. A set that is lawful can be
emptied into one of the same class and configuration, and each of the storage primitives keeps it
lawful, whether it succeeds or not.

On lawful sets the primitives say exactly what they do: `Keyed.insert_eq_ok_iff`,
`Keyed.delete_eq_error` and `Collection.Lawful.has_eq`.
-/

set_option autoImplicit false

namespace ValueSets

/-- A set that keeps its members by key, as the library makes it. -/
structure Collection.Lawful (c : Collection) : Prop where
  keyed : c.cls.isKeyed = true
  ownConfig : c.standIn? = none
  hashable : ∀ m ∈ c.members, m.isHashable = true
  distinct : Members.Distinct c.members
  taken : ∀ m ∈ c.members, c.takes m = true
  bound : ∀ t, c.cls.fixedType? = some t →
    ∃ e, c.config.elementType = some e ∧ e.isSubtypeOf t = true

/-- Whether a set takes a value and has a member of its key. -/
def Collection.holds (c : Collection) (x : Value) : Bool := c.takes x && Value.hasKey x c.members

/-- A set as another one with other members. -/
def Collection.holding (c : Collection) (ms : List Value) : Collection := { c with members := ms }

namespace Collection

@[simp] theorem holding_members (c : Collection) (ms : List Value) :
    (c.holding ms).members = ms := rfl

@[simp] theorem holding_self (c : Collection) : c.holding c.members = c := rfl

theorem hasKey_of_holds {c : Collection} {x : Value} (h : c.holds x = true) :
    Value.hasKey x c.members = true := by
  unfold holds at h
  exact (Bool.and_eq_true_iff.1 h).2

theorem takes_congr {c d : Collection} (h : c.config.elementType = d.config.elementType)
    (x : Value) : c.takes x = d.takes x := by
  unfold takes
  rw [h]

end Collection

namespace SetClass

/-- Binding settings that fit a class once more leaves them as they are. -/
theorem bind_of_fits {cls : SetClass} {settings : Settings}
    (h : ∀ t, cls.fixedType? = some t →
      ∃ e, settings.elementType = some e ∧ e.isSubtypeOf t = true) :
    cls.bind settings = .ok settings := by
  unfold bind
  cases hfixed : cls.fixedType? with
  | none => rfl
  | some t =>
    obtain ⟨e, he, hsub⟩ := h t hfixed
    simp only [he, hsub, if_true]

/-- Settings that were bound to a class fit it. -/
theorem fits_of_bind {cls : SetClass} {settings bound : Settings}
    (h : cls.bind settings = .ok bound) :
    ∀ t, cls.fixedType? = some t →
      ∃ e, bound.elementType = some e ∧ e.isSubtypeOf t = true := by
  intro t hfixed
  unfold bind at h
  rw [hfixed] at h
  cases helement : settings.elementType with
  | none =>
    simp only [helement, Except.ok.injEq] at h
    exact ⟨t, by rw [← h], Ty.isSubtypeOf_refl t⟩
  | some e =>
    simp only [helement] at h
    split at h
    · rename_i hsub
      cases h
      exact ⟨e, helement, hsub⟩
    · cases h

/-- A configuration that fits a class stays the configuration of its sets. -/
theorem configure_of_fits {cls : SetClass} {config : Config} (identity : Nat)
    (h : ∀ t, cls.fixedType? = some t →
      ∃ e, config.elementType = some e ∧ e.isSubtypeOf t = true) :
    cls.configure config identity = .ok config := by
  unfold configure
  cases cls.isKeyed with
  | false => rfl
  | true =>
    rw [bind_of_fits h]
    simp [Bind.bind, Except.bind, pure, Except.pure]

theorem fits_of_configure {cls : SetClass} {config taken : Config} {identity : Nat}
    (hkeyed : cls.isKeyed = true) (h : cls.configure config identity = .ok taken) :
    ∀ t, cls.fixedType? = some t →
      ∃ e, taken.elementType = some e ∧ e.isSubtypeOf t = true := by
  unfold configure at h
  rw [hkeyed] at h
  cases hbind : cls.bind config.settings with
  | error fault => simp [hbind, Bind.bind, Except.bind] at h
  | ok settings =>
    have hfits := fits_of_bind hbind
    simp only [hbind, Bind.bind, Except.bind, pure, Except.pure, Bool.not_true, Bool.false_eq_true,
      if_false, Except.ok.injEq] at h
    subst h
    intro t ht
    obtain ⟨e, he, hsub⟩ := hfits t ht
    refine ⟨e, ?_, hsub⟩
    split
    · rename_i hsame
      rw [← he, hsame]
      rfl
    · exact he

/-- A class takes a configuration with its element type, or puts the type that it fixes there. -/
theorem elementType_of_configure {cls : SetClass} {config taken : Config} {identity : Nat}
    (h : cls.configure config identity = .ok taken) :
    taken.elementType = config.elementType ∨ taken.elementType = cls.fixedType? := by
  unfold configure at h
  cases hkeyed : cls.isKeyed with
  | false =>
    simp only [hkeyed, Bool.not_false, if_true, pure, Except.pure, Except.ok.injEq] at h
    exact .inl (h ▸ rfl)
  | true =>
    cases hbind : cls.bind config.settings with
    | error fault => simp [hkeyed, hbind, Bind.bind, Except.bind] at h
    | ok settings =>
      simp only [hkeyed, hbind, Bind.bind, Except.bind, pure, Except.pure, Bool.not_true,
        Bool.false_eq_true, if_false, Except.ok.injEq] at h
      subst h
      split
      · exact .inl rfl
      · rename_i hchanged
        refine .inr ?_
        unfold bind at hbind
        split at hbind
        · cases hbind
          exact absurd rfl hchanged
        · rename_i fixed hfixed
          split at hbind
          · cases hbind
            exact hfixed.symm
          · split at hbind
            · cases hbind
              exact absurd rfl hchanged
            · cases hbind

end SetClass

namespace Keyed

/-- Adding fails at the first element that the set does not take, whatever the others are. -/
theorem insert_of_find?_takes {c : Collection} {xs : List Value} {x : Value}
    (h : (xs.find? fun y => !c.takes y) = some x) :
    ∃ e, c.config.elementType = some e ∧ insert c xs = .error (.rejected c.cls x e) := by
  have hx : c.takes x = false := by simpa using List.find?_some h
  cases helement : c.config.elementType with
  | none => simp [Collection.takes, helement] at hx
  | some e =>
    refine ⟨e, rfl, ?_⟩
    unfold insert
    rw [helement, h]

/-- Where a set takes all elements, adding fails at the first that cannot be hashed. -/
theorem insert_of_find?_isHashable {c : Collection} {xs : List Value} {x : Value}
    (htakes : ∀ y ∈ xs, c.takes y = true)
    (h : (xs.find? fun y => !y.isHashable) = some x) : insert c xs = .error (.unhashable x) := by
  have hnone : (xs.find? fun y => !c.takes y) = none :=
    List.find?_eq_none.2 fun y hy => by simp [htakes y hy]
  unfold insert Value.firstUnhashable?
  rw [hnone, h]
  cases c.config.elementType <;> rfl

/-- Adding fails at the first element that the set does not take. Where the set takes all, it fails
at one that cannot be hashed, and where there is none, it adds what is not there yet. -/
theorem insert_cases (c : Collection) (xs : List Value) :
    (∃ t x, c.config.elementType = some t ∧ (xs.find? fun y => !t.takes y) = some x ∧
      insert c xs = .error (.rejected c.cls x t)) ∨
    (∀ x ∈ xs, c.takes x = true) ∧
      ((∃ x ∈ xs, x.isHashable = false ∧ insert c xs = .error (.unhashable x)) ∨
        (∀ x ∈ xs, x.isHashable = true) ∧
          insert c xs = .ok (c.holding (Members.addAll c.members xs))) := by
  cases hrejected : xs.find? fun y => !c.takes y with
  | some x =>
    obtain ⟨t, ht, hinsert⟩ := insert_of_find?_takes hrejected
    have htakes : c.takes = t.takes := by
      funext y
      simp [Collection.takes, ht]
    rw [htakes] at hrejected
    exact .inl ⟨t, x, ht, hrejected, hinsert⟩
  | none =>
    have htakes : ∀ y ∈ xs, c.takes y = true := by simpa using hrejected
    refine .inr ⟨htakes, ?_⟩
    cases hunhashable : xs.find? fun y => !y.isHashable with
    | some x =>
      have hx : x.isHashable = false := by simpa using List.find?_some hunhashable
      exact .inl ⟨x, List.mem_of_find?_eq_some hunhashable, hx,
        insert_of_find?_isHashable htakes hunhashable⟩
    | none =>
      refine .inr ⟨by simpa using hunhashable, ?_⟩
      unfold insert Value.firstUnhashable?
      rw [hrejected, hunhashable]
      cases c.config.elementType <;> rfl

/-- Adding succeeds exactly if the set takes each element and each is hashable, and then adds what
is not there yet. -/
theorem insert_eq_ok_iff {c d : Collection} {xs : List Value} :
    insert c xs = .ok d ↔
      (∀ x ∈ xs, c.takes x = true ∧ x.isHashable = true) ∧
        d = c.holding (Members.addAll c.members xs) := by
  rcases insert_cases c xs with ⟨t, x, ht, hrejected, h⟩ | ⟨htakes, ⟨x, hx, hhash, h⟩ | ⟨hhash, h⟩⟩
  · have hx : t.takes x = false := by simpa using List.find?_some hrejected
    rw [h]
    refine iff_of_false (by simp) fun hall => ?_
    have htakes := (hall.1 x (List.mem_of_find?_eq_some hrejected)).1
    simp [Collection.takes, ht, hx] at htakes
  · rw [h]
    refine iff_of_false (by simp) fun hall => ?_
    rw [(hall.1 x hx).2] at hhash
    cases hhash
  · rw [h, Except.ok.injEq]
    exact ⟨fun hd => ⟨fun x hx => ⟨htakes x hx, hhash x hx⟩, hd.symm⟩, fun hall => hall.2.symm⟩

/-- Dropping leaves some of the members, in their order. -/
theorem delete_sublist (c : Collection) (xs : List Value) :
    ∃ ms, ms.Sublist c.members ∧ (delete c xs).2 = c.holding ms := by
  induction xs generalizing c with
  | nil => exact ⟨c.members, List.Sublist.refl _, rfl⟩
  | cons x xs ih =>
    unfold delete
    split
    · exact ih c
    · split
      · exact ⟨c.members, List.Sublist.refl _, rfl⟩
      · obtain ⟨ms, hms, heq⟩ := ih (c.holding (Members.drop c.members x))
        exact ⟨ms, hms.trans List.filter_sublist, heq⟩

/-- Dropping fails at an element that cannot be hashed, and has then dropped what those before it
drop by themselves. -/
theorem delete_eq_error {c d : Collection} {xs : List Value} {fault : Fault}
    (h : delete c xs = (.error fault, d)) :
    ∃ before x after, xs = before ++ x :: after ∧ fault = .unhashable x ∧
      x.isHashable = false ∧ c.takes x = true ∧ delete c before = (.ok (), d) ∧
      delete d [x] = (.error (.unhashable x), d) := by
  induction xs generalizing c with
  | nil => simp [delete] at h
  | cons x xs ih =>
    unfold delete at h
    split at h
    · rename_i hpassed
      obtain ⟨before, y, after, rfl, hfault, hhash, htakes, hbefore, hstop⟩ := ih h
      refine ⟨x :: before, y, after, rfl, hfault, hhash, htakes, ?_, hstop⟩
      unfold delete
      rw [if_pos hpassed]
      exact hbefore
    · rename_i hmet
      split at h
      · rename_i hunhashable
        cases h
        refine ⟨[], x, xs, rfl, rfl, by simpa using hunhashable, ?_, rfl, ?_⟩
        · simp only [Bool.or_eq_true, Bool.not_eq_true', not_or, Bool.not_eq_false] at hmet
          exact hmet.2
        · unfold delete
          rw [if_neg hmet, if_pos hunhashable]
      · rename_i hhashable
        obtain ⟨before, y, after, rfl, hfault, hhash, htakes, hbefore, hstop⟩ := ih h
        refine ⟨x :: before, y, after, rfl, hfault, hhash, htakes, ?_, hstop⟩
        unfold delete
        rw [if_neg hmet, if_neg hhashable]
        exact hbefore

end Keyed

namespace Collection.Lawful

variable {c d : Collection}

/-- A lawful set with other members is lawful if they are members that it may have. -/
theorem holding (h : c.Lawful) {ms : List Value}
    (hms : ∀ m ∈ ms, c.takes m = true ∧ m.isHashable = true) (hdistinct : Members.Distinct ms) :
    (c.holding ms).Lawful where
  keyed := h.keyed
  ownConfig := h.ownConfig
  hashable m hm := (hms m hm).2
  distinct := hdistinct
  taken m hm := (hms m hm).1
  bound := h.bound

theorem sublist (h : c.Lawful) {ms : List Value} (hms : ms.Sublist c.members) :
    (c.holding ms).Lawful := by
  apply h.holding
  · intro m hm
    exact ⟨h.taken m (hms.subset hm), h.hashable m (hms.subset hm)⟩
  · exact List.Pairwise.sublist hms h.distinct

/-- A lawful set can be emptied into a set of the same class and configuration. -/
theorem emptied_eq (h : c.Lawful) : c.emptied = .ok (c.holding []) := by
  unfold Collection.emptied
  rw [h.ownConfig]
  simp only [SetClass.configure_of_fits c.config.identity h.bound, bind, Except.bind, pure,
    Except.pure, Except.ok.injEq]
  unfold Collection.holding
  rw [h.ownConfig]

/-- A copy of a lawful set is like it in all. -/
theorem copy_eq (h : c.Lawful) (same : Sameness) : c.copy same = .ok c := by
  unfold Collection.copy
  rw [h.keyed, h.emptied_eq]
  rfl

theorem checkElementType_eq (h : c.Lawful) (xs : List Value) :
    c.checkElementType xs = .ok () := by
  unfold Collection.checkElementType
  rw [h.ownConfig]

/-- A lawful set is asked for a member by its key, once the element type takes the value. -/
theorem has_eq (h : c.Lawful) (same : Sameness) (x : Value) : c.has same x = Keyed.has c x := by
  unfold Collection.has
  rw [h.keyed, h.checkElementType_eq]
  rfl

/-- A hashable value is a member of a lawful set if the set takes it and has its key. -/
theorem has_of_isHashable (h : c.Lawful) (same : Sameness) {x : Value}
    (hx : x.isHashable = true) : c.has same x = .ok (c.holds x) := by
  rw [h.has_eq]
  unfold Keyed.has Collection.holds
  rw [hx]
  cases c.takes x <;> rfl

theorem holds_of_mem (h : c.Lawful) {x : Value} (hx : x ∈ c.members) : c.holds x = true := by
  unfold Collection.holds
  rw [h.taken x hx, Bool.true_and]
  exact Value.hasKey_iff.2 ⟨x, hx, Value.sameKey_refl x⟩

theorem insert_eq (h : c.Lawful) (same : Collection → Sameness) (xs : List Value) :
    c.insert same xs = match Keyed.insert c xs with
      | .ok d => (.ok (), d)
      | .error fault => (.error fault, c) := by
  unfold Collection.insert
  rw [h.keyed, h.checkElementType_eq]
  cases Keyed.insert c xs <;> rfl

theorem inserted_eq (h : c.Lawful) (same : Sameness) (xs : List Value) :
    c.inserted same xs = Keyed.insert c xs := by
  unfold Collection.inserted
  rw [h.insert_eq]
  cases Keyed.insert c xs <;> rfl

theorem delete_eq (h : c.Lawful) (same : Collection → Sameness) (xs : List Value) :
    c.delete same xs = Keyed.delete c xs := by
  unfold Collection.delete
  rw [h.keyed, h.checkElementType_eq]
  rfl

theorem keyed_insert (h : c.Lawful) {xs : List Value} (hd : Keyed.insert c xs = .ok d) :
    d.Lawful := by
  obtain ⟨hxs, rfl⟩ := Keyed.insert_eq_ok_iff.1 hd
  apply h.holding
  · intro m hm
    rcases Members.mem_of_mem_addAll hm with hm | hm
    · exact ⟨h.taken m hm, h.hashable m hm⟩
    · exact hxs m hm
  · exact h.distinct.addAll xs

/-- Dropping keeps a set lawful, also where it fails. -/
theorem keyed_delete (h : c.Lawful) (xs : List Value) : (Keyed.delete c xs).2.Lawful := by
  obtain ⟨ms, hms, heq⟩ := Keyed.delete_sublist c xs
  rw [heq]
  exact h.sublist hms

theorem cleared (h : c.Lawful) : c.cleared.Lawful := h.sublist (List.nil_sublist _)

/-- Dropping a member of a lawful set takes just that member out. -/
theorem keyed_delete_member (h : c.Lawful) {x : Value} (hx : x ∈ c.members) :
    Keyed.delete c [x] = (.ok (), c.holding (Members.drop c.members x)) := by
  have hsome : c.members.isEmpty = false := by
    cases hms : c.members with
    | nil => simp [hms] at hx
    | cons m ms => rfl
  simp [Keyed.delete, hsome, h.taken x hx, h.hashable x hx, Collection.holding]

theorem popFirst_eq (h : c.Lawful) (same : Collection → Sameness) :
    c.popFirst same = match c.members with
      | [] => (.ok none, c)
      | x :: _ => (.ok (some x), c.holding (Members.drop c.members x)) := by
  unfold Collection.popFirst
  cases hms : c.members with
  | nil => rfl
  | cons x xs =>
    have hx : x ∈ c.members := by simp [hms]
    simp only [h.delete_eq, h.keyed_delete_member hx, hms]

/-- Taking out a member of a lawful set takes out the last one. -/
theorem pop_eq (h : c.Lawful) (same : Collection → Sameness) :
    c.pop same = (.ok c.members.getLast?, c.holding c.members.dropLast) := by
  unfold Collection.pop Keyed.popLast
  rw [h.keyed]
  cases hlast : c.members.getLast? with
  | none =>
    have hnil : c.members = [] := List.getLast?_eq_none_iff.1 hlast
    simp only [if_true, h.popFirst_eq, hnil, List.dropLast_nil]
    rw [← hnil, holding_self]
  | some x => rfl

/-- Taking the last member out either finds none, or drops one and answers it. -/
theorem pop_cases (hc : c.Lawful) (same : Collection → Sameness) :
    (c.members = [] ∧ c.pop same = (.ok none, c)) ∨
      ∃ x, c.pop same = (.ok (some x), c.holding (Members.drop c.members x)) := by
  rw [hc.pop_eq]
  cases hlast : c.members.getLast? with
  | none =>
    have hnil : c.members = [] := List.getLast?_eq_none_iff.1 hlast
    refine .inl ⟨hnil, ?_⟩
    rw [hnil, List.dropLast_nil, ← hnil, holding_self]
  | some x =>
    refine .inr ⟨x, ?_⟩
    have hsplit : c.members = c.members.dropLast ++ [x] :=
      (List.dropLast_append_getLast? x hlast).symm
    have hdistinct : Members.Distinct (c.members.dropLast ++ [x]) := hsplit ▸ hc.distinct
    have hdrop := Members.drop_eq_append hdistinct
    rw [← hsplit, List.append_nil] at hdrop
    rw [hdrop]

/-- Taking the first member out either finds none, or drops one and answers it. -/
theorem popFirst_cases (hc : c.Lawful) (same : Collection → Sameness) :
    (c.members = [] ∧ c.popFirst same = (.ok none, c)) ∨
      ∃ x, c.popFirst same = (.ok (some x), c.holding (Members.drop c.members x)) := by
  rw [hc.popFirst_eq]
  cases c.members with
  | nil => exact .inl ⟨rfl, rfl⟩
  | cons x xs => exact .inr ⟨x, rfl⟩

end Collection.Lawful

end ValueSets
