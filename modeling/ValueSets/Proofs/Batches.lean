import ValueSets.Proofs.Collection.Dropping
import ValueSets.Proofs.Equivalence
import ValueSets.Proofs.Insertion

/-!
# Batches of elements

Elements may be added or dropped in one call or spread over several. A list of lists stands for the
calls, and what they are given together is its `flatten`. Adding in several calls comes to the same
as adding at once (`Collection.Lawful.run_insert`), and so does dropping as long as no call fails
(`Collection.Lawful.run_delete`), where the order does not matter either.

Dropping may fail for one order of the elements and not for another: an element that cannot be
hashed is passed over once the set is empty. So `Collection.batches_decided` says of a set with
members that dropping the elements in every order succeeds exactly if it does not have to look for
such an element at all.
-/

set_option autoImplicit false

namespace ValueSets

theorem Value.hasKey_perm {xs ys : List Value} (h : xs.Perm ys) (x : Value) :
    hasKey x xs = hasKey x ys := by
  rw [Bool.eq_iff_iff, hasKey_iff, hasKey_iff]
  simp only [h.mem_iff]

namespace Collection

variable {c d : Collection} {xs ys : List Value} {zss : List (List Value)}

theorem admits_append : c.Admits (xs ++ ys) ↔ c.Admits xs ∧ c.Admits ys :=
  List.forall_mem_append

theorem kept_perm (h : xs.Perm ys) : c.kept xs = c.kept ys := by
  unfold kept
  refine List.filter_congr fun m _ => ?_
  rw [Value.hasKey_perm (h.filter c.takes)]

namespace Lawful

variable (changing : Collection → Sameness)

theorem insert_eq_ok_iff (hc : c.Lawful) : c.insert changing xs = (.ok (), d) ↔
    c.Admits xs ∧ d = c.holding (Members.addAll c.members xs) := by
  rw [hc.insert_eq]
  unfold Admits
  rw [← Keyed.insert_eq_ok_iff]
  cases Keyed.insert c xs with
  | ok e => simp
  | error fault => simp

theorem insert_succeeds_iff (hc : c.Lawful) :
    (c.insert changing xs).1 = .ok () ↔ c.Admits xs := by
  constructor
  · intro h
    exact ((hc.insert_eq_ok_iff changing).1 (Prod.ext h rfl)).1
  · intro h
    rw [(hc.insert_eq_ok_iff changing).2 ⟨h, rfl⟩]

theorem insert_of_admits (hc : c.Lawful) (h : c.Admits xs) :
    c.insert changing xs = (.ok (), c.holding (Members.addAll c.members xs)) :=
  (hc.insert_eq_ok_iff changing).2 ⟨h, rfl⟩

theorem holding_addAll (hc : c.Lawful) (h : c.Admits xs) :
    (c.holding (Members.addAll c.members xs)).Lawful :=
  hc.keyed_insert (Keyed.insert_eq_ok_iff.2 ⟨h, rfl⟩)

/-- Adding elements in several calls adds them all. -/
theorem run_insert (hc : c.Lawful) (h : c.Admits zss.flatten) :
    Change.run changing (zss.map .insert) c =
      (zss.map fun _ => .ok (), c.holding (Members.addAll c.members zss.flatten)) := by
  induction zss generalizing c with
  | nil => rfl
  | cons zs zss ih =>
    rw [List.flatten_cons, admits_append] at h
    obtain ⟨hfirst, hrest⟩ := h
    have hrun := ih (hc.holding_addAll hfirst) hrest
    simp only [List.map_cons, Change.run, Change.apply, hc.insert_of_admits changing hfirst, hrun,
      List.flatten_cons, Members.addAll_append]
    rfl

/-- Adding elements once more changes nothing. -/
theorem insert_again (hc : c.Lawful) (h : c.insert changing xs = (.ok (), d)) :
    d.insert changing xs = (.ok (), d) := by
  obtain ⟨hadmits, rfl⟩ := (hc.insert_eq_ok_iff changing).1 h
  refine ((hc.holding_addAll hadmits).insert_eq_ok_iff changing).2 ⟨hadmits, ?_⟩
  have hall : ∀ x ∈ xs, Value.hasKey x (Members.addAll c.members xs) = true := by
    intro x hx
    rw [Members.hasKey_addAll, Members.hasKey_self_of_mem hx, Bool.or_true]
  have hnone : Members.newcomers (Members.addAll c.members xs) xs = [] := by
    rw [List.eq_nil_iff_forall_not_mem]
    intro x hx
    have hnot := Members.hasKey_eq_false_of_mem_newcomers hx
    rw [hall x (Members.mem_of_mem_newcomers hx)] at hnot
    cases hnot
  rw [holding_members, Members.addAll_eq_append_newcomers (Members.addAll c.members xs) xs, hnone,
    List.append_nil]
  rfl

/-- The order of the elements that are added makes no difference to what a set has. -/
theorem insert_perm (same : Sameness) (hc : c.Lawful) (h : c.insert changing xs = (.ok (), d))
    (hperm : ys.Perm xs) :
    ∃ e, c.insert changing ys = (.ok (), e) ∧ e.size = d.size ∧ e.equal same d = .ok true ∧
      d.equal same e = .ok true := by
  obtain ⟨hadmits, rfl⟩ := (hc.insert_eq_ok_iff changing).1 h
  have hadmits' : c.Admits ys := fun y hy => hadmits y (hperm.mem_iff.1 hy)
  have hd := hc.holding_addAll hadmits
  have he := hc.holding_addAll hadmits'
  have hkeys : (c.holding (Members.addAll c.members ys)).SameKeys
      (c.holding (Members.addAll c.members xs)) := by
    refine ⟨rfl, fun x => ?_⟩
    rw [holding_members, holding_members, Members.hasKey_addAll, Members.hasKey_addAll,
      Value.hasKey_perm hperm]
  exact ⟨_, hc.insert_of_admits changing hadmits', he.size_eq hd hkeys,
    he.equal_of_sameKeys same hd hkeys, hd.equal_of_sameKeys same he hkeys.symm⟩

/-- Dropping succeeds if nothing stands in its way. -/
theorem delete_succeeds_iff (hc : c.Lawful) :
    (c.delete changing xs).1 = .ok () ↔ c.obstacle? xs = none := by
  rw [hc.delete_eq, Keyed.delete_eq_remaining]
  exact dropping_eq_ok_iff

theorem delete_of_succeeds (hc : c.Lawful) (h : (c.delete changing xs).1 = .ok ()) :
    c.delete changing xs = (.ok (), c.holding (c.kept xs)) := by
  have hnone := (hc.delete_succeeds_iff changing).1 h
  rw [hc.delete_eq, Keyed.delete_eq_remaining, dropping_eq_ok_iff.2 hnone, remaining_eq_kept hnone]

theorem holding_kept (hc : c.Lawful) (xs : List Value) : (c.holding (c.kept xs)).Lawful :=
  hc.sublist List.filter_sublist

/-- Dropping elements in several calls drops them all, unless one of the calls fails. -/
theorem run_delete (hc : c.Lawful)
    (h : ∀ r ∈ (Change.run changing (zss.map .delete) c).1, r = .ok ()) :
    (Change.run changing (zss.map .delete) c).2 = c.holding (c.kept zss.flatten) := by
  induction zss generalizing c with
  | nil =>
    have hself : c.kept [] = c.members := by simp [kept]
    rw [List.flatten_nil, hself]
    rfl
  | cons zs zss ih =>
    simp only [List.map_cons, Change.run, Change.apply, List.mem_cons, forall_eq_or_imp] at h ⊢
    obtain ⟨hfirst, hrest⟩ := h
    rw [hc.delete_of_succeeds changing hfirst] at hrest ⊢
    rw [ih (hc.holding_kept zs) hrest, List.flatten_cons, ← kept_append]
    rfl

/-- Where a set has no members or is never stopped, no call fails. -/
theorem run_delete_succeeds (hc : c.Lawful)
    (h : c.members = [] ∨ c.stop? zss.flatten = none) :
    ∀ r ∈ (Change.run changing (zss.map .delete) c).1, r = .ok () := by
  induction zss generalizing c with
  | nil =>
    intro r hr
    cases hr
  | cons zs zss ih =>
    rw [List.flatten_cons, stop?_eq_none_iff] at h
    have hfirst : (c.delete changing zs).1 = .ok () := by
      rw [hc.delete_succeeds_iff]
      refine obstacle?_eq_none (h.imp_right fun hall => stop?_eq_none_iff.2 fun x hx => ?_)
      exact hall x (by simp [hx])
    simp only [List.map_cons, Change.run, Change.apply, List.mem_cons, forall_eq_or_imp]
    refine ⟨hfirst, ?_⟩
    rw [hc.delete_of_succeeds changing hfirst]
    refine ih (hc.holding_kept zs) ?_
    rcases h with hempty | hall
    · refine .inl ?_
      unfold kept
      rw [hempty]
      rfl
    · exact .inr (stop?_eq_none_iff.2 fun x hx => hall x (by simp [hx]))

/-- A set with members fails to drop elements in some order if it has to look for one that cannot
be hashed. -/
theorem exists_perm_of_stop? (hc : c.Lawful) (hsome : c.members ≠ []) (hstop : c.stop? xs ≠ none) :
    ∃ ys, ys.Perm xs ∧ (c.delete changing ys).1 ≠ .ok () := by
  obtain ⟨x, hx⟩ := Option.ne_none_iff_exists'.1 hstop
  have hstops : c.stopsAt x = true := List.find?_some hx
  obtain ⟨front, back, rfl⟩ := List.append_of_mem (List.mem_of_find?_eq_some hx)
  refine ⟨x :: (front ++ back), List.perm_middle.symm, fun h => ?_⟩
  rw [hc.delete_succeeds_iff, (obstacle?_of_stopsAt hsome hstops _).2] at h
  cases h

/-- Dropping what was added restores a set that had none of it. -/
theorem delete_insert (same : Sameness) (hc : c.Lawful) (h : c.insert changing xs = (.ok (), d))
    (hnew : ∀ x ∈ xs, c.has same x = .ok false) : d.delete changing xs = (.ok (), c) := by
  obtain ⟨hadmits, rfl⟩ := (hc.insert_eq_ok_iff changing).1 h
  have hd := hc.holding_addAll hadmits
  have hsucceeds : ((c.holding (Members.addAll c.members xs)).delete changing xs).1 = .ok () := by
    rw [hd.delete_succeeds_iff]
    refine obstacle?_eq_none (.inr (stop?_eq_none_iff.2 fun x hx => ?_))
    exact stopsAt_of_isHashable _ (hadmits x hx).2
  have hold : ∀ m ∈ c.members, (!Value.hasKey m xs) = true := by
    intro m hm
    rw [Bool.not_eq_true', Value.hasKey_eq_false_iff]
    intro x hx
    have hholds := hnew x hx
    rw [hc.has_of_isHashable same (hadmits x hx).2, holds_of_takes (hadmits x hx).1,
      Except.ok.injEq] at hholds
    rw [Value.sameKey_comm]
    exact Value.hasKey_eq_false_iff.1 hholds m hm
  have hadded : ∀ m ∈ Members.newcomers c.members xs, ¬(!Value.hasKey m xs) = true := by
    intro m hm
    simp [Members.hasKey_self_of_mem (Members.mem_of_mem_newcomers hm)]
  have htaken : xs.filter c.takes = xs := List.filter_eq_self.2 fun x hx => (hadmits x hx).1
  have hkept : (c.holding (Members.addAll c.members xs)).kept xs = c.members := by
    have htakes : (c.holding (Members.addAll c.members xs)).takes = c.takes := rfl
    unfold kept
    rw [htakes, htaken, holding_members, Members.addAll_eq_append_newcomers, List.filter_append,
      List.filter_eq_self.2 hold, List.filter_eq_nil_iff.2 hadded, List.append_nil]
  rw [hd.delete_of_succeeds changing hsucceeds, hkept]
  rfl

end Lawful

/-- Adding two lists of elements at once succeeds exactly if adding either does, and comes to the
same as adding them one after the other, in as many calls as one likes. Adding them once more
changes nothing, and adding them in another order gives an equal set of the same size. Calls that
drop the same elements and all succeed leave the same members, in whatever order and however spread
over calls the elements are. No such call fails exactly if the set has no members or does not have
to look for an element that cannot be hashed. Dropping what was added restores a set that had none
of it. -/
theorem batches_decided (same : Sameness) (changing : Collection → Sameness)
    (hc : c.IsReachable) :
    (∀ xs ys, (c.insert changing (xs ++ ys)).1 = .ok () ↔
      (c.insert changing xs).1 = .ok () ∧ (c.insert changing ys).1 = .ok ()) ∧
    (∀ xs ys, (c.insert changing (xs ++ ys)).1 = .ok () →
      (c.insert changing xs).2.insert changing ys = c.insert changing (xs ++ ys)) ∧
    (∀ zss : List (List Value), (c.insert changing zss.flatten).1 = .ok () →
      Change.run changing (zss.map .insert) c =
        (zss.map fun _ => .ok (), (c.insert changing zss.flatten).2)) ∧
    (∀ xs d, c.insert changing xs = (.ok (), d) → d.insert changing xs = (.ok (), d)) ∧
    (∀ xs ys d, c.insert changing xs = (.ok (), d) → ys.Perm xs →
      ∃ e, c.insert changing ys = (.ok (), e) ∧ e.size = d.size ∧ e.equal same d = .ok true ∧
        d.equal same e = .ok true) ∧
    (∀ xs d, c.delete changing xs = (.ok (), d) → ∀ zss : List (List Value), zss.flatten.Perm xs →
      (∀ r ∈ (Change.run changing (zss.map .delete) c).1, r = .ok ()) →
      (Change.run changing (zss.map .delete) c).2 = d) ∧
    (∀ xs, (∀ zss : List (List Value), zss.flatten.Perm xs →
      ∀ r ∈ (Change.run changing (zss.map .delete) c).1, r = .ok ()) ↔
        c.members = [] ∨ ∀ x ∈ xs, c.takes x = true → x.isHashable = true) ∧
    ∀ xs d, c.insert changing xs = (.ok (), d) → (∀ x ∈ xs, c.has same x = .ok false) →
      d.delete changing xs = (.ok (), c) := by
  have hlawful := hc.lawful
  refine ⟨fun xs ys => ?_, fun xs ys h => ?_, fun zss h => ?_,
    fun xs d h => hlawful.insert_again changing h,
    fun xs ys d h hperm => hlawful.insert_perm changing same h hperm,
    fun xs d h zss hperm hall => ?_, fun xs => ?_,
    fun xs d h hnew => hlawful.delete_insert changing same h hnew⟩
  · simp only [hlawful.insert_succeeds_iff]
    exact admits_append
  · have hadmits := (hlawful.insert_succeeds_iff changing).1 h
    obtain ⟨hxs, hys⟩ := admits_append.1 hadmits
    have hsecond := (hlawful.holding_addAll hxs).insert_of_admits changing hys
    rw [hlawful.insert_of_admits changing hadmits, hlawful.insert_of_admits changing hxs, hsecond,
      Members.addAll_append]
    rfl
  · have hadmits := (hlawful.insert_succeeds_iff changing).1 h
    rw [hlawful.run_insert changing hadmits, hlawful.insert_of_admits changing hadmits]
  · have hd := hlawful.delete_of_succeeds changing (congrArg Prod.fst h)
    rw [hlawful.run_delete changing hall, kept_perm hperm]
    exact congrArg Prod.snd (hd.symm.trans h)
  · have hstop : ∀ {ys : List Value}, c.stop? ys = none ↔
        ∀ x ∈ ys, c.takes x = true → x.isHashable = true := by
      intro ys
      rw [stop?_eq_none_iff]
      simp [stopsAt]
    rw [← hstop]
    constructor
    · intro hall
      by_contra hnot
      obtain ⟨hsome, hsome'⟩ := not_or.1 hnot
      obtain ⟨ys, hperm, hfails⟩ := hlawful.exists_perm_of_stop? changing hsome hsome'
      exact hfails (hall [ys] (by simpa using hperm) _ (by simp [Change.run, Change.apply]))
    · intro h zss hperm
      refine hlawful.run_delete_succeeds changing (h.imp_right fun hnone => ?_)
      rw [hstop] at hnone ⊢
      exact fun x hx => hnone x (hperm.mem_iff.1 hx)

/-- A truth value, a level and a text are added to a set of a level that shares a key with the
truth value, in three calls or in one, and dropping what was new restores it. -/
theorem batches_decided_of_truth_value :
    let same : Sameness := fun x y => .ok (x.sameKey y)
    let c : Collection := ⟨.inMemory, { identity := 1, settings := {} }, [.level .low], none⟩
    let d := c.holding [.level .low, .level .mid, .text "a"]
    (Change.run (fun _ => same)
      ([[.bool true], [.level .mid], [.text "a"]].map .insert) c).2 = d ∧
    d.insert (fun _ => same) [.bool true, .level .mid, .text "a"] = (.ok (), d) ∧
    d.delete (fun _ => same) [.level .mid, .text "a"] = (.ok (), c) := by
  intro same c d
  let s := ({} : Session).after { step := .construct .inMemory, args := [.level .low] }
  have hs : s.IsReachable :=
    .step .refl (Instruction.isPlain_of_no_config (by decide) hasPlainConfig_nil)
  have hcollections : s.collections = [c] := rfl
  have hc : c.IsReachable := ⟨s, hs, by simp [hcollections], rfl⟩
  obtain ⟨-, -, hrun, hagain, -, -, -, hrestore⟩ := batches_decided same (fun _ => same) hc
  have hadded : c.insert (fun _ => same) [.bool true, .level .mid, .text "a"] =
      (.ok (), d) := rfl
  have hnew : c.insert (fun _ => same) [.level .mid, .text "a"] = (.ok (), d) := rfl
  refine ⟨?_, hagain _ d hadded, hrestore _ d hnew fun x hx => ?_⟩
  · have h := hrun [[.bool true], [.level .mid], [.text "a"]]
      (congrArg Prod.fst hadded)
    exact congrArg Prod.snd h
  · rcases List.mem_pair.1 hx with rfl | rfl <;> rfl

/-- A list is passed over behind the only member of a set, and refused in front of it. -/
theorem delete_depends_on_order :
    ∃ c : Collection, c.IsReachable ∧ ∃ xs ys : List Value, ys.Perm xs ∧
      ∀ changing, c.delete changing xs = (.ok (), c.holding []) ∧ ∃ x,
        c.delete changing ys = (.error (.unhashable x), c) ∧ c.members ≠ [] := by
  let c : Collection := ⟨.inMemory, { identity := 1, settings := {} }, [.level .low], none⟩
  let x : Value := .box ⟨0, .list⟩
  let s := ({} : Session).after { step := .construct .inMemory, args := [.level .low] }
  have hs : s.IsReachable :=
    .step .refl (Instruction.isPlain_of_no_config (by decide) hasPlainConfig_nil)
  have hcollections : s.collections = [c] := rfl
  refine ⟨c, ⟨s, hs, by simp [hcollections], rfl⟩, [.level .low, x], [x, .level .low],
    List.Perm.swap _ _ _, fun changing => ⟨rfl, x, rfl, by simp [c]⟩⟩

end Collection

end ValueSets
