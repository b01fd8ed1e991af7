import ValueSets.Proofs.Inclusion

/-!
# The algebra between sets of different element types

Each operation asks one set for the members of the other, and a set does not have what its element
type does not take. `Collection.algebra_decided` says what the operations make of any two sets: a
union and a symmetric difference fail at the first member that the receiver does not take, although
only the union looks at all of them, and nothing else fails.
-/

set_option autoImplicit false

namespace ValueSets

namespace Members

/-- Distinct values are added behind the members, those apart whose key is there. -/
theorem addAll_eq_append_filter {ms xs : List Value} (hxs : Distinct xs) :
    addAll ms xs = ms ++ xs.filter fun x => !Value.hasKey x ms := by
  induction xs generalizing ms with
  | nil => simp
  | cons x xs ih =>
    obtain ⟨hx, hxs⟩ := List.pairwise_cons.1 hxs
    have hstep : addAll ms (x :: xs) = addAll (add ms x) xs := rfl
    rw [hstep, ih hxs, List.filter_cons]
    unfold add
    cases hkey : Value.hasKey x ms with
    | true => simp
    | false =>
      -- the values behind are none of them the same key as the one that was added
      have hfilter : (xs.filter fun y => !Value.hasKey y (ms ++ [x])) =
          xs.filter fun y => !Value.hasKey y ms := by
        refine List.filter_congr fun y hy => ?_
        rw [Value.hasKey_append, Value.hasKey_cons, hx y hy]
        simp [Value.hasKey]
      rw [if_neg (by simp), hfilter, if_pos (by simp), List.append_assoc, List.singleton_append]

end Members

namespace Keyed

/-- Adding hashable elements fails at the first that the set does not take, and only there. -/
theorem insert_eq_error_iff {c : Collection} {xs : List Value} {fault : Fault}
    (hxs : ∀ x ∈ xs, x.isHashable = true) :
    insert c xs = .error fault ↔ ∃ t x, c.config.elementType = some t ∧
      (xs.find? fun y => !t.takes y) = some x ∧ fault = .rejected c.cls x t := by
  have hnone : Value.firstUnhashable? xs = none := List.find?_eq_none.2 fun x hx => by
    simp [hxs x hx]
  unfold insert Collection.takes
  rw [hnone]
  cases c.config.elementType with
  | none => simp
  | some t =>
    cases hfind : xs.find? fun y => !t.takes y with
    | none => simp [hfind]
    | some x => simp [hfind, eq_comm]

end Keyed

namespace Collection

variable {c d : Collection}

/-- What a filter keeps that keeps all that is looked for begins with the same find. -/
theorem find?_filter_of_imp {α : Type} {p q : α → Bool} (h : ∀ x, q x = true → p x = true)
    (xs : List α) : (xs.filter p).find? q = xs.find? q := by
  rw [List.find?_filter]
  refine congrArg (fun r => xs.find? r) (funext fun x => ?_)
  cases hq : q x with
  | false => simp
  | true => simp [h x hq]

namespace Lawful

/-- What a set does not take it does not have, so looking at what only the other set has finds the
same refusal as looking at all of it. -/
theorem symmetricDifference_eq_error_iff (same : Sameness) (hc : c.Lawful) (hd : d.Lawful)
    {fault : Fault} :
    c.symmetricDifference same d = .error fault ↔ c.union same d = .error fault := by
  rw [hc.symmetricDifference_eq same hd, hc.union_eq same, Keyed.insert_eq_error_iff hd.hashable,
    Keyed.insert_eq_error_iff fun x hx => hd.hashable x (List.mem_filter.1 hx).1]
  have hfind : ∀ t, c.config.elementType = some t →
      ((d.members.filter fun x => !c.holds x).find? fun y => !t.takes y) =
        d.members.find? fun y => !t.takes y := by
    intro t ht
    refine find?_filter_of_imp (fun x hx => ?_) d.members
    have hnot : c.takes x = false := by
      unfold takes
      rw [ht]
      simpa using hx
    rw [holds_of_not_takes hnot]
    rfl
  constructor
  · rintro ⟨t, x, ht, hx, rfl⟩
    exact ⟨t, x, ht, (hfind t ht) ▸ hx, rfl⟩
  · rintro ⟨t, x, ht, hx, rfl⟩
    exact ⟨t, x, ht, (hfind t ht).symm ▸ hx, rfl⟩

/-- A union adds the members of the second set whose key the first does not have. -/
theorem union_eq_ok (same : Sameness) (hc : c.Lawful) (hd : d.Lawful) {r : Collection}
    (h : c.union same d = .ok r) :
    r = c.holding (c.members ++ d.members.filter fun n => !Value.hasKey n c.members) := by
  rw [hc.union_eq same] at h
  rw [(Keyed.insert_eq_ok_iff.1 h).2, Members.addAll_eq_append_filter hd.distinct]

/-- A symmetric difference that succeeds puts what only the second set has behind the difference. -/
theorem symmetricDifference_eq_ok (same : Sameness) (hc : c.Lawful) (hd : d.Lawful)
    {r : Collection} (h : c.symmetricDifference same d = .ok r) :
    r = c.holding ((c.members.filter fun m => !d.holds m) ++
      d.members.filter fun n => !c.holds n) := by
  rw [hc.symmetricDifference_eq same hd] at h
  obtain ⟨htakes, hr⟩ := Keyed.insert_eq_ok_iff.1 h
  have hdistinct : Members.Distinct ((c.members.filter fun m => !d.holds m) ++
      d.members.filter fun n => !c.holds n) := by
    refine List.pairwise_append.2 ⟨List.Pairwise.filter _ hc.distinct,
      List.Pairwise.filter _ hd.distinct, fun m hm n hn => ?_⟩
    have hholds : c.holds n = Value.hasKey n c.members := holds_of_takes (htakes n hn).1
    have hnone : Value.hasKey n c.members = false := by
      rw [← hholds]
      simpa using (List.mem_filter.1 hn).2
    exact Value.hasKey_eq_false_iff.1 hnone m (List.mem_filter.1 hm).1
  rw [hr, holding_members, Members.addAll_eq_append hdistinct]
  rfl

end Lawful

/-- What the algebra makes of two sets of any classes and element types. A difference and an
intersection always succeed. A union and a symmetric difference fail exactly where the receiver is
restricted and the other set has a member that it does not take, both with the refusal of the first
one. What comes out has the class and the configuration of the receiver. -/
theorem algebra_decided (same : Sameness) (hc : c.IsReachable) (hd : d.IsReachable) :
    (∀ m ∈ c.members, d.has same m = .ok (d.holds m)) ∧
    (∀ n ∈ d.members, c.has same n = .ok (c.holds n)) ∧
    c.difference same d = .ok (c.holding (c.members.filter fun m => !d.holds m)) ∧
    c.intersection same d = .ok (c.holding (if c.size < d.size then c.members.filter d.holds
      else d.members.filter c.holds)) ∧
    ((∃ fault, c.union same d = .error fault) ↔
      ∃ t, c.config.elementType = some t ∧ ∃ n ∈ d.members, t.takes n = false) ∧
    (∀ fault, c.symmetricDifference same d = .error fault ↔ c.union same d = .error fault) ∧
    (∀ fault, c.union same d = .error fault ↔ ∃ t n, c.config.elementType = some t ∧
      (d.members.find? fun n => !t.takes n) = some n ∧ fault = .rejected c.cls n t) ∧
    (∀ r, c.union same d = .ok r →
      r = c.holding (c.members ++ d.members.filter fun n => !Value.hasKey n c.members)) ∧
    ∀ r, c.symmetricDifference same d = .ok r →
      r = c.holding ((c.members.filter fun m => !d.holds m) ++
        d.members.filter fun n => !c.holds n) := by
  have hclawful := hc.lawful
  have hdlawful := hd.lawful
  have hfault : ∀ fault, c.union same d = .error fault ↔ ∃ t n, c.config.elementType = some t ∧
      (d.members.find? fun n => !t.takes n) = some n ∧ fault = .rejected c.cls n t := by
    intro fault
    rw [hclawful.union_eq same, Keyed.insert_eq_error_iff hdlawful.hashable]
  refine ⟨fun m hm => hdlawful.has_of_isHashable same (hclawful.hashable m hm),
    fun n hn => hclawful.has_of_isHashable same (hdlawful.hashable n hn),
    hclawful.difference_eq same hdlawful, hclawful.intersection_eq same hdlawful, ?_,
    fun fault => hclawful.symmetricDifference_eq_error_iff same hdlawful, hfault,
    fun r => hclawful.union_eq_ok same hdlawful,
    fun r => hclawful.symmetricDifference_eq_ok same hdlawful⟩
  constructor
  · rintro ⟨fault, h⟩
    obtain ⟨t, n, ht, hn, -⟩ := (hfault fault).1 h
    exact ⟨t, ht, n, List.mem_of_find?_eq_some hn, by simpa using List.find?_some hn⟩
  · rintro ⟨t, ht, n, hn, htakes⟩
    have hsome : (d.members.find? fun n => !t.takes n).isSome = true :=
      List.find?_isSome.2 ⟨n, hn, by simp [htakes]⟩
    obtain ⟨first, hfirst⟩ := Option.isSome_iff_exists.1 hsome
    exact ⟨_, (hfault _).2 ⟨t, first, ht, hfirst, rfl⟩⟩

/-- A set of whole numbers takes up a level that it shares with an unrestricted set, and refuses the
truth value in front of it. -/
theorem algebra_decided_of_truth_value :
    let same : Sameness := fun x y => .ok (x.sameKey y)
    let c : Collection :=
      ⟨.int, { identity := 1, settings := { elementType := some .int } },
        [.level .low, .level .mid], none⟩
    let d : Collection :=
      ⟨.inMemory, { identity := 2, settings := {} }, [.bool true, .level .mid, .level .high], none⟩
    c.difference same d = .ok (c.holding []) ∧
    c.intersection same d = .ok (c.holding [.level .low, .level .mid]) ∧
    c.union same d = .error (.rejected .int (.bool true) .int) ∧
    c.symmetricDifference same d = .error (.rejected .int (.bool true) .int) := by
  intro same c d
  let s := (({} : Session).after
    { step := .construct .int, args := [.level .low, .level .mid] }).after
    { step := .construct .inMemory, args := [.bool true, .level .mid, .level .high] }
  have hs : s.IsReachable :=
    .step (.step .refl (Instruction.isPlain_of_no_config (by decide) hasPlainConfig_nil))
      (Instruction.isPlain_of_no_config (by decide) hasPlainConfig_nil)
  have hcollections : s.collections = [c, d] := rfl
  have hc : c.IsReachable := ⟨s, hs, by simp [hcollections], rfl⟩
  have hd : d.IsReachable := ⟨s, hs, by simp [hcollections], rfl⟩
  obtain ⟨-, -, hdifference, hintersection, -, hsymmetric, hunion, -, -⟩ :=
    algebra_decided same hc hd
  have hrefused := (hunion (.rejected .int (.bool true) .int)).2 ⟨.int, .bool true, rfl, rfl, rfl⟩
  exact ⟨hdifference, hintersection, hrefused, (hsymmetric _).2 hrefused⟩

end Collection

end ValueSets
