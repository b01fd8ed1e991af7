import ValueSets.Proofs.MixedTypes
import ValueSets.Proofs.SmallerOperand

/-!
# Symmetric differences by way of a union and an intersection

A symmetric difference asks each operand for the members of the other one. Leaving the intersection
out of the union (`Collection.unionLessIntersection`) asks by way of two sets that both have the
element type of the receiver. Either way fails where the union does, and either way ends with what
the other set has beyond the keys of the receiver. Only what is left of the receiver can differ: a
smaller receiver is walked by the intersection, which asks the other set for its members as the
symmetric difference does, but where the other set is walked, a member is left out as soon as its
key is found, even if the other set does not take it.

`Collection.symmetricDifference_eq_iff` says what comes out on the second way, and that the results
are equal exactly if the receiver is the smaller set or the other set takes all members of the
receiver whose keys it has, as sets of one element type do. For the two sets of
`Collection.symmetricDifference_of_truth_value` they are not.
-/

set_option autoImplicit false

namespace ValueSets.Collection

variable {c d : Collection}

/-- The union of two sets without what is in their intersection. -/
def unionLessIntersection (same : Sameness) (c d : Collection) : Except Fault Collection := do
  let union ← c.union same d
  let intersection ← c.intersection same d
  union.difference same intersection

/-- Whether an intersection leaves a member of its first operand in: if the second one has its key
and, where the first one is walked, takes the member. -/
def isShared (c d : Collection) (m : Value) : Bool :=
  if c.size < d.size then d.holds m else Value.hasKey m d.members

/-- The unshared members of the first of two sets are those that the second one does not have, if
the first one is smaller or the second one takes what it has the keys of. -/
theorem filter_isShared_eq_iff :
    (c.members.filter fun m => !d.holds m) = (c.members.filter fun m => !c.isShared d m) ↔
      c.size < d.size ∨ ∀ m ∈ c.members, Value.hasKey m d.members = true → d.takes m = true := by
  unfold isShared
  split
  case isTrue hsize => simp [hsize]
  case isFalse hsize =>
    constructor
    · refine fun heq => .inr fun m hm hkey => ?_
      by_contra htakes
      have hleft : m ∈ c.members.filter fun m => !d.holds m :=
        List.mem_filter.2 ⟨hm, by rw [Lawful.holds_of_not_takes (Bool.eq_false_iff.2 htakes)]; rfl⟩
      rw [heq, List.mem_filter, hkey] at hleft
      cases hleft.2
    · rintro (h | htakes)
      · exact absurd h hsize
      · refine List.filter_congr fun m hm => congrArg not ?_
        unfold holds
        cases hkey : Value.hasKey m d.members with
        | false => rw [Bool.and_false]
        | true => rw [htakes m hm hkey, Bool.and_true]

/-- Leaving the intersection out of the union is leaving out what both sets have the keys of, unless
the first one is smaller. -/
theorem filter_isShared_append (c d : Collection) :
    (c.members.filter fun m => !c.isShared d m) ++
        (d.members.filter fun n => !Value.hasKey n c.members) =
      ((c.members.filter fun m => !d.holds m) ++
        d.members.filter fun n => !Value.hasKey n c.members).filter
          fun m => decide (c.size < d.size) ||
            !(Value.hasKey m c.members && Value.hasKey m d.members) := by
  rw [List.filter_append, List.filter_filter, List.filter_filter]
  congr 1
  · refine List.filter_congr fun m hm => ?_
    unfold isShared holds
    rw [Members.hasKey_self_of_mem hm]
    cases Value.hasKey m d.members <;> by_cases hsize : c.size < d.size <;> simp [hsize]
  · refine List.filter_congr fun n _ => ?_
    cases Value.hasKey n c.members <;> simp

namespace Lawful

/-- A walk over a set finds the key of one of its members if the set that is asked has the member.
-/
theorem hasKey_walk_of_mem (hc : c.Lawful) {m : Value} (hm : m ∈ c.members) :
    Value.hasKey m (c.members.filter d.holds) = d.holds m := by
  rw [Bool.eq_iff_iff, hasKey_walk_iff, holds_iff, Value.hasKey_iff]
  constructor
  · rintro ⟨m', hm', n, hn, hmm, hnm, htakes⟩
    obtain rfl := hc.distinct.eq_of_sameKey hm' hm hmm
    exact ⟨htakes, n, hn, hnm⟩
  · rintro ⟨htakes, n, hn, hnm⟩
    exact ⟨m, hm, n, hn, Value.sameKey_refl m, hnm, htakes⟩

/-- A walk over a set finds the key of a member of the set that is asked, if that one takes all that
is walked over. -/
theorem hasKey_walk_back_of_mem (htakes : ∀ n ∈ d.members, c.takes n = true) {m : Value}
    (hm : m ∈ c.members) :
    Value.hasKey m (d.members.filter c.holds) = Value.hasKey m d.members := by
  rw [Bool.eq_iff_iff, hasKey_walk_iff, Value.hasKey_iff]
  constructor
  · rintro ⟨n, hn, -, -, hnm, -, -⟩
    exact ⟨n, hn, hnm⟩
  · rintro ⟨n, hn, hnm⟩
    exact ⟨n, hn, m, hm, hnm, Value.sameKey_refl m, htakes n hn⟩

/-- Where a union succeeds, the first set takes all that the second one has. -/
theorem takes_of_union_eq_ok (same : Sameness) (hc : c.Lawful) {u : Collection}
    (h : c.union same d = .ok u) : ∀ n ∈ d.members, c.takes n = true := by
  rw [hc.union_eq same] at h
  exact fun n hn => ((Keyed.insert_eq_ok_iff.1 h).1 n hn).1

/-- What an intersection keeps of two sets whose union succeeds. -/
theorem intersection_keeps (same : Sameness) (hc : c.Lawful) (hd : d.Lawful) {u : Collection}
    (hu : c.union same d = .ok u) :
    ∃ i, c.intersection same d = .ok i ∧ i.Lawful ∧ i.config = c.config ∧
      (∀ m ∈ c.members, Value.hasKey m i.members = c.isShared d m) ∧
      ∀ x, Value.hasKey x c.members = false → Value.hasKey x i.members = false := by
  have hwalks : ∀ x, Value.hasKey x c.members = false →
      ¬ ∃ m ∈ c.members, ∃ n ∈ d.members, m.sameKey x = true ∧ n.sameKey x = true := by
    rintro x hx ⟨m, hm, -, -, hmx, -⟩
    rw [Value.hasKey_eq_false_iff.1 hx m hm] at hmx
    cases hmx
  refine ⟨_, hc.intersection_eq same hd, ?_⟩
  unfold isShared
  split
  · refine ⟨hc.holding_walk d, rfl, fun m hm => hc.hasKey_walk_of_mem hm, fun x hx => ?_⟩
    rw [holding_members, Bool.eq_false_iff, Ne, hasKey_walk_iff]
    rintro ⟨m, hm, n, hn, hmx, hnx, -⟩
    exact hwalks x hx ⟨m, hm, n, hn, hmx, hnx⟩
  · refine ⟨hc.holding_walk_back hd, rfl, fun m hm =>
      hasKey_walk_back_of_mem (hc.takes_of_union_eq_ok same hu) hm, fun x hx => ?_⟩
    rw [holding_members, Bool.eq_false_iff, Ne, hasKey_walk_iff]
    rintro ⟨n, hn, m, hm, hnx, hmx, -⟩
    exact hwalks x hx ⟨m, hm, n, hn, hmx, hnx⟩

/-- A union without the intersection has the unshared members of the first set in front of what the
second one has beyond its keys. -/
theorem unionLessIntersection_eq_ok (same : Sameness) (hc : c.Lawful) (hd : d.Lawful)
    {u : Collection} (hu : c.union same d = .ok u) :
    c.unionLessIntersection same d = .ok (c.holding
      ((c.members.filter fun m => !c.isShared d m) ++
        d.members.filter fun n => !Value.hasKey n c.members)) := by
  obtain ⟨i, hi, hilawful, hconfig, hshared, hbeyond⟩ := hc.intersection_keeps same hd hu
  have hueq := hc.union_eq_ok same hd hu
  have hulawful : u.Lawful := hc.of_combine same .union hu
  have hholds : ∀ m ∈ u.members, i.holds m = Value.hasKey m i.members := by
    intro m hm
    have htype : i.config.elementType = u.config.elementType := by rw [hconfig, hueq]; rfl
    exact holds_of_takes ((takes_congr htype m).trans (hulawful.taken m hm))
  have hrest : u.members.filter (fun m => !i.holds m) =
      (c.members.filter fun m => !c.isShared d m) ++
        d.members.filter fun n => !Value.hasKey n c.members := by
    rw [List.filter_congr fun m hm => congrArg not (hholds m hm), hueq, holding_members,
      List.filter_append]
    congr 1
    · exact List.filter_congr fun m hm => congrArg not (hshared m hm)
    · refine List.filter_eq_self.2 fun n hn => ?_
      have hn : Value.hasKey n c.members = false := by simpa using (List.mem_filter.1 hn).2
      rw [hbeyond n hn]
      rfl
  unfold unionLessIntersection
  rw [hu, hi]
  simp only [bind, Except.bind]
  rw [hulawful.difference_eq same hilawful, hrest, hueq]
  rfl

/-- A union without the intersection fails where the union does. -/
theorem unionLessIntersection_eq_error_iff (same : Sameness) (hc : c.Lawful) (hd : d.Lawful)
    {fault : Fault} :
    c.unionLessIntersection same d = .error fault ↔ c.union same d = .error fault := by
  cases hu : c.union same d with
  | error other =>
    unfold unionLessIntersection
    rw [hu]
    rfl
  | ok u =>
    rw [hc.unionLessIntersection_eq_ok same hd hu]
    simp

/-- A symmetric difference of two sets whose union succeeds, with what the second set has beyond the
keys of the first. -/
theorem symmetricDifference_eq_of_union (same : Sameness) (hc : c.Lawful) (hd : d.Lawful)
    {r u : Collection} (hu : c.union same d = .ok u) (hr : c.symmetricDifference same d = .ok r) :
    r = c.holding ((c.members.filter fun m => !d.holds m) ++
      d.members.filter fun n => !Value.hasKey n c.members) := by
  rw [hc.symmetricDifference_eq_ok same hd hr]
  have htakes := hc.takes_of_union_eq_ok same hu
  rw [List.filter_congr fun n hn => congrArg not (holds_of_takes (htakes n hn))]

/-- A set has all of what is left of it, and is equal to that only if nothing was left out. -/
theorem equal_sublist_iff (same : Sameness) (hc : c.Lawful) {ms : List Value}
    (hms : ms.Sublist c.members) :
    c.isSuperset same (c.holding ms) = .ok true ∧
      (c.equal same (c.holding ms) = .ok true ↔ c = c.holding ms) ∧
      ((c.holding ms).equal same c = .ok true ↔ c = c.holding ms) := by
  have hlawful := hc.sublist hms
  have hself := hc.equal_of_holds_eq same hc fun _ => rfl
  have heq : ms.length = c.members.length → c = c.holding ms := fun hlen => by
    rw [hms.eq_of_length hlen, holding_self]
  refine ⟨?_, ⟨fun h => heq ?_, fun h => ?_⟩, ⟨fun h => heq ?_, fun h => ?_⟩⟩
  · rw [hc.isSuperset_eq same hlawful]
    exact congrArg Except.ok (List.all_eq_true.2 fun m hm => hc.holds_of_mem (hms.subset hm))
  · rw [hc.equal_eq same hlawful, Except.ok.injEq, Bool.and_eq_true, beq_iff_eq] at h
    exact h.1.symm
  · rwa [← h]
  · rw [hlawful.equal_eq same hc, Except.ok.injEq, Bool.and_eq_true, beq_iff_eq] at h
    exact h.1
  · rwa [← h]

end Lawful

/-- A symmetric difference and a union without the intersection fail alike, with the refusal of the
union. Where they succeed, the second way leaves out of the first result those members whose keys
both sets have, unless the receiver is the smaller set. So the first result includes the second, and
they are equal, in either direction, exactly if they are the same, which is the case exactly if the
receiver is smaller or the other set takes all members of the receiver whose keys it has. -/
theorem symmetricDifference_eq_iff (same : Sameness) (hc : c.IsReachable) (hd : d.IsReachable) :
    (∀ fault, c.symmetricDifference same d = .error fault ↔ c.union same d = .error fault) ∧
    (∀ fault, c.unionLessIntersection same d = .error fault ↔ c.union same d = .error fault) ∧
    ∀ r, c.symmetricDifference same d = .ok r → ∃ q,
      c.unionLessIntersection same d = .ok q ∧
      q = c.holding (r.members.filter fun m => decide (c.size < d.size) ||
        !(Value.hasKey m c.members && Value.hasKey m d.members)) ∧
      r.isSuperset same q = .ok true ∧
      (r.equal same q = .ok true ↔ r = q) ∧ (q.equal same r = .ok true ↔ r = q) ∧
      (r = q ↔ c.size < d.size ∨
        ∀ m ∈ c.members, Value.hasKey m d.members = true → d.takes m = true) ∧
      (c.config.elementType = d.config.elementType → r = q) := by
  have hclawful := hc.lawful
  have hdlawful := hd.lawful
  refine ⟨fun fault => hclawful.symmetricDifference_eq_error_iff same hdlawful,
    fun fault => hclawful.unionLessIntersection_eq_error_iff same hdlawful, fun r hr => ?_⟩
  obtain ⟨u, hu⟩ : ∃ u, c.union same d = .ok u := by
    cases hu : c.union same d with
    | ok u => exact ⟨u, rfl⟩
    | error fault =>
      have herror := (hclawful.symmetricDifference_eq_error_iff same hdlawful).2 hu
      rw [hr] at herror
      cases herror
  have hreq := hclawful.symmetricDifference_eq_of_union same hdlawful hu hr
  have hrlawful : r.Lawful := hclawful.of_combine same .symmetricDifference hr
  have hmembers : r.members = (c.members.filter fun m => !d.holds m) ++
      d.members.filter fun n => !Value.hasKey n c.members := congrArg Collection.members hreq
  have hrest := filter_isShared_append c d
  rw [← hmembers] at hrest
  have hq := hclawful.unionLessIntersection_eq_ok same hdlawful hu
  have hiff : r = c.holding ((c.members.filter fun m => !c.isShared d m) ++
      d.members.filter fun n => !Value.hasKey n c.members) ↔ c.size < d.size ∨
        ∀ m ∈ c.members, Value.hasKey m d.members = true → d.takes m = true := by
    rw [← filter_isShared_eq_iff, hreq]
    constructor
    · exact fun h => List.append_cancel_right (congrArg Collection.members h)
    · exact fun h => by rw [h]
  have hleft := hrlawful.equal_sublist_iff same (hrest ▸ List.filter_sublist)
  have hholding : ∀ ms, r.holding ms = c.holding ms := fun ms => by rw [hreq]; rfl
  rw [hholding] at hleft
  refine ⟨_, hq, by rw [hrest], hleft.1, hleft.2.1, hleft.2.2, hiff, fun htype => ?_⟩
  exact hiff.2 (.inr fun m hm _ => (takes_congr htype m).symm.trans (hclawful.taken m hm))

/-- An unrestricted set has two levels and a set of whole numbers has one of them, which it takes,
so both ways leave the others. -/
theorem symmetricDifference_of_levels :
    let same : Sameness := fun x y => .ok (x.sameKey y)
    let c : Collection :=
      ⟨.inMemory, { identity := 1, settings := {} }, [.level .low, .level .mid], none⟩
    let d : Collection :=
      ⟨.int, { identity := 2, settings := { elementType := some .int } },
        [.level .high, .level .low], none⟩
    let r := c.holding [.level .mid, .level .high]
    c.symmetricDifference same d = .ok r ∧ ∃ q, c.unionLessIntersection same d = .ok q ∧
      r.equal same q = .ok true ∧ q.equal same r = .ok true := by
  intro same c d r
  let s := (({} : Session).after
    { step := .construct .inMemory, args := [.level .low, .level .mid] }).after
    { step := .construct .int, args := [.level .high, .level .low] }
  have hs : s.IsReachable :=
    .step (.step .refl (Instruction.isPlain_of_no_config (by decide) hasPlainConfig_nil))
      (Instruction.isPlain_of_no_config (by decide) hasPlainConfig_nil)
  have hcollections : s.collections = [c, d] := rfl
  have hc : c.IsReachable := ⟨s, hs, by simp [hcollections], rfl⟩
  have hd : d.IsReachable := ⟨s, hs, by simp [hcollections], rfl⟩
  have hr : c.symmetricDifference same d = .ok r := rfl
  obtain ⟨q, hq, -, -, hequal, hequal', hsame, -⟩ :=
    (symmetricDifference_eq_iff same hc hd).2.2 r hr
  have heq : r = q := hsame.2 (.inr (by decide))
  exact ⟨hr, q, hq, hequal.2 heq, hequal'.2 heq⟩

/-- A set of a truth value and a set of the whole number of its key: the second one does not have
the truth value, but the number is in the intersection and takes the truth value with it. -/
theorem symmetricDifference_of_truth_value :
    ∃ c d : Collection, c.IsReachable ∧ d.IsReachable ∧ ∀ same, ∃ r q,
      c.symmetricDifference same d = .ok r ∧ c.unionLessIntersection same d = .ok q ∧
      r.equal same q = .ok false ∧ q.equal same r = .ok false := by
  let s := (({} : Session).after { step := .construct .inMemory, args := [.bool true] }).after
    { step := .construct .int, args := [.level .low] }
  have hs : s.IsReachable :=
    .step (.step .refl (Instruction.isPlain_of_no_config (by decide) hasPlainConfig_nil))
      (Instruction.isPlain_of_no_config (by decide) hasPlainConfig_nil)
  let c : Collection := ⟨.inMemory, { identity := 1, settings := {} }, [.bool true], none⟩
  let d : Collection :=
    ⟨.int, { identity := 2, settings := { elementType := some .int } }, [.level .low], none⟩
  have hcollections : s.collections = [c, d] := rfl
  exact ⟨c, d, ⟨s, hs, by simp [hcollections], rfl⟩, ⟨s, hs, by simp [hcollections], rfl⟩,
    fun same => ⟨c.holding [.bool true], c.holding [], rfl, rfl, rfl, rfl⟩⟩

end ValueSets.Collection
