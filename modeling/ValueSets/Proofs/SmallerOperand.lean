import Mathlib.Data.List.Pairwise
import ValueSets.Proofs.Equivalence

/-!
# Walking the smaller operand

An intersection walks the smaller of its operands and asks the other one, so what it finds is
filtered by the element type of the set that is asked. The two walks come to the same for a value
where the sets agree about it (`Collection.AgreeAbout`): each takes the member that the other one
has for it, or neither does. `Collection.walks_equal_iff` says that the walks are equal exactly if
the sets agree about all values, which sets of one element type always do, and that an intersection
then keeps what it has when its operands grow.

Where they do not agree, growing can change which of the sets is walked, and with it what is found:
`Collection.intersection_loses_by_growth`.
-/

set_option autoImplicit false

namespace ValueSets

theorem Members.Distinct.eq_of_sameKey {ms : List Value} (h : Distinct ms) {m n : Value}
    (hm : m ∈ ms) (hn : n ∈ ms) (hmn : m.sameKey n = true) : m = n := by
  have hsymmetric : Std.Symm fun x y : Value => x.sameKey y = false :=
    ⟨fun x y hxy => (Value.sameKey_comm y x).trans hxy⟩
  by_contra hne
  have hfalse := List.Pairwise.forall h hm hn hne
  rw [hmn] at hfalse
  cases hfalse

namespace Collection

variable {c d : Collection} {x : Value}

/-- Whether of the members that two sets have for a value either both are taken by the other set or
none is. -/
def AgreeAbout (c d : Collection) (x : Value) : Prop :=
  ∀ m ∈ c.members, ∀ n ∈ d.members, m.sameKey x = true → n.sameKey x = true →
    d.takes m = c.takes n

/-- Walking a set finds a value if both sets have a member for it and the set that is asked takes
the one that is walked over. -/
theorem hasKey_walk_iff (c d : Collection) (x : Value) :
    Value.hasKey x (c.members.filter d.holds) = true ↔ ∃ m ∈ c.members, ∃ n ∈ d.members,
      m.sameKey x = true ∧ n.sameKey x = true ∧ d.takes m = true := by
  simp only [Value.hasKey_iff, List.mem_filter, holds_iff]
  constructor
  · rintro ⟨m, ⟨hm, htakes, n, hn, hnm⟩, hmx⟩
    exact ⟨m, hm, n, hn, hmx, Value.sameKey_trans hnm hmx, htakes⟩
  · rintro ⟨m, hm, n, hn, hmx, hnx, htakes⟩
    refine ⟨m, ⟨hm, htakes, n, hn, ?_⟩, hmx⟩
    exact (Value.sameKey_congr_right hmx n).trans hnx

namespace Lawful

/-- Sets of one element type agree about everything. -/
theorem agreeAbout_of_elementType_eq (hc : c.Lawful) (hd : d.Lawful)
    (htype : c.config.elementType = d.config.elementType) (x : Value) : c.AgreeAbout d x := by
  intro m hm n hn _ _
  rw [← takes_congr htype m, takes_congr htype n, hc.taken m hm, hd.taken n hn]

/-- Where two sets agree, both walks find the same. -/
theorem walk_of_agreeAbout (hagree : c.AgreeAbout d x) :
    Value.hasKey x (c.members.filter d.holds) = Value.hasKey x (d.members.filter c.holds) := by
  rw [Bool.eq_iff_iff, hasKey_walk_iff, hasKey_walk_iff]
  constructor
  · rintro ⟨m, hm, n, hn, hmx, hnx, htakes⟩
    exact ⟨n, hn, m, hm, hnx, hmx, (hagree m hm n hn hmx hnx).symm.trans htakes⟩
  · rintro ⟨n, hn, m, hm, hnx, hmx, htakes⟩
    exact ⟨m, hm, n, hn, hmx, hnx, (hagree m hm n hn hmx hnx).trans htakes⟩

/-- Where both walks find the same, two sets agree: neither has a second member for a value. -/
theorem agreeAbout_of_walk (hc : c.Lawful) (hd : d.Lawful)
    (hwalk : Value.hasKey x (c.members.filter d.holds) =
      Value.hasKey x (d.members.filter c.holds)) : c.AgreeAbout d x := by
  intro m hm n hn hmx hnx
  have hsame : ∀ {u v : Value}, u.sameKey x = true → v.sameKey x = true → u.sameKey v = true :=
    fun hu hv => Value.sameKey_trans hu ((Value.sameKey_comm _ _).trans hv)
  rw [Bool.eq_iff_iff, hasKey_walk_iff, hasKey_walk_iff] at hwalk
  rw [Bool.eq_iff_iff]
  -- the other walk may have met another pair, but a set has one member for a value only
  constructor
  · intro htakes
    obtain ⟨n', hn', -, -, hnx', -, htakes'⟩ := hwalk.1 ⟨m, hm, n, hn, hmx, hnx, htakes⟩
    rwa [hd.distinct.eq_of_sameKey hn hn' (hsame hnx hnx')]
  · intro htakes
    obtain ⟨m', hm', -, -, hmx', -, htakes'⟩ := hwalk.2 ⟨n, hn, m, hm, hnx, hmx, htakes⟩
    rwa [hc.distinct.eq_of_sameKey hm hm' (hsame hmx hmx')]

theorem holding_walk (hc : c.Lawful) (d : Collection) :
    (c.holding (c.members.filter d.holds)).Lawful :=
  hc.sublist List.filter_sublist

/-- What the other walk finds may be members of the set that was asked. -/
theorem holding_walk_back (hc : c.Lawful) (hd : d.Lawful) :
    (c.holding (d.members.filter c.holds)).Lawful := by
  refine hc.holding (fun n hn => ?_) (List.Pairwise.filter _ hd.distinct)
  obtain ⟨hn, hholds⟩ := List.mem_filter.1 hn
  exact ⟨(holds_iff.1 hholds).1, hd.hashable n hn⟩

/-- The two walks have the same keys exactly if the sets agree about everything. -/
theorem sameKeys_walks_iff (hc : c.Lawful) (hd : d.Lawful) :
    (c.holding (c.members.filter d.holds)).SameKeys (c.holding (d.members.filter c.holds)) ↔
      ∀ x, c.AgreeAbout d x :=
  ⟨fun h x => hc.agreeAbout_of_walk hd (h.keys x),
    fun hagree => ⟨rfl, fun x => walk_of_agreeAbout (hagree x)⟩⟩

/-- A set answers that it has a value if the value is hashable, it takes the value, and it has a
member for it. -/
theorem has_eq_true_iff (hc : c.Lawful) (same : Sameness) :
    c.has same x = .ok true ↔
      x.isHashable = true ∧ c.takes x = true ∧ Value.hasKey x c.members = true := by
  rw [hc.has_eq]
  unfold Keyed.has
  cases c.takes x with
  | false => simp
  | true => cases x.isHashable <;> simp

theorem keyed_insert_of_insert (hc : c.Lawful) {changing : Collection → Sameness}
    {c' : Collection} {xs : List Value} (h : c.insert changing xs = (.ok (), c')) :
    Keyed.insert c xs = .ok c' := by
  rw [hc.insert_eq] at h
  cases hinsert : Keyed.insert c xs with
  | error fault => simp [hinsert] at h
  | ok r =>
    simp only [hinsert, Prod.mk.injEq, true_and] at h
    rw [h]

/-- An intersection has a value exactly if its first operand takes it, both have a member for it,
and the set that is asked takes the one of the set that is walked. -/
theorem has_intersection_iff (hc : c.Lawful) (hd : d.Lawful) (same : Sameness) :
    ∃ r, c.intersection same d = .ok r ∧ ∀ x, r.has same x = .ok true ↔
      x.isHashable = true ∧ c.takes x = true ∧ ∃ m ∈ c.members, ∃ n ∈ d.members,
        m.sameKey x = true ∧ n.sameKey x = true ∧
          (if c.size < d.size then d.takes m else c.takes n) = true := by
  refine ⟨_, hc.intersection_eq same hd, fun x => ?_⟩
  split
  · rw [(hc.holding_walk d).has_eq_true_iff same, holding_members, hasKey_walk_iff]
    rfl
  · rw [(hc.holding_walk_back hd).has_eq_true_iff same, holding_members, hasKey_walk_iff]
    refine and_congr_right fun _ => and_congr_right fun _ => ?_
    constructor
    · rintro ⟨n, hn, m, hm, hnx, hmx, htakes⟩
      exact ⟨m, hm, n, hn, hmx, hnx, htakes⟩
    · rintro ⟨m, hm, n, hn, hmx, hnx, htakes⟩
      exact ⟨n, hn, m, hm, hnx, hmx, htakes⟩

/-- Operands that grow keep what their intersection has, as far as they agree about it. -/
theorem has_intersection_of_growth (hc : c.Lawful) (hd : d.Lawful) (same : Sameness)
    {c' d' r r' : Collection} {xs ys : List Value} (hc' : Keyed.insert c xs = .ok c')
    (hd' : Keyed.insert d ys = .ok d') (hr : c.intersection same d = .ok r)
    (hr' : c'.intersection same d' = .ok r') (hagree : c.AgreeAbout d x)
    (hx : r.has same x = .ok true) : r'.has same x = .ok true := by
  obtain ⟨_, hresult, hhas⟩ := hc.has_intersection_iff hd same
  cases hresult.symm.trans hr
  obtain ⟨_, hresult', hhas'⟩ :=
    (hc.keyed_insert hc').has_intersection_iff (hd.keyed_insert hd') same
  cases hresult'.symm.trans hr'
  obtain ⟨hhash, htakes, m, hm, n, hn, hmx, hnx, hfound⟩ := (hhas x).1 hx
  -- after the growth the other operand may be the smaller one, so the pair has to pass both ways
  have hboth : d.takes m = true ∧ c.takes n = true := by
    have hmn := hagree m hm n hn hmx hnx
    split at hfound
    · exact ⟨hfound, hmn ▸ hfound⟩
    · exact ⟨hmn.trans hfound, hfound⟩
  obtain ⟨-, rfl⟩ := Keyed.insert_eq_ok_iff.1 hc'
  obtain ⟨-, rfl⟩ := Keyed.insert_eq_ok_iff.1 hd'
  refine (hhas' x).2 ⟨hhash, htakes, m, (Members.isPrefix_addAll c.members xs).subset hm, n,
    (Members.isPrefix_addAll d.members ys).subset hn, hmx, hnx, ?_⟩
  split
  · exact hboth.1
  · exact hboth.2

end Lawful

/-- The two walks over sets of reachable sessions never fail, and an intersection is one of them.
They are equal exactly if the sets agree about all values, as sets of one element type do. What the
sets agree about an intersection keeps when elements are added to its operands. -/
theorem walks_equal_iff (same : Sameness) (hc : c.IsReachable) (hd : d.IsReachable) :
    ∃ left right r, c.membersIn same d = .ok left ∧ d.membersIn same c = .ok right ∧
      c.intersection same d = .ok r ∧ r = c.holding (if c.size < d.size then left else right) ∧
      ((c.holding left).equal same (c.holding right) = .ok true ↔ ∀ x, c.AgreeAbout d x) ∧
      ((c.holding right).equal same (c.holding left) = .ok true ↔ ∀ x, c.AgreeAbout d x) ∧
      ((∀ x, c.AgreeAbout d x) → r.equal same (c.holding left) = .ok true ∧
        r.equal same (c.holding right) = .ok true) ∧
      (c.config.elementType = d.config.elementType → ∀ x, c.AgreeAbout d x) ∧
      ∀ (changing : Collection → Sameness) (c' d' : Collection) (xs ys : List Value),
        c.insert changing xs = (.ok (), c') → d.insert changing ys = (.ok (), d') →
        ∃ r', c'.intersection same d' = .ok r' ∧
          ∀ x, c.AgreeAbout d x → r.has same x = .ok true → r'.has same x = .ok true := by
  have hclawful := hc.lawful
  have hdlawful := hd.lawful
  have hleft := hclawful.holding_walk d
  have hright := hclawful.holding_walk_back hdlawful
  have hwalks := hclawful.sameKeys_walks_iff hdlawful
  have hr := hclawful.intersection_eq same hdlawful
  refine ⟨_, _, _, hclawful.membersIn_eq same hdlawful, hdlawful.membersIn_eq same hclawful, hr,
    rfl, ?_, ?_, fun hagree => ?_, hclawful.agreeAbout_of_elementType_eq hdlawful, ?_⟩
  · rw [← hwalks]
    exact ⟨hleft.sameKeys_of_equal hright rfl, hleft.equal_of_sameKeys same hright⟩
  · rw [← hwalks]
    exact ⟨fun h => (hright.sameKeys_of_equal hleft rfl h).symm,
      fun h => hright.equal_of_sameKeys same hleft h.symm⟩
  · have hkeys := hwalks.2 hagree
    split
    · exact ⟨hleft.equal_of_sameKeys same hleft (SameKeys.refl _),
        hleft.equal_of_sameKeys same hright hkeys⟩
    · exact ⟨hright.equal_of_sameKeys same hleft hkeys.symm,
        hright.equal_of_sameKeys same hright (SameKeys.refl _)⟩
  · intro changing c' d' xs ys hc' hd'
    have hcinsert := hclawful.keyed_insert_of_insert hc'
    have hdinsert := hdlawful.keyed_insert_of_insert hd'
    obtain ⟨r', hr', -⟩ := (hclawful.keyed_insert hcinsert).has_intersection_iff
      (hdlawful.keyed_insert hdinsert) same
    exact ⟨r', hr', fun x =>
      hclawful.has_intersection_of_growth hdlawful same hcinsert hdinsert hr hr'⟩

/-- An unrestricted set and a set of whole numbers agree about a level that both have. -/
theorem walks_equal_of_levels :
    let same : Sameness := fun x y => .ok (x.sameKey y)
    let c : Collection := ⟨.inMemory, { identity := 1, settings := {} }, [.level .low], none⟩
    let d : Collection :=
      ⟨.int, { identity := 2, settings := { elementType := some .int } },
        [.level .low, .level .mid], none⟩
    ∃ left right, c.membersIn same d = .ok left ∧ d.membersIn same c = .ok right ∧
      (c.holding left).equal same (c.holding right) = .ok true := by
  intro same c d
  let s := (({} : Session).after { step := .construct .inMemory, args := [.level .low] }).after
    { step := .construct .int, args := [.level .low, .level .mid] }
  have hs : s.IsReachable :=
    .step (.step .refl (Instruction.isPlain_of_no_config (by decide) hasPlainConfig_nil))
      (Instruction.isPlain_of_no_config (by decide) hasPlainConfig_nil)
  have hcollections : s.collections = [c, d] := rfl
  have hc : c.IsReachable := ⟨s, hs, by simp [hcollections], rfl⟩
  have hd : d.IsReachable := ⟨s, hs, by simp [hcollections], rfl⟩
  obtain ⟨left, right, -, hleft, hright, -, -, hequal, -⟩ := walks_equal_iff same hc hd
  refine ⟨left, right, hleft, hright, hequal.2 fun x m hm n hn _ _ => ?_⟩
  have htaken : ∀ m ∈ c.members, d.takes m = true := by decide
  rw [htaken m hm]
  rfl

/-- A set of a truth value and a set of the whole number of its key have the number in common until
another number is added to the second one. -/
theorem intersection_loses_by_growth :
    ∃ c d : Collection, c.IsReachable ∧ d.IsReachable ∧ ∀ same changing,
      ∃ d' r r', d.insert changing [.level .mid] = (.ok (), d') ∧
        c.intersection same d = .ok r ∧ c.intersection same d' = .ok r' ∧
        r.has same (.level .low) = .ok true ∧ r'.has same (.level .low) = .ok false ∧
        ∃ left right, c.membersIn same d = .ok left ∧ d.membersIn same c = .ok right ∧
          (c.holding left).equal same (c.holding right) = .ok false := by
  let s := (({} : Session).after { step := .construct .inMemory, args := [.bool true] }).after
    { step := .construct .int, args := [.level .low] }
  have hs : s.IsReachable :=
    .step (.step .refl (Instruction.isPlain_of_no_config (by decide) hasPlainConfig_nil))
      (Instruction.isPlain_of_no_config (by decide) hasPlainConfig_nil)
  let c : Collection := ⟨.inMemory, { identity := 1, settings := {} }, [.bool true], none⟩
  let d : Collection :=
    ⟨.int, { identity := 2, settings := { elementType := some .int } }, [.level .low], none⟩
  have hcollections : s.collections = [c, d] := rfl
  refine ⟨c, d, ⟨s, hs, by simp [hcollections], rfl⟩, ⟨s, hs, by simp [hcollections], rfl⟩,
    fun same changing => ?_⟩
  exact ⟨d.holding [.level .low, .level .mid], c.holding [.level .low], c.holding [], rfl, rfl, rfl,
    rfl, rfl, [], [.level .low], rfl, rfl, rfl⟩

end Collection

end ValueSets
