import Mathlib.Data.List.Forall2
import Mathlib.Data.List.Sort
import ValueSets.Proofs.Equivalence
import ValueSets.Proofs.Session.History
import ValueSets.Proofs.Session.Simple
import ValueSets.Proofs.Sorting.Stability
import ValueSets.Proofs.Value.Rank

/-!
# Listing without a key

A set is listed in natural order if its configuration asks for that and its members have one, and as
it is stored otherwise. The members of a lawful set that have a natural order are all numbers or all
texts, so no comparison among them fails, and the sort arranges them by rank. Since no two are the
same key, the list ascends strictly, and there is one such list of given keys. So two equal sets are
listed alike, item by item, in whatever order they came by their members.

`Collection.listing_decided` puts this together.
-/

set_option autoImplicit false

namespace ValueSets

/-- Two lists of which a function makes the same are related item by item. -/
theorem forall₂_of_map_eq {α β : Type} {f : α → β} {r : α → α → Prop} {xs ys : List α}
    (h : xs.map f = ys.map f) (hr : ∀ x ∈ xs, ∀ y ∈ ys, f x = f y → r x y) :
    List.Forall₂ r xs ys := by
  induction xs generalizing ys with
  | nil =>
    cases ys with
    | nil => exact .nil
    | cons y ys => cases h
  | cons x xs ih =>
    cases ys with
    | nil => cases h
    | cons y ys =>
      obtain ⟨hxy, hrest⟩ := List.cons_eq_cons.1 h
      exact .cons (hr x (by simp) y (by simp) hxy)
        (ih hrest fun u hu v hv => hr u (by simp [hu]) v (by simp [hv]))

theorem Sorting.sorted_nil {ε α : Type} (before : α → α → Except ε Bool) :
    Sorting.sorted before [] = .ok [] := by
  obtain ⟨ys, hys⟩ : ∃ ys, Sorting.sorted before [] = .ok ys := Sorting.exists_sorted (by simp)
  rw [hys, (Sorting.perm_of_sorted hys).eq_nil]

namespace Value

/-- Ranked values are compared by their keys. -/
theorem IsRanked.sameAs_eq {v : Value} (hv : v.IsRanked) (held : Sameness) (w : Value) :
    sameAs held v w = .ok (v.sameKey w) := by
  rcases hv.cases with ⟨a, ha, -⟩ | ⟨s, hs⟩
  · cases v <;> first | rfl | cases ha
  · cases v <;> first | rfl | cases hs

end Value

namespace Session

variable {s : Session} {vs : List Value}

theorem exists_isOrdered (h : Value.OfOneOrder vs) (s : Session) (o : Order) :
    ∀ v ∈ vs, ∀ w ∈ vs, ∃ b, s.isOrdered o v w = .ok b := by
  unfold isOrdered
  obtain ⟨depth, hdepth⟩ := s.exists_depth
  rw [hdepth]
  exact Value.exists_isOrdered h o s.sameness _

theorem isOrdered_less_eq (h : Value.OfOneOrder vs) (hnan : ∀ v ∈ vs, v.isNan = false)
    (s : Session) :
    ∀ v ∈ vs, ∀ w ∈ vs, s.isOrdered .less v w = .ok (decide (v.rank < w.rank)) := by
  unfold isOrdered
  obtain ⟨depth, hdepth⟩ := s.exists_depth
  rw [hdepth]
  exact Value.isOrdered_less_eq h hnan s.sameness _

/-- Ranked values of the same rank are equal. -/
theorem equals_of_rank_eq {v w : Value} (hv : v.IsRanked) (hw : w.IsRanked)
    (h : v.rank = w.rank) (s : Session) : Value.equals s.sameness v w = .ok true := by
  have hsame : s.sameness v w = .ok true := by
    unfold sameness
    obtain ⟨depth, hdepth⟩ := s.exists_depth
    rw [hdepth]
    exact (hv.sameAs_eq _ w).trans (congrArg Except.ok ((Value.sameKey_iff_rank hv hw).2 h))
  unfold Value.equals
  rw [hv.1, hw.1]
  exact hsame

end Session

namespace Collection

variable {c d : Collection}

/-- Whether a set is listed in natural order: its configuration asks for that, and its members, if
there are any, have one. -/
def ListsNaturally (c : Collection) : Prop :=
  c.config.sortedListing = true ∧
    (c.members = [] ∨ hasNaturalOrder c.members c.config.elementType = true)

/-- A set that is not listed in natural order is listed as it is stored. -/
theorem list_of_not_listsNaturally (h : ¬c.ListsNaturally) (before : Precedence) :
    c.list before = .ok c.members := by
  unfold list lacksOrder
  unfold ListsNaturally at h
  cases hms : c.members with
  | nil => rfl
  | cons m ms =>
    rw [hms] at h
    cases hsorted : c.config.sortedListing with
    | false => rfl
    | true =>
      have hnone : hasNaturalOrder (m :: ms) c.config.elementType = false := by
        simpa [hsorted] using h
      rw [hnone]
      rfl

/-- A set that is listed in natural order is sorted. -/
theorem list_of_listsNaturally (h : c.ListsNaturally) (before : Precedence) :
    c.list before = Sorting.sorted before c.members := by
  obtain ⟨hsorted, hmembers⟩ := h
  unfold list lacksOrder
  cases hms : c.members with
  | nil => exact (Sorting.sorted_nil before).symm
  | cons m ms =>
    rw [hms] at hmembers
    have hsome : hasNaturalOrder (m :: ms) c.config.elementType = true := by simpa using hmembers
    rw [hsorted, hsome]
    rfl

namespace Lawful

/-- The members of a lawful set that is listed in natural order are all numbers or all texts. -/
theorem ofOneOrder (hc : c.Lawful) (h : c.ListsNaturally) : Value.OfOneOrder c.members := by
  rcases h.2 with hnil | horder
  · rw [hnil]
    exact .inl (by simp)
  · refine Value.ofOneOrder_of_hasNaturalOrder hc.hashable (fun t ht v hv => ?_) horder
    have htaken := hc.taken v hv
    unfold takes at htaken
    rwa [ht] at htaken

/-- Listing a lawful set succeeds. -/
theorem exists_list (hc : c.Lawful) (s : Session) :
    ∃ ys, c.list (s.isOrdered .less) = .ok ys := by
  by_cases h : c.ListsNaturally
  · rw [list_of_listsNaturally h]
    exact Sorting.exists_sorted (s.exists_isOrdered (hc.ofOneOrder h) .less)
  · exact ⟨c.members, list_of_not_listsNaturally h _⟩

/-- A lawful set that is listed in natural order is listed in strictly ascending order of rank. -/
theorem list_ascends (hc : c.Lawful) (h : c.ListsNaturally)
    (hnan : ∀ m ∈ c.members, m.isNan = false) {s : Session} {ys : List Value}
    (hys : c.list (s.isOrdered .less) = .ok ys) :
    ys.Pairwise fun x y => x.rank < y.rank := by
  have horder := hc.ofOneOrder h
  rw [list_of_listsNaturally h] at hys
  obtain ⟨zs, hzs, harranges⟩ := Sorting.sorted_arranges (s.isOrdered_less_eq horder hnan)
  cases hys.symm.trans hzs
  have hranked : ∀ y ∈ ys, y.IsRanked := fun y hy =>
    horder.isRanked hnan y ((harranges.mem_iff y).1 hy)
  have hdistinct : ys.Pairwise fun x y => x.sameKey y = false :=
    (Sorting.perm_of_sorted hzs).symm.pairwise hc.distinct fun {x y} hxy =>
      (Value.sameKey_comm y x).trans hxy
  refine (hdistinct.and harranges.ascends).imp_of_mem fun {x y} hx hy hxy => ?_
  refine lt_of_le_of_ne hxy.2 fun hrank => ?_
  rw [(Value.sameKey_iff_rank (hranked x hx) (hranked y hy)).2 hrank] at hxy
  cases hxy.1

/-- A lawful set of which members are put in another order is lawful and equal to it. -/
theorem equal_of_perm (hc : c.Lawful) {ys : List Value} (hys : ys.Perm c.members)
    (same : Sameness) : (c.holding ys).Lawful ∧ c.equal same (c.holding ys) = .ok true ∧
      (c.holding ys).equal same c = .ok true := by
  have hlawful : (c.holding ys).Lawful := by
    refine hc.holding (fun y hy => ?_) ?_
    · exact ⟨hc.taken y (hys.subset hy), hc.hashable y (hys.subset hy)⟩
    · exact hys.symm.pairwise hc.distinct fun {x y} hxy => (Value.sameKey_comm y x).trans hxy
  have hkeys : c.SameKeys (c.holding ys) := by
    refine ⟨rfl, fun x => ?_⟩
    rw [Bool.eq_iff_iff, Value.hasKey_iff, Value.hasKey_iff]
    constructor
    · rintro ⟨m, hm, hmx⟩
      exact ⟨m, hys.symm.subset hm, hmx⟩
    · rintro ⟨m, hm, hmx⟩
      exact ⟨m, hys.subset hm, hmx⟩
  exact ⟨hlawful, hc.equal_of_sameKeys same hlawful hkeys,
    hlawful.equal_of_sameKeys same hc hkeys.symm⟩

/-- A set of the class and the configuration of a lawful one may be made of its members, in any
order. -/
theorem construct_of_perm (hc : c.Lawful) {ys : List Value} (hys : ys.Perm c.members)
    {standIn : Value → StandIn} (hinside : (standIn (.config c.config)).inside? = none)
    (same : Sameness) (identity : Nat) :
    construct same standIn c.cls ys [("config", .config c.config)] identity =
      .ok (c.holding ys) := by
  have hlawful := (hc.equal_of_perm hys same).1
  have hsignature : c.cls.signature.bind (.null :: ys) [("config", .config c.config)] =
      .ok [("self", .null), ("config", .config c.config)] := by
    simp [SetClass.signature, Signature.bind, Signature.bindNamed, Signature.hasParameter,
      Signature.parameters, Signature.needed, hc.keyed, bind, Except.bind, pure, Except.pure]
  have hconfigured : configured standIn c.cls [("config", .config c.config)] identity =
      .ok (c.config, none) := by
    simp [configured, hinside, SetClass.configure_of_fits identity hc.bound, bind, Except.bind,
      pure, Except.pure]
  unfold construct
  rw [hsignature]
  simp only [hconfigured, bind, Except.bind]
  have hempty : (⟨c.cls, c.config, [], none⟩ : Collection) = c.holding [] := by
    rw [← hc.ownConfig]
    rfl
  rw [hempty]
  exact hc.insertedEmpty_eq same (fun y hy => ⟨hlawful.taken y hy, hlawful.hashable y hy⟩)
    hlawful.distinct

end Lawful

theorem list_of_lacksOrder (h : c.lacksOrder = true) (before : Precedence) :
    c.list before = .ok c.members := by
  unfold list
  rw [h, Bool.or_true]
  rfl

/-- Listing a set with a configuration of its own leaves no more than a notice that the natural
order was passed over. -/
theorem outcome_list (hc : c.standIn? = none) (s : Session) :
    Act.outcome (Act.list c) s = (c.list (s.isOrdered .less),
      { s with log := s.log ++ if c.lacksOrder then [Notice.unordered c.cls] else [] }) := by
  have hplain : ∀ t : Session, Act.outcome (do
      MonadExcept.ofExcept (c.list (← Act.precedence)) : Act (List Value)) t =
        (c.list (t.isOrdered .less), t) := by
    intro t
    have hprecedence : Act.outcome Act.precedence t = (.ok (t.isOrdered .less), t) := rfl
    rw [Act.outcome_bind, hprecedence]
    exact Act.outcome_ofExcept _ t
  unfold Act.list Act.listConfigured
  rw [hc]
  dsimp only
  split
  · -- with a notice the members are listed as they are stored, so the order of values is not asked
    rename_i hlacks
    have hnote : Act.outcome (Act.note (.unordered c.cls)) s =
        (.ok (), { s with log := s.log ++ [Notice.unordered c.cls] }) := rfl
    rw [Act.outcome_bind, hnote]
    dsimp only
    rw [hplain, list_of_lacksOrder hlacks, list_of_lacksOrder hlacks]
  · rw [hplain, List.append_nil]

namespace Lawful

/-- The keys of two equal lawful sets are the same, whatever their element types are. -/
theorem hasKey_of_equal (hc : c.Lawful) (hd : d.Lawful) {same : Sameness}
    (h : c.equal same d = .ok true) :
    (∀ m ∈ c.members, Value.hasKey m d.members = true) ∧
      ∀ n ∈ d.members, Value.hasKey n c.members = true := by
  rw [hc.equal_eq same hd, Except.ok.injEq, Bool.and_eq_true, beq_iff_eq, List.all_eq_true] at h
  have hback : ∀ n ∈ d.members, Value.hasKey n c.members = true := fun n hn =>
    hasKey_of_holds (h.2 n hn)
  exact ⟨Members.hasKey_of_length_le hd.distinct hback (Nat.le_of_eq h.1), hback⟩

/-- Equal sets that are listed in natural order are listed alike by rank. -/
theorem map_rank_list_eq (hc : c.Lawful) (hd : d.Lawful) (hcnatural : c.ListsNaturally)
    (hdnatural : d.ListsNaturally) (hcnan : ∀ m ∈ c.members, m.isNan = false)
    (hdnan : ∀ n ∈ d.members, n.isNan = false) {same : Sameness} (h : c.equal same d = .ok true)
    {s t : Session} {ys zs : List Value} (hys : c.list (s.isOrdered .less) = .ok ys)
    (hzs : d.list (t.isOrdered .less) = .ok zs) : ys.map Value.rank = zs.map Value.rank := by
  have hyperm := Collection.perm_of_list hys
  have hzperm := Collection.perm_of_list hzs
  obtain ⟨hforth, hback⟩ := hc.hasKey_of_equal hd h
  have hcranked := (hc.ofOneOrder hcnatural).isRanked hcnan
  have hdranked := (hd.ofOneOrder hdnatural).isRanked hdnan
  have hyascends := List.pairwise_map.2 (hc.list_ascends hcnatural hcnan hys)
  have hzascends := List.pairwise_map.2 (hd.list_ascends hdnatural hdnan hzs)
  refine hyascends.eq_of_mem_iff hzascends fun r => ?_
  simp only [List.mem_map]
  constructor
  · rintro ⟨y, hy, rfl⟩
    obtain ⟨n, hn, hny⟩ := Value.hasKey_iff.1 (hforth y (hyperm.subset hy))
    exact ⟨n, hzperm.symm.subset hn,
      (Value.sameKey_iff_rank (hdranked n hn) (hcranked y (hyperm.subset hy))).1 hny⟩
  · rintro ⟨z, hz, rfl⟩
    obtain ⟨m, hm, hmz⟩ := Value.hasKey_iff.1 (hback z (hzperm.subset hz))
    exact ⟨m, hyperm.symm.subset hm,
      (Value.sameKey_iff_rank (hcranked m hm) (hdranked z (hzperm.subset hz))).1 hmz⟩

end Lawful

/-- Listing a set of a reachable session succeeds and leaves the session as it is, but for a notice
where the natural order is passed over. The list rearranges the members, so a set of the same class
and configuration may be made of it, which is equal. It is the order of storage if the set is not
listed in natural order, and else, without not-a-numbers, strictly ascending. Two such sets that are
equal are listed alike, item by item, though they may belong to different sessions. -/
theorem listing_decided {s : Session} (hs : s.IsReachable) (hc : c ∈ s.collections)
    (hkeyed : c.cls.isKeyed = true) :
    ∃ ys, Act.outcome (Act.list c) s = (.ok ys,
        { s with log := s.log ++ if c.lacksOrder then [Notice.unordered c.cls] else [] }) ∧
      ys.Perm c.members ∧
      (∀ identity, construct s.sameness s.standIn c.cls ys [("config", .config c.config)] identity =
          .ok (c.holding ys)) ∧
      (∀ same, c.equal same (c.holding ys) = .ok true ∧
        (c.holding ys).equal same c = .ok true) ∧
      (¬c.ListsNaturally → ys = c.members) ∧
      (c.ListsNaturally → (∀ m ∈ c.members, m.isNan = false) →
        ys.Pairwise (fun x y => s.isOrdered .less x y = .ok true) ∧
        ∀ (t : Session) (d : Collection), t.IsReachable → d ∈ t.collections →
          d.cls.isKeyed = true → d.ListsNaturally → (∀ n ∈ d.members, n.isNan = false) →
          ∀ same, c.equal same d = .ok true →
            ∃ zs u, Act.outcome (Act.list d) t = (.ok zs, u) ∧ ys.length = zs.length ∧
              List.Forall₂ (fun y z => Value.equals s.sameness y z = .ok true) ys zs) := by
  have hlawful : c.Lawful := Collection.IsReachable.lawful ⟨s, hs, hc, hkeyed⟩
  obtain ⟨ys, hys⟩ := hlawful.exists_list s
  have hperm := Collection.perm_of_list hys
  have hinside : (s.standIn (.config c.config)).inside? = none := hs.sound.inside?_eq c.config
  refine ⟨ys, ?_, hperm, fun identity => hlawful.construct_of_perm hperm hinside _ identity,
    fun same => (hlawful.equal_of_perm hperm same).2, fun hnot => ?_, fun hnatural hnan => ⟨?_, ?_⟩⟩
  · rw [outcome_list hlawful.ownConfig, hys]
  · rw [list_of_not_listsNaturally hnot, Except.ok.injEq] at hys
    exact hys.symm
  · have hless := s.isOrdered_less_eq (hlawful.ofOneOrder hnatural) hnan
    refine (hlawful.list_ascends hnatural hnan hys).imp_of_mem fun {x y} hx hy hxy => ?_
    rw [hless x (hperm.subset hx) y (hperm.subset hy), decide_eq_true hxy]
  · intro t d ht hd hdkeyed hdnatural hdnan same hequal
    have hdlawful : d.Lawful := Collection.IsReachable.lawful ⟨t, ht, hd, hdkeyed⟩
    obtain ⟨zs, hzs⟩ := hdlawful.exists_list t
    have hmap := hlawful.map_rank_list_eq hdlawful hnatural hdnatural hnan hdnan hequal hys hzs
    have hcranked := (hlawful.ofOneOrder hnatural).isRanked hnan
    have hdranked := (hdlawful.ofOneOrder hdnatural).isRanked hdnan
    refine ⟨zs, _, by rw [outcome_list hdlawful.ownConfig, hzs], ?_, ?_⟩
    · simpa using congrArg List.length hmap
    · exact forall₂_of_map_eq hmap fun y hy z hz hyz =>
        s.equals_of_rank_eq (hcranked y (hperm.subset hy))
          (hdranked z ((Collection.perm_of_list hzs).subset hz)) hyz

/-- Two levels are listed alike from a set of whole numbers and from an unrestricted set to which
they were added the other way round. -/
theorem listing_decided_of_levels :
    let s := (({} : Session).after
      { step := .construct .inMemory, args := [.level .mid, .level .low] }).after
      { step := .construct .int, args := [.level .low, .level .mid] }
    let c : Collection :=
      ⟨.inMemory, { identity := 1, settings := {} }, [.level .mid, .level .low], none⟩
    let d : Collection :=
      ⟨.int, { identity := 2, settings := { elementType := some .int } },
        [.level .low, .level .mid], none⟩
    ∃ ys zs t u, Act.outcome (Act.list c) s = (.ok ys, t) ∧
      Act.outcome (Act.list d) s = (.ok zs, u) ∧
      ys.Perm [.level .mid, .level .low] ∧
      ys.Pairwise (fun x y => s.isOrdered .less x y = .ok true) ∧
      List.Forall₂ (fun y z => Value.equals s.sameness y z = .ok true) ys zs := by
  intro s c d
  have hs : s.IsReachable :=
    .step (.step .refl (Instruction.isPlain_of_no_config (by decide) hasPlainConfig_nil))
      (Instruction.isPlain_of_no_config (by decide) hasPlainConfig_nil)
  have hcollections : s.collections = [c, d] := rfl
  have hc : c ∈ s.collections := by simp [hcollections]
  have hd : d ∈ s.collections := by simp [hcollections]
  have hcnatural : c.ListsNaturally := ⟨rfl, .inr rfl⟩
  have hdnatural : d.ListsNaturally := ⟨rfl, .inr rfl⟩
  have hcnan : ∀ m ∈ c.members, m.isNan = false := by decide
  have hdnan : ∀ n ∈ d.members, n.isNan = false := by decide
  obtain ⟨ys, hys, hperm, -, -, -, hnatural⟩ := listing_decided hs hc rfl
  obtain ⟨hascends, halike⟩ := hnatural hcnatural hcnan
  obtain ⟨zs, u, hzs, -, hsame⟩ := halike s d hs hd rfl hdnatural hdnan Sameness.byKey rfl
  exact ⟨ys, zs, _, u, hys, hzs, hperm, hascends, hsame⟩

end Collection

end ValueSets
