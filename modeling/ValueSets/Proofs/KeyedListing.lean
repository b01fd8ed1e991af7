import ValueSets.Proofs.Listing
import ValueSets.Proofs.Requests
import ValueSets.Proofs.Sorting.Keys

/-!
# Listing by a key

The keys of all members are computed first, in the order of storage, so a listing fails with the
fault of the first member that has no key. Where the comparison orders the keys, the listing is the
one stably sorted arrangement of the members (`Sorting.StablySorted`). Nothing but the members is
looked at, and nothing is left in the session.

Numbers without the not-a-numbers, and texts, are ordered (`Session.orders_of_ofOneOrder`). So the
natural order of a set is what its members have as their own keys, and a key that does not tell
members apart leaves them as they are stored. `Collection.listing_by_key_decided` puts this
together.
-/

set_option autoImplicit false

namespace ValueSets

open Session Act Fallible

/-- The place of a sort key in the natural order, if it is a number or a text. -/
def SortKey.rank : SortKey → Lex (WithBot (WithTop ℚ) ⊕ String)
  | .value v => v.rank
  | .filled _ _ | .narrowedType _ => Value.rank .null

namespace Session

variable {s : Session} {vs : List Value}

/-- Values of one order are compared by rank as sort keys, too. -/
theorem lessThan_value_eq (h : Value.OfOneOrder vs) (hnan : ∀ v ∈ vs, v.isNan = false)
    (s : Session) : ∀ v ∈ vs, ∀ w ∈ vs,
      SortKey.lessThan (s.isOrdered .less) (.value v) (.value w) =
        .ok (decide ((SortKey.value v).rank < (SortKey.value w).rank)) :=
  s.isOrdered_less_eq h hnan

/-- Numbers without the not-a-numbers, and texts, are totally preordered. -/
theorem orders_of_ofOneOrder (h : Value.OfOneOrder vs) (hnan : ∀ v ∈ vs, v.isNan = false)
    (s : Session) : Sorting.Orders (SortKey.lessThan (s.isOrdered .less)) (vs.map .value) := by
  refine Sorting.Orders.of_linearOrder (f := SortKey.rank) fun k hk l hl => ?_
  obtain ⟨v, hv, rfl⟩ := List.mem_map.1 hk
  obtain ⟨w, hw, rfl⟩ := List.mem_map.1 hl
  exact s.lessThan_value_eq h hnan v hv w hw

/-- The named sort keys of hashable values leave an untouched session alone. -/
theorem outcome_key (hs : s.Untouched) {v : Value} (hv : v.isHashable = true) (f : KeyFunction) :
    outcome (f.apply print sizeOf Act.look (Act.fieldOf "value") v) s = (f.ofSimple v, s) := by
  obtain ⟨known, hknown⟩ := Value.exists_simple hv
  exact f.outcome_apply hs hknown

/-- A request to list a set by a named key answers with a new list, and leaves nothing else. -/
theorem outcome_listOf_key (hs : s.Sound) {on : String} {h : Handle} (hon : s.Holds on h)
    (f : KeyFunction) :
    outcome (Act.listOf on (some f)) s =
      match (s.collection h).listBy (SortKey.lessThan (s.isOrdered .less)) f.ofSimple with
      | .ok ys => (.ok (.box ⟨s.contents.length, .list⟩),
          { s with contents := s.contents ++ [.list ys] })
      | .error fault => (.error fault, s) := by
  have hprecedence : outcome Act.precedence s = (.ok (s.isOrdered .less), s) := rfl
  have hlist := outcome_listBy_of_keys (c := s.collection h)
    (fun m hm => outcome_key hs.untouched ((hon.lawful hs).hashable m hm) f)
    (SortKey.lessThan (s.isOrdered .less))
  unfold listOf
  rw [outcome_bind_of_ok (outcome_calledOf hs.untouched hon.value "list")]
  dsimp only
  rw [outcome_bind_of_ok hprecedence, outcome_bind_of_ok (outcome_fetch h s), outcome_bind, hlist]
  cases (s.collection h).listBy (SortKey.lessThan (s.isOrdered .less)) f.ofSimple <;> rfl

end Session

namespace Collection

variable {c : Collection} {κ : Type} {before : κ → κ → Except Fault Bool}
  {key? : Value → Except Fault κ}

/-- A listing by a key is the sort of the members with their keys. -/
theorem listBy_eq (before : κ → κ → Except Fault Bool) (key? : Value → Except Fault κ)
    (c : Collection) :
    c.listBy before key? =
      (c.members.mapM fun m => key? m >>= fun k => pure (k, m)) >>= Sorting.sortedByKey before := by
  have hplain : ∀ e : Except Fault (List Value),
      (MonadExcept.ofExcept e : Except Fault (List Value)) = e := by
    intro e
    cases e <;> rfl
  unfold listBy
  simp only [hplain]

theorem outcome_listBy_of_pure (before : κ → κ → Except Fault Bool) (key : Value → κ)
    (c : Collection) (s : Session) :
    outcome (c.listBy before fun m => (pure (key m) : Act κ)) s =
      (c.listBy before fun m => (.ok (key m) : Except Fault κ), s) := by
  have hkey : ∀ m ∈ c.members, outcome (pure (key m)) s = (.ok (key m), s) := fun _ _ => rfl
  exact outcome_listBy_of_keys hkey before

/-- A listing fails with the fault of the first member that has no key. -/
theorem listBy_of_error (h : ∃ m ∈ c.members, ∃ fault, key? m = .error fault) :
    ∃ front m back fault, c.members = front ++ m :: back ∧
      (∀ x ∈ front, ∃ k, key? x = .ok k) ∧ key? m = .error fault ∧
      c.listBy before key? = .error fault := by
  have hkeyed : ∀ m fault,
      (key? m >>= fun k => (pure (k, m) : Except Fault (κ × Value))) = .error fault ↔
        key? m = .error fault := by
    intro m fault
    rw [bind_eq_error]
    simp [pure, Except.pure]
  obtain ⟨front, m, back, fault, hmembers, hfront, hm, hwalk⟩ :=
    exists_first_error (f := fun m => key? m >>= fun k => pure (k, m))
      (by simpa only [hkeyed] using h)
  refine ⟨front, m, back, fault, hmembers, fun x hx => ?_, (hkeyed m fault).1 hm, ?_⟩
  · obtain ⟨entry, hentry⟩ := hfront x hx
    obtain ⟨k, hk, -⟩ := bind_eq_ok.1 hentry
    exact ⟨k, hk⟩
  · rw [listBy_eq, hwalk]
    rfl

/-- A listing by keys that are ordered arranges the members stably. -/
theorem exists_listBy {key : Value → κ} (hkey : ∀ m ∈ c.members, key? m = .ok (key m))
    (h : Sorting.Orders before (c.members.map key)) :
    ∃ ys, c.listBy before key? = .ok ys ∧ Sorting.StablySorted before key c.members ys := by
  obtain ⟨ys, hys, hsorted⟩ := Sorting.exists_sortedByKey h
  refine ⟨ys, ?_, hsorted⟩
  have hwalk : (c.members.mapM fun m => key? m >>= fun k => pure (k, m)) =
      .ok (c.members.map fun m => (key m, m)) := by
    refine mapM_eq_ok fun m hm => ?_
    rw [hkey m hm]
    rfl
  rw [listBy_eq, hwalk]
  exact hys

/-- A set that is listed in natural order does not have to pass over it. -/
theorem lacksOrder_of_listsNaturally (h : c.ListsNaturally) : c.lacksOrder = false := by
  unfold lacksOrder
  rcases h.2 with hnil | horder
  · rw [hnil]
    rfl
  · rw [horder]
    simp

/-- A key that does not tell members apart leaves them as they are stored. -/
theorem listBy_constant {k : κ} (hk : before k k = .ok false) (c : Collection) :
    c.listBy before (fun _ => (.ok k : Except Fault κ)) = .ok c.members := by
  have hsame : ∀ l ∈ c.members.map fun _ => k, l = k := fun l hl => by
    obtain ⟨-, -, rfl⟩ := List.mem_map.1 hl
    rfl
  have horders : Sorting.Orders before (c.members.map fun _ => k) := by
    refine Sorting.Orders.of_linearOrder (f := fun _ => 0) fun l hl l' hl' => ?_
    rw [hsame l hl, hsame l' hl', hk]
    rfl
  obtain ⟨ys, hys, hsorted⟩ := exists_listBy (fun _ _ => rfl) horders
  have hstored : Sorting.StablySorted before (fun _ => k) c.members c.members :=
    ⟨List.Perm.refl _, List.pairwise_of_forall fun _ _ => Sorting.precedes_eq hk, fun _ _ => rfl⟩
  rw [hys, Sorting.StablySorted.unique horders hsorted hstored]

namespace Lawful

/-- A lawful set that is listed in natural order is listed so by its members as keys. -/
theorem listBy_identity (hc : c.Lawful) (h : c.ListsNaturally)
    (hnan : ∀ m ∈ c.members, m.isNan = false) (s : Session) :
    ∃ ys, c.list (s.isOrdered .less) = .ok ys ∧
      c.listBy (SortKey.lessThan (s.isOrdered .less))
        (fun m => (.ok (.value m) : Except Fault SortKey)) = .ok ys := by
  have horder := hc.ofOneOrder h
  have hless := s.isOrdered_less_eq horder hnan
  obtain ⟨ys, hys, harranges⟩ := Sorting.sorted_arranges hless
  have hnatural : Sorting.StablySorted (SortKey.lessThan (s.isOrdered .less)) .value c.members ys :=
    (Sorting.stablySorted_iff (f := SortKey.rank) (Sorting.perm_of_sorted hys)
      (s.lessThan_value_eq horder hnan)).2 harranges
  have horders := s.orders_of_ofOneOrder horder hnan
  obtain ⟨zs, hzs, hsorted⟩ := exists_listBy (fun _ _ => rfl) horders
  refine ⟨ys, by rw [list_of_listsNaturally h, hys], ?_⟩
  rw [hzs, Sorting.StablySorted.unique horders hsorted hnatural]

end Lawful

/-- Listing a set of a reachable session by a key. If some member has no key, the listing ends with
the fault of the first such member, and the session is as it was. If the comparison orders the keys,
the listing arranges the members stably, and there is one such arrangement; another set with the
same members is listed alike, whatever its class and configuration are, and the session is as it
was. Sort keys that are numbers without the not-a-numbers, or texts, are ordered. Where the set is
listed in natural order by itself, and has no not-a-number, it is listed so by its members as keys,
and by a constant key it is listed as it is stored. A request with a named key is one of these
listings, and answers with a new list. -/
theorem listing_by_key_decided {s : Session} (hs : s.IsReachable) {c : Collection}
    (hc : c ∈ s.collections) (hkeyed : c.cls.isKeyed = true) :
    (∀ {κ : Type} (before : κ → κ → Except Fault Bool) (key : Value → Act κ)
        (key? : Value → Except Fault κ),
      (∀ m ∈ c.members, outcome (key m) s = (key? m, s)) →
      ((∃ m ∈ c.members, ∃ fault, key? m = .error fault) →
        ∃ front m back fault, c.members = front ++ m :: back ∧
          (∀ x ∈ front, ∃ k, key? x = .ok k) ∧ key? m = .error fault ∧
          outcome (c.listBy before key) s = (.error fault, s)) ∧
      (∀ k : Value → κ, (∀ m ∈ c.members, key? m = .ok (k m)) →
        Sorting.Orders before (c.members.map k) →
        ∃ ys, Sorting.StablySorted before k c.members ys ∧
          (∀ zs, Sorting.StablySorted before k c.members zs → zs = ys) ∧
          ∀ d : Collection, d.members = c.members →
            outcome (d.listBy before key) s = (.ok ys, s))) ∧
    (∀ ks : List Value, Value.OfOneOrder ks → (∀ k ∈ ks, k.isNan = false) →
      Sorting.Orders (SortKey.lessThan (s.isOrdered .less)) (ks.map .value)) ∧
    (c.ListsNaturally → (∀ m ∈ c.members, m.isNan = false) →
      ∃ ys, outcome (Act.list c) s = (.ok ys, s) ∧
        outcome (c.listBy (SortKey.lessThan (s.isOrdered .less))
          fun m => (pure (.value m) : Act SortKey)) s = (.ok ys, s)) ∧
    (∀ {κ : Type} (before : κ → κ → Except Fault Bool) (k : κ), before k k = .ok false →
      outcome (c.listBy before fun _ => (pure k : Act κ)) s = (.ok c.members, s)) ∧
    ∀ (on : String) (h : Handle) (f : KeyFunction), s.Holds on h → s.collection h = c →
      (∀ m ∈ c.members, outcome (f.apply print sizeOf look (fieldOf "value") m) s =
        (f.ofSimple m, s)) ∧
      outcome (Act.listOf on (some f)) s =
        match c.listBy (SortKey.lessThan (s.isOrdered .less)) f.ofSimple with
        | .ok ys => (.ok (.box ⟨s.contents.length, .list⟩),
            { s with contents := s.contents ++ [.list ys] })
        | .error fault => (.error fault, s) := by
  have hlawful : c.Lawful := Collection.IsReachable.lawful ⟨s, hs, hc, hkeyed⟩
  refine ⟨fun before key key? hkey => ⟨fun herror => ?_, fun k hk horders => ?_⟩,
    fun ks hks hnan => s.orders_of_ofOneOrder hks hnan, fun hnatural hnan => ?_,
    fun before k hk => ?_, fun on h f hon hset => ⟨fun m hm => ?_, ?_⟩⟩
  · obtain ⟨front, m, back, fault, hmembers, hfront, hm, hlist⟩ := listBy_of_error herror
    refine ⟨front, m, back, fault, hmembers, hfront, hm, ?_⟩
    rw [outcome_listBy_of_keys hkey, hlist]
  · obtain ⟨ys, hys, hsorted⟩ := exists_listBy hk horders
    refine ⟨ys, hsorted, fun zs => Sorting.StablySorted.unique horders hsorted, fun d hd => ?_⟩
    have hlist : d.listBy before key? = c.listBy before key? := by
      rw [listBy_eq, listBy_eq, hd]
    rw [outcome_listBy_of_keys (hd ▸ hkey), hlist, hys]
  · obtain ⟨ys, hys, hidentity⟩ := hlawful.listBy_identity hnatural hnan s
    refine ⟨ys, ?_, ?_⟩
    · rw [outcome_list hlawful.ownConfig, hys, lacksOrder_of_listsNaturally hnatural]
      simp
    · rw [outcome_listBy_of_pure, hidentity]
  · rw [outcome_listBy_of_pure, listBy_constant hk]
  · exact outcome_key hs.sound.untouched (hlawful.hashable m hm) f
  · rw [← hset]
    exact outcome_listOf_key hs.sound hon f

/-- Three levels are listed by their remainders by three, of which two are the same. -/
theorem listing_by_key_decided_of_levels :
    let s := ({} : Session).after
      { step := .construct .inMemory, args := [.level .mid, .level .high, .level .low] }
    let c : Collection :=
      ⟨.inMemory, { identity := 1, settings := {} }, [.level .mid, .level .high, .level .low], none⟩
    outcome (c.listBy (SortKey.lessThan (s.isOrdered .less))
      (KeyFunction.modThree.apply print sizeOf look (fieldOf "value"))) s =
        (.ok [.level .high, .level .low, .level .mid], s) := by
  intro s c
  have hs : s.IsReachable :=
    .step .refl (Instruction.isPlain_of_no_config (by decide) hasPlainConfig_nil)
  have hcollections : s.collections = [c] := rfl
  have hc : c ∈ s.collections := by simp [hcollections]
  obtain ⟨hkeys, horders, -⟩ := listing_by_key_decided hs hc rfl
  have hhash : ∀ m ∈ c.members, m.isHashable = true := by decide
  let remainder : Value → Value := fun m => .int ((m.whole?.getD 0).fmod 3)
  obtain ⟨-, hsorted⟩ := hkeys (SortKey.lessThan (s.isOrdered .less)) _ _
    fun m hm => outcome_key hs.sound.untouched (hhash m hm) .modThree
  have hremainders : Sorting.Orders (SortKey.lessThan (s.isOrdered .less))
      (c.members.map fun m => .value (remainder m)) :=
    horders [.int 2, .int 1, .int 1] (.inl (by decide)) (by decide)
  obtain ⟨ys, -, hunique, hlist⟩ := hsorted (fun m => .value (remainder m)) (by
    intro m hm
    simp only [c, List.mem_cons, List.not_mem_nil, or_false] at hm
    rcases hm with rfl | rfl | rfl <;> rfl) hremainders
  have hperm : ([.level .high, .level .low] ++ [.level .mid] : List Value).Perm c.members :=
    List.perm_append_comm
  have hys : [.level .high, .level .low, .level .mid] = ys := by
    refine hunique _ ⟨hperm, ?_, fun x hx => ?_⟩
    · decide
    · simp only [c, List.mem_cons, List.not_mem_nil, or_false] at hx
      rcases hx with rfl | rfl | rfl <;> rfl
  rw [hys]
  exact hlist c rfl

end Collection

end ValueSets
