import ValueSets.Proofs.Session.Sound
import ValueSets.Proofs.Sorting.Permutation
import ValueSets.Value.KeyLaws

/-!
# Making and reading values

Making objects, listing sets, walking values and printing them leaves the sets and the variables of
a sound session alone, and what they find or make is grounded. Since nothing in such a session has
fields of its own, a value has an operation exactly if its type does.
-/

set_option autoImplicit false

namespace ValueSets

open Session Value

/-- Listing a set rearranges its members. -/
theorem Collection.perm_of_list {c : Collection} {before : Precedence} {vs : List Value}
    (h : c.list before = .ok vs) : vs.Perm c.members := by
  unfold list at h
  split at h
  · cases h
    exact List.Perm.refl _
  · exact Sorting.perm_of_sorted h

namespace Act

variable {s : Session} {h : Handle} {v : Value} {vs : List Value}

/-! ## Objects -/

theorem quiet_fetch (hh : (Value.handle h).Grounded s.classes) :
    Quiet s (fetch h) (s.Behind h) := by
  unfold fetch
  exact quiet_get.bind fun t ht => quiet_pure (ht.behind hh)

theorem quiet_look (hv : v.Grounded s.classes) : Quiet s (look v) (Grounded s.classes) := by
  unfold look
  refine quiet_get.bind fun t ht => quiet_pure ?_
  rw [← ht.classes_eq] at hv ⊢
  exact ht.sound.look hv

theorem quiet_change (b : Box) (hv : v.Grounded s.classes) (hcontent : v.isContent = true) :
    Quiet s (change b v) fun _ => True := by
  refine quiet_modify fun t ht => ?_
  have hchange := ht.change b hv hcontent
  rw [hchange.sound.described_eq]
  exact hchange

theorem quiet_sameness : Quiet s sameness fun _ => True :=
  quiet_get.bind fun _ _ => quiet_pure trivial

theorem quiet_precedence : Quiet s precedence fun _ => True :=
  quiet_get.bind fun _ _ => quiet_pure trivial

theorem quiet_freshIdentity : Quiet s freshIdentity fun identity => 0 < identity :=
  quiet_modifyGet fun _ ht => ⟨ht.withIdentity (Nat.succ_pos _), ht.sound.positive⟩

theorem quiet_note (n : Notice) : Quiet s (note n) fun _ => True :=
  quiet_modify fun t ht => ht.withLog (t.log ++ [n])

/-- A new object is grounded if its content is, and is no set if that is none. -/
theorem quiet_create (hv : v.NoSet s.classes) : Quiet s (create v) (NoSet s.classes) := by
  obtain ⟨hground, hset⟩ := hv
  have hbox : ∀ w : Value, w.Grounded s.classes → w.isContent = true →
      Quiet s (modifyGet fun t : Session =>
        (.box ⟨t.contents.length, w.typeOf⟩, { t with contents := t.contents ++ [w] }))
        (NoSet s.classes) := by
    intro w hw hcontent
    refine quiet_modifyGet fun t ht => ⟨ht.withContents fun x hx => ?_,
      noSet_of_no_references rfl⟩
    rcases List.mem_append.1 hx with hx | hx
    · exact .inl hx
    · exact .inr (List.mem_singleton.1 hx ▸ ⟨hw, hcontent⟩)
  unfold create
  split
  case h_4 =>
    refine quiet_freshIdentity.bind fun identity _ => quiet_pure ⟨?_, fun h => ?_⟩
    · exact (grounded_withIdentity identity).2 hground
    · cases v with
      | handle k => exact absurd rfl (hset k)
      | _ => simp [withIdentity]
  all_goals exact hbox _ hground rfl

theorem quiet_fresh (hv : v.NoSet s.classes) : Quiet s (fresh v) (NoSet s.classes) := by
  unfold fresh
  split
  · exact quiet_pure hv
  · exact quiet_create hv

/-- A new number is a number. -/
theorem quiet_freshNumber (hv : v.isNumber = true) : Quiet s (fresh v) fun w => w.isNumber := by
  unfold fresh
  split
  · exact quiet_pure hv
  · cases v with
    | int | fraction => exact quiet_freshIdentity.bind fun _ _ => quiet_pure rfl
    | _ => cases hv

theorem quiet_freshList (hvs : AllGrounded s.classes vs) :
    Quiet s (fresh (.list vs)) (NoSet s.classes) :=
  quiet_fresh ⟨grounded_list.2 hvs, by simp⟩

/-! ## Lists -/

theorem quiet_listConfigured (c : Collection) :
    Quiet s (listConfigured c) fun vs => vs ⊆ c.members := by
  have hlist : Quiet s (do MonadExcept.ofExcept (c.list (← precedence)) : Act (List Value))
      fun vs => vs ⊆ c.members := by
    refine quiet_precedence.bind fun before _ => quiet_ofExcept fun vs hvs => ?_
    exact (Collection.perm_of_list hvs).subset
  unfold listConfigured
  split
  · exact (quiet_note _).bind fun _ _ => hlist
  · exact hlist

theorem quiet_list {c : Collection} (hc : c.standIn? = none) :
    Quiet s (list c) fun vs => vs ⊆ c.members := by
  unfold list
  rw [hc]
  exact quiet_listConfigured c

/-! ## Names -/

/-- Nothing has a field of its own. -/
theorem quiet_ownField? (v : Value) (name : String) : Quiet s (ownField? v name) (· = none) := by
  unfold ownField?
  refine quiet_get.bind fun t ht => ?_
  split
  · rename_i c
    rw [ht.sound.inside?_eq]
    exact quiet_pure rfl
  · rename_i hv
    rw [ht.sound.ownFields_eq hv]
    exact quiet_pure rfl

theorem quiet_fieldOf (name : String) (v : Value) {p : Value → Prop} :
    Quiet s (fieldOf name v) p := by
  unfold fieldOf
  refine (quiet_ownField? v name).bind fun own hown => ?_
  rw [hown]
  exact quiet_throw _

theorem quiet_checkCall (v : Value) (name : String) :
    Quiet s (checkCall v name) fun _ => True := by
  unfold checkCall
  refine (quiet_ownField? v name).bind fun own hown => ?_
  rw [hown]
  exact quiet_pure trivial

theorem quiet_failCall {α : Type} {p : α → Prop} (v : Value) (name : String) (fault : Fault) :
    Quiet s (failCall v name fault) p := by
  unfold failCall
  exact (quiet_checkCall v name).bind fun _ _ => quiet_throw fault

/-! ## Walks -/

theorem quiet_shownEntries {i : Inside} (hi : i.table.Grounded s.classes) :
    Quiet s (shownEntries i) (EntriesGrounded s.classes) := by
  unfold shownEntries
  refine quiet_get.bind fun t ht => ?_
  rw [← ht.classes_eq] at hi
  have hentries := ht.classes_eq ▸ ht.sound.entries hi
  refine Quiet.mono (quiet_filterM fun e _ => ?_) fun es hes e he => hentries e (hes he)
  exact (quiet_ofExcept fun _ _ => trivial).bind fun _ _ => quiet_pure trivial

theorem quiet_pairs {es : List (Value × Value)} (hes : EntriesGrounded s.classes es) :
    Quiet s (es.mapM fun e => fresh (Value.pair e)) (AllGrounded s.classes) := by
  refine (quiet_mapM (p := NoSet s.classes) fun e he => ?_).mono fun ws hws w hw => (hws w hw).1
  exact quiet_fresh ⟨grounded_pair (hes e he).1 (hes e he).2, by simp [Value.pair]⟩

/-- Both stages of a walk give grounded items. -/
theorem quiet_itemStages (hv : v.Grounded s.classes) :
    Quiet s (itemStages v) fun stages =>
      AllGrounded s.classes stages.1 ∧ Quiet s stages.2 (AllGrounded s.classes) := by
  have hnone : Quiet s (pure [] : Act (List Value)) (AllGrounded s.classes) :=
    quiet_pure allGrounded_nil
  unfold itemStages
  split
  case h_1 h => exact (quiet_fetch hv).bind fun c hc => quiet_pure ⟨hc.members, hnone⟩
  case h_2 | h_3 =>
    -- characters are texts
    refine (quiet_ofExcept (p := fun vs => ∀ w ∈ vs, NoSet s.classes w) ?_).bind fun vs hvs => ?_
    · intro vs hvs w hw
      cases hvs
      obtain ⟨c, -, rfl⟩ := List.mem_map.1 hw
      exact noSet_of_no_references rfl
    · refine (quiet_mapM (p := NoSet s.classes) fun w hw => quiet_fresh (hvs w hw)).bind
        fun ws hws => quiet_pure ⟨fun w hw => (hws w hw).1, hnone⟩
  case h_4 c =>
    refine quiet_get.bind fun t ht => ?_
    have hinside : t.inside c = { table := .table c.entries } := by
      unfold inside
      rw [ht.sound.inside?_eq]
      rfl
    simp only [hinside]
    have htable : (Value.table c.entries).Grounded s.classes :=
      grounded_table.2 (grounded_entries c)
    refine (quiet_shownEntries htable).bind fun es hes => ?_
    refine (quiet_pairs hes).bind fun first hfirst => quiet_pure ⟨hfirst, ?_⟩
    have hfurther : Quiet s (furtherShown { table := .table c.entries })
        (EntriesGrounded s.classes) := by
      unfold furtherShown
      refine quiet_get.bind fun u hu => ?_
      exact quiet_pure fun e he => by cases he
    exact hfurther.bind fun more hmore => quiet_pairs hmore
  case h_5 =>
    refine (quiet_look hv).bind fun w hw => ?_
    exact (quiet_ofExcept fun vs hvs => hw.items hvs).bind fun vs hvs => quiet_pure ⟨hvs, hnone⟩

theorem quiet_items (hv : v.Grounded s.classes) :
    Quiet s (items v) (AllGrounded s.classes) := by
  unfold items
  refine (quiet_itemStages hv).bind fun stages hstages => ?_
  refine hstages.2.bind fun others hothers => quiet_pure ?_
  exact allGrounded_append.2 ⟨hstages.1, hothers⟩

theorem quiet_allItems {isGood : Value → Act Bool} (hv : v.Grounded s.classes)
    (hgood : ∀ w, w.Grounded s.classes → Quiet s (isGood w) fun _ => True) :
    Quiet s (allItems v isGood) fun _ => True := by
  unfold allItems
  refine (quiet_itemStages hv).bind fun stages hstages => ?_
  refine (quiet_allM fun w hw => hgood w (hstages.1 w hw)).bind fun all _ => ?_
  have hothers := hstages.2.bind fun others hothers => quiet_allM fun w hw =>
    hgood w (hothers w hw)
  cases all with
  | true => exact hothers
  | false => exact quiet_pure trivial

/-- The items that are kept of a grounded value are grounded. -/
theorem quiet_filterItems {isGood : Value → Act Bool} (hv : v.Grounded s.classes)
    (hgood : ∀ w, w.Grounded s.classes → Quiet s (isGood w) fun _ => True) :
    Quiet s (filterItems v isGood) (AllGrounded s.classes) := by
  unfold filterItems
  refine (quiet_itemStages hv).bind fun stages hstages => ?_
  refine (quiet_filterM fun w hw => hgood w (hstages.1 w hw)).bind fun kept hkept => ?_
  refine hstages.2.bind fun others hothers => ?_
  refine (quiet_filterM fun w hw => hgood w (hothers w hw)).bind fun more hmore => quiet_pure ?_
  exact allGrounded_append.2 ⟨hstages.1.of_subset hkept, hothers.of_subset hmore⟩

theorem quiet_configContains {c : Config} (hc : c.IsGrounded s.classes) (x : Value) :
    Quiet s (configContains c x) fun _ => True := by
  unfold configContains
  refine quiet_sameness.bind fun same _ => ?_
  refine (quiet_allItems (grounded_config.2 hc) fun w _ => ?_).bind fun _ _ => quiet_pure trivial
  exact (quiet_ofExcept fun _ _ => trivial).bind fun _ _ => quiet_pure trivial

end Act

end ValueSets
