import ValueSets.Collection.Construction
import ValueSets.Collection.Method
import ValueSets.Proofs.Collection.Lawful
import ValueSets.Proofs.Fallible

/-!
# What sets are made of

A set is proper if it has a configuration of its own and, where it keeps its members by key, is
lawful. Every way of making a set leads to a proper one, and every change of a proper set leaves it
proper, whether it succeeds or not: `Collection.Proper.insert`, `Collection.Proper.delete`,
`Collection.Proper.combine` and `Collection.proper_of_construct`. In each case the class and the
configuration are those that the set was derived from, and the members come from the values that
took part, which `Collection.MadeLike` says.
-/

set_option autoImplicit false

namespace ValueSets

open Fallible

/-- A set of a class of either kind, as the library makes it. -/
structure Collection.Proper (c : Collection) : Prop where
  ownConfig : c.standIn? = none
  lawful : c.cls.isKeyed = true → c.Lawful

/-- A proper set of the class and the configuration of another one, with members out of `vs`. -/
structure Collection.MadeLike (c : Collection) (vs : List Value) (d : Collection) : Prop where
  proper : d.Proper
  cls : d.cls = c.cls
  config : d.config = c.config
  members : ∀ m ∈ d.members, m ∈ vs

namespace Scanned

theorem dropFirst_sublist {same : Sameness} {x : Value} {ms ns : List Value}
    (h : dropFirst same x ms = .ok ns) : ns.Sublist ms := by
  induction ms generalizing ns with
  | nil =>
    cases h
    exact List.Sublist.refl []
  | cons m ms ih =>
    unfold dropFirst at h
    obtain ⟨b, -, h⟩ := bind_eq_ok.1 h
    cases b with
    | true =>
      cases h
      exact List.sublist_cons_self m ms
    | false =>
      obtain ⟨rest, hrest, h⟩ := bind_eq_ok.1 h
      cases h
      exact (ih hrest).cons_cons m

/-- Adding to a list changes nothing but the members, which were there or are added. -/
theorem insert_eq_holding (same : Collection → Sameness) (c : Collection) (xs : List Value) :
    ∃ ms, (insert same c xs).2 = c.holding ms ∧ ∀ m ∈ ms, m ∈ c.members ∨ m ∈ xs := by
  induction xs generalizing c with
  | nil => exact ⟨c.members, rfl, fun m hm => .inl hm⟩
  | cons x xs ih =>
    unfold insert
    split
    · exact ⟨c.members, rfl, fun m hm => .inl hm⟩
    · obtain ⟨ms, heq, hms⟩ := ih c
      refine ⟨ms, heq, fun m hm => ?_⟩
      rcases hms m hm with hm | hm
      · exact .inl hm
      · exact .inr (by simp [hm])
    · obtain ⟨ms, heq, hms⟩ := ih (c.holding (c.members ++ [x]))
      refine ⟨ms, heq, fun m hm => ?_⟩
      rcases hms m hm with hm | hm
      · rcases List.mem_append.1 hm with hm | hm
        · exact .inl hm
        · exact .inr (by simp [List.mem_singleton.1 hm])
      · exact .inr (by simp [hm])

/-- Dropping from a list leaves some of its members, in their order. -/
theorem delete_eq_holding (same : Collection → Sameness) (c : Collection) (xs : List Value) :
    ∃ ms, (delete same c xs).2 = c.holding ms ∧ ms.Sublist c.members := by
  induction xs generalizing c with
  | nil => exact ⟨c.members, rfl, List.Sublist.refl _⟩
  | cons x xs ih =>
    unfold delete
    split
    · exact ⟨c.members, rfl, List.Sublist.refl _⟩
    · rename_i members hdrop
      obtain ⟨ms, heq, hms⟩ := ih (c.holding members)
      exact ⟨ms, heq, hms.trans (dropFirst_sublist hdrop)⟩

end Scanned

namespace Collection

variable {c d : Collection} {vs ws : List Value}

theorem Lawful.proper (h : c.Lawful) : c.Proper := ⟨h.ownConfig, fun _ => h⟩

/-- A set that scans its members is proper with any members. -/
theorem proper_of_scanned (hscanned : c.cls.isKeyed = false) (hown : c.standIn? = none) :
    c.Proper := by
  refine ⟨hown, fun hkeyed => ?_⟩
  rw [hscanned] at hkeyed
  cases hkeyed

namespace MadeLike

theorem trans {e : Collection} (hd : c.MadeLike vs d) (he : d.MadeLike ws e)
    (hws : ∀ m ∈ ws, m ∈ d.members ∨ m ∈ vs) : c.MadeLike vs e where
  proper := he.proper
  cls := he.cls.trans hd.cls
  config := he.config.trans hd.config
  members m hm := by
    rcases hws m (he.members m hm) with hm | hm
    · exact hd.members m hm
    · exact hm

theorem mono (hd : c.MadeLike vs d) (hvs : ∀ m ∈ vs, m ∈ ws) : c.MadeLike ws d :=
  ⟨hd.proper, hd.cls, hd.config, fun m hm => hvs m (hd.members m hm)⟩

end MadeLike

namespace Proper

theorem emptied_eq (h : c.Proper) : c.emptied = .ok (c.holding []) := by
  cases hkeyed : c.cls.isKeyed with
  | true => exact (h.lawful hkeyed).emptied_eq
  | false =>
    unfold Collection.emptied SetClass.configure holding
    rw [h.ownConfig, hkeyed]
    rfl

theorem sublist (h : c.Proper) {ms : List Value} (hms : ms.Sublist c.members) :
    c.MadeLike c.members (c.holding ms) := by
  refine ⟨⟨h.ownConfig, fun hkeyed => ?_⟩, rfl, rfl, fun m hm => hms.subset hm⟩
  exact (h.lawful hkeyed).sublist hms

theorem refl (h : c.Proper) : c.MadeLike c.members c :=
  ⟨h, rfl, rfl, fun _ hm => hm⟩

/-- Adding leaves a proper set, also where it fails. -/
theorem insert (h : c.Proper) (same : Collection → Sameness) (xs : List Value) :
    c.MadeLike (c.members ++ xs) (c.insert same xs).2 := by
  cases hkeyed : c.cls.isKeyed with
  | true =>
    have hlawful := h.lawful hkeyed
    rw [hlawful.insert_eq]
    cases hd : Keyed.insert c xs with
    | error fault => exact h.refl.mono fun m hm => List.mem_append_left xs hm
    | ok d =>
      have hprop := (hlawful.keyed_insert hd).proper
      obtain ⟨-, rfl⟩ := Keyed.insert_eq_ok_iff.1 hd
      refine ⟨hprop, rfl, rfl, fun m hm => ?_⟩
      exact List.mem_append.2 (Members.mem_of_mem_addAll hm)
  | false =>
    unfold Collection.insert
    rw [hkeyed]
    obtain ⟨ms, heq, hms⟩ := Scanned.insert_eq_holding same c xs
    rw [if_neg (by simp), heq]
    refine ⟨proper_of_scanned hkeyed h.ownConfig, rfl, rfl, fun m hm => ?_⟩
    exact List.mem_append.2 (hms m hm)

theorem delete (h : c.Proper) (same : Collection → Sameness) (xs : List Value) :
    c.MadeLike c.members (c.delete same xs).2 := by
  cases hkeyed : c.cls.isKeyed with
  | true =>
    rw [(h.lawful hkeyed).delete_eq]
    obtain ⟨ms, hms, heq⟩ := Keyed.delete_sublist c xs
    rw [heq]
    exact h.sublist hms
  | false =>
    unfold Collection.delete
    obtain ⟨ms, heq, hms⟩ := Scanned.delete_eq_holding same c xs
    rw [hkeyed, if_neg (by simp), heq]
    exact h.sublist hms

theorem cleared (h : c.Proper) : c.MadeLike c.members c.cleared := h.sublist (List.nil_sublist _)

/-- Taking out the first member leaves a proper set, also where it fails, and gives a member. -/
theorem popFirst (h : c.Proper) (same : Collection → Sameness) :
    c.MadeLike c.members (c.popFirst same).2 ∧
      ∀ x, (c.popFirst same).1 = .ok (some x) → x ∈ c.members := by
  unfold Collection.popFirst
  cases hms : c.members with
  | nil =>
    have hrefl := h.refl
    rw [hms] at hrefl
    refine ⟨hrefl, fun x hx => ?_⟩
    cases hx
  | cons y ys =>
    have hdelete := h.delete same [y]
    rw [hms] at hdelete
    cases hpair : c.delete same [y] with
    | mk result left =>
      rw [hpair] at hdelete
      cases result with
      | error fault =>
        simp only [hpair]
        refine ⟨hdelete, fun x hx => ?_⟩
        cases hx
      | ok _ =>
        simp only [hpair]
        refine ⟨hdelete, fun x hx => ?_⟩
        cases hx
        simp

/-- Taking out a member leaves a proper set, also where it fails, and gives a member. -/
theorem pop (h : c.Proper) (same : Collection → Sameness) :
    c.MadeLike c.members (c.pop same).2 ∧
      ∀ x, (c.pop same).1 = .ok (some x) → x ∈ c.members := by
  cases hkeyed : c.cls.isKeyed with
  | true =>
    rw [(h.lawful hkeyed).pop_eq]
    refine ⟨h.sublist (List.dropLast_sublist _), fun x hx => ?_⟩
    cases hlast : c.members.getLast? with
    | none => simp [hlast] at hx
    | some y =>
      simp only [hlast, Except.ok.injEq, Option.some.injEq] at hx
      exact hx ▸ List.mem_of_getLast? hlast
  | false =>
    unfold Collection.pop
    rw [hkeyed]
    exact h.popFirst same

variable {same : Sameness}

theorem inserted (h : c.Proper) {xs : List Value} (hd : c.inserted same xs = .ok d) :
    c.MadeLike (c.members ++ xs) d := by
  unfold Collection.inserted at hd
  have hinsert := h.insert (fun _ => same) xs
  split at hd
  · rename_i t heq
    cases hd
    rw [heq] at hinsert
    exact hinsert
  · cases hd

theorem insertedEmpty (h : c.Proper) {xs : List Value}
    (hd : (c.holding []).inserted same xs = .ok d) : c.MadeLike xs d := by
  have hempty := h.sublist (List.nil_sublist c.members)
  obtain ⟨hproper, hcls, hconfig, hmembers⟩ := hempty.proper.inserted hd
  exact ⟨hproper, hcls, hconfig, by simpa using hmembers⟩

theorem like (h : c.Proper) {xs : List Value} (hd : c.like same xs = .ok d) :
    c.MadeLike xs d := by
  unfold Collection.like at hd
  rw [h.emptied_eq] at hd
  exact h.insertedEmpty hd

theorem difference (h : c.Proper) {t : Collection} (hd : c.difference same t = .ok d) :
    c.MadeLike c.members d := by
  unfold Collection.difference at hd
  rw [h.emptied_eq] at hd
  obtain ⟨empty, hempty, hd⟩ := bind_eq_ok.1 hd
  cases hempty
  obtain ⟨kept, hkept, hd⟩ := bind_eq_ok.1 hd
  exact (h.insertedEmpty hd).mono fun m hm => (filterM_sublist hkept).subset hm

theorem intersection (h : c.Proper) {t : Collection} (hd : c.intersection same t = .ok d) :
    c.MadeLike (c.members ++ t.members) d := by
  unfold Collection.intersection at hd
  rw [h.emptied_eq] at hd
  -- the side that is walked gives the members
  simp only [bind, Except.bind] at hd
  split at hd
  · obtain ⟨common, hcommon, hd⟩ := bind_eq_ok.1 hd
    refine (h.insertedEmpty hd).mono fun m hm => ?_
    exact List.mem_append_left _ ((filterM_sublist hcommon).subset hm)
  · obtain ⟨common, hcommon, hd⟩ := bind_eq_ok.1 hd
    refine (h.insertedEmpty hd).mono fun m hm => ?_
    exact List.mem_append_right _ ((filterM_sublist hcommon).subset hm)

theorem copy (h : c.Proper) (hd : c.copy same = .ok d) : c.MadeLike c.members d := by
  unfold Collection.copy at hd
  split at hd
  · rw [h.emptied_eq] at hd
    cases hd
    exact h.refl
  · exact h.like hd

/-- What an operator makes of a proper set and any other one is proper. -/
theorem combine (h : c.Proper) {op : SetOperator} {t : Collection}
    (hd : c.combine same op t = .ok d) : c.MadeLike (c.members ++ t.members) d := by
  have hleft : ∀ m ∈ c.members, m ∈ c.members ++ t.members :=
    fun m hm => List.mem_append_left t.members hm
  have hright : ∀ m ∈ t.members, m ∈ c.members ++ t.members :=
    fun m hm => List.mem_append_right c.members hm
  cases op with
  | union =>
    obtain ⟨copied, hcopied, hd⟩ := bind_eq_ok.1 hd
    have hlike := (h.like hcopied).mono hleft
    refine hlike.trans (hlike.proper.inserted hd) fun m hm => ?_
    exact (List.mem_append.1 hm).imp id (hright m)
  | intersection => exact h.intersection hd
  | difference => exact (h.difference hd).mono hleft
  | symmetricDifference =>
    obtain ⟨left, hdifference, hd⟩ := bind_eq_ok.1 hd
    obtain ⟨others, hothers, hd⟩ := bind_eq_ok.1 hd
    have hlike := (h.difference hdifference).mono hleft
    refine hlike.trans (hlike.proper.inserted hd) fun m hm => ?_
    exact (List.mem_append.1 hm).imp id fun hm => hright m ((filterM_sublist hothers).subset hm)

end Proper

/-! ## Changes that fail -/

/-- Whether dropping elements from a set stopped at `x`, which cannot be hashed, and left exactly
what dropping those before `x` leaves. -/
def DroppedUpTo (xs : List Value) (x : Value) (c d : Collection) : Prop :=
  ∃ before after, xs = before ++ x :: after ∧ c.takes x = true ∧ x.isHashable = false ∧
    ∀ same, c.delete same before = (.ok (), d) ∧ d.delete same [x] = (.error (.unhashable x), d)

/-- What a failing call of a method leaves of a set `c`: where elements were to be dropped and one
of them is what the call fails for, what dropping up to that one leaves, and otherwise `c` itself.
-/
structure LeftBy (m : Method) (xs : List Value) (fault : Fault) (c d : Collection) : Prop where
  dropped : ∀ x, m = .delete → fault = .unhashable x → c.DroppedUpTo xs x d
  kept : (∀ x, m = .delete → fault ≠ .unhashable x) → d = c

/-- A call that fails for no element leaves a set as it is. -/
theorem leftBy_self {m : Method} {fault : Fault} (h : ∀ x, m = .delete → fault ≠ .unhashable x)
    (xs : List Value) (c : Collection) : LeftBy m xs fault c c :=
  ⟨fun x hm hfault => absurd hfault (h x hm), fun _ => rfl⟩

namespace Lawful

variable {same : Collection → Sameness} {fault : Fault}

/-- Where adding by key fails, nothing is added. -/
theorem leftBy_insert (h : c.Lawful) {xs : List Value}
    (hfault : (c.insert same xs).1 = .error fault) :
    LeftBy .insert xs fault c (c.insert same xs).2 := by
  rw [h.insert_eq] at hfault ⊢
  cases hd : Keyed.insert c xs with
  | ok d =>
    rw [hd] at hfault
    cases hfault
  | error _ => exact leftBy_self (fun _ hm => by cases hm) xs c

/-- Where dropping by key fails, the elements before the failing one are dropped. -/
theorem leftBy_delete (h : c.Lawful) {xs : List Value}
    (hfault : (c.delete same xs).1 = .error fault) :
    LeftBy .delete xs fault c (c.delete same xs).2 := by
  have hleft := h.keyed_delete xs
  rw [h.delete_eq] at hfault ⊢
  obtain ⟨before, x, after, hxs, rfl, hhash, htakes, hbefore, hstop⟩ :=
    Keyed.delete_eq_error (Prod.ext hfault rfl)
  refine ⟨fun y _ hy => ?_, fun hnone => absurd rfl (hnone x rfl)⟩
  cases hy
  refine ⟨before, after, hxs, htakes, hhash, fun other => ⟨?_, ?_⟩⟩
  · rw [h.delete_eq]
    exact hbefore
  · rw [hleft.delete_eq]
    exact hstop

end Lawful

namespace Proper

variable {same : Collection → Sameness}

/-- A set that has no member to give up stays as it is. -/
theorem popFirst_none (hnone : (c.popFirst same).1 = .ok none) : (c.popFirst same).2 = c := by
  unfold Collection.popFirst at hnone ⊢
  split
  · rfl
  · rename_i x xs hms
    rw [hms] at hnone
    simp only at hnone
    split at hnone
    all_goals cases hnone

theorem pop_none (h : c.Proper) (hnone : (c.pop same).1 = .ok none) : (c.pop same).2 = c := by
  cases hkeyed : c.cls.isKeyed with
  | true =>
    rw [(h.lawful hkeyed).pop_eq] at hnone ⊢
    simp only [Except.ok.injEq, List.getLast?_eq_none_iff] at hnone
    simp only [hnone, List.dropLast_nil]
    rw [← hnone, holding_self]
  | false =>
    unfold Collection.pop at hnone ⊢
    rw [hkeyed] at hnone ⊢
    exact popFirst_none hnone

end Proper

/-! ## Making sets -/

/-- The element type of settings that were read from values is one whose values can be hashed. -/
theorem isHashable_of_readNamed {named : List (String × Value)} {settings : Settings} {e : Ty}
    (h : Settings.readNamed named = .ok settings) (he : settings.elementType = some e) :
    e.isHashable = true := by
  unfold Settings.readNamed Settings.read at h
  split at h
  · split at h
    · split at h
      · rename_i hhash
        cases h
        cases he
        exact hhash
      · cases h
    · cases h
      cases he
  · cases h

/-- Named options whose configuration, if they give one, is a configuration or absent. -/
def HasPlainConfig (named : List (String × Value)) : Prop :=
  ∀ v, named.lookup "config" = some v → v = .null ∨ ∃ c, v = .config c

theorem hasPlainConfig_nil : HasPlainConfig [] := fun _ hv => by cases hv

variable {standIn : Value → StandIn} {cls : SetClass} {named : List (String × Value)}
  {identity : Nat}

/-- Plain options come to what the class makes of one configuration, and nothing stands in for it.
That one is given, or the shared one, or made of the settings that the options name. -/
theorem exists_of_configured {config : Config} {i : Option StandIn}
    (hnamed : HasPlainConfig named) (hinside : ∀ c, (standIn (.config c)).inside? = none)
    (h : configured standIn cls named identity = .ok (config, i)) :
    i = none ∧ ∃ given, cls.configure given identity = .ok config ∧
      (named.lookup "config" = some (.config given) ∨ given = Config.shared ∨
        ∃ settings, Settings.readNamed named = .ok settings ∧ given = { identity, settings }) := by
  unfold configured at h
  split at h
  case h_1 c hlookup =>
    simp only [hinside, Option.isSome_none, Bool.false_eq_true, if_false, bind_eq_ok] at h
    obtain ⟨taken, htaken, h⟩ := h
    cases h
    exact ⟨rfl, c, htaken, .inl hlookup⟩
  case h_2 | h_3 =>
    split at h
    · simp only [bind_eq_ok] at h
      obtain ⟨settings, hread, taken, htaken, h⟩ := h
      cases h
      exact ⟨rfl, _, htaken, .inr (.inr ⟨settings, hread, rfl⟩)⟩
    · rename_i hscanned
      cases h
      refine ⟨rfl, Config.shared, ?_, .inr (.inl rfl)⟩
      have hplain : cls.isKeyed = false := Bool.not_eq_true _ ▸ hscanned
      unfold SetClass.configure
      rw [hplain]
      rfl
  case h_4 v hconfig hnull hlookup =>
    rcases hnamed v hlookup with rfl | ⟨c, rfl⟩
    · exact absurd rfl hnull
    · exact absurd rfl (hconfig c)

/-- A set with a configuration that its class took is lawful while it is empty. -/
theorem lawful_of_configure {given config : Config} (hkeyed : cls.isKeyed = true)
    (h : cls.configure given identity = .ok config) :
    Collection.Lawful { cls, config, members := [] } where
  keyed := hkeyed
  ownConfig := rfl
  hashable := by simp
  distinct := List.Pairwise.nil
  taken := by simp
  bound := SetClass.fits_of_configure hkeyed h

/-- Plain options come to a configuration that fits the class. -/
theorem proper_of_configured {config : Config} {i : Option StandIn}
    (hnamed : HasPlainConfig named) (hinside : ∀ c, (standIn (.config c)).inside? = none)
    (h : configured standIn cls named identity = .ok (config, i)) :
    Collection.Proper { cls, config, members := [], standIn? := i } := by
  obtain ⟨rfl, given, hconfigure, -⟩ := exists_of_configured hnamed hinside h
  exact ⟨rfl, fun hkeyed => lawful_of_configure hkeyed hconfigure⟩

/-- A set that is made with plain options is proper, its members are elements that it was made with,
and its configuration is the one that the options come to. -/
theorem proper_of_construct {same : Sameness} {elements : List Value} {d : Collection}
    (hnamed : HasPlainConfig named) (hinside : ∀ c, (standIn (.config c)).inside? = none)
    (h : construct same standIn cls elements named identity = .ok d) :
    d.Proper ∧ d.cls = cls ∧ (∀ m ∈ d.members, m ∈ elements) ∧
      configured standIn cls named identity = .ok (d.config, none) := by
  unfold construct at h
  split at h
  · cases h
  · obtain ⟨⟨config, i⟩, hconfigured, h⟩ := bind_eq_ok.1 h
    have hempty := proper_of_configured hnamed hinside hconfigured
    obtain ⟨rfl, -⟩ := exists_of_configured hnamed hinside hconfigured
    obtain ⟨hproper, hcls, hconfig, hmembers⟩ := hempty.inserted h
    refine ⟨hproper, hcls, by simpa using hmembers, ?_⟩
    rw [hconfig]
    exact hconfigured

end Collection

end ValueSets
