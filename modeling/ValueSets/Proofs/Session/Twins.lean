import Mathlib.Data.List.Forall2
import ValueSets.Proofs.Session.Reachable
import ValueSets.Proofs.Session.Receivers
import ValueSets.Proofs.Wording

/-!
# Sessions that differ in how their sets are kept

Two sessions are twins if the one keeps every set by key where the other keeps a plain set with the
same members, and they differ in nothing else but what follows from that: the handles in their
values, and the names of classes in the log. `Act.Together` says of two actions that they do the
same in twin sessions, and answer or fail alike. There is one rule for each way in which actions are
put together, so two actions are compared along their texts.
-/

set_option autoImplicit false

namespace ValueSets

open Fallible Value

variable {known more : List Config} {vars : List (String × Value)}

/-! ## Twins -/

/-- A keyed set without an element type, and a plain one with the same members that is listed in the
same way. -/
structure Collection.Twins (known : List Config) (c d : Collection) : Prop where
  keyed : c.cls = .inMemory
  plain : d.cls = .plain
  left : c.Untyped (Simple known)
  right : d.Untyped (Simple known)
  settings : d.config.settings = c.config.settings
  members : d.members = c.members
  settled : c.config.IsSettled
  settled' : d.config.IsSettled

namespace Collection.Twins

variable {c d : Collection}

/-- Twin sets stay twins if both get the same members. -/
theorem holding (h : c.Twins known d) {ms : List Value} (hms : ∀ m ∈ ms, m.Simple known)
    (hdistinct : Members.Distinct ms) : (c.holding ms).Twins known (d.holding ms) :=
  ⟨h.keyed, h.plain, h.left.holding hms hdistinct, h.right.holding hms hdistinct, h.settings, rfl,
    h.settled, h.settled'⟩

theorem mono (h : c.Twins known d) (hsub : known ⊆ more) : c.Twins more d :=
  { h with
    left := { h.left with members := fun m hm => (h.left.members m hm).mono hsub }
    right := { h.right with members := fun m hm => (h.right.members m hm).mono hsub } }

end Collection.Twins

/-- The notices that a keyed set and a plain one hand over when they are listed without an order. -/
inductive Notice.Twins : Notice → Notice → Prop
  | unordered : Notice.Twins (.unordered .inMemory) (.unordered .plain)

/-- Notices of twin sets are written alike, whatever the sessions are. -/
theorem Notice.alike_records {notices others : List Notice}
    (h : List.Forall₂ Notice.Twins notices others) (s t : Session) :
    List.Forall₂ Record.Alike (s.records notices) (t.records others) := by
  induction h with
  | nil => exact .nil
  | cons htwins _ ih =>
    cases htwins
    exact .cons Record.alike_unordered ih

/-- A familiar value and the same one where sets are kept as lists. -/
def Value.Twins (known : List Config) (v w : Value) : Prop := w = v.listed ∧ v.Familiar known

theorem Value.Simple.twins {v : Value} (h : v.Simple known) : v.Twins known v :=
  ⟨h.listed_eq.symm, h.2⟩

/-- Two sessions of which the second keeps the sets of the first as lists. Both have the variables
`vars`, and their configurations are the known ones. -/
structure Session.Twins (known : List Config) (vars : List (String × Value)) (s t : Session) :
    Prop where
  untouched : s.Untouched
  untouched' : t.Untouched
  sets : List.Forall₂ (Collection.Twins known) s.collections t.collections
  contents : t.contents = s.contents.map listed
  familiar : ∀ v ∈ s.contents, v.Familiar known
  bindings : s.bindings = vars
  bindings' : t.bindings = vars.map (Prod.map id listed)
  bound : ∀ b ∈ vars, b.2.Familiar known
  nextIdentity : t.nextIdentity = s.nextIdentity
  log : List.Forall₂ Notice.Twins s.log t.log
  apart : Config.Apart known
  fresh : ∀ c ∈ known, c.identity < s.nextIdentity
  positive : 0 < s.nextIdentity

theorem forall₂_getD {α β : Type} {r : α → β → Prop} {xs : List α} {ys : List β}
    (h : List.Forall₂ r xs ys) {x : α} {y : β} (hxy : r x y) (k : Nat) :
    r (xs[k]?.getD x) (ys[k]?.getD y) := by
  induction h generalizing k with
  | nil => exact hxy
  | cons hhead _ ih =>
    cases k with
    | zero => exact hhead
    | succ k => exact ih k

theorem forall₂_set {α β : Type} {r : α → β → Prop} {xs : List α} {ys : List β}
    (h : List.Forall₂ r xs ys) {x : α} {y : β} (hxy : r x y) (k : Nat) :
    List.Forall₂ r (xs.set k x) (ys.set k y) := by
  induction h generalizing k with
  | nil => exact .nil
  | cons hhead htail ih =>
    cases k with
    | zero => exact .cons hxy htail
    | succ k => exact .cons hhead (ih k)

namespace Session

variable {s t : Session}

/-- Nothing stands in for the configuration of a set in an untouched session, if nothing did when it
was stored. -/
theorem Untouched.collection_eq (hs : s.Untouched) {h : Handle}
    (hc : (s.stored h).standIn? = none) : s.collection h = s.stored h := by
  unfold collection standInOf
  simp only [hc, hs.inside?_eq, Option.map_none]

namespace Twins

theorem stored (h : s.Twins known vars t) {k : Handle} (hk : k.cls = .inMemory) :
    (s.stored k).Twins known (t.stored ⟨k.index, .plain⟩) := by
  have hempty : Collection.Twins known { cls := k.cls, config := Config.shared, members := [] }
      { cls := .plain, config := Config.shared, members := [] } :=
    ⟨hk, rfl, ⟨.inl hk, rfl, rfl, List.Pairwise.nil, by simp⟩,
      ⟨.inr rfl, rfl, rfl, List.Pairwise.nil, by simp⟩, rfl, rfl, .inr rfl, .inr rfl⟩
  exact forall₂_getD h.sets hempty k.index

theorem collection (h : s.Twins known vars t) {k : Handle} (hk : k.cls = .inMemory) :
    (s.collection k).Twins known (t.collection ⟨k.index, .plain⟩) := by
  have hstored := h.stored hk
  rw [h.untouched.collection_eq hstored.left.ownConfig,
    h.untouched'.collection_eq hstored.right.ownConfig]
  exact hstored

theorem store (h : s.Twins known vars t) {c d : Collection} (hcd : c.Twins known d)
    (k l : Handle) (hkl : l.index = k.index) : (s.store k c).Twins known vars (t.store l d) := by
  have hsets : List.Forall₂ (Collection.Twins known) (s.collections.set k.index c)
      (t.collections.set l.index d) := by
    rw [hkl]
    exact forall₂_set h.sets hcd k.index
  exact { h with
    untouched := ⟨h.untouched.reached, h.untouched.fields⟩
    untouched' := ⟨h.untouched'.reached, h.untouched'.fields⟩
    sets := hsets }

theorem look (h : s.Twins known vars t) {v : Value} (hv : v.Familiar known) :
    (s.look v).Twins known (t.look v.listed) := by
  cases v with
  | box b =>
    have hget : t.contents[b.index]? = s.contents[b.index]?.map listed := by
      rw [h.contents, List.getElem?_map]
    show ((s.contents[b.index]?).getD .null).Twins known ((t.contents[b.index]?).getD .null)
    rw [hget]
    cases hb : s.contents[b.index]? with
    | none => exact ⟨rfl, .of_isFlat rfl (by simp) (by simp)⟩
    | some v => exact ⟨rfl, h.familiar v (List.mem_of_getElem? hb)⟩
  | tuple | list | table | set | frozenSet =>
    simp only [Session.look, listed_tuple, listed_list, listed_table, listed_set,
      listed_frozenSet]
    exact ⟨by simp, hv⟩
  | _ => exact ⟨rfl, hv⟩

theorem value? (h : s.Twins known vars t) (name : String) :
    s.value? name = vars.lookup name ∧ t.value? name = (vars.lookup name).map listed := by
  unfold Session.value?
  rw [h.bindings, h.bindings']
  exact ⟨rfl, lookup_map listed vars name⟩

theorem depth_eq (h : s.Twins known vars t) : t.depth = s.depth := by
  unfold depth
  rw [h.untouched.reached, h.untouched'.reached, h.sets.length_eq, h.contents, List.length_map]

theorem written (h : s.Twins known vars t) : List.Forall₂ Record.Alike s.written t.written :=
  Notice.alike_records h.log s t

/-- Twin sessions may know more configurations, as long as those are told apart. -/
theorem mono (h : s.Twins known vars t) {more : List Config} (hsub : known ⊆ more)
    (hapart : Config.Apart more) (hfresh : ∀ c ∈ more, c.identity < s.nextIdentity) :
    s.Twins more vars t :=
  { h with
    sets := h.sets.imp fun _ _ hcd => hcd.mono hsub
    familiar := fun v hv => (h.familiar v hv).mono hsub
    bound := fun b hb => (h.bound b hb).mono hsub
    apart := hapart
    fresh := hfresh }

/-- A new configuration is told apart from the known ones. -/
theorem apart_append (h : s.Twins known vars t) {made : Config}
    (hidentity : made.identity = s.nextIdentity) (heven : made.oddity? = none) :
    Config.Apart (known ++ [made]) := by
  have hother : ∀ c ∈ known, c.identity ≠ made.identity := by
    intro c hc hsame
    have hlt := h.fresh c hc
    omega
  refine ⟨fun c hc => ?_, fun c hc => ?_, fun c hc d hd hsame => ?_⟩
  · rcases List.mem_append.1 hc with hc | hc
    · exact h.apart.even c hc
    · rw [List.mem_singleton.1 hc]
      exact heven
  · rcases List.mem_append.1 hc with hc | hc
    · exact h.apart.named c hc
    · rw [List.mem_singleton.1 hc, hidentity]
      exact Nat.pos_iff_ne_zero.1 h.positive
  · rcases List.mem_append.1 hc with hc | hc
    · rcases List.mem_append.1 hd with hd | hd
      · exact h.apart.apart c hc d hd hsame
      · rw [List.mem_singleton.1 hd] at hsame
        exact absurd hsame (hother c hc)
    · rw [List.mem_singleton.1 hc] at hsame ⊢
      rcases List.mem_append.1 hd with hd | hd
      · exact absurd hsame.symm (hother d hd)
      · exact (List.mem_singleton.1 hd).symm

end Twins

end Session

/-! ## Doing the same together -/

namespace Act

variable {α β γ δ : Type}

/-- Whether what two actions did is alike: they leave twin sessions, and answer related results or
fail for alike reasons. -/
def Alike (known : List Config) (vars : List (String × Value)) (results : α → β → Prop)
    (a : Except Fault α × Session) (b : Except Fault β × Session) : Prop :=
  a.2.Twins known vars b.2 ∧ Fallible.Alike Fault.Alike results a.1 b.1

/-- Whether two actions do the same in all twin sessions. -/
def Together (known : List Config) (vars : List (String × Value)) (results : α → β → Prop)
    (m : Act α) (n : Act β) : Prop :=
  ∀ s t : Session, s.Twins known vars t → Alike known vars results (outcome m s) (outcome n t)

variable {results : α → β → Prop} {more : γ → δ → Prop} {m : Act α} {n : Act β}

theorem Alike.bind {f : α → Act γ} {g : β → Act δ} {s t : Session}
    (h : Alike known vars results (outcome m s) (outcome n t))
    (hnext : ∀ a b u w, outcome m s = (.ok a, u) → results a b → u.Twins known vars w →
      Alike known vars more (outcome (f a) u) (outcome (g b) w)) :
    Alike known vars more (outcome (m >>= f) s) (outcome (n >>= g) t) := by
  rw [outcome_bind, outcome_bind]
  obtain ⟨htwins, hresult⟩ := h
  cases hm : outcome m s with
  | mk r u =>
    cases hn : outcome n t with
    | mk q w =>
      rw [hm, hn] at htwins hresult
      cases hresult with
      | ok hab => exact hnext _ _ u w hm hab htwins
      | error hfault => exact ⟨htwins, .error hfault⟩

theorem Together.bind {f : α → Act γ} {g : β → Act δ} (h : Together known vars results m n)
    (hnext : ∀ a b, results a b → Together known vars more (f a) (g b)) :
    Together known vars more (m >>= f) (n >>= g) :=
  fun s t hst => (h s t hst).bind fun a b u w _ hab huw => hnext a b hab u w huw

theorem Together.mono {good : α → β → Prop} (h : Together known vars results m n)
    (hgood : ∀ a b, results a b → good a b) : Together known vars good m n :=
  fun s t hst => ⟨(h s t hst).1, (h s t hst).2.mono hgood⟩

theorem together_pure {a : α} {b : β} (h : results a b) :
    Together known vars results (pure a) (pure b) := fun _ _ hst => ⟨hst, .ok h⟩

theorem together_throw {f g : Fault} (h : f.Alike g) :
    Together known vars results (throw f) (throw g) := fun _ _ hst => ⟨hst, .error h⟩

theorem together_get :
    Together known vars (Session.Twins known vars) (get : Act Session) (get : Act Session) :=
  fun _ _ hst => ⟨hst, .ok hst⟩

theorem together_ofExcept {e : Except Fault α} {e' : Except Fault β}
    (h : Fallible.Alike Fault.Alike results e e') :
    Together known vars results (MonadExcept.ofExcept e) (MonadExcept.ofExcept e') := by
  intro s t hst
  rw [outcome_ofExcept, outcome_ofExcept]
  exact ⟨hst, h⟩

theorem together_modifyGet {f : Session → α × Session} {g : Session → β × Session}
    (h : ∀ s t : Session, s.Twins known vars t →
      results (f s).1 (g t).1 ∧ (f s).2.Twins known vars (g t).2) :
    Together known vars results (modifyGet f : Act α) (modifyGet g : Act β) :=
  fun s t hst => ⟨(h s t hst).2, .ok (h s t hst).1⟩

/-! ## Objects -/

variable {v w : Value}

theorem together_freshIdentity : Together known vars (fun i j => j = i ∧ 0 < i ∧
    ∀ c ∈ known, c.identity < i) freshIdentity freshIdentity := by
  refine together_modifyGet fun s t hst => ⟨⟨hst.nextIdentity, hst.positive, hst.fresh⟩, ?_⟩
  exact { hst with
    untouched := ⟨hst.untouched.reached, hst.untouched.fields⟩
    untouched' := ⟨hst.untouched'.reached, hst.untouched'.fields⟩
    nextIdentity := congrArg (· + 1) hst.nextIdentity
    fresh := fun c hc => Nat.lt_succ_of_lt (hst.fresh c hc)
    positive := Nat.succ_pos _ }

theorem together_create (hv : v.Familiar known) :
    Together known vars (Value.Twins known) (create v) (create v.listed) := by
  have hbox : ∀ {u : Value}, u.Familiar known → u.listed.typeOf = u.typeOf →
      Together known vars (Value.Twins known)
        (modifyGet fun s : Session => (.box ⟨s.contents.length, u.typeOf⟩,
          { s with contents := s.contents ++ [u] }))
        (modifyGet fun s : Session => (.box ⟨s.contents.length, u.listed.typeOf⟩,
          { s with contents := s.contents ++ [u.listed] })) := by
    intro u hu htype
    refine together_modifyGet fun s t hst => ⟨⟨?_, .of_isFlat rfl (by simp) (by simp)⟩, ?_⟩
    · rw [htype, hst.contents, List.length_map]
      rfl
    · exact { hst with
        untouched := ⟨hst.untouched.reached, hst.untouched.fields⟩
        untouched' := ⟨hst.untouched'.reached, hst.untouched'.fields⟩
        contents := by simp [hst.contents]
        familiar := by
          intro x hx
          rcases List.mem_append.1 hx with hx | hx
          · exact hst.familiar x hx
          · rw [List.mem_singleton.1 hx]
            exact hu }
  have hobject : Together known vars (Value.Twins known)
      (freshIdentity >>= fun i => pure (v.withIdentity i))
      (freshIdentity >>= fun i => pure (v.listed.withIdentity i)) := by
    refine together_freshIdentity.bind fun i j hij => together_pure ?_
    rw [hij.1]
    exact ⟨(withIdentity_listed i v).symm, hv.withIdentity i⟩
  cases v with
  | list items =>
    rw [listed_list]
    exact listed_list items ▸ hbox hv rfl
  | table entries => exact hbox hv rfl
  | set items layout => exact hbox hv rfl
  | tuple items identity =>
    rw [listed_tuple] at hobject ⊢
    exact hobject
  | frozenSet items identity layout =>
    rw [listed_frozenSet] at hobject ⊢
    exact hobject
  | _ => exact hobject

theorem together_fresh (hv : v.Familiar known) :
    Together known vars (Value.Twins known) (fresh v) (fresh v.listed) := by
  unfold fresh
  rw [isShared_listed]
  split
  · exact together_pure ⟨rfl, hv⟩
  · exact together_create hv

/-- A value that is the same where sets are lists is made alike. -/
theorem together_freshSame (hsame : v.listed = v) (hv : v.Familiar known) :
    Together known vars (Value.Twins known) (fresh v) (fresh v) := by
  have hmade : Together known vars (Value.Twins known) (fresh v) (fresh v.listed) :=
    together_fresh hv
  rw [hsame] at hmade
  exact hmade

theorem together_freshFlat (hflat : v.isFlat = true) (hset : ∀ h, v ≠ .handle h)
    (hconfig : ∀ c, v ≠ .config c) :
    Together known vars (Value.Twins known) (fresh v) (fresh v) :=
  together_freshSame (listed_of_isFlat hflat hset) (.of_isFlat hflat hset hconfig)

end Act

end ValueSets
