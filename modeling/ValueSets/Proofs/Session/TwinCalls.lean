import ValueSets.Proofs.Session.TwinSteps

/-!
# Calls in twin sessions

A method of twin sets does the same to both, given simple arguments. Where members are kept by key a
class has a copy of its own, and a list is copied as all sets are; both come to the same set. Taking
out any member is left out, since a class that keeps members by key takes out another one.
-/

set_option autoImplicit false

namespace ValueSets

open Fallible Value

variable {known : List Config} {vars : List (String × Value)}

namespace Collection.Twins

variable {c d : Collection}

theorem simple_isHashable (v : Value) (h : v.Simple known) : v.isHashable = true := h.1

/-- What an operation makes of twin sets is twin sets. -/
theorem onMembers {c' d' : Collection} (h : c.Twins known d) (h' : c'.Twins known d')
    (op : SetOperator) : (c.holding (op.onMembers c.members c'.members)).Twins known
      (d.holding (op.onMembers d.members d'.members)) := by
  rw [h.members, h'.members]
  refine h.holding (fun m hm => ?_) (SetOperator.distinct_onMembers h.left.distinct
    h'.left.distinct op)
  rcases SetOperator.mem_of_mem_onMembers hm with hm | hm
  · exact h.left.members m hm
  · exact h'.left.members m hm

end Collection.Twins

namespace Act

open Collection.Twins

variable {α β : Type} {results : α → β → Prop} {h k : Handle} {xs : List Value}
  {bound : List (String × Value)}

/-! ## Changes -/

theorem together_insert (hk : h.Twins k) (hxs : ∀ x ∈ xs, x.Simple known) :
    Together known vars (fun _ _ => True) (mutate h fun same c => c.insert same xs)
      (mutate k fun same c => c.insert same xs) := by
  refine together_mutate hk fun same same' c d hsame hsame' hcd => ?_
  rw [hcd.left.insert_eq simple_isHashable hsame hxs,
    hcd.right.insert_eq simple_isHashable hsame' hxs, hcd.members]
  refine ⟨.ok trivial, hcd.holding (fun m hm => ?_) (hcd.left.distinct.addAll xs)⟩
  rcases Members.mem_of_mem_addAll hm with hm | hm
  · exact hcd.left.members m hm
  · exact hxs m hm

theorem sublist_foldl_drop (ms xs : List Value) : (xs.foldl Members.drop ms).Sublist ms := by
  induction xs generalizing ms with
  | nil => exact List.Sublist.refl ms
  | cons x xs ih => exact (ih (Members.drop ms x)).trans List.filter_sublist

theorem together_delete (hk : h.Twins k) (hxs : ∀ x ∈ xs, x.Simple known) :
    Together known vars (fun _ _ => True) (mutate h fun same c => c.delete same xs)
      (mutate k fun same c => c.delete same xs) := by
  refine together_mutate hk fun same same' c d hsame hsame' hcd => ?_
  rw [hcd.left.delete_eq simple_isHashable hsame hxs,
    hcd.right.delete_eq simple_isHashable hsame' hxs, hcd.members]
  have hsub := sublist_foldl_drop c.members xs
  refine ⟨.ok trivial, hcd.holding (fun m hm => ?_) (List.Pairwise.sublist hsub hcd.left.distinct)⟩
  exact hcd.left.members m (hsub.subset hm)

theorem together_clear (hk : h.Twins k) :
    Together known vars (fun _ _ => True) (mutate h fun _ c => (.ok (), c.cleared))
      (mutate k fun _ c => (.ok (), c.cleared)) := by
  refine together_mutate hk fun _ _ c d _ _ hcd => ⟨.ok trivial, ?_⟩
  exact hcd.holding (by simp) List.Pairwise.nil

/-- Twin sets give up the same first member. -/
theorem together_popFirst (hk : h.Twins k) (hbound : ∀ b ∈ bound, b.2.Familiar known) :
    Together known vars (Value.Twins known) (popFirst (.handle h) bound)
      (popFirst (.handle k) (bound.map (Prod.map id listed))) := by
  unfold popFirst popWith
  have htaken : Together known vars
      (fun o o' : Option Value => o' = o ∧ ∀ v, o = some v → v.Simple known)
      (mutate h fun same c => c.popFirst same) (mutate k fun same c => c.popFirst same) := by
    refine together_mutate hk fun same same' c d hsame hsame' hcd => ?_
    rw [hcd.left.popFirst_eq simple_isHashable hsame,
      hcd.right.popFirst_eq simple_isHashable hsame', hcd.members]
    have hsub : c.members.tail.Sublist c.members := List.tail_sublist _
    refine ⟨.ok ⟨rfl, fun v hv => ?_⟩, hcd.holding (fun m hm => ?_)
      (List.Pairwise.sublist hsub hcd.left.distinct)⟩
    · exact hcd.left.members v (List.mem_of_mem_head? hv)
    · exact hcd.left.members m (hsub.subset hm)
  refine htaken.bind fun o o' ⟨ho, hsimple⟩ => ?_
  rw [ho]
  cases o with
  | some v => exact together_pure (hsimple v rfl).twins
  | none =>
    dsimp only
    unfold defaultOf
    rw [lookup_map]
    cases hv : bound.lookup "default" with
    | none => exact together_throw (Fault.IsFixed.alike rfl)
    | some v => exact together_pure ⟨rfl, hbound ("default", v) (mem_of_lookup hv)⟩

/-! ## Questions -/

/-- Questions that have the same answer about twin sets are answered alike. -/
theorem together_ask {question question' : Sameness → Collection → Except Fault Bool}
    (hk : h.Twins k)
    (hquestion : ∀ same same' c d, same.IsByKey (Simple known) → same'.IsByKey (Simple known) →
      Collection.Twins known c d → ∃ b, question same c = .ok b ∧ question' same' d = .ok b) :
    Together known vars (fun b b' => b' = b) (ask h question) (ask k question') := by
  unfold ask
  refine together_sameness.bind fun same same' hsame => ?_
  refine (together_fetch hk).bind fun c d hcd => together_ofExcept ?_
  obtain ⟨b, hb, hb'⟩ := hquestion same same' c d hsame.1 hsame.2 hcd
  rw [hb, hb']
  exact .ok rfl

theorem twins_bool (b : Bool) : (Value.bool b).Twins known (.bool b) :=
  ⟨rfl, .of_isFlat rfl (by simp) (by simp)⟩

theorem Together.answer {m n : Act Bool} (h : Together known vars (fun b b' => b' = b) m n) :
    Together known vars (Value.Twins known) (do return .bool (← m)) (do return .bool (← n)) := by
  refine h.bind fun b b' hb => together_pure ?_
  rw [hb]
  exact twins_bool b

/-- The members of twin sets are put into lists alike. -/
theorem together_freshList {vs ws : List Value} (hws : ws = vs) (hvs : ∀ v ∈ vs, v.Simple known) :
    Together known vars (Value.Twins known) (fresh (.list vs)) (fresh (.list ws)) := by
  have hsame : (Value.list vs).listed = .list ws := by
    rw [listed_list, map_listed fun v hv => (hvs v hv).listed_eq, hws]
  rw [← hsame]
  exact together_fresh (.list fun v hv => (hvs v hv).2)

theorem together_items (hk : h.Twins k) :
    Together known vars (fun vs ws => ws = vs ∧ ∀ v ∈ vs, v.Simple known) (items (.handle h))
      (items (.handle k)) := by
  have hstages : ∀ l : Handle, items (.handle l) = do
      let c ← fetch l
      return c.members ++ [] := by
    intro l
    unfold items itemStages
    simp only [bind_assoc, pure_bind]
  rw [hstages, hstages]
  refine (together_fetch hk).bind fun c d hcd => together_pure ?_
  rw [List.append_nil, List.append_nil]
  exact ⟨hcd.members, hcd.left.members⟩

/-! ## Copies -/

/-- A copy of a keyed set's storage and a copy that is made by adding are twins. -/
theorem together_copy (hk : h.Twins k) (xs : List Value) (bound : List (String × Value)) :
    Together known vars (Value.Twins known) (callStored .copy h xs bound)
      (derivedCopy (.handle k)) := by
  have hkeyed : h.cls.isKeyed = true := by
    rw [hk.1]
    rfl
  unfold callStored derivedCopy
  simp only [hkeyed, if_true]
  refine (together_fetch hk).bind fun c d hcd => ?_
  refine together_sameness.bind fun same same' hsame => ?_
  have hcopied : d.derivedCopy same' = .ok d :=
    hcd.right.like_eq simple_isHashable hsame.2
  rw [hcd.left.copy_eq simple_isHashable hsame.1, hcopied]
  refine (together_ofExcept (.ok hcd)).bind fun c d hcd => ?_
  have hmade : Together known vars Handle.Twins (allocateCopy c) (allocate d) := by
    intro s t hst
    rw [outcome_allocate_of_untouched hst.untouched']
    exact together_allocateCopy hcd s t hst
  exact hmade.bind fun h k hk => together_pure hk.values

/-! ## Methods -/

/-- What a method does that changes a set, or answers about it, and that is no copy. -/
theorem together_callStored {m : Method} (hpop : m ≠ .pop) (hcopy : m ≠ .copy) (hk : h.Twins k)
    (hxs : ∀ x ∈ xs, x.Simple known) {bound' : List (String × Value)}
    (hsame : bound'.lookup "element" = bound.lookup "element")
    (hbound : ∀ x, bound.lookup "element" = some x → x.Simple known) :
    Together known vars (Value.Twins known) (callStored m h xs bound)
      (callStored m k xs bound') := by
  have hnull : Value.Twins known .null .null := ⟨rfl, .of_isFlat rfl (by simp) (by simp)⟩
  cases m with
  | insert => exact (together_insert hk hxs).bind fun _ _ _ => together_pure hnull
  | delete => exact (together_delete hk hxs).bind fun _ _ _ => together_pure hnull
  | clear => exact (together_clear hk).bind fun _ _ _ => together_pure hnull
  | has =>
    have hx : ((bound.lookup "element").getD .null).Simple known := by
      cases hx : bound.lookup "element" with
      | none => exact simple_of_isFlat rfl rfl (by simp)
      | some x => exact hbound x hx
    refine (together_ask hk fun same same' c d hkey hkey' hcd => ?_).answer
    refine ⟨_, hcd.left.has_eq simple_isHashable hkey hx, ?_⟩
    rw [hsame, hcd.right.has_eq simple_isHashable hkey' hx, hcd.members]
  | hasAll =>
    refine (together_ask hk fun same same' c d hsame hsame' hcd => ?_).answer
    refine ⟨_, hcd.left.hasAll_eq simple_isHashable hsame hxs, ?_⟩
    rw [hcd.right.hasAll_eq simple_isHashable hsame' hxs, hcd.members]
  | hasAny =>
    refine (together_ask hk fun same same' c d hsame hsame' hcd => ?_).answer
    refine ⟨_, hcd.left.hasAny_eq simple_isHashable hsame hxs, ?_⟩
    rw [hcd.right.hasAny_eq simple_isHashable hsame' hxs, hcd.members]
  | size =>
    have hsizes : Together known vars (fun n n' => n' = n) (sizeOf (.handle h))
        (sizeOf (.handle k)) :=
      (together_fetch hk).bind fun c d hcd => together_pure (congrArg List.length hcd.members)
    refine hsizes.bind fun n n' hn => ?_
    rw [hn]
    exact together_freshFlat rfl (by simp) (by simp)
  | unsortedList =>
    exact (together_items hk).bind fun vs ws hvs => together_freshList hvs.1 hvs.2
  | copy => exact absurd rfl hcopy
  | pop => exact absurd rfl hpop

/-- The operation of a method in the class that defines it for plain sets. -/
theorem signature_plain (m : Method) : m.signature .plain =
    { m.signature .inMemory with operation := (m.home .plain).name ++ "." ++ m.name } := by
  cases m <;> rfl

theorem sameWords_operation (m : Method) : SameWords (m.signature .inMemory).operation
    ((m.home .plain).name ++ "." ++ m.name) := by
  have hhome : SameWords (m.home .inMemory).name (m.home .plain).name := by
    cases m with
    | insert | delete | has | clear => exact .plain
    | copy | pop => exact .interface
    | hasAll | hasAny | size | unsortedList => exact .refl _
  have hoperation : (m.signature .inMemory).operation =
      (m.home .inMemory).name ++ "." ++ m.name := by
    cases m <;> rfl
  rw [hoperation]
  exact .append (.append hhome (.refl _)) (.refl _)

theorem together_callSet {m : Method} (hpop : m ≠ .pop) (hk : h.Twins k)
    (hxs : ∀ x ∈ xs, x.Simple known) {named : List (String × Value)}
    (hnamed : ∀ b ∈ named, b.2.Simple known) :
    Together known vars (Value.Twins known) (callSet m h xs named) (callSet m k xs named) := by
  obtain ⟨index, cls⟩ := h
  obtain ⟨rfl, rfl⟩ := hk
  have hk : Handle.Twins ⟨index, .inMemory⟩ ⟨index, .plain⟩ := ⟨rfl, rfl⟩
  have hnamed' := map_named_listed fun b hb => (hnamed b hb).listed_eq
  have hargs : (Value.handle ⟨index, .inMemory⟩ :: xs).map listed =
      .handle ⟨index, .plain⟩ :: xs := by
    rw [List.map_cons, map_listed fun x hx => (hxs x hx).listed_eq, listed_handle]
  have hbind : Together known vars _
      (bindCall (m.signature .inMemory) (.handle ⟨index, .inMemory⟩ :: xs) named) _ :=
    together_bindCall (sameWords_operation m) _ named
  rw [hargs, hnamed', ← signature_plain] at hbind
  unfold callSet
  refine hbind.bind fun bound bound' ⟨hmapped, hbound⟩ => ?_
  have hsimple : ∀ x, bound.lookup "element" = some x → x.Simple known := by
    intro x hx
    -- the receiver is assigned to a parameter of its own, and what else is assigned is an argument
    have hreceiver : "element" ≠ (m.signature .inMemory).receiver := by
      cases m <;> decide
    rcases Signature.mem_of_bind_of_ne hbound (mem_of_lookup hx) hreceiver with hx | hx
    · exact hxs x hx
    · exact hnamed _ hx
  -- copying is the one method that the two classes find in different places
  by_cases hcopy : m = .copy
  · subst hcopy
    exact together_copy hk xs bound
  · have hsame : bound'.lookup "element" = bound.lookup "element" := by
      rw [hmapped, lookup_map]
      cases hx : bound.lookup "element" with
      | none => rfl
      | some x => exact congrArg some (hsimple x hx).listed_eq
    have hstored : Together known vars (Value.Twins known) (callStored m _ xs bound)
        (callStored m _ xs bound') := together_callStored hpop hcopy hk hxs hsame hsimple
    rw [← callIn_home (.inr ⟨hpop, hcopy⟩), ← callIn_home (.inr ⟨hpop, hcopy⟩)] at hstored
    exact hstored

/-- A method, called on a variable that holds a set in twin sessions, is called on twin sets. -/
theorem together_call {m : Method} {name : String} (hname : HoldsSet vars name) (hpop : m ≠ .pop)
    (hxs : ∀ x ∈ xs, x.Simple known) {named : List (String × Value)}
    (hnamed : ∀ b ∈ named, b.2.Simple known) :
    Together known vars (Value.Twins known) (call m name xs named) (call m name xs named) := by
  intro s t hst
  obtain ⟨hs, ht⟩ := hst.value? name
  cases hv : vars.lookup name with
  | none =>
    have hunbound : ∀ u : Session, u.value? name = none →
        outcome (call m name xs named) u = (.error (.unboundVariable name), u) := by
      intro u hu
      unfold call calledOf valueOf
      rw [outcome_bind, outcome_bind, outcome_bind, outcome_get]
      simp only [hu, outcome_throw]
    rw [hv] at hs ht
    rw [hunbound s hs, hunbound t ht]
    exact ⟨hst, .error (Fault.IsFixed.alike rfl)⟩
  | some v =>
    have hfamiliar : v.Familiar known := hst.bound (name, v) (mem_of_lookup hv)
    obtain ⟨h, rfl⟩ := hname v hv
    rw [hv] at hs ht
    rw [outcome_call hst.untouched hs, outcome_call hst.untouched' ht]
    exact together_callSet hpop ⟨hfamiliar.handle, rfl⟩ hxs hnamed s t hst

end Act

end ValueSets
