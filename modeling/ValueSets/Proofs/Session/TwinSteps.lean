import ValueSets.Proofs.Session.TwinTerms

/-!
# Steps in twin sessions

What is done to the sets in variables is done alike in twin sessions. The primitives of the two
kinds of storage change the members in the same way and answer the same, which
`Collection.Untyped` says of each of them; all other operations follow along their texts.
-/

set_option autoImplicit false

namespace ValueSets

open Fallible Value

variable {known : List Config} {vars : List (String × Value)}

/-- A handle of a keyed set, and the same one where sets are kept as lists. -/
def Handle.Twins (h k : Handle) : Prop := h.cls = .inMemory ∧ k = ⟨h.index, .plain⟩

theorem Handle.Twins.values {h k : Handle} (hk : h.Twins k) :
    (Value.handle h).Twins known (.handle k) :=
  ⟨congrArg Value.handle hk.2, .flat rfl (fun _ hv => by cases hv; exact hk.1) (by simp)⟩

namespace Act

variable {α β : Type} {results : α → β → Prop} {h k : Handle} {c d : Collection}

/-! ## Reading and changing sets -/

theorem together_fetch (hk : h.Twins k) :
    Together known vars (Collection.Twins known) (fetch h) (fetch k) := by
  unfold fetch
  refine together_get.bind fun s t hst => together_pure ?_
  rw [hk.2]
  exact hst.collection hk.1

theorem together_sameness : Together known vars
    (fun same same' => same.IsByKey (Simple known) ∧ same'.IsByKey (Simple known))
    sameness sameness := by
  unfold sameness
  refine together_get.bind fun s t hst => together_pure ⟨?_, ?_⟩
  · exact hst.untouched.sameness_isByKey hst.apart
  · exact hst.untouched'.sameness_isByKey hst.apart

theorem together_precedence : Together known vars
    (fun before before' => Sorting.AgreeOn Fault.IsFixed (Simple known) before before')
    precedence precedence := by
  unfold precedence
  refine together_get.bind fun s t hst => together_pure ?_
  exact hst.untouched.agree_isOrdered hst.untouched' hst.apart .less

/-- Computations that agree on simple values and fail in the same way are alike. -/
theorem alike_of_agree {e e' : Except Fault α} (h : Agree Fault.IsFixed e e') :
    Fallible.Alike Fault.Alike (fun a b => b = a ∧ e = .ok a) e e' := by
  obtain ⟨rfl, hfixed⟩ := h
  cases e with
  | ok a => exact .ok ⟨rfl, rfl⟩
  | error fault => exact .error (hfixed fault rfl).alike

theorem together_mutate {change : (Collection → Sameness) → Collection → Mutation α}
    {change' : (Collection → Sameness) → Collection → Mutation β} (hk : h.Twins k)
    (hchange : ∀ same same' : Collection → Sameness, ∀ c d : Collection,
      (∀ e, (same e).IsByKey (Simple known)) → (∀ e, (same' e).IsByKey (Simple known)) →
      c.Twins known d → Fallible.Alike Fault.Alike results (change same c).1 (change' same' d).1 ∧
        (change same c).2.Twins known (change' same' d).2) :
    Together known vars results (mutate h change) (mutate k change') := by
  intro s t hst
  obtain ⟨hcls, rfl⟩ := hk
  rw [outcome_mutate, outcome_mutate]
  have hsame : ∀ e, (s.store h e).sameness.IsByKey (Simple known) := fun e =>
    Session.Untouched.sameness_isByKey ⟨hst.untouched.reached, hst.untouched.fields⟩ hst.apart
  have hsame' : ∀ e, (t.store ⟨h.index, .plain⟩ e).sameness.IsByKey (Simple known) := fun e =>
    Session.Untouched.sameness_isByKey ⟨hst.untouched'.reached, hst.untouched'.fields⟩ hst.apart
  obtain ⟨hanswer, hset⟩ := hchange _ _ _ _ hsame hsame' (hst.collection hcls)
  exact ⟨hst.store hset h ⟨h.index, .plain⟩ rfl, hanswer⟩

/-! ## Making sets -/

theorem together_allocateCopy (hcd : c.Twins known d) :
    Together known vars Handle.Twins (allocateCopy c) (allocateCopy d) := by
  unfold allocateCopy
  rw [settleConfig_eq hcd.left.ownConfig hcd.settled,
    settleConfig_eq hcd.right.ownConfig hcd.settled', pure_bind, pure_bind]
  refine together_modifyGet fun s t hst => ⟨⟨hcd.keyed, ?_⟩, ?_⟩
  · rw [hst.sets.length_eq, hcd.plain]
  · exact { hst with
      untouched := ⟨hst.untouched.reached, hst.untouched.fields⟩
      untouched' := ⟨hst.untouched'.reached, hst.untouched'.fields⟩
      sets := List.rel_append hst.sets (.cons hcd .nil) }

theorem together_allocate (hcd : c.Twins known d) :
    Together known vars Handle.Twins (allocate c) (allocate d) := by
  intro s t hst
  rw [outcome_allocate_of_untouched hst.untouched, outcome_allocate_of_untouched hst.untouched']
  exact together_allocateCopy hcd s t hst

theorem together_answerSet {e e' : Except Fault Collection}
    (h : Fallible.Alike Fault.Alike (Collection.Twins known) e e') :
    Together known vars (Value.Twins known) (answerSet e) (answerSet e') := by
  unfold answerSet
  refine (together_ofExcept h).bind fun c d hcd => ?_
  exact (together_allocate hcd).bind fun h k hk => together_pure hk.values

/-! ## Variables and parameters -/

/-- Whether a variable holds a set, if it is bound. -/
def HoldsSet (vars : List (String × Value)) (name : String) : Prop :=
  ∀ v, vars.lookup name = some v → ∃ h, v = .handle h

theorem together_valueOf (name : String) :
    Together known vars (fun v w => v.Twins known w ∧ vars.lookup name = some v) (valueOf name)
      (valueOf name) := by
  unfold valueOf
  refine together_get.bind fun s t hst => ?_
  rw [(hst.value? name).1, (hst.value? name).2]
  cases hv : vars.lookup name with
  | none => exact together_throw (Fault.IsFixed.alike rfl)
  | some v => exact together_pure ⟨⟨rfl, hst.bound (name, v) (mem_of_lookup hv)⟩, rfl⟩

theorem together_setOf {name : String} (hname : HoldsSet vars name) :
    Together known vars (fun v w => ∃ h k, Handle.Twins h k ∧ v = .handle h ∧ w = .handle k)
      (valueOf name) (valueOf name) := by
  intro s t hst
  obtain ⟨htwins, hresult⟩ := together_valueOf name s t hst
  refine ⟨htwins, ?_⟩
  generalize (outcome (valueOf name) s).1 = r at hresult
  generalize (outcome (valueOf name) t).1 = q at hresult
  cases hresult with
  | error hfault => exact .error hfault
  | ok hvalue =>
    obtain ⟨⟨rfl, hfamiliar⟩, hv⟩ := hvalue
    obtain ⟨h, rfl⟩ := hname _ hv
    exact .ok ⟨h, _, ⟨hfamiliar.handle, rfl⟩, rfl, rfl⟩

/-- Nothing stands in front of the operations of a set. -/
theorem together_checkCall (operation : String) :
    Together known vars (fun _ _ => True) (checkCall (.handle h) operation)
      (checkCall (.handle k) operation) := by
  intro s t hst
  rw [outcome_checkCall hst.untouched, outcome_checkCall hst.untouched']
  exact ⟨hst, .ok trivial⟩

theorem together_calledOf {name : String} (hname : HoldsSet vars name) (operation : String) :
    Together known vars (fun v w => ∃ h k, Handle.Twins h k ∧ v = .handle h ∧ w = .handle k)
      (calledOf name operation) (calledOf name operation) := by
  unfold calledOf
  refine (together_setOf hname).bind fun v w ⟨h, k, hk, hv, hw⟩ => ?_
  rw [hv, hw]
  exact (together_checkCall operation).bind fun _ _ _ => together_pure ⟨h, k, hk, rfl, rfl⟩

/-- Calls that differ in the name of the operation and in the handle of their receiver bind their
arguments alike. -/
theorem together_bindCall {sig : Signature} {operation : String}
    (hname : SameWords sig.operation operation) (args : List Value)
    (named : List (String × Value)) :
    Together known vars
      (fun bound bound' => bound' = bound.map (Prod.map id listed) ∧
        sig.bind args named = .ok bound)
      (bindCall sig args named)
      (bindCall { sig with operation } (args.map listed) (named.map (Prod.map id listed))) := by
  have hbind := Signature.alike_bind hname listed args named
  unfold bindCall
  generalize { sig with operation }.bind (args.map listed) (named.map (Prod.map id listed)) = r
    at hbind
  cases hbound : sig.bind args named with
  | error fault =>
    rw [hbound] at hbind
    cases hbind with
    | error hfault => exact together_throw (Fault.alike_call hfault)
  | ok bound =>
    rw [hbound] at hbind
    cases hbind with
    | ok h => exact together_pure ⟨h, rfl⟩

end Act

end ValueSets
