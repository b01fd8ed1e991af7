import ValueSets.Proofs.Session.SortKeys
import ValueSets.Proofs.Session.TwinCalls

/-!
# Operations on variables in twin sessions

Listing a set, combining two sets, asking about them and comparing them are alike in twin sessions,
where the variables hold sets. So is making a set of simple elements without an element type.
-/

set_option autoImplicit false

namespace ValueSets

open Fallible Value

variable {known : List Config} {vars : List (String × Value)}

namespace Act

open Collection.Twins

variable {h k : Handle} {c d : Collection} {args : List Value} {name other : String}

/-! ## Taking out a member -/

theorem together_popFirstOf (hname : HoldsSet vars name) (hargs : ∀ x ∈ args, x.Familiar known) :
    Together known vars (Value.Twins known) (popFirstOf name args)
      (popFirstOf name (args.map listed)) := by
  unfold popFirstOf
  refine (together_setOf hname).bind fun v w ⟨h, k, hk, hv, hw⟩ => ?_
  have hreceiver : Value.handle k = (Value.handle h).listed := by
    rw [hk.2, listed_handle]
  rw [hv, hw, hreceiver, ← List.map_cons, ← hreceiver]
  refine (together_bindCall (.refl _) (.handle h :: args) []).bind
    fun bound bound' ⟨hmapped, hbound⟩ => ?_
  rw [hmapped]
  refine together_popFirst hk fun b hb => ?_
  rcases Signature.mem_of_bind hbound b hb with hb | hb
  · rcases List.mem_cons.1 hb with hb | hb
    · have hfamiliar : (Value.handle h).Familiar known := hk.values.2
      rw [hb]
      exact hfamiliar
    · exact hargs b.2 hb
  · cases hb

/-! ## Listing -/

theorem together_note {m n : Notice} (h : m.Twins n) :
    Together known vars (fun _ _ => True) (note m) (note n) := by
  intro s t hst
  refine ⟨?_, .ok trivial⟩
  exact { hst with
    untouched := ⟨hst.untouched.reached, hst.untouched.fields⟩
    untouched' := ⟨hst.untouched'.reached, hst.untouched'.fields⟩
    log := List.rel_append hst.log (.cons h .nil) }

/-- Twin sets are listed alike; where the order is lacking, the notice has their classes. -/
theorem together_list (hcd : c.Twins known d) :
    Together known vars (fun vs ws => ws = vs ∧ ∀ v ∈ vs, v.Simple known) (list c) (list d) := by
  have hlisted : Together known vars (fun vs ws => ws = vs ∧ ∀ v ∈ vs, v.Simple known)
      (do MonadExcept.ofExcept (c.list (← precedence)))
      (do MonadExcept.ofExcept (d.list (← precedence))) := by
    refine together_precedence.bind fun before before' hbefore => ?_
    have hagree := Collection.agree_list hbefore hcd.left.members hcd.members hcd.settings
    refine (together_ofExcept (alike_of_agree hagree)).mono fun vs ws ⟨hws, hvs⟩ => ?_
    exact ⟨hws, fun v hv => hcd.left.members v ((Collection.perm_of_list hvs).subset hv)⟩
  unfold list
  rw [hcd.left.ownConfig, hcd.right.ownConfig]
  dsimp only
  unfold listConfigured
  rw [Collection.lacksOrder_eq hcd.members hcd.settings, hcd.keyed, hcd.plain]
  split
  · exact (together_note .unordered).bind fun _ _ _ => hlisted
  · exact hlisted

theorem together_listBy (hcd : c.Twins known d) (f : KeyFunction) {before before' : Precedence}
    (hbefore : Sorting.AgreeOn Fault.IsFixed (Simple known) before before') :
    Together known vars (fun vs ws => ws = vs ∧ ∀ v ∈ vs, v.Simple known)
      (c.listBy (SortKey.lessThan before) (f.apply print sizeOf look (fieldOf "value")))
      (d.listBy (SortKey.lessThan before') (f.apply print sizeOf look (fieldOf "value"))) := by
  intro s t hst
  rw [outcome_listBy hst.untouched hcd.left.members,
    outcome_listBy hst.untouched' hcd.right.members]
  have hagree := Collection.agree_listBy hbefore hcd.left.members hcd.members f
  refine ⟨hst, (alike_of_agree hagree).mono fun vs ws ⟨hws, hvs⟩ => ?_⟩
  exact ⟨hws, fun v hv => hcd.left.members v (Collection.subset_of_listBy hvs hv)⟩

theorem together_listOf (hname : HoldsSet vars name) (key : Option KeyFunction) :
    Together known vars (Value.Twins known) (listOf name key) (listOf name key) := by
  unfold listOf
  refine (together_calledOf hname "list").bind fun v w ⟨h, k, hk, hv, hw⟩ => ?_
  rw [hv, hw]
  cases key with
  | none =>
    refine (together_fetch hk).bind fun c d hcd => (together_list hcd).bind fun vs ws hvs => ?_
    exact together_freshList hvs.1 hvs.2
  | some f =>
    refine together_precedence.bind fun before before' hbefore => ?_
    refine (together_fetch hk).bind fun c d hcd => ?_
    refine (together_listBy hcd f hbefore).bind fun vs ws hvs => ?_
    exact together_freshList hvs.1 hvs.2

/-! ## Operations on two sets -/

/-- What is made of two sets is made of their twins alike. -/
theorem together_combine {h' k' : Handle} (hk : h.Twins k) (hk' : h'.Twins k') (op : SetOperator) :
    Together known vars (Value.Twins known)
      (do answerSet ((← fetch h).combine (← sameness) op (← fetch h')))
      (do answerSet ((← fetch k).combine (← sameness) op (← fetch k'))) := by
  refine (together_fetch hk).bind fun c d hcd => ?_
  refine together_sameness.bind fun same same' hsame => ?_
  refine (together_fetch hk').bind fun c' d' hcd' => together_answerSet ?_
  rw [hcd.left.combine_eq simple_isHashable hsame.1 hcd'.left,
    hcd.right.combine_eq simple_isHashable hsame.2 hcd'.right]
  exact .ok (hcd.onMembers hcd' op)

theorem together_combineVariables (hname : HoldsSet vars name) (hother : HoldsSet vars other)
    (op : SetOperator) : Together known vars (Value.Twins known) (combineVariables op name other)
      (combineVariables op name other) := by
  unfold combineVariables
  refine (together_calledOf hname op.name).bind fun v w ⟨h, k, hk, hv, hw⟩ => ?_
  rw [hv, hw]
  refine (together_setOf hother).bind fun v' w' ⟨h', k', hk', hv', hw'⟩ => ?_
  rw [hv', hw']
  exact together_combine hk hk' op

theorem together_askVariables (hname : HoldsSet vars name) (hother : HoldsSet vars other)
    (q : Question) : Together known vars (fun b b' => b' = b) (askVariables q name other)
      (askVariables q name other) := by
  unfold askVariables
  refine (together_calledOf hname q.name).bind fun v w ⟨h, k, hk, hv, hw⟩ => ?_
  rw [hv, hw]
  refine (together_setOf hother).bind fun v' w' ⟨h', k', hk', hv', hw'⟩ => ?_
  rw [hv', hw']
  refine together_sameness.bind fun same same' hsame => ?_
  refine (together_fetch hk).bind fun c d hcd => ?_
  refine (together_fetch hk').bind fun c' d' hcd' => together_ofExcept ?_
  rw [hcd.left.answer_eq simple_isHashable hsame.1 hcd'.left,
    hcd.right.answer_eq simple_isHashable hsame.2 hcd'.right, hcd.members, hcd'.members]
  exact .ok rfl

/-- Twin sets compare alike; a comparison that sets do not have names their classes. -/
theorem alike_compare {c' d' : Collection} (hcd : c.Twins known d) (hcd' : c'.Twins known d')
    {same same' : Sameness} (hsame : same.IsByKey (Simple known))
    (hsame' : same'.IsByKey (Simple known)) (cmp : Comparison) :
    Fallible.Alike Fault.Alike (fun b b' => b' = b) (c.compare same cmp c')
      (d.compare same' cmp d') := by
  rw [hcd.left.compare_eq simple_isHashable hsame hcd'.left (hcd'.keyed.trans hcd.keyed.symm),
    hcd.right.compare_eq simple_isHashable hsame' hcd'.right (hcd'.plain.trans hcd.plain.symm),
    hcd.members, hcd'.members, hcd.keyed, hcd.plain]
  cases cmp.onMembers? c.members c'.members with
  | some b => exact .ok rfl
  | none => exact .error (Fault.alike_noOrder cmp.sign)

theorem together_compare {h' k' : Handle} (hk : h.Twins k) (hk' : h'.Twins k') (cmp : Comparison) :
    Together known vars (fun b b' => b' = b) (compare cmp (.handle h) (.handle h'))
      (compare cmp (.handle k) (.handle k')) := by
  unfold compare
  refine together_get.bind fun s t hst => ?_
  have hsame := hst.untouched.sameness_isByKey hst.apart
  have hsame' := hst.untouched'.sameness_isByKey hst.apart
  refine (together_fetch hk).bind fun c d hcd => ?_
  refine (together_fetch hk').bind fun c' d' hcd' => ?_
  exact together_ofExcept (alike_compare hcd hcd' hsame hsame' cmp)

theorem together_operate {h' k' : Handle} (hk : h.Twins k) (hk' : h'.Twins k') (op : Operator) :
    Together known vars (Value.Twins known) (operate op (.handle h) (.handle h'))
      (operate op (.handle k) (.handle k')) := by
  cases op with
  | compare cmp => exact (together_compare hk hk' cmp).answer
  | make make => exact together_combine hk hk' make
  | makeInPlace make => exact together_combine hk hk' make

theorem together_operateNamed (hname : HoldsSet vars name) (hother : HoldsSet vars other)
    (op : Operator) : Together known vars (Value.Twins known)
      (do operate op (← (Term.named name).eval) (← (Term.named other).eval))
      (do operate op (← (Term.named name).eval) (← (Term.named other).eval)) := by
  have heval : ∀ name, (Term.named name).eval = valueOf name := fun _ => rfl
  rw [heval, heval]
  refine (together_setOf hname).bind fun v w ⟨h, k, hk, hv, hw⟩ => ?_
  refine (together_setOf hother).bind fun v' w' ⟨h', k', hk', hv', hw'⟩ => ?_
  rw [hv, hw, hv', hw']
  exact together_operate hk hk' op

end Act

end ValueSets
