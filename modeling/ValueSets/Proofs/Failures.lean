import ValueSets.Proofs.MixedTypes
import ValueSets.Proofs.Session.Faults

/-!
# How requests to sets by key fail

A request calls a method of a set by key, lists or prints it, or takes a second one as its operand.
`Step.Faults` says for which reasons a request may fail: an element that the set does not take is
rejected, one that cannot be hashed is refused, and an empty set has no member to give up. Nothing
else goes wrong, neither while members are compared for a listing nor while they are printed, since
the members of a set by key are hashable and of its element type.

The report of a rejection shows the rejected element. Printing it may fail where the element cannot
be hashed itself, since it may be a set that is kept as a list, whose members have no order; then
this is what is reported. `Session.request_decided` puts this together.
-/

set_option autoImplicit false

namespace ValueSets

open Session Value Act

/-! ## Requests -/

/-- The elements that a method is called with. -/
def Method.elements (m : Method) (args : List Value) (bound : List (String × Value)) :
    List Value :=
  match m with
  | .insert | .delete | .hasAll | .hasAny => args
  | .has => [(bound.lookup "element").getD .null]
  | .clear | .size | .unsortedList | .copy | .pop => []

/-- Whether a variable holds a set by key. -/
structure Session.Holds (s : Session) (name : String) (h : Handle) : Prop where
  value : s.value? name = some (.handle h)
  keyed : h.cls.isKeyed = true

/-- Whether a step is a request to a set by key: its arguments are those that the method has
parameters for, and its operand, if it has one, is a set by key, too. -/
inductive Step.IsRequest (s : Session) (args : List Value) (named : List (String × Value)) :
    Step → Prop
  | call {m : Method} {on : String} {h : Handle} {bound : List (String × Value)} : s.Holds on h →
    (m.signature h.cls).bind (.handle h :: args) named = .ok bound →
    IsRequest s args named (.call m on)
  | list {on : String} {h : Handle} : s.Holds on h → IsRequest s args named (.list on none)
  | print {on : String} {h : Handle} : s.Holds on h → IsRequest s args named (.print on)
  | combine {op : SetOperator} {on other : String} {h k : Handle} : s.Holds on h →
    s.Holds other k → IsRequest s args named (.combine op on other)
  | ask {q : Question} {on other : String} {h k : Handle} : s.Holds on h →
    s.Holds other k → IsRequest s args named (.ask q on other)

/-! ## Reasons -/

/-- The reasons for which a method of a set by key may fail. -/
inductive Method.Faults (c : Collection) (args : List Value) (bound : List (String × Value)) :
    Method → Fault → Prop
  | rejected {t : Ty} {x : Value} : c.config.elementType = some t → x ∈ args →
    t.takes x = false → Faults c args bound .insert (.rejected c.cls x t)
  | unhashable {m : Method} {x : Value} : x ∈ m.elements args bound → c.takes x = true →
    x.isHashable = false → Faults c args bound m (.unhashable x)
  | empty : c.members = [] → bound.lookup "default" = none → Faults c args bound .pop .emptySet

/-- The reasons for which an operation on two sets by key may fail: one of those that take up
members of the second set meets one that the first does not take. -/
inductive SetOperator.Faults (c d : Collection) : SetOperator → Fault → Prop
  | rejected {op : SetOperator} {t : Ty} {x : Value} : op = .union ∨ op = .symmetricDifference →
    c.config.elementType = some t → x ∈ d.members → t.takes x = false →
    Faults c d op (.rejected c.cls x t)

/-- The reasons for which a request may fail. Listing, printing and questions have none. -/
inductive Step.Faults (s : Session) (args : List Value) (named : List (String × Value)) :
    Step → Fault → Prop
  | call {m : Method} {on : String} {h : Handle} {bound : List (String × Value)} {fault : Fault} :
    s.value? on = some (.handle h) →
    (m.signature h.cls).bind (.handle h :: args) named = .ok bound →
    m.Faults (s.collection h) args bound fault → Faults s args named (.call m on) fault
  | combine {op : SetOperator} {on other : String} {h k : Handle} {fault : Fault} :
    s.value? on = some (.handle h) → s.value? other = some (.handle k) →
    op.Faults (s.collection h) (s.collection k) fault →
    Faults s args named (.combine op on other) fault

/-- Whether the elements that a request is given are hashable and taken by its receiver, and its
operand, if it has one, has the element type of the receiver. -/
def Step.Fits (s : Session) (args : List Value) (named : List (String × Value)) : Step → Prop
  | .call m on => ∀ h bound, s.value? on = some (.handle h) →
    (m.signature h.cls).bind (.handle h :: args) named = .ok bound →
    ∀ x ∈ m.elements args bound, x.isHashable = true ∧ (s.collection h).takes x = true
  | .combine _ on other => ∀ h k, s.value? on = some (.handle h) →
    s.value? other = some (.handle k) →
    (s.collection k).config.elementType = (s.collection h).config.elementType
  | _ => True

/-- The category under which a fault is reported in a session. -/
def Fault.reportedAs (f : Fault) (s : Session) : Fault.Category := (f.report.run s).1.category

/-! ## Methods -/

namespace Keyed

variable {c : Collection} {xs : List Value} {x : Value} {fault : Fault}

/-- Adding fails at an element that the set does not take or, if it takes all, at one that cannot be
hashed. -/
theorem insert_eq_error (h : insert c xs = .error fault) :
    (∃ t x, c.config.elementType = some t ∧ x ∈ xs ∧ t.takes x = false ∧
      fault = .rejected c.cls x t) ∨
    ∃ x ∈ xs, c.takes x = true ∧ x.isHashable = false ∧ fault = .unhashable x := by
  rcases insert_cases c xs with
    ⟨t, x, ht, hrejected, hinsert⟩ | ⟨htakes, ⟨x, hx, hhash, hinsert⟩ | ⟨-, hinsert⟩⟩
  · cases h.symm.trans hinsert
    exact .inl ⟨t, x, ht, List.mem_of_find?_eq_some hrejected,
      by simpa using List.find?_some hrejected, rfl⟩
  · cases h.symm.trans hinsert
    exact .inr ⟨x, hx, htakes x hx, hhash, rfl⟩
  · cases h.symm.trans hinsert

/-- Asking fails for an element that the set takes and that cannot be hashed. -/
theorem has_eq_error (h : has c x = .error fault) :
    c.takes x = true ∧ x.isHashable = false ∧ fault = .unhashable x := by
  unfold has at h
  split at h
  · cases h
  · rename_i htakes
    split at h
    · rename_i hhash
      cases h
      exact ⟨by simpa using htakes, by simpa using hhash, rfl⟩
    · cases h

end Keyed

namespace Act

variable {t : Session} {h : Handle} {m : Method} {args : List Value}
  {bound : List (String × Value)}

/-- Taking out a member fails where there is none and no default is given. -/
theorem failsFor_popWith (hc : (t.collection h).Lawful) :
    FailsFor (Method.Faults (t.collection h) args bound .pop) t
      (popWith h (fun same c => c.pop same) bound) := by
  unfold popWith
  refine FailsFor.bind (fun fault u hfault => ?_) fun taken u htaken => ?_
  · rw [outcome_mutate, hc.pop_eq] at hfault
    cases hfault
  · rw [outcome_mutate, hc.pop_eq] at htaken
    cases taken with
    | some x => exact failsFor_pure x
    | none =>
      have hnil : (t.collection h).members = [] :=
        List.getLast?_eq_none_iff.1 (Except.ok.inj (congrArg Prod.fst htaken))
      unfold defaultOf
      cases hdefault : bound.lookup "default" with
      | some v => exact failsFor_pure v
      | none =>
        intro fault w hfault
        cases hfault
        exact .empty hnil hdefault

/-- A question about elements fails at one of them. -/
theorem failsFor_ask {question : Sameness → Collection → Except Fault Bool}
    {allowed : Fault → Prop}
    (hquestion : ∀ fault, question t.sameness (t.collection h) = .error fault → allowed fault) :
    FailsFor allowed t (do return .bool (← ask h question) : Act Value) := by
  refine FailsFor.bind (fun fault u hfault => ?_) fun _ _ _ => failsFor_pure _
  rw [outcome_ask] at hfault
  exact hquestion fault (congrArg Prod.fst hfault)

/-- A change by a method that answers nothing fails as the change does. -/
theorem failsFor_mutate_null {change : (Collection → Sameness) → Collection → Mutation Unit}
    {allowed : Fault → Prop}
    (hchange : ∀ same fault, (change same (t.collection h)).1 = .error fault → allowed fault) :
    FailsFor allowed t (do mutate h change; return .null : Act Value) := by
  refine FailsFor.bind (fun fault u hfault => ?_) fun _ _ _ => failsFor_pure _
  rw [outcome_mutate] at hfault
  exact hchange _ fault (congrArg Prod.fst hfault)

/-- What a method does to a set by key fails for one of the reasons of the method. -/
theorem failsFor_callStored (hc : (t.collection h).Lawful) (hkeyed : h.cls.isKeyed = true) :
    FailsFor (m.Faults (t.collection h) args bound) t (callStored m h args bound) := by
  have hhas : ∀ m : Method, ∀ same, ∀ x ∈ m.elements args bound, ∀ fault,
      (t.collection h).has same x = .error fault → m.Faults (t.collection h) args bound fault := by
    intro m same x hx fault hfault
    rw [hc.has_eq] at hfault
    obtain ⟨htakes, hhash, rfl⟩ := Keyed.has_eq_error hfault
    exact .unhashable hx htakes hhash
  cases m with
  | insert =>
    refine failsFor_mutate_null fun same fault hfault => ?_
    rw [hc.insert_eq] at hfault
    split at hfault
    · cases hfault
    · rename_i first hinsert
      cases hfault
      rcases Keyed.insert_eq_error hinsert with
        ⟨e, x, he, hx, htakes, rfl⟩ | ⟨x, hx, htakes, hhash, rfl⟩
      · exact .rejected he hx htakes
      · exact .unhashable hx htakes hhash
  | delete =>
    refine failsFor_mutate_null fun same fault hfault => ?_
    rw [hc.delete_eq] at hfault
    obtain ⟨before, x, after, rfl, rfl, hhash, htakes, -⟩ :=
      Keyed.delete_eq_error (Prod.ext hfault rfl)
    exact .unhashable (by simp [Method.elements]) htakes hhash
  | has =>
    exact failsFor_ask fun fault hfault => hhas .has _ _ (by simp [Method.elements]) fault hfault
  | hasAll =>
    refine failsFor_ask fun fault hfault => ?_
    obtain ⟨x, hx, hfault⟩ := Fallible.exists_of_allM_eq_error hfault
    exact hhas .hasAll _ x hx fault hfault
  | hasAny =>
    refine failsFor_ask fun fault hfault => ?_
    obtain ⟨x, hx, hfault⟩ := Fallible.exists_of_anyM_eq_error hfault
    exact hhas .hasAny _ x hx fault hfault
  | clear => exact failsFor_mutate_null fun same fault hfault => by cases hfault
  | size => exact failsFor_bind_of_ok rfl (failsFor_fresh _)
  | unsortedList => exact failsFor_bind_of_ok rfl (failsFor_fresh _)
  | copy =>
    unfold callStored
    simp only
    refine failsFor_bind_of_ok (outcome_fetch h t) (failsFor_bind_of_ok rfl ?_)
    rw [hc.copy_eq, hkeyed]
    refine failsFor_bind_of_ok (outcome_ofExcept _ t) ?_
    exact (failsFor_allocateCopy hc.ownConfig).bind fun _ _ _ => failsFor_pure _
  | pop => exact failsFor_popWith hc

end Act

/-! ## Operations on two sets -/

/-- An operation on two lawful sets fails for one of its reasons. -/
theorem SetOperator.faults_of_combine {c d : Collection} (hc : c.Lawful) (hd : d.Lawful)
    {same : Sameness} {op : SetOperator} {fault : Fault} (h : c.combine same op d = .error fault) :
    op.Faults c d fault := by
  have hunion : ∀ {op : SetOperator}, op = .union ∨ op = .symmetricDifference →
      c.union same d = .error fault → op.Faults c d fault := by
    intro op hop hfault
    rw [hc.union_eq, Keyed.insert_eq_error_iff hd.hashable] at hfault
    obtain ⟨t, x, ht, hx, rfl⟩ := hfault
    exact .rejected hop ht (List.mem_of_find?_eq_some hx) (by simpa using List.find?_some hx)
  cases op with
  | union => exact hunion (.inl rfl) h
  | symmetricDifference =>
    exact hunion (.inr rfl) ((hc.symmetricDifference_eq_error_iff same hd).1 h)
  | intersection => cases (hc.intersection_eq same hd).symm.trans h
  | difference => cases (hc.difference_eq same hd).symm.trans h

/-- A question about two lawful sets has an answer. -/
theorem Question.exists_answer {c d : Collection} (hc : c.Lawful) (hd : d.Lawful) (q : Question)
    (same : Sameness) : ∃ b, q.answer same c d = .ok b := by
  cases q with
  | isSuperset => exact ⟨_, hc.isSuperset_eq same hd⟩
  | isSubset => exact ⟨_, hd.isSuperset_eq same hc⟩
  | equal => exact ⟨_, hc.equal_eq same hd⟩

namespace Session.Holds

variable {s t : Session} {on : String} {h : Handle}

theorem grounded (hs : s.Sound) (hon : s.Holds on h) : (Value.handle h).Grounded s.classes :=
  hs.value hon.value

theorem lawful (hs : s.Sound) (hon : s.Holds on h) : (s.collection h).Lawful :=
  (hs.behind (hon.grounded hs)).lawful hon.keyed

/-- What leaves the sets and variables alone leaves a variable with the set that it holds. -/
theorem like (ht : s.Like t) (hon : s.Holds on h) : t.Holds on h :=
  ⟨(ht.value?_eq on).trans hon.value, hon.keyed⟩

theorem collection_eq (hs : s.Sound) (ht : s.Like t) (hon : s.Holds on h) :
    t.collection h = s.collection h := ht.collection_eq hs (hon.grounded hs)

end Session.Holds

namespace Act

variable {t : Session} {on other : String} {h k : Handle} {args : List Value}
  {named bound : List (String × Value)} {m : Method} {allowed : Fault → Prop}

/-- A method that is called on a variable with a set by key does to that set what it does to sets
kept so. -/
theorem outcome_call_of_holds (ht : t.Sound) (hon : t.Holds on h)
    (hbound : (m.signature h.cls).bind (.handle h :: args) named = .ok bound) :
    outcome (call m on args named) t = outcome (callStored m h args bound) t := by
  rw [outcome_call ht.untouched hon.value, outcome_callSet, hbound]
  simp only
  rw [callIn_home (.inl hon.keyed)]

theorem failsFor_call (ht : t.Sound) (hon : t.Holds on h)
    (hbound : (m.signature h.cls).bind (.handle h :: args) named = .ok bound) :
    FailsFor (m.Faults (t.collection h) args bound) t (call m on args named) := by
  intro fault u hfault
  rw [outcome_call_of_holds ht hon hbound] at hfault
  exact failsFor_callStored (hon.lawful ht) hon.keyed fault u hfault

theorem failsFor_listOf (ht : t.Sound) (hon : t.Holds on h) :
    FailsFor allowed t (listOf on none) := by
  obtain ⟨ys, log, hlist, -⟩ := exists_outcome_list (hon.lawful ht) t
  refine failsFor_bind_of_ok (outcome_calledOf ht.untouched hon.value "list") ?_
  exact failsFor_bind_of_ok (outcome_fetch h t) (failsFor_bind_of_ok hlist (failsFor_fresh _))

theorem failsFor_printed (ht : t.Sound) (hon : t.Holds on h) :
    FailsFor allowed t (printed on) := by
  obtain ⟨ys, log, -, hprint⟩ := exists_outcome_print_handle ht.untouched
    (ht.collections_ne_nil (hon.grounded ht)) (hon.lawful ht) (ht.behind (hon.grounded ht)).members
  refine failsFor_bind_of_ok (outcome_valueOf hon.value) ?_
  exact failsFor_bind_of_ok hprint (failsFor_create _)

theorem failsFor_combineVariables (ht : t.Sound) (hon : t.Holds on h) (hother : t.Holds other k)
    (op : SetOperator) :
    FailsFor (op.Faults (t.collection h) (t.collection k)) t (combineVariables op on other) := by
  refine failsFor_bind_of_ok (outcome_calledOf ht.untouched hon.value op.name) ?_
  refine failsFor_bind_of_ok (outcome_valueOf hother.value) ?_
  refine failsFor_bind_of_ok (outcome_fetch h t) (failsFor_bind_of_ok rfl ?_)
  refine failsFor_bind_of_ok (outcome_fetch k t) (failsFor_answerSet ht ?_ ?_)
  · exact fun fault => SetOperator.faults_of_combine (hon.lawful ht) (hother.lawful ht)
  · exact fun c hc => ((hon.lawful ht).proper.combine hc).proper.ownConfig

theorem failsFor_askVariables (ht : t.Sound) (hon : t.Holds on h) (hother : t.Holds other k)
    (q : Question) : FailsFor allowed t (askVariables q on other) := by
  obtain ⟨b, hb⟩ := q.exists_answer (hon.lawful ht) (hother.lawful ht) t.sameness
  refine failsFor_bind_of_ok (outcome_calledOf ht.untouched hon.value q.name) ?_
  refine failsFor_bind_of_ok (outcome_valueOf hother.value) ?_
  refine failsFor_bind_of_ok rfl (failsFor_bind_of_ok (outcome_fetch h t) ?_)
  refine failsFor_bind_of_ok (outcome_fetch k t) (failsFor_ofExcept fun fault hfault => ?_)
  cases hb.symm.trans hfault

end Act

/-! ## Requests -/

namespace Step

variable {s t : Session} {step : Step} {args : List Value} {named : List (String × Value)}
  {fault : Fault}

/-- A request fails for one of its reasons. -/
theorem failsFor_run (hs : s.Sound) (ht : s.Like t) (hrequest : step.IsRequest s args named) :
    FailsFor (step.Faults s args named) t (step.run args named) := by
  cases hrequest with
  | call hon hbound =>
    intro fault u h
    refine .call hon.value hbound ?_
    rw [← hon.collection_eq hs ht]
    exact failsFor_call ht.sound (hon.like ht) hbound fault u h
  | list hon => exact failsFor_listOf ht.sound (hon.like ht)
  | print hon => exact failsFor_printed ht.sound (hon.like ht)
  | @combine op on other h k hon hother =>
    intro fault u h
    refine .combine hon.value hother.value ?_
    rw [← hon.collection_eq hs ht, ← hother.collection_eq hs ht]
    exact failsFor_combineVariables ht.sound (hon.like ht) (hother.like ht) op fault u h
  | @ask q on other h k hon hother =>
    exact (failsFor_askVariables ht.sound (hon.like ht) (hother.like ht) q).bind
      fun _ _ _ => failsFor_pure _

/-- A request leaves configurations what they are. -/
theorem IsRequest.isPlain (hrequest : step.IsRequest s args named) (given : List (String × Value)) :
    step.IsPlain given := by
  cases hrequest <;> trivial

/-- A request that fits its receiver fails at most where the receiver is empty. -/
theorem IsRequest.eq_emptySet (hs : s.Sound) (hrequest : step.IsRequest s args named)
    (hfits : step.Fits s args named) (hfault : step.Faults s args named fault) :
    fault = .emptySet := by
  cases hfault with
  | call hvalue hbound hmethod =>
    have helements := hfits _ _ hvalue hbound
    cases hmethod with
    | rejected ht hx htakes =>
      have htaken := (helements _ hx).2
      simp [Collection.takes, ht, htakes] at htaken
    | unhashable hx _ hhash =>
      rw [(helements _ hx).1] at hhash
      cases hhash
    | empty _ _ => rfl
  | combine hvalue hother hop =>
    cases hop with
    | rejected _ ht hx htakes =>
      cases hrequest with
      | combine hon hk =>
        cases Option.some.inj (hk.value.symm.trans hother)
        have htaken := (hk.lawful hs).taken _ hx
        simp [Collection.takes, hfits _ _ hvalue hother, ht, htakes] at htaken

end Step

/-! ## Reports -/

namespace Fault

variable {f : Fault} {s : Session} {v : Value} {t : Ty}

/-- A fault that is no rejection is reported as what it is. -/
theorem reportedAs_of_isFixed (hf : f.IsFixed) : f.reportedAs s = f.category := by
  unfold reportedAs report
  split
  · cases hf
  · rfl

/-- A rejection is reported as one if the element can be shown, and else it is reported why not. -/
theorem reportedAs_rejected (cls : SetClass) : (rejected cls v t).reportedAs s =
    match (outcome (showRejected cls v) s).1 with
      | .ok _ => .elementType
      | .error g => g.category := by
  unfold reportedAs report outcome
  simp only [StateT.run_bind]
  cases h : (showRejected cls v).run.run s with
  | mk r u => cases r <;> rfl

/-- A rejection is handed over to the log before the element is printed. -/
theorem outcome_showRejected (cls : SetClass) (v : Value) (s : Session) :
    outcome (showRejected cls v) s =
      outcome (print v) { s with log := s.log ++ [.rejection cls v] } := by
  unfold showRejected
  rw [outcome_bind]
  rfl

/-- The rejection of a hashable element is reported as one. -/
theorem reportedAs_rejected_of_isHashable {classes : List SetClass} (hs : s.Untouched)
    (cls : SetClass) (hv : v.isHashable = true) (hground : v.Grounded classes) :
    (rejected cls v t).reportedAs s = .elementType := by
  have hnoted : Session.Untouched { s with log := s.log ++ [.rejection cls v] } :=
    ⟨hs.reached, hs.fields⟩
  rw [reportedAs_rejected, outcome_showRejected,
    outcome_print_of_isHashable hnoted hv hground]

end Fault

namespace Step

variable {s v : Session} {step : Step} {args : List Value} {named : List (String × Value)}
  {fault : Fault}

/-- Whether a fault is the rejection of an element to be added that cannot be hashed, and cannot be
shown in the session `v` either, which is reported in place of the rejection. -/
def ReportsPrinting (step : Step) (args : List Value) (fault : Fault) (v : Session) : Prop :=
  ∃ on cls x t g, step = .call .insert on ∧ x ∈ args ∧ x.isHashable = false ∧
    fault = .rejected cls x t ∧ (outcome (Fault.showRejected cls x) v).1 = .error g ∧
    fault.reportedAs v = g.category

/-- What a request fails for is one of three things, and is reported as such, unless it is a
rejection that cannot be shown. -/
theorem IsRequest.reported (hs : s.Sound) (hv : v.Untouched)
    (hargs : AllGrounded s.classes args) (hrequest : step.IsRequest s args named)
    (hfault : step.Faults s args named fault) :
    (fault.category = .elementType ∨ fault.category = .unhashable ∨ fault.category = .emptySet) ∧
      (fault.reportedAs v = fault.category ∨ step.ReportsPrinting args fault v) := by
  cases hfault with
  | @call m on h bound _ hvalue hbound hmethod =>
    cases hmethod with
    | @rejected t x ht hx htakes =>
      refine ⟨.inl rfl, ?_⟩
      cases hhash : x.isHashable with
      | true => exact .inl (Fault.reportedAs_rejected_of_isHashable hv _ hhash (hargs x hx))
      | false =>
        cases hshown : (outcome (Fault.showRejected (s.collection h).cls x) v).1 with
        | ok shown =>
          refine .inl ?_
          rw [Fault.reportedAs_rejected, hshown]
          rfl
        | error g =>
          refine .inr ⟨on, _, x, t, g, rfl, hx, hhash, rfl, hshown, ?_⟩
          rw [Fault.reportedAs_rejected, hshown]
    | unhashable _ _ _ => exact ⟨.inr (.inl rfl), .inl (Fault.reportedAs_of_isFixed rfl)⟩
    | empty _ _ => exact ⟨.inr (.inr rfl), .inl (Fault.reportedAs_of_isFixed rfl)⟩
  | combine hvalue hother hop =>
    cases hop with
    | rejected _ _ hx _ =>
      -- the rejected element is a member of the operand, so it is hashable
      cases hrequest with
      | combine _ hk =>
        cases Option.some.inj (hk.value.symm.trans hother)
        have hhash := (hk.lawful hs).hashable _ hx
        have hground := (hs.behind (hk.grounded hs)).members _ hx
        exact ⟨.inl rfl, .inl (Fault.reportedAs_rejected_of_isHashable hv _ hhash hground)⟩

end Step

namespace Session

variable {s u : Session} {i : Instruction} {args : List Value} {named : List (String × Value)}

/-- A request to a set by key succeeds or fails for one of its reasons: an element is rejected or
cannot be hashed, or an empty set has no member to give up. That is what is reported, unless an
element that cannot be hashed is rejected and cannot be printed either. Then the report is why not.
If the elements are hashable and taken by the receiver, and the operand has its element type, a
request fails at most where the receiver is empty. -/
theorem request_decided (hs : s.IsReachable)
    (hargs : outcome i.arguments s.begun = (.ok (args, named), u))
    (hrequest : i.step.IsRequest s args named) :
    (∃ w v, outcome i.attempt s.begun = (.ok w, v)) ∨
    ∃ fault v, outcome i.attempt s.begun = (.error fault, v) ∧ i.step.Faults s args named fault ∧
      (fault.category = .elementType ∨ fault.category = .unhashable ∨
        fault.category = .emptySet) ∧
      (fault.reportedAs v = fault.category ∨ i.step.ReportsPrinting args fault v) ∧
      (i.step.Fits s args named → fault.reportedAs v = .emptySet) := by
  obtain ⟨hu, hground⟩ := quiet_arguments i _ hs.sound.like_begun
  rw [hargs] at hu hground
  cases hattempt : outcome i.attempt s.begun with
  | mk r v =>
    cases r with
    | ok w => exact .inl ⟨w, v, rfl⟩
    | error fault =>
      have hrun : outcome (i.step.run args named) u = (.error fault, v) := by
        rw [Instruction.outcome_attempt, hargs] at hattempt
        exact hattempt
      have hfault := Step.failsFor_run hs.sound hu hrequest fault v hrun
      have hv : v.Untouched :=
        (hs.sound.attempt (fun _ given _ _ => hrequest.isPlain given) hattempt).1.sound.untouched
      obtain ⟨hcategory, hreported⟩ := hrequest.reported hs.sound hv (hground _ rfl).1 hfault
      refine .inr ⟨fault, v, rfl, hfault, hcategory, hreported, fun hfits => ?_⟩
      rw [hrequest.eq_emptySet hs.sound hfits hfault]
      exact Fault.reportedAs_of_isFixed rfl

/-- A set of whole numbers rejects a text, and the rejection is reported as one. -/
theorem request_decided_of_text :
    let s := ({} : Session).after
      { step := .construct .int, args := [.level .low], target? := some "a" }
    let i : Instruction := { step := .call .insert "a", args := [.text "x"] }
    ∃ args fault v, (outcome i.arguments s.begun).1 = .ok (args, []) ∧
      outcome i.attempt s.begun = (.error fault, v) ∧ i.step.Faults s args [] fault ∧
      fault.reportedAs v = .elementType := by
  intro s i
  let x : Value := .text "x"
  have hs : s.IsReachable :=
    .step .refl (Instruction.isPlain_of_no_config (by decide) Collection.hasPlainConfig_nil)
  have hargs : outcome i.arguments s.begun = (.ok ([x], []), (outcome i.arguments s.begun).2) := rfl
  let h : Handle := ⟨0, .int⟩
  have hbound : (Method.insert.signature h.cls).bind [.handle h, x] [] =
      .ok [("self", .handle h)] := rfl
  have hrequest : i.step.IsRequest s [x] [] := .call ⟨rfl, rfl⟩ hbound
  have hrejected : (outcome i.attempt s.begun).1 = .error (.rejected .int x .int) := rfl
  rcases request_decided hs hargs hrequest with
    ⟨w, v, hsuccess⟩ | ⟨fault, v, hattempt, hfault, -, hreported, -⟩
  · rw [hsuccess] at hrejected
    cases hrejected
  · rw [hattempt] at hrejected
    cases hrejected
    refine ⟨[x], _, v, rfl, hattempt, hfault, ?_⟩
    rcases hreported with hreported | ⟨-, -, y, -, g, -, hy, hhash, -⟩
    · exact hreported
    · cases List.mem_singleton.1 hy
      cases hhash

/-- A set of texts is to take up a set that is kept as a list, whose configuration asks for the
order of whole numbers though a text is among its members. The rejection cannot be shown, so what is
reported is that a text and a truth value have no order. -/
theorem refusal_without_order :
    let s := ((({} : Session).after
      { step := .configure, named := [("element_type", .type .int)], target? := some "c" }).after
      { step := .construct .plain, args := [.bool true, .text "a"],
        named := [("config", .named "c")], target? := some "p" }).after
      { step := .construct .string, target? := some "s" }
    let i : Instruction := { step := .call .insert "s", args := [.named "p"] }
    s.IsReachable ∧ ∃ args fault v, (outcome i.arguments s.begun).1 = .ok (args, []) ∧
      i.step.IsRequest s args [] ∧ outcome i.attempt s.begun = (.error fault, v) ∧
      fault.reportedAs v = .type := by
  intro s i
  let c : Config := { identity := 1, settings := { elementType := some .int } }
  let r : Session := ({} : Session).after
    { step := .configure, named := [("element_type", .type .int)], target? := some "c" }
  let j : Instruction :=
    { step := .construct .plain, args := [.bool true, .text "a"],
      named := [("config", .named "c")], target? := some "p" }
  have hr : r.IsReachable := .step .refl (Instruction.isPlain_of_no_config (by decide) trivial)
  have hj : j.IsPlain r := by
    intro args named t hargs v hv
    have hnamed : (outcome j.arguments r.begun).1 =
        .ok ([.bool true, .text "a"], [("config", .config c)]) := rfl
    rw [hargs] at hnamed
    cases hnamed
    exact .inr ⟨c, (Option.some.inj hv).symm⟩
  have hs : s.IsReachable :=
    .step (.step hr hj) (Instruction.isPlain_of_no_config (by decide) Collection.hasPlainConfig_nil)
  let h : Handle := ⟨1, .string⟩
  let x : Value := .handle ⟨0, .plain⟩
  have hbound : (Method.insert.signature h.cls).bind [.handle h, x] [] =
      .ok [("self", .handle h)] := rfl
  have hrequest : i.step.IsRequest s [x] [] := .call ⟨rfl, rfl⟩ hbound
  have hrejected : (outcome i.attempt s.begun).1 = .error (.rejected .string x .text) := rfl
  exact ⟨hs, _, _, (outcome i.attempt s.begun).2, rfl, hrequest, Prod.ext hrejected rfl, rfl⟩

end Session

end ValueSets
