import ValueSets.Proofs.Session.Steps

/-!
# Calls on the set in a variable

In an untouched session no value has operations of its own. So calling a method on a variable that
holds a set is nothing but assigning the arguments to the parameters, and then what the method does
to that set: `Act.outcome_call`, `Act.outcome_popFirstOf`. The equations below say so for every way
in which a step names a set.
-/

set_option autoImplicit false

namespace ValueSets

open Session

namespace Act

variable {t : Session} {h : Handle} {v : Value} {name operation : String} {m : Method}
  {args : List Value} {named bound : List (String × Value)}

theorem outcome_valueOf (hv : t.value? name = some v) : outcome (valueOf name) t = (.ok v, t) := by
  unfold valueOf
  rw [outcome_bind, outcome_get]
  simp only [hv, outcome_pure]

/-- No value has anything of its own under a name, not even a configuration. -/
theorem outcome_ownField? (ht : t.Untouched) (v : Value) (name : String) :
    outcome (ownField? v name) t = (.ok none, t) := by
  unfold ownField?
  rw [outcome_bind, outcome_get]
  dsimp only
  split
  · rw [ht.inside?_eq]
    rfl
  · rename_i hv
    rw [ht.ownFields_eq hv, List.lookup_nil, outcome_pure]

theorem outcome_checkCall (ht : t.Untouched) (v : Value) (operation : String) :
    outcome (checkCall v operation) t = (.ok (), t) := by
  unfold checkCall
  rw [outcome_bind_of_ok (outcome_ownField? ht v operation), outcome_pure]

theorem outcome_calledOf (ht : t.Untouched) (hv : t.value? name = some v) (operation : String) :
    outcome (calledOf name operation) t = (.ok v, t) := by
  unfold calledOf
  rw [outcome_bind_of_ok (outcome_valueOf hv), outcome_bind_of_ok (outcome_checkCall ht v _),
    outcome_pure]

theorem outcome_callOwn? (ht : t.Untouched) (v : Value) (operation : String) :
    outcome (callOwn? v operation) t = (.ok none, t) := by
  unfold callOwn?
  rw [outcome_bind_of_ok (outcome_ownField? ht v operation), outcome_pure]

theorem outcome_bindCall (sig : Signature) (args : List Value) (named : List (String × Value))
    (t : Session) : outcome (bindCall sig args named) t =
      ((sig.bind args named).mapError Fault.call, t) := by
  unfold bindCall
  cases sig.bind args named <;> rfl

/-- A method that is called on a variable which holds a set is called on that set. -/
theorem outcome_call (ht : t.Untouched) (hv : t.value? name = some (.handle h)) (m : Method)
    (args : List Value) (named : List (String × Value)) :
    outcome (call m name args named) t = outcome (callSet m h args named) t := by
  unfold call
  rw [outcome_bind, outcome_calledOf ht hv]
  simp only
  split
  · rw [outcome_bind, outcome_callOwn? ht]
  · rfl

/-- A method that is asked of a type in a variable is called as the type defines it. -/
theorem outcome_call_of_type (ht : t.Untouched) {ty home : Ty}
    (hv : t.value? name = some (.type ty)) (hhome : m.homeIn? ty = some home)
    (args : List Value) (named : List (String × Value)) :
    outcome (call m name args named) t = outcome (callUnbound home m args named) t := by
  unfold call
  rw [outcome_bind, outcome_calledOf ht hv]
  simp only [hhome]
  split
  · rw [outcome_bind, outcome_callOwn? ht]
  · rfl

theorem callIn_storage (m : Method) (h : Handle) (args : List Value)
    (bound : List (String × Value)) :
    callIn (Method.storage h.cls) m (.handle h) args bound = callStored m h args bound := by
  have hinMemory : SetClass.inMemory.isKeyed = true := rfl
  cases hkeyed : h.cls.isKeyed with
  | true => simp [Method.storage, callIn, hkeyed, hinMemory]
  | false => simp [Method.storage, callIn, hkeyed]

/-- A method is found where the members of a set are kept, or does to it what it does to all sets
alike. Where members are kept by key this is also so of copying and of taking out a member, which
other classes leave to what is derived. -/
theorem callIn_home (hm : h.cls.isKeyed = true ∨ m ≠ .pop ∧ m ≠ .copy) (args : List Value)
    (bound : List (String × Value)) :
    callIn (m.home h.cls) m (.handle h) args bound = callStored m h args bound := by
  cases m with
  | hasAll | hasAny | size | unsortedList => rfl
  | insert | delete | has | clear => exact callIn_storage _ h args bound
  | copy | pop =>
    unfold Method.home
    rw [if_pos (hm.resolve_right (by simp))]
    exact callIn_storage _ h args bound

/-- A call that is not refused does what the method does to the set. -/
theorem outcome_callSet (m : Method) (h : Handle) (args : List Value)
    (named : List (String × Value)) (t : Session) :
    outcome (callSet m h args named) t =
      match (m.signature h.cls).bind (.handle h :: args) named with
      | .ok bound => outcome (callIn (m.home h.cls) m (.handle h) args bound) t
      | .error fault => (.error (.call fault), t) := by
  unfold callSet
  rw [outcome_bind, outcome_bindCall]
  cases (m.signature h.cls).bind (.handle h :: args) named <;> rfl

theorem outcome_popFirstOf (hv : t.value? name = some (.handle h)) (args : List Value) :
    outcome (popFirstOf name args) t =
      match (Method.pop.signatureIn .collection).bind (.handle h :: args) [] with
      | .ok bound => outcome (popFirst (.handle h) bound) t
      | .error fault => (.error (.call fault), t) := by
  unfold popFirstOf
  rw [outcome_bind, outcome_valueOf hv]
  simp only
  rw [outcome_bind, outcome_bindCall]
  cases (Method.pop.signatureIn .collection).bind (.handle h :: args) [] <;> rfl

/-- The default of a call is found without a change. -/
theorem outcome_defaultOf (bound : List (String × Value)) (t : Session) :
    (outcome (defaultOf bound) t).2 = t := by
  unfold defaultOf
  cases bound.lookup "default" <;> rfl

/-- A change by a method that answers nothing. -/
theorem outcome_mutate_null {change : (Collection → Sameness) → Collection → Mutation Unit}
    (t : Session) : outcome (do mutate h change; return .null : Act Value) t =
      ((change (fun c => (t.store h c).sameness) (t.collection h)).1.map fun _ => Value.null,
        t.store h (change (fun c => (t.store h c).sameness) (t.collection h)).2) := by
  rw [outcome_bind, outcome_mutate]
  cases (change (fun c => (t.store h c).sameness) (t.collection h)).1 <;> rfl

end Act

end ValueSets
