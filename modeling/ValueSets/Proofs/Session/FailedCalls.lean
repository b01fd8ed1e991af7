import ValueSets.Proofs.Session.Reachable
import ValueSets.Proofs.Session.Receivers

/-!
# Failing actions, and what failing calls leave

`Act.FailsFor` says of an action that it fails in a session for allowed reasons only. There is a
rule for each way in which actions are put together, as there is for actions that leave the sets
alone, but the rules for two parts say what the first one leaves.

A call of a changing method on a set by key that fails leaves the set as it was, with one exception:
dropping elements stops at the one that it fails for, and by then has dropped what those before it
drop. `Collection.LeftBy` says which of the two it is, by the fault. Here it is shown of each way in
which a step calls a method on a set: on a variable that holds the set (`Act.leaves_callSet`), and
on a type, with the set as the first argument (`Act.leaves_callUnbound`).
-/

set_option autoImplicit false

namespace ValueSets

open Session Value

namespace Act

variable {α β : Type} {t u : Session} {allowed : Fault → Prop} {h : Handle}

/-! ## Reasons to fail -/

/-- Whether an action that begins in a session fails for allowed reasons only. -/
def FailsFor (allowed : Fault → Prop) (t : Session) (m : Act α) : Prop :=
  ∀ fault u, outcome m t = (.error fault, u) → allowed fault

theorem failsFor_of_ok {m : Act α} {a : α} {u : Session} (h : outcome m t = (.ok a, u)) :
    FailsFor allowed t m := by
  intro fault v hfault
  rw [h] at hfault
  cases hfault

theorem failsFor_pure (a : α) : FailsFor allowed t (pure a : Act α) := failsFor_of_ok rfl

theorem failsFor_ofExcept {e : Except Fault α} (he : ∀ fault, e = .error fault → allowed fault) :
    FailsFor allowed t (MonadExcept.ofExcept e : Act α) := by
  intro fault u h
  rw [outcome_ofExcept] at h
  exact he fault (congrArg Prod.fst h)

/-- An action in two parts fails as the first part does, or as the second does after it. -/
theorem FailsFor.bind {m : Act α} {f : α → Act β} (hm : FailsFor allowed t m)
    (hf : ∀ a u, outcome m t = (.ok a, u) → FailsFor allowed u (f a)) :
    FailsFor allowed t (m >>= f) := by
  intro fault v h
  rw [outcome_bind] at h
  cases hout : outcome m t with
  | mk r u =>
    rw [hout] at h
    cases r with
    | error first =>
      cases h
      exact hm fault _ hout
    | ok a => exact hf a u hout fault v h

/-- An action fails as its second part does if the first one is known to succeed. -/
theorem failsFor_bind_of_ok {m : Act α} {f : α → Act β} {a : α} {u : Session}
    (h : outcome m t = (.ok a, u)) (hf : FailsFor allowed u (f a)) :
    FailsFor allowed t (m >>= f) :=
  (failsFor_of_ok h).bind fun b w hb => by
    rw [h] at hb
    cases hb
    exact hf

theorem outcome_fetch (h : Handle) (t : Session) :
    outcome (fetch h) t = (.ok (t.collection h), t) := rfl

/-! ## What is left of a set -/

variable {m : Method} {home : Ty} {xs args : List Value} {named bound : List (String × Value)}
  {r : Except Fault Value} {d : Collection}

/-- Whether an action ends with a set in place of the one behind a handle that a failing call of a
method leaves of it, if it fails. -/
def Leaves (t : Session) (h : Handle) (m : Method) (xs : List Value)
    (out : Except Fault Value × Session) : Prop :=
  ∃ d, out.2.collections = t.collections.set h.index d ∧
    ∀ fault, out.1 = .error fault → (t.collection h).LeftBy m xs fault d

/-- An action that leaves the sets alone and fails for no element leaves a set as it is. -/
theorem leaves_of_like (ht : t.Sound) (hh : (Value.handle h).Grounded t.classes) (hu : t.Like u)
    (hr : ∀ x, m = .delete → r ≠ .error (.unhashable x)) : Leaves t h m xs (r, u) := by
  refine ⟨t.collection h, hu.collections.trans (ht.behind hh).set_self.symm, fun fault hfault => ?_⟩
  refine Collection.leftBy_self (fun x hm heq => hr x hm ?_) xs _
  rw [← heq]
  exact hfault

theorem leaves_store (hd : ∀ fault, r = .error fault → (t.collection h).LeftBy m xs fault d) :
    Leaves t h m xs (r, t.store h d) := ⟨d, rfl, hd⟩

theorem leaves_refused (ht : t.Sound) (hh : (Value.handle h).Grounded t.classes)
    (fault : CallFault) : Leaves t h m xs (.error (.call fault), t) :=
  leaves_of_like ht hh (Like.refl ht) fun _ _ => by simp

/-! ## Methods of sets -/

/-- Taking out a member fails only if there is none, and has then changed nothing. -/
theorem leaves_popWith {take : (Collection → Sameness) → Collection → Mutation (Option Value)}
    (hcases : ∀ same, ((t.collection h).members = [] ∧
        take same (t.collection h) = (.ok none, t.collection h)) ∨
      ∃ x, take same (t.collection h) = (.ok (some x),
        (t.collection h).holding (Members.drop (t.collection h).members x))) :
    Leaves t h .pop xs (outcome (popWith h take bound) t) := by
  unfold popWith
  rw [outcome_bind, outcome_mutate]
  rcases hcases fun c => (t.store h c).sameness with ⟨-, htake⟩ | ⟨x, htake⟩
  · rw [htake]
    refine ⟨t.collection h, ?_, fun fault _ => Collection.leftBy_self (fun _ hm => ?_) xs _⟩
    · simp only [outcome_defaultOf]
      rfl
    · cases hm
  · rw [htake]
    exact leaves_store fun fault hfault => by cases hfault

theorem leaves_popFirst (hc : (t.collection h).Lawful) :
    Leaves t h .pop xs (outcome (popFirst (.handle h) bound) t) :=
  leaves_popWith fun same => hc.popFirst_cases same

theorem leaves_callStored (hm : m.mutates = true) (hc : (t.collection h).Lawful) :
    Leaves t h m xs (outcome (callStored m h xs bound) t) := by
  have hfailed : ∀ {e : Except Fault Unit} {fault : Fault},
      (e.map fun _ => Value.null) = .error fault → e = .error fault := by
    intro e fault he
    cases e with
    | ok _ => cases he
    | error _ =>
      cases he
      rfl
  cases m with
  | insert =>
    unfold callStored
    simp only
    rw [outcome_mutate_null]
    exact leaves_store fun fault hfault => hc.leftBy_insert (hfailed hfault)
  | delete =>
    unfold callStored
    simp only
    rw [outcome_mutate_null]
    exact leaves_store fun fault hfault => hc.leftBy_delete (hfailed hfault)
  | clear =>
    unfold callStored
    simp only
    rw [outcome_mutate_null]
    exact leaves_store fun fault hfault => by cases hfault
  | pop => exact leaves_popWith fun same => hc.pop_cases same
  | has | hasAll | hasAny | size | unsortedList | copy => cases hm

/-- A set without the storage that a method asks for lacks a field, whatever the elements are. -/
theorem failsFor_callWithoutStorage (hm : m.mutates = true) (ht : t.Sound) :
    FailsFor (fun fault => ∀ x, fault ≠ .unhashable x) t
      (callWithoutStorage m (.handle h) xs) := by
  have hmissing : ∀ field, FailsFor (fun fault => ∀ x, fault ≠ .unhashable x) t
      (failCall (.handle h) field ((Value.handle h).missingField field) : Act Value) := by
    intro field
    unfold failCall
    refine failsFor_bind_of_ok (outcome_checkCall ht.untouched _ field) fun fault u hfault x => ?_
    cases hfault
    simp [Value.missingField]
  have helement : outcome (elementValueOf (.handle h)) t =
      (.ok (.ofElementType (t.collection h).config.elementType), t) := by
    unfold elementValueOf
    rw [outcome_bind_of_ok (outcome_fetch h t), ht.ownConfig]
    rfl
  cases m with
  | clear | pop => exact hmissing _
  | insert | delete =>
    unfold callWithoutStorage
    dsimp only
    split
    · exact failsFor_pure _
    · refine failsFor_bind_of_ok helement ?_
      split
      · exact hmissing _
      · exact hmissing _
  | has | hasAll | hasAny | size | unsortedList | copy => cases hm

theorem leaves_callWithoutStorage (hm : m.mutates = true) (ht : t.Sound)
    (hh : (Value.handle h).Grounded t.classes) :
    Leaves t h m xs (outcome (callWithoutStorage m (.handle h) xs) t) := by
  have hquiet : Quiet t (callWithoutStorage m (.handle h) xs) (NoSet t.classes) :=
    quiet_callWithoutStorage m hh
  refine leaves_of_like ht hh (hquiet t (Like.refl ht)).1 fun x _ hfault => ?_
  exact failsFor_callWithoutStorage hm ht _ _ (Prod.ext hfault rfl) x rfl

/-- A method that is found in any type and called on a set by key. -/
theorem leaves_callIn (hm : m.mutates = true) (ht : t.Sound)
    (hh : (Value.handle h).Grounded t.classes) (hc : (t.collection h).Lawful) :
    Leaves t h m xs (outcome (callIn home m (.handle h) xs bound) t) := by
  have hcommon : Leaves t h m xs (outcome (callCommon m (.handle h) xs bound) t) := by
    cases m with
    | insert | delete | clear => exact leaves_of_like ht hh (Like.refl ht) fun _ _ hr => by cases hr
    | pop => exact leaves_popFirst hc
    | has | hasAll | hasAny | size | unsortedList | copy => cases hm
  cases home with
  | sets cls =>
    unfold callIn
    dsimp only
    split
    · exact leaves_callStored hm hc
    · exact leaves_callWithoutStorage hm ht hh
  | _ => exact hcommon

theorem leaves_callSet (hm : m.mutates = true) (ht : t.Sound)
    (hh : (Value.handle h).Grounded t.classes) (hc : (t.collection h).Lawful) :
    Leaves t h m args (outcome (callSet m h args named) t) := by
  rw [outcome_callSet]
  cases (m.signature h.cls).bind (.handle h :: args) named with
  | error fault => exact leaves_refused ht hh fault
  | ok bound => exact leaves_callIn hm ht hh hc

theorem leaves_callUnbound (hm : m.mutates = true) (ht : t.Sound)
    (hh : (Value.handle h).Grounded t.classes) (hc : (t.collection h).Lawful)
    (hr : m.receiverIn home args named = .handle h) :
    Leaves t h m (args.drop 1) (outcome (callUnbound home m args named) t) := by
  unfold callUnbound
  dsimp only
  rw [outcome_bind, outcome_bindCall]
  cases hbind : (m.signatureIn home).bind args named with
  | error fault => exact leaves_refused ht hh fault
  | ok bound =>
    have hreceiver := (receiverIn_eq hbind).trans hr
    simp only [Except.mapError, hreceiver]
    exact leaves_callIn hm ht hh hc

theorem leaves_popFirstOf (ht : t.Sound) (hh : (Value.handle h).Grounded t.classes)
    (hc : (t.collection h).Lawful) {name : String} (hv : t.value? name = some (.handle h)) :
    Leaves t h .pop args (outcome (popFirstOf name args) t) := by
  rw [outcome_popFirstOf hv]
  cases (Method.pop.signatureIn .collection).bind (.handle h :: args) [] with
  | error fault => exact leaves_refused ht hh fault
  | ok bound => exact leaves_popFirst hc

end Act

/-! ## Steps -/

open Act

variable {t : Session} {h : Handle} {m : Method} {xs args : List Value}
  {named : List (String × Value)}

/-- A step that calls a changing method on a set by key, and fails, leaves what the failing call
leaves. -/
theorem Step.leaves_run {s : Session} {step : Step} (ht : s.Like t) (hm : step.mutator? = some m)
    (hreceiver : step.receiver? s args named = some (h, xs))
    (hh : (Value.handle h).Grounded t.classes) (hc : (t.collection h).Lawful) :
    Leaves t h m xs (outcome (step.run args named) t) := by
  cases step with
  | call method on =>
    simp only [mutator?, Option.ite_none_right_eq_some] at hm
    obtain ⟨hmutates, hmethod⟩ := hm
    cases hmethod
    simp only [receiver?, Session.receiver?] at hreceiver
    rw [← ht.value?_eq on] at hreceiver
    show Leaves t h m xs (outcome (Act.call m on args named) t)
    split at hreceiver
    · rename_i k hv
      cases hreceiver
      rw [outcome_call ht.sound.untouched hv]
      exact leaves_callSet hmutates ht.sound hh hc
    · rename_i ty hv
      split at hreceiver
      · rename_i k hk
        cases hreceiver
        obtain ⟨home, hhome, hr⟩ := Option.map_eq_some_iff.1 hk
        rw [outcome_call_of_type ht.sound.untouched hv hhome]
        exact leaves_callUnbound hmutates ht.sound hh hc hr
      · cases hreceiver
    · cases hreceiver
  | popFirst on =>
    cases hm
    simp only [receiver?] at hreceiver
    rw [← ht.value?_eq on] at hreceiver
    split at hreceiver
    · rename_i k hv
      cases hreceiver
      exact leaves_popFirstOf ht.sound hh hc hv
    · cases hreceiver
  | _ => cases hm

end ValueSets
