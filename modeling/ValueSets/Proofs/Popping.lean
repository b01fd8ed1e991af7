import ValueSets.Proofs.Deletion

/-!
# Taking members out

A set by key gives up the member that was added last; the version that is derived for all sets alike
gives up the first one, and drops it like any other element. That the two agree but for the end they
take from rests on the members being lawful: the set takes each of them, each can be hashed, and no
other one has its key, so dropping the first member drops that member and nothing else
(`Collection.Lawful.take_put`).

`Session.Pops` describes the instructions that call one of the versions on a set, however the
version is found. One of them leaves the set with one member less and answers that member, or finds
it empty and answers the default (`Session.Pops.after_cases`). A run of such calls therefore splits
in two. Each call before the set is empty takes one more of its members, and each call behind
answers its default, in whatever order the two versions are called: `Session.Drains.split`.
-/

set_option autoImplicit false

namespace ValueSets

open Session Value Act

/-- The end of a set from which a member is taken. -/
inductive End where
  | last
  | first

namespace End

/-- Members with one more at an end. -/
def put (x : Value) (rest : List Value) : End → List Value
  | last => rest ++ [x]
  | first => x :: rest

/-- Taking out the member at an end. -/
def take (same : Collection → Sameness) (c : Collection) : End → Mutation (Option Value)
  | last => c.pop same
  | first => c.popFirst same

/-- The end from which the version takes that the type `home` defines. -/
def ofHome : Ty → End
  | .collection => first
  | _ => last

variable {x : Value} {rest ms : List Value}

/-- There are no members, or there is one at each end. -/
theorem eq_nil_or_put (e : End) (ms : List Value) : ms = [] ∨ ∃ x rest, ms = e.put x rest := by
  cases e with
  | last =>
    rcases List.eq_nil_or_concat ms with hnil | ⟨rest, x, hlast⟩
    · exact .inl hnil
    · exact .inr ⟨x, rest, hlast.trans List.concat_eq_append⟩
  | first =>
    cases ms with
    | nil => exact .inl rfl
    | cons x rest => exact .inr ⟨x, rest, rfl⟩

theorem perm_put (e : End) (x : Value) (rest : List Value) : (x :: rest).Perm (e.put x rest) := by
  cases e with
  | last => exact (List.perm_append_singleton x rest).symm
  | first => exact List.Perm.refl _

theorem length_put (e : End) (x : Value) (rest : List Value) :
    (e.put x rest).length = rest.length + 1 := (e.perm_put x rest).length_eq.symm

/-- Distinct members without the one at an end have its key no more. -/
theorem hasKey_rest (e : End) (h : Members.Distinct (e.put x rest)) : hasKey x rest = false := by
  have hcons : Members.Distinct (x :: rest) := by
    refine (e.perm_put x rest).symm.pairwise h ?_
    intro m n hmn
    rw [sameKey_comm]
    exact hmn
  rw [hasKey_eq_false_iff]
  intro m hm
  rw [sameKey_comm]
  exact (List.pairwise_cons.1 hcons).1 m hm

end End

namespace Collection.Lawful

variable {c : Collection} {x : Value} {rest : List Value}

theorem take_nil (hc : c.Lawful) (hnil : c.members = []) (same : Collection → Sameness) (e : End) :
    e.take same c = (.ok none, c) := by
  cases e with
  | last =>
    have hself : c.holding [] = c := by rw [← hnil, holding_self]
    show c.pop same = _
    rw [hc.pop_eq, hnil, List.getLast?_nil, List.dropLast_nil, hself]
  | first =>
    show c.popFirst same = _
    rw [hc.popFirst_eq, hnil]

/-- Both versions take out the member at their end, and that member alone. -/
theorem take_put (hc : c.Lawful) {e : End} (hms : c.members = e.put x rest)
    (same : Collection → Sameness) : e.take same c = (.ok (some x), c.holding rest) := by
  cases e with
  | last =>
    have hlast : c.members = rest ++ [x] := hms
    show c.pop same = _
    rw [hc.pop_eq, hlast, List.getLast?_concat, List.dropLast_concat]
  | first =>
    have hfirst : c.members = x :: rest := hms
    have hdistinct : Members.Distinct ([] ++ x :: rest) := hfirst ▸ hc.distinct
    have hdrop : Members.drop (x :: rest) x = rest := Members.drop_eq_append hdistinct
    show c.popFirst same = _
    rw [hc.popFirst_eq, hfirst]
    simp only [hdrop]

/-- A set does not have the member any more that was taken out of it. -/
theorem has_rest (hc : c.Lawful) {e : End} (hms : c.members = e.put x rest) (same : Sameness) :
    (c.holding rest).Lawful ∧ Keyed.has (c.holding rest) x = .ok false ∧
      (c.holding rest).has same x = .ok false := by
  have hsub : rest.Sublist c.members := by
    rw [hms]
    cases e with
    | last => exact List.sublist_append_left rest [x]
    | first => exact List.sublist_cons_self x rest
  have hx : x ∈ c.members := hms ▸ (e.perm_put x rest).subset List.mem_cons_self
  have hrest : (c.holding rest).Lawful := hc.sublist hsub
  have hgone : (c.holding rest).holds x = false := by
    unfold holds
    rw [holding_members, e.hasKey_rest (hms ▸ hc.distinct), Bool.and_false]
  have hkeyed : Keyed.has (c.holding rest) x = .ok false := by
    rw [Keyed.has_eq, stopsAt_of_isHashable _ (hc.hashable x hx), hgone]
    rfl
  exact ⟨hrest, hkeyed, (hrest.has_eq same x).trans hkeyed⟩

end Collection.Lawful

namespace Act

variable {t : Session} {h : Handle} {bound : List (String × Value)} {e : End} {x : Value}
  {rest : List Value}

/-- An empty set answers the default of a call, if the call gives one. -/
theorem outcome_popWith_nil (hc : (t.collection h).Lawful) (hnil : (t.collection h).members = []) :
    outcome (popWith h (fun same c => e.take same c) bound) t =
      ((bound.lookup "default").elim (.error .emptySet) .ok, t.store h (t.collection h)) := by
  unfold popWith
  rw [outcome_bind, outcome_mutate, hc.take_nil hnil]
  simp only
  unfold defaultOf
  cases bound.lookup "default" <;> rfl

/-- Any other set answers the member at the end, whatever the default is. -/
theorem outcome_popWith_put (hc : (t.collection h).Lawful)
    (hms : (t.collection h).members = e.put x rest) :
    outcome (popWith h (fun same c => e.take same c) bound) t =
      (.ok x, t.store h ((t.collection h).holding rest)) := by
  unfold popWith
  rw [outcome_bind, outcome_mutate, hc.take_put hms]
  rfl

/-- A version of the method takes from its end of the set that it is called on. -/
theorem outcome_callIn_pop {ty home : Ty} (hhome : Method.pop.homeIn? ty = some home)
    (hkeyed : h.cls.isKeyed = true) (args : List Value) (bound : List (String × Value))
    (t : Session) : outcome (callIn home .pop (.handle h) args bound) t =
      outcome (popWith h (fun same c => (End.ofHome home).take same c) bound) t := by
  cases ty with
  | collection =>
    cases hhome
    rfl
  | sets cls =>
    have hstorage : home = if cls.isKeyed then Method.storage cls else .collection :=
      (Option.some.inj hhome).symm
    cases hcls : cls.isKeyed with
    | true =>
      have hinMemory : home = .sets .inMemory := by
        rw [hstorage, hcls, if_pos rfl]
        unfold Method.storage
        rw [hcls, if_pos rfl]
      have hsame : (h.cls.isKeyed == SetClass.inMemory.isKeyed) = true := by rw [hkeyed]; rfl
      rw [hinMemory]
      unfold callIn
      simp only [hsame, if_true]
      rfl
    | false =>
      rw [hcls] at hstorage
      cases hstorage
      rfl
  | _ => cases hhome

end Act

/-! ## One call -/

/-- Whether an instruction takes a member out of a set by key, from which end, and with which
default, after its arguments were evaluated in passing to the session `u`. The version of the set is
called by its name, the one for all sets on purpose, or either is asked of a type. -/
inductive Session.Pops (s : Session) (i : Instruction) (h : Handle) (u : Session)
    (default? : Option Value) : End → Prop
  | own {on : String} {args : List Value} {named bound : List (String × Value)} :
    i.step = .call .pop on → s.Holds on h →
    outcome i.arguments s.begun = (.ok (args, named), u) →
    (Method.pop.signature h.cls).bind (.handle h :: args) named = .ok bound →
    bound.lookup "default" = default? → Pops s i h u default? .last
  | common {on : String} {args : List Value} {named bound : List (String × Value)} :
    i.step = .popFirst on → s.Holds on h →
    outcome i.arguments s.begun = (.ok (args, named), u) →
    (Method.pop.signatureIn .collection).bind (.handle h :: args) [] = .ok bound →
    bound.lookup "default" = default? → Pops s i h u default? .first
  | ofType {on : String} {ty home : Ty} {args : List Value} {named bound : List (String × Value)} :
    i.step = .call .pop on → s.value? on = some (.type ty) →
    Method.pop.homeIn? ty = some home →
    outcome i.arguments s.begun = (.ok (args, named), u) →
    (Method.pop.signatureIn home).bind args named = .ok bound →
    bound.lookup "self" = some (.handle h) → h.cls.isKeyed = true →
    bound.lookup "default" = default? → Pops s i h u default? (End.ofHome home)

namespace Session

variable {s t u : Session} {i : Instruction} {h : Handle} {e : End} {default? : Option Value}

namespace Pops

theorem isPlain (hpops : s.Pops i h u default? e) : i.IsPlain s := by
  intro args named t _
  cases hpops with
  | own hstep | common hstep | ofType hstep =>
    rw [hstep]
    trivial

theorem like (hs : s.Sound) (hpops : s.Pops i h u default? e) : s.Like u := by
  have harguments := (quiet_arguments i _ hs.like_begun).1
  cases hpops with
  | own _ _ hargs | common _ _ hargs | ofType _ _ _ hargs => rwa [hargs] at harguments

/-- The set is one of the session, also where it is an argument of the call. -/
theorem grounded (hs : s.Sound) (hpops : s.Pops i h u default? e) :
    (Value.handle h).Grounded s.classes := by
  cases hpops with
  | own _ hon | common _ hon => exact hon.grounded hs
  | ofType _ _ _ hargs hbound hself =>
    have hgood := (quiet_arguments i _ hs.like_begun).2
    rw [hargs] at hgood
    obtain ⟨hpositional, hnamed⟩ := hgood _ rfl
    exact (namedGrounded_of_bind hpositional hnamed hbound).lookup hself

theorem keyed (hpops : s.Pops i h u default? e) : h.cls.isKeyed = true := by
  cases hpops with
  | own _ hon | common _ hon => exact hon.keyed
  | ofType _ _ _ _ _ _ hkeyed => exact hkeyed

theorem lawful (hs : s.Sound) (hpops : s.Pops i h u default? e) : (s.collection h).Lawful :=
  (hs.behind (hpops.grounded hs)).lawful hpops.keyed

theorem collection_eq (hs : s.Sound) (hpops : s.Pops i h u default? e) :
    u.collection h = s.collection h := (hpops.like hs).collection_eq hs (hpops.grounded hs)

/-- Each of the calls takes from its end of the set. -/
theorem outcome_attempt (hs : s.Sound) (hpops : s.Pops i h u default? e) :
    ∃ bound, bound.lookup "default" = default? ∧ outcome i.attempt s.begun =
      outcome (popWith h (fun same c => e.take same c) bound) u := by
  have hu := hpops.like hs
  rw [Instruction.outcome_attempt]
  cases hpops with
  | @own on args named bound hstep hon hargs hbound hdefault =>
    refine ⟨bound, hdefault, ?_⟩
    rw [hargs, hstep]
    exact outcome_call_of_holds hu.sound (hon.like hu) hbound
  | @common on args named bound hstep hon hargs hbound hdefault =>
    refine ⟨bound, hdefault, ?_⟩
    rw [hargs, hstep]
    have hrun := outcome_popFirstOf (hon.like hu).value args
    rw [hbound] at hrun
    exact hrun
  | @ofType on ty home args named bound hstep hon hhome hargs hbound hself hkeyed hdefault =>
    refine ⟨bound, hdefault, ?_⟩
    rw [hargs, hstep]
    have hreceiver : (Method.pop.signatureIn home).receiver = "self" := rfl
    have hrun : outcome (callUnbound home .pop args named) u =
        outcome (callIn home .pop (.handle h) (args.drop 1) bound) u := by
      unfold callUnbound
      rw [outcome_bind, outcome_bindCall, hbound, hreceiver]
      simp only [Except.mapError, hself, Option.getD_some]
    show outcome (call .pop on args named) u = _
    rw [outcome_call_of_type hu.sound.untouched ((hu.value?_eq on).trans hon) hhome, hrun,
      outcome_callIn_pop hhome hkeyed]

/-- A call finds the set empty, leaves it so and answers its default, or takes out the member at its
end, leaves the others and answers that member. -/
theorem after_cases (hs : s.Sound) (hpops : s.Pops i h u default? e) :
    ((s.collection h).members = [] ∧ i.answer s = default?.elim (.error .emptySet) .ok ∧
      (s.after i).collections = s.collections) ∨
    ∃ x rest, (s.collection h).members = e.put x rest ∧ i.answer s = .ok x ∧
      (s.after i).collections = s.collections.set h.index ((s.collection h).holding rest) := by
  have hu := hpops.like hs
  have hcu := hpops.collection_eq hs
  have hlawful : (u.collection h).Lawful := hcu ▸ hpops.lawful hs
  have hstore : ∀ d, (u.store h d).collections = s.collections.set h.index d := by
    intro d
    unfold store
    rw [hu.collections]
  obtain ⟨bound, hdefault, hattempt⟩ := hpops.outcome_attempt hs
  rcases e.eq_nil_or_put (s.collection h).members with hnil | ⟨x, rest, hms⟩
  · rw [outcome_popWith_nil hlawful (hcu ▸ hnil), hdefault] at hattempt
    obtain ⟨hanswer, hcollections⟩ := hs.answer_eq hpops.isPlain hattempt
    refine .inl ⟨hnil, hanswer, ?_⟩
    rw [hcollections, hstore, hcu, (hs.behind (hpops.grounded hs)).set_self]
  · rw [outcome_popWith_put hlawful (hcu ▸ hms)] at hattempt
    obtain ⟨hanswer, hcollections⟩ := hs.answer_eq hpops.isPlain hattempt
    exact .inr ⟨x, rest, hms, hanswer, by rw [hcollections, hstore, hcu]⟩

/-- Asking whether a set has the member that was just taken out of it answers no. -/
theorem answer_has (hs : s.Sound) (hpops : s.Pops i h u default? e) {x : Value} {rest : List Value}
    (hms : (s.collection h).members = e.put x rest)
    (hafter : (s.after i).collections = s.collections.set h.index ((s.collection h).holding rest))
    {j : Instruction} {w : Session} (hcall : (s.after i).Calls j .has h [x] w) :
    j.answer (s.after i) = .ok (.bool false) := by
  have hsound := (hs.after hpops.isPlain).sound
  have hlt := (List.getElem?_eq_some_iff.1 (hs.behind (hpops.grounded hs)).found).1
  have hleft : (s.after i).collection h = (s.collection h).holding rest := by
    apply hsound.collection_of_getElem?
    rw [hafter, List.getElem?_set_self hlt]
  obtain ⟨-, hhas, -⟩ := (hpops.lawful hs).has_rest hms fun x y => .ok (x.sameKey y)
  unfold Instruction.answer
  rw [hcall.outcome_has hsound, hleft, hhas]
  rfl

end Pops

end Session

/-! ## Many calls -/

/-- A call that takes out a member: the default that it gives, and what it answers. -/
structure Taking where
  default? : Option Value
  answer : Except Fault Value

/-- Whether a call found a set empty: it answers the default, or fails without one. -/
def Taking.IsInVain (p : Taking) : Prop := p.answer = p.default?.elim (.error .emptySet) .ok

@[simp] theorem Taking.isInVain_some {v : Value} {answer : Except Fault Value} :
    Taking.IsInVain ⟨some v, answer⟩ ↔ answer = .ok v := Iff.rfl

@[simp] theorem Taking.isInVain_none {answer : Except Fault Value} :
    Taking.IsInVain ⟨none, answer⟩ ↔ answer = .error .emptySet := Iff.rfl

/-- A run in which members are taken out of a set by calls of either version, in any order, and
whatever is done between the calls spares the set. -/
inductive Session.Drains (h : Handle) (s : Session) : List Taking → Session → Prop
  | refl : Drains h s [] s
  | spared {ps : List Taking} {t : Session} {i : Instruction} : Drains h s ps t →
    i.Spares h.index t → Drains h s ps (t.after i)
  | popped {ps : List Taking} {t u : Session} {i : Instruction} {e : End}
    {default? : Option Value} : Drains h s ps t → t.Pops i h u default? e →
    Drains h s (ps ++ [⟨default?, i.answer t⟩]) (t.after i)

namespace Session

variable {s t u : Session} {i : Instruction} {h : Handle} {e : End} {default? : Option Value}
  {c : Collection} {ps : List Taking}

/-- A run of calls splits where the set is empty: the calls before answer its members, and those
behind are in vain. -/
theorem Drains.split (hs : s.Sound) (hc : s.collections[h.index]? = some c)
    (hdrains : s.Drains h ps t) :
    t.Sound ∧ ∃ front back xs ms, ps = front ++ back ∧
      front.map Taking.answer = xs.map Except.ok ∧ (xs ++ ms).Perm c.members ∧
      (∀ p ∈ back, p.IsInVain) ∧ (back ≠ [] → ms = []) ∧
      t.collections[h.index]? = some (c.holding ms) := by
  induction hdrains with
  | refl => exact ⟨hs, [], [], [], c.members, rfl, rfl, List.Perm.refl _, by simp, by simp, hc⟩
  | @spared ps t i _ hi ih =>
    obtain ⟨ht, front, back, xs, ms, hps, hfront, hperm, hback, hempty, hms⟩ := ih
    have hsame := ht.getElem?_after hi (List.getElem?_eq_some_iff.1 hms).1
    exact ⟨(ht.after hi.1).sound, front, back, xs, ms, hps, hfront, hperm, hback, hempty,
      hsame.trans hms⟩
  | @popped ps t u i e default? _ hpops ih =>
    obtain ⟨ht, front, back, xs, ms, hps, hfront, hperm, hback, hempty, hms⟩ := ih
    have hlt := (List.getElem?_eq_some_iff.1 hms).1
    have hcollection := ht.collection_of_getElem? hms
    refine ⟨(ht.after hpops.isPlain).sound, ?_⟩
    rcases hpops.after_cases ht with ⟨hnil, hanswer, hafter⟩ | ⟨x, rest, hput, hanswer, hafter⟩
    · rw [hcollection] at hnil
      cases hnil
      refine ⟨front, back ++ [⟨default?, i.answer t⟩], xs, [], ?_, hfront, hperm, ?_,
        fun _ => rfl, ?_⟩
      · rw [hps, List.append_assoc]
      · intro p hp
        rcases List.mem_append.1 hp with hp | hp
        · exact hback p hp
        · cases List.mem_singleton.1 hp
          exact hanswer
      · rw [hafter, hms]
    · rw [hcollection, Collection.holding_members] at hput
      -- no call was in vain so far, since the set is not empty yet
      have hnone : back = [] := by
        by_contra hne
        have hlength := e.length_put x rest
        rw [← hput, hempty hne] at hlength
        cases hlength
      subst hnone
      rw [List.append_nil] at hps
      refine ⟨front ++ [⟨default?, i.answer t⟩], [], xs ++ [x], rest, ?_, ?_, ?_, by simp,
        by simp, ?_⟩
      · rw [hps, List.append_nil]
      · rw [List.map_append, List.map_append, hfront]
        simp only [List.map_cons, List.map_nil, hanswer]
      · rw [List.append_assoc]
        exact ((e.perm_put x rest).append_left xs).trans (hput ▸ hperm)
      · rw [hafter, List.getElem?_set_self hlt, hcollection]
        rfl

/-- As many calls as a set has members answer each member once and leave the set empty; those behind
them are in vain. -/
theorem Drains.drained (hs : s.Sound) (hc : s.collections[h.index]? = some c)
    (hdrains : s.Drains h ps t) :
    ∃ xs ms, (ps.take c.size).map Taking.answer = xs.map Except.ok ∧ (xs ++ ms).Perm c.members ∧
      (∀ p ∈ ps.drop c.size, p.IsInVain) ∧ (c.size ≤ ps.length → ms = []) ∧
      t.collections[h.index]? = some (c.holding ms) := by
  obtain ⟨-, front, back, xs, ms, hps, hfront, hperm, hback, hempty, hms⟩ := hdrains.split hs hc
  have hfrontLength : front.length = xs.length := by simpa using congrArg List.length hfront
  have hsize : xs.length + ms.length = c.size := by
    rw [← List.length_append]
    exact hperm.length_eq
  by_cases hnone : back = []
  · subst hnone
    rw [List.append_nil] at hps
    subst hps
    refine ⟨xs, ms, ?_, hperm, ?_, fun hle => ?_, hms⟩
    · rw [List.take_of_length_le (by omega), hfront]
    · rw [List.drop_of_length_le (by omega)]
      simp
    · exact List.eq_nil_of_length_eq_zero (by omega)
  · have hnil := hempty hnone
    subst hnil
    rw [List.length_nil, Nat.add_zero] at hsize
    have hall : front.length = c.size := hfrontLength.trans hsize
    refine ⟨xs, [], ?_, hperm, ?_, fun _ => rfl, hms⟩
    · rw [hps, ← hall, List.take_left, hfront]
    · rw [hps, ← hall, List.drop_left]
      exact hback

/-- Taking a member out of a set by key answers the one at the end that the called version takes
from, whatever the default is, and leaves the others in order; the set does not have the answered
member any more. From an empty set nothing is taken, and the default is answered, or a call without
one fails. So as many calls as the set has members, of either version in any order, answer each of
the members once and leave the set empty, and all calls behind them are in vain. -/
theorem IsReachable.popping_decided (hs : s.IsReachable) :
    (∀ i h u default? e, s.Pops i h u default? e →
      ((s.collection h).members = [] →
        i.answer s = default?.elim (.error .emptySet) .ok ∧
        (s.after i).collections = s.collections) ∧
      ((s.collection h).members ≠ [] → ∃ x rest,
        (s.collection h).members = e.put x rest ∧ i.answer s = .ok x ∧
        (s.after i).collections = s.collections.set h.index ((s.collection h).holding rest) ∧
        ((s.collection h).holding rest).size + 1 = (s.collection h).size ∧
        (∀ same, ((s.collection h).holding rest).has same x = .ok false) ∧
        ∀ j w, (s.after i).Calls j .has h [x] w → j.answer (s.after i) = .ok (.bool false))) ∧
    ∀ h c ps t, s.collections[h.index]? = some c → s.Drains h ps t →
      ∃ xs ms, (ps.take c.size).map Taking.answer = xs.map Except.ok ∧
        (xs ++ ms).Perm c.members ∧ (∀ p ∈ ps.drop c.size, p.IsInVain) ∧
        (c.size ≤ ps.length → ms = []) ∧ t.collections[h.index]? = some (c.holding ms) := by
  refine ⟨fun i h u default? e hpops => ?_, fun h c ps t hc hdrains => hdrains.drained hs.sound hc⟩
  rcases hpops.after_cases hs.sound with
    ⟨hnil, hanswer, hafter⟩ | ⟨x, rest, hput, hanswer, hafter⟩
  · exact ⟨fun _ => ⟨hanswer, hafter⟩, fun hne => absurd hnil hne⟩
  · have hlength : (s.collection h).size = rest.length + 1 := by
      unfold Collection.size
      rw [hput, e.length_put]
    refine ⟨fun hnil => ?_, fun _ => ⟨x, rest, hput, hanswer, hafter, hlength.symm,
      fun same => ((hpops.lawful hs.sound).has_rest hput same).2.2,
      fun j w hcall => hpops.answer_has hs.sound hput hafter hcall⟩⟩
    unfold Collection.size at hlength
    rw [hnil] at hlength
    cases hlength

/-- The one level of a set is taken out of it by the version for all sets. Then that of the set,
which is given nothing as its default, answers nothing. -/
theorem popping_decided_of_level :
    let s := ({} : Session).after
      { step := .construct .inMemory, args := [.level .low, .level .low], target? := some "a" }
    let first : Instruction := { step := .popFirst "a" }
    let last : Instruction := { step := .call .pop "a", args := [.null] }
    let ps : List Taking := [⟨none, first.answer s⟩, ⟨some .null, last.answer (s.after first)⟩]
    s.Drains ⟨0, .inMemory⟩ ps ((s.after first).after last) ∧
      first.answer s = .ok (.level .low) ∧ last.answer (s.after first) = .ok .null ∧
      (((s.after first).after last).collections[0]?).map (·.members) = some [] := by
  intro s first last ps
  let h : Handle := ⟨0, .inMemory⟩
  let c : Collection := ⟨.inMemory, { identity := 1, settings := {} }, [.level .low], none⟩
  have hs : s.IsReachable :=
    .step .refl (Instruction.isPlain_of_no_config (by decide) Collection.hasPlainConfig_nil)
  have hc : s.collections[0]? = some c := rfl
  have hfirst : s.Pops first h _ none .first := .common rfl ⟨rfl, rfl⟩ rfl rfl rfl
  have hlast : (s.after first).Pops last h _ (some .null) .last := .own rfl ⟨rfl, rfl⟩ rfl rfl rfl
  have hdrains : s.Drains h ps _ := (Drains.refl.popped hfirst).popped hlast
  obtain ⟨hsteps, hruns⟩ := hs.popping_decided
  obtain ⟨xs, ms, hfront, hperm, hvain, hempty, ht⟩ := hruns h c ps _ hc hdrains
  have hlate : (⟨some .null, last.answer (s.after first)⟩ : Taking) ∈ ps.drop c.size :=
    List.mem_singleton_self _
  have hanswer := Taking.isInVain_some.1 (hvain _ hlate)
  cases hempty (by decide)
  have hset : ((s.after first).after last).collections[0]? = some (c.holding []) := ht
  exact ⟨hdrains, rfl, hanswer, by rw [hset]; rfl⟩

end Session

end ValueSets
