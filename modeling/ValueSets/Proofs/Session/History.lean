import Mathlib.Data.Set.Card
import ValueSets.Proofs.Collection.Algebra
import ValueSets.Proofs.Collection.Events
import ValueSets.Proofs.Session.Frame
import ValueSets.Proofs.Session.Receivers

/-!
# Histories of sets

The history of a set of a session is the row of events of the calls that were made to change it,
whatever else was done in between. It begins with the elements that the set was made of, which count
as added. `Session.History.has_iff` says that the history alone decides what a set by key has: no
element that was added is lost unless a later event drops it, and none comes from elsewhere.

The proof is by induction on the history. Each own call turns the keys of the set as its event says
(`Act.turned_callSet`, `Act.turned_popFirst`), and all else leaves the set alone.
-/

set_option autoImplicit false

namespace ValueSets

open Session Value Act

/-- A set by key that is made of elements has the first of each key among them. -/
theorem Collection.members_of_construct {same : Sameness} {standIn : Value → StandIn}
    {cls : SetClass} {xs : List Value} {named : List (String × Value)} {identity : Nat}
    {c : Collection} (hnamed : HasPlainConfig named)
    (hinside : ∀ config, (standIn (.config config)).inside? = none)
    (h : construct same standIn cls xs named identity = .ok c) (hkeyed : cls.isKeyed = true) :
    c.members = Members.addAll [] xs := by
  unfold construct at h
  split at h
  · cases h
  · obtain ⟨⟨config, i⟩, hconfigured, h⟩ := Fallible.bind_eq_ok.1 h
    have hempty := (proper_of_configured hnamed hinside hconfigured).lawful hkeyed
    dsimp only at h
    rw [hempty.inserted_eq, Keyed.insert_eq_ok_iff] at h
    rw [h.2]
    rfl

/-- Values of the same key. -/
def Value.keySetoid : Setoid Value where
  r x y := x.sameKey y = true
  iseqv := ⟨sameKey_refl, fun {x y} h => (sameKey_comm y x).trans h, sameKey_trans⟩

namespace Collection.Lawful

variable {c : Collection}

theorem hasKey_of_has (hc : c.Lawful) {same : Sameness} {y : Value}
    (h : c.has same y = .ok true) : hasKey y c.members = true := by
  rw [hc.has_eq] at h
  unfold Keyed.has at h
  split at h
  · cases h
  · split at h
    · cases h
    · exact Except.ok.inj h

/-- The size of a lawful set is the number of the keys that it has. -/
theorem size_eq_ncard (hc : c.Lawful) (same : Sameness) :
    c.size = Set.ncard {key : Quotient keySetoid | ∃ y, ⟦y⟧ = key ∧ c.has same y = .ok true} := by
  classical
  have hnodup : (c.members.map (Quotient.mk keySetoid)).Nodup := by
    rw [List.Nodup, List.pairwise_map]
    refine hc.distinct.imp fun {m n} hmn heq => ?_
    have hsame : m.sameKey n = true := Quotient.exact heq
    rw [hmn] at hsame
    cases hsame
  have hkeys : {key : Quotient keySetoid | ∃ y, ⟦y⟧ = key ∧ c.has same y = .ok true} =
      ((c.members.map (Quotient.mk keySetoid)).toFinset : Set (Quotient keySetoid)) := by
    ext key
    simp only [Set.mem_ofPred_eq, Finset.mem_coe, List.mem_toFinset, List.mem_map]
    constructor
    · rintro ⟨y, rfl, hy⟩
      obtain ⟨m, hm, hmy⟩ := hasKey_iff.1 (hasKey_of_has hc hy)
      exact ⟨m, hm, Quotient.sound hmy⟩
    · rintro ⟨m, hm, rfl⟩
      refine ⟨m, rfl, ?_⟩
      rw [hc.has_of_isHashable same (hc.hashable m hm), hc.holds_of_mem hm]
  rw [hkeys, Set.ncard_coe_finset, List.toFinset_card_of_nodup hnodup, List.length_map]
  rfl

end Collection.Lawful

namespace Act

variable {t : Session} {h : Handle} {m : Method} {xs : List Value} {bound : List (String × Value)}

/-! ## Making sets -/

/-- Settling its configuration leaves a set as it is, but for the identity of the configuration, and
leaves the sets of the session alone. -/
theorem outcome_settleConfig {c : Collection} (hc : c.standIn? = none) (t : Session) :
    ∃ config u, outcome (settleConfig c) t = (.ok { c with config }, u) ∧
      u.collections = t.collections := by
  obtain ⟨cls, config, members, _⟩ := c
  cases hc
  unfold settleConfig
  simp only [Option.bind_none]
  split
  · exact ⟨_, _, rfl, rfl⟩
  · exact ⟨_, _, rfl, rfl⟩

/-- Taking a set into a session adds it, but for the identity of its configuration. -/
theorem outcome_allocate (ht : t.Sound) {c : Collection} (hc : c.standIn? = none) :
    ∃ config u, outcome (allocate c) t = (.ok ⟨t.collections.length, c.cls⟩, u) ∧
      u.collections = t.collections ++ [{ c with config }] := by
  obtain ⟨config, u, hsettled, hcollections⟩ := outcome_settleConfig hc t
  have hreached : t.reached.isEmpty = true := by rw [ht.reached]; rfl
  unfold allocate allocateCopy
  rw [outcome_bind, outcome_get]
  simp only [hreached, if_true]
  rw [outcome_bind, hsettled]
  refine ⟨config, { u with collections := u.collections ++ [{ c with config }] }, ?_, ?_⟩
  · simp only [← hcollections]
    rfl
  · simp only [hcollections]

/-- Making a set of elements fails, or adds a set that has the keys of the elements if it keeps its
members by key. -/
theorem added_construct (ht : t.Sound) (cls : SetClass) (xs : List Value)
    {named : List (String × Value)} (hnamed : Collection.HasPlainConfig named) :
    (∃ fault, (outcome (construct cls xs named) t).1 = .error fault) ∨
      ∃ c, (outcome (construct cls xs named) t).2.collections = t.collections ++ [c] ∧
        (c.cls.isKeyed = true → c.members = Members.addAll [] xs) := by
  let u : Session := { t with nextIdentity := t.nextIdentity + 1 }
  have hu : u.Sound := { ht with positive := Nat.succ_pos _ }
  have hinside := hu.inside?_standIn
  rw [outcome_construct]
  unfold answerSet
  rw [outcome_bind, outcome_ofExcept]
  cases hmade : Collection.construct u.sameness u.standIn cls xs named t.nextIdentity with
  | error fault => exact .inl ⟨fault, rfl⟩
  | ok c =>
    obtain ⟨hproper, hcls, -⟩ := Collection.proper_of_construct hnamed hinside hmade
    obtain ⟨config, w, hallocated, hcollections⟩ := outcome_allocate hu hproper.ownConfig
    simp only
    rw [outcome_bind, hallocated]
    refine .inr ⟨_, hcollections, fun hkeyed => ?_⟩
    have hkeyed' : cls.isKeyed = true := hcls ▸ hkeyed
    have hmembers := Collection.members_of_construct hnamed hinside hmade hkeyed'
    exact hmembers

/-! ## Own calls -/

/-- Whether a call of a method ends with the set behind a handle turned as the event of the call
says, and all other sets as they were. -/
def Turned (t : Session) (h : Handle) (m : Method) (xs : List Value)
    (out : Except Fault Value × Session) : Prop :=
  ∃ d, out.2.collections = t.collections.set h.index d ∧
    Event.Turns ⟨m, xs, out.1⟩ (t.collection h) d

theorem turned_store {r : Except Fault Value} {d : Collection}
    (hd : Event.Turns ⟨m, xs, r⟩ (t.collection h) d) : Turned t h m xs (r, t.store h d) :=
  ⟨d, rfl, hd⟩

theorem turned_refused (ht : t.Sound) (hh : (Value.handle h).Grounded t.classes)
    (fault : CallFault) : Turned t h m xs (.error (.call fault), t) :=
  ⟨t.collection h, (ht.behind hh).set_self.symm, Event.turns_self⟩

theorem turned_popWith {take : (Collection → Sameness) → Collection → Mutation (Option Value)}
    (hcases : ∀ same, ((t.collection h).members = [] ∧
        take same (t.collection h) = (.ok none, t.collection h)) ∨
      ∃ x, take same (t.collection h) = (.ok (some x),
        (t.collection h).holding (Members.drop (t.collection h).members x))) :
    Turned t h .pop xs (outcome (popWith h take bound) t) := by
  unfold popWith
  rw [outcome_bind, outcome_mutate]
  rcases hcases fun c => (t.store h c).sameness with ⟨hnil, htake⟩ | ⟨x, htake⟩
  · rw [htake]
    refine ⟨t.collection h, ?_, Event.turns_pop_nil hnil⟩
    simp only [outcome_defaultOf]
    rfl
  · rw [htake]
    exact turned_store (Event.turns_pop _ x)

theorem turned_popFirst (hc : (t.collection h).Lawful) :
    Turned t h .pop xs (outcome (popFirst (.handle h) bound) t) :=
  turned_popWith fun same => hc.popFirst_cases same

theorem turned_callStored (hm : m.mutates = true) (hc : (t.collection h).Lawful) :
    Turned t h m xs (outcome (callStored m h xs bound) t) := by
  cases m with
  | insert =>
    unfold callStored
    simp only
    rw [outcome_mutate_null]
    exact turned_store (Event.turns_insert hc _ xs)
  | delete =>
    unfold callStored
    simp only
    rw [outcome_mutate_null]
    exact turned_store (Event.turns_delete hc _ xs)
  | clear =>
    unfold callStored
    simp only
    rw [outcome_mutate_null]
    exact turned_store (Event.turns_clear xs .null)
  | pop => exact turned_popWith fun same => hc.pop_cases same
  | has | hasAll | hasAny | size | unsortedList | copy => cases hm

theorem turned_callSet (hm : m.mutates = true) (ht : t.Sound)
    (hh : (Value.handle h).Grounded t.classes) (hkeyed : h.cls.isKeyed = true)
    (hc : (t.collection h).Lawful) (named : List (String × Value)) :
    Turned t h m xs (outcome (callSet m h xs named) t) := by
  rw [outcome_callSet]
  cases (m.signature h.cls).bind (.handle h :: xs) named with
  | error fault => exact turned_refused ht hh fault
  | ok bound =>
    simp only
    rw [callIn_home (.inl hkeyed)]
    exact turned_callStored hm hc

theorem turned_popFirstOf (ht : t.Sound) (hh : (Value.handle h).Grounded t.classes)
    (hc : (t.collection h).Lawful) {name : String} (hv : t.value? name = some (.handle h)) :
    Turned t h .pop xs (outcome (popFirstOf name xs) t) := by
  rw [outcome_popFirstOf hv]
  cases (Method.pop.signatureIn .collection).bind (.handle h :: xs) [] with
  | error fault => exact turned_refused ht hh fault
  | ok bound => exact turned_popFirst hc

end Act

/-! ## Histories -/

/-- The variable that a step calls a method on. -/
def Step.callee? : Step → Option String
  | .call _ on | .popFirst on => some on
  | _ => none

/-- Whether an instruction calls a changing method on a variable that holds the set in a place, and
with which further arguments. -/
def Instruction.Calls (k : Nat) (s : Session) (i : Instruction) (m : Method) (xs : List Value) :
    Prop :=
  ∃ on h, i.step.callee? = some on ∧ s.value? on = some (.handle h) ∧ h.index = k ∧
    i.change? s = some (m, h, xs)

theorem Instruction.Calls.isPlain {k : Nat} {s : Session} {i : Instruction} {m : Method}
    {xs : List Value} (hi : i.Calls k s m xs) : i.IsPlain s := by
  intro args named t _
  obtain ⟨on, h, hcallee, -⟩ := hi
  cases hstep : i.step with
  | call | popFirst => trivial
  | _ =>
    rw [hstep] at hcallee
    cases hcallee

/-- The elements that an instruction makes a set of: the arguments where it is one that makes a set
of elements, and otherwise the members that the new set has. -/
def Instruction.elements (s : Session) (i : Instruction) (c : Collection) : List Value :=
  match i.step, (Act.outcome i.arguments s.begun).1 with
  | .construct _, .ok (args, _) | .new, .ok (args, _) => args
  | _, _ => c.members

/-- The history of the set in a place: what it was made of, and the calls that were made on it to
change it. -/
inductive Session.History (k : Nat) : List Event → Session → Prop
  | made {s : Session} {i : Instruction} {c : Collection} : s.IsReachable → i.IsPlain s →
    s.collections.length = k → (s.after i).collections[k]? = some c →
    History k [⟨.insert, i.elements s c, i.answer s⟩] (s.after i)
  | spared {es : List Event} {s : Session} {i : Instruction} : History k es s → i.Spares k s →
    History k es (s.after i)
  | called {es : List Event} {s : Session} {i : Instruction} {m : Method} {xs : List Value} :
    History k es s → i.Calls k s m xs → History k (es ++ [⟨m, xs, i.answer s⟩]) (s.after i)

namespace Session

variable {s t : Session} {i : Instruction} {c : Collection} {k : Nat} {es : List Event}
  {m : Method} {xs : List Value}

/-- A set that an instruction made of elements has the keys of those elements. -/
theorem hasKey_elements (hs : s.Sound) (hi : i.IsPlain s) {r : Except Fault Value}
    (hattempt : outcome i.attempt s.begun = (r, t)) (hr : ∃ v, r = .ok v)
    (ht : t.collections = s.collections ++ [c]) (hkeyed : c.cls.isKeyed = true) (y : Value) :
    hasKey y c.members = hasKey y (i.elements s c) := by
  obtain ⟨v, rfl⟩ := hr
  rw [Instruction.outcome_attempt] at hattempt
  unfold Instruction.elements
  have harguments := quiet_arguments i _ hs.like_begun
  cases ha : outcome i.arguments s.begun with
  | mk a u =>
    rw [ha] at hattempt harguments
    cases a with
    | error fault => cases hattempt
    | ok a =>
      obtain ⟨args, named⟩ := a
      have hplain := hi args named u ha
      have hmade : ∀ cls, Collection.HasPlainConfig named →
          outcome (construct cls args named) u = (.ok v, t) →
          hasKey y c.members = hasKey y args := by
        intro cls hplain hattempt
        have hadded := added_construct harguments.1.sound cls args hplain
        rw [hattempt] at hadded
        rcases hadded with ⟨fault, hfault⟩ | ⟨d, hd, hmembers⟩
        · cases hfault
        · rw [ht, harguments.1.collections] at hd
          obtain ⟨-, hcd⟩ := List.append_inj' hd rfl
          cases hcd
          rw [hmembers hkeyed, Members.hasKey_addAll]
          rfl
      cases hstep : i.step with
      | construct cls =>
        rw [hstep] at hattempt hplain
        exact hmade cls hplain hattempt
      | new =>
        rw [hstep] at hattempt hplain
        exact hmade .inMemory hplain hattempt
      | _ => rfl

/-- The instruction that makes a set succeeds, and the set has the keys that it is made of. -/
theorem Sound.made (hs : s.Sound) (hi : i.IsPlain s)
    (hc : (s.after i).collections[s.collections.length]? = some c)
    (hkeyed : c.cls.isKeyed = true) :
    (∃ v, i.answer s = .ok v) ∧ ∀ y, hasKey y c.members = hasKey y (i.elements s c) := by
  unfold Instruction.answer
  cases hchange : i.change? s with
  | some change =>
    obtain ⟨m, h, xs⟩ := change
    obtain ⟨-, d, -, hset, -⟩ := hs.frame_of_change?_eq_some hchange
    rw [hset] at hc
    have hlt := (List.getElem?_eq_some_iff.1 hc).1
    simp at hlt
  | none =>
    cases hattempt : outcome i.attempt s.begun with
    | mk r t =>
      rcases attempt_of_change?_eq_none hs hi hchange hattempt with ⟨ht, hv⟩ | ⟨v, rfl, hadds⟩
      · obtain ⟨-, hafter⟩ :=
          after_of_attempt hattempt ht.sound fun v hr => ht.classes_eq ▸ (hv v hr).1
        rw [hafter, ht.collections] at hc
        have hlt := (List.getElem?_eq_some_iff.1 hc).1
        simp at hlt
      · obtain ⟨-, hafter⟩ := after_of_attempt hattempt hadds.sound fun w hw => by
          cases hw
          exact .inl hadds.grounded
        obtain ⟨d, hadded, -⟩ := hadds.added
        have hcd : d = c := by
          rw [hafter, hadded] at hc
          simpa using hc
        subst hcd
        exact ⟨⟨v, rfl⟩, hasKey_elements hs hi hattempt ⟨v, rfl⟩ hadded hkeyed⟩

/-- A step that calls a changing method on a variable turns the set that this holds. -/
theorem turned_run (hs : s.Sound) (ht : s.Like t) {on : String} {h : Handle} {step : Step}
    {args : List Value} {named : List (String × Value)} (hcallee : step.callee? = some on)
    (hv : s.value? on = some (.handle h)) (hm : step.mutator? = some m)
    (hreceiver : step.receiver? s args named = some (h, xs)) (hkeyed : h.cls.isKeyed = true) :
    Turned t h m xs (outcome (step.run args named) t) := by
  have hvt : t.value? on = some (.handle h) := (ht.value?_eq on).trans hv
  have hb := ht.behind (hs.value hv)
  have hc : (t.collection h).Lawful := hb.proper.lawful (hb.cls ▸ hkeyed)
  cases step with
  | call method on' =>
    cases hcallee
    simp only [Step.mutator?, Option.ite_none_right_eq_some] at hm
    obtain ⟨hmutates, hmethod⟩ := hm
    cases hmethod
    simp only [Step.receiver?, receiver?, hv] at hreceiver
    cases hreceiver
    show Turned t h m xs (outcome (call m on xs named) t)
    rw [outcome_call ht.sound.untouched hvt]
    exact turned_callSet hmutates ht.sound (ht.sound.value hvt) hkeyed hc named
  | popFirst on' =>
    cases hcallee
    cases hm
    simp only [Step.receiver?, hv] at hreceiver
    cases hreceiver
    exact turned_popFirstOf ht.sound (ht.sound.value hvt) hc hvt
  | _ => cases hcallee

/-- A call on a set by key turns the set as its event says. -/
theorem Sound.turned (hs : s.Sound) (hi : i.Calls k s m xs) (hc : s.collections[k]? = some c)
    (hkeyed : c.cls.isKeyed = true) :
    ∃ d, (s.after i).collections[k]? = some d ∧ d.cls = c.cls ∧ d.config = c.config ∧
      Event.Turns ⟨m, xs, i.answer s⟩ c d := by
  obtain ⟨on, h, hcallee, hv, rfl, hchange⟩ := hi
  unfold Instruction.answer
  cases hattempt : outcome i.attempt s.begun with
  | mk r t =>
    obtain ⟨b, d, hb, hchanged, hgrounded⟩ := attempt_of_change?_eq_some hs hchange hattempt
    have hbc : b = c := Option.some.inj (hb.found.symm.trans hc)
    subst hbc
    obtain ⟨-, hafter⟩ := after_of_attempt hattempt hchanged.sound fun v hr =>
      .inl (hchanged.classes_eq hb ▸ hgrounded v hr)
    have hd := hchanged.getElem?_self hb
    refine ⟨d, hafter ▸ hd, hchanged.cls, hchanged.config, ?_⟩
    obtain ⟨args, named, u, hu, -, -, hm, hreceiver, hstep⟩ :=
      exists_step_of_change?_eq_some hs hchange
    -- evaluating the arguments leaves the sets alone, so the call meets the set `b` as it was
    have hbu := hu.behind (hs.value hv)
    have hcollection : u.collection h = b := Option.some.inj (hbu.found.symm.trans hb.found)
    have hturned := turned_run hs hu hcallee hv hm hreceiver (hb.cls ▸ hkeyed)
    rw [← hstep, hattempt] at hturned
    obtain ⟨e, he, hturns⟩ := hturned
    have hde : d = e := by
      have hlt := (List.getElem?_eq_some_iff.1 hbu.found).1
      rw [he, hu.collections, List.getElem?_set_self hlt] at hd
      exact (Option.some.inj hd).symm
    rw [hde, ← hcollection]
    exact hturns

namespace History

theorem exists_set (hist : History k es t) : t.IsReachable ∧ ∃ c, t.collections[k]? = some c := by
  induction hist with
  | made hs hi _ hc => exact ⟨.step hs hi, _, hc⟩
  | spared _ hi ih =>
    obtain ⟨hs, c, hc⟩ := ih
    obtain ⟨d, hd, -⟩ := (hs.sound.after hi.1).kept hc
    exact ⟨.step hs hi.1, d, hd⟩
  | called _ hi ih =>
    obtain ⟨hs, c, hc⟩ := ih
    obtain ⟨d, hd, -⟩ := (hs.sound.after hi.isPlain).kept hc
    exact ⟨.step hs hi.isPlain, d, hd⟩

/-- The events of its history decide which keys a set has. -/
theorem hasKey_iff (hist : History k es t) (hc : t.collections[k]? = some c)
    (hkeyed : c.cls.isKeyed = true) (y : Value) :
    hasKey y c.members = true ↔ Event.Keeps c.takes es y := by
  induction hist generalizing c y with
  | @made s i d hs hi hk hd =>
    subst hk
    rw [hd, Option.some.injEq] at hc
    subst hc
    obtain ⟨⟨v, hv⟩, hkeys⟩ := hs.sound.made hi hd hkeyed
    rw [hkeys y, Event.keeps_singleton, hv]
    rfl
  | @spared es s i hist hi ih =>
    obtain ⟨hs, d, hd⟩ := hist.exists_set
    rw [hs.sound.getElem?_after hi (List.getElem?_eq_some_iff.1 hd).1] at hc
    exact ih hc hkeyed y
  | @called es s i m xs hist hi ih =>
    obtain ⟨hs, b, hb⟩ := hist.exists_set
    have hbkeyed : b.cls.isKeyed = true := by
      obtain ⟨d, hd, hcls, -⟩ := (hs.sound.after hi.isPlain).kept hb
      rw [hd, Option.some.injEq] at hc
      rw [← hcls, hc]
      exact hkeyed
    obtain ⟨d, hd, -, hconfig, hturns⟩ := hs.sound.turned hi hb hbkeyed
    rw [hd, Option.some.injEq] at hc
    subst hc
    have htakes : d.takes = b.takes :=
      funext fun x => Collection.takes_congr (congrArg Config.elementType hconfig) x
    rw [htakes]
    exact hturns.keeps (ih hb hbkeyed) y

/-- The history of a set by key decides what it has: a hashable value that its element type takes
exactly if a successful insertion put the key of the value, and no later event dropped it. A value
that the element type does not take it never has. Its size is the number of keys that it has. -/
theorem has_iff (hist : History k es t) (hc : t.collections[k]? = some c)
    (hkeyed : c.cls.isKeyed = true) (same : Sameness) :
    (∀ y, y.isHashable = true → c.takes y = true → ∃ answer, c.has same y = .ok answer ∧
      (answer = true ↔ Event.Keeps c.takes es y)) ∧
    (∀ y, y.isHashable = true → c.takes y = false → c.has same y = .ok false) ∧
    c.size = Set.ncard {key : Quotient keySetoid | ∃ y, ⟦y⟧ = key ∧ c.has same y = .ok true} := by
  have hlawful := (hist.exists_set.1.sound.proper c (List.mem_of_getElem? hc)).lawful hkeyed
  refine ⟨fun y hy htakes => ?_, fun y hy htakes => ?_, hlawful.size_eq_ncard same⟩
  · refine ⟨_, hlawful.has_of_isHashable same hy, ?_⟩
    rw [Collection.Lawful.holds_of_takes htakes]
    exact hist.hasKey_iff hc hkeyed y
  · rw [hlawful.has_of_isHashable same hy, Collection.Lawful.holds_of_not_takes htakes]

/-- Where dropping stops at a list, a set has lost the element before it, by whatever value of its
key that was named, and has kept the one behind it. -/
theorem has_iff_of_failed_delete :
    let same : Sameness := fun x y => .ok (x.sameKey y)
    let s := ({} : Session).after
      { step := .construct .inMemory, args := [.level .low, .level .mid], target? := some "a" }
    let t := s.after { step := .call .delete "a", args := [.bool true, .list [], .level .mid] }
    ∃ c es, History 0 es t ∧ t.collections[0]? = some c ∧
      Event.Keeps c.takes es (.level .mid) ∧ ¬Event.Keeps c.takes es (.level .low) ∧
      Set.ncard {key : Quotient keySetoid | ∃ y, ⟦y⟧ = key ∧ c.has same y = .ok true} = 1 := by
  intro same s t
  let i : Instruction :=
    { step := .construct .inMemory, args := [.level .low, .level .mid], target? := some "a" }
  let j : Instruction :=
    { step := .call .delete "a", args := [.bool true, .list [], .level .mid] }
  let c : Collection := ⟨.inMemory, { identity := 1, settings := {} }, [.level .mid], none⟩
  have hi : i.IsPlain {} :=
    Instruction.isPlain_of_no_config (by decide) Collection.hasPlainConfig_nil
  have hcalls : j.Calls 0 s .delete [.bool true, .box ⟨0, .list⟩, .level .mid] :=
    ⟨"a", ⟨0, .inMemory⟩, rfl, rfl, rfl, rfl⟩
  have hist := (History.made .refl hi rfl rfl).called hcalls
  have hc : t.collections[0]? = some c := rfl
  obtain ⟨hhas, -, hsize⟩ := hist.has_iff hc rfl same
  obtain ⟨kept, hkept, hkeptiff⟩ := hhas (.level .mid) rfl rfl
  obtain ⟨lost, hlost, hlostiff⟩ := hhas (.level .low) rfl rfl
  cases hkept
  cases hlost
  exact ⟨c, _, hist, hc, hkeptiff.1 rfl, fun h => Bool.noConfusion (hlostiff.2 h), hsize.symm⟩

end History

end Session

end ValueSets
