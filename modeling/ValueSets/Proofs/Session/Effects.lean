import ValueSets.Proofs.Session.Reading
import ValueSets.Session.Call

/-!
# Making and changing sets

Two things can happen to the sets of a session. An action may add one, which then is behind the
handle that it answers: `Session.Adds`. Or it may put another set behind a handle, of the same class
and configuration, and leave all others as they are: `Session.Changed`. `Act.Yields` and
`Act.Mutates` say of an action that it does nothing but the one or the other.
-/

set_option autoImplicit false

namespace ValueSets

open Value

namespace Config

variable {classes : List SetClass}

/-- What a class makes of a configuration is typed where there is a set of the class. -/
theorem IsTyped.configure {given taken : Config} (hgiven : given.IsTyped classes) {cls : SetClass}
    {identity : Nat} (h : cls.configure given identity = .ok taken) :
    taken.IsTyped (classes ++ [cls]) := by
  rcases SetClass.elementType_of_configure h with hkept | hfixed
  · exact hgiven.append.congr hkept
  · intro e he
    exact .inr ⟨cls, by simp, by rw [← hfixed, he]⟩

/-- A configuration that plain options come to is typed, if the one that they give is. -/
theorem typed_of_configured {standIn : Value → StandIn} {cls : SetClass}
    {named : List (String × Value)} {identity : Nat} {config : Config} {i : Option StandIn}
    (hnamed : Collection.HasPlainConfig named)
    (hinside : ∀ c, (standIn (.config c)).inside? = none)
    (hgiven : ∀ c, named.lookup "config" = some (.config c) → c.IsTyped classes)
    (h : Collection.configured standIn cls named identity = .ok (config, i)) :
    config.IsTyped (classes ++ [cls]) := by
  obtain ⟨-, given, hconfigure, hwhence⟩ := Collection.exists_of_configured hnamed hinside h
  refine IsTyped.configure ?_ hconfigure
  rcases hwhence with hlookup | rfl | ⟨settings, hread, rfl⟩
  · exact hgiven given hlookup
  · exact isGrounded_shared.typed
  · exact fun e he => .inl (Collection.isHashable_of_readNamed hread he)

end Config

namespace Collection

variable {classes : List SetClass} {c d : Collection} {vs : List Value}

/-- A proper set that can be taken into a session whose sets have the given classes. Its
configuration may have the element type that its own class fixes. -/
structure Fits (classes : List SetClass) (c : Collection) : Prop where
  proper : c.Proper
  typed : c.config.IsTyped (classes ++ [c.cls])
  members : AllGrounded classes c.members

/-- A set that is made like one that fits does so, too. -/
theorem Fits.madeLike (hc : c.Fits classes) (hd : c.MadeLike vs d)
    (hvs : AllGrounded classes vs) : d.Fits classes where
  proper := hd.proper
  typed := by
    rw [hd.cls, hd.config]
    exact hc.typed
  members := hvs.of_subset hd.members

end Collection

namespace Session

variable {s t : Session} {h : Handle} {c d : Collection}

theorem Behind.fits (hc : s.Behind h c) : c.Fits s.classes :=
  ⟨hc.proper, hc.config.typed.append, hc.members⟩

/-- A session that has one set more than `s`, which is `v`, and the same variables. -/
structure Adds (s t : Session) (v : Value) : Prop where
  sound : t.Sound
  bindings : t.bindings = s.bindings
  added : ∃ c, t.collections = s.collections ++ [c] ∧ v = .handle ⟨s.collections.length, c.cls⟩

/-- A session in which the set `d` has taken the place of `c` behind a handle, and that has the same
variables. -/
structure Changed (s t : Session) (h : Handle) (c d : Collection) : Prop where
  sound : t.Sound
  bindings : t.bindings = s.bindings
  collections : t.collections = s.collections.set h.index d
  cls : d.cls = c.cls
  config : d.config = c.config

/-- Putting a set in its own place changes nothing. -/
theorem Behind.set_self (hc : s.Behind h c) : s.collections.set h.index c = s.collections := by
  obtain ⟨hlt, hget⟩ := List.getElem?_eq_some_iff.1 hc.found
  rw [← hget]
  exact List.set_getElem_self hlt

theorem Like.changed (ht : s.Like t) (hc : s.Behind h c) : s.Changed t h c c where
  sound := ht.sound
  bindings := ht.bindings
  collections := ht.collections.trans hc.set_self.symm
  cls := rfl
  config := rfl

theorem Changed.like (ht : s.Changed t h c c) (hc : s.Behind h c) : s.Like t where
  sound := ht.sound
  collections := ht.collections.trans hc.set_self
  bindings := ht.bindings

/-- The classes of the sets stay when one of them takes the place of one of its class. -/
theorem classes_set (hc : s.Behind h c) (hcls : d.cls = c.cls) :
    (s.collections.set h.index d).map (·.cls) = s.classes := by
  unfold classes
  rw [List.map_set, hcls]
  apply List.ext_getElem?
  intro i
  rw [List.getElem?_set]
  split
  · rename_i hi
    subst hi
    have hlt := (List.getElem?_eq_some_iff.1 hc.found).1
    rw [if_pos (by simpa using hlt), List.getElem?_map, hc.found]
    rfl
  · rfl

/-- Putting a set that was made like the one behind a handle in its place keeps a session sound. -/
theorem Like.store (ht : s.Like t) (hc : s.Behind h c) {vs : List Value} (hd : c.MadeLike vs d)
    (hvs : AllGrounded s.classes vs) : s.Changed (t.store h d) h c d where
  sound := by
    have hclasses : (t.store h d).classes = s.classes := by
      unfold Session.store Session.classes
      rw [ht.collections]
      exact classes_set hc hd.cls
    have hmem : ∀ e ∈ (t.store h d).collections, e ∈ t.collections ∨ e = d :=
      fun e he => List.mem_or_eq_of_mem_set he
    exact {
      reached := ht.sound.reached
      fields := ht.sound.fields
      positive := ht.sound.positive
      proper := by
        intro e he
        rcases hmem e he with he | rfl
        · exact ht.sound.proper e he
        · exact hd.proper
      configs := by
        intro e he
        rw [hclasses]
        rcases hmem e he with he | rfl
        · exact ht.classes_eq ▸ ht.sound.configs e he
        · rw [hd.config]
          exact hc.config
      members := by
        intro e he
        rw [hclasses]
        rcases hmem e he with he | rfl
        · exact ht.classes_eq ▸ ht.sound.members e he
        · exact hvs.of_subset hd.members
      contents := by
        rw [hclasses]
        exact ht.classes_eq ▸ ht.sound.contents
      boxed := ht.sound.boxed
      bindings := by
        rw [hclasses]
        exact ht.classes_eq ▸ ht.sound.bindings }
  bindings := ht.bindings
  collections := by
    unfold Session.store
    rw [ht.collections]
  cls := hd.cls
  config := hd.config

/-- Taking a set that fits, with a settled configuration, into a session keeps it sound. -/
theorem Like.adds (ht : s.Like t) (hc : c.Fits s.classes) (hsettled : c.config.IsSettled) :
    s.Adds { t with collections := t.collections ++ [c] }
      (.handle ⟨t.collections.length, c.cls⟩) where
  sound := by
    have hclasses : classes { t with collections := t.collections ++ [c] } =
        t.classes ++ [c.cls] := by
      simp [classes]
    have hmem : ∀ e ∈ t.collections ++ [c], e ∈ t.collections ∨ e = c := by
      intro e he
      simpa using he
    obtain ⟨hproper, htyped, hms⟩ := hc
    rw [← ht.classes_eq] at htyped hms
    exact {
      reached := ht.sound.reached
      fields := ht.sound.fields
      positive := ht.sound.positive
      proper := by
        intro e he
        rcases hmem e he with he | rfl
        · exact ht.sound.proper e he
        · exact hproper
      configs := by
        intro e he
        rw [hclasses]
        rcases hmem e he with he | rfl
        · exact (ht.sound.configs e he).append
        · exact ⟨hsettled, htyped⟩
      members := by
        intro e he
        rw [hclasses]
        rcases hmem e he with he | rfl
        · exact (ht.sound.members e he).append
        · exact hms.append
      contents := by
        rw [hclasses]
        exact ht.sound.contents.append
      boxed := ht.sound.boxed
      bindings := by
        rw [hclasses]
        exact fun b hb => (ht.sound.bindings b hb).append }
  bindings := ht.bindings
  added := ⟨c, by rw [ht.collections], by rw [ht.collections]⟩

end Session

namespace Act

open Session

variable {s : Session} {h : Handle} {α β : Type} {p : α → Prop}

/-! ## New sets -/

/-- Whether an action answers a set that it added to the session, if it succeeds, and does nothing
to those that were there. -/
def Makes (s : Session) (m : Act Handle) : Prop :=
  Ends s m fun r t => (s.Like t ∧ ∀ h, r ≠ .ok h) ∨ ∃ h, r = .ok h ∧ s.Adds t (.handle h)

/-- Whether an action either leaves the sets alone and answers no set, or answers a set that it
added to them. -/
def Yields (s : Session) (m : Act Value) : Prop :=
  Ends s m fun r t =>
    (s.Like t ∧ ∀ v, r = .ok v → v.Answerable s.classes ∧ ∀ h, v ≠ .handle h) ∨
      ∃ v, r = .ok v ∧ s.Adds t v

theorem Quiet.yields {m : Act Value} (hm : Quiet s m (NoSet s.classes)) : Yields s m :=
  fun t ht => .inl ⟨(hm t ht).1, fun v hv => ((hm t ht).2 v hv).answerable⟩

/-- A number that is answered may be of any length. -/
theorem Quiet.yields_number {m : Act Value} (hm : Quiet s m fun v => v.isNumber = true) :
    Yields s m :=
  fun t ht => .inl ⟨(hm t ht).1, fun v hv => answerable_of_isNumber ((hm t ht).2 v hv)⟩

/-- Making an object of what may be answered answers it. -/
theorem yields_fresh {v : Value} (hv : v.Answerable s.classes ∧ ∀ h, v ≠ .handle h) :
    Yields s (fresh v) := by
  obtain ⟨hground | hnumber, hset⟩ := hv
  · exact (quiet_fresh ⟨hground, hset⟩).yields
  · exact (quiet_freshNumber hnumber).yields_number

theorem Quiet.bind_yields {m : Act α} {f : α → Act Value} (hm : Quiet s m p)
    (hf : ∀ a, p a → Yields s (f a)) : Yields s (m >>= f) :=
  hm.bind_ends (fun _ _ ht => .inl ⟨ht, fun _ hv => by cases hv⟩) hf

theorem Quiet.bind_makes {m : Act α} {f : α → Act Handle} (hm : Quiet s m p)
    (hf : ∀ a, p a → Makes s (f a)) : Makes s (m >>= f) :=
  hm.bind_ends (fun _ _ ht => .inl ⟨ht, fun _ hv => by cases hv⟩) hf

theorem Makes.yields {m : Act Handle} (hm : Makes s m) :
    Yields s (m >>= fun h => pure (.handle h)) := by
  intro t ht
  rw [outcome_bind]
  have hends := hm t ht
  cases hr : outcome m t with
  | mk r u =>
    rw [hr] at hends
    rcases hends with ⟨hlike, hnone⟩ | ⟨h, rfl, hadds⟩
    · cases r with
      | error fault => exact .inl ⟨hlike, fun v hv => by cases hv⟩
      | ok h => exact absurd rfl (hnone h)
    · exact .inr ⟨_, rfl, hadds⟩

/-- Settling its configuration leaves a set as it is, but for the identity of the configuration. -/
theorem quiet_settleConfig {c : Collection} (hc : c.Fits s.classes) :
    Quiet s (settleConfig c) fun d => d.Fits s.classes ∧ d.config.IsSettled := by
  unfold settleConfig
  simp only [hc.proper.ownConfig, Option.bind_none]
  split
  · refine quiet_freshIdentity.bind fun identity hpositive => quiet_pure ?_
    refine ⟨⟨⟨rfl, fun hkeyed => ?_⟩, hc.typed.congr rfl, hc.members⟩,
      .inl (Nat.ne_of_gt hpositive)⟩
    have hlawful := hc.proper.lawful hkeyed
    exact { hlawful with ownConfig := rfl }
  · rename_i hkept
    exact quiet_pure ⟨hc, Config.isSettled_iff.2 hkept⟩

/-- A set with a settled configuration of its own keeps it. -/
theorem settleConfig_eq {c : Collection} (hc : c.standIn? = none)
    (hsettled : c.config.IsSettled) : settleConfig c = pure c := by
  unfold settleConfig
  rw [hc]
  simp only [Option.bind_none, if_neg (Config.isSettled_iff.1 hsettled)]

theorem makes_allocateCopy {c : Collection} (hc : c.Fits s.classes) :
    Makes s (allocateCopy c) := by
  refine (quiet_settleConfig hc).bind_makes fun d ⟨hd, hsettled⟩ => ?_
  intro t ht
  exact .inr ⟨_, rfl, ht.adds hd hsettled⟩

/-- Where nothing was reached into, a new set is taken in with the members that it has. -/
theorem outcome_allocate_of_untouched {t : Session} (ht : t.Untouched) (c : Collection) :
    outcome (allocate c) t = outcome (allocateCopy c) t := by
  unfold allocate
  rw [outcome_bind, outcome_get]
  simp only [ht.reached, List.isEmpty_nil, if_true]

theorem makes_allocate {c : Collection} (hc : c.Fits s.classes) : Makes s (allocate c) := by
  refine quiet_get.bind_makes fun t ht => ?_
  rw [ht.sound.reached]
  exact makes_allocateCopy hc

/-- Where nothing was reached into, a new set whose configuration has its identity is added as it
is. -/
theorem outcome_answerSet {t : Session} (ht : t.Untouched) {e : Except Fault Collection}
    (he : ∀ c, e = .ok c → c.standIn? = none ∧ c.config.IsSettled) :
    outcome (answerSet e) t = match e with
      | .ok c => (.ok (.handle ⟨t.collections.length, c.cls⟩),
          { t with collections := t.collections ++ [c] })
      | .error fault => (.error fault, t) := by
  unfold answerSet
  cases e with
  | error fault => rfl
  | ok c =>
    obtain ⟨hown, hsettled⟩ := he c rfl
    rw [outcome_bind_of_ok (outcome_ofExcept _ t), outcome_bind,
      outcome_allocate_of_untouched ht]
    unfold allocateCopy
    rw [settleConfig_eq hown hsettled, pure_bind]
    rfl

theorem yields_answerSet {e : Except Fault Collection}
    (he : ∀ c, e = .ok c → c.Fits s.classes) : Yields s (answerSet e) := by
  unfold answerSet
  exact (quiet_ofExcept he).bind_yields fun c hc => (makes_allocate hc).yields

/-- How an action ends that leaves the sets alone or adds one. The set that it answers is the added
one, as far as `isNew` says so. -/
def Kept (s : Session) (isNew : Prop) (r : Except Fault Value) (t : Session) : Prop :=
  (s.Like t ∧ ∀ v, r = .ok v → v.Answerable s.classes ∧ (isNew → ∀ h, v ≠ .handle h)) ∨
    ∃ v, r = .ok v ∧ s.Adds t v

theorem Yields.kept {m : Act Value} (hm : Yields s m) (isNew : Prop) : Ends s m (Kept s isNew) := by
  intro t ht
  rcases hm t ht with ⟨hlike, hv⟩ | hadds
  · exact .inl ⟨hlike, fun v hr => ⟨(hv v hr).1, fun _ => (hv v hr).2⟩⟩
  · exact .inr hadds

theorem Quiet.kept {m : Act Value} (hm : Quiet s m (Grounded s.classes)) {isNew : Prop}
    (hold : ¬isNew) : Ends s m (Kept s isNew) :=
  fun t ht => .inl ⟨(hm t ht).1, fun v hr => ⟨.inl ((hm t ht).2 v hr), fun h => absurd h hold⟩⟩

/-! ## Changed sets -/

/-- How an action ends that changes nothing but the set behind a handle. -/
def Mutated (s : Session) (h : Handle) (r : Except Fault Value) (t : Session) : Prop :=
  ∃ c d, s.Behind h c ∧ s.Changed t h c d ∧ ∀ v, r = .ok v → v.Grounded s.classes

/-- Whether an action changes nothing but the set behind a handle. -/
def Mutates (s : Session) (h : Handle) (act : Act Value) : Prop := Ends s act (Mutated s h)

/-- An action that has left the sets alone has changed nothing but the set behind a handle. -/
theorem mutated_of_like {t : Session} {r : Except Fault Value} (ht : s.Like t)
    (hh : (Value.handle h).Grounded s.classes) (hr : ∀ v, r = .ok v → v.Grounded s.classes) :
    Mutated s h r t := by
  have hc := ht.behind hh
  exact ⟨_, _, hc, ht.changed hc, hr⟩

theorem mutated_of_fault {t : Session} (ht : s.Like t) (hh : (Value.handle h).Grounded s.classes)
    (fault : Fault) : Mutated s h (.error fault) t :=
  mutated_of_like ht hh fun _ hv => by cases hv

theorem Quiet.mutates {act : Act Value} (hh : (Value.handle h).Grounded s.classes)
    (hact : Quiet s act (Grounded s.classes)) : Mutates s h act :=
  fun t ht => mutated_of_like (hact t ht).1 hh (hact t ht).2

theorem Quiet.bind_mutates {act : Act α} {f : α → Act Value}
    (hh : (Value.handle h).Grounded s.classes) (hact : Quiet s act p)
    (hf : ∀ a, p a → Mutates s h (f a)) : Mutates s h (act >>= f) :=
  hact.bind_ends (fun fault _ ht => mutated_of_fault ht hh fault) hf

/-- A change answers what it answers about the set behind the handle, and leaves what it leaves. -/
theorem outcome_mutate (change : (Collection → Sameness) → Collection → Mutation α) (t : Session) :
    outcome (mutate h change) t =
      ((change (fun c => (t.store h c).sameness) (t.collection h)).1,
        t.store h (change (fun c => (t.store h c).sameness) (t.collection h)).2) := by
  unfold mutate
  rw [outcome_bind, outcome_get]
  dsimp only
  cases change (fun c => (t.store h c).sameness) (t.collection h) with
  | mk result changed =>
    cases result with
    | ok a => rfl
    | error fault => rfl

/-- A change of the set behind a handle puts what it makes of the set in its place. -/
theorem ends_mutate {vs : List Value}
    {change : (Collection → Sameness) → Collection → Mutation α}
    (hh : (Value.handle h).Grounded s.classes) (hvs : AllGrounded s.classes vs)
    (hchange : ∀ same (c : Collection), c.Proper →
      c.MadeLike (c.members ++ vs) (change same c).2) :
    Ends s (mutate h change) fun r t => ∃ same c, s.Behind h c ∧
      s.Changed t h c (change same c).2 ∧ r = (change same c).1 := by
  intro t ht
  have hc := ht.behind hh
  rw [outcome_mutate]
  refine ⟨fun c => (t.store h c).sameness, t.collection h, hc, ?_, rfl⟩
  exact ht.store hc (hchange _ _ hc.proper) (allGrounded_append.2 ⟨hc.members, hvs⟩)

end Act

end ValueSets
