import ValueSets.Proofs.Session.Steps
import ValueSets.Session.Answer

/-!
# Reachable sessions

A session is reachable if instructions lead to it from the empty one. Each instruction keeps a
session sound, whether its step succeeds or not, and each set keeps its class and its configuration
(`Session.Extends`). So what is true of every lawful set is true of every set by key that a
reachable session holds, and goes on to be.

`Instruction.change?` finds the one set that an instruction may change, before it runs. The two
theorems about `Instruction.attempt` say what happens to the sets with such a set and without one.
-/

set_option autoImplicit false

namespace ValueSets

open Session Value Term Act

/-! ## Instructions -/

namespace Instruction

/-- The values of the arguments of an instruction, by position and by name. -/
def arguments (i : Instruction) : Act (List Value × List (String × Value)) := do
  let args ← Term.evalAll i.args
  let named ← Term.evalNamed i.named
  return (args, named)

/-- Evaluates the arguments of an instruction and takes its step, without writing the answer. -/
def attempt (i : Instruction) : Act Value := do
  let (args, named) ← i.arguments
  i.step.run args named

/-- Answers a value, if it can be written. -/
def write (v : Value) : Act Value := do
  MonadExcept.ofExcept ((← get).checkWritable v)
  return v

/-- An instruction is an attempt whose answer is written then. -/
theorem run_eq (i : Instruction) : i.run = i.attempt >>= write := by
  unfold run attempt arguments write
  simp only [bind_assoc, pure_bind]

theorem outcome_write (v : Value) (t : Session) :
    outcome (write v) t = ((t.checkWritable v).map fun _ => v, t) := by
  unfold write
  rw [outcome_bind, outcome_get]
  dsimp only
  cases t.checkWritable v <;> rfl

theorem outcome_attempt (i : Instruction) (s : Session) :
    outcome i.attempt s = match outcome i.arguments s with
      | (.ok (args, named), t) => outcome (i.step.run args named) t
      | (.error fault, t) => (.error fault, t) := by
  unfold attempt
  rw [outcome_bind]
  cases outcome i.arguments s with
  | mk r t => cases r <;> rfl

end Instruction

namespace Session

/-- A session as an instruction finds it: the log is empty. -/
def begun (s : Session) : Session := { s with log := [] }

/-- The session that an instruction leaves. -/
def after (s : Session) (i : Instruction) : Session := ((Session.execute i).run s).2

end Session

namespace Instruction

/-- Whether an instruction leaves configurations what they are, in the session that it runs in. -/
def IsPlain (s : Session) (i : Instruction) : Prop :=
  ∀ args named t, outcome i.arguments s.begun = (.ok (args, named), t) → i.step.IsPlain named

theorem names_of_evalNamed {ts : List (String × Term)} {named : List (String × Value)}
    {s t : Session} (h : outcome (evalNamed ts) s = (.ok named, t)) :
    named.map (·.1) = ts.map (·.1) := by
  induction ts generalizing named s with
  | nil =>
    cases h
    rfl
  | cons entry ts ih =>
    obtain ⟨name, term⟩ := entry
    obtain ⟨v, u, -, h⟩ := outcome_bind_eq_ok.1 h
    obtain ⟨rest, w, hrest, h⟩ := outcome_bind_eq_ok.1 h
    cases h
    rw [List.map_cons, List.map_cons, ih hrest]

/-- An instruction whose named arguments give no configuration leaves configurations what they are,
if its step does. -/
theorem isPlain_of_no_config {s : Session} {i : Instruction}
    (hnamed : "config" ∉ i.named.map (·.1)) (hstep : i.step.IsPlain []) : i.IsPlain s := by
  intro args named t h
  have hplain : Collection.HasPlainConfig named := by
    intro v hv
    obtain ⟨vs, u, -, h⟩ := outcome_bind_eq_ok.1 h
    obtain ⟨rest, w, hrest, h⟩ := outcome_bind_eq_ok.1 h
    cases h
    rw [← names_of_evalNamed hrest] at hnamed
    exact absurd (List.mem_map_of_mem (mem_of_lookup hv)) hnamed
  cases hi : i.step with
  | construct | new | keySet => exact hplain
  | assign on field =>
    rw [hi] at hstep
    exact hstep
  | _ => trivial

/-- What the step of an instruction answers. Whether the answer can be written is another matter. -/
def answer (s : Session) (i : Instruction) : Except Fault Value := (outcome i.attempt s.begun).1

/-- The method by which an instruction changes a set, that set, and the further arguments. -/
def change? (s : Session) (i : Instruction) : Option (Method × Handle × List Value) :=
  match i.step.mutator?, (outcome i.arguments s.begun).1 with
  | some m, .ok (args, named) => (i.step.receiver? s args named).map fun (h, xs) => (m, h, xs)
  | _, _ => none

theorem change?_eq_none {s : Session} {i : Instruction} (h : i.step.mutator? = none) :
    i.change? s = none := by
  unfold change?
  rw [h]

end Instruction

/-! ## Runs -/

/-- The sessions that instructions lead to, each of them allowed where it is run. -/
inductive Session.ReachesBy (allowed : Session → Instruction → Prop) (s : Session) : Session → Prop
  | refl : ReachesBy allowed s s
  | step {t : Session} {i : Instruction} :
    ReachesBy allowed s t → allowed t i → ReachesBy allowed s (t.after i)

/-- The sessions that plain instructions lead to. -/
def Session.Reaches (s t : Session) : Prop := ReachesBy Instruction.IsPlain s t

/-- The sessions that plain instructions lead to from the empty one. -/
def Session.IsReachable (s : Session) : Prop := Reaches {} s

variable {s t u : Session} {i : Instruction} {v : Value} {h : Handle} {m : Method}
  {xs : List Value} {r : Except Fault Value} {c d : Collection}

namespace Session

/-- A sound session that has the sets of `s`, each with its class and its configuration, and perhaps
more. -/
structure Extends (s t : Session) : Prop where
  sound : t.Sound
  kept : ∀ {k : Nat} {c : Collection}, s.collections[k]? = some c →
    ∃ d, t.collections[k]? = some d ∧ d.cls = c.cls ∧ d.config = c.config

namespace Extends

theorem refl (hs : s.Sound) : s.Extends s := ⟨hs, fun hc => ⟨_, hc, rfl, rfl⟩⟩

theorem trans (hst : s.Extends t) (htu : t.Extends u) : s.Extends u where
  sound := htu.sound
  kept hc := by
    obtain ⟨d, hd, hcls, hconfig⟩ := hst.kept hc
    obtain ⟨e, he, hcls', hconfig'⟩ := htu.kept hd
    exact ⟨e, he, hcls'.trans hcls, hconfig'.trans hconfig⟩

theorem of_collections_eq (hst : s.Extends t) (hu : u.Sound)
    (h : u.collections = t.collections) : s.Extends u :=
  ⟨hu, fun hc => h ▸ hst.kept hc⟩

end Extends

theorem Like.extends (ht : s.Like t) : s.Extends t :=
  ⟨ht.sound, fun hc => ⟨_, ht.collections ▸ hc, rfl, rfl⟩⟩

/-- The sets that were there stay where one is added. -/
theorem Adds.getElem?_eq (ht : s.Adds t v) {k : Nat} (hk : k < s.collections.length) :
    t.collections[k]? = s.collections[k]? := by
  obtain ⟨c, hadded, -⟩ := ht.added
  rw [hadded, List.getElem?_append_left hk]

theorem Adds.extends (ht : s.Adds t v) : s.Extends t where
  sound := ht.sound
  kept {k c} hc := by
    obtain ⟨hk, -⟩ := List.getElem?_eq_some_iff.1 hc
    exact ⟨c, by rw [ht.getElem?_eq hk, hc], rfl, rfl⟩

theorem Adds.grounded (ht : s.Adds t v) : v.Grounded t.classes := by
  obtain ⟨c, hadded, rfl⟩ := ht.added
  rw [grounded_handle]
  unfold classes
  simp [hadded]

theorem Changed.getElem?_self (ht : s.Changed t h c d) (hc : s.Behind h c) :
    t.collections[h.index]? = some d := by
  obtain ⟨hlt, -⟩ := List.getElem?_eq_some_iff.1 hc.found
  rw [ht.collections, List.getElem?_set_self hlt]

theorem Changed.getElem?_of_ne (ht : s.Changed t h c d) {k : Nat} (hk : h.index ≠ k) :
    t.collections[k]? = s.collections[k]? := by
  rw [ht.collections, List.getElem?_set_ne hk]

theorem Changed.classes_eq (ht : s.Changed t h c d) (hc : s.Behind h c) :
    t.classes = s.classes := by
  unfold classes
  rw [ht.collections]
  exact classes_set hc ht.cls

theorem Changed.extends (ht : s.Changed t h c d) (hc : s.Behind h c) : s.Extends t where
  sound := ht.sound
  kept {k e} he := by
    by_cases hk : h.index = k
    · subst hk
      rw [hc.found, Option.some.injEq] at he
      subst he
      exact ⟨d, ht.getElem?_self hc, ht.cls, ht.config⟩
    · exact ⟨e, by rw [ht.getElem?_of_ne hk, he], rfl, rfl⟩

/-- Putting a value into a variable binds nothing else anew. -/
theorem mem_bindings_bind {name : String} {b : String × Value} (hb : b ∈ (s.bind name v).bindings) :
    b = (name, v) ∨ b ∈ s.bindings := by
  unfold Session.bind at hb
  dsimp only at hb
  split at hb
  · obtain ⟨old, hold, rfl⟩ := List.mem_map.1 hb
    split
    · exact .inl rfl
    · exact .inr hold
  · rcases List.mem_append.1 hb with hb | hb
    · exact .inr hb
    · exact .inl (List.mem_singleton.1 hb)

/-- A sound session may put what is grounded into a variable. -/
theorem Sound.bind (hs : s.Sound) (name : String) (hv : v.Grounded s.classes) :
    (s.bind name v).Sound := by
  refine { hs with bindings := fun b hb => ?_ }
  rcases mem_bindings_bind hb with rfl | hb
  · exact hv
  · exact hs.bindings b hb

end Session

/-! ## What an instruction leaves -/

namespace Act

theorem quiet_showRejected (cls : SetClass) (v : Value) :
    Quiet s (Fault.showRejected cls v) fun _ => True := by
  unfold Fault.showRejected
  exact (quiet_note _).bind fun _ _ => quiet_print v

/-- Reporting a fault leaves the sets alone. -/
theorem like_report (ht : s.Like t) (fault : Fault) : s.Like (fault.report.run t).2 := by
  unfold Fault.report
  split
  · rename_i cls v expected
    have hshown := (quiet_showRejected cls v t ht).1
    unfold outcome at hshown
    rw [StateT.run_bind]
    cases hr : (Fault.showRejected cls v).run.run t with
    | mk shown u =>
      rw [hr] at hshown
      cases shown with
      | ok shown => exact hshown
      | error fault => exact hshown
  · exact ht

theorem quiet_arguments (i : Instruction) :
    Quiet s i.arguments fun a => AllGrounded s.classes a.1 ∧ NamedGrounded s.classes a.2 := by
  unfold Instruction.arguments
  refine (quiet_evalAll i.args).bind fun args hargs => ?_
  exact (quiet_evalNamed i.named).bind fun named hnamed => quiet_pure ⟨hargs, hnamed⟩

theorem silent_arguments (i : Instruction) : Silent i.arguments :=
  (silent_evalAll i.args).bind fun _ => (silent_evalNamed i.named).bind fun _ => silent_pure _

end Act

/-- A number that was written has few enough digits. -/
theorem grounded_of_checkWritable {classes : List SetClass} (hv : v.Answerable classes)
    (h : t.checkWritable v = .ok ()) : v.Grounded classes := by
  rcases hv with hground | hnumber
  · exact hground
  · unfold Session.checkWritable at h
    obtain ⟨depth, hdepth⟩ := t.exists_depth
    rw [hdepth] at h
    cases v with
    | int n => exact grounded_int.2 h
    | fraction q =>
      obtain ⟨_, hnumerator, hdenominator⟩ := Fallible.bind_eq_ok.1 h
      exact grounded_fraction.2 ⟨hnumerator, hdenominator⟩
    | _ => cases hnumber

namespace Session

theorem Sound.like_begun (hs : s.Sound) : s.Like s.begun := (Like.refl hs).withLog []

/-- What an instruction does beyond its step: it reports a fault or fills a variable. -/
theorem after_eq (s : Session) (i : Instruction) :
    s.after i = match outcome i.run s.begun with
      | (.ok v, t) => match i.target? with
        | some name => (t.bind name v).described
        | none => t
      | (.error fault, t) => (fault.report.run t).2 := by
  unfold after execute outcome begun
  simp only [StateT.run_bind, StateT.run_modify, pure_bind]
  cases i.run.run.run { s with log := [] } with
  | mk r t =>
    cases r with
    | error fault => rfl
    | ok v =>
      cases i.target? with
      | none => rfl
      | some name => rfl

/-- What an instruction does after its step: it leaves the sets and the variables alone, or puts the
answer into a variable. -/
theorem after_cases (hattempt : outcome i.attempt s.begun = (r, t)) (ht : t.Sound)
    (hr : ∀ v, r = .ok v → v.Answerable t.classes) :
    t.Like (s.after i) ∨ ∃ name v, i.target? = some name ∧ r = .ok v ∧
      v.Grounded t.classes ∧ s.after i = t.bind name v := by
  rw [after_eq, Instruction.run_eq, outcome_bind, hattempt]
  cases r with
  | error fault => exact .inl (like_report (Like.refl ht) fault)
  | ok v =>
    dsimp only
    rw [Instruction.outcome_write]
    cases hwritten : t.checkWritable v with
    | error fault => exact .inl (like_report (Like.refl ht) fault)
    | ok _ =>
      cases i.target? with
      | none => exact .inl (Like.refl ht)
      | some name =>
        have hv := grounded_of_checkWritable (hr v rfl) hwritten
        exact .inr ⟨name, v, rfl, rfl, hv, (ht.bind name hv).described_eq⟩

/-- Writing the answer and filling a variable leave the sets as the step left them. -/
theorem after_of_attempt (hattempt : outcome i.attempt s.begun = (r, t)) (ht : t.Sound)
    (hr : ∀ v, r = .ok v → v.Answerable t.classes) :
    (s.after i).Sound ∧ (s.after i).collections = t.collections := by
  rcases after_cases hattempt ht hr with hlike | ⟨name, v, -, -, hv, hafter⟩
  · exact ⟨hlike.sound, hlike.collections⟩
  · rw [hafter]
    exact ⟨ht.bind name hv, rfl⟩

/-- Putting a value into a variable leaves the other variables. -/
theorem value?_bind_of_ne {name other : String} (hne : name ≠ other) (v : Value) :
    (s.bind other v).value? name = s.value? name := by
  have hentered := lookup_entered name other v s.bindings
  rw [if_neg hne] at hentered
  exact hentered

/-- An instruction without a set to change leaves the sets alone or adds one. -/
theorem attempt_of_change?_eq_none (hs : s.Sound) (hi : i.IsPlain s) (hnone : i.change? s = none)
    (hattempt : outcome i.attempt s.begun = (r, t)) :
    Kept s (i.step.mutator? = none ∧ i.step.isAlias = false) r t := by
  rw [Instruction.outcome_attempt] at hattempt
  unfold Instruction.change? at hnone
  have harguments := quiet_arguments i _ hs.like_begun
  cases ha : outcome i.arguments s.begun with
  | mk a u =>
    rw [ha] at hattempt harguments hnone
    obtain ⟨hu, hgood⟩ := harguments
    cases a with
    | error fault =>
      cases hattempt
      exact .inl ⟨hu, fun _ hv => by cases hv⟩
    | ok a =>
      obtain ⟨args, named⟩ := a
      obtain ⟨hargs, hnamed⟩ := hgood _ rfl
      have hreceiver : ∀ m, i.step.mutator? = some m → i.step.receiver? s args named = none := by
        intro m hm
        simpa only [hm, Option.map_eq_none_iff] using hnone
      have hkept := Step.kept_run (hi args named u ha) hreceiver hargs hnamed u hu
      rw [show outcome (i.step.run args named) u = (r, t) from hattempt] at hkept
      exact hkept

/-- An instruction with a set to change takes its step once its arguments are evaluated, and that
has left the sets alone. -/
theorem exists_step_of_change?_eq_some (hs : s.Sound) (hsome : i.change? s = some (m, h, xs)) :
    ∃ args named u, s.Like u ∧ AllGrounded s.classes args ∧ NamedGrounded s.classes named ∧
      i.step.mutator? = some m ∧ i.step.receiver? s args named = some (h, xs) ∧
      outcome i.attempt s.begun = outcome (i.step.run args named) u := by
  rw [Instruction.outcome_attempt]
  unfold Instruction.change? at hsome
  have harguments := quiet_arguments i _ hs.like_begun
  cases ha : outcome i.arguments s.begun with
  | mk a u =>
    rw [ha] at harguments hsome
    obtain ⟨hu, hgood⟩ := harguments
    split at hsome
    · rename_i method args named hm hok
      cases hok
      obtain ⟨hargs, hnamed⟩ := hgood _ rfl
      obtain ⟨⟨k, ys⟩, hreceiver, heq⟩ := Option.map_eq_some_iff.1 hsome
      cases heq
      exact ⟨args, named, u, hu, hargs, hnamed, hm, hreceiver, rfl⟩
    · cases hsome

/-- An instruction changes at most the set that it calls a changing method on. -/
theorem attempt_of_change?_eq_some (hs : s.Sound) (hsome : i.change? s = some (m, h, xs))
    (hattempt : outcome i.attempt s.begun = (r, t)) : Mutated s h r t := by
  obtain ⟨args, named, u, hu, hargs, hnamed, hm, hreceiver, hstep⟩ :=
    exists_step_of_change?_eq_some hs hsome
  have hh := Step.grounded_receiver? hs hargs hnamed hreceiver
  have hmutates := Step.mutates_run hm hreceiver hh hargs hnamed u hu
  rw [← hstep, hattempt] at hmutates
  exact hmutates

/-- The step of a plain instruction keeps a session sound, and answers what may be answered. -/
theorem Sound.attempt (hs : s.Sound) (hi : i.IsPlain s)
    (hattempt : outcome i.attempt s.begun = (r, t)) :
    s.Extends t ∧ ∀ v, r = .ok v → v.Answerable t.classes := by
  cases hchange : i.change? s with
  | none =>
    rcases attempt_of_change?_eq_none hs hi hchange hattempt with ⟨ht, hv⟩ | ⟨v, rfl, hadds⟩
    · exact ⟨ht.extends, fun v hr => ht.classes_eq ▸ (hv v hr).1⟩
    · refine ⟨hadds.extends, fun w hw => ?_⟩
      cases hw
      exact .inl hadds.grounded
  | some change =>
    obtain ⟨m, h, xs⟩ := change
    obtain ⟨c, d, hc, hchanged, hv⟩ := attempt_of_change?_eq_some hs hchange hattempt
    exact ⟨hchanged.extends hc, fun v hr => .inl (hchanged.classes_eq hc ▸ hv v hr)⟩

/-- The step of a plain instruction leaves the variables as they are. -/
theorem Sound.bindings_attempt (hs : s.Sound) (hi : i.IsPlain s)
    (hattempt : outcome i.attempt s.begun = (r, t)) : t.bindings = s.bindings := by
  cases hchange : i.change? s with
  | none =>
    rcases attempt_of_change?_eq_none hs hi hchange hattempt with ⟨ht, -⟩ | ⟨v, -, hadds⟩
    · exact ht.bindings
    · exact hadds.bindings
  | some change =>
    obtain ⟨m, h, xs⟩ := change
    obtain ⟨c, d, -, hchanged, -⟩ := attempt_of_change?_eq_some hs hchange hattempt
    exact hchanged.bindings

/-- A plain instruction leaves all variables but the one that it fills. -/
theorem Sound.value?_after (hs : s.Sound) (hi : i.IsPlain s) {name : String}
    (hname : i.target? ≠ some name) : (s.after i).value? name = s.value? name := by
  cases hattempt : outcome i.attempt s.begun with
  | mk r t =>
    obtain ⟨hextends, hgrounded⟩ := hs.attempt hi hattempt
    have hsame : t.value? name = s.value? name := by
      unfold value?
      rw [hs.bindings_attempt hi hattempt]
    rw [← hsame]
    rcases after_cases hattempt hextends.sound hgrounded with
      hlike | ⟨other, v, htarget, -, -, hafter⟩
    · exact hlike.value?_eq name
    · rw [hafter]
      refine value?_bind_of_ne (fun heq => hname ?_) v
      rw [htarget, ← heq]

/-- A plain instruction keeps a session sound, and the classes and configurations of its sets. -/
theorem Sound.after (hs : s.Sound) (hi : i.IsPlain s) : s.Extends (s.after i) := by
  cases hattempt : outcome i.attempt s.begun with
  | mk r t =>
    obtain ⟨hextends, hgrounded⟩ := hs.attempt hi hattempt
    obtain ⟨hsound, hcollections⟩ := after_of_attempt hattempt hextends.sound hgrounded
    exact hextends.of_collections_eq hsound hcollections

/-- A plain instruction answers what its step does, and leaves the sets as its step left them. -/
theorem Sound.answer_eq (hs : s.Sound) (hi : i.IsPlain s)
    (hattempt : outcome i.attempt s.begun = (r, t)) :
    i.answer s = r ∧ (s.after i).collections = t.collections := by
  obtain ⟨hextends, hgrounded⟩ := hs.attempt hi hattempt
  exact ⟨congrArg Prod.fst hattempt, (after_of_attempt hattempt hextends.sound hgrounded).2⟩

theorem sound_empty : Sound {} where
  reached := rfl
  fields := rfl
  positive := Nat.one_pos
  proper _ hc := by cases hc
  configs _ hc := by cases hc
  members _ hc := by cases hc
  contents := allGrounded_nil
  boxed _ hv := by cases hv
  bindings _ hb := by cases hb

/-- A run keeps a session sound, and the classes and configurations of its sets. -/
theorem Sound.reaches (hs : s.Sound) (ht : s.Reaches t) : s.Extends t := by
  induction ht with
  | refl => exact Extends.refl hs
  | step _ hi ih => exact ih.trans (ih.sound.after hi)

theorem IsReachable.sound (hs : s.IsReachable) : s.Sound := (sound_empty.reaches hs).sound

end Session

/-- A set of a reachable session that keeps its members by key. -/
def Collection.IsReachable (c : Collection) : Prop :=
  ∃ s : Session, s.IsReachable ∧ c ∈ s.collections ∧ c.cls.isKeyed = true

theorem Collection.IsReachable.lawful (hc : c.IsReachable) : c.Lawful := by
  obtain ⟨s, hs, hmem, hkeyed⟩ := hc
  exact (hs.sound.proper c hmem).lawful hkeyed

namespace Session

/-- A set by key that a reachable session holds has hashable members, no two of the same key, all of
its element type, which fits its class. It can be emptied, and whatever the session goes through, it
keeps its class and its configuration. -/
theorem IsReachable.keeps_sets_lawful (hs : s.IsReachable) (ht : s.Reaches t) {k : Nat}
    (hc : s.collections[k]? = some c) (hkeyed : c.cls.isKeyed = true) :
    (∀ m ∈ c.members, m.isHashable = true) ∧
    c.members.Pairwise (fun m n => m.sameKey n = false) ∧
    (∀ e, c.config.elementType = some e → ∀ m ∈ c.members, e.takes m = true) ∧
    (∀ f, c.cls.fixedType? = some f →
      ∃ e, c.config.elementType = some e ∧ e.isSubtypeOf f = true) ∧
    c.emptied = .ok { c with members := [] } ∧
    ∃ d, t.collections[k]? = some d ∧ d.cls = c.cls ∧ d.config = c.config := by
  have hlawful := (hs.sound.proper c (List.mem_of_getElem? hc)).lawful hkeyed
  refine ⟨hlawful.hashable, hlawful.distinct, fun e he m hm => ?_, hlawful.bound,
    hlawful.emptied_eq, (hs.sound.reaches ht).kept hc⟩
  simpa only [Collection.takes, he] using hlawful.taken m hm

/-- A set of whole numbers keeps its class and configuration where a text is refused. -/
theorem keeps_sets_lawful_of_refusal :
    let s := ({} : Session).after
      { step := .construct .int, args := [.level .low, .level .mid, .level .low],
        target? := some "a" }
    let t := s.after { step := .call .insert "a", args := [.text "x"] }
    ∃ c d, s.collections[0]? = some c ∧ c.members = [.level .low, .level .mid] ∧
      c.members.Pairwise (fun m n => m.sameKey n = false) ∧
      c.emptied = .ok { c with members := [] } ∧
      t.collections[0]? = some d ∧ d.cls = c.cls ∧ d.config = c.config := by
  intro s t
  have hs : s.IsReachable :=
    .step .refl (Instruction.isPlain_of_no_config (by simp) Collection.hasPlainConfig_nil)
  have ht : s.Reaches t := .step .refl (Instruction.isPlain_of_no_config (by simp) trivial)
  have hc : s.collections[0]? = some
      { cls := .int, config := { identity := 1, settings := { elementType := some .int } },
        members := [.level .low, .level .mid] } := rfl
  obtain ⟨-, hdistinct, -, -, hemptied, d, hd, hcls, hconfig⟩ :=
    hs.keeps_sets_lawful ht hc rfl
  exact ⟨_, d, hc, rfl, hdistinct, hemptied, hd, hcls, hconfig⟩

end Session

end ValueSets
