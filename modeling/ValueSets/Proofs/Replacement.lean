import ValueSets.Proofs.Session.TwinAnswers
import ValueSets.Proofs.Session.TwinOperations
import ValueSets.Proofs.Session.TwinSets

/-!
# Plain sets in place of keyed ones

A program that makes keyed sets without an element type is run once more with plain sets in their
place, each with a configuration of the same settings. As long as the elements are hashable and the
program asks for nothing but the operations that come down to the primitives of storage, both runs
answer alike, step by step, and leave the same members in the same order: the storage by key and the
plain list cannot be told apart but by the names of their classes.
-/

set_option autoImplicit false

namespace ValueSets

open Fallible Value Act

/-! ## Running with plain sets -/

namespace Step

/-- What a step does where sets are made plain ones with the configuration `config`. -/
def runListed (config : Config) (args : List Value) (named : List (String × Value)) :
    Step → Act Value
  | .construct _ | .new => Act.construct .plain args [("config", .config config)]
  | step => step.run args named

/-- Whether a step does what is permitted of a program in which plain sets take the place of keyed
ones. It makes a keyed set without an element type, or uses sets that variables hold, where the
elements are hashable; making configurations and naming sets once more are permitted, too. -/
def IsPermitted (s : Session) (config : Config) (args : List Value)
    (named : List (String × Value)) : Step → Prop
  | .construct .inMemory | .new => s.MakesUntyped config args named
  | .configure | .alias _ => True
  | .call m on => m ≠ .pop ∧ HoldsSet s.bindings on ∧ (∀ v ∈ args, v.isHashable = true) ∧
    ∀ b ∈ named, b.2.isHashable = true
  | .popFirst on | .list on _ => HoldsSet s.bindings on
  | .combine _ on other | .ask _ on other | .operate _ (.named on) (.named other) =>
    HoldsSet s.bindings on ∧ HoldsSet s.bindings other
  | _ => False

end Step

namespace Instruction

/-- Runs an instruction where sets are made plain ones. -/
def runListed (config : Config) (i : Instruction) : Act Value := do
  let (args, named) ← i.arguments
  write (← i.step.runListed config args named)

/-- Whether an instruction is permitted where its arguments have values. -/
def IsPermitted (s : Session) (config : Config) (i : Instruction) : Prop :=
  ∀ args named t, outcome i.arguments s.begun = (.ok (args, named), t) →
    i.step.IsPermitted t config args named

end Instruction

namespace Session

/-- The answer to an action, whose value may be put into a variable. -/
def answerTo (run : Act Value) (target? : Option String) : StateM Session Answer := do
  modify begun
  match ← run.run with
  | .ok v =>
    let log := (← get).written
    match target? with
    | some name => modify fun s => (s.bind name v).described
    | none => pure ()
    return ⟨.ok v, log⟩
  | .error fault =>
    let report ← fault.report
    return ⟨.error report, (← get).written⟩

theorem execute_eq (i : Instruction) : execute i = answerTo i.run i.target? := rfl

/-- Runs a program. Each instruction goes with the configuration of the plain set that takes the
place of the set which it makes, if it makes one. -/
def executeKeyed (program : List (Instruction × Config)) : StateM Session (List Answer) :=
  executeAll (program.map (·.1))

/-- Runs a program with plain sets. -/
def executeListed (program : List (Instruction × Config)) : StateM Session (List Answer) :=
  program.mapM fun p => answerTo (p.1.runListed p.2) p.1.target?

/-- Whether each instruction of a program is permitted where it is run. -/
def Permits (s : Session) : List (Instruction × Config) → Prop
  | [] => True
  | p :: program => p.1.IsPermitted s p.2 ∧ (s.after p.1).Permits program

end Session

/-! ## What is alike -/

/-- Whether two answers have the same value, but for the classes of sets, or report the same fault
and leave the same records, but for the names of classes. -/
structure Answer.Alike (a b : Answer) : Prop where
  outcome : Fallible.Alike Report.Alike (fun v w => w = v.listed) a.outcome b.outcome
  log : List.Forall₂ Record.Alike a.log b.log

/-- Whether a plain set has the members of a keyed one in their order, and equal settings. -/
structure Collection.IsListedAs (c d : Collection) : Prop where
  keyed : c.cls = .inMemory
  plain : d.cls = .plain
  settings : d.config.settings = c.config.settings
  members : d.members = c.members

/-- Whether a session has plain sets in place of the keyed ones of another, and the same values in
its boxes and variables. -/
structure Session.IsListedAs (s t : Session) : Prop where
  sets : List.Forall₂ Collection.IsListedAs s.collections t.collections
  contents : t.contents = s.contents.map listed
  bindings : t.bindings = s.bindings.map (Prod.map id listed)

variable {known : List Config} {vars : List (String × Value)} {s t : Session}

theorem Session.Twins.isListedAs (h : s.Twins known vars t) : s.IsListedAs t where
  sets := h.sets.imp fun _ _ hcd => ⟨hcd.keyed, hcd.plain, hcd.settings, hcd.members⟩
  contents := h.contents
  bindings := by rw [h.bindings', h.bindings]

/-! ## Steps -/

namespace Session.Twins

variable {args : List Value} {named : List (String × Value)} {config : Config}

/-- A permitted step does the same in twin sessions. -/
theorem alike_step (h : s.Twins known vars t) (hargs : ∀ v ∈ args, v.Familiar known)
    (hnamed : ∀ b ∈ named, b.2.Familiar known) (step : Step)
    (hstep : step.IsPermitted s config args named) :
    ∃ more, Alike more vars (Value.Twins more) (outcome (step.run args named) s)
      (outcome (step.runListed config (args.map listed) (named.map (Prod.map id listed))) t) := by
  have hsame : ∀ {m n : Act Value}, Together known vars (Value.Twins known) m n →
      ∃ more, Alike more vars (Value.Twins more) (outcome m s) (outcome n t) :=
    fun htogether => ⟨known, htogether s t h⟩
  have hmakes : s.MakesUntyped config args named →
      Alike known vars (Value.Twins known) (outcome (construct .inMemory args named) s)
        (outcome (construct .plain (args.map listed) [("config", .config config)]) t) := by
    intro hmakes
    rw [map_listed fun v hv => listed_of_isHashable (hmakes.hashable v hv)]
    exact alike_construct h hmakes hargs hnamed
  cases step with
  | construct cls =>
    cases cls with
    | inMemory => exact ⟨known, hmakes hstep⟩
    | _ => exact hstep.elim
  | new => exact ⟨known, hmakes hstep⟩
  | configure => exact alike_configure h args (args.map listed)
  | call m on =>
    obtain ⟨hpop, hname, hhash, hhash'⟩ := hstep
    rw [map_listed fun v hv => listed_of_isHashable (hhash v hv),
      map_named_listed fun b hb => listed_of_isHashable (hhash' b hb)]
    rw [h.bindings] at hname
    exact hsame (together_call hname hpop (fun v hv => ⟨hhash v hv, hargs v hv⟩)
      fun b hb => ⟨hhash' b hb, hnamed b hb⟩)
  | popFirst on =>
    rw [Step.IsPermitted, h.bindings] at hstep
    exact hsame (together_popFirstOf hstep hargs)
  | list on key =>
    rw [Step.IsPermitted, h.bindings] at hstep
    exact hsame (together_listOf hstep key)
  | combine op on other =>
    rw [Step.IsPermitted, h.bindings] at hstep
    exact hsame (together_combineVariables hstep.1 hstep.2 op)
  | ask q on other =>
    rw [Step.IsPermitted, h.bindings] at hstep
    exact hsame (together_askVariables hstep.1 hstep.2 q).answer
  | operate op left right =>
    cases left with
    | named name =>
      cases right with
      | named other =>
        rw [Step.IsPermitted, h.bindings] at hstep
        exact hsame (together_operateNamed hstep.1 hstep.2 op)
      | _ => exact hstep.elim
    | _ => exact hstep.elim
  | «alias» on => exact hsame ((together_valueOf on).mono fun v w hvw => hvw.1)
  | keySet | derivedCopy | contains | print | truth | iterate | hash | configOf | sameConfig
  | sameObject | assign => exact hstep.elim

theorem begun (h : s.Twins known vars t) : s.begun.Twins known vars t.begun :=
  { h with
    untouched := ⟨h.untouched.reached, h.untouched.fields⟩
    untouched' := ⟨h.untouched'.reached, h.untouched'.fields⟩
    log := .nil }

/-- A permitted instruction does the same in twin sessions. -/
theorem alike_run (h : s.Twins known vars t) {i : Instruction} (hi : i.IsPermitted s config) :
    ∃ more, Alike more vars (Value.Twins more) (outcome i.run s.begun)
      (outcome (i.runListed config) t.begun) := by
  have hrun : i.run = i.arguments >>= fun a => i.step.run a.1 a.2 >>= Instruction.write := by
    rw [Instruction.run_eq]
    unfold Instruction.attempt
    rw [bind_assoc]
  have hlisted : i.runListed config =
      i.arguments >>= fun a => i.step.runListed config a.1 a.2 >>= Instruction.write := rfl
  -- arguments are evaluated among the known configurations; the step may add one to them, so it is
  -- compared in the sessions that the arguments leave, and not in all twin sessions
  rw [hrun, hlisted, outcome_bind, outcome_bind]
  obtain ⟨htwins, hresult⟩ := together_arguments i s.begun t.begun h.begun
  cases hs : outcome i.arguments s.begun with
  | mk r u =>
    cases ht : outcome i.arguments t.begun with
    | mk q w =>
      rw [hs, ht] at htwins hresult
      cases hresult with
      | error hfault => exact ⟨known, htwins, .error hfault⟩
      | @ok a b hab =>
        obtain ⟨args, named⟩ := a
        obtain ⟨⟨hargs, hfamiliar⟩, hnamed, hfamiliar'⟩ := hab
        obtain ⟨more, hstep⟩ := htwins.alike_step hfamiliar hfamiliar' i.step (hi args named u hs)
        refine ⟨more, ?_⟩
        dsimp only
        rw [hargs, hnamed]
        exact hstep.bind fun v v' _ _ _ hvv' htwins' => htwins'.alike_write hvv'

end Session.Twins

/-! ## Programs -/

namespace Session

/-- What an instruction answers and leaves. -/
theorem run_answerTo (run : Act Value) (target? : Option String) (s : Session) :
    (answerTo run target?).run s = match outcome run s.begun with
      | (.ok v, u) => match target? with
        | some name => (⟨.ok v, u.written⟩, (u.bind name v).described)
        | none => (⟨.ok v, u.written⟩, u)
      | (.error fault, u) =>
        (⟨.error (fault.report.run u).1, (fault.report.run u).2.written⟩,
          (fault.report.run u).2) := by
  unfold answerTo outcome
  simp only [StateT.run_bind, StateT.run_modify, pure_bind]
  cases run.run.run s.begun with
  | mk r u =>
    cases r with
    | error fault => rfl
    | ok v => cases target? <;> rfl

/-- A permitted instruction is answered alike in twin sessions, and leaves twin sessions. -/
theorem Twins.answer (h : s.Twins known vars t) {i : Instruction} {config : Config}
    (hi : i.IsPermitted s config) :
    ∃ more vars',
      ((execute i).run s).1.Alike ((answerTo (i.runListed config) i.target?).run t).1 ∧
        Twins more vars' ((execute i).run s).2
          ((answerTo (i.runListed config) i.target?).run t).2 := by
  obtain ⟨more, htwins, hresult⟩ := h.alike_run hi
  rw [execute_eq, run_answerTo, run_answerTo]
  cases hs : outcome i.run s.begun with
  | mk r u =>
    cases ht : outcome (i.runListed config) t.begun with
    | mk q w =>
      rw [hs, ht] at htwins hresult
      cases hresult with
      | @error f g hfault =>
        dsimp only
        rw [hfault.fixed.report_eq, hfault.fixed'.report_eq]
        exact ⟨more, vars, ⟨.error hfault.report, htwins.written⟩, htwins⟩
      | @ok v v' hvalue =>
        cases i.target? with
        | none => exact ⟨more, vars, ⟨.ok hvalue.1, htwins.written⟩, htwins⟩
        | some name =>
          have hbound := htwins.bind name hvalue
          dsimp only
          rw [hbound.untouched.described_eq, hbound.untouched'.described_eq]
          exact ⟨more, _, ⟨.ok hvalue.1, htwins.written⟩, hbound⟩

/-- Actions one after the other give what the first gives and then what the others give. -/
theorem run_mapM_cons {ι α : Type} (f : ι → StateM Session α) (x : ι) (xs : List ι) (s : Session) :
    ((x :: xs).mapM f).run s =
      (((f x).run s).1 :: ((xs.mapM f).run ((f x).run s).2).1,
        ((xs.mapM f).run ((f x).run s).2).2) := by
  rw [List.mapM_cons]
  rfl

/-- A permitted program is answered alike in twin sessions, and leaves twin sessions. -/
theorem Twins.answers (h : s.Twins known vars t) {program : List (Instruction × Config)}
    (hprogram : s.Permits program) :
    ∃ more vars', List.Forall₂ Answer.Alike ((executeKeyed program).run s).1
        ((executeListed program).run t).1 ∧
      Twins more vars' ((executeKeyed program).run s).2 ((executeListed program).run t).2 := by
  unfold executeKeyed executeAll executeListed
  induction program generalizing known vars s t with
  | nil => exact ⟨known, vars, .nil, h⟩
  | cons p program ih =>
    obtain ⟨hfirst, hrest⟩ := hprogram
    obtain ⟨more, vars', hanswer, htwins⟩ := h.answer hfirst
    obtain ⟨more', vars'', hanswers, hend⟩ := ih htwins hrest
    rw [List.map_cons, run_mapM_cons, run_mapM_cons]
    exact ⟨more', vars'', .cons hanswer hanswers, hend⟩

theorem Permits.take {program : List (Instruction × Config)} (h : s.Permits program) (n : Nat) :
    s.Permits (program.take n) := by
  induction program generalizing s n with
  | nil => simpa using h
  | cons p program ih =>
    cases n with
    | zero => trivial
    | succ n => exact ⟨h.1, ih h.2 n⟩

theorem twins_empty : Twins [] [] {} {} where
  untouched := ⟨rfl, rfl⟩
  untouched' := ⟨rfl, rfl⟩
  sets := .nil
  contents := rfl
  familiar _ hv := by cases hv
  bindings := rfl
  bindings' := rfl
  bound _ hb := by cases hb
  nextIdentity := rfl
  log := .nil
  apart := ⟨by simp, by simp, by simp⟩
  fresh _ hc := by cases hc
  positive := Nat.one_pos

/-- A program that uses keyed sets without an element type through the primitives of storage, and
what is derived from those, answers alike if plain sets take their place. After any number of steps
the plain sets have the members of the keyed ones, in the same order. -/
theorem executeKeyed_alike_executeListed (program : List (Instruction × Config))
    (hprogram : Permits {} program) (n : Nat) :
    List.Forall₂ Answer.Alike ((executeKeyed (program.take n)).run {}).1
        ((executeListed (program.take n)).run {}).1 ∧
      ((executeKeyed (program.take n)).run {}).2.IsListedAs
        ((executeListed (program.take n)).run {}).2 := by
  obtain ⟨_, _, hanswers, hend⟩ := twins_empty.answers (hprogram.take n)
  exact ⟨hanswers, hend.isListedAs⟩

theorem run_executeAll_cons (i : Instruction) (is : List Instruction) (s : Session) :
    ((executeAll (i :: is)).run s).2 = ((executeAll is).run (s.after i)).2 := by
  unfold executeAll
  rw [run_mapM_cons]
  rfl

/-- In the union of two sets an element of the first stands for what equals it in the second,
whether they are kept by key or as lists. -/
theorem executeListed_union :
    let a : Instruction :=
      { step := .construct .inMemory, args := [.level .low, .bool true, .level .mid],
        target? := some "a" }
    let b : Instruction :=
      { step := .construct .inMemory, args := [.bool false, .bool true],
        named := [("sorted_listing", .bool false)], target? := some "b" }
    let c : Instruction := { step := .combine .union "a" "b", target? := some "c" }
    let program : List (Instruction × Config) :=
      [(a, ⟨1, {}, none⟩), (b, ⟨2, { sortedListing := false }, none⟩), (c, Config.shared)]
    let keyed := (executeKeyed program).run {}
    let listed := (executeListed program).run {}
    Permits {} program ∧ List.Forall₂ Answer.Alike keyed.1 listed.1 ∧
      keyed.2.IsListedAs listed.2 ∧ keyed.2.collections.map (·.members) =
        [[.level .low, .level .mid], [.bool false, .bool true],
          [.level .low, .level .mid, .bool false]] := by
  intro a b c program keyed listed
  let s : Session :=
    { collections := [⟨.inMemory, ⟨1, {}, none⟩, [.level .low, .level .mid], none⟩]
      bindings := [("a", .handle ⟨0, .inMemory⟩)]
      nextIdentity := 2 }
  let t : Session :=
    { collections := s.collections ++
        [⟨.inMemory, ⟨2, { sortedListing := false }, none⟩, [.bool false, .bool true], none⟩]
      bindings := s.bindings ++ [("b", .handle ⟨1, .inMemory⟩)]
      nextIdentity := 3 }
  let u : Session :=
    { collections := t.collections ++
        [⟨.inMemory, ⟨1, {}, none⟩, [.level .low, .level .mid, .bool false], none⟩]
      bindings := t.bindings ++ [("c", .handle ⟨2, .inMemory⟩)]
      nextIdentity := 3 }
  have hs : ({} : Session).after a = s := rfl
  have ht : s.after b = t := rfl
  have hu : t.after c = u := rfl
  have hprogram : Permits {} program := by
    refine ⟨?_, ?_, ?_, trivial⟩
    · have ha : outcome a.arguments {} =
        (.ok ([.level .low, .bool true, .level .mid], []), {}) := rfl
      intro args named w h
      cases ha.symm.trans h
      exact ⟨by decide, .inl (by decide), _, rfl, rfl, rfl, rfl⟩
    · have hb : outcome b.arguments s.begun =
        (.ok ([.bool false, .bool true], [("sorted_listing", .bool false)]), s) := rfl
      rw [hs]
      intro args named w h
      cases hb.symm.trans h
      exact ⟨by decide, .inl (by decide), _, rfl, rfl, rfl, rfl⟩
    · have hc : outcome c.arguments t.begun = (.ok ([], []), t) := rfl
      rw [hs, ht]
      intro args named w h
      cases hc.symm.trans h
      refine ⟨fun v hv => ?_, fun v hv => ?_⟩
      all_goals
        cases hv
        exact ⟨_, rfl⟩
  have halike := executeKeyed_alike_executeListed program hprogram program.length
  rw [List.take_length] at halike
  have hkeyed : keyed.2 = u := by
    have hnone : ((executeAll []).run (t.after c)).2 = t.after c := rfl
    show ((executeAll [a, b, c]).run {}).2 = u
    rw [run_executeAll_cons, run_executeAll_cons, run_executeAll_cons, hs, ht, hnone, hu]
  refine ⟨hprogram, halike.1, halike.2, ?_⟩
  rw [hkeyed]
  rfl

end Session

end ValueSets
