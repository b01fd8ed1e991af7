import ValueSets.Proofs.Failures

/-!
# What requests answer and leave

A request that calls a method on a set by key evaluates its arguments, does to the set what the
method does to sets kept so, and answers with a value or a report. The theorems about
`Session.Calls` take the first two parts together for adding, dropping and asking for a member: the
attempt of the instruction is the primitive of the storage, run on the set that the variable holds.
What is left to the third part is to write the answer, which leaves the sets as they are by then
(`Session.execute_run_of_ok`), or to report a fault (`Session.execute_run_of_error`).
-/

set_option autoImplicit false

namespace ValueSets

open Session Value Act

/-- The report of a value that cannot be hashed. -/
def Report.unhashable (x : Value) : Report where
  category := .unhashable
  message := (SetError.unhashable x none).summary
  record? := some (.unhashable x none)
  isFailedHash := true

/-- Whether an instruction adds the set that was made and answers it, or fails as making it does and
leaves the sets alone. -/
def Instruction.Makes (s : Session) (i : Instruction) (made : Except Fault Collection) : Prop :=
  match made with
  | .ok c => i.answer s = .ok (.handle ⟨s.collections.length, c.cls⟩) ∧
      (s.after i).collections = s.collections ++ [c]
  | .error fault => i.answer s = .error fault ∧ (s.after i).collections = s.collections

namespace Session

variable {s t u : Session} {i : Instruction} {m : Method} {h : Handle} {xs : List Value}
  {v x : Value} {fault : Fault}

/-! ## Running an instruction -/

/-- No record is written where nothing was handed over to the log. -/
theorem written_eq_nil (hlog : t.log = []) : t.written = [] := by
  unfold written
  rw [hlog]
  rfl

theorem execute_run_of_error (hattempt : outcome i.attempt s.begun = (.error fault, t)) :
    (Session.execute i).run s =
      (⟨.error (fault.report.run t).1, (fault.report.run t).2.written⟩,
        (fault.report.run t).2) := by
  have hrun : outcome i.run s.begun = (.error fault, t) := by
    rw [Instruction.run_eq, outcome_bind, hattempt]
  unfold outcome begun at hrun
  unfold execute
  simp only [StateT.run_bind, StateT.run_modify, pure_bind, hrun]
  rfl

/-- A value that cannot be hashed is reported without a look at the session. -/
theorem execute_run_of_unhashable
    (hattempt : outcome i.attempt s.begun = (.error (.unhashable x), t)) :
    (Session.execute i).run s = (⟨.error (Report.unhashable x), t.written⟩, t) := by
  rw [execute_run_of_error hattempt]
  rfl

/-- What can be written is answered, and the sets stay as they were left. -/
theorem execute_run_of_ok (hattempt : outcome i.attempt s.begun = (.ok v, t)) (ht : t.Sound)
    (hv : v.Answerable t.classes) (hwrite : t.checkWritable v = .ok ()) :
    ∃ w, (Session.execute i).run s = (⟨.ok v, t.written⟩, w) ∧ w.collections = t.collections := by
  have hrun : outcome i.run s.begun = (.ok v, t) := by
    rw [Instruction.run_eq, outcome_bind, hattempt]
    dsimp only
    rw [Instruction.outcome_write, hwrite]
    rfl
  unfold outcome begun at hrun
  unfold execute
  simp only [StateT.run_bind, StateT.run_modify, pure_bind, hrun]
  cases i.target? with
  | none => exact ⟨t, rfl, rfl⟩
  | some name =>
    have hgrounded : v.Grounded t.classes := grounded_of_checkWritable hv hwrite
    have hdescribed := (ht.bind name hgrounded).described_eq
    refine ⟨t.bind name v, ?_, rfl⟩
    show (({ outcome := .ok v, log := t.written } : Answer), (t.bind name v).described) = _
    rw [hdescribed]

/-- A value without parts can be written, unless it is a number. -/
theorem checkWritable_eq_ok (t : Session) (hv : ∀ held, Value.checkWritable held v = .ok ()) :
    t.checkWritable v = .ok () := by
  obtain ⟨depth, hdepth⟩ := t.exists_depth
  unfold checkWritable
  rw [hdepth]
  exact hv _

/-! ## Making a set -/

/-- An instruction that answers a new set adds it, or fails as making it does. -/
theorem Sound.makes_of_attempt (hs : s.Sound) (hi : i.IsPlain s) (hu : s.Like u)
    {made : Except Fault Collection}
    (hmade : ∀ c, made = .ok c → c.standIn? = none ∧ c.config.IsSettled)
    (hattempt : outcome i.attempt s.begun = outcome (answerSet made) u) : i.Makes s made := by
  rw [outcome_answerSet hu.sound.untouched hmade, hu.collections] at hattempt
  unfold Instruction.Makes
  cases made with
  | ok c => exact hs.answer_eq hi hattempt
  | error fault =>
    obtain ⟨hanswer, hcollections⟩ := hs.answer_eq hi hattempt
    exact ⟨hanswer, hcollections.trans hu.collections⟩

/-! ## Calling a method -/

/-- Whether an instruction calls a method on a set by key, and its arguments, all of them given by
position, are evaluated to `xs` in passing to the session `u`. -/
structure Calls (s : Session) (i : Instruction) (m : Method) (h : Handle) (xs : List Value)
    (u : Session) : Prop where
  receiver : ∃ on, i.step = .call m on ∧ s.Holds on h
  arguments : outcome i.arguments s.begun = (.ok (xs, []), u)

namespace Calls

theorem lawful (hs : s.Sound) (hcall : s.Calls i m h xs u) : (s.collection h).Lawful := by
  obtain ⟨on, -, hon⟩ := hcall.receiver
  exact hon.lawful hs

/-- Nothing is in the log by the time the method is called. -/
theorem log_eq (hcall : s.Calls i m h xs u) : u.log = [] := by
  have hsilent : (outcome i.arguments s.begun).2.log = s.begun.log := silent_arguments i s.begun
  rwa [hcall.arguments] at hsilent

theorem like (hs : s.Sound) (hcall : s.Calls i m h xs u) : s.Like u := by
  have harguments := (quiet_arguments i _ hs.like_begun).1
  rwa [hcall.arguments] at harguments

/-- What the method is called with is grounded. -/
theorem grounded (hs : s.Sound) (hcall : s.Calls i m h xs u) : AllGrounded u.classes xs := by
  obtain ⟨hu, hgood⟩ := quiet_arguments i _ hs.like_begun
  rw [hcall.arguments] at hu hgood
  rw [hu.classes_eq]
  exact (hgood _ rfl).1

theorem collection_eq (hs : s.Sound) (hcall : s.Calls i m h xs u) :
    u.collection h = s.collection h := by
  obtain ⟨on, -, hon⟩ := hcall.receiver
  exact hon.collection_eq hs (hcall.like hs)

/-- Putting the receiver in its own place changes nothing. -/
theorem store_self (hs : s.Sound) (hcall : s.Calls i m h xs u) :
    u.store h (s.collection h) = u := by
  obtain ⟨on, -, hon⟩ := hcall.receiver
  have hu := hcall.like hs
  have hself : u.collections.set h.index (u.collection h) = u.collections :=
    (hu.sound.behind ((hon.like hu).grounded hu.sound)).set_self
  unfold store
  rw [← hcall.collection_eq hs, hself]

theorem collections_store (hs : s.Sound) (hcall : s.Calls i m h xs u) (d : Collection) :
    (u.store h d).collections = s.collections.set h.index d := by
  unfold store
  rw [(hcall.like hs).collections]

theorem isPlain (hcall : s.Calls i m h xs u) : i.IsPlain s := by
  obtain ⟨on, hstep, -⟩ := hcall.receiver
  intro args named t _
  rw [hstep]
  trivial

/-- The attempt of a call does to the receiver what the method does to sets by key. -/
theorem outcome_attempt (hs : s.Sound) (hcall : s.Calls i m h xs u)
    {bound : List (String × Value)}
    (hbound : (m.signature h.cls).bind (.handle h :: xs) [] = .ok bound) :
    outcome i.attempt s.begun = outcome (callStored m h xs bound) u := by
  obtain ⟨on, hstep, hon⟩ := hcall.receiver
  have hu := hcall.like hs
  rw [Instruction.outcome_attempt, hcall.arguments, hstep]
  exact outcome_call_of_holds hu.sound (hon.like hu) hbound

theorem outcome_insert (hs : s.Sound) (hcall : s.Calls i .insert h xs u) :
    outcome i.attempt s.begun = match Keyed.insert (s.collection h) xs with
      | .ok d => (.ok .null, u.store h d)
      | .error fault => (.error fault, u) := by
  have hbound : (Method.insert.signature h.cls).bind (.handle h :: xs) [] =
      .ok [("self", .handle h)] := rfl
  rw [hcall.outcome_attempt hs hbound]
  unfold callStored
  simp only
  rw [outcome_mutate_null, hcall.collection_eq hs, (hcall.lawful hs).insert_eq]
  cases Keyed.insert (s.collection h) xs with
  | ok d => rfl
  | error fault =>
    simp only [hcall.store_self hs]
    rfl

theorem outcome_delete (hs : s.Sound) (hcall : s.Calls i .delete h xs u) :
    outcome i.attempt s.begun = ((Keyed.delete (s.collection h) xs).1.map fun _ => Value.null,
      u.store h (Keyed.delete (s.collection h) xs).2) := by
  have hbound : (Method.delete.signature h.cls).bind (.handle h :: xs) [] =
      .ok [("self", .handle h)] := rfl
  rw [hcall.outcome_attempt hs hbound]
  unfold callStored
  simp only
  rw [outcome_mutate_null, hcall.collection_eq hs, (hcall.lawful hs).delete_eq]

theorem outcome_has (hs : s.Sound) (hcall : s.Calls i .has h [x] u) :
    outcome i.attempt s.begun = ((Keyed.has (s.collection h) x).map Value.bool, u) := by
  have hbound : (Method.has.signature h.cls).bind [.handle h, x] [] =
      .ok [("self", .handle h), ("element", x)] := rfl
  rw [hcall.outcome_attempt hs hbound]
  unfold callStored
  simp only
  rw [outcome_bind, outcome_ask, hcall.collection_eq hs, (hcall.lawful hs).has_eq]
  have helement : ([("self", Value.handle h), ("element", x)].lookup "element").getD .null = x :=
    rfl
  rw [helement]
  cases Keyed.has (s.collection h) x <;> rfl

/-- A call that answers nothing or a truth value and leaves the log empty is answered, and leaves
the sets as its attempt left them. -/
theorem execute_run (hs : s.Sound) (hcall : s.Calls i m h xs u)
    (hattempt : outcome i.attempt s.begun = (.ok v, t)) (hlog : t.log = [])
    (hv : ∀ held, Value.checkWritable held v = .ok ()) :
    ∃ w, (Session.execute i).run s = (⟨.ok v, []⟩, w) ∧ w.collections = t.collections := by
  obtain ⟨hextends, hgrounded⟩ := hs.attempt hcall.isPlain hattempt
  have hrun := execute_run_of_ok hattempt hextends.sound (hgrounded v rfl)
    (t.checkWritable_eq_ok hv)
  rwa [written_eq_nil hlog] at hrun

end Calls

end Session

end ValueSets
