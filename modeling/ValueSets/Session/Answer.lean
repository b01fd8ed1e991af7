import ValueSets.Session.Step

/-!
# Answers

The answer to a step is its value or a report of the fault that ended it, with the records that come
of what the step handed over to the log. A rejection is handed over before its message is put
together, and a record is written as soon as it is handed over: so the rejected element is printed
for the record first and then for the message. Where it cannot be printed, what was handed over
stays without a record, and the fault of printing is reported in place of the rejection. An
instruction may put the value of its step into a variable. A value that cannot be written, since a
number in it is too long or it is nested in itself, is a fault in place of an answer.
-/

set_option autoImplicit false

namespace ValueSets

/-- What is reported of a fault. -/
structure Report where
  category : Fault.Category
  message : String
  record? : Option SetError
  isFailedHash : Bool

namespace Fault

/-- The report of a fault; `shown` is the printed form of a rejected element. -/
def reportShowing (shown : String) (f : Fault) : Report :=
  let record? := f.record? shown
  { category := f.category
    message := match record? with
      | some e => e.summary
      | none => f.message
    record? := record?
    isFailedHash := f.isFailedHash }

/-- Hands a rejection over to the log, and then prints the rejected element for the message. -/
def showRejected (cls : SetClass) (v : Value) : Act String := do
  Act.note (.rejection cls v)
  Act.print v

/-- The report of a fault in a session. If a rejected element cannot be printed, that is reported in
its place. -/
def report (f : Fault) : StateM Session Report := do
  match f with
  | .rejected cls v _ => match ← (showRejected cls v).run with
    | .ok shown => return f.reportShowing shown
    | .error g => return g.reportShowing ""
  | f => return f.reportShowing ""

end Fault

namespace Value

section

variable (checkHeld : Value → Except Fault Unit)

mutual

/-- Refuses a value that holds a number which is too long to be written. What boxes, configurations
and sets of this library hold is checked by `checkHeld`. -/
def checkWritable : Value → Except Fault Unit
  | .int n _ => checkDigits n.natAbs
  | .fraction q _ => do
    checkDigits q.num.natAbs
    checkDigits q.den
  | .tuple items _ => checkAllWritable items
  | .list items => checkAllWritable items
  | .table entries => checkEntriesWritable entries
  | .set items _ => checkAllWritable items
  | .frozenSet items _ _ => checkAllWritable items
  | .config c => checkHeld (.config c)
  | .box b => checkHeld (.box b)
  | .handle h => checkHeld (.handle h)
  | _ => .ok ()
termination_by structural x => x

/-- Refuses values of which one cannot be written. -/
def checkAllWritable : List Value → Except Fault Unit
  | [] => .ok ()
  | v :: vs => do
    checkWritable v
    checkAllWritable vs
termination_by structural x => x

/-- Refuses entries of which one cannot be written. -/
def checkEntriesWritable : List (Value × Value) → Except Fault Unit
  | [] => .ok ()
  | (k, v) :: es => do
    checkWritable k
    checkWritable v
    checkEntriesWritable es
termination_by structural x => x

end

end

end Value

namespace Session

/-- The value of a field of a configuration. -/
def fieldOf (s : Session) (c : Config) (name : String) : Except Fault Value :=
  let i := s.standInFor c
  match i.fields.lookup name with
  | some v => .ok v
  | none => .error (i.missing name)

/-- Refuses a value that cannot be written or in which boxes, configurations and sets are nested
deeper than `depth`. -/
def checkWritableTo (s : Session) : Nat → Value → Except Fault Unit
  | 0 => fun _ => .error .endlessNesting
  | depth + 1 => Value.checkWritable fun held => match held with
    | .handle h => (s.stored h).members.forM (checkWritableTo s depth)
    | .config c =>
      if (s.inside? c).isNone then .ok ()
      else Settings.fieldNames.forM fun name => do
        checkWritableTo s depth (← s.fieldOf c name)
    | held => checkWritableTo s depth (s.look held)

/-- Refuses a value that cannot be written. -/
def checkWritable (s : Session) (v : Value) : Except Fault Unit := s.checkWritableTo s.depth v

end Session

/-- A step, its arguments by position and by name, and the variable that its value is put into. -/
structure Instruction where
  step : Step
  args : List Term := []
  named : List (String × Term) := []
  target? : Option String := none

/-- Evaluates the arguments of an instruction and takes its step. -/
def Instruction.run (i : Instruction) : Act Value := do
  let args ← Term.evalAll i.args
  let named ← Term.evalNamed i.named
  let v ← i.step.run args named
  MonadExcept.ofExcept ((← get).checkWritable v)
  return v

/-- The answer to an instruction. -/
structure Answer where
  outcome : Except Report Value
  log : List Record

/-- The records of notices, of which each is written as soon as it is handed over. Printing an
element for its record may hand over notices of its own, which are written first. Where it fails, so
does what handed the notice over, and no further one follows. -/
def Session.records (s : Session) : List Notice → List Record
  | [] => []
  | .unordered cls :: rest => .unordered cls :: s.records rest
  | .rejection cls v :: rest =>
    let (shown, t) := (Act.print v).run.run { s with log := [] }
    t.log.map (Notice.record "") ++ match shown with
      | .ok shown => (Notice.rejection cls v).record shown :: s.records rest
      | .error _ => []

/-- The records of all that the step at hand handed over to the log. -/
def Session.written (s : Session) : List Record := s.records s.log

/-- Runs an instruction. -/
def Session.execute (i : Instruction) : StateM Session Answer := do
  modify fun s => { s with log := [] }
  match ← i.run.run with
  | .ok v =>
    let log := (← get).written
    match i.target? with
    | some name => modify fun s => (s.bind name v).described
    | none => pure ()
    return ⟨.ok v, log⟩
  | .error fault =>
    let report ← fault.report
    return ⟨.error report, (← get).written⟩

/-- Runs instructions one after the other. -/
def Session.executeAll (instructions : List Instruction) : StateM Session (List Answer) :=
  instructions.mapM Session.execute

/-- The sets that variables hold, by variable. -/
def Session.visibleSets (s : Session) : List (String × Collection) :=
  s.bindings.filterMap fun b => match b.2 with
    | .handle h => some (b.1, s.collection h)
    | _ => none

end ValueSets
