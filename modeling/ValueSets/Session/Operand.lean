import ValueSets.Session.Container

/-!
# Operands of set operations

The set operations that are called by name take any value as their operand and ask it for what they
need: its items, its size, or whether it has a member. Between two sets that is the algebra of sets.
A receiver that is no set may be a value set, which has operations of the same names, or a type of
either, which is called on the operand alone.
-/

set_option autoImplicit false

namespace ValueSets

/-- Whether a value has the operations that all sets share. -/
def Value.hasSetOperations : Value → Bool
  | .handle _ | .type .collection | .type (.sets _) => true
  | _ => false

/-- Whether a value has set operations that make a value. -/
def Value.combines (v : Value) : Bool :=
  let isValueSet (t : Ty) : Bool := t == .set || t == .frozenSet
  v.hasSetOperations || isValueSet v.typeOf || match v with
    | .type t => isValueSet t
    | _ => false

/-- The questions that are asked about a set and an operand. -/
inductive Question where
  | isSuperset
  | isSubset
  | equal

/-- The name of a question. -/
def Question.name : Question → String
  | .isSuperset => "is_superset"
  | .isSubset => "is_subset"
  | .equal => "equal"

/-- The answer to a question about two sets. -/
def Question.answer (q : Question) (same : Sameness) (c d : Collection) : Except Fault Bool :=
  match q with
  | .isSuperset => c.isSuperset same d
  | .isSubset => c.isSubset same d
  | .equal => c.equal same d

namespace Act

/-- The items of a value, each of which is to be added to a set of a class. -/
def spread (cls : SetClass) (v : Value) : Act (List Value) :=
  tryCatch (items v) fun fault => throw <| match fault with
    | .notIterable typeName => .notSpread (Method.storage cls) typeName
    | fault => fault

/-- Adds elements to a set that is being made. -/
def extended (c : Collection) (xs : List Value) : Act Collection := do
  MonadExcept.ofExcept (c.inserted (← sameness) xs)

/-- The members of a set that an operand does not have, as a set. -/
def differenceWith (c : Collection) (other : Value) : Act Collection := do
  let empty ← MonadExcept.ofExcept c.emptied
  extended empty (← c.members.filterM fun x => return !(← hasIn other x))

/-- A set operation whose operand is no set. -/
def combineWith (op : SetOperator) (c : Collection) (other : Value) : Act Collection := do
  let hasNot (x : Value) : Act Bool := return !(← MonadExcept.ofExcept (c.has (← sameness) x))
  match op with
  | .union => do
    let copied ← MonadExcept.ofExcept (c.like (← sameness) c.members)
    extended copied (← spread c.cls other)
  | .intersection => do
    let size ← sizeOf other
    let empty ← MonadExcept.ofExcept c.emptied
    if c.size < size then extended empty (← c.members.filterM fun x => hasIn other x)
    else
      let has (x : Value) : Act Bool := return !(← hasNot x)
      extended empty (← filterItems other has)
  | .difference => differenceWith c other
  | .symmetricDifference => do
    let left ← differenceWith c other
    extended left (← filterItems other hasNot)

/-- A set operation, called on one value with another. -/
def combineNamed (op : SetOperator) (v other : Value) : Act Value := do
  match v, other with
  | .handle h, .handle k => do answerSet ((← fetch h).combine (← sameness) op (← fetch k))
  | .handle h, other => do
    return .handle (← allocate (← combineWith op (← fetch h) other))
  | .type .set, other => combineAlone op .set other
  | .type .frozenSet, other => combineAlone op .frozenSet other
  | v, other =>
    if v.hasSetOperations then throw (v.missingCommon op.name "other")
    else combineItems op v other

/-- A set operation, called on what one variable holds with what another one holds. -/
def combineVariables (op : SetOperator) (name other : String) : Act Value := do
  let v ← calledOf name op.name
  if !v.combines then throw (v.missingField op.name)
  combineNamed op v (← valueOf other)

/-- Whether a set has all items of a value. -/
def isSuperset (c : Collection) (other : Value) : Act Bool := do
  let same ← sameness
  allItems other fun x => MonadExcept.ofExcept (c.has same x)

/-- The answer to a question about a value and an operand. -/
def askNamed (q : Question) (v other : Value) : Act Bool := do
  match v, other with
  | .handle h, .handle k => do
    MonadExcept.ofExcept (q.answer (← sameness) (← fetch h) (← fetch k))
  | .handle h, other => do
    let c ← fetch h
    match q with
    | .isSuperset => isSuperset c other
    | .isSubset =>
      let name := Question.isSuperset.name
      failCall other name (other.missingCommon name "other")
    | .equal => if c.size == (← sizeOf other) then isSuperset c other else return false
  | v, _ => throw (v.missingCommon q.name "other")

/-- The answer to a question about what one variable holds and what another one holds. -/
def askVariables (q : Question) (name other : String) : Act Bool := do
  let v ← calledOf name q.name
  if !v.hasSetOperations then throw (v.missingField q.name)
  askNamed q v (← valueOf other)

end Act

end ValueSets
