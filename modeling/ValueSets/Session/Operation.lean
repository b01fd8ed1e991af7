import ValueSets.Session.Call
import ValueSets.Session.Term
import ValueSets.Value.Combination

/-!
# Operators in a session

An operator between two sets of the session is answered by the sets, and one between other values by
the values. Between a set and another value the set has no answer, so that it is the type of the
other value that decides (`Act.operateMixed`); if that has none either, the two are unequal, and
every other operator is refused. Of the values of a session only tables answer, and only joining
with a set on their right. Written with `=` behind it, an operator changes a value set on its left,
and joining changes a table on its left, which may then be joined with anything that has pairs as
its items. The change is seen in all that holds the operand.
-/

set_option autoImplicit false

namespace ValueSets

/-- Whether a value is a set of this library. -/
def Value.isCollection : Value → Bool
  | .handle _ => true
  | _ => false

namespace Act

/-- What an operator makes of two values. -/
def combine (op : Operator) (make : SetOperator) (v w : Value) : Act Value := do
  match v, w with
  | .handle h, .handle k => do
    answerSet ((← fetch h).combine (← sameness) make (← fetch k))
  | v, w => do
    let x ← look v
    let y ← look w
    match Value.combineSets? make (v.isSameObject w) x y with
    | some made => fresh made
    | none => match Value.combine? make x y with
      | some result => do fresh (← MonadExcept.ofExcept result)
      | none => throw (op.refusal v.typeName w.typeName)

/-- The answer of a comparison. -/
def compare (op : Comparison) (v w : Value) : Act Bool := do
  let session ← get
  let same := session.sameness
  match v, w with
  | .handle h, .handle k => do
    MonadExcept.ofExcept ((← fetch h).compare same op (← fetch k))
  | v, w =>
    let equals : Except Fault Bool := match v, w with
      | .config c, .config d => session.sameConfigs same c d
      | v, w => Value.equals same v w
    match op with
    | .equal => MonadExcept.ofExcept equals
    | .unequal => return !(← MonadExcept.ofExcept equals)
    | .order o => MonadExcept.ofExcept (session.isOrdered o v w)

/-- A key and its value, read off an item with two items of its own. -/
def entryOf (index : Nat) (item : Value) : Act (Value × Value) := do
  let parts ← tryCatch (items item) fun fault => throw <|
    if fault.category = .type then .entryNotSequence index else fault
  match parts with
  | [key, v] => do
    MonadExcept.ofExcept key.requireHash
    return (key, v)
  | parts => throw (.entryLength index parts.length)

/-- Joins the table in a box with a value: another table, or anything that has pairs as its items.
Pairs are read and joined one after the other, so those before a fault stay, and a pair may be the
table itself as it is by then. The type of tables lists keys only when it is given a table. -/
def joinInPlace (b : Box) (w : Value) : Act Unit := do
  match ← look w with
  | .table entries => addEntries b entries
  | .type .table => throw (.call (.noReceiver (Ty.table.name ++ ".keys")))
  | _ => do
    checkCall w "keys"
    let join (item : Value × Nat) : Act Unit := do addEntries b [← entryOf item.2 item.1]
    let (first, others) ← itemStages w
    first.zipIdx.forM join
    ((← others).zipIdx first.length).forM join

/-- What the types of values answer to operators of which one operand is a set and the other is not.
Nothing is what a type answers that leaves the operator to the other operand. -/
abbrev Responder := Operator → Value → Value → Act (Option Value)

/-- An operator of which one operand is a set and the other is not. The set leaves it to the type of
the other value, and if that leaves it as well, only equality is answered. -/
def operateMixed (respond : Responder) (op : Operator) (v w : Value) : Act Value := do
  match ← respond op v w with
  | some answer => return answer
  | none => match op with
    | .compare .equal => return .bool false
    | .compare .unequal => return .bool true
    | op => throw (op.refusal v.typeName w.typeName)

/-- What the types of the values of a session answer: a table is joined in place with a set. -/
def respond : Responder := fun op v w => do
  match op, v, ← look v with
  | .makeInPlace .union, .box b, .table _ => do
    joinInPlace b w
    return some v
  | _, _, _ => return none

/-- An operator on two sets, or on two values of which neither is a set. -/
def operateAlike (op : Operator) (v w : Value) : Act Value := do
  match op, v with
  | .compare cmp, v => return .bool (← compare cmp v w)
  | .make make, v => combine op make v w
  | .makeInPlace make, .box b => match make, ← look v, (← look w).slots? with
    | .union, .table _, _ => do
      joinInPlace b w
      return .box b
    | make, .set items layout, some u => do
      let t := Slots.ofLayout items layout
      change b (Value.updateSlots make (v.isSameObject w) t u).toSet
      return .box b
    | make, _, _ => combine op make v w
  | .makeInPlace make, v => combine op make v w

/-- An operator on two values, where `respond` is what other types than those of sets answer to
sets. -/
def operateBy (respond : Responder) (op : Operator) (v w : Value) : Act Value :=
  if v.isCollection == w.isCollection then operateAlike op v w else operateMixed respond op v w

/-- An operator on two values of a session. -/
def operate (op : Operator) (v w : Value) : Act Value := operateBy respond op v w

end Act

end ValueSets
