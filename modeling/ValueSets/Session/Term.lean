import ValueSets.Session.Action
import ValueSets.Value.Parts
import ValueSets.Value.Slots

/-!
# Terms

The arguments of a step before the session is consulted. A term spells out a value or names a
variable; sets and configurations come in by name only, since they are objects of the session. A
value that is spelled out is a new object each time it is evaluated, unless all values of its
content are one object. The keys of a table and the items of a value set are merged by key equality,
and must be hashable. Whole numbers of too many digits are not read.

Outside of a session a term has a value in which no boxes occur: `Term.value` puts what they hold in
their place.
-/

set_option autoImplicit false

namespace ValueSets

/-- An argument of a step. -/
inductive Term where
  | null
  | bool (b : Bool)
  | int (n : Int)
  | float (x : Binary64)
  | fraction (numerator : Int) (denominator : Nat)
  | text (s : String)
  | symbol (s : String)
  | bytes (bs : List UInt8)
  | color (c : Color)
  | level (l : Level)
  | type (t : Ty)
  | tuple (items : List Term)
  | list (items : List Term)
  | table (entries : List (Term × Term))
  | set (items : List Term)
  | frozenSet (items : List Term)
  /-- The value of a variable. -/
  | named (name : String)

instance : Inhabited Term := ⟨.null⟩

namespace Term

/-- Reads a whole number that is spelled out. -/
def readWhole (n : Int) : Act Int := do
  if n.natAbs < Decimal.digitBound then return n
  throw (.tooLongToRead (Decimal.digitCount n.natAbs))

/-- Reads a fraction that is spelled out. -/
def readFraction (numerator : Int) (denominator : Nat) : Act Rat := do
  let p ← readWhole numerator
  let q ← readWhole denominator
  if q = 0 then throw (.noFraction p)
  return mkRat p denominator

mutual

/-- The value of a term. -/
def eval : Term → Act Value
  | .null => return .null
  | .bool b => return .bool b
  | .int n => do Act.fresh (.int (← readWhole n))
  | .float x => Act.fresh (.float x)
  | .fraction p q => do Act.fresh (.fraction (← readFraction p q))
  | .text s => Act.fresh (.text s)
  | .symbol s => Act.fresh (.symbol s)
  | .bytes bs => Act.fresh (.bytes bs)
  | .color c => return .color c
  | .level l => return .level l
  | .type t => return .type t
  | .tuple items => do Act.fresh (.tuple (← evalAll items))
  | .list items => do Act.fresh (.list (← evalAll items))
  | .table entries => do Act.fresh (.table (Members.mergeEntries (← evalEntries entries)))
  | .set items => do Act.fresh (Slots.ofKeys (← evalKeys items)).toSet
  | .frozenSet items => do Act.fresh (Slots.ofKeys (← evalKeys items)).toFrozenSet
  | .named name => do
    match (← get).value? name with
    | some v => return v
    | none => throw (.unboundVariable name)
termination_by structural x => x

/-- The values of several terms, from left to right. -/
def evalAll : List Term → Act (List Value)
  | [] => return []
  | t :: ts => do
    let v ← eval t
    let vs ← evalAll ts
    return v :: vs
termination_by structural x => x

/-- The values of several terms, each of which is hashed as soon as it is known. -/
def evalKeys : List Term → Act (List Value)
  | [] => return []
  | t :: ts => do
    let v ← eval t
    MonadExcept.ofExcept v.requireHash
    let vs ← evalKeys ts
    return v :: vs
termination_by structural x => x

/-- The entries of a table, each key being hashed when its value is known. -/
def evalEntries : List (Term × Term) → Act (List (Value × Value))
  | [] => return []
  | (k, t) :: es => do
    let key ← eval k
    let v ← eval t
    MonadExcept.ofExcept key.requireHash
    let rest ← evalEntries es
    return (key, v) :: rest
termination_by structural x => x

end

/-- The values of named arguments. -/
def evalNamed : List (String × Term) → Act (List (String × Value))
  | [] => return []
  | (name, t) :: ts => do
    let v ← eval t
    let rest ← evalNamed ts
    return (name, v) :: rest

end Term

/-- A value with the contents of boxes in their place. -/
def Value.unboxed (contents : Box → Value) (v : Value) : Value :=
  v.mapFlat fun part => match part with
    | .box b => contents b
    | part => part

/-- What a box holds, with the contents of the boxes in it in their place, if they are nested at
most `depth` deep. -/
def Session.contentsTo (s : Session) : Nat → Box → Value
  | 0 => Value.box
  | depth + 1 => fun b => (s.look (.box b)).unboxed (s.contentsTo depth)

namespace Term

/-- The values of terms outside of a session. -/
def values (ts : List Term) : Except Fault (List Value) := do
  let (vs, s) := (evalAll ts).run.run {}
  return (← vs).map (Value.unboxed (s.contentsTo s.contents.length))

/-- The value of a term outside of a session. -/
def value (t : Term) : Except Fault Value := do
  return (← values [t]).headD .null

/-- The values of named terms outside of a session. -/
def namedValues (ts : List (String × Term)) : Except Fault (List (String × Value)) := do
  return (ts.map (·.1)).zip (← values (ts.map (·.2)))

end Term

end ValueSets
