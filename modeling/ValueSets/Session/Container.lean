import ValueSets.Session.Term
import ValueSets.Session.Call
import ValueSets.Value.Combination

/-!
# Lists, tables and value sets in a session

Lists, tables and value sets share a few names of methods with the sets of this library. A change is
seen in all that holds the same box. Asked of the type itself, such a method is called on its first
argument, which has to be of that type.
-/

set_option autoImplicit false

namespace ValueSets

/-- Whether the values of a type have a method of that name. -/
def Method.isOf (m : Method) (t : Ty) : Bool :=
  match m, t with
  | .clear, .list | .clear, .table | .clear, .set | .clear, .byteArray => true
  | .insert, .list | .insert, .byteArray => true
  | _, _ => false

namespace Act

/-- An empty list, table or value set. -/
def emptyOf (t : Ty) : Value :=
  match t with
  | .table => .table []
  | .set => .set []
  | _ => .list []

/-- The place in a list of some length that an index means: negative ones count from the back, and
those outside mean the nearest end. -/
def placeOf (length : Nat) (index : Int) : Nat :=
  if index < 0 then (index + length).toNat else min index.toNat length

/-- The indexes that lists have: whole numbers of 64 bits, with a sign. -/
def indexBound : Int := Int.pow 2 63

/-- Puts an item into a list. -/
def insertAt (b : Box) (args : List Value) : Act Value := do
  match args with
  | [index, v] => match index.whole? with
    | none => throw (.notWhole index.typeName)
    | some n =>
      if n < -indexBound || indexBound ≤ n then throw .indexTooLarge
      let items ← items (.box b)
      let place := placeOf items.length n
      change b (.list (items.take place ++ v :: items.drop place))
      return .null
  | args => throw (.call (.otherCount Method.insert.name 2 args.length))

/-- Calls a method of a list, a table or a value set. -/
def callBox (m : Method) (b : Box) (args : List Value) (named : List (String × Value)) :
    Act Value := do
  let operation := b.type.name ++ "." ++ m.name
  if !named.isEmpty then throw (.call (.namesNothing operation))
  match m with
  | .insert => insertAt b args
  | _ =>
    if !args.isEmpty then throw (.call (.takesNothing operation args.length))
    change b (emptyOf b.type)
    return .null

/-- The value of a type that an operation asked of the type is called on, and the further
arguments. -/
def receiverOf (t : Ty) (operation : String) : List Value → Act (Value × List Value)
  | [] => throw (.call (.noReceiver (t.name ++ "." ++ operation)))
  | v :: rest =>
    if v.typeOf == t then return (v, rest)
    else throw (.call (.otherReceiver operation t.name v.typeName))

/-- Calls a method on what a variable holds. -/
def call (m : Method) (name : String) (args : List Value) (named : List (String × Value)) :
    Act Value := do
  let v ← calledOf name m.name
  if args.isEmpty && named.isEmpty then
    match ← callOwn? v m.name with
    | some made => return made
    | none => pure ()
  match v with
  | .handle h => callSet m h args named
  | .box b =>
    if m.isOf b.type then callBox m b args named
    else throw ((Value.box b).missingField m.name)
  | .type t => match m.homeIn? t with
    | some home => callUnbound home m args named
    | none =>
      if m.isOf t then
        match ← receiverOf t m.name args with
        | (.box b, rest) => callBox m b rest named
        | (v, _) => throw (v.missingField m.name)
      else throw ((Value.type t).missingField m.name)
  | v => throw (v.missingField m.name)

/-- Combines a value set with the items of any value. -/
def combineItems (op : SetOperator) (v other : Value) : Act Value := do
  let x ← look v
  let y ← look other
  match Value.combineSets? op (v.isSameObject other) x y with
  | some made => fresh made
  | none => do
    let t := x.slots?.getD Slots.none
    let made ← match y with
      | .table entries => pure (Value.combineEntryKeys op t (entries.map (·.1)))
      | _ => do
        let (first, others) ← itemStages other
        let _ ← MonadExcept.ofExcept (Value.combineKeys op t first)
        MonadExcept.ofExcept (Value.combineKeys op t (first ++ (← others)))
    fresh (x.withSlots made)

/-- A value set again, as an object of its own. -/
def duplicate (v : Value) : Act Value := do
  let x ← look v
  fresh (x.withSlots (x.slots?.getD Slots.none).copy)

/-- An operation of value sets, asked of the type and called on one value alone. -/
def combineAlone (op : SetOperator) (t : Ty) (v : Value) : Act Value := do
  let (v, _) ← receiverOf t op.name [v]
  if op == .symmetricDifference then throw (.call (.takesOne (t.name ++ "." ++ op.name)))
  duplicate v

end Act

end ValueSets
