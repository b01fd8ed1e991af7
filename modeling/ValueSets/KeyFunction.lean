import ValueSets.Value.Items
import ValueSets.Text.LowerCase

/-!
# Sort keys

The named functions that members can be sorted by. A function that is not defined on a member is a
fault. The length and the printed form of a value, and what a box holds, come from the caller.

A sort key is a value, a template that was filled in, or a type that was narrowed to items of some
kind. The latter has no order and shows only the name of its own type.
-/

set_option autoImplicit false

namespace ValueSets

/-- A named sort key. -/
inductive KeyFunction where
  | length
  | absolute
  | negation
  | literal
  | lower
  | first
  | last
  | value
  | constant
  | identity
  /-- The floored remainder by three. -/
  | modThree
  | kind
deriving DecidableEq, Repr

namespace KeyFunction

/-- The name of a sort key. -/
def name : KeyFunction → String
  | .length => "len"
  | .absolute => "abs"
  | .negation => "neg"
  | .literal => "repr"
  | .lower => "lower"
  | .first => "first"
  | .last => "last"
  | .value => "value"
  | .constant => "const"
  | .identity => "identity"
  | .modThree => "mod3"
  | .kind => "kind"

/-- Every sort key. -/
def all : List KeyFunction :=
  [.length, .absolute, .negation, .literal, .lower, .first, .last, .value, .constant, .identity,
    .modThree, .kind]

/-- Finds a sort key by its name. -/
def ofName? (name : String) : Option KeyFunction := all.find? fun f => f.name == name

end KeyFunction

/-- What members are sorted by. -/
inductive SortKey where
  | value (v : Value)
  | filled (form : TemplateForm) (text : List Stretch)
  | narrowedType (typeName : String)

namespace SortKey

/-- The name of the type of a sort key. -/
def typeName : SortKey → String
  | .value v => v.typeName
  | .filled .text _ => Ty.text.name
  | .filled .bytes _ => Ty.bytes.name
  | .narrowedType typeName => typeName

/-- Whether one sort key stands before another. `before` is the order of values. -/
def lessThan (before : Precedence) : SortKey → SortKey → Except Fault Bool
  | .value v, .value w => before v w
  | .filled .text ss, .filled .text ts | .filled .bytes ss, .filled .bytes ts =>
    .ok (Stretch.before ss ts)
  | k, l => .error (.noOrder "<" k.typeName l.typeName)

end SortKey

/-- What a type yields when it is asked for an item, as a sequence is. A type of things that hold
others is narrowed. -/
def Ty.item? (place : Int) (t : Ty) : Except Fault SortKey :=
  match t.narrowedName? with
  | some typeName => .ok (.narrowedType typeName)
  | none => .error (t.itemFault (.noEntry (toString place)))

namespace Value

/-- The number of items or characters of a value other than a set of this library. -/
def length? : Value → Except Fault Nat
  | .text s _ => .ok s.length
  | .symbol s _ => .ok s.length
  | .bytes bs _ => .ok bs.length
  | .tuple items _ => .ok items.length
  | .list items => .ok items.length
  | .set items _ => .ok items.length
  | .frozenSet items _ _ => .ok items.length
  | .table entries => .ok entries.length
  | .type .color => .ok 3
  | .type .level => .ok 3
  | v => .error (.noLength v.typeName)

/-- The distance of a number from zero. -/
def absolute? : Value → Except Fault Value
  | .bool b => .ok (.int (if b then 1 else 0))
  | .int n _ => .ok (.int n.natAbs)
  | .level l => .ok (.int l.number.natAbs)
  | .float x _ => .ok (.float x.absolute)
  | .fraction q _ => .ok (.fraction q.abs)
  | v => .error (.noAbsolute v.typeName)

/-- A number with its sign changed. -/
def negation? : Value → Except Fault Value
  | .bool b => .ok (.int (if b then -1 else 0))
  | .int n _ => .ok (.int (-n))
  | .level l => .ok (.int (-l.number))
  | .float x _ => .ok (.float x.negate)
  | .fraction q _ => .ok (.fraction (-q))
  | v => .error (.noNegation v.typeName)

/-- The lower-case form of a text. -/
def lower? : Value → Except Fault Value
  | .text s _ => .ok (.text (Text.lower s))
  | .symbol s _ => .ok (.text (Text.lower s))
  | v => .error (.notTextFor "lower" v.typeName)

/-- The item at one end of a sequence; `pick` takes it. A table is asked for the key `place`. -/
def item? (pick : List Value → Option Value) (place : Int) (v : Value) : Except Fault SortKey :=
  match v with
  | .text _ _ | .symbol _ _ | .bytes _ _ | .tuple _ _ | .list _ => do
    match pick (← v.items?) with
    | some item => return .value item
    | none => throw (.noItemAt v.typeOf)
  | .table entries => match entries.find? fun e => e.1.sameKey (.int place) with
    | some e => .ok (.value e.2)
    | none => .error (.noEntry (toString place))
  | .type t => t.item? place
  | v => .error (.noItems v.typeName)

/-- What an enumerated value stands for. -/
def number? : Value → Option Value
  | .color c => some (.int c.number)
  | .level l => some (.int l.number)
  | _ => none

/-- A template filled in with the digit three. -/
def filled (form : TemplateForm) (cs : List Char) : Except Fault SortKey :=
  match Template.fill form 3 cs with
  | .ok ss => .ok (.filled form ss)
  | .error fault => .error (.template fault)

/-- The floored remainder by three. Texts and bytes are templates, which three fills in. -/
def modThree? : Value → Except Fault SortKey
  | .bool b => .ok (.value (.int (if b then 1 else 0)))
  | .int n _ => .ok (.value (.int (n.fmod 3)))
  | .level l => .ok (.value (.int (l.number.fmod 3)))
  | .float x _ => .ok (.value (.float (x.remainder 3)))
  | .fraction q _ => .ok (.value (.fraction (Binary64.floorRemainder q 3)))
  | .text s _ => filled .text s.toList
  | .symbol s _ => filled .text s.toList
  | .bytes bs _ => filled .bytes (bs.map fun b => Char.ofNat b.toNat)
  | v => .error (.noOperator "%" v.typeName "int")

/-- The word for the kind of a value, empty if it has none. -/
def kindName (v : Value) : Value :=
  .text ((v.kind?.map Kind.name).getD "")

end Value

/-- The sort key of a value. The printed form and the size of a value, what a box holds, and what a
value that is not enumerated has in place of what it stands for, come from the caller. -/
def KeyFunction.apply {m : Type → Type} [Monad m] [MonadExceptOf Fault m]
    (printed : Value → m String) (sizeOf : Value → m Nat) (look valueOf : Value → m Value)
    (f : KeyFunction) (v : Value) : m SortKey :=
  match f with
  | .length => return .value (.int (← sizeOf v))
  | .absolute => return .value (← MonadExcept.ofExcept v.absolute?)
  | .negation => return .value (← MonadExcept.ofExcept v.negation?)
  | .literal => return .value (.text (← printed v))
  | .lower => return .value (← MonadExcept.ofExcept v.lower?)
  | .first => do MonadExcept.ofExcept ((← look v).item? (·.head?) 0)
  | .last => do MonadExcept.ofExcept ((← look v).item? (·.getLast?) (-1))
  | .value => match v.number? with
    | some n => return .value n
    | none => return .value (← valueOf v)
  | .constant => return .value (.int 0)
  | .identity => return .value v
  | .modThree => MonadExcept.ofExcept v.modThree?
  | .kind => return .value v.kindName

end ValueSets
