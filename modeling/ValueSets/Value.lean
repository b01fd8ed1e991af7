import ValueSets.Config
import ValueSets.Kind
import ValueSets.Decimal.Binary64

/-!
# Values

The values that sets hold and that operations take: numbers of several forms, texts, bytes,
sequences, tables, value sets, enumerated values, types, configurations, and sets of this library,
which appear among values as handles. A list, a table or a value set that can change appears as a
box; what it holds is kept elsewhere.

A value has one type, and a kind if its type has one. A number has a magnitude. A value is hashable
if no part of it that its hash depends on is a list, a table, a value set that can change, or a set
of this library; only hashable values can be kept by key. Two values of one content can be two
objects, which their identities tell apart; nothing but `Value.isSameObject` and the equality of
not-a-numbers depends on that.
-/

set_option autoImplicit false

namespace ValueSets

/-- Three colours, which have no order. -/
inductive Color where
  | red
  | green
  | blue
deriving DecidableEq, Repr

/-- The name of a colour. -/
def Color.name : Color → String
  | .red => "RED"
  | .green => "GREEN"
  | .blue => "BLUE"

/-- The number a colour stands for. -/
def Color.number : Color → Int
  | .red => 1
  | .green => 2
  | .blue => 3

/-- Three levels, which are integers. -/
inductive Level where
  | low
  | mid
  | high
deriving DecidableEq, Repr

/-- The name of a level. -/
def Level.name : Level → String
  | .low => "LOW"
  | .mid => "MID"
  | .high => "HIGH"

/-- The integer that a level is. -/
def Level.number : Level → Int
  | .low => 1
  | .mid => 5
  | .high => 10

/-- A reference to a set: which one it is, and its class. -/
structure Handle where
  index : Nat
  cls : SetClass
deriving DecidableEq, Repr

/-- A list, a table or a value set that can change: which one it is, and its type. -/
structure Box where
  index : Nat
  type : Ty
deriving DecidableEq, Repr

/-- Where the items of a value set are kept: the number of places, the place of each item, and the
places of items that were dropped. Where no places are given, the items are those of an empty set to
which they were added one after the other. -/
structure Layout where
  size : Nat := 8
  taken : List Nat := []
  dropped : List Nat := []
deriving DecidableEq, Repr

/-- A value. The identity zero is that of an object which all values of its content share. -/
inductive Value where
  | null
  | bool (b : Bool)
  | int (n : Int) (identity : Nat := 0)
  | float (x : Binary64) (identity : Nat := 0)
  | fraction (q : Rat) (identity : Nat := 0)
  | text (s : String) (identity : Nat := 0)
  | symbol (s : String) (identity : Nat := 0)
  | bytes (bs : List UInt8) (identity : Nat := 0)
  | tuple (items : List Value) (identity : Nat := 0)
  /-- The items of a list. -/
  | list (items : List Value)
  /-- The keys of a table and what they lead to, in the order of insertion. -/
  | table (entries : List (Value × Value))
  /-- The items of a value set that can change, in the order of their places. -/
  | set (items : List Value) (layout : Layout := {})
  /-- A value set that cannot change. -/
  | frozenSet (items : List Value) (identity : Nat := 0) (layout : Layout := {})
  | color (c : Color)
  | level (l : Level)
  | type (t : Ty)
  | config (c : Config)
  | box (b : Box)
  | handle (h : Handle)

instance : Inhabited Value := ⟨.null⟩

namespace Value

/-- The type of a value. -/
def typeOf : Value → Ty
  | .null => .null
  | .bool _ => .bool
  | .int _ _ => .int
  | .float _ _ => .float
  | .fraction _ _ => .fraction
  | .text _ _ => .text
  | .symbol _ _ => .symbol
  | .bytes _ _ => .bytes
  | .tuple _ _ => .tuple
  | .list _ => .list
  | .table _ => .table
  | .set _ _ => .set
  | .frozenSet _ _ _ => .frozenSet
  | .color _ => .color
  | .level _ => .level
  | .type t => t.typeOf
  | .config _ => .config
  | .box b => b.type
  | .handle h => .sets h.cls

/-- The name of the type of a value. -/
def typeName (v : Value) : String := v.typeOf.name

/-- Whether a value is of a type. -/
def isA (v : Value) (t : Ty) : Bool := v.typeOf.isSubtypeOf t

/-- The kind of a value, if it has a natural order. -/
def kind? (v : Value) : Option Kind := v.typeOf.kind?

/-- The exact size of a number. -/
def magnitude? : Value → Option Magnitude
  | .bool b => some (.exact (if b then 1 else 0))
  | .int n _ => some (.exact n)
  | .level l => some (.exact l.number)
  | .float x identity => some (x.magnitude identity)
  | .fraction q _ => some (.exact q)
  | _ => none

/-- The integer that a value is or stands for. -/
def whole? : Value → Option Int
  | .bool b => some (if b then 1 else 0)
  | .int n _ => some n
  | .level l => some l.number
  | _ => none

/-- The characters of a text or symbol. -/
def text? : Value → Option String
  | .text s _ => some s
  | .symbol s _ => some s
  | _ => none

/-- Whether a value has no parts that are values. -/
def isFlat : Value → Bool
  | .tuple _ _ | .list _ | .table _ | .set _ _ | .frozenSet _ _ _ => false
  | _ => true

/-- The items of a value set. -/
def setItems? : Value → Option (List Value)
  | .set items _ => some items
  | .frozenSet items _ _ => some items
  | _ => none

/-- The identity of a value. -/
def identity : Value → Nat
  | .int _ identity | .float _ identity | .fraction _ identity | .text _ identity
  | .symbol _ identity | .bytes _ identity | .tuple _ identity | .frozenSet _ identity _ => identity
  | _ => 0

/-- A value as the object of an identity. -/
def withIdentity (identity : Nat) : Value → Value
  | .int n _ => .int n identity
  | .float x _ => .float x identity
  | .fraction q _ => .fraction q identity
  | .text s _ => .text s identity
  | .symbol s _ => .symbol s identity
  | .bytes bs _ => .bytes bs identity
  | .tuple items _ => .tuple items identity
  | .frozenSet items _ layout => .frozenSet items identity layout
  | v => v

/-- Whether all values of the content of this one are one object: the small integers, the texts and
bytes of one small character at most, and the empty tuple. -/
def isShared : Value → Bool
  | .int n _ => -5 ≤ n && n ≤ 256
  | .text s _ => s.length ≤ 1 && s.toList.all fun c => c.toNat < 256
  | .bytes bs _ => bs.length ≤ 1
  | .tuple items _ => items.isEmpty
  | _ => false

/-- Whether a value counts as true: it is not zero and not empty. What a box or a set of this
library holds is known elsewhere. -/
def isTruthy : Value → Bool
  | .null => false
  | .bool b => b
  | .int n _ => n ≠ 0
  | .float x _ => x.isNonzero
  | .fraction q _ => q ≠ 0
  | .text s _ => s ≠ ""
  | .symbol s _ => s ≠ ""
  | .bytes bs _ => !bs.isEmpty
  | .tuple items _ => !items.isEmpty
  | .list items => !items.isEmpty
  | .table entries => !entries.isEmpty
  | .set items _ => !items.isEmpty
  | .frozenSet items _ _ => !items.isEmpty
  | _ => true

mutual

/-- The first part of a value that keeps it from being hashed. -/
def unhashablePart? : Value → Option Value
  | .list items => some (.list items)
  | .table entries => some (.table entries)
  | .set items layout => some (.set items layout)
  | .box b => some (.box b)
  | .handle h => some (.handle h)
  | .config c => (c.oddity?.bind Oddity.unhashable?).map fun t => .box ⟨0, t⟩
  | .tuple items _ => firstUnhashablePart? items
  | .frozenSet items _ _ => firstUnhashablePart? items
  | _ => none
termination_by structural x => x

/-- The first part of any of the values that keeps it from being hashed. -/
def firstUnhashablePart? : List Value → Option Value
  | [] => none
  | v :: vs => match unhashablePart? v with
    | some part => some part
    | none => firstUnhashablePart? vs
termination_by structural x => x

end

/-- Whether a value can be kept by key. -/
def isHashable (v : Value) : Bool := v.unhashablePart?.isNone

/-- The first of the values that cannot be kept by key. -/
def firstUnhashable? (vs : List Value) : Option Value := vs.find? fun v => !v.isHashable

/-- No part stands in the way exactly if each value is hashable. -/
theorem firstUnhashablePart?_isNone (vs : List Value) :
    (firstUnhashablePart? vs).isNone = vs.all isHashable := by
  induction vs with
  | nil => rfl
  | cons v vs ih =>
    cases h : unhashablePart? v <;> simp [firstUnhashablePart?, isHashable, h, ih]

/-- A tuple is hashable exactly if all its items are. -/
@[simp] theorem isHashable_tuple (items : List Value) (identity : Nat) :
    isHashable (.tuple items identity) = items.all isHashable := by
  rw [← firstUnhashablePart?_isNone]
  simp [isHashable, unhashablePart?]

/-- An unchanging value set is hashable exactly if all its items are. -/
@[simp] theorem isHashable_frozenSet (items : List Value) (identity : Nat) (layout : Layout) :
    isHashable (.frozenSet items identity layout) = items.all isHashable := by
  rw [← firstUnhashablePart?_isNone]
  simp [isHashable, unhashablePart?]

end Value

/-- Whether a set restricted to the type `t` takes a value. Booleans are no numbers here, although
their type is below the integers, and a restriction to real numbers takes integers as well. -/
def Ty.takes (t : Ty) (v : Value) : Bool :=
  if v.isA .bool && (t.kind? == some .integer || t.kind? == some .real) then false
  else v.isA t || (t.kind? == some .real && v.kind? == some .integer)

end ValueSets
