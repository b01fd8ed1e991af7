import ValueSets.Config.Inside
import ValueSets.Value.Comparison

/-!
# The items of values

What a value is walked by, and what it contains. `Value.items?` gives the items of a value that has
any: characters, bytes, members, keys, the fields of a configuration, or the values of a type that
enumerates them. `Value.contains` answers whether something is among them, where texts and bytes are
searched for stretches. Sets of this library are walked and asked elsewhere.
-/

set_option autoImplicit false

namespace ValueSets

/-- All colours. -/
def Color.all : List Color := [.red, .green, .blue]

/-- All levels. -/
def Level.all : List Level := [.low, .mid, .high]

namespace Value

/-- A text of one character. -/
def character (c : Char) : Value := .text (String.singleton c)

/-- An entry of a table as a value. -/
def pair (entry : Value × Value) : Value := .tuple [entry.1, entry.2]

/-- The items that a value is walked by. -/
def items? : Value → Except Fault (List Value)
  | .text s _ => .ok (s.toList.map character)
  | .symbol s _ => .ok (s.toList.map character)
  | .bytes bs _ => .ok (bs.map fun b => .int b.toNat)
  | .tuple items _ => .ok items
  | .list items => .ok items
  | .set items _ | .frozenSet items _ _ => .ok items
  | .table entries => .ok (entries.map (·.1))
  | .config c => .ok (c.entries.map pair)
  | .type .color => .ok (Color.all.map .color)
  | .type .level => .ok (Level.all.map .level)
  | v => .error (.notIterable v.typeName)

/-- Whether one list stands as a stretch in another. -/
def hasStretch {α : Type} [BEq α] (stretch : List α) : List α → Bool
  | [] => stretch.isEmpty
  | x :: xs => stretch.isPrefixOf (x :: xs) || hasStretch stretch xs

/-- Whether bytes contain a byte or a stretch of bytes. -/
def bytesContain (bs : List UInt8) : Value → Except Fault Bool
  | .bytes cs _ => .ok (hasStretch cs bs)
  | x => match x.whole? with
    | none => .error (.notContainedInBytes x.typeName)
    | some n =>
      if 0 ≤ n && n < 256 then .ok (bs.any fun b => (b.toNat : Int) == n) else .error .noByte

/-- Whether a type that enumerates its values has one of them. Only enumerated values may be asked
about. -/
def enumerationContains (t : Ty) (x : Value) : Except Fault Bool :=
  match x with
  | .color _ | .level _ => .ok (x.typeOf == t)
  | x => .error (.notEnumerated x.typeName t.typeOf.name)

/-- Whether a key is among those of a table or value set. What cannot be hashed is no key. -/
def keysContain (keys : List Value) (x : Value) : Except Fault Bool := do
  x.requireHash
  return hasKey x keys

/-- Whether a value contains another one. `look` tells what a box holds; a set of this library is
asked elsewhere. A value set that can change is looked up among the members of a value set as if it
could not. -/
def contains (same : Sameness) (look : Value → Value) (v x : Value) : Except Fault Bool :=
  match look v with
  | .text s _ | .symbol s _ => match x.text? with
    | some t => .ok (hasStretch t.toList s.toList)
    | none => .error (.notContainedInText x.typeName)
  | .bytes bs _ => bytesContain bs x
  | .table entries => keysContain (entries.map (·.1)) x
  | .set items _ | .frozenSet items _ _ => match look x with
    | .set others _ => keysContain items (.frozenSet others)
    | _ => keysContain items x
  | .type .color => enumerationContains .color x
  | .type .level => enumerationContains .level x
  | .tuple items _ | .list items => items.anyM fun item => same item x
  | .config c => do (← (Value.config c).items?).anyM fun item => same item x
  | v => .error (.noContainment v.typeName)

end Value

end ValueSets
