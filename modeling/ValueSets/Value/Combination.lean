import ValueSets.Operator
import ValueSets.Value.Slots

/-!
# Operators on values

What the operators make of values other than sets of this library. Whole numbers are subtracted or
combined bit by bit, and other numbers subtracted: exactly if both are exact, and in binary64
otherwise, which a number may be too large for. Value sets are combined as sets and keep the type of
the left operand. Two tables are joined, entries of the right one being the later ones.
`Value.combineSlots`, `Value.updateSlots` and `Value.combineKeys` say in which order items are added
and dropped, on which the places of the items depend.
-/

set_option autoImplicit false

namespace ValueSets.Value

/-- The bits of a whole number; those of a negative number are read inverted. -/
def bitsOf (n : Int) : Nat := if n < 0 then (-n - 1).toNat else n.toNat

/-- Combines two whole numbers bit by bit. Negative numbers have ones without end. -/
def combineBits (keeps : Bool → Bool → Bool) (m n : Int) : Int :=
  let left : Bool := m < 0
  let right : Bool := n < 0
  let negative := keeps left right
  let bits := Nat.bitwise (fun a b => keeps (a != left) (b != right) != negative)
    (bitsOf m) (bitsOf n)
  if negative then -(bits : Int) - 1 else bits

/-- A number as a binary64 number. -/
def binary64? : Value → Option (Except Fault Binary64)
  | .float x _ => some (.ok x)
  | v => match v.magnitude? with
    | some (.exact q) => match Binary64.ofRat q with
      | .posInf | .negInf =>
        some (.error (if v.typeOf == .fraction then .fractionTooLarge else .wholeTooLarge))
      | x => some (.ok x)
    | _ => none

/-- The difference of two numbers that are not both whole. -/
def difference? (v w : Value) : Option (Except Fault Value) :=
  match v, w with
  | .float _ _, _ | _, .float _ _ => do
    let x ← v.binary64?
    let y ← w.binary64?
    return do return .float (Binary64.subtract (← x) (← y))
  | _, _ => match v.magnitude?, w.magnitude? with
    | some (.exact p), some (.exact q) => some (.ok (.fraction (p - q)))
    | _, _ => none

/-- The keys of `xs` that are among `ys`. -/
def within (xs ys : List Value) : List Value := xs.filter fun x => hasKey x ys

/-- The keys of `xs` that are not among `ys`. -/
def without (xs ys : List Value) : List Value := xs.filter fun x => !hasKey x ys

/-- Takes items out of a table, or adds them if they are not there. -/
def toggle (t : Slots) (vs : List Value) : Slots :=
  vs.foldl (fun t v => if hasKey v t.items then t.drop v else t.add v) t

/-- Takes items out of a table. -/
def takeOut (t : Slots) (vs : List Value) : Slots := (vs.foldl Slots.drop t).tidied

/-- The places of what is left of one table without another. A much larger left operand is copied
before it loses items; else what is left of it is added to an empty table. -/
def subtractSlots (t u : Slots) : Slots :=
  if u.items.length < t.items.length / 4 then takeOut t.copy u.items
  else Slots.ofKeys (without t.items u.items)

/-- The table that an operator makes of two, which may be those of one value set. Of an intersection
the items of the smaller operand are kept, those of the right one on a tie. What only one operand
has is found by toggling the items of the left one in a copy of the right one. -/
def combineSlots (op : SetOperator) (isSelf : Bool) (t u : Slots) : Slots :=
  match op with
  | .union => if isSelf then t.copy else t.copy.merge u
  | .intersection =>
    if isSelf then t.copy
    else if t.items.length < u.items.length then Slots.ofKeys (within t.items u.items)
    else Slots.ofKeys (within u.items t.items)
  | .difference => subtractSlots t u
  | .symmetricDifference => toggle u.copy t.items

/-- A table after an operator has changed it. A right operand that is more than eight times as large
is not walked for what is taken out. -/
def updateSlots (op : SetOperator) (isSelf : Bool) (t u : Slots) : Slots :=
  match op with
  | .union => if isSelf then t else t.merge u
  | .intersection => combineSlots .intersection isSelf t u
  | .difference =>
    if isSelf then Slots.none
    else if t.items.length < u.items.length / 8 then
      takeOut t (combineSlots .intersection false t u).items
    else takeOut t u.items
  | .symmetricDifference => if isSelf then Slots.none else toggle t u.items

/-- A value set of the type of `v` with the items of a table. -/
def withSlots (v : Value) (t : Slots) : Value :=
  if v.typeOf == .frozenSet then t.toFrozenSet else t.toSet

/-- What an operator makes of two value sets. -/
def combineSets? (op : SetOperator) (isSelf : Bool) (v w : Value) : Option Value := do
  return v.withSlots (combineSlots op isSelf (← v.slots?) (← w.slots?))

/-- The keys among some values that are also among `xs`, each once, after those found before. The
search ends with the last key that can be found. -/
def commonKeys (xs found : List Value) : List Value → Except Fault (List Value)
  | [] => .ok found
  | y :: ys => do
    y.requireHash
    if hasKey y xs then
      let found := Members.add found y
      if xs.length ≤ found.length then return found
      commonKeys xs found ys
    else commonKeys xs found ys

/-- The table that an operation makes of a table and values in an order of their own. -/
def combineKeys (op : SetOperator) (t : Slots) (ys : List Value) : Except Fault Slots :=
  match op with
  | .intersection => Slots.ofKeys <$> commonKeys t.items [] ys
  | .union => do
    ys.forM requireHash
    return t.copy.addAll ys
  | .difference => do
    ys.forM requireHash
    return takeOut t.copy ys
  | .symmetricDifference => do
    ys.forM requireHash
    return toggle (Slots.ofKeys ys) t.items

/-- The table that an operation makes of a table and the keys of a table of entries, for which room
is made before they are added. -/
def combineEntryKeys (op : SetOperator) (t : Slots) (keys : List Value) : Slots :=
  let copied := Slots.none.prepared keys.length
  match op with
  | .intersection => Slots.ofKeys (within keys t.items)
  | .union => (t.copy.prepared keys.length).addAll keys
  | .difference =>
    if keys.length < t.items.length / 4 then takeOut t.copy keys
    else Slots.ofKeys (without t.items keys)
  | .symmetricDifference => toggle (copied.addAll keys) t.items

/-- What an operator makes of two values that are no sets of any kind, if it is defined for them.
Types are joined with themselves only; the null value stands for its type there. -/
def combine? (op : SetOperator) (v w : Value) : Option (Except Fault Value) :=
  match v, w with
  | .table es, .table fs =>
    if op == .union then some (.ok (.table (Members.mergeEntries (es ++ fs)))) else none
  | .bool a, .bool b =>
    if op == .difference then some (.ok (.int ((if a then 1 else 0) - (if b then 1 else 0))))
    else some (.ok (.bool (op.keeps a b)))
  | .type t, .type u => if op == .union && t == u then some (.ok (.type t)) else none
  | .type t, .null | .null, .type t =>
    if op == .union && t == Value.null.typeOf then some (.ok (.type t)) else none
  | v, w => match v.whole?, w.whole? with
    | some m, some n =>
      some (.ok (.int (if op == .difference then m - n else combineBits op.keeps m n)))
    | _, _ => if op == .difference then difference? v w else none

end ValueSets.Value
