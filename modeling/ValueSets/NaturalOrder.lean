import ValueSets.Fault

/-!
# Natural order of several values

Values can be listed in natural order if they have a kind in common. `commonKind?` finds it from
left to right, and `hasNaturalOrder` takes the word of an element type instead where there is one.
-/

set_option autoImplicit false

namespace ValueSets

/-- The kind that holds what was seen so far and one more value. -/
def Kind.extend? : Option Kind → Kind → Option Kind
  | none, current => some current
  | some kind, current => kind.join? current

/-- The common kind of values that follow others of the kind `seen`. -/
def commonKindFrom? (seen : Option Kind) : List Value → Option Kind
  | [] => seen
  | v :: vs => match v.kind? with
    | none => none
    | some current => match Kind.extend? seen current with
      | none => none
      | some kind => commonKindFrom? (some kind) vs

/-- The kind that all of the values have in common. Integers and real numbers have the real kind;
no values have none. -/
def commonKind? (vs : List Value) : Option Kind := commonKindFrom? none vs

/-- Whether values can be listed in natural order. An element type decides alone, if given. -/
def hasNaturalOrder (vs : List Value) (elementType : Option Ty) : Bool :=
  match elementType with
  | some t => t.kind?.isSome
  | none => (commonKind? vs).isSome

/-- The kind of the values of a type that is given as a value. -/
def kindOfType (v : Value) : Except Fault (Option Kind) :=
  match v with
  | .type t => .ok t.kind?
  | _ => .error .notType

/-- `hasNaturalOrder` with the element type, or its absence, given as a value. -/
def hasNaturalOrderIn (vs : List Value) (elementType : Value) : Except Fault Bool :=
  match elementType with
  | .null => .ok (hasNaturalOrder vs none)
  | .type t => .ok (hasNaturalOrder vs (some t))
  | _ => .error .notType

end ValueSets
