import ValueSets.Collection

/-!
# Storage by key

The primitives of a set that keeps its members by key. Elements are checked against the element type
and must be hashable. Adding checks all elements before it changes anything; dropping goes element
by element, and passes over those that the element type does not take.
-/

set_option autoImplicit false

namespace ValueSets.Keyed

/-- Adds all elements or, if one of them is of a wrong type or cannot be hashed, none. -/
def insert (s : Collection) (xs : List Value) : Except Fault Collection :=
  match s.config.elementType, xs.find? fun x => !s.takes x with
  | some t, some x => .error (.rejected s.cls x t)
  | _, _ => match Value.firstUnhashable? xs with
    | some x => .error (.unhashable x)
    | none => .ok { s with members := Members.addAll s.members xs }

/-- Drops elements one after the other, up to the first that cannot be hashed. An empty set has
nothing to look for, so it passes over every element. -/
def delete (s : Collection) : List Value → Except Fault Unit × Collection
  | [] => (.ok (), s)
  | x :: xs =>
    if s.members.isEmpty || !s.takes x then delete s xs
    else if !x.isHashable then (.error (.unhashable x), s)
    else delete { s with members := Members.drop s.members x } xs

/-- Whether an element is a member. -/
def has (s : Collection) (x : Value) : Except Fault Bool :=
  if !s.takes x then .ok false
  else if !x.isHashable then .error (.unhashable x)
  else .ok (Value.hasKey x s.members)

/-- Takes out the member that was added last. -/
def popLast (s : Collection) : Option (Value × Collection) :=
  match s.members.getLast? with
  | none => none
  | some x => some (x, { s with members := s.members.dropLast })

end ValueSets.Keyed
