import ValueSets.Collection
import ValueSets.Value.Comparison

/-!
# Storage as a plain list

The primitives of a set that keeps a list and compares an element with each member. Nothing needs to
be hashable, no element type is enforced, and comparing may fail, which ends the operation with what
it had done so far. A set may hold itself, so how values compare can change while elements are added
or dropped one after the other.
-/

set_option autoImplicit false

namespace ValueSets.Scanned

/-- Whether an element is the same as a member. -/
def has (same : Sameness) (s : Collection) (x : Value) : Except Fault Bool :=
  s.members.anyM fun m => same m x

/-- The members without the first that is the same as `x`. -/
def dropFirst (same : Sameness) (x : Value) : List Value → Except Fault (List Value)
  | [] => .ok []
  | m :: ms => do
    if ← same m x then return ms
    else return m :: (← dropFirst same x ms)

variable (same : Collection → Sameness)

/-- Adds elements one after the other, leaving out those that are members already. -/
def insert (s : Collection) : List Value → Except Fault Unit × Collection
  | [] => (.ok (), s)
  | x :: xs => match has (same s) s x with
    | .error fault => (.error fault, s)
    | .ok true => insert s xs
    | .ok false => insert { s with members := s.members ++ [x] } xs

/-- Drops elements one after the other. -/
def delete (s : Collection) : List Value → Except Fault Unit × Collection
  | [] => (.ok (), s)
  | x :: xs => match dropFirst (same s) x s.members with
    | .error fault => (.error fault, s)
    | .ok members => delete { s with members := members } xs

end ValueSets.Scanned
