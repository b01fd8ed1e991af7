import ValueSets.Collection.Storage

/-!
# The algebra of sets

Questions about several elements or two sets, copies, and the four operations of set algebra, all
derived from the storage primitives. An operation makes a new set of the receiver's class and
configuration. Members of the result keep the order in which the operands are walked; the operand
walked for an intersection is the one with fewer members, the argument on a tie.
-/

set_option autoImplicit false

namespace ValueSets.Collection

variable (same : Sameness)

/-- Whether all elements are members, asked from left to right up to the first that is not. -/
def hasAll (s : Collection) (xs : List Value) : Except Fault Bool :=
  xs.allM fun x => s.has same x

/-- Whether one of the elements is a member, asked from left to right up to the first that is. -/
def hasAny (s : Collection) (xs : List Value) : Except Fault Bool :=
  xs.anyM fun x => s.has same x

/-- Whether every member of `t` is a member of `s`. -/
def isSuperset (s t : Collection) : Except Fault Bool := s.hasAll same t.members

/-- Whether every member of `s` is a member of `t`. -/
def isSubset (s t : Collection) : Except Fault Bool := t.isSuperset same s

/-- Whether two sets have the same number of members and `s` has all those of `t`. -/
def equal (s t : Collection) : Except Fault Bool :=
  if s.size == t.size then s.isSuperset same t else .ok false

/-- The members of `walk` that `probe` has. -/
def membersIn (walk probe : Collection) : Except Fault (List Value) :=
  walk.members.filterM fun x => probe.has same x

/-- The members of `walk` that `probe` does not have. -/
def membersNotIn (walk probe : Collection) : Except Fault (List Value) :=
  walk.members.filterM fun x => do return !(← probe.has same x)

/-- A copy made by adding all members to an empty set. -/
def derivedCopy (s : Collection) : Except Fault Collection := s.like same s.members

/-- A copy. Storage by key is copied as it is. -/
def copy (s : Collection) : Except Fault Collection :=
  if s.cls.isKeyed then do
    let empty ← s.emptied
    return { empty with members := s.members }
  else s.derivedCopy same

/-- The members of either set. -/
def union (s t : Collection) : Except Fault Collection := do
  let copied ← s.like same s.members
  copied.inserted same t.members

/-- The members of both sets. The smaller one is walked, the other one asked. -/
def intersection (s t : Collection) : Except Fault Collection := do
  let empty ← s.emptied
  let common ← if s.size < t.size then s.membersIn same t else t.membersIn same s
  empty.inserted same common

/-- The members of the first set that the second does not have. -/
def difference (s t : Collection) : Except Fault Collection := do
  let empty ← s.emptied
  let kept ← s.membersNotIn same t
  empty.inserted same kept

/-- The members of exactly one of the sets. -/
def symmetricDifference (s t : Collection) : Except Fault Collection := do
  let left ← s.difference same t
  let right ← t.membersNotIn same s
  left.inserted same right

/-- Takes out the first member, if there is one. -/
def popFirst (same : Collection → Sameness) (s : Collection) : Mutation (Option Value) :=
  match s.members with
  | [] => (.ok none, s)
  | x :: _ => match s.delete same [x] with
    | (.ok (), t) => (.ok (some x), t)
    | (.error fault, t) => (.error fault, t)

/-- Takes out a member, if there is one: storage by key gives up the last one, a list the first. -/
def pop (same : Collection → Sameness) (s : Collection) : Mutation (Option Value) :=
  if s.cls.isKeyed then
    match Keyed.popLast s with
    | some (x, t) => (.ok (some x), t)
    | none => s.popFirst same
  else s.popFirst same

end ValueSets.Collection
