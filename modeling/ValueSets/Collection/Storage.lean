import ValueSets.Collection.Keyed
import ValueSets.Collection.Scanned

/-!
# Storage primitives

The primitives that everything else about sets is derived from: adding, dropping, asking, emptying,
and making an empty set of the same class. A set's class decides which storage answers, and storage
by key goes by the element type, so it has to be found. A mutation is a result beside the set it
leaves, since a failing one may have done a part of its work.
-/

set_option autoImplicit false

namespace ValueSets

/-- The result of a mutation and the set it leaves. -/
abbrev Mutation (α : Type) := Except Fault α × Collection

namespace Collection

/-- Adds elements. `same` says how values compare when the set has the members that it has by then.
-/
def insert (same : Collection → Sameness) (s : Collection) (xs : List Value) : Mutation Unit :=
  if s.cls.isKeyed then
    match s.checkElementType xs, Keyed.insert s xs with
    | .error fault, _ => (.error fault, s)
    | .ok (), .ok t => (.ok (), t)
    | .ok (), .error fault => (.error fault, s)
  else Scanned.insert same s xs

/-- Drops elements; those that are no members are passed over. -/
def delete (same : Collection → Sameness) (s : Collection) (xs : List Value) : Mutation Unit :=
  if s.cls.isKeyed then
    match s.checkElementType xs with
    | .error fault => (if xs.isEmpty then .ok () else .error fault, s)
    | .ok () => Keyed.delete s xs
  else Scanned.delete same s xs

/-- Whether an element is a member. -/
def has (same : Sameness) (s : Collection) (x : Value) : Except Fault Bool :=
  if s.cls.isKeyed then do
    s.checkElementType [x]
    Keyed.has s x
  else Scanned.has same s x

/-- The set without its members. -/
def cleared (s : Collection) : Collection := { s with members := [] }

variable (same : Sameness)

/-- The set that adding elements leaves, if it succeeds. Nothing else holds the set yet. -/
def inserted (s : Collection) (xs : List Value) : Except Fault Collection :=
  match s.insert (fun _ => same) xs with
  | (.ok (), t) => .ok t
  | (.error fault, _) => .error fault

/-- A set of the same class and configuration with the given elements. -/
def like (s : Collection) (xs : List Value) : Except Fault Collection := do
  let empty ← s.emptied
  empty.inserted same xs

end Collection

end ValueSets
