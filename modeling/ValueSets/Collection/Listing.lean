import ValueSets.Collection.Storage
import ValueSets.NaturalOrder
import ValueSets.Sorting

/-!
# Listing members

Without a key, members are listed in their natural order if the configuration asks for that and they
have one, and in the order of storage otherwise. With a key, they are always sorted by it, and
members whose keys tie stay in the order of storage.
-/

set_option autoImplicit false

namespace ValueSets.Collection

/-- Whether listing the set has to pass over the natural order that its configuration asks for,
because its members have none. -/
def lacksOrder (s : Collection) : Bool :=
  !s.members.isEmpty && s.config.sortedListing
    && !hasNaturalOrder s.members s.config.elementType

/-- The members as they are listed without a key. `before` is the order of values. -/
def list (before : Precedence) (s : Collection) : Except Fault (List Value) :=
  if s.members.isEmpty || !s.config.sortedListing || s.lacksOrder then .ok s.members
  else Sorting.sorted before s.members

/-- The members sorted by a key, which is computed for each of them first. `before` is the order of
keys. -/
def listBy {κ : Type} {m : Type → Type} [Monad m] [MonadExceptOf Fault m]
    (before : κ → κ → Except Fault Bool) (key : Value → m κ) (s : Collection) : m (List Value) := do
  let keyed ← s.members.mapM fun x => do return (← key x, x)
  MonadExcept.ofExcept (Sorting.sortedByKey before keyed)

end ValueSets.Collection
