import ValueSets.Ty

/-!
# Natural kinds

A kind is a family of types whose values have one natural order: integers, real numbers and strings.
Booleans have none, although they are integers in other respects.
-/

set_option autoImplicit false

namespace ValueSets

/-- A kind of values that are ordered by their value. -/
inductive Kind where
  | integer
  | real
  | string
deriving DecidableEq, Repr

namespace Kind

/-- The word for a kind. -/
def name : Kind → String
  | .integer => "integer"
  | .real => "real"
  | .string => "string"

/-- Whether the values of a kind are numbers. -/
def isNumeric : Kind → Bool
  | .integer | .real => true
  | .string => false

/-- The least kind that holds the values of both: integers widen to reals, and strings stand
alone. -/
def join? : Kind → Kind → Option Kind
  | .string, .string => some .string
  | .integer, .integer => some .integer
  | .string, _ => none
  | _, .string => none
  | _, _ => some .real

end Kind

/-- The kind of the values of a type, if they have a natural order. -/
def Ty.kind? (t : Ty) : Option Kind :=
  if t.isSubtypeOf .bool then none
  else if t.isSubtypeOf .text then some .string
  else if t.isSubtypeOf .integral then some .integer
  else if t.isSubtypeOf .real then some .real
  else none

end ValueSets
