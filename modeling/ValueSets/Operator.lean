import ValueSets.Value.Comparison

/-!
# Operators

The operators that are written between two values: four that make a value, of which each also has a
form written with `=` behind its sign, and six that answer a question. On sets the four are the set
algebra. `Operator.refusal` is the fault of an operator that neither of its operands answers.
-/

set_option autoImplicit false

namespace ValueSets

/-- The operators that make a value. -/
inductive SetOperator where
  | union
  | intersection
  | difference
  | symmetricDifference
deriving DecidableEq, Repr

/-- The operators that answer a question. -/
inductive Comparison where
  | equal
  | unequal
  | order (o : Order)
deriving DecidableEq, Repr

/-- An operator as it is written. -/
inductive Operator where
  | make (op : SetOperator)
  | makeInPlace (op : SetOperator)
  | compare (op : Comparison)
deriving DecidableEq, Repr

namespace SetOperator

/-- The sign of an operator. -/
def sign : SetOperator → String
  | .union => "|"
  | .intersection => "&"
  | .difference => "-"
  | .symmetricDifference => "^"

/-- The name of the method that does the same to sets. -/
def name : SetOperator → String
  | .union => "union"
  | .intersection => "intersection"
  | .difference => "difference"
  | .symmetricDifference => "symmetric_difference"

/-- Whether the result has what the operands have or lack. -/
def keeps : SetOperator → Bool → Bool → Bool
  | .union, inLeft, inRight => inLeft || inRight
  | .intersection, inLeft, inRight => inLeft && inRight
  | .difference, inLeft, inRight => inLeft && !inRight
  | .symmetricDifference, inLeft, inRight => inLeft != inRight

end SetOperator

/-- The sign of a comparison. -/
def Comparison.sign : Comparison → String
  | .equal => "=="
  | .unequal => "!="
  | .order o => o.sign

namespace Operator

/-- The sign as it is written. -/
def sign : Operator → String
  | .make op => op.sign
  | .makeInPlace op => op.sign ++ "="
  | .compare op => op.sign

/-- Every operator. -/
def all : List Operator :=
  [.make .union, .make .intersection, .make .difference, .make .symmetricDifference,
    .makeInPlace .union, .makeInPlace .intersection, .makeInPlace .difference,
    .makeInPlace .symmetricDifference, .compare .equal, .compare .unequal,
    .compare (.order .atMost), .compare (.order .atLeast), .compare (.order .less),
    .compare (.order .greater)]

/-- Finds an operator by its sign. -/
def ofSign? (sign : String) : Option Operator := all.find? fun op => op.sign == sign

/-- The fault of an operator that neither operand answers. -/
def refusal (op : Operator) (left right : String) : Fault :=
  match op with
  | .compare cmp => .noOrder cmp.sign left right
  | op => .noOperator op.sign left right

end Operator

end ValueSets
