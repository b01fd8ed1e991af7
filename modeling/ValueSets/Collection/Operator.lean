import ValueSets.Collection.Algebra
import ValueSets.Operator

/-!
# Operators between sets

The algebra and the comparisons under their signs. A comparison is answered by the right operand,
turned around, if its class is strictly below the class of the left one. The strict comparisons are
not defined for sets. An operator written with `=` behind it makes a new set as well; only the
message of a refusal shows the sign as written.
-/

set_option autoImplicit false

namespace ValueSets

namespace Collection

variable (same : Sameness)

/-- The set that an operator makes of two sets. -/
def combine (op : SetOperator) (s t : Collection) : Except Fault Collection :=
  match op with
  | .union => s.union same t
  | .intersection => s.intersection same t
  | .difference => s.difference same t
  | .symmetricDifference => s.symmetricDifference same t

/-- Whether the right operand of a comparison answers it. -/
def answersFirst (s t : Collection) : Bool := t.cls.isProperSubclassOf s.cls

/-- `s == t`. -/
def eq (s t : Collection) : Except Fault Bool :=
  if s.answersFirst t then t.equal same s else s.equal same t

/-- `s <= t`. -/
def le (s t : Collection) : Except Fault Bool :=
  if s.answersFirst t then t.isSuperset same s else s.isSubset same t

/-- `s >= t`. -/
def ge (s t : Collection) : Except Fault Bool :=
  if s.answersFirst t then t.isSubset same s else s.isSuperset same t

/-- The answer to a question of order. -/
def isOrdered (o : Order) (s t : Collection) : Except Fault Bool :=
  match o with
  | .atMost => s.le same t
  | .atLeast => s.ge same t
  | .less | .greater => .error (.noOrder o.sign s.cls.name t.cls.name)

/-- The answer of a comparison. -/
def compare (op : Comparison) (s t : Collection) : Except Fault Bool :=
  match op with
  | .equal => s.eq same t
  | .unequal => do return !(← s.eq same t)
  | .order o => s.isOrdered same o t

end Collection

end ValueSets
