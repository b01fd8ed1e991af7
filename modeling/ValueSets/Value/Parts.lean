import ValueSets.Value

/-!
# The parts of values

`Value.mapFlat` changes each part of a value that has no parts of its own, wherever it stands, and
leaves the rest of the value as it is.
-/

set_option autoImplicit false

namespace ValueSets.Value

section

variable (f : Value → Value)

mutual

/-- A value whose parts without parts of their own are changed by `f`. -/
def mapFlat : Value → Value
  | .tuple items identity => .tuple (mapAllFlat items) identity
  | .list items => .list (mapAllFlat items)
  | .table entries => .table (mapEntriesFlat entries)
  | .set items layout => .set (mapAllFlat items) layout
  | .frozenSet items identity layout => .frozenSet (mapAllFlat items) identity layout
  | v => f v
termination_by structural x => x

/-- Values whose parts without parts of their own are changed by `f`. -/
def mapAllFlat : List Value → List Value
  | [] => []
  | v :: vs => mapFlat v :: mapAllFlat vs
termination_by structural x => x

/-- Entries whose parts without parts of their own are changed by `f`. -/
def mapEntriesFlat : List (Value × Value) → List (Value × Value)
  | [] => []
  | (k, v) :: es => (mapFlat k, mapFlat v) :: mapEntriesFlat es
termination_by structural x => x

end

end

end ValueSets.Value
