import ValueSets.Value.Items
import ValueSets.Value.Slots

/-!
# What types make

A type that is called makes a value of its own. `Ty.empty?` is what it makes of nothing, and
`typeOf_of_empty?` says that this is one of its values; `Ty.ofText?` is what it makes of a text.
Both are given for the types of which the values are written out here.
-/

set_option autoImplicit false

namespace ValueSets

namespace Ty

/-- What a type makes of nothing. -/
def empty? : Ty → Option Value
  | .null => some .null
  | .bool => some (.bool false)
  | .int => some (.int 0)
  | .float => some (.float (.finite 0))
  | .fraction => some (.fraction 0)
  | .text => some (.text "")
  | .symbol => some (.symbol "")
  | .bytes => some (.bytes [])
  | .tuple => some (.tuple [])
  | .list => some (.list [])
  | .table => some (.table [])
  | .set => some Slots.none.toSet
  | .frozenSet => some Slots.none.toFrozenSet
  | _ => none

/-- What a type makes of nothing is one of its values. -/
theorem typeOf_of_empty? {t : Ty} {v : Value} (h : t.empty? = some v) : v.typeOf = t := by
  cases t <;> simp [empty?] at h <;> subst h <;> rfl

/-- What a type makes of a text. -/
def ofText? (s : String) : Ty → Option Value
  | .bool => some (.bool (s ≠ ""))
  | .text => some (.text s)
  | .symbol => some (.symbol s)
  | .tuple => some (.tuple (s.toList.map Value.character))
  | .list => some (.list (s.toList.map Value.character))
  | .type => some (.type .text)
  | _ => none

end Ty

end ValueSets
