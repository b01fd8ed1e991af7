import ValueSets.Value.Equality

/-!
# Members kept by key

Lists of values in which no two are the same key, in the order they were added. Adding a value that
is there already keeps the old one and its place; dropping one keeps the others in order.
-/

set_option autoImplicit false

namespace ValueSets.Members

open Value

/-- Adds a value at the end, unless the list has the same key already. -/
def add (ms : List Value) (x : Value) : List Value :=
  if hasKey x ms then ms else ms ++ [x]

/-- Adds values from left to right. -/
def addAll (ms xs : List Value) : List Value := xs.foldl add ms

/-- Drops what is the same key as `x`. -/
def drop (ms : List Value) (x : Value) : List Value := ms.filter fun m => !m.sameKey x

/-- The first entry of each key, with the value given last. -/
def mergeEntries (entries : List (Value × Value)) : List (Value × Value) :=
  entries.foldl (fun merged entry =>
    if merged.any fun e => e.1.sameKey entry.1 then
      merged.map fun e => if e.1.sameKey entry.1 then (e.1, entry.2) else e
    else merged ++ [entry]) []

/-- Adding nothing changes nothing. -/
@[simp] theorem addAll_nil (ms : List Value) : addAll ms [] = ms := rfl

/-- Adding in two goes is adding all at once. -/
theorem addAll_append (ms xs ys : List Value) :
    addAll ms (xs ++ ys) = addAll (addAll ms xs) ys := by
  simp [addAll]

/-- What was there stays, at the front and in order. -/
theorem isPrefix_addAll (ms xs : List Value) : ms <+: addAll ms xs := by
  induction xs generalizing ms with
  | nil => exact List.prefix_refl ms
  | cons x xs ih =>
    have hstep : ms <+: add ms x := by
      unfold add
      split
      · exact List.prefix_refl ms
      · exact List.prefix_append ms [x]
    exact hstep.trans (ih (add ms x))

end ValueSets.Members
