import ValueSets.Sorting.Run
import ValueSets.Sorting.Merging

/-!
# Sorting with an order that may fail

`Sorting.sorted` sorts a list by a strict order whose comparisons may fail; the first failing
comparison is the result. The first comparison asks whether the second item stands before the first.

The list is taken apart into runs from the front, each of a length that lets runs be merged in
nearly equal sizes, and neighbouring runs are merged on the way. Which of them are merged when is
decided by the power of the boundary between them, the number of halvings of the list that it takes
to tell their midpoints apart: boundaries of greater power go first. A short list is a single run,
sorted by placing its items one after the other.

Where the order is total up to ties, the result is the one stable ascending arrangement; items
without a place in the order end where the search for their place meets them.
-/

set_option autoImplicit false

namespace ValueSets.Sorting

variable {ε α : Type}

/-- The length that the runs of a list of `n` items are filled up to: `n` itself below 64, else `n`
divided by the power of two that brings it there, rounded up. -/
def leastRun (n : Nat) : Nat :=
  let share := Nat.pow 2 (n.log2 - 5)
  (n + share - 1) / share

/-- The number of halvings of a list of `n` items that it takes to tell two midpoints apart. Both
are counted in half items: the first is at `midpoint`, the second `gap` behind it. -/
def power (n midpoint gap : Nat) : Nat :=
  if gap = 0 ∨ n ≤ gap then 1
  else if n ≤ midpoint then 1 + power n (2 * (midpoint - n)) (2 * gap)
  else if n ≤ midpoint + gap then 1
  else 1 + power n (2 * midpoint) (2 * gap)
termination_by n - gap

/-- A run that waits to be merged, and the power of the boundary behind it. -/
structure Pending (α : Type) where
  items : List α
  power : Nat

variable (before : α → α → Except ε Bool)

/-- Merges a run with those that wait before it, the nearest first, as long as the boundary between
them has a greater power than the one behind. -/
def mergeAbove (power : Nat) (patience : Nat) :
    List (Pending α) → List α → Except ε (List α × List (Pending α) × Nat)
  | [], last => .ok (last, [], patience)
  | p :: waiting, last => do
    if power < p.power then
      let (merged, patience) ← merge before patience p.items last
      mergeAbove power patience waiting merged
    else return (last, p :: waiting, patience)

/-- Merges the last run and all that wait before it. The run before the last is merged with the
smaller of its neighbours. -/
def mergeAll (patience : Nat) (waiting : List (List α)) (last : List α) : Except ε (List α) :=
  match waiting with
  | [] => .ok last
  | [second] => do
    let (merged, _) ← merge before patience second last
    return merged
  | second :: third :: waiting => do
    if third.length < last.length then
      let (merged, patience) ← merge before patience third second
      mergeAll patience (merged :: waiting) last
    else
      let (merged, patience) ← merge before patience second last
      mergeAll patience (third :: waiting) merged
termination_by waiting.length

/-- Sorts what is left of a list of `n` items behind the run `last`, which begins at the place
`start`. -/
def sortRest (n start patience : Nat) (waiting : List (Pending α)) (last : List α) :
    List α → Except ε (List α)
  | [] => mergeAll before patience (waiting.map (·.items)) last
  | x :: xs =>
    match _h : nextRun before (leastRun n) (x :: xs) with
    | .error e => .error e
    | .ok (next, rest) => do
      let boundary := power n (2 * start + last.length) (last.length + next.length)
      let (merged, waiting, patience) ← mergeAbove before boundary patience waiting last
      sortRest n (start + last.length) patience (⟨merged, boundary⟩ :: waiting) next rest
termination_by xs => xs.length
decreasing_by exact nextRun_shorter _h

/-- The patience of the first merge. -/
def firstPatience : Nat := 7

/-- A list in ascending order. -/
def sorted (xs : List α) : Except ε (List α) := do
  let (first, rest) ← nextRun before (leastRun xs.length) xs
  sortRest before xs.length 0 firstPatience [] first rest

/-- A list in ascending order of the keys that its items carry. -/
def sortedByKey {κ : Type} (before : κ → κ → Except ε Bool) (xs : List (κ × α)) :
    Except ε (List α) := do
  let ys ← sorted (fun x y => before x.1 y.1) xs
  return ys.map (·.2)

end ValueSets.Sorting
