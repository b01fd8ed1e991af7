import ValueSets.Sorting.Bisection

/-!
# Merging two runs

`merge` joins two runs that stand one behind the other. Items of the first run that stand at the
front already, and items of the second that stand at the back already, are left out; the rest is
merged from the front if the first run is not the longer one, and from the back otherwise.

A merge takes one item at a time until one side has won several times in a row. It then leaps over
many items of either side at once, and goes on so as long as that pays. How many wins in a row it
waits for is its patience, which leaping lowers and giving up leaping raises; patience is handed on
from one merge to the next. Neither leaping nor patience matters to the result where the order is
total up to ties: then it is the stable merge.

Merging from the back is merging the reversed runs, so both directions are one function. One side
is held: its last item waits for all items of the other side.
-/

set_option autoImplicit false

namespace ValueSets.Sorting

variable {ε α : Type}

/-- One of the two sides of a merge. -/
inductive Side where
  | held
  | other
deriving DecidableEq

/-- The side across. -/
def Side.across : Side → Side
  | .held => .other
  | .other => .held

/-- How a merge goes on. -/
inductive Pace where
  /-- One item at a time, the held and the other side having won so many times in a row. -/
  | single (heldWins otherWins : Nat)
  /-- The first leap of a round, over items of a side. -/
  | leap (side : Side)
  /-- The second leap of a round, the first one having passed over `first` items. -/
  | leapBack (side : Side) (first : Nat)
  /-- One more round of leaping, after one that paid. -/
  | again (side : Side)
  /-- One item at a time, after a round that did not pay. -/
  | giveUp

/-- The patience with which a merge enters a pace. -/
def Pace.patience (patience : Nat) : Pace → Nat
  | .again _ => if 1 < patience then patience - 1 else patience
  | .giveUp => patience + 1
  | _ => patience

/-- A round of leaping pays if one of its leaps passes over so many items. -/
def worthwhile : Nat := 7

/-- The choices of a merge: when an item `y` of the other side goes before an item `x` of the held
side, which side a round leaps over first, and which middle bisection asks about. -/
structure Direction (ε α : Type) where
  otherWins : α → α → Except ε Bool
  firstLeap : Side
  middle : Nat → Nat

/-- Where a merge stands after a step: the items that the step moved, what is left on either side,
and how the merge goes on. -/
structure Progress (α : Type) where
  moved : List α
  held : List α
  other : List α
  pace : Pace

namespace Direction

variable (d : Direction ε α)

/-- How a merge goes on after a single item, with its win counted in. -/
def afterWin (patience heldWins otherWins : Nat) : Pace :=
  if patience ≤ heldWins || patience ≤ otherWins then .leap d.firstLeap
  else .single heldWins otherWins

/-- How a merge goes on after a leap over `count` items of a side. -/
def afterLeap (first? : Option Nat) (side : Side) (count : Nat) : Pace :=
  match first? with
  | none => .leapBack side.across count
  | some first =>
    if worthwhile ≤ first || worthwhile ≤ count then .again d.firstLeap else .giveUp

/-- Moves the one of two items that goes first. -/
def single (patience heldWins otherWins : Nat) (x : α) (xs : List α) (y : α) (ys : List α) :
    Except ε (Progress α) := do
  if ← d.otherWins x y then return ⟨[y], x :: xs, ys, d.afterWin patience 0 (otherWins + 1)⟩
  else return ⟨[x], xs, y :: ys, d.afterWin patience (heldWins + 1) 0⟩

/-- Moves the held items that go before `y`, then `y` itself unless that leaves the merge
decided. -/
def leapHeld (first? : Option Nat) (held : List α) (y : α) (ys : List α) :
    Except ε (Progress α) := do
  let n ← leap d.middle (fun z => (d.otherWins z y).map not) held
  let pace := d.afterLeap first? .held n
  if (held.drop n).length ≤ 1 then return ⟨held.take n, held.drop n, y :: ys, pace⟩
  else return ⟨held.take n ++ [y], held.drop n, ys, pace⟩

/-- Moves the items of the other side that go before `x`, then `x` itself unless that leaves the
merge decided. -/
def leapOther (first? : Option Nat) (x : α) (xs other : List α) : Except ε (Progress α) := do
  let n ← leap d.middle (fun z => d.otherWins x z) other
  let pace := d.afterLeap first? .other n
  if (other.drop n).isEmpty then return ⟨other.take n, x :: xs, [], pace⟩
  else return ⟨other.take n ++ [x], xs, other.drop n, pace⟩

/-- Leaps over items of a side. -/
def leapOver (first? : Option Nat) (side : Side) (x : α) (xs : List α) (y : α) (ys : List α) :
    Except ε (Progress α) :=
  match side with
  | .held => d.leapHeld first? (x :: xs) y ys
  | .other => d.leapOther first? x xs (y :: ys)

/-- One step of a merge. -/
def step (pace : Pace) (patience : Nat) (x : α) (xs : List α) (y : α) (ys : List α) :
    Except ε (Progress α) :=
  match pace with
  | .single heldWins otherWins => d.single patience heldWins otherWins x xs y ys
  | .giveUp => d.single patience 0 0 x xs y ys
  | .leap side | .again side => d.leapOver none side x xs y ys
  | .leapBack side first => d.leapOver (some first) side x xs y ys

variable {d}

/-- Moving one of two items leaves fewer items. -/
theorem single_shorter {patience heldWins otherWins : Nat} {x y : α} {xs ys : List α}
    {p : Progress α} (h : d.single patience heldWins otherWins x xs y ys = .ok p) :
    p.held.length + p.other.length < (x :: xs).length + (y :: ys).length := by
  simp only [single, bind, Except.bind] at h
  split at h
  · cases h
  · split at h
    all_goals
      cases h
      simp only [List.length_cons]
      omega

/-- A leap over held items leaves fewer items, if at least two are held. -/
theorem leapHeld_shorter {first? : Option Nat} {x x' y : α} {xs ys : List α} {p : Progress α}
    (h : d.leapHeld first? (x :: x' :: xs) y ys = .ok p) :
    p.held.length + p.other.length < (x :: x' :: xs).length + (y :: ys).length := by
  simp only [leapHeld, bind, Except.bind] at h
  split at h
  · cases h
  · split at h
    · rename_i n _ hfew
      cases h
      simp only [List.length_cons, List.length_drop] at hfew ⊢
      omega
    · cases h
      simp only [List.length_cons, List.length_drop]
      omega

/-- A leap over items of the other side leaves fewer items, if there is one. -/
theorem leapOther_shorter {first? : Option Nat} {x y : α} {xs ys : List α} {p : Progress α}
    (h : d.leapOther first? x xs (y :: ys) = .ok p) :
    p.held.length + p.other.length < (x :: xs).length + (y :: ys).length := by
  simp only [leapOther, bind, Except.bind] at h
  split at h
  · cases h
  · split at h
    all_goals
      cases h
      simp only [List.length_cons, List.length_drop, List.length_nil]
      omega

/-- Every step of a merge that is not decided leaves fewer items. -/
theorem step_shorter {pace : Pace} {patience : Nat} {x x' y : α} {xs ys : List α}
    {p : Progress α} (h : d.step pace patience x (x' :: xs) y ys = .ok p) :
    p.held.length + p.other.length < (x :: x' :: xs).length + (y :: ys).length := by
  cases pace with
  | single | giveUp => exact single_shorter h
  | leap side | again side | leapBack side =>
    cases side with
    | held => exact leapHeld_shorter h
    | other => exact leapOther_shorter h

end Direction

/-- The merge of what is held and what is on the other side, and the patience it ends with. -/
def mergeFrom (d : Direction ε α) (pace : Pace) (patience : Nat) :
    List α → List α → Except ε (List α × Nat)
  | held, [] => .ok (held, patience)
  | [], y :: ys => .ok (y :: ys, patience)
  | [x], y :: ys => .ok (y :: ys ++ [x], patience)
  | x :: x' :: xs, y :: ys =>
    match _h : d.step pace (pace.patience patience) x (x' :: xs) y ys with
    | .error e => .error e
    | .ok p => do
      let (rest, last) ← mergeFrom d p.pace (pace.patience patience) p.held p.other
      return (p.moved ++ rest, last)
termination_by held other => held.length + other.length
decreasing_by exact Direction.step_shorter _h

/-- Merges from the front: the first item of `right`, which goes before all of `left`, and then the
rest, `left` being held. -/
def mergeForward (before : α → α → Except ε Bool) (patience : Nat) (left right : List α) :
    Except ε (List α × Nat) := do
  let d : Direction ε α := ⟨fun x y => before y x, .held, frontMiddle⟩
  let (rest, last) ← mergeFrom d (.single 0 0) patience left (right.drop 1)
  return (right.take 1 ++ rest, last)

/-- Merges from the back: the last item of `left`, which goes behind all of `right`, and then the
rest, `right` being held. -/
def mergeBackward (before : α → α → Except ε Bool) (patience : Nat) (left right : List α) :
    Except ε (List α × Nat) := do
  let d : Direction ε α := ⟨fun x y => before x y, .other, backMiddle⟩
  let (rest, last) ← mergeFrom d (.single 0 0) patience right.reverse (left.reverse.drop 1)
  return ((left.reverse.take 1 ++ rest).reverse, last)

/-- The merge of two runs, and the patience it ends with. -/
def merge (before : α → α → Except ε Bool) (patience : Nat) (left right : List α) :
    Except ε (List α × Nat) :=
  match right with
  | [] => .ok (left, patience)
  | y :: _ => do
    let settled ← leap frontMiddle (fun x => (before y x).map not) left
    let open? := left.drop settled
    match open?.getLast? with
    | none => return (left ++ right, patience)
    | some x =>
      let behind ← leap backMiddle (fun z => (before z x).map not) right.reverse
      let count := right.length - behind
      let inner := right.take count
      if inner.isEmpty then return (left ++ right, patience)
      else
        let (merged, last) ←
          if open?.length ≤ inner.length then mergeForward before patience open? inner
          else mergeBackward before patience open? inner
        return (left.take settled ++ merged ++ right.drop count, last)

end ValueSets.Sorting
