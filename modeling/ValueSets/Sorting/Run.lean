import ValueSets.Sorting.Bisection

/-!
# Runs

A run is a stretch of a list that is in order. `nextRun` takes the leading run off a list: the
longest front that never steps down as it stands, or that always steps down, reversed. A run that
is too short is filled up with the items after it, each placed by bisection behind the last item
that it does not stand before. `nextRun_shorter` says that less is left than there was.
-/

set_option autoImplicit false

namespace ValueSets.Sorting

variable {ε α : Type}

/-- Places `x` by bisection in a list that is in order. -/
def place (before : α → α → Except ε Bool) (x : α) (sorted : List α) : Except ε (List α) := do
  let n ← bisect frontMiddle (fun y => (before x y).map not) sorted
  return sorted.take n ++ x :: sorted.drop n

/-- Splits off the longest front in which each next item passes the test against the one before it.
`last` is the item before the list. -/
def run (step : α → α → Except ε Bool) (last : α) : List α → Except ε (List α × List α)
  | [] => .ok ([], [])
  | x :: xs => do
    if ← step last x then
      let (front, rest) ← run step x xs
      return (x :: front, rest)
    else return ([], x :: xs)

/-- Splits a list into its leading run, put in ascending order, and the rest. -/
def leadingRun (before : α → α → Except ε Bool) : List α → Except ε (List α × List α)
  | [] => .ok ([], [])
  | [x] => .ok ([x], [])
  | x :: y :: rest => do
    if ← before y x then
      let (front, back) ← run (fun last next => before next last) y rest
      return ((x :: y :: front).reverse, back)
    else
      let (front, back) ← run (fun last next => (before next last).map not) y rest
      return (x :: y :: front, back)

/-- Splits a list into a run of at least `least` items, if there are as many, and the rest. -/
def nextRun (before : α → α → Except ε Bool) (least : Nat) (xs : List α) :
    Except ε (List α × List α) := do
  let (front, rest) ← leadingRun before xs
  let missing := least - front.length
  let filled ← (rest.take missing).foldlM (fun sorted x => place before x sorted) front
  return (filled, rest.drop missing)

/-- What follows a front is no longer than the list. -/
theorem run_length_le {step : α → α → Except ε Bool} {last : α} {xs front rest : List α}
    (h : run step last xs = .ok (front, rest)) : rest.length ≤ xs.length := by
  induction xs generalizing last front rest with
  | nil =>
    simp only [run, Except.ok.injEq, Prod.mk.injEq] at h
    simp [← h.2]
  | cons x xs ih =>
    simp only [run, bind, Except.bind] at h
    split at h
    · cases h
    · split at h
      · split at h
        · cases h
        · rename_i hrun
          simp only [pure, Except.pure, Except.ok.injEq, Prod.mk.injEq] at h
          have hle := ih hrun
          simp only [List.length_cons, ← h.2]
          omega
      · simp only [pure, Except.pure, Except.ok.injEq, Prod.mk.injEq] at h
        simp [← h.2]

/-- What follows the leading run of a list with items is shorter than the list. -/
theorem leadingRun_shorter {before : α → α → Except ε Bool} {x : α} {xs front rest : List α}
    (h : leadingRun before (x :: xs) = .ok (front, rest)) : rest.length < (x :: xs).length := by
  cases xs with
  | nil =>
    simp only [leadingRun, Except.ok.injEq, Prod.mk.injEq] at h
    simp [← h.2]
  | cons y ys =>
    simp only [leadingRun, bind, Except.bind] at h
    split at h
    · cases h
    · split at h
      all_goals
        split at h
        · cases h
        · rename_i hrun
          simp only [pure, Except.pure, Except.ok.injEq, Prod.mk.injEq] at h
          have hle := run_length_le hrun
          simp only [List.length_cons, ← h.2]
          omega

/-- What follows a run taken off a list with items is shorter than the list. -/
theorem nextRun_shorter {before : α → α → Except ε Bool} {least : Nat} {x : α}
    {xs taken rest : List α} (h : nextRun before least (x :: xs) = .ok (taken, rest)) :
    rest.length < (x :: xs).length := by
  simp only [nextRun, bind, Except.bind] at h
  split at h
  · cases h
  · rename_i hlead
    have hlt := leadingRun_shorter hlead
    split at h
    · cases h
    · simp only [pure, Except.pure, Except.ok.injEq, Prod.mk.injEq] at h
      simp only [← h.2, List.length_drop]
      omega

end ValueSets.Sorting
