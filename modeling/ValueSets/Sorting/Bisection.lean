/-!
# Searching by bisection

How many leading items of a list pass a test that may fail, found without asking all of them.
`bisect` halves what is unknown at each question. `leap` starts from the front and asks in strides
that double, which is cheap where few items pass, and bisects the last stride. Both count the
leading items that pass if no passing item follows one that does not; of any other list they answer
what the items that they ask about suggest.

Half of an odd number of items is not whole, so a middle is a choice: `frontMiddle` leaves the
fewer items behind it, and `backMiddle` the fewer before it.
-/

set_option autoImplicit false

namespace ValueSets.Sorting

variable {ε α : Type}

/-- The place of the middle item of `n`, the later one of two. -/
def frontMiddle (n : Nat) : Nat := n / 2

/-- The place of the middle item of `n`, the earlier one of two. -/
def backMiddle (n : Nat) : Nat := (n - 1) / 2

/-- The number of leading items that pass, asking about the middle of what is unknown. -/
def bisect (middle : Nat → Nat) (test : α → Except ε Bool) (zs : List α) : Except ε Nat :=
  match _h : zs.drop (middle zs.length) with
  | [] => .ok 0
  | z :: back => do
    if ← test z then
      let more ← bisect middle test back
      return middle zs.length + 1 + more
    else bisect middle test (zs.take (middle zs.length))
termination_by zs.length
decreasing_by
  · have hlen := congrArg List.length _h
    simp at hlen
    omega
  · have hlen := congrArg List.length _h
    simp at hlen
    simp
    omega

/-- The number of leading items that pass, asking about the item after the next `skip`, and with
each item that passes skipping twice as many and one more. -/
def stride (middle : Nat → Nat) (test : α → Except ε Bool) (skip : Nat) (zs : List α) :
    Except ε Nat :=
  match _h : zs.drop skip with
  | [] => bisect middle test zs
  | z :: back => do
    if ← test z then
      let more ← stride middle test (2 * skip + 1) back
      return skip + 1 + more
    else bisect middle test (zs.take skip)
termination_by zs.length
decreasing_by
  have hlen := congrArg List.length _h
  simp at hlen
  omega

/-- The number of leading items that pass, asking about the first two in turn and then in
strides. -/
def leap (middle : Nat → Nat) (test : α → Except ε Bool) : List α → Except ε Nat
  | [] => .ok 0
  | z :: zs => do
    if ← test z then
      let more ← stride middle test 0 zs
      return 1 + more
    else return 0

end ValueSets.Sorting
