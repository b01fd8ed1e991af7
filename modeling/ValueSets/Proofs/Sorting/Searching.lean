import Mathlib.Data.List.TakeWhile
import ValueSets.Proofs.Sorting.Agreement

/-!
# Searching finds the leading items

A test parts a list if no item that passes follows one that does not. Of such a list, bisecting,
striding and leaping all count the items that pass, whichever middle is asked about first.
`Sorting.exists_leap` and `Sorting.exists_bisect` say so in the form in which runs and merges need
it: the list is a front that passes and a back that does not, and the count is the length of the
front.
-/

set_option autoImplicit false

namespace ValueSets.Sorting

variable {ε α : Type} {middle : Nat → Nat} {p : α → Bool} {zs : List α}

/-- Whether no item that passes follows one that does not. -/
def Parts (p : α → Bool) (zs : List α) : Prop := zs.Pairwise fun y z => p z = true → p y = true

namespace Parts

theorem drop (h : Parts p zs) (n : Nat) : Parts p (zs.drop n) :=
  List.Pairwise.sublist (List.drop_sublist n zs) h

theorem take (h : Parts p zs) (n : Nat) : Parts p (zs.take n) :=
  List.Pairwise.sublist (List.take_sublist n zs) h

theorem tail (h : Parts p zs) {n : Nat} {z : α} {back : List α}
    (hdrop : zs.drop n = z :: back) : Parts p back := by
  have hrest := h.drop n
  rw [hdrop] at hrest
  exact (List.pairwise_cons.1 hrest).2

/-- What stands before an item that passes does, too. -/
theorem length_takeWhile_of_pos (h : Parts p zs) {n : Nat} {z : α} {back : List α}
    (hdrop : zs.drop n = z :: back) (hz : p z = true) :
    (zs.takeWhile p).length = n + 1 + (back.takeWhile p).length := by
  have hsplit : zs.take n ++ z :: back = zs := by rw [← hdrop, List.take_append_drop]
  have hall : ∀ y ∈ zs.take n, p y = true := by
    intro y hy
    rw [← hsplit] at h
    exact (List.pairwise_append.1 h).2.2 y hy z (by simp) hz
  have hwhile : zs.takeWhile p = zs.take n ++ z :: back.takeWhile p := by
    calc zs.takeWhile p = (zs.take n ++ z :: back).takeWhile p := by rw [hsplit]
      _ = zs.take n ++ (z :: back).takeWhile p := List.takeWhile_append_of_pos hall
      _ = zs.take n ++ z :: back.takeWhile p := by rw [List.takeWhile_cons_of_pos hz]
  have hlength := congrArg List.length hdrop
  simp only [List.length_drop, List.length_cons] at hlength
  rw [hwhile, List.length_append, List.length_take, List.length_cons]
  omega

/-- Behind an item that does not pass nothing has to be looked for. -/
theorem takeWhile_of_neg {n : Nat} {z : α} {back : List α} (hdrop : zs.drop n = z :: back)
    (hz : p z = false) : zs.takeWhile p = (zs.take n).takeWhile p := by
  have hsplit : zs.take n ++ z :: back = zs := by rw [← hdrop, List.take_append_drop]
  have hnone : (z :: back).takeWhile p = [] := List.takeWhile_cons_of_neg (by simp [hz])
  calc zs.takeWhile p = (zs.take n ++ z :: back).takeWhile p := by rw [hsplit]
    _ = (zs.take n).takeWhile p := by
      rw [List.takeWhile_append, hnone, List.append_nil]
      split
      · rename_i hlength
        exact ((List.takeWhile_prefix p).eq_of_length hlength).symm
      · rfl

/-- A list that a test parts is a front that passes and a back that does not. -/
theorem exists_append (h : Parts p zs) :
    ∃ front back, zs = front ++ back ∧ zs.takeWhile p = front ∧ (∀ z ∈ front, p z = true) ∧
      ∀ z ∈ back, p z = false := by
  refine ⟨zs.takeWhile p, zs.dropWhile p, (List.takeWhile_append_dropWhile).symm, rfl,
    fun z hz => List.mem_takeWhile_imp hz, fun z hz => ?_⟩
  have hback : Parts p (zs.dropWhile p) := List.Pairwise.sublist (List.dropWhile_sublist p) h
  cases hdrop : zs.dropWhile p with
  | nil => simp [hdrop] at hz
  | cons y back =>
    have hy : p y = false := by
      have := List.head?_dropWhile_not p zs
      simpa [hdrop] using this
    rw [hdrop] at hz hback
    rcases List.mem_cons.1 hz with rfl | hz
    · exact hy
    · cases hz' : p z with
      | false => rfl
      | true => rw [(List.pairwise_cons.1 hback).1 z hz hz'] at hy; cases hy

end Parts

/-- Bisecting counts the items that pass. -/
theorem bisect_eq (hmiddle : ∀ n, 0 < n → middle n < n) (h : Parts p zs) :
    bisect middle (fun z => .ok (p z)) zs = (.ok (zs.takeWhile p).length : Except ε Nat) := by
  fun_induction bisect middle (fun z => (.ok (p z) : Except ε Bool)) zs with
  | case1 zs hdrop =>
    have hlength := List.drop_eq_nil_iff.1 hdrop
    -- the middle of a nonempty list stands inside of it
    have hzs : zs = [] := by
      by_contra hne
      have := hmiddle zs.length (List.length_pos_iff.2 hne)
      omega
    rw [hzs]
    rfl
  | case2 zs z back hdrop ihback ihfront =>
    cases hz : p z with
    | true =>
      rw [h.length_takeWhile_of_pos hdrop hz, ihback (h.tail hdrop)]
      rfl
    | false =>
      rw [Parts.takeWhile_of_neg hdrop hz, ← ihfront (h.take _)]
      rfl

/-- Asking in strides counts the items that pass. -/
theorem stride_eq (hmiddle : ∀ n, 0 < n → middle n < n) {skip : Nat} (h : Parts p zs) :
    stride middle (fun z => .ok (p z)) skip zs
      = (.ok (zs.takeWhile p).length : Except ε Nat) := by
  fun_induction stride middle (fun z => (.ok (p z) : Except ε Bool)) skip zs with
  | case1 skip zs hdrop => exact bisect_eq hmiddle h
  | case2 skip zs z back hdrop ih =>
    cases hz : p z with
    | true =>
      rw [h.length_takeWhile_of_pos hdrop hz, ih (h.tail hdrop)]
      rfl
    | false =>
      rw [Parts.takeWhile_of_neg hdrop hz, ← bisect_eq hmiddle (h.take skip)]
      rfl

/-- Leaping counts the items that pass. -/
theorem leap_eq (hmiddle : ∀ n, 0 < n → middle n < n) (h : Parts p zs) :
    leap middle (fun z => .ok (p z)) zs = (.ok (zs.takeWhile p).length : Except ε Nat) := by
  cases zs with
  | nil => rfl
  | cons z zs =>
    have hrest : stride middle (fun z => .ok (p z)) 0 zs =
        (.ok (zs.takeWhile p).length : Except ε Nat) :=
      stride_eq hmiddle (List.pairwise_cons.1 h).2
    unfold leap
    cases hz : p z with
    | true => simp [hrest, hz, bind, Except.bind, pure, Except.pure, Nat.add_comm]
    | false => simp [hz, bind, Except.bind, pure, Except.pure]

theorem frontMiddle_lt (n : Nat) (h : 0 < n) : frontMiddle n < n := by
  unfold frontMiddle
  omega

theorem backMiddle_lt (n : Nat) (h : 0 < n) : backMiddle n < n := by
  unfold backMiddle
  omega

/-- A bisection parts a list where its test does. -/
theorem exists_bisect (hmiddle : ∀ n, 0 < n → middle n < n) (h : Parts p zs) :
    ∃ front back, zs = front ++ back ∧ (∀ z ∈ front, p z = true) ∧ (∀ z ∈ back, p z = false) ∧
      bisect middle (fun z => .ok (p z)) zs = (.ok front.length : Except ε Nat) := by
  obtain ⟨front, back, hzs, hwhile, hfront, hback⟩ := h.exists_append
  exact ⟨front, back, hzs, hfront, hback, by rw [bisect_eq hmiddle h, hwhile]⟩

/-- A leap parts a list where its test does. -/
theorem exists_leap (hmiddle : ∀ n, 0 < n → middle n < n) (h : Parts p zs) :
    ∃ front back, zs = front ++ back ∧ (∀ z ∈ front, p z = true) ∧ (∀ z ∈ back, p z = false) ∧
      leap middle (fun z => .ok (p z)) zs = (.ok front.length : Except ε Nat) := by
  obtain ⟨front, back, hzs, hwhile, hfront, hback⟩ := h.exists_append
  exact ⟨front, back, hzs, hfront, hback, by rw [leap_eq hmiddle h, hwhile]⟩

end ValueSets.Sorting
