import Mathlib.Order.Lattice
import ValueSets.Proofs.Sorting.Searching

/-!
# Stable arrangements

What the stages of a sort have to do where items are compared by a linearly ordered key. A list
ascends if its keys never descend, and two lists have the same ties if the items of each key are the
same in both and in the same order. A list is the arrangement of another one if it ascends and has
the same ties.

All that a stage does is move a stretch of items past another one that shares no key with it, so
stability is a chain of such moves (`SameTies.swap`). The module follows the first stage, taking a
run off a list (`arranges_nextRun`): a run that always steps down has no ties and can be turned
around.
-/

set_option autoImplicit false

namespace ValueSets.Sorting

open Fallible

section

variable {α κ : Type} [LinearOrder κ]

/-- Whether the keys of a list never descend. -/
def Ascends (key : α → κ) (xs : List α) : Prop := xs.Pairwise fun x y => key x ≤ key y

/-- Whether the items of each key are the same in two lists, in the same order. -/
def SameTies (key : α → κ) (xs ys : List α) : Prop :=
  ∀ k, ys.filter (fun y => decide (key y = k)) = xs.filter fun x => decide (key x = k)

/-- Whether a list is the stable ascending arrangement of another one. -/
structure Arranges (key : α → κ) (xs ys : List α) : Prop where
  ascends : Ascends key ys
  ties : SameTies key xs ys

variable {key : α → κ} {xs ys zs xs' ys' : List α}

/-! ## Ties -/

namespace SameTies

theorem refl (key : α → κ) (xs : List α) : SameTies key xs xs := fun _ => rfl

theorem trans (h : SameTies key xs ys) (h' : SameTies key ys zs) : SameTies key xs zs :=
  fun k => (h' k).trans (h k)

theorem append (h : SameTies key xs xs') (h' : SameTies key ys ys') :
    SameTies key (xs ++ ys) (xs' ++ ys') := by
  intro k
  rw [List.filter_append, List.filter_append, h k, h' k]

theorem append_left (zs : List α) (h : SameTies key xs ys) :
    SameTies key (zs ++ xs) (zs ++ ys) := (refl key zs).append h

theorem append_right (zs : List α) (h : SameTies key xs ys) :
    SameTies key (xs ++ zs) (ys ++ zs) := h.append (refl key zs)

/-- Stretches that share no key can change places. -/
theorem swap (h : ∀ x ∈ xs, ∀ y ∈ ys, key y ≠ key x) : SameTies key (xs ++ ys) (ys ++ xs) := by
  intro k
  rw [List.filter_append, List.filter_append]
  by_cases hk : ∃ x ∈ xs, key x = k
  · obtain ⟨x, hx, rfl⟩ := hk
    have hys : ys.filter (fun y => decide (key y = key x)) = [] :=
      List.filter_eq_nil_iff.2 fun y hy => by simpa using h x hx y hy
    rw [hys, List.append_nil, List.nil_append]
  · have hxs : xs.filter (fun x => decide (key x = k)) = [] :=
      List.filter_eq_nil_iff.2 fun x hx => by simpa using fun hkey => hk ⟨x, hx, hkey⟩
    rw [hxs, List.append_nil, List.nil_append]

/-- A list without ties can be turned around. -/
theorem reverse (h : xs.Pairwise fun x y => key y ≠ key x) : SameTies key xs xs.reverse := by
  induction xs with
  | nil => exact refl key []
  | cons x xs ih =>
    obtain ⟨hx, hxs⟩ := List.pairwise_cons.1 h
    rw [List.reverse_cons]
    have hswap : SameTies key ([x] ++ xs) (xs ++ [x]) := swap (by simpa using hx)
    exact hswap.trans ((ih hxs).append_right [x])

theorem mem_iff (h : SameTies key xs ys) (x : α) : x ∈ ys ↔ x ∈ xs := by
  have hfilter := congrArg (x ∈ ·) (h (key x))
  simpa using hfilter

end SameTies

/-! ## Arrangements -/

namespace Ascends

theorem append (hxs : Ascends key xs) (hys : Ascends key ys)
    (h : ∀ x ∈ xs, ∀ y ∈ ys, key x ≤ key y) : Ascends key (xs ++ ys) :=
  List.pairwise_append.2 ⟨hxs, hys, h⟩

theorem left (h : Ascends key (xs ++ ys)) : Ascends key xs := (List.pairwise_append.1 h).1

theorem right (h : Ascends key (xs ++ ys)) : Ascends key ys := (List.pairwise_append.1 h).2.1

theorem le (h : Ascends key (xs ++ ys)) : ∀ x ∈ xs, ∀ y ∈ ys, key x ≤ key y :=
  (List.pairwise_append.1 h).2.2

theorem head_le {x : α} (h : Ascends key (x :: xs)) : ∀ y ∈ x :: xs, key x ≤ key y := by
  intro y hy
  rcases List.mem_cons.1 hy with rfl | hy
  · exact le_rfl
  · exact (List.pairwise_cons.1 h).1 y hy

theorem le_last {x : α} (h : Ascends key xs) (hx : xs.getLast? = some x) :
    ∀ y ∈ xs, key y ≤ key x := by
  obtain ⟨front, rfl⟩ := List.getLast?_eq_some_iff.1 hx
  intro y hy
  rcases List.mem_append.1 hy with hy | hy
  · exact h.le y hy x (by simp)
  · rw [List.mem_singleton.1 hy]

theorem singleton (key : α → κ) (x : α) : Ascends key [x] := List.pairwise_singleton _ x

/-- The items that are not above a key stand in front. -/
theorem parts_atMost (h : Ascends key xs) (k : κ) : Parts (fun x => !decide (k < key x)) xs := by
  refine h.imp fun {x y} hle hy => ?_
  simp only [Bool.not_eq_true', decide_eq_false_iff_not, not_lt] at hy ⊢
  exact hle.trans hy

/-- The items below a key stand in front. -/
theorem parts_less (h : Ascends key xs) (k : κ) : Parts (fun x => decide (key x < k)) xs := by
  refine h.imp fun {x y} hle hy => ?_
  simp only [decide_eq_true_eq] at hy ⊢
  exact hle.trans_lt hy

variable (ε : Type) {middle : Nat → Nat} (hmiddle : ∀ n, 0 < n → middle n < n)
include hmiddle

theorem exists_bisect (h : Ascends key xs) (k : κ) :
    ∃ front back, xs = front ++ back ∧ (∀ x ∈ front, key x ≤ k) ∧ (∀ x ∈ back, k < key x) ∧
      bisect middle (fun x => .ok (!decide (k < key x))) xs
        = (.ok front.length : Except ε Nat) := by
  obtain ⟨front, back, hsplit, hfront, hback, hcount⟩ :=
    Sorting.exists_bisect hmiddle (h.parts_atMost k)
  exact ⟨front, back, hsplit, by simpa using hfront, by simpa using hback, hcount⟩

theorem exists_leap_atMost (h : Ascends key xs) (k : κ) :
    ∃ front back, xs = front ++ back ∧ (∀ x ∈ front, key x ≤ k) ∧ (∀ x ∈ back, k < key x) ∧
      leap middle (fun x => .ok (!decide (k < key x))) xs
        = (.ok front.length : Except ε Nat) := by
  obtain ⟨front, back, hsplit, hfront, hback, hcount⟩ :=
    Sorting.exists_leap hmiddle (h.parts_atMost k)
  exact ⟨front, back, hsplit, by simpa using hfront, by simpa using hback, hcount⟩

theorem exists_leap_less (h : Ascends key xs) (k : κ) :
    ∃ front back, xs = front ++ back ∧ (∀ x ∈ front, key x < k) ∧ (∀ x ∈ back, k ≤ key x) ∧
      leap middle (fun x => .ok (decide (key x < k))) xs
        = (.ok front.length : Except ε Nat) := by
  obtain ⟨front, back, hsplit, hfront, hback, hcount⟩ :=
    Sorting.exists_leap hmiddle (h.parts_less k)
  exact ⟨front, back, hsplit, by simpa using hfront, by simpa using hback, hcount⟩

end Ascends

namespace Arranges

theorem refl (h : Ascends key xs) : Arranges key xs xs := ⟨h, SameTies.refl key xs⟩

theorem mem_iff (h : Arranges key xs ys) (x : α) : x ∈ ys ↔ x ∈ xs := h.ties.mem_iff x

theorem of_ties (h : SameTies key xs ys) (h' : Arranges key ys zs) : Arranges key xs zs :=
  ⟨h'.ascends, h.trans h'.ties⟩

/-- What is below everything else can be put in front of an arrangement. -/
theorem append_left (h : Arranges key xs ys) (hzs : Ascends key zs)
    (hle : ∀ z ∈ zs, ∀ x ∈ xs, key z ≤ key x) : Arranges key (zs ++ xs) (zs ++ ys) :=
  ⟨hzs.append h.ascends fun z hz y hy => hle z hz y ((h.mem_iff y).1 hy), h.ties.append_left zs⟩

/-- What is above everything else can be put behind an arrangement. -/
theorem append_right (h : Arranges key xs ys) (hzs : Ascends key zs)
    (hle : ∀ x ∈ xs, ∀ z ∈ zs, key x ≤ key z) : Arranges key (xs ++ zs) (ys ++ zs) :=
  ⟨h.ascends.append hzs fun y hy z hz => hle y ((h.mem_iff y).1 hy) z hz, h.ties.append_right zs⟩

/-- An arrangement by the reversed order, turned around. -/
theorem reverse (h : Arranges (OrderDual.toDual ∘ key) xs ys) :
    Arranges key xs.reverse ys.reverse := by
  refine ⟨List.pairwise_reverse.2 h.ascends, fun k => ?_⟩
  have hties := h.ties (OrderDual.toDual k)
  simp only [Function.comp, OrderDual.toDual_inj] at hties
  rw [List.filter_reverse, List.filter_reverse]
  exact congrArg List.reverse hties

end Arranges

end

section

variable {ε α κ : Type} [LinearOrder κ] {key : α → κ}

/-- The comparison of items by their keys. -/
def byKey (ε : Type) (key : α → κ) (x y : α) : Except ε Bool := .ok (decide (key x < key y))

/-! ## Runs -/

/-- Placing an item puts it behind those of its key. -/
theorem arranges_place {x : α} {xs ys : List α} (h : place (byKey ε key) x xs = .ok ys)
    (hxs : Ascends key xs) : Arranges key (xs ++ [x]) ys := by
  obtain ⟨front, back, rfl, hfront, hback, hcount⟩ :=
    hxs.exists_bisect ε frontMiddle_lt (key x)
  unfold place at h
  obtain ⟨n, hn, h⟩ := bind_eq_ok.1 h
  cases hcount.symm.trans hn
  cases h
  rw [List.take_left, List.drop_left, List.append_assoc]
  refine ⟨hxs.left.append (Ascends.append (Ascends.singleton key x) hxs.right ?_) ?_, ?_⟩
  · intro y hy z hz
    rw [List.mem_singleton.1 hy]
    exact (hback z hz).le
  · intro y hy z hz
    rcases List.mem_cons.1 hz with rfl | hz
    · exact hfront y hy
    · exact hxs.le y hy z hz
  · refine (SameTies.swap fun y hy z hz => ?_).append_left front
    rw [List.mem_singleton.1 hz]
    exact (hback y hy).ne

theorem arranges_placeAll {xs sorted ys : List α}
    (h : xs.foldlM (fun sorted x => place (byKey ε key) x sorted) sorted = .ok ys)
    (hsorted : Ascends key sorted) : Arranges key (sorted ++ xs) ys := by
  induction xs generalizing sorted with
  | nil =>
    cases h
    rw [List.append_nil]
    exact Arranges.refl hsorted
  | cons x xs ih =>
    rw [List.foldlM_cons] at h
    obtain ⟨placed, hplaced, h⟩ := bind_eq_ok.1 h
    have hone := arranges_place hplaced hsorted
    have hmore := ih h hone.ascends
    rw [List.append_cons]
    exact hmore.of_ties (hone.ties.append_right xs)

/-- Neighbours of which each stands in a transitive relation to the next all do. -/
theorem pairwise_of_run {step : α → α → Except ε Bool} {r : α → α → Prop}
    (hstep : ∀ x y, step x y = .ok true → r x y) (htrans : ∀ x y z, r x y → r y z → r x z)
    {last : α} {xs front rest : List α} (h : run step last xs = .ok (front, rest)) :
    (last :: front).Pairwise r := by
  induction xs generalizing last front rest with
  | nil =>
    cases h
    exact List.pairwise_singleton r last
  | cons x xs ih =>
    unfold run at h
    obtain ⟨b, hb, h⟩ := bind_eq_ok.1 h
    cases b with
    | false =>
      cases h
      exact List.pairwise_singleton r last
    | true =>
      obtain ⟨⟨more, back⟩, hmore, h⟩ := bind_eq_ok.1 h
      cases h
      have hlast := hstep last x hb
      have hfront := ih hmore
      refine List.pairwise_cons.2 ⟨fun y hy => ?_, hfront⟩
      rcases List.mem_cons.1 hy with rfl | hy
      · exact hlast
      · exact htrans _ _ _ hlast ((List.pairwise_cons.1 hfront).1 y hy)

/-- The leading run is arranged; a run that always steps down has no ties. -/
theorem arranges_leadingRun {xs front rest : List α}
    (h : leadingRun (byKey ε key) xs = .ok (front, rest)) :
    ∃ taken, xs = taken ++ rest ∧ Arranges key taken front := by
  unfold leadingRun at h
  split at h
  · cases h
    exact ⟨[], rfl, Arranges.refl List.Pairwise.nil⟩
  · rename_i x
    cases h
    exact ⟨[x], rfl, Arranges.refl (Ascends.singleton key x)⟩
  · rename_i x y tail
    obtain ⟨b, hb, h⟩ := bind_eq_ok.1 h
    have hb := (Except.ok.inj hb).symm
    cases b with
    | true =>
      obtain ⟨⟨more, back⟩, hmore, h⟩ := bind_eq_ok.1 h
      cases h
      -- each step goes strictly down, so no two keys of the run are the same
      have hdown : (x :: y :: more).Pairwise fun u v => key v < key u := by
        have hmore := pairwise_of_run (r := fun u v => key v < key u)
          (fun u v huv => of_decide_eq_true (Except.ok.inj huv))
          (fun u v w huv hvw => hvw.trans huv) hmore
        have hyx : key y < key x := of_decide_eq_true hb.symm
        refine List.pairwise_cons.2 ⟨fun z hz => ?_, hmore⟩
        rcases List.mem_cons.1 hz with rfl | hz
        · exact hyx
        · exact ((List.pairwise_cons.1 hmore).1 z hz).trans hyx
      refine ⟨x :: y :: more, by rw [eq_of_run hmore]; rfl, ?_, ?_⟩
      · exact List.pairwise_reverse.2 (hdown.imp fun {u v} huv => huv.le)
      · exact SameTies.reverse (hdown.imp fun {u v} huv => huv.ne)
    | false =>
      obtain ⟨⟨more, back⟩, hmore, h⟩ := bind_eq_ok.1 h
      cases h
      have hup : Ascends key (x :: y :: more) := by
        have hmore := pairwise_of_run (r := fun u v => key u ≤ key v) (fun u v huv => by
          simpa [byKey, Except.map] using huv) (fun u v w => le_trans) hmore
        have hxy : key x ≤ key y := not_lt.1 (of_decide_eq_false hb.symm)
        refine List.pairwise_cons.2 ⟨fun z hz => ?_, hmore⟩
        exact hxy.trans (Ascends.head_le hmore z hz)
      exact ⟨x :: y :: more, by rw [eq_of_run hmore]; rfl, Arranges.refl hup⟩

theorem arranges_nextRun {least : Nat} {xs next rest : List α}
    (h : nextRun (byKey ε key) least xs = .ok (next, rest)) :
    ∃ taken, xs = taken ++ rest ∧ Arranges key taken next := by
  unfold nextRun at h
  obtain ⟨⟨front, back⟩, hfront, h⟩ := bind_eq_ok.1 h
  obtain ⟨filled, hfilled, h⟩ := bind_eq_ok.1 h
  cases h
  obtain ⟨taken, rfl, htaken⟩ := arranges_leadingRun hfront
  have hall := arranges_placeAll hfilled htaken.ascends
  refine ⟨taken ++ back.take (least - front.length), ?_, hall.of_ties (htaken.ties.append_right _)⟩
  rw [List.append_assoc, List.take_append_drop]

end

end ValueSets.Sorting
