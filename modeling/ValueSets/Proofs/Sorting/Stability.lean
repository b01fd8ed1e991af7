import ValueSets.Proofs.Sorting.Merging

/-!
# Sorting is stable

Where the comparison of the items of a list tells which of two keys is the smaller one, the keys
being linearly ordered, a sort succeeds and its result is the stable arrangement of the list.
`Sorting.sorted_arranges` says so. The runs that wait to be merged ascend, and put one after the
other in the order in which they stand in the list they have its ties, whichever of them are merged
first.
-/

set_option autoImplicit false

namespace ValueSets.Sorting

open Fallible

variable {ε α κ : Type} [LinearOrder κ] {key : α → κ}

/-- The items of the runs that wait, in the order in which they stand in the list. -/
def earlier (waiting : List (Pending α)) : List α := (waiting.reverse.map (·.items)).flatten

theorem earlier_cons (p : Pending α) (waiting : List (Pending α)) :
    earlier (p :: waiting) = earlier waiting ++ p.items := by
  simp [earlier]

theorem arranges_mergeAbove {power patience last : Nat} {waiting left : List (Pending α)}
    {run merged : List α} (hwaiting : ∀ p ∈ waiting, Ascends key p.items) (hrun : Ascends key run)
    (h : mergeAbove (byKey ε key) power patience waiting run = .ok (merged, left, last)) :
    Ascends key merged ∧ (∀ p ∈ left, Ascends key p.items) ∧
      SameTies key (earlier waiting ++ run) (earlier left ++ merged) := by
  induction waiting generalizing patience run with
  | nil =>
    unfold mergeAbove at h
    cases h
    exact ⟨hrun, hwaiting, SameTies.refl key _⟩
  | cons p waiting ih =>
    unfold mergeAbove at h
    split at h
    · obtain ⟨⟨joined, more⟩, hjoined, h⟩ := bind_eq_ok.1 h
      -- the top of those that wait stands right before the run, so merging both keeps `earlier`
      have hmerge := arranges_merge (hwaiting p (by simp)) hrun hjoined
      obtain ⟨hmerged, hleft, hties⟩ :=
        ih (fun q hq => hwaiting q (by simp [hq])) hmerge.ascends h
      refine ⟨hmerged, hleft, ?_⟩
      rw [earlier_cons, List.append_assoc]
      exact (hmerge.ties.append_left _).trans hties
    · cases h
      exact ⟨hrun, hwaiting, SameTies.refl key _⟩

theorem arranges_mergeAll {patience : Nat} {waiting : List (List α)} {run merged : List α}
    (hwaiting : ∀ xs ∈ waiting, Ascends key xs) (hrun : Ascends key run)
    (h : mergeAll (byKey ε key) patience waiting run = .ok merged) :
    Arranges key (waiting.reverse.flatten ++ run) merged := by
  induction patience, waiting, run using mergeAll.induct generalizing merged with
  | case1 patience run =>
    unfold mergeAll at h
    cases h
    exact Arranges.refl hrun
  | case2 patience run second =>
    unfold mergeAll at h
    obtain ⟨⟨joined, more⟩, hjoined, h⟩ := bind_eq_ok.1 h
    cases h
    simpa using arranges_merge (hwaiting second (by simp)) hrun hjoined
  | case3 patience run second third waiting hlt ih =>
    unfold mergeAll at h
    rw [if_pos hlt] at h
    obtain ⟨⟨joined, more⟩, hjoined, h⟩ := bind_eq_ok.1 h
    have hmerge := arranges_merge (hwaiting third (by simp)) (hwaiting second (by simp)) hjoined
    have hall := ih joined more (fun xs hxs => by
      rcases List.mem_cons.1 hxs with rfl | hxs
      · exact hmerge.ascends
      · exact hwaiting xs (by simp [hxs])) hrun h
    refine hall.of_ties ?_
    have hties := (hmerge.ties.append_left waiting.reverse.flatten).append_right run
    simpa using hties
  | case4 patience run second third waiting hlt ih =>
    unfold mergeAll at h
    rw [if_neg hlt] at h
    obtain ⟨⟨joined, more⟩, hjoined, h⟩ := bind_eq_ok.1 h
    have hmerge := arranges_merge (hwaiting second (by simp)) hrun hjoined
    have hall := ih joined more (fun xs hxs => hwaiting xs (List.mem_cons_of_mem _ hxs))
      hmerge.ascends h
    refine hall.of_ties ?_
    have hties := hmerge.ties.append_left (third :: waiting).reverse.flatten
    simpa using hties

theorem arranges_sortRest {n start patience : Nat} {waiting : List (Pending α)}
    {last rest ys : List α} (hwaiting : ∀ p ∈ waiting, Ascends key p.items)
    (hlast : Ascends key last)
    (h : sortRest (byKey ε key) n start patience waiting last rest = .ok ys) :
    Arranges key (earlier waiting ++ last ++ rest) ys := by
  induction start, patience, waiting, last, rest using sortRest.induct (byKey ε key) n with
  | case1 start patience waiting last =>
    unfold sortRest at h
    have hall := arranges_mergeAll (fun xs hxs => by
      obtain ⟨p, hp, rfl⟩ := List.mem_map.1 hxs
      exact hwaiting p hp) hlast h
    rwa [← List.map_reverse, ← List.append_nil (_ ++ _)] at hall
  | case2 start patience waiting last x xs fault hnext =>
    rw [sortRest_cons] at h
    obtain ⟨q, hq, h⟩ := bind_eq_ok.1 h
    cases hnext.symm.trans hq
  | case3 start patience waiting last x xs next rest hnext boundary ih =>
    rw [sortRest_cons] at h
    obtain ⟨q, hq, h⟩ := bind_eq_ok.1 h
    cases hnext.symm.trans hq
    obtain ⟨⟨merged, left, more⟩, hmerged, h⟩ := bind_eq_ok.1 h
    obtain ⟨hmerged, hleft, hties⟩ := arranges_mergeAbove hwaiting hlast hmerged
    obtain ⟨taken, htaken, hnext⟩ := arranges_nextRun hnext
    have hall := ih merged left more (fun p hp => by
      rcases List.mem_cons.1 hp with rfl | hp
      · exact hmerged
      · exact hleft p hp) hnext.ascends h
    refine hall.of_ties ?_
    rw [htaken, earlier_cons, ← List.append_assoc]
    exact (hties.append hnext.ties).append_right rest

theorem arranges_sorted {xs ys : List α} (h : sorted (byKey ε key) xs = .ok ys) :
    Arranges key xs ys := by
  obtain ⟨⟨first, rest⟩, hfirst, h⟩ := bind_eq_ok.1 h
  obtain ⟨taken, rfl, htaken⟩ := arranges_nextRun hfirst
  have hall := arranges_sortRest (by simp) htaken.ascends h
  exact hall.of_ties (htaken.ties.append_right rest)

/-- A sort succeeds if none of the comparisons among the items fails. -/
theorem exists_sorted {before : α → α → Except ε Bool} {xs : List α}
    (h : ∀ x ∈ xs, ∀ y ∈ xs, ∃ b, before x y = .ok b) : ∃ ys, sorted before xs = .ok ys := by
  have hagree : AgreeOn (fun _ => False) (· ∈ xs) before before := fun x y hx hy => by
    obtain ⟨b, hb⟩ := h x hx y hy
    rw [hb]
    exact agree_ok b
  obtain ⟨-, hfails⟩ := agree_sorted hagree fun x hx => hx
  cases hsorted : sorted before xs with
  | error fault => exact (hfails fault hsorted).elim
  | ok ys => exact ⟨ys, rfl⟩

/-- A comparison that goes by a linearly ordered key sorts a list into its stable ascending
arrangement. -/
theorem sorted_arranges {before : α → α → Except ε Bool} {xs : List α}
    (h : ∀ x ∈ xs, ∀ y ∈ xs, before x y = .ok (decide (key x < key y))) :
    ∃ ys, sorted before xs = .ok ys ∧ Arranges key xs ys := by
  obtain ⟨ys, hys⟩ := exists_sorted fun x hx y hy => ⟨_, h x hx y hy⟩
  have hagree : AgreeOn (fun _ => False) (· ∈ xs) before (byKey ε key) := fun x y hx hy => by
    rw [h x hx y hy]
    exact agree_ok _
  obtain ⟨heq, -⟩ := agree_sorted hagree fun x hx => hx
  exact ⟨ys, hys, arranges_sorted (heq ▸ hys)⟩

end ValueSets.Sorting
