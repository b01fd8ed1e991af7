import ValueSets.Proofs.Fallible
import ValueSets.Sorting

/-!
# Sorting rearranges

Whatever a comparison answers, a sort that succeeds neither loses an item nor makes one up. Each
stage is a rearrangement by itself: taking a run off a list, placing the items that fill it up, each
step of a merge, and the merges of the runs that wait. `Sorting.perm_of_sorted` puts the stages
together. No stage needs the order to be one.
-/

set_option autoImplicit false

namespace ValueSets.Sorting

open Fallible List

variable {ε α : Type} {before : α → α → Except ε Bool}

/-! ## Runs -/

/-- Placing an item adds it somewhere. -/
theorem perm_of_place {x : α} {xs ys : List α} (h : place before x xs = .ok ys) :
    ys.Perm (x :: xs) := by
  unfold place at h
  obtain ⟨n, -, h⟩ := bind_eq_ok.1 h
  cases h
  have hsplit : (xs.take n ++ x :: xs.drop n).Perm (x :: (xs.take n ++ xs.drop n)) :=
    List.perm_middle
  rw [List.take_append_drop] at hsplit
  exact hsplit

theorem perm_of_placeAll {xs sorted ys : List α}
    (h : xs.foldlM (fun sorted x => place before x sorted) sorted = .ok ys) :
    ys.Perm (sorted ++ xs) := by
  induction xs generalizing sorted with
  | nil =>
    cases h
    rw [List.append_nil]
  | cons x xs ih =>
    rw [List.foldlM_cons] at h
    obtain ⟨placed, hplaced, h⟩ := bind_eq_ok.1 h
    calc ys ~ placed ++ xs := ih h
      _ ~ x :: sorted ++ xs := (perm_of_place hplaced).append_right xs
      _ ~ sorted ++ x :: xs := perm_middle.symm

theorem eq_of_run {step : α → α → Except ε Bool} {last : α} {xs front rest : List α}
    (h : run step last xs = .ok (front, rest)) : xs = front ++ rest := by
  induction xs generalizing last front rest with
  | nil =>
    cases h
    rfl
  | cons x xs ih =>
    unfold run at h
    obtain ⟨b, -, h⟩ := bind_eq_ok.1 h
    split at h
    · obtain ⟨⟨more, back⟩, hmore, h⟩ := bind_eq_ok.1 h
      cases h
      rw [ih hmore]
      rfl
    · cases h
      rfl

theorem perm_of_leadingRun {xs front rest : List α}
    (h : leadingRun before xs = .ok (front, rest)) : (front ++ rest).Perm xs := by
  unfold leadingRun at h
  split at h
  · cases h
    rfl
  · cases h
    rfl
  · rename_i x y tail
    obtain ⟨b, -, h⟩ := bind_eq_ok.1 h
    split at h
    all_goals
      obtain ⟨⟨more, back⟩, hmore, h⟩ := bind_eq_ok.1 h
      cases h
      rw [eq_of_run hmore]
    · exact (List.reverse_perm _).append_right rest
    · rfl

theorem perm_of_nextRun {least : Nat} {xs front rest : List α}
    (h : nextRun before least xs = .ok (front, rest)) : (front ++ rest).Perm xs := by
  unfold nextRun at h
  obtain ⟨⟨leading, back⟩, hleading, h⟩ := bind_eq_ok.1 h
  obtain ⟨filled, hfilled, h⟩ := bind_eq_ok.1 h
  cases h
  have hplace := (perm_of_placeAll hfilled).append_right (back.drop (least - leading.length))
  rw [List.append_assoc, List.take_append_drop] at hplace
  exact hplace.trans (perm_of_leadingRun hleading)

/-! ## Merging -/

namespace Direction

variable {d : Direction ε α} {x y : α} {xs ys : List α} {p : Progress α}

/-- What a step of a merge has moved, and what it left. -/
def all (p : Progress α) : List α := p.moved ++ (p.held ++ p.other)

theorem perm_of_single {patience heldWins otherWins : Nat}
    (h : d.single patience heldWins otherWins x xs y ys = .ok p) :
    (all p).Perm (x :: xs ++ y :: ys) := by
  unfold single at h
  obtain ⟨b, -, h⟩ := bind_eq_ok.1 h
  split at h
  · cases h
    show y :: (x :: xs ++ ys) ~ x :: xs ++ y :: ys
    exact perm_middle.symm
  · cases h
    rfl

theorem perm_of_leapHeld {first? : Option Nat} {held : List α}
    (h : d.leapHeld first? held y ys = .ok p) : (all p).Perm (held ++ y :: ys) := by
  unfold leapHeld at h
  obtain ⟨n, -, h⟩ := bind_eq_ok.1 h
  have hsplit := List.take_append_drop n held
  simp only at h
  split at h
  · cases h
    unfold all
    rw [← List.append_assoc, hsplit]
  · cases h
    unfold all
    calc held.take n ++ [y] ++ (held.drop n ++ ys)
        = held.take n ++ y :: (held.drop n ++ ys) := by simp
      _ ~ held.take n ++ (held.drop n ++ y :: ys) := perm_middle.symm.append_left _
      _ = held ++ y :: ys := by rw [← List.append_assoc, hsplit]

theorem perm_of_leapOther {first? : Option Nat} {other : List α}
    (h : d.leapOther first? x xs other = .ok p) : (all p).Perm (x :: xs ++ other) := by
  unfold leapOther at h
  obtain ⟨n, -, h⟩ := bind_eq_ok.1 h
  have hsplit := List.take_append_drop n other
  simp only at h
  split at h
  · rename_i hnone
    cases h
    unfold all
    rw [List.isEmpty_iff.1 hnone, List.append_nil] at hsplit
    rw [hsplit, List.append_nil]
    exact perm_append_comm
  · cases h
    unfold all
    calc other.take n ++ [x] ++ (xs ++ other.drop n)
        = other.take n ++ x :: xs ++ other.drop n := by simp
      _ ~ x :: xs ++ other.take n ++ other.drop n := perm_append_comm.append_right _
      _ = x :: xs ++ other := by rw [List.append_assoc, hsplit]

/-- A step of a merge moves items and makes up none. -/
theorem perm_of_step {pace : Pace} {patience : Nat}
    (h : d.step pace patience x xs y ys = .ok p) : (all p).Perm (x :: xs ++ y :: ys) := by
  cases pace with
  | single | giveUp => exact perm_of_single h
  | leap side | again side | leapBack side =>
    cases side with
    | held => exact perm_of_leapHeld h
    | other => exact perm_of_leapOther h

end Direction

/-- What a merge makes are the items of both sides. -/
theorem perm_of_mergeFrom {d : Direction ε α} {pace : Pace} {patience last : Nat}
    {held other merged : List α} (h : mergeFrom d pace patience held other = .ok (merged, last)) :
    merged.Perm (held ++ other) := by
  induction pace, patience, held, other using mergeFrom.induct d generalizing merged last with
  | case1 pace patience held =>
    unfold mergeFrom at h
    cases h
    rw [List.append_nil]
  | case2 pace patience y ys =>
    unfold mergeFrom at h
    cases h
    rfl
  | case3 pace patience x y ys =>
    unfold mergeFrom at h
    cases h
    exact perm_append_comm
  | case4 pace patience x x' xs y ys e hstep =>
    unfold mergeFrom at h
    split at h
    · cases h
    · rename_i p hp
      rw [hstep] at hp
      cases hp
  | case5 pace patience x x' xs y ys p hstep ih =>
    unfold mergeFrom at h
    split at h
    · cases h
    · rename_i q hq
      rw [hstep] at hq
      cases hq
      obtain ⟨⟨rest, more⟩, hrest, h⟩ := bind_eq_ok.1 h
      cases h
      calc p.moved ++ rest ~ Direction.all p := (ih hrest).append_left p.moved
        _ ~ x :: x' :: xs ++ y :: ys := Direction.perm_of_step hstep

theorem perm_of_mergeForward {patience last : Nat} {left right merged : List α}
    (h : mergeForward before patience left right = .ok (merged, last)) :
    merged ~ left ++ right := by
  obtain ⟨⟨rest, more⟩, hrest, h⟩ := bind_eq_ok.1 h
  cases h
  calc right.take 1 ++ rest
      ~ right.take 1 ++ (left ++ right.drop 1) := (perm_of_mergeFrom hrest).append_left _
    _ ~ left ++ right.drop 1 ++ right.take 1 := perm_append_comm
    _ ~ left ++ right := by
      rw [List.append_assoc]
      refine Perm.append_left left (perm_append_comm.trans ?_)
      rw [List.take_append_drop]

theorem perm_of_mergeBackward {patience last : Nat} {left right merged : List α}
    (h : mergeBackward before patience left right = .ok (merged, last)) :
    merged ~ left ++ right := by
  obtain ⟨⟨rest, more⟩, hrest, h⟩ := bind_eq_ok.1 h
  cases h
  have hside := perm_of_mergeFrom hrest
  calc (left.reverse.take 1 ++ rest).reverse
      ~ left.reverse.take 1 ++ rest := reverse_perm _
    _ ~ left.reverse.take 1 ++ (right.reverse ++ left.reverse.drop 1) := hside.append_left _
    _ ~ left.reverse.take 1 ++ (left.reverse.drop 1 ++ right.reverse) :=
      perm_append_comm.append_left _
    _ = left.reverse ++ right.reverse := by rw [← List.append_assoc, List.take_append_drop]
    _ ~ left ++ right := (reverse_perm left).append (reverse_perm right)

/-- What is in its place already stays there when the rest is merged. -/
theorem perm_of_inner {left right merged : List α} {settled count : Nat}
    (h : merged ~ left.drop settled ++ right.take count) :
    left.take settled ++ merged ++ right.drop count ~ left ++ right := by
  calc left.take settled ++ merged ++ right.drop count
      ~ left.take settled ++ (left.drop settled ++ right.take count) ++ right.drop count :=
        (h.append_left _).append_right _
    _ = left ++ right := by
      rw [← List.append_assoc, List.take_append_drop, List.append_assoc, List.take_append_drop]

/-- A merge makes a list of the items of both runs. -/
theorem perm_of_merge {patience last : Nat} {left right merged : List α}
    (h : merge before patience left right = .ok (merged, last)) : merged ~ left ++ right := by
  unfold merge at h
  split at h
  · cases h
    rw [List.append_nil]
  · obtain ⟨settled, -, h⟩ := bind_eq_ok.1 h
    simp only at h
    split at h
    · cases h
      rfl
    · obtain ⟨behind, -, h⟩ := bind_eq_ok.1 h
      split at h
      · cases h
        rfl
      · split at h
        · obtain ⟨⟨inner, more⟩, hinner, h⟩ := bind_eq_ok.1 h
          cases h
          exact perm_of_inner (perm_of_mergeForward hinner)
        · obtain ⟨⟨inner, more⟩, hinner, h⟩ := bind_eq_ok.1 h
          cases h
          exact perm_of_inner (perm_of_mergeBackward hinner)

/-! ## Runs that wait -/

theorem perm_of_mergeAbove {power patience last : Nat} {waiting left : List (Pending α)}
    {run merged : List α}
    (h : mergeAbove before power patience waiting run = .ok (merged, left, last)) :
    merged ++ (left.map (·.items)).flatten ~ run ++ (waiting.map (·.items)).flatten := by
  induction waiting generalizing patience run with
  | nil =>
    unfold mergeAbove at h
    cases h
    rfl
  | cons p waiting ih =>
    unfold mergeAbove at h
    split at h
    · obtain ⟨⟨joined, more⟩, hjoined, h⟩ := bind_eq_ok.1 h
      calc merged ++ (left.map (·.items)).flatten
          ~ joined ++ (waiting.map (·.items)).flatten := ih h
        _ ~ p.items ++ run ++ (waiting.map (·.items)).flatten :=
          (perm_of_merge hjoined).append_right _
        _ ~ run ++ p.items ++ (waiting.map (·.items)).flatten :=
          perm_append_comm.append_right _
        _ = run ++ ((p :: waiting).map (·.items)).flatten := by simp
    · cases h
      rfl

theorem perm_of_mergeAll {patience : Nat} {waiting : List (List α)} {run merged : List α}
    (h : mergeAll before patience waiting run = .ok merged) : merged ~ run ++ waiting.flatten := by
  induction patience, waiting, run using mergeAll.induct generalizing merged with
  | case1 patience run =>
    unfold mergeAll at h
    cases h
    simp
  | case2 patience run second =>
    unfold mergeAll at h
    obtain ⟨⟨joined, more⟩, hjoined, h⟩ := bind_eq_ok.1 h
    cases h
    calc merged ~ second ++ run := perm_of_merge hjoined
      _ ~ run ++ [second].flatten := by simpa using perm_append_comm
  | case3 patience run second third waiting hlt ih =>
    unfold mergeAll at h
    rw [if_pos hlt] at h
    obtain ⟨⟨joined, more⟩, hjoined, h⟩ := bind_eq_ok.1 h
    calc merged ~ run ++ (joined ++ waiting.flatten) := ih joined more h
      _ ~ run ++ (third ++ second ++ waiting.flatten) :=
        ((perm_of_merge hjoined).append_right _).append_left _
      _ ~ run ++ (second ++ third ++ waiting.flatten) :=
        (perm_append_comm.append_right _).append_left _
      _ = run ++ (second :: third :: waiting).flatten := by simp
  | case4 patience run second third waiting hlt ih =>
    unfold mergeAll at h
    rw [if_neg hlt] at h
    obtain ⟨⟨joined, more⟩, hjoined, h⟩ := bind_eq_ok.1 h
    calc merged ~ joined ++ (third ++ waiting.flatten) := ih joined more h
      _ ~ second ++ run ++ (third ++ waiting.flatten) := (perm_of_merge hjoined).append_right _
      _ ~ run ++ second ++ (third ++ waiting.flatten) := perm_append_comm.append_right _
      _ = run ++ (second :: third :: waiting).flatten := by simp

/-- What is sorted behind a run are its items, those of the runs that wait and the rest. -/
theorem perm_of_sortRest {n start patience : Nat} {waiting : List (Pending α)}
    {last rest ys : List α} (h : sortRest before n start patience waiting last rest = .ok ys) :
    ys ~ last ++ (waiting.map (·.items)).flatten ++ rest := by
  induction start, patience, waiting, last, rest using sortRest.induct before n with
  | case1 start patience waiting last =>
    unfold sortRest at h
    rw [List.append_nil]
    exact perm_of_mergeAll h
  | case2 start patience waiting last x xs e hnext =>
    unfold sortRest at h
    split at h
    · cases h
    · rename_i hrun
      rw [hnext] at hrun
      cases hrun
  | case3 start patience waiting last x xs next rest hnext boundary ih =>
    unfold sortRest at h
    split at h
    · cases h
    · rename_i hrun
      rw [hnext] at hrun
      cases hrun
      obtain ⟨⟨joined, left, more⟩, hjoined, h⟩ := bind_eq_ok.1 h
      calc ys ~ next ++ (joined ++ (left.map (·.items)).flatten) ++ rest := ih joined left more h
        _ ~ next ++ (last ++ (waiting.map (·.items)).flatten) ++ rest :=
          ((perm_of_mergeAbove hjoined).append_left _).append_right _
        _ ~ last ++ (waiting.map (·.items)).flatten ++ next ++ rest :=
          perm_append_comm.append_right _
        _ ~ last ++ (waiting.map (·.items)).flatten ++ (x :: xs) := by
          rw [List.append_assoc]
          exact (perm_of_nextRun hnext).append_left _

theorem perm_of_sorted {xs ys : List α} (h : sorted before xs = .ok ys) : ys ~ xs := by
  obtain ⟨⟨first, rest⟩, hfirst, h⟩ := bind_eq_ok.1 h
  have hrest := perm_of_sortRest h
  simp only [List.map_nil, List.flatten_nil, List.append_nil] at hrest
  exact hrest.trans (perm_of_nextRun hfirst)

/-- A list that is sorted by a key has its items. -/
theorem perm_of_sortedByKey {κ : Type} {lessThan : κ → κ → Except ε Bool} {xs : List (κ × α)}
    {ys : List α} (h : sortedByKey lessThan xs = .ok ys) : ys ~ xs.map (·.2) := by
  obtain ⟨zs, hzs, h⟩ := bind_eq_ok.1 h
  cases h
  exact (perm_of_sorted hzs).map _

end ValueSets.Sorting
