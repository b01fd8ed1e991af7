import ValueSets.Proofs.Sorting.Permutation

/-!
# Sorting asks about its items only

Two comparisons that agree on the items of a list sort it alike, and a sort fails only where one of
its comparisons does. Each stage of a sort is taken on its own, along its text.
`Sorting.agree_sorted` puts the stages together.
-/

set_option autoImplicit false

namespace ValueSets

namespace Sorting

open Fallible

variable {ε α : Type} {allowed : ε → Prop} {test test' : α → Except ε Bool} {middle : Nat → Nat}

/-! ## Searching -/

theorem bisect_cons (test : α → Except ε Bool) {zs back : List α} {z : α}
    (h : zs.drop (middle zs.length) = z :: back) :
    bisect middle test zs = (test z >>= fun passes =>
      if passes then bisect middle test back >>= fun more => .ok (middle zs.length + 1 + more)
      else bisect middle test (zs.take (middle zs.length))) := by
  rw [bisect]
  split
  · rename_i hnil
    cases h.symm.trans hnil
  · rename_i hcons
    cases h.symm.trans hcons
    rfl

theorem stride_cons (test : α → Except ε Bool) {zs back : List α} {z : α} {skip : Nat}
    (h : zs.drop skip = z :: back) :
    stride middle test skip zs = (test z >>= fun passes =>
      if passes then stride middle test (2 * skip + 1) back >>= fun more => .ok (skip + 1 + more)
      else bisect middle test (zs.take skip)) := by
  rw [stride]
  split
  · rename_i hnil
    cases h.symm.trans hnil
  · rename_i hcons
    cases h.symm.trans hcons
    rfl

theorem agree_bisect {zs : List α} (h : ∀ z ∈ zs, Agree allowed (test z) (test' z)) :
    Agree allowed (bisect middle test zs) (bisect middle test' zs) := by
  fun_induction bisect middle test zs with
  | case1 zs hdrop =>
    rw [bisect]
    split
    · exact agree_ok 0
    · simp_all
  | case2 zs z back hdrop ihback ihfront =>
    have hmem : ∀ y ∈ z :: back, y ∈ zs := fun y hy => List.mem_of_mem_drop (hdrop ▸ hy)
    rw [bisect_cons test' hdrop]
    refine (h z (hmem z (by simp))).bind fun b _ => ?_
    cases b with
    | true => exact (ihback fun y hy => h y (hmem y (by simp [hy]))).bind fun more _ => agree_ok _
    | false => exact ihfront fun y hy => h y (List.mem_of_mem_take hy)

theorem agree_stride {skip : Nat} {zs : List α}
    (h : ∀ z ∈ zs, Agree allowed (test z) (test' z)) :
    Agree allowed (stride middle test skip zs) (stride middle test' skip zs) := by
  fun_induction stride middle test skip zs with
  | case1 skip zs hdrop =>
    rw [stride]
    split
    · exact agree_bisect h
    · simp_all
  | case2 skip zs z back hdrop ih =>
    have hmem : ∀ y ∈ z :: back, y ∈ zs := fun y hy => List.mem_of_mem_drop (hdrop ▸ hy)
    rw [stride_cons test' hdrop]
    refine (h z (hmem z (by simp))).bind fun b _ => ?_
    cases b with
    | true => exact (ih fun y hy => h y (hmem y (by simp [hy]))).bind fun more _ => agree_ok _
    | false => exact agree_bisect fun y hy => h y (List.mem_of_mem_take hy)

theorem agree_leap {zs : List α} (h : ∀ z ∈ zs, Agree allowed (test z) (test' z)) :
    Agree allowed (leap middle test zs) (leap middle test' zs) := by
  cases zs with
  | nil => exact agree_ok 0
  | cons z zs =>
    unfold leap
    refine (h z (by simp)).bind fun b _ => ?_
    cases b with
    | true => exact (agree_stride fun y hy => h y (by simp [hy])).bind fun more _ => agree_ok _
    | false => exact agree_ok 0

/-! ## Runs -/

/-- Whether two comparisons agree on the items of which a condition holds. -/
def AgreeOn (allowed : ε → Prop) (p : α → Prop) (before before' : α → α → Except ε Bool) : Prop :=
  ∀ x y, p x → p y → Agree allowed (before x y) (before' x y)

variable {p : α → Prop} {before before' : α → α → Except ε Bool}

theorem agree_place (h : AgreeOn allowed p before before') {x : α} {xs : List α} (hx : p x)
    (hxs : ∀ y ∈ xs, p y) : Agree allowed (place before x xs) (place before' x xs) := by
  unfold place
  refine (agree_bisect fun y hy => ?_).bind fun n _ => agree_ok _
  exact (h x y hx (hxs y hy)).map not

theorem agree_placeAll (h : AgreeOn allowed p before before') {xs sorted : List α}
    (hxs : ∀ x ∈ xs, p x) (hsorted : ∀ y ∈ sorted, p y) :
    Agree allowed (xs.foldlM (fun sorted x => place before x sorted) sorted)
      (xs.foldlM (fun sorted x => place before' x sorted) sorted) := by
  induction xs generalizing sorted with
  | nil => exact agree_ok sorted
  | cons x xs ih =>
    rw [List.foldlM_cons, List.foldlM_cons]
    refine (agree_place h (hxs x (by simp)) hsorted).bind fun placed hplaced => ?_
    refine ih (fun y hy => hxs y (by simp [hy])) fun y hy => ?_
    rcases List.mem_cons.1 ((perm_of_place hplaced).subset hy) with rfl | hy
    · exact hxs y (by simp)
    · exact hsorted y hy

theorem agree_run {step step' : α → α → Except ε Bool} (h : AgreeOn allowed p step step')
    {last : α} {xs : List α} (hlast : p last) (hxs : ∀ x ∈ xs, p x) :
    Agree allowed (run step last xs) (run step' last xs) := by
  induction xs generalizing last with
  | nil => exact agree_ok _
  | cons x xs ih =>
    have hx := hxs x (by simp)
    unfold run
    refine (h last x hlast hx).bind fun b _ => ?_
    cases b with
    | true => exact (ih hx fun y hy => hxs y (by simp [hy])).bind fun _ _ => agree_ok _
    | false => exact agree_ok _

theorem agree_leadingRun (h : AgreeOn allowed p before before') {xs : List α}
    (hxs : ∀ x ∈ xs, p x) : Agree allowed (leadingRun before xs) (leadingRun before' xs) := by
  match xs with
  | [] => exact agree_ok _
  | [x] => exact agree_ok _
  | x :: y :: rest =>
    have hy := hxs y (by simp)
    have hrest : ∀ z ∈ rest, p z := fun z hz => hxs z (by simp [hz])
    unfold leadingRun
    refine (h y x hy (hxs x (by simp))).bind fun b _ => ?_
    cases b with
    | true =>
      refine (agree_run (fun u v hu hv => ?_) hy hrest).bind fun _ _ => agree_ok _
      exact h v u hv hu
    | false =>
      refine (agree_run (fun u v hu hv => ?_) hy hrest).bind fun _ _ => agree_ok _
      exact (h v u hv hu).map not

theorem agree_nextRun (h : AgreeOn allowed p before before') {least : Nat} {xs : List α}
    (hxs : ∀ x ∈ xs, p x) :
    Agree allowed (nextRun before least xs) (nextRun before' least xs) := by
  unfold nextRun
  refine (agree_leadingRun h hxs).bind fun (front, rest) hleading => ?_
  have hsplit : ∀ y ∈ front ++ rest, p y :=
    fun y hy => hxs y ((perm_of_leadingRun hleading).subset hy)
  refine (agree_placeAll h (fun y hy => ?_) fun y hy => ?_).bind fun _ _ => agree_ok _
  · exact hsplit y (List.mem_append_right _ (List.mem_of_mem_take hy))
  · exact hsplit y (List.mem_append_left _ hy)

/-! ## Merging -/

namespace Direction

variable {d d' : Direction ε α} {x y : α} {xs ys : List α}

/-- Whether two directions of merging are the same, but for the comparison, and agree on the items
of which a condition holds. -/
structure Alike (allowed : ε → Prop) (p : α → Prop) (d d' : Direction ε α) : Prop where
  otherWins : AgreeOn allowed p d.otherWins d'.otherWins
  firstLeap : d'.firstLeap = d.firstLeap
  middle : d'.middle = d.middle

theorem agree_single (h : Alike allowed p d d') {patience heldWins otherWins : Nat} (hx : p x)
    (hy : p y) : Agree allowed (d.single patience heldWins otherWins x xs y ys)
      (d'.single patience heldWins otherWins x xs y ys) := by
  unfold single afterWin
  rw [h.firstLeap]
  refine (h.otherWins x y hx hy).bind fun b _ => ?_
  cases b <;> exact agree_ok _

theorem agree_leapHeld (h : Alike allowed p d d') {first? : Option Nat} {held : List α}
    (hheld : ∀ z ∈ held, p z) (hy : p y) :
    Agree allowed (d.leapHeld first? held y ys) (d'.leapHeld first? held y ys) := by
  unfold leapHeld afterLeap
  rw [h.firstLeap, h.middle]
  refine (agree_leap fun z hz => (h.otherWins z y (hheld z hz) hy).map not).bind fun n _ => ?_
  dsimp only
  split <;> exact agree_ok _

theorem agree_leapOther (h : Alike allowed p d d') {first? : Option Nat} {other : List α}
    (hx : p x) (hother : ∀ z ∈ other, p z) :
    Agree allowed (d.leapOther first? x xs other) (d'.leapOther first? x xs other) := by
  unfold leapOther afterLeap
  rw [h.firstLeap, h.middle]
  refine (agree_leap fun z hz => h.otherWins x z hx (hother z hz)).bind fun n _ => ?_
  dsimp only
  split <;> exact agree_ok _

theorem agree_step (h : Alike allowed p d d') {pace : Pace} {patience : Nat}
    (hheld : ∀ z ∈ x :: xs, p z) (hother : ∀ z ∈ y :: ys, p z) :
    Agree allowed (d.step pace patience x xs y ys) (d'.step pace patience x xs y ys) := by
  have hx := hheld x (by simp)
  have hy := hother y (by simp)
  cases pace with
  | single | giveUp => exact agree_single h hx hy
  | leap side | again side | leapBack side =>
    cases side with
    | held => exact agree_leapHeld h hheld hy
    | other => exact agree_leapOther h hx hother

end Direction

theorem mergeFrom_cons (d : Direction ε α) (pace : Pace) (patience : Nat) (x x' : α) (xs : List α)
    (y : α) (ys : List α) :
    mergeFrom d pace patience (x :: x' :: xs) (y :: ys) =
      (d.step pace (pace.patience patience) x (x' :: xs) y ys >>= fun progress =>
        mergeFrom d progress.pace (pace.patience patience) progress.held progress.other >>= fun q =>
          .ok (progress.moved ++ q.1, q.2)) := by
  rw [mergeFrom]
  split
  · rename_i hstep
    rw [hstep]
    rfl
  · rename_i hstep
    rw [hstep]
    rfl

theorem sortRest_cons (before : α → α → Except ε Bool) (n start patience : Nat)
    (waiting : List (Pending α)) (last : List α) (x : α) (xs : List α) :
    sortRest before n start patience waiting last (x :: xs) =
      (nextRun before (leastRun n) (x :: xs) >>= fun q =>
        let boundary := power n (2 * start + last.length) (last.length + q.1.length)
        mergeAbove before boundary patience waiting last >>= fun r =>
          sortRest before n (start + last.length) r.2.2 (⟨r.1, boundary⟩ :: r.2.1) q.1 q.2) := by
  rw [sortRest]
  split
  · rename_i hnext
    rw [hnext]
    rfl
  · rename_i hnext
    rw [hnext]
    rfl

/-- A merge asks about the items of its two sides only. -/
theorem agree_mergeFrom {d d' : Direction ε α} (h : d.Alike allowed p d') {pace : Pace}
    {patience : Nat} {held other : List α} (hheld : ∀ z ∈ held, p z) (hother : ∀ z ∈ other, p z) :
    Agree allowed (mergeFrom d pace patience held other)
      (mergeFrom d' pace patience held other) := by
  induction pace, patience, held, other using mergeFrom.induct d with
  | case1 pace patience held =>
    unfold mergeFrom
    exact agree_ok _
  | case2 pace patience y ys =>
    unfold mergeFrom
    exact agree_ok _
  | case3 pace patience x y ys =>
    unfold mergeFrom
    exact agree_ok _
  | case4 pace patience x x' xs y ys fault hstep =>
    rw [mergeFrom_cons d, mergeFrom_cons d']
    refine (Direction.agree_step h hheld hother).bind fun q hq => ?_
    cases hstep.symm.trans hq
  | case5 pace patience x x' xs y ys progress hstep ih =>
    rw [mergeFrom_cons d, mergeFrom_cons d']
    refine (Direction.agree_step h hheld hother).bind fun q hq => ?_
    cases hstep.symm.trans hq
    have hall : ∀ z ∈ Direction.all progress, p z := by
      intro z hz
      rcases List.mem_append.1 ((Direction.perm_of_step hstep).subset hz) with hz | hz
      · exact hheld z hz
      · exact hother z hz
    refine (ih (fun z hz => hall z ?_) fun z hz => hall z ?_).bind fun _ _ => agree_ok _
    · exact List.mem_append_right _ (List.mem_append_left _ hz)
    · exact List.mem_append_right _ (List.mem_append_right _ hz)

theorem agree_mergeForward (h : AgreeOn allowed p before before') {patience : Nat}
    {left right : List α} (hleft : ∀ z ∈ left, p z) (hright : ∀ z ∈ right, p z) :
    Agree allowed (mergeForward before patience left right)
      (mergeForward before' patience left right) := by
  have hturned : Direction.Alike allowed p ⟨fun x y => before y x, .held, frontMiddle⟩
      ⟨fun x y => before' y x, .held, frontMiddle⟩ := ⟨fun x y hx hy => h y x hy hx, rfl, rfl⟩
  refine (agree_mergeFrom hturned hleft fun z hz => ?_).bind fun _ _ => agree_ok _
  exact hright z (List.mem_of_mem_drop hz)

theorem agree_mergeBackward (h : AgreeOn allowed p before before') {patience : Nat}
    {left right : List α} (hleft : ∀ z ∈ left, p z) (hright : ∀ z ∈ right, p z) :
    Agree allowed (mergeBackward before patience left right)
      (mergeBackward before' patience left right) := by
  have hback : Direction.Alike allowed p ⟨fun x y => before x y, .other, backMiddle⟩
      ⟨fun x y => before' x y, .other, backMiddle⟩ := ⟨h, rfl, rfl⟩
  refine (agree_mergeFrom hback (fun z hz => ?_) fun z hz => ?_).bind fun _ _ => agree_ok _
  · exact hright z (List.mem_reverse.1 hz)
  · exact hleft z (List.mem_reverse.1 (List.mem_of_mem_drop hz))

theorem agree_merge (h : AgreeOn allowed p before before') {patience : Nat}
    {left right : List α} (hleft : ∀ z ∈ left, p z) (hright : ∀ z ∈ right, p z) :
    Agree allowed (merge before patience left right) (merge before' patience left right) := by
  unfold merge
  cases right with
  | nil => exact agree_ok _
  | cons y ys =>
    have hy := hright y (by simp)
    refine (agree_leap fun z hz => (h y z hy (hleft z hz)).map not).bind fun settled _ => ?_
    dsimp only
    have hopen : ∀ z ∈ left.drop settled, p z := fun z hz => hleft z (List.mem_of_mem_drop hz)
    cases hlast : (left.drop settled).getLast? with
    | none => exact agree_ok _
    | some x =>
      have hx := hopen x (List.mem_of_getLast? hlast)
      refine (agree_leap fun z hz => (h z x ?_ hx).map not).bind fun behind _ => ?_
      · exact hright z (List.mem_reverse.1 hz)
      · have hinner : ∀ z ∈ (y :: ys).take ((y :: ys).length - behind), p z :=
          fun z hz => hright z (List.mem_of_mem_take hz)
        split
        · exact agree_ok _
        · split
          · exact (agree_mergeForward h hopen hinner).bind fun _ _ => agree_ok _
          · exact (agree_mergeBackward h hopen hinner).bind fun _ _ => agree_ok _

/-! ## Runs that wait -/

theorem agree_mergeAbove (h : AgreeOn allowed p before before') {power patience : Nat}
    {waiting : List (Pending α)} {last : List α}
    (hwaiting : ∀ run ∈ waiting, ∀ z ∈ run.items, p z) (hlast : ∀ z ∈ last, p z) :
    Agree allowed (mergeAbove before power patience waiting last)
      (mergeAbove before' power patience waiting last) := by
  induction waiting generalizing patience last with
  | nil => exact agree_ok _
  | cons run waiting ih =>
    have hrun := hwaiting run (by simp)
    unfold mergeAbove
    split
    · refine (agree_merge h hrun hlast).bind fun result hmerged => ?_
      obtain ⟨merged, more⟩ := result
      refine ih (fun other hother => hwaiting other (by simp [hother])) fun z hz => ?_
      rcases List.mem_append.1 ((perm_of_merge hmerged).subset hz) with hz | hz
      · exact hrun z hz
      · exact hlast z hz
    · exact agree_ok _

theorem agree_mergeAll (h : AgreeOn allowed p before before') {patience : Nat}
    {waiting : List (List α)} {last : List α} (hwaiting : ∀ run ∈ waiting, ∀ z ∈ run, p z)
    (hlast : ∀ z ∈ last, p z) :
    Agree allowed (mergeAll before patience waiting last)
      (mergeAll before' patience waiting last) := by
  have hboth : ∀ {left right merged : List α} {patience more : Nat}, (∀ z ∈ left, p z) →
      (∀ z ∈ right, p z) → merge before patience left right = .ok (merged, more) →
      ∀ z ∈ merged, p z := by
    intro left right merged patience more hleft hright hmerged z hz
    rcases List.mem_append.1 ((perm_of_merge hmerged).subset hz) with hz | hz
    · exact hleft z hz
    · exact hright z hz
  induction patience, waiting, last using mergeAll.induct with
  | case1 patience last =>
    unfold mergeAll
    exact agree_ok _
  | case2 patience last second =>
    unfold mergeAll
    exact (agree_merge h (hwaiting second (by simp)) hlast).bind fun _ _ => agree_ok _
  | case3 patience last second third waiting hlt ih =>
    have hsecond := hwaiting second (by simp)
    have hthird := hwaiting third (by simp)
    unfold mergeAll
    rw [if_pos hlt, if_pos hlt]
    refine (agree_merge h hthird hsecond).bind fun result hmerged => ?_
    obtain ⟨merged, more⟩ := result
    refine ih merged more (fun run hrun => ?_) hlast
    rcases List.mem_cons.1 hrun with rfl | hrun
    · exact hboth hthird hsecond hmerged
    · exact hwaiting run (by simp [hrun])
  | case4 patience last second third waiting hlt ih =>
    have hsecond := hwaiting second (by simp)
    unfold mergeAll
    rw [if_neg hlt, if_neg hlt]
    refine (agree_merge h hsecond hlast).bind fun result hmerged => ?_
    obtain ⟨merged, more⟩ := result
    refine ih merged more (fun run hrun => hwaiting run ?_) (hboth hsecond hlast hmerged)
    exact List.mem_cons_of_mem _ hrun

theorem agree_sortRest (h : AgreeOn allowed p before before') {n start patience : Nat}
    {waiting : List (Pending α)} {last rest : List α}
    (hwaiting : ∀ run ∈ waiting, ∀ z ∈ run.items, p z) (hlast : ∀ z ∈ last, p z)
    (hrest : ∀ z ∈ rest, p z) :
    Agree allowed (sortRest before n start patience waiting last rest)
      (sortRest before' n start patience waiting last rest) := by
  induction start, patience, waiting, last, rest using sortRest.induct before n with
  | case1 start patience waiting last =>
    unfold sortRest
    refine agree_mergeAll h (fun run hrun => ?_) hlast
    obtain ⟨pending, hpending, rfl⟩ := List.mem_map.1 hrun
    exact hwaiting pending hpending
  | case2 start patience waiting last x xs fault hnext =>
    rw [sortRest_cons before, sortRest_cons before']
    refine (agree_nextRun h hrest).bind fun q hq => ?_
    cases hnext.symm.trans hq
  | case3 start patience waiting last x xs next rest hnext boundary ih =>
    rw [sortRest_cons before, sortRest_cons before']
    refine (agree_nextRun h hrest).bind fun q hq => ?_
    cases hnext.symm.trans hq
    have hsplit : ∀ z ∈ next ++ rest, p z := fun z hz => hrest z ((perm_of_nextRun hnext).subset hz)
    refine (agree_mergeAbove h hwaiting hlast).bind fun result hmerged => ?_
    obtain ⟨merged, left, more⟩ := result
    have hall : ∀ z ∈ merged ++ (left.map (·.items)).flatten, p z := by
      intro z hz
      rcases List.mem_append.1 ((perm_of_mergeAbove hmerged).subset hz) with hz | hz
      · exact hlast z hz
      · obtain ⟨items, hitems, hz⟩ := List.mem_flatten.1 hz
        obtain ⟨run, hrun, rfl⟩ := List.mem_map.1 hitems
        exact hwaiting run hrun z hz
    refine ih merged left more (fun run hrun z hz => ?_) (fun z hz => ?_) fun z hz => ?_
    · rcases List.mem_cons.1 hrun with rfl | hrun
      · exact hall z (List.mem_append_left _ hz)
      · refine hall z (List.mem_append_right _ (List.mem_flatten.2 ⟨run.items, ?_, hz⟩))
        exact List.mem_map_of_mem hrun
    · exact hsplit z (List.mem_append_left _ hz)
    · exact hsplit z (List.mem_append_right _ hz)

/-- Comparisons that agree on the items of a list sort it alike. -/
theorem agree_sorted (h : AgreeOn allowed p before before') {xs : List α} (hxs : ∀ x ∈ xs, p x) :
    Agree allowed (sorted before xs) (sorted before' xs) := by
  unfold sorted
  refine (agree_nextRun h hxs).bind fun result hfirst => ?_
  obtain ⟨first, rest⟩ := result
  have hsplit : ∀ z ∈ first ++ rest, p z := fun z hz => hxs z ((perm_of_nextRun hfirst).subset hz)
  refine agree_sortRest h (by simp) (fun z hz => ?_) fun z hz => ?_
  · exact hsplit z (List.mem_append_left _ hz)
  · exact hsplit z (List.mem_append_right _ hz)

/-- Comparisons that agree on the keys of a list sort it alike. -/
theorem agree_sortedByKey {κ : Type} {p : κ → Prop} {lessThan lessThan' : κ → κ → Except ε Bool}
    (h : AgreeOn allowed p lessThan lessThan') {xs : List (κ × α)} (hxs : ∀ x ∈ xs, p x.1) :
    Agree allowed (sortedByKey lessThan xs) (sortedByKey lessThan' xs) := by
  unfold sortedByKey
  have hpairs : AgreeOn allowed (fun x : κ × α => p x.1) (fun x y => lessThan x.1 y.1)
      fun x y => lessThan' x.1 y.1 := fun x y hx hy => h x.1 y.1 hx hy
  exact (agree_sorted hpairs hxs).bind fun _ _ => agree_ok _

end Sorting

end ValueSets
