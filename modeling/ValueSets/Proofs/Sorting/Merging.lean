import ValueSets.Proofs.Sorting.Arrangement

/-!
# Merging arranges

A merge of two runs that ascend is the stable arrangement of the two, the first run before the
second (`arranges_merge`), whatever the patience that it begins with. Each step moves what is below
all that is left and changes no order among the items of one key (`Direction.Advances`), so the
steps add up along the recursion of the merge. Merging from the back is merging the reversed runs by
the reversed order, and both ends of the runs are cut off first where they are in place already.
-/

set_option autoImplicit false

namespace ValueSets.Sorting

open Fallible

variable {ε α κ : Type} [LinearOrder κ] {key : α → κ}

namespace Direction

/-- Whether a direction of merging goes by a key, held items going first among those of one key. -/
structure GoesBy (key : α → κ) (d : Direction ε α) : Prop where
  otherWins : ∀ x y, d.otherWins x y = .ok (decide (key y < key x))
  middle : ∀ n, 0 < n → d.middle n < n

/-- Whether two sides can be merged: both are in order, and the last held item waits for all of the
other side. -/
structure Ready (key : α → κ) (held other : List α) : Prop where
  heldAscends : Ascends key held
  otherAscends : Ascends key other
  last : ∀ x, held.getLast? = some x → ∀ y ∈ other, key y < key x

/-- Whether a step of a merge moves what is below all that it leaves, and changes no order among
items of one key. -/
structure Advances (key : α → κ) (held other : List α) (p : Progress α) : Prop where
  ties : SameTies key (held ++ other) (p.moved ++ (p.held ++ p.other))
  ascends : Ascends key p.moved
  heldAbove : ∀ x ∈ p.moved, ∀ y ∈ p.held, key x ≤ key y
  otherAbove : ∀ x ∈ p.moved, ∀ y ∈ p.other, key x ≤ key y
  held : p.held <:+ held
  other : p.other <:+ other

variable {d : Direction ε α} {held other : List α} {x y : α} {xs ys : List α} {p : Progress α}

theorem Ready.of_suffix (h : Ready key held other) {held' other' : List α}
    (hheld : held' <:+ held) (hother : other' <:+ other) : Ready key held' other' := by
  refine ⟨h.heldAscends.sublist hheld.sublist, h.otherAscends.sublist hother.sublist,
    fun x hx y hy => ?_⟩
  obtain ⟨front, rfl⟩ := hheld
  refine h.last x ?_ y (hother.subset hy)
  rw [List.getLast?_append, hx]
  rfl

theorem advances_single (hd : d.GoesBy key) (hready : Ready key (x :: xs) (y :: ys))
    {patience heldWins otherWins : Nat}
    (h : d.single patience heldWins otherWins x xs y ys = .ok p) :
    Advances key (x :: xs) (y :: ys) p := by
  unfold single at h
  rw [hd.otherWins] at h
  obtain ⟨b, hb, h⟩ := bind_eq_ok.1 h
  have hb := Except.ok.inj hb
  cases b with
  | true =>
    cases h
    have hbelow : ∀ z ∈ x :: xs, key y < key z := fun z hz =>
      (of_decide_eq_true hb).trans_le (hready.heldAscends.head_le z hz)
    refine ⟨?_, Ascends.singleton key y, fun z hz w hw => ?_, fun z hz w hw => ?_,
      List.suffix_refl _, List.suffix_cons y ys⟩
    · have hswap : SameTies key (x :: xs ++ [y]) ([y] ++ x :: xs) :=
        SameTies.swap fun z hz w hw => by
          rw [List.mem_singleton.1 hw]
          exact (hbelow z hz).ne
      have hall := hswap.append_right ys
      rwa [List.append_assoc, List.append_assoc] at hall
    · rw [List.mem_singleton.1 hz]
      exact (hbelow w hw).le
    · rw [List.mem_singleton.1 hz]
      exact hready.otherAscends.head_le w (List.mem_cons_of_mem _ hw)
  | false =>
    cases h
    have hxy : key x ≤ key y := not_lt.1 (of_decide_eq_false hb)
    refine ⟨SameTies.refl key _, Ascends.singleton key x, fun z hz w hw => ?_, fun z hz w hw => ?_,
      List.suffix_cons x xs, List.suffix_refl _⟩
    · rw [List.mem_singleton.1 hz]
      exact hready.heldAscends.head_le w (List.mem_cons_of_mem _ hw)
    · rw [List.mem_singleton.1 hz]
      exact hxy.trans (hready.otherAscends.head_le w hw)

theorem advances_leapHeld (hd : d.GoesBy key) (hready : Ready key held (y :: ys))
    {first? : Option Nat} (h : d.leapHeld first? held y ys = .ok p) :
    Advances key held (y :: ys) p := by
  obtain ⟨front, back, rfl, hfront, hback, hcount⟩ :=
    hready.heldAscends.exists_leap_atMost ε hd.middle (key y)
  unfold leapHeld at h
  simp only [hd.otherWins] at h
  obtain ⟨n, hn, h⟩ := bind_eq_ok.1 h
  cases hcount.symm.trans hn
  have hys : ∀ z ∈ front, ∀ w ∈ y :: ys, key z ≤ key w := fun z hz w hw =>
    (hfront z hz).trans (hready.otherAscends.head_le w hw)
  simp only [List.take_left, List.drop_left] at h
  split at h
  · cases h
    refine ⟨?_, hready.heldAscends.left, hready.heldAscends.le, hys,
      List.suffix_append front back, List.suffix_refl _⟩
    rw [List.append_assoc]
    exact SameTies.refl key _
  · cases h
    refine ⟨?_, hready.heldAscends.left.append (Ascends.singleton key y) fun z hz w hw => ?_,
      fun z hz w hw => ?_, fun z hz w hw => ?_, List.suffix_append front back,
      List.suffix_cons y ys⟩
    · have hswap : SameTies key (back ++ [y]) ([y] ++ back) := SameTies.swap fun z hz w hw => by
        rw [List.mem_singleton.1 hw]
        exact (hback z hz).ne
      have hall := (hswap.append_left front).append_right ys
      simpa only [List.append_assoc, List.cons_append, List.nil_append] using hall
    · rw [List.mem_singleton.1 hw]
      exact hfront z hz
    · rcases List.mem_append.1 hz with hz | hz
      · exact hready.heldAscends.le z hz w hw
      · rw [List.mem_singleton.1 hz]
        exact (hback w hw).le
    · rcases List.mem_append.1 hz with hz | hz
      · exact hys z hz w (List.mem_cons_of_mem _ hw)
      · rw [List.mem_singleton.1 hz]
        exact hready.otherAscends.head_le w (List.mem_cons_of_mem _ hw)

theorem advances_leapOther (hd : d.GoesBy key) (hready : Ready key (x :: xs) other)
    {first? : Option Nat} (h : d.leapOther first? x xs other = .ok p) :
    Advances key (x :: xs) other p := by
  obtain ⟨front, back, rfl, hfront, hback, hcount⟩ :=
    hready.otherAscends.exists_leap_less ε hd.middle (key x)
  unfold leapOther at h
  simp only [hd.otherWins] at h
  obtain ⟨n, hn, h⟩ := bind_eq_ok.1 h
  cases hcount.symm.trans hn
  have hxs : ∀ z ∈ front, ∀ w ∈ x :: xs, key z < key w := fun z hz w hw =>
    (hfront z hz).trans_le (hready.heldAscends.head_le w hw)
  have hswap : SameTies key (x :: xs ++ front) (front ++ x :: xs) :=
    SameTies.swap fun z hz w hw => (hxs w hw z hz).ne
  have hties := hswap.append_right back
  simp only [List.take_left, List.drop_left] at h
  split at h
  · rename_i hnone
    cases h
    rw [List.isEmpty_iff.1 hnone] at hties ⊢
    simp only [List.append_nil] at hties ⊢
    exact ⟨by simpa using hties, hready.otherAscends.left, fun z hz w hw => (hxs z hz w hw).le,
      by simp, List.suffix_refl _, List.nil_suffix⟩
  · cases h
    refine ⟨?_, hready.otherAscends.left.append (Ascends.singleton key x) fun z hz w hw => ?_,
      fun z hz w hw => ?_, fun z hz w hw => ?_, List.suffix_cons x xs,
      List.suffix_append front back⟩
    · simpa only [List.append_assoc, List.cons_append, List.nil_append] using hties
    · rw [List.mem_singleton.1 hw]
      exact (hfront z hz).le
    · rcases List.mem_append.1 hz with hz | hz
      · exact (hxs z hz w (List.mem_cons_of_mem _ hw)).le
      · rw [List.mem_singleton.1 hz]
        exact hready.heldAscends.head_le w (List.mem_cons_of_mem _ hw)
    · rcases List.mem_append.1 hz with hz | hz
      · exact hready.otherAscends.le z hz w hw
      · rw [List.mem_singleton.1 hz]
        exact hback w hw

/-- Every step of a merge advances it. -/
theorem advances_step (hd : d.GoesBy key) (hready : Ready key (x :: xs) (y :: ys)) {pace : Pace}
    {patience : Nat} (h : d.step pace patience x xs y ys = .ok p) :
    Advances key (x :: xs) (y :: ys) p := by
  cases pace with
  | single | giveUp => exact advances_single hd hready h
  | leap side | again side | leapBack side =>
    cases side with
    | held => exact advances_leapHeld hd hready h
    | other => exact advances_leapOther hd hready h

end Direction

/-- A merge arranges its two sides, the held one first. -/
theorem arranges_mergeFrom {d : Direction ε α} (hd : d.GoesBy key) {pace : Pace}
    {patience last : Nat} {held other merged : List α} (hready : Direction.Ready key held other)
    (h : mergeFrom d pace patience held other = .ok (merged, last)) :
    Arranges key (held ++ other) merged := by
  induction pace, patience, held, other using mergeFrom.induct d generalizing merged last with
  | case1 pace patience held =>
    unfold mergeFrom at h
    cases h
    rw [List.append_nil]
    exact Arranges.refl hready.heldAscends
  | case2 pace patience y ys =>
    unfold mergeFrom at h
    cases h
    exact Arranges.refl hready.otherAscends
  | case3 pace patience x y ys =>
    unfold mergeFrom at h
    cases h
    have hlast := hready.last x rfl
    refine ⟨hready.otherAscends.append hready.heldAscends fun z hz w hw => ?_,
      SameTies.swap fun z hz w hw => ?_⟩
    · rw [List.mem_singleton.1 hw]
      exact (hlast z hz).le
    · rw [List.mem_singleton.1 hz]
      exact (hlast w hw).ne
  | case4 pace patience x x' xs y ys fault hstep =>
    rw [mergeFrom_cons, hstep] at h
    cases h
  | case5 pace patience x x' xs y ys p hstep ih =>
    rw [mergeFrom_cons] at h
    obtain ⟨q, hq, h⟩ := bind_eq_ok.1 h
    cases hstep.symm.trans hq
    obtain ⟨⟨rest, more⟩, hrest, h⟩ := bind_eq_ok.1 h
    cases h
    have hstep := Direction.advances_step hd hready hstep
    have hrest := ih (hready.of_suffix hstep.held hstep.other) hrest
    refine (hrest.append_left hstep.ascends fun z hz w hw => ?_).of_ties hstep.ties
    rcases List.mem_append.1 hw with hw | hw
    · exact hstep.heldAbove z hz w hw
    · exact hstep.otherAbove z hz w hw

/-- A merge of two runs of which the second begins below the first, and the first ends above the
second. Its first item is known. -/
theorem arranges_mergeFrom_cons {d : Direction ε α} (hd : d.GoesBy key) {pace : Pace}
    {patience last : Nat} {held rest : List α} {y : α} {ys : List α}
    (hready : Direction.Ready key held (y :: ys)) (hfirst : ∀ x ∈ held, key y < key x)
    (h : mergeFrom d pace patience held ys = .ok (rest, last)) :
    Arranges key (held ++ y :: ys) (y :: rest) := by
  have hrest := arranges_mergeFrom hd
    (hready.of_suffix (List.suffix_refl _) (List.suffix_cons y ys)) h
  have hall : Arranges key ([y] ++ (held ++ ys)) ([y] ++ rest) := by
    refine hrest.append_left (Ascends.singleton key y) fun z hz w hw => ?_
    rw [List.mem_singleton.1 hz]
    rcases List.mem_append.1 hw with hw | hw
    · exact (hfirst w hw).le
    · exact hready.otherAscends.head_le w (List.mem_cons_of_mem _ hw)
  refine hall.of_ties ?_
  have hswap : SameTies key (held ++ [y]) ([y] ++ held) := SameTies.swap fun z hz w hw => by
    rw [List.mem_singleton.1 hw]
    exact (hfirst z hz).ne
  simpa only [List.append_assoc, List.cons_append, List.nil_append] using hswap.append_right ys

/-- Whether two runs in order overlap at both ends: the second begins below the first, and the first
ends above the second. -/
structure Overlap (key : α → κ) (left right : List α) : Prop where
  leftAscends : Ascends key left
  rightAscends : Ascends key right
  first : ∀ y, right.head? = some y → ∀ x ∈ left, key y < key x
  last : ∀ x, left.getLast? = some x → ∀ y ∈ right, key y < key x

theorem arranges_mergeForward {patience last : Nat} {left right merged : List α}
    (hoverlap : Overlap key left right)
    (h : mergeForward (byKey ε key) patience left right = .ok (merged, last)) :
    Arranges key (left ++ right) merged := by
  obtain ⟨⟨rest, more⟩, hrest, h⟩ := bind_eq_ok.1 h
  cases h
  have hd : Direction.GoesBy key ⟨fun x y => byKey ε key y x, .held, frontMiddle⟩ :=
    ⟨fun x y => rfl, frontMiddle_lt⟩
  have hready : Direction.Ready key left right :=
    ⟨hoverlap.leftAscends, hoverlap.rightAscends, hoverlap.last⟩
  cases right with
  | nil => exact arranges_mergeFrom hd hready hrest
  | cons y ys => exact arranges_mergeFrom_cons hd hready (hoverlap.first y rfl) hrest

/-- Merging from the back is merging the reversed runs by the reversed order. -/
theorem arranges_mergeBackward {patience last : Nat} {left right merged : List α}
    (hoverlap : Overlap key left right)
    (h : mergeBackward (byKey ε key) patience left right = .ok (merged, last)) :
    Arranges key (left ++ right) merged := by
  obtain ⟨⟨rest, more⟩, hrest, h⟩ := bind_eq_ok.1 h
  cases h
  have hd : Direction.GoesBy (OrderDual.toDual ∘ key)
      ⟨fun x y => byKey ε key x y, .other, backMiddle⟩ :=
    ⟨fun x y => rfl, backMiddle_lt⟩
  have hready : Direction.Ready (OrderDual.toDual ∘ key) right.reverse left.reverse := by
    refine ⟨List.pairwise_reverse.2 hoverlap.rightAscends,
      List.pairwise_reverse.2 hoverlap.leftAscends, fun y hy x hx => ?_⟩
    rw [List.getLast?_reverse] at hy
    exact hoverlap.first y hy x (List.mem_reverse.1 hx)
  have hback : Arranges (OrderDual.toDual ∘ key) (right.reverse ++ left.reverse)
      (left.reverse.take 1 ++ rest) := by
    cases hleft : left.reverse with
    | nil =>
      rw [hleft] at hready hrest
      exact arranges_mergeFrom hd hready hrest
    | cons x xs =>
      have hx : left.getLast? = some x := by
        rw [← List.head?_reverse, hleft]
        rfl
      rw [hleft] at hready hrest
      exact arranges_mergeFrom_cons hd hready
        (fun y hy => hoverlap.last x hx y (List.mem_reverse.1 hy)) hrest
  have hall := hback.reverse
  rwa [← List.reverse_append, List.reverse_reverse] at hall

/-- What is in its place already stays there when the rest is merged. -/
theorem arranges_inner {settled open? inner behind merged : List α} {y : α}
    (h : Arranges key (open? ++ inner) merged) (hleft : Ascends key (settled ++ open?))
    (hright : Ascends key (inner ++ behind)) (hy : (inner ++ behind).head? = some y)
    (hsettled : ∀ x ∈ settled, key x ≤ key y)
    (hbehind : ∀ x ∈ open?, ∀ z ∈ behind, key x ≤ key z) :
    Arranges key (settled ++ open? ++ (inner ++ behind)) (settled ++ merged ++ behind) := by
  have hy : ∀ z ∈ inner ++ behind, key y ≤ key z := by
    cases hall : inner ++ behind with
    | nil => simp
    | cons z zs =>
      rw [hall] at hy hright
      cases hy
      exact hright.head_le
  have hmerged : Arranges key (open? ++ inner ++ behind) (merged ++ behind) := by
    refine h.append_right hright.right fun x hx z hz => ?_
    rcases List.mem_append.1 hx with hx | hx
    · exact hbehind x hx z hz
    · exact hright.le x hx z hz
  have hall := hmerged.append_left hleft.left fun x hx z hz => by
    simp only [List.append_assoc, List.mem_append] at hz
    rcases hz with hz | hz | hz
    · exact hleft.le x hx z hz
    · exact (hsettled x hx).trans (hy z (List.mem_append_left _ hz))
    · exact (hsettled x hx).trans (hy z (List.mem_append_right _ hz))
  simpa only [List.append_assoc] using hall

/-- A merge arranges the two runs, the first one first. -/
theorem arranges_merge {patience last : Nat} {left right merged : List α}
    (hleft : Ascends key left) (hright : Ascends key right)
    (h : merge (byKey ε key) patience left right = .ok (merged, last)) :
    Arranges key (left ++ right) merged := by
  unfold merge at h
  split at h
  · cases h
    rw [List.append_nil]
    exact Arranges.refl hleft
  · rename_i y ys
    obtain ⟨settled, open?, rfl, hsettled, hopen, hcount⟩ :=
      hleft.exists_leap_atMost ε frontMiddle_lt (key y)
    obtain ⟨n, hn, h⟩ := bind_eq_ok.1 h
    cases hcount.symm.trans hn
    simp only [List.drop_left, List.take_left] at h
    split at h
    · -- Nothing of the first run is above the second.
      rename_i hnone
      cases h
      rw [List.getLast?_eq_none_iff.1 hnone, List.append_nil] at hleft ⊢
      exact Arranges.refl (hleft.append hright fun x hx z hz =>
        (hsettled x hx).trans (hright.head_le z hz))
    · rename_i x hx
      have hlast : ∀ z ∈ open?, key z ≤ key x := hleft.right.le_last hx
      have hturned : Ascends (OrderDual.toDual ∘ key) (y :: ys).reverse :=
        List.pairwise_reverse.2 hright
      obtain ⟨above, below, hsplit, habove, hbelow, hcount⟩ :=
        hturned.exists_leap_atMost ε backMiddle_lt (OrderDual.toDual (key x))
      obtain ⟨m, hm, h⟩ := bind_eq_ok.1 h
      cases hcount.symm.trans hm
      have hys : y :: ys = below.reverse ++ above.reverse := by
        rw [← List.reverse_append, ← hsplit, List.reverse_reverse]
      have hinner : (y :: ys).length - above.length = below.reverse.length := by
        rw [hys]
        simp
      rw [hinner, hys, List.take_left, List.drop_left] at h
      have hyhead : (below.reverse ++ above.reverse).head? = some y := by rw [← hys]; rfl
      rw [hys] at hright ⊢
      have hbehind : ∀ u ∈ open?, ∀ z ∈ above.reverse, key u ≤ key z := fun u hu z hz =>
        (hlast u hu).trans (habove z (List.mem_reverse.1 hz))
      split at h
      · -- Nothing of the second run is below the first one's last item.
        rename_i hnone
        cases h
        have hopened : Arranges key (open? ++ []) open? := by
          simpa using Arranges.refl hleft.right
        have hall := arranges_inner hopened hleft (by simpa using hright.right)
          (by simpa [List.isEmpty_iff.1 hnone] using hyhead) hsettled hbehind
        simpa [List.isEmpty_iff.1 hnone] using hall
      · have hoverlap : Overlap key open? below.reverse := by
          refine ⟨hleft.right, hright.left, fun z hz u hu => ?_, fun u hu z hz => ?_⟩
          · rw [List.head?_append, hz] at hyhead
            cases hyhead
            exact hopen u hu
          · cases hu.symm.trans hx
            exact hbelow z (List.mem_reverse.1 hz)
        split at h
        · obtain ⟨⟨inner, more⟩, hmore, h⟩ := bind_eq_ok.1 h
          cases h
          exact arranges_inner (arranges_mergeForward hoverlap hmore) hleft hright hyhead hsettled
            hbehind
        · obtain ⟨⟨inner, more⟩, hmore, h⟩ := bind_eq_ok.1 h
          cases h
          exact arranges_inner (arranges_mergeBackward hoverlap hmore) hleft hright hyhead hsettled
            hbehind

end ValueSets.Sorting
