import ValueSets.Proofs.Sorting.Stability

/-!
# Sorting by keys that are totally preordered

A comparison of keys orders some of them if it has an answer for any two and what it says is a total
order up to ties: of two keys one at most stands before the other, and what does not stand before a
key does not stand before a later one either (`Orders`). Nothing is asked of keys that do not occur.

The comparison then tells for which of two keys there are fewer before it (`Orders.before_eq`). So
the sort, which arranges items by a linearly ordered key, sorts them by such keys, too:
`exists_sortedByKey` says that it succeeds, and `StablySorted.unique` that there is one list in
which keys never descend and items of tied keys keep their order.
-/

set_option autoImplicit false

namespace ValueSets.Sorting

open Fallible

/-! ## Keys -/

section

variable {ε κ : Type} (before : κ → κ → Except ε Bool)

/-- Whether a comparison says that one key stands before another. -/
def precedes (k l : κ) : Bool := (before k l).toOption.getD false

/-- Whether neither of two keys stands before the other. -/
def tied (k l : κ) : Bool := !precedes before k l && !precedes before l k

/-- Whether a comparison orders some keys totally, up to ties. -/
structure Orders (ks : List κ) : Prop where
  answers : ∀ k ∈ ks, ∀ l ∈ ks, ∃ b, before k l = .ok b
  asymmetric : ∀ k ∈ ks, ∀ l ∈ ks, precedes before k l = true → precedes before l k = false
  transitive : ∀ k ∈ ks, ∀ l ∈ ks, ∀ m ∈ ks, precedes before l k = false →
    precedes before m l = false → precedes before m k = false

/-- The number of the keys that stand before a key. -/
def keysBefore (ks : List κ) (k : κ) : Nat := ks.countP fun l => precedes before l k

variable {before}

theorem precedes_eq {k l : κ} {b : Bool} (h : before k l = .ok b) : precedes before k l = b := by
  unfold precedes
  rw [h]
  rfl

/-- A test that holds for more items, and for one that another test does not hold for, holds more
often. -/
theorem countP_lt_countP {p q : κ → Bool} {ks : List κ} {k : κ} (hk : k ∈ ks)
    (h : ∀ m ∈ ks, p m = true → q m = true) (hp : p k = false) (hq : q k = true) :
    ks.countP p < ks.countP q := by
  obtain ⟨front, back, rfl⟩ := List.append_of_mem hk
  have hfront : front.countP p ≤ front.countP q :=
    List.countP_mono_left fun m hm => h m (by simp [hm])
  have hback : back.countP p ≤ back.countP q :=
    List.countP_mono_left fun m hm => h m (by simp [hm])
  simp only [List.countP_append, List.countP_cons, hp, hq, if_true, Bool.false_eq_true, if_false]
  omega

namespace Orders

variable {ks : List κ}

/-- The comparison is that of the numbers of keys before. -/
theorem before_eq (h : Orders before ks) {k l : κ} (hk : k ∈ ks) (hl : l ∈ ks) :
    before k l = .ok (decide (keysBefore before ks k < keysBefore before ks l)) := by
  obtain ⟨b, hb⟩ := h.answers k hk l hl
  have hkl := precedes_eq hb
  rw [hb, Except.ok.injEq]
  cases b with
  | true =>
    have hlk := h.asymmetric k hk l hl hkl
    have hkk : precedes before k k = false := by
      by_contra hself
      exact hself (h.asymmetric k hk k hk (Bool.not_eq_false _ ▸ hself))
    refine (decide_eq_true (countP_lt_countP (p := fun m => precedes before m k)
      (q := fun m => precedes before m l) hk (fun m hm hmk => ?_) hkk hkl)).symm
    by_contra hml
    have hmk' := h.transitive k hk l hl m hm hlk (Bool.eq_false_iff.2 hml)
    rw [hmk] at hmk'
    cases hmk'
  | false =>
    refine (decide_eq_false (Nat.not_lt.2 (List.countP_mono_left fun m hm hml => ?_))).symm
    by_contra hmk
    have hml' := h.transitive l hl k hk m hm hkl (Bool.eq_false_iff.2 hmk)
    rw [hml] at hml'
    cases hml'

/-- A comparison that goes by a linear order, after the keys are mapped to it, orders them. -/
theorem of_linearOrder {ι : Type} [LinearOrder ι] {f : κ → ι}
    (h : ∀ k ∈ ks, ∀ l ∈ ks, before k l = .ok (decide (f k < f l))) : Orders before ks := by
  have hprecedes : ∀ k ∈ ks, ∀ l ∈ ks, precedes before k l = decide (f k < f l) :=
    fun k hk l hl => precedes_eq (h k hk l hl)
  refine ⟨fun k hk l hl => ⟨_, h k hk l hl⟩, fun k hk l hl hkl => ?_, fun k hk l hl m hm => ?_⟩
  · rw [hprecedes k hk l hl, decide_eq_true_eq] at hkl
    rw [hprecedes l hl k hk]
    exact decide_eq_false hkl.asymm
  · rw [hprecedes l hl k hk, hprecedes m hm l hl, hprecedes m hm k hk]
    simp only [decide_eq_false_iff_not, not_lt]
    exact fun hkl hlm => hkl.trans hlm

end Orders

end

/-! ## Lists -/

section

variable {ε κ α ι : Type} {before : κ → κ → Except ε Bool} {key : α → κ} {xs ys zs : List α}

/-- Whether a list has the items of another one so that their keys never descend, and those of tied
keys in the order in which they stand in the other one. -/
structure StablySorted (before : κ → κ → Except ε Bool) (key : α → κ) (xs ys : List α) : Prop where
  perm : ys.Perm xs
  ascends : ys.Pairwise fun x y => precedes before (key y) (key x) = false
  ties : ∀ x ∈ xs, ys.filter (fun y => tied before (key x) (key y)) =
    xs.filter fun y => tied before (key x) (key y)

/-- Lists that ascend and have the same ties are the same. -/
theorem Ascends.eq_of_sameTies [LinearOrder ι] {key : α → ι} (hys : Ascends key ys)
    (hzs : Ascends key zs) (h : SameTies key ys zs) : zs = ys := by
  induction ys generalizing zs with
  | nil =>
    cases zs with
    | nil => rfl
    | cons z zs => simpa using (h.mem_iff z).1 (by simp)
  | cons y ys ih =>
    cases zs with
    | nil => simpa using (h.mem_iff y).2 (by simp)
    | cons z zs =>
      -- each list begins with an item of the least key, and these are the same in both
      have hkey : key z = key y :=
        le_antisymm (hzs.head_le y ((h.mem_iff y).2 (by simp)))
          (hys.head_le z ((h.mem_iff z).1 (by simp)))
      have hhead := h (key y)
      rw [List.filter_cons_of_pos (by simpa using hkey), List.filter_cons_of_pos (by simp)] at hhead
      obtain ⟨rfl, -⟩ := List.cons_eq_cons.1 hhead
      have hrest : SameTies key ys zs := by
        intro k
        have hk := h k
        rw [List.filter_cons, List.filter_cons] at hk
        split at hk
        · exact (List.cons_eq_cons.1 hk).2
        · exact hk
      rw [ih (List.pairwise_cons.1 hys).2 (List.pairwise_cons.1 hzs).2 hrest]

/-- Where keys are compared by a linear order, being sorted is being the arrangement. -/
theorem stablySorted_iff [LinearOrder ι] {f : κ → ι} (hperm : ys.Perm xs)
    (h : ∀ x ∈ xs, ∀ y ∈ xs, before (key x) (key y) = .ok (decide (f (key x) < f (key y)))) :
    StablySorted before key xs ys ↔ Arranges (fun x => f (key x)) xs ys := by
  have hprecedes : ∀ x ∈ xs, ∀ y ∈ xs,
      precedes before (key x) (key y) = decide (f (key x) < f (key y)) :=
    fun x hx y hy => precedes_eq (h x hx y hy)
  have htied : ∀ x ∈ xs, ∀ y ∈ xs,
      tied before (key x) (key y) = decide (f (key y) = f (key x)) := by
    intro x hx y hy
    unfold tied
    rw [hprecedes x hx y hy, hprecedes y hy x hx, Bool.eq_iff_iff]
    simp only [Bool.and_eq_true, Bool.not_eq_true', decide_eq_false_iff_not, not_lt,
      decide_eq_true_eq]
    exact ⟨fun h => le_antisymm h.1 h.2, fun h => ⟨h.le, h.ge⟩⟩
  have hfilter : ∀ x ∈ xs, ∀ us : List α, us ⊆ xs →
      us.filter (fun y => tied before (key x) (key y)) =
        us.filter fun y => decide (f (key y) = f (key x)) :=
    fun x hx us hus => List.filter_congr fun y hy => htied x hx y (hus hy)
  have hascends : (ys.Pairwise fun x y => precedes before (key y) (key x) = false) ↔
      Ascends (fun x => f (key x)) ys := by
    refine List.Pairwise.iff_of_mem fun {x y} hx hy => ?_
    rw [hprecedes y (hperm.subset hy) x (hperm.subset hx), decide_eq_false_iff_not, not_lt]
  constructor
  · intro hsorted
    refine ⟨hascends.1 hsorted.ascends, fun k => ?_⟩
    by_cases hk : ∃ x ∈ xs, f (key x) = k
    · obtain ⟨x, hx, rfl⟩ := hk
      rw [← hfilter x hx ys hperm.subset, ← hfilter x hx xs (List.Subset.refl xs)]
      exact hsorted.ties x hx
    · have hnone : ∀ us : List α, us ⊆ xs → us.filter (fun y => decide (f (key y) = k)) = [] :=
        fun us hus => List.filter_eq_nil_iff.2 fun y hy hkey =>
          hk ⟨y, hus hy, of_decide_eq_true hkey⟩
      rw [hnone ys hperm.subset, hnone xs (List.Subset.refl xs)]
  · intro harranges
    refine ⟨hperm, hascends.2 harranges.ascends, fun x hx => ?_⟩
    rw [hfilter x hx ys hperm.subset, hfilter x hx xs (List.Subset.refl xs)]
    exact harranges.ties (f (key x))

variable (h : Orders before (xs.map key))
include h

/-- The comparison of the keys of items. -/
theorem Orders.before_key_eq : ∀ x ∈ xs, ∀ y ∈ xs, before (key x) (key y) =
    .ok (decide (keysBefore before (xs.map key) (key x) <
      keysBefore before (xs.map key) (key y))) :=
  fun _ hx _ hy => h.before_eq (List.mem_map_of_mem hx) (List.mem_map_of_mem hy)

/-- There is one stably sorted list. -/
theorem StablySorted.unique (hys : StablySorted before key xs ys)
    (hzs : StablySorted before key xs zs) : zs = ys := by
  have hysorted := (stablySorted_iff hys.perm h.before_key_eq).1 hys
  have hzsorted := (stablySorted_iff hzs.perm h.before_key_eq).1 hzs
  exact hysorted.ascends.eq_of_sameTies hzsorted.ascends fun k =>
    (hzsorted.ties k).trans (hysorted.ties k).symm

/-- Items that carry keys which are totally preordered are sorted by them. -/
theorem exists_sortedByKey : ∃ ys,
    sortedByKey before (xs.map fun x => (key x, x)) = .ok ys ∧ StablySorted before key xs ys := by
  let carry : α → κ × α := fun x => (key x, x)
  let position : κ × α → Nat := fun entry => keysBefore before (xs.map key) entry.1
  have hentry : ∀ x ∈ xs.map carry, ∀ y ∈ xs.map carry,
      before x.1 y.1 = .ok (decide (position x < position y)) := by
    simpa [carry, position] using h.before_key_eq
  obtain ⟨entries, hentries, harranges⟩ := sorted_arranges hentry
  -- the entries are the items that come out, each with its own key
  obtain ⟨ys, rfl⟩ : ∃ ys : List α, entries = ys.map carry := by
    refine ⟨entries.map (·.2), ?_⟩
    rw [List.map_map]
    refine (List.map_id entries).symm.trans (List.map_congr_left fun e he => ?_)
    obtain ⟨x, -, rfl⟩ := List.mem_map.1 ((harranges.mem_iff e).1 he)
    rfl
  have hitems : ∀ us : List α, (us.map carry).map (·.2) = us := by
    intro us
    rw [List.map_map]
    exact List.map_id us
  have hsorted : sortedByKey before (xs.map carry) = .ok ys := by
    unfold sortedByKey
    rw [hentries]
    exact congrArg Except.ok (hitems ys)
  have hperm : ys.Perm xs := hitems xs ▸ perm_of_sortedByKey hsorted
  have hascends : Ascends (fun x => keysBefore before (xs.map key) (key x)) ys :=
    (List.pairwise_map (f := carry)).1 harranges.ascends
  refine ⟨ys, hsorted, (stablySorted_iff hperm h.before_key_eq).2 ⟨hascends, fun k => ?_⟩⟩
  have hties := congrArg (List.map (·.2)) (harranges.ties k)
  rw [List.filter_map, List.filter_map, hitems, hitems] at hties
  exact hties

end

end ValueSets.Sorting
