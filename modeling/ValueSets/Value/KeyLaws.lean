import ValueSets.Value.Equality

/-!
# Key equality is an equivalence relation

The laws that storage by key rests on: `sameKey_refl`, `sameKey_comm` and `sameKey_trans`. They hold
of all values, hashable or not. `Value.inductionOn` is the induction over the parts of a value that
their proofs share.
-/

set_option autoImplicit false

namespace ValueSets.Value

/-- An item is smaller than what is made of the items. -/
theorem sizeOf_item_lt {w : Value} {items : List Value} (h : w ∈ items) :
    sizeOf w < 1 + sizeOf items := by
  have hlt := List.sizeOf_lt_of_mem h
  omega

/-- Induction over the parts of a value. -/
theorem inductionOn {motive : Value → Prop} (v : Value)
    (tuple : ∀ items identity, (∀ w ∈ items, motive w) → motive (.tuple items identity))
    (list : ∀ items, (∀ w ∈ items, motive w) → motive (.list items))
    (table : ∀ entries, (∀ e ∈ entries, motive e.1 ∧ motive e.2) → motive (.table entries))
    (set : ∀ items layout, (∀ w ∈ items, motive w) → motive (.set items layout))
    (frozenSet : ∀ items identity layout, (∀ w ∈ items, motive w) →
      motive (.frozenSet items identity layout))
    (flat : ∀ w : Value, w.isFlat = true → motive w) : motive v := by
  match v with
  | .tuple items identity =>
    exact tuple items identity fun w _ => inductionOn w tuple list table set frozenSet flat
  | .list items => exact list items fun w _ => inductionOn w tuple list table set frozenSet flat
  | .table entries =>
    refine table entries fun e he => ?_
    have hsize : sizeOf e < sizeOf entries := List.sizeOf_lt_of_mem he
    obtain ⟨k, w⟩ := e
    exact ⟨inductionOn k tuple list table set frozenSet flat,
      inductionOn w tuple list table set frozenSet flat⟩
  | .set items layout =>
    exact set items layout fun w _ => inductionOn w tuple list table set frozenSet flat
  | .frozenSet items identity layout =>
    exact frozenSet items identity layout fun w _ =>
      inductionOn w tuple list table set frozenSet flat
  | .null => exact flat _ rfl
  | .bool _ => exact flat _ rfl
  | .int _ _ => exact flat _ rfl
  | .float _ _ => exact flat _ rfl
  | .fraction _ _ => exact flat _ rfl
  | .text _ _ => exact flat _ rfl
  | .symbol _ _ => exact flat _ rfl
  | .bytes _ _ => exact flat _ rfl
  | .color _ => exact flat _ rfl
  | .level _ => exact flat _ rfl
  | .type _ => exact flat _ rfl
  | .config _ => exact flat _ rfl
  | .box _ => exact flat _ rfl
  | .handle _ => exact flat _ rfl
termination_by sizeOf v
decreasing_by
  · have hlt := sizeOf_item_lt ‹_ ∈ _›
    simp
    omega
  · simpa using sizeOf_item_lt ‹_ ∈ _›
  · simp at hsize ⊢
    omega
  · simp at hsize ⊢
    omega
  · have hlt := sizeOf_item_lt ‹_ ∈ _›
    simp
    omega
  · have hlt := sizeOf_item_lt ‹_ ∈ _›
    simp
    omega

/-- Two marks for each of several things are one mark for each of them. -/
theorem zipWith_or_map {α : Type} (f g : α → Bool) (xs : List α) :
    List.zipWith or (xs.map f) (xs.map g) = xs.map fun x => f x || g x := by
  rw [List.zipWith_map, List.zipWith_self]

/-- Sameness of items, said with quantifiers of lists. -/
theorem sameItems_eq (xs ys : List Value) (met : Value → Bool) :
    sameItems xs ys (ys.map met)
      = (xs.all (fun x => ys.any fun y => sameKey x y)
        && ys.all fun y => met y || xs.any fun x => sameKey x y) := by
  induction xs generalizing met with
  | nil => simp [sameItems, List.all_map]
  | cons x xs ih =>
    simp only [sameItems, zipWith_or_map, ih]
    simp [List.any_map, Bool.and_assoc, Bool.or_assoc]

/-- Sameness of entries, said with quantifiers of lists. -/
theorem sameEntries_eq (es fs : List (Value × Value)) (met : Value × Value → Bool) :
    sameEntries es fs (fs.map met)
      = (es.all (fun e => fs.any fun f => sameKey e.1 f.1 && sameKey e.2 f.2)
        && fs.all fun f => met f || es.any fun e => sameKey e.1 f.1 && sameKey e.2 f.2) := by
  induction es generalizing met with
  | nil => simp [sameEntries, List.all_map]
  | cons e es ih =>
    simp only [sameEntries, zipWith_or_map, ih]
    simp [List.any_map, Bool.and_assoc, Bool.or_assoc]

/-- Values without parts are compared by what they stand for. -/
theorem sameKey_of_isFlat {v : Value} (h : v.isFlat = true) (w : Value) :
    sameKey v w = (v.atom? == w.atom?) := by
  cases v <;> simp_all [isFlat, sameKey]

/-- Only values without parts stand for an atom. -/
theorem atom?_isSome (v : Value) : v.atom?.isSome = v.isFlat := by
  cases v <;> rfl

/-- A value with parts is never the same key as one without. -/
theorem sameKey_flat_right {v w : Value} (hv : v.isFlat = false) (hw : w.isFlat = true) :
    sameKey v w = false := by
  cases v <;> cases w <;> simp_all [isFlat, sameKey, setItems?]

/-- Sequences of the same items, place by place. -/
theorem sameKeys_refl {xs : List Value} (h : ∀ x ∈ xs, sameKey x x = true) :
    sameKeys xs xs = true := by
  induction xs with
  | nil => rfl
  | cons x xs ih =>
    simp only [sameKeys, Bool.and_eq_true]
    exact ⟨h x (by simp), ih fun y hy => h y (by simp [hy])⟩

/-- Sequences may be compared from either side if their items may. -/
theorem sameKeys_comm {xs : List Value} (h : ∀ x ∈ xs, ∀ w, sameKey x w = sameKey w x)
    (ys : List Value) : sameKeys xs ys = sameKeys ys xs := by
  induction xs generalizing ys with
  | nil => cases ys <;> rfl
  | cons x xs ih =>
    cases ys with
    | nil => rfl
    | cons y ys =>
      simp only [sameKeys]
      rw [h x (by simp) y, ih (fun z hz => h z (by simp [hz])) ys]

/-- Same sequences follow from one another if same items do. -/
theorem sameKeys_trans {xs : List Value}
    (h : ∀ x ∈ xs, ∀ v w, sameKey x v = true → sameKey v w = true → sameKey x w = true)
    {ys zs : List Value} (hxy : sameKeys xs ys = true) (hyz : sameKeys ys zs = true) :
    sameKeys xs zs = true := by
  induction xs generalizing ys zs with
  | nil =>
    cases ys with
    | nil => exact hyz
    | cons y ys => simp [sameKeys] at hxy
  | cons x xs ih =>
    cases ys with
    | nil => simp [sameKeys] at hxy
    | cons y ys =>
      cases zs with
      | nil => simp [sameKeys] at hyz
      | cons z zs =>
        simp only [sameKeys, Bool.and_eq_true] at hxy hyz ⊢
        exact ⟨h x (by simp) y z hxy.1 hyz.1,
          ih (fun t ht => h t (by simp [ht])) hxy.2 hyz.2⟩

/-- Whether each of two lists holds the keys of the other. -/
def mutuallyAmong (xs ys : List Value) : Bool := sameItems xs ys (ys.map fun _ => false)

/-- Lists hold the same keys exactly if each item of either has its like in the other. -/
theorem mutuallyAmong_iff (xs ys : List Value) :
    mutuallyAmong xs ys = true ↔
      (∀ x ∈ xs, ∃ y ∈ ys, sameKey x y = true) ∧ ∀ y ∈ ys, ∃ x ∈ xs, sameKey x y = true := by
  rw [mutuallyAmong, sameItems_eq]
  simp

/-- Value sets of the same items. -/
theorem mutuallyAmong_refl {xs : List Value} (h : ∀ x ∈ xs, sameKey x x = true) :
    mutuallyAmong xs xs = true :=
  (mutuallyAmong_iff xs xs).2 ⟨fun x hx => ⟨x, hx, h x hx⟩, fun x hx => ⟨x, hx, h x hx⟩⟩

/-- Value sets may be compared from either side if their items may. -/
theorem mutuallyAmong_comm {xs : List Value} (h : ∀ x ∈ xs, ∀ w, sameKey x w = sameKey w x)
    (ys : List Value) : mutuallyAmong xs ys = mutuallyAmong ys xs := by
  rw [Bool.eq_iff_iff, mutuallyAmong_iff, mutuallyAmong_iff]
  constructor
  · rintro ⟨hxy, hyx⟩
    constructor
    · intro y hy
      obtain ⟨x, hx, hsame⟩ := hyx y hy
      exact ⟨x, hx, by rw [← h x hx y]; exact hsame⟩
    · intro x hx
      obtain ⟨y, hy, hsame⟩ := hxy x hx
      exact ⟨y, hy, by rw [← h x hx y]; exact hsame⟩
  · rintro ⟨hyx, hxy⟩
    constructor
    · intro x hx
      obtain ⟨y, hy, hsame⟩ := hxy x hx
      exact ⟨y, hy, by rw [h x hx y]; exact hsame⟩
    · intro y hy
      obtain ⟨x, hx, hsame⟩ := hyx y hy
      exact ⟨x, hx, by rw [h x hx y]; exact hsame⟩

/-- Same value sets follow from one another if same items do. -/
theorem mutuallyAmong_trans {xs : List Value}
    (h : ∀ x ∈ xs, ∀ v w, sameKey x v = true → sameKey v w = true → sameKey x w = true)
    {ys zs : List Value} (hxy : mutuallyAmong xs ys = true) (hyz : mutuallyAmong ys zs = true) :
    mutuallyAmong xs zs = true := by
  rw [mutuallyAmong_iff] at hxy hyz ⊢
  constructor
  · intro x hx
    obtain ⟨y, hy, hxy'⟩ := hxy.1 x hx
    obtain ⟨z, hz, hyz'⟩ := hyz.1 y hy
    exact ⟨z, hz, h x hx y z hxy' hyz'⟩
  · intro z hz
    obtain ⟨y, hy, hyz'⟩ := hyz.2 z hz
    obtain ⟨x, hx, hxy'⟩ := hxy.2 y hy
    exact ⟨x, hx, h x hx y z hxy' hyz'⟩

/-- Whether each of two tables holds the entries of the other. -/
def mutualEntries (es fs : List (Value × Value)) : Bool :=
  sameEntries es fs (fs.map fun _ => false)

/-- Tables hold the same entries exactly if each entry of either has its like in the other. -/
theorem mutualEntries_iff (es fs : List (Value × Value)) :
    mutualEntries es fs = true ↔
      (∀ e ∈ es, ∃ f ∈ fs, sameKey e.1 f.1 = true ∧ sameKey e.2 f.2 = true) ∧
        ∀ f ∈ fs, ∃ e ∈ es, sameKey e.1 f.1 = true ∧ sameKey e.2 f.2 = true := by
  rw [mutualEntries, sameEntries_eq]
  simp

/-- Tables may be compared from either side if what their entries hold may. -/
theorem mutualEntries_comm {es : List (Value × Value)}
    (h : ∀ e ∈ es, (∀ w, sameKey e.1 w = sameKey w e.1) ∧ ∀ w, sameKey e.2 w = sameKey w e.2)
    (fs : List (Value × Value)) : mutualEntries es fs = mutualEntries fs es := by
  have hswap (e : Value × Value) (he : e ∈ es) (f : Value × Value) :
      (sameKey e.1 f.1 = true ∧ sameKey e.2 f.2 = true)
        ↔ (sameKey f.1 e.1 = true ∧ sameKey f.2 e.2 = true) := by
    rw [(h e he).1 f.1, (h e he).2 f.2]
  rw [Bool.eq_iff_iff, mutualEntries_iff, mutualEntries_iff]
  constructor
  · rintro ⟨hef, hfe⟩
    constructor
    · intro f hf
      obtain ⟨e, he, hsame⟩ := hfe f hf
      exact ⟨e, he, (hswap e he f).1 hsame⟩
    · intro e he
      obtain ⟨f, hf, hsame⟩ := hef e he
      exact ⟨f, hf, (hswap e he f).1 hsame⟩
  · rintro ⟨hfe, hef⟩
    constructor
    · intro e he
      obtain ⟨f, hf, hsame⟩ := hef e he
      exact ⟨f, hf, (hswap e he f).2 hsame⟩
    · intro f hf
      obtain ⟨e, he, hsame⟩ := hfe f hf
      exact ⟨e, he, (hswap e he f).2 hsame⟩

/-- Comparing a tuple looks at its items alone. -/
theorem sameKey_tuple (xs : List Value) (i : Nat) (w : Value) :
    sameKey (.tuple xs i) w = true ↔ ∃ ys j, w = .tuple ys j ∧ sameKeys xs ys = true := by
  cases w <;> simp [sameKey]

/-- Comparing a list looks at its items alone. -/
theorem sameKey_list (xs : List Value) (w : Value) :
    sameKey (.list xs) w = true ↔ ∃ ys, w = .list ys ∧ sameKeys xs ys = true := by
  cases w <;> simp [sameKey]

/-- Comparing a table looks at its entries alone. -/
theorem sameKey_table (es : List (Value × Value)) (w : Value) :
    sameKey (.table es) w = true ↔ ∃ fs, w = .table fs ∧ mutualEntries es fs = true := by
  cases w <;> simp [sameKey, mutualEntries]

/-- Comparing a value set looks at the items of both sides, whether they can change or not. -/
theorem sameKey_of_setItems? {v : Value} {xs : List Value} (h : v.setItems? = some xs) (w : Value) :
    sameKey v w = true ↔ ∃ ys, w.setItems? = some ys ∧ mutuallyAmong xs ys = true := by
  cases v <;> simp [setItems?] at h <;> subst h <;> cases hw : w.setItems? <;>
    simp [sameKey, mutuallyAmong, hw]

/-- Every value is the same key as itself. -/
theorem sameKey_refl (v : Value) : sameKey v v = true := by
  induction v using inductionOn with
  | tuple items i ih => exact (sameKey_tuple _ _ _).2 ⟨items, i, rfl, sameKeys_refl ih⟩
  | list items ih => exact (sameKey_list _ _).2 ⟨items, rfl, sameKeys_refl ih⟩
  | table entries ih =>
    refine (sameKey_table _ _).2 ⟨entries, rfl, (mutualEntries_iff _ _).2 ⟨?_, ?_⟩⟩
    all_goals exact fun e he => ⟨e, he, ih e he⟩
  | set items layout ih => exact (sameKey_of_setItems? rfl _).2 ⟨items, rfl, mutuallyAmong_refl ih⟩
  | frozenSet items i layout ih =>
    exact (sameKey_of_setItems? rfl _).2 ⟨items, rfl, mutuallyAmong_refl ih⟩
  | flat w hw => simp [sameKey_of_isFlat hw]

/-- Values may be compared from either side. -/
theorem sameKey_comm (v w : Value) : sameKey v w = sameKey w v := by
  induction v using inductionOn generalizing w with
  | tuple items i ih =>
    rw [Bool.eq_iff_iff, sameKey_tuple]
    constructor
    · rintro ⟨ys, j, rfl, h⟩
      exact (sameKey_tuple _ _ _).2 ⟨items, i, rfl, sameKeys_comm ih ys ▸ h⟩
    · cases w with
      | tuple ys j =>
        intro h
        obtain ⟨zs, k, hzs, h⟩ := (sameKey_tuple _ _ _).1 h
        cases hzs
        exact ⟨ys, j, rfl, (sameKeys_comm ih ys).symm ▸ h⟩
      | _ => simp [sameKey, setItems?, atom?]
  | list items ih =>
    rw [Bool.eq_iff_iff, sameKey_list]
    constructor
    · rintro ⟨ys, rfl, h⟩
      exact (sameKey_list _ _).2 ⟨items, rfl, sameKeys_comm ih ys ▸ h⟩
    · cases w with
      | list ys =>
        intro h
        obtain ⟨zs, hzs, h⟩ := (sameKey_list _ _).1 h
        cases hzs
        exact ⟨ys, rfl, (sameKeys_comm ih ys).symm ▸ h⟩
      | _ => simp [sameKey, setItems?, atom?]
  | table entries ih =>
    rw [Bool.eq_iff_iff, sameKey_table]
    constructor
    · rintro ⟨fs, rfl, h⟩
      exact (sameKey_table _ _).2 ⟨entries, rfl, mutualEntries_comm ih fs ▸ h⟩
    · cases w with
      | table fs =>
        intro h
        obtain ⟨gs, hgs, h⟩ := (sameKey_table _ _).1 h
        cases hgs
        exact ⟨fs, rfl, (mutualEntries_comm ih fs).symm ▸ h⟩
      | _ => simp [sameKey, setItems?, atom?]
  | set items layout ih =>
    cases hw : w.setItems? with
    | none => cases w <;> simp_all [sameKey, setItems?, atom?]
    | some ys =>
      rw [Bool.eq_iff_iff, sameKey_of_setItems? rfl, sameKey_of_setItems? hw]
      constructor
      · rintro ⟨zs, hzs, h⟩
        cases hw.symm.trans hzs
        exact ⟨items, rfl, mutuallyAmong_comm ih ys ▸ h⟩
      · rintro ⟨zs, hzs, h⟩
        cases hzs
        exact ⟨ys, hw, (mutuallyAmong_comm ih ys).symm ▸ h⟩
  | frozenSet items i layout ih =>
    cases hw : w.setItems? with
    | none => cases w <;> simp_all [sameKey, setItems?, atom?]
    | some ys =>
      rw [Bool.eq_iff_iff, sameKey_of_setItems? rfl, sameKey_of_setItems? hw]
      constructor
      · rintro ⟨zs, hzs, h⟩
        cases hw.symm.trans hzs
        exact ⟨items, rfl, mutuallyAmong_comm ih ys ▸ h⟩
      · rintro ⟨zs, hzs, h⟩
        cases hzs
        exact ⟨ys, hw, (mutuallyAmong_comm ih ys).symm ▸ h⟩
  | flat v hv =>
    cases hw : w.isFlat with
    | true =>
      rw [sameKey_of_isFlat hv, sameKey_of_isFlat hw, Bool.eq_iff_iff, beq_iff_eq, beq_iff_eq]
      exact eq_comm
    | false =>
      rw [sameKey_flat_right hw hv, sameKey_of_isFlat hv]
      have hsome := atom?_isSome v
      have hnone := atom?_isSome w
      cases ha : v.atom? <;> cases hb : w.atom? <;> simp_all

/-- What is the same key as the same key is the same key. -/
theorem sameKey_trans {v w u : Value} (hvw : sameKey v w = true) (hwu : sameKey w u = true) :
    sameKey v u = true := by
  induction v using inductionOn generalizing w u with
  | tuple items i ih =>
    obtain ⟨ys, j, rfl, h⟩ := (sameKey_tuple _ _ _).1 hvw
    obtain ⟨zs, k, rfl, h'⟩ := (sameKey_tuple _ _ _).1 hwu
    exact (sameKey_tuple _ _ _).2 ⟨zs, k, rfl, sameKeys_trans (fun x hx v w => ih x hx) h h'⟩
  | list items ih =>
    obtain ⟨ys, rfl, h⟩ := (sameKey_list _ _).1 hvw
    obtain ⟨zs, rfl, h'⟩ := (sameKey_list _ _).1 hwu
    exact (sameKey_list _ _).2 ⟨zs, rfl, sameKeys_trans (fun x hx v w => ih x hx) h h'⟩
  | table entries ih =>
    obtain ⟨fs, rfl, h⟩ := (sameKey_table _ _).1 hvw
    obtain ⟨gs, rfl, h'⟩ := (sameKey_table _ _).1 hwu
    rw [mutualEntries_iff] at h h'
    refine (sameKey_table _ _).2 ⟨gs, rfl, (mutualEntries_iff _ _).2 ⟨?_, ?_⟩⟩
    · intro e he
      obtain ⟨f, hf, hef⟩ := h.1 e he
      obtain ⟨g, hg, hfg⟩ := h'.1 f hf
      exact ⟨g, hg, (ih e he).1 hef.1 hfg.1, (ih e he).2 hef.2 hfg.2⟩
    · intro g hg
      obtain ⟨f, hf, hfg⟩ := h'.2 g hg
      obtain ⟨e, he, hef⟩ := h.2 f hf
      exact ⟨e, he, (ih e he).1 hef.1 hfg.1, (ih e he).2 hef.2 hfg.2⟩
  | set items layout ih =>
    obtain ⟨ys, hys, h⟩ := (sameKey_of_setItems? rfl _).1 hvw
    obtain ⟨zs, hzs, h'⟩ := (sameKey_of_setItems? hys _).1 hwu
    exact (sameKey_of_setItems? rfl _).2
      ⟨zs, hzs, mutuallyAmong_trans (fun x hx v w => ih x hx) h h'⟩
  | frozenSet items i layout ih =>
    obtain ⟨ys, hys, h⟩ := (sameKey_of_setItems? rfl _).1 hvw
    obtain ⟨zs, hzs, h'⟩ := (sameKey_of_setItems? hys _).1 hwu
    exact (sameKey_of_setItems? rfl _).2
      ⟨zs, hzs, mutuallyAmong_trans (fun x hx v w => ih x hx) h h'⟩
  | flat v hv =>
    rw [sameKey_of_isFlat hv] at hvw ⊢
    have heq : v.atom? = w.atom? := by simpa using hvw
    have hw : w.isFlat = true := by rw [← atom?_isSome, ← heq, atom?_isSome, hv]
    rw [sameKey_of_isFlat hw] at hwu
    rw [heq]
    exact hwu

end ValueSets.Value
