import ValueSets.Fault

/-!
# Computations that may fail

A computation in two parts succeeds if both do, which is how the proofs about the library take its
operations apart. The module also says what the walks over a list answer whose question may fail: a
filter leaves some of the items, in their order, and where no question fails, the walks answer what
those over plain questions do.
-/

set_option autoImplicit false

namespace ValueSets.Fallible

variable {ε α β : Type}

/-- A computation in two parts succeeds if both parts do. -/
theorem bind_eq_ok {e : Except ε α} {next : α → Except ε β} {b : β} :
    (e >>= next) = .ok b ↔ ∃ a, e = .ok a ∧ next a = .ok b := by
  cases e with
  | error fault => simp [bind, Except.bind]
  | ok a => simp [bind, Except.bind]

theorem bind_eq_error {e : Except ε α} {next : α → Except ε β} {fault : ε} :
    (e >>= next) = .error fault ↔ e = .error fault ∨ ∃ a, e = .ok a ∧ next a = .error fault := by
  cases e with
  | error other => simp [bind, Except.bind]
  | ok a => simp [bind, Except.bind]

variable {f : α → Except ε Bool} {p : α → Bool}

theorem filterAuxM_sublist {xs acc ys : List α} (h : List.filterAuxM f xs acc = .ok ys) :
    ∃ kept : List α, kept.Sublist xs ∧ ys = kept.reverse ++ acc := by
  induction xs generalizing acc with
  | nil =>
    simp only [List.filterAuxM, pure, Except.pure, Except.ok.injEq] at h
    exact ⟨[], List.Sublist.refl [], h.symm⟩
  | cons x xs ih =>
    unfold List.filterAuxM at h
    obtain ⟨b, -, h⟩ := bind_eq_ok.1 h
    obtain ⟨kept, hkept, rfl⟩ := ih h
    cases b with
    | false => exact ⟨kept, hkept.cons x, rfl⟩
    | true => exact ⟨x :: kept, hkept.cons_cons x, by simp⟩

/-- A filter leaves some of the items, in their order. -/
theorem filterM_sublist {xs ys : List α} (h : xs.filterM f = .ok ys) : ys.Sublist xs := by
  unfold List.filterM at h
  obtain ⟨rev, hrev, h⟩ := bind_eq_ok.1 h
  obtain ⟨kept, hkept, rfl⟩ := filterAuxM_sublist hrev
  simp only [pure, Except.pure, Except.ok.injEq] at h
  rw [← h]
  simpa using hkept

theorem filterAuxM_eq_ok {xs : List α} (h : ∀ x ∈ xs, f x = .ok (p x)) (acc : List α) :
    List.filterAuxM f xs acc = .ok ((xs.filter p).reverse ++ acc) := by
  induction xs generalizing acc with
  | nil => rfl
  | cons x xs ih =>
    unfold List.filterAuxM
    rw [h x (by simp)]
    refine (ih (fun y hy => h y (by simp [hy])) _).trans ?_
    cases hp : p x <;> simp [hp]

theorem filterM_eq_ok {xs : List α} (h : ∀ x ∈ xs, f x = .ok (p x)) :
    xs.filterM f = .ok (xs.filter p) := by
  unfold List.filterM
  rw [filterAuxM_eq_ok h []]
  simp [bind, Except.bind, pure, Except.pure]

/-- Asking whether all items pass is plain where no question fails. -/
theorem allM_eq_ok {xs : List α} (h : ∀ x ∈ xs, f x = .ok (p x)) :
    xs.allM f = .ok (xs.all p) := by
  induction xs with
  | nil => rfl
  | cons x xs ih =>
    rw [List.allM_cons, h x (by simp)]
    simp only [bind, Except.bind, ih fun y hy => h y (by simp [hy])]
    cases hp : p x <;> simp [hp, pure, Except.pure]

theorem anyM_eq_ok {xs : List α} (h : ∀ x ∈ xs, f x = .ok (p x)) :
    xs.anyM f = .ok (xs.any p) := by
  induction xs with
  | nil => rfl
  | cons x xs ih =>
    rw [List.anyM_cons, h x (by simp)]
    simp only [bind, Except.bind, ih fun y hy => h y (by simp [hy])]
    cases hp : p x <;> simp [hp, pure, Except.pure]

/-- Where asking whether all items pass fails, it fails at one of them. -/
theorem exists_of_allM_eq_error {xs : List α} {fault : ε} (h : xs.allM f = .error fault) :
    ∃ x ∈ xs, f x = .error fault := by
  induction xs with
  | nil => cases h
  | cons x xs ih =>
    rw [List.allM_cons] at h
    rcases bind_eq_error.1 h with hx | ⟨b, -, h⟩
    · exact ⟨x, by simp, hx⟩
    · cases b with
      | false => cases h
      | true =>
        obtain ⟨y, hy, hfault⟩ := ih h
        exact ⟨y, by simp [hy], hfault⟩

theorem exists_of_anyM_eq_error {xs : List α} {fault : ε} (h : xs.anyM f = .error fault) :
    ∃ x ∈ xs, f x = .error fault := by
  induction xs with
  | nil => cases h
  | cons x xs ih =>
    rw [List.anyM_cons] at h
    rcases bind_eq_error.1 h with hx | ⟨b, -, h⟩
    · exact ⟨x, by simp, hx⟩
    · cases b with
      | true => cases h
      | false =>
        obtain ⟨y, hy, hfault⟩ := ih h
        exact ⟨y, by simp [hy], hfault⟩

/-! ## Computations that agree -/

/-- Whether two computations are the same, and fail in an allowed way only. -/
def Agree (allowed : ε → Prop) (e e' : Except ε α) : Prop :=
  e = e' ∧ ∀ fault, e = .error fault → allowed fault

variable {allowed : ε → Prop} {e e' : Except ε α}

theorem agree_ok (a : α) : Agree allowed (.ok a) (.ok a) := ⟨rfl, fun _ h => by cases h⟩

theorem Agree.bind {next next' : α → Except ε β} (h : Agree allowed e e')
    (hnext : ∀ a, e = .ok a → Agree allowed (next a) (next' a)) :
    Agree allowed (e >>= next) (e' >>= next') := by
  obtain ⟨rfl, hfault⟩ := h
  cases e with
  | error fault =>
    refine ⟨rfl, fun other hother => ?_⟩
    cases hother
    exact hfault fault rfl
  | ok a => exact hnext a rfl

theorem Agree.map (f : α → β) (h : Agree allowed e e') :
    Agree allowed (e.map f) (e'.map f) := by
  obtain ⟨rfl, hfault⟩ := h
  cases e with
  | error fault =>
    refine ⟨rfl, fun other hother => ?_⟩
    cases hother
    exact hfault fault rfl
  | ok a => exact agree_ok (f a)

theorem agree_error {fault : ε} (h : allowed fault) :
    Agree allowed (.error fault : Except ε α) (.error fault) := by
  refine ⟨rfl, fun other hother => ?_⟩
  cases hother
  exact h

theorem agree_mapM {f g : α → Except ε β} {xs : List α}
    (h : ∀ x ∈ xs, Agree allowed (f x) (g x)) : Agree allowed (xs.mapM f) (xs.mapM g) := by
  induction xs with
  | nil => exact agree_ok []
  | cons x xs ih =>
    rw [List.mapM_cons, List.mapM_cons]
    refine (h x (by simp)).bind fun y _ => ?_
    exact (ih fun z hz => h z (by simp [hz])).bind fun ys _ => agree_ok (y :: ys)

theorem agree_forM {f g : α → Except ε Unit} {xs : List α}
    (h : ∀ x ∈ xs, Agree allowed (f x) (g x)) : Agree allowed (xs.forM f) (xs.forM g) := by
  induction xs with
  | nil => exact agree_ok ()
  | cons x xs ih =>
    rw [List.forM_eq_forM, List.forM_cons, List.forM_cons]
    exact (h x (by simp)).bind fun _ _ => ih fun z hz => h z (by simp [hz])

/-- Each result of a walk is that of an item. -/
theorem exists_of_mem_mapM {f : α → Except ε β} {xs : List α} {ys : List β}
    (h : xs.mapM f = .ok ys) {y : β} (hy : y ∈ ys) : ∃ x ∈ xs, f x = .ok y := by
  induction xs generalizing ys with
  | nil =>
    cases h
    cases hy
  | cons x xs ih =>
    rw [List.mapM_cons] at h
    obtain ⟨z, hz, h⟩ := bind_eq_ok.1 h
    obtain ⟨zs, hzs, h⟩ := bind_eq_ok.1 h
    cases h
    rcases List.mem_cons.1 hy with rfl | hy
    · exact ⟨x, by simp, hz⟩
    · obtain ⟨w, hw, hwy⟩ := ih hzs hy
      exact ⟨w, by simp [hw], hwy⟩

/-- A walk succeeds if no item fails. -/
theorem mapM_eq_ok {f : α → Except ε β} {g : α → β} {xs : List α} (h : ∀ x ∈ xs, f x = .ok (g x)) :
    xs.mapM f = .ok (xs.map g) := by
  induction xs with
  | nil => rfl
  | cons x xs ih =>
    rw [List.mapM_cons, h x (by simp), ih fun y hy => h y (by simp [hy])]
    rfl

/-- A walk over items some of which fail ends with the fault of the first of these. -/
theorem exists_first_error {f : α → Except ε β} {xs : List α}
    (h : ∃ x ∈ xs, ∃ fault, f x = .error fault) :
    ∃ front x back fault, xs = front ++ x :: back ∧ (∀ y ∈ front, ∃ b, f y = .ok b) ∧
      f x = .error fault ∧ xs.mapM f = .error fault := by
  induction xs with
  | nil => simp at h
  | cons x xs ih =>
    rw [List.mapM_cons]
    cases hx : f x with
    | error fault => exact ⟨[], x, xs, fault, rfl, by simp, hx, rfl⟩
    | ok b =>
      have hrest : ∃ y ∈ xs, ∃ fault, f y = .error fault := by
        obtain ⟨y, hy, fault, hfault⟩ := h
        rcases List.mem_cons.1 hy with rfl | hy
        · cases hx.symm.trans hfault
        · exact ⟨y, hy, fault, hfault⟩
      obtain ⟨front, y, back, fault, rfl, hfront, hy, hwalk⟩ := ih hrest
      refine ⟨x :: front, y, back, fault, rfl, fun z hz => ?_, hy, ?_⟩
      · rcases List.mem_cons.1 hz with rfl | hz
        · exact ⟨b, hx⟩
        · exact hfront z hz
      · rw [hwalk]
        rfl

/-- Whether two computations both succeed with related results or both fail for related reasons. -/
inductive Alike {δ : Type} (reasons : ε → δ → Prop) (results : α → β → Prop) :
    Except ε α → Except δ β → Prop
  | ok {a : α} {b : β} : results a b → Alike reasons results (.ok a) (.ok b)
  | error {f : ε} {g : δ} : reasons f g → Alike reasons results (.error f) (.error g)

theorem Alike.mono {δ : Type} {reasons : ε → δ → Prop} {results more : α → β → Prop}
    {e : Except ε α} {e' : Except δ β} (h : Alike reasons results e e')
    (hmore : ∀ a b, results a b → more a b) : Alike reasons more e e' := by
  cases h with
  | ok h => exact .ok (hmore _ _ h)
  | error h => exact .error h

theorem Alike.bind {δ γ κ : Type} {reasons : ε → δ → Prop} {results : α → β → Prop}
    {more : γ → κ → Prop} {e : Except ε α} {e' : Except δ β} {next : α → Except ε γ}
    {next' : β → Except δ κ} (h : Alike reasons results e e')
    (hnext : ∀ a b, results a b → Alike reasons more (next a) (next' b)) :
    Alike reasons more (e >>= next) (e' >>= next') := by
  cases h with
  | ok h => exact hnext _ _ h
  | error h => exact .error h

end ValueSets.Fallible
