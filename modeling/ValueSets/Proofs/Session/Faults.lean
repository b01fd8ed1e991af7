import ValueSets.Proofs.Listing
import ValueSets.Proofs.Session.SortKeys

/-!
# What does not fail

Most of what a request to a set by key is made of does not fail at all: making objects, taking new
sets into the session, listing and printing. Printing goes through a level of nesting for the set,
and through one more for its members, which are hashable and hold no set themselves, and whose
numbers have few enough digits.
-/

set_option autoImplicit false

namespace ValueSets

open Session Value

namespace Act

variable {α β : Type} {t : Session} {allowed : Fault → Prop}

/-! ## What does not fail -/

theorem failsFor_create (v : Value) : FailsFor allowed t (create v) := by
  cases v <;> exact failsFor_of_ok rfl

theorem failsFor_fresh (v : Value) : FailsFor allowed t (fresh v) := by
  unfold fresh
  split
  · exact failsFor_pure v
  · exact failsFor_create v

theorem outcome_sameness (t : Session) : outcome sameness t = (.ok t.sameness, t) := rfl

theorem outcome_ask (h : Handle) (question : Sameness → Collection → Except Fault Bool)
    (t : Session) : outcome (ask h question) t = (question t.sameness (t.collection h), t) := by
  unfold ask
  rw [outcome_bind_of_ok (outcome_sameness t), outcome_bind_of_ok (outcome_fetch h t)]
  exact outcome_ofExcept _ t

theorem failsFor_allocateCopy {c : Collection} (hc : c.standIn? = none) :
    FailsFor allowed t (allocateCopy c) := by
  obtain ⟨config, u, hsettled, -⟩ := outcome_settleConfig hc t
  exact failsFor_bind_of_ok hsettled (failsFor_of_ok rfl)

theorem failsFor_allocate (ht : t.Sound) {c : Collection} (hc : c.standIn? = none) :
    FailsFor allowed t (allocate c) := by
  obtain ⟨config, u, hallocated, -⟩ := outcome_allocate ht hc
  exact failsFor_of_ok hallocated

/-- Answering a new set fails as making it does. -/
theorem failsFor_answerSet (ht : t.Sound) {e : Except Fault Collection}
    (he : ∀ fault, e = .error fault → allowed fault)
    (hown : ∀ c, e = .ok c → c.standIn? = none) : FailsFor allowed t (answerSet e) := by
  unfold answerSet
  cases e with
  | error fault => exact (failsFor_ofExcept he).bind fun c u h => by cases h
  | ok c =>
    refine failsFor_bind_of_ok (outcome_ofExcept _ t) ?_
    exact (failsFor_allocate ht (hown c rfl)).bind fun _ _ _ => failsFor_pure _

/-! ## Listing and printing -/

/-- A lawful set of the session is listed. -/
theorem exists_outcome_list {c : Collection} (hc : c.Lawful) (t : Session) :
    ∃ ys log, outcome (list c) t = (.ok ys, { t with log }) ∧ ys ⊆ c.members := by
  obtain ⟨ys, hys⟩ := hc.exists_list t
  rw [Collection.outcome_list hc.ownConfig, hys]
  exact ⟨ys, _, rfl, (Collection.perm_of_list hys).subset⟩

theorem outcome_print_of_isHashable {classes : List SetClass} (ht : t.Untouched) {v : Value}
    (hv : v.isHashable = true) (hground : v.Grounded classes) :
    outcome (print v) t = (.ok v.literal, t) := by
  obtain ⟨known, hknown⟩ := exists_simple hv
  rw [outcome_print ht hknown, written_eq hground]

/-- Where there is a set, values may be nested two deep. -/
theorem exists_depth_of_collections (h : t.collections ≠ []) : ∃ depth, t.depth = depth + 2 := by
  have hlength := List.length_pos_iff.2 h
  refine ⟨t.depth - 2, ?_⟩
  have hle : 2 ≤ t.depth := by
    unfold depth
    calc 2 ≤ (t.collections.length + t.reached.length + 1) * 1 := by omega
      _ ≤ _ := Nat.mul_le_mul_left _ (by omega)
  omega

/-- A lawful set of the session is printed: the literals of its members stand between brackets, in
the order in which they are listed. -/
theorem exists_outcome_print_handle {classes : List SetClass} (ht : t.Untouched) {h : Handle}
    (hset : t.collections ≠ []) (hc : (t.collection h).Lawful)
    (hms : AllGrounded classes (t.collection h).members) :
    ∃ ys log, outcome (list (t.collection h)) t = (.ok ys, { t with log }) ∧
      outcome (print (.handle h)) t = (.ok ((t.collection h).cls.name ++ "(" ++
        bracketed "[" "]" (ys.map literal) ++ ")"), { t with log }) := by
  obtain ⟨depth, hdepth⟩ := exists_depth_of_collections hset
  obtain ⟨ys, log, hlist, hys⟩ := exists_outcome_list hc t
  let u : Session := { t with log }
  have hu : u.Untouched := ⟨ht.reached, ht.fields⟩
  have hitems : outcome (ys.mapM (printTo (depth + 1) [])) u = (.ok (ys.map literal), u) := by
    have heach : outcome (ys.mapM (printTo (depth + 1) [])) u =
        (ys.mapM fun y => pure y.literal, u) := by
      refine outcome_mapM fun y hy => ?_
      obtain ⟨known, hknown⟩ := exists_simple (hc.hashable y (hys hy))
      rw [outcome_printTo hu hknown depth []]
      exact congrArg (·, u) (written_eq (hms y (hys hy)))
    rw [heach, List.mapM_pure]
    rfl
  refine ⟨ys, log, hlist, ?_⟩
  unfold print
  rw [outcome_bind_of_ok (outcome_get t), hdepth]
  show outcome (do
    let c ← fetch h
    let items ← (← list c).mapM (printTo (depth + 1) [])
    return c.cls.name ++ "(" ++ bracketed "[" "]" items ++ ")") t = _
  rw [outcome_bind_of_ok (outcome_fetch h t), outcome_bind_of_ok hlist, outcome_bind_of_ok hitems]
  rfl

end Act

end ValueSets
