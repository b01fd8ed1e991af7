import ValueSets.Collection.Method
import ValueSets.Proofs.Collection.Dropping

/-!
# What calls do to the keys of a set

A call that changes a set, with its arguments and its answer, is an event. It puts keys or drops
some: adding puts the keys of its arguments if it succeeds, dropping drops those it gets to before
it fails, emptying drops all, and taking out a member drops the key of what it answers. That is all
it does to the keys of a lawful set (`Event.Turns`), so whether a set has a key after a row of
events is decided by the last one that puts it (`Event.Keeps`).
-/

set_option autoImplicit false

namespace ValueSets

open Value

/-- A call of a changing method on a set: its arguments by position, and its answer. -/
structure Event where
  method : Method
  args : List Value
  answer : Except Fault Value

namespace Event

/-- The arguments that are dropped from a set that takes such values. A call that fails at an
argument stops there: that is the first which is taken and cannot be hashed. -/
def dropped (takes : Value → Bool) (e : Event) : List Value :=
  match e.answer with
  | .ok _ => e.args.filter takes
  | .error (.unhashable _) => (e.args.takeWhile fun x => x.isHashable || !takes x).filter takes
  | .error _ => []

/-- Whether an event adds a key. -/
def puts (e : Event) (y : Value) : Bool :=
  match e.method, e.answer with
  | .insert, .ok _ => hasKey y e.args
  | _, _ => false

/-- Whether an event drops a key from a set that takes such values. -/
def drops (takes : Value → Bool) (e : Event) (y : Value) : Bool :=
  match e.method, e.answer with
  | .delete, _ => hasKey y (e.dropped takes)
  | .clear, .ok _ => true
  | .pop, .ok v => v.sameKey y
  | _, _ => false

/-- Whether one set has the keys of another one, with those that an event puts and without those
that it drops. -/
def Turns (e : Event) (c d : Collection) : Prop :=
  ∀ y, hasKey y d.members = ((hasKey y c.members || e.puts y) && !e.drops c.takes y)

variable {c d : Collection} {xs : List Value} {r : Except Fault Value}

/-- A refused call leaves the keys as they are. -/
theorem turns_self {m : Method} {fault : CallFault} : Turns ⟨m, xs, .error (.call fault)⟩ c c := by
  intro y
  cases m <;> simp [puts, drops, dropped]

theorem turns_insert (hc : c.Lawful) (same : Collection → Sameness) (xs : List Value) :
    Turns ⟨.insert, xs, (c.insert same xs).1.map fun _ => .null⟩ c (c.insert same xs).2 := by
  intro y
  rw [hc.insert_eq]
  cases hinsert : Keyed.insert c xs with
  | error fault => simp [Except.map, puts, drops]
  | ok d =>
    obtain ⟨-, rfl⟩ := Keyed.insert_eq_ok_iff.1 hinsert
    simp [Except.map, puts, drops, Members.hasKey_addAll]

/-- Dropping elements leaves the keys that are not among the elements it gets to. -/
theorem hasKey_delete (c : Collection) (xs : List Value) (y : Value) :
    hasKey y (Keyed.delete c xs).2.members = (hasKey y c.members &&
      !hasKey y (dropped c.takes ⟨.delete, xs, (Keyed.delete c xs).1.map fun _ => .null⟩)) := by
  rw [Keyed.delete_eq_remaining]
  unfold Collection.dropping
  cases hobstacle : c.obstacle? xs with
  | none =>
    rw [Collection.remaining_eq_kept hobstacle]
    exact Members.hasKey_without _ _ y
  | some x =>
    have hgoes : (fun x => x.isHashable || !c.takes x) = fun x => !c.stopsAt x := by
      funext x
      unfold Collection.stopsAt
      rw [Bool.not_and, Bool.not_not, Bool.or_comm]
    have hdropped : dropped c.takes ⟨.delete, xs, .error (.unhashable x)⟩ = c.sought xs := by
      unfold dropped Collection.sought
      rw [← hgoes]
    simp only [Except.map, hdropped]
    exact Members.hasKey_without _ _ y

theorem turns_delete (hc : c.Lawful) (same : Collection → Sameness) (xs : List Value) :
    Turns ⟨.delete, xs, (c.delete same xs).1.map fun _ => .null⟩ c (c.delete same xs).2 := by
  intro y
  rw [hc.delete_eq, hasKey_delete]
  simp [puts, drops]

theorem turns_clear (xs : List Value) (v : Value) : Turns ⟨.clear, xs, .ok v⟩ c c.cleared := by
  intro y
  simp [Collection.cleared, drops]

/-- Taking a member out drops its key. -/
theorem turns_pop (c : Collection) (x : Value) :
    Turns ⟨.pop, xs, .ok x⟩ c (c.holding (Members.drop c.members x)) := by
  intro y
  simp [puts, drops, Members.hasKey_drop]

/-- Taking a member out of an empty set leaves it empty, whatever is answered. -/
theorem turns_pop_nil (hmembers : c.members = []) : Turns ⟨.pop, xs, r⟩ c c := by
  intro y
  simp [hmembers, puts]

/-! ## Rows of events -/

/-- Whether a key stays that the last event which puts it put, out of a row of events on a set that
takes such values. -/
def Keeps (takes : Value → Bool) (es : List Event) (y : Value) : Prop :=
  ∃ before e after, es = before ++ e :: after ∧ e.puts y = true ∧
    ∀ e' ∈ after, e'.puts y = false ∧ e'.drops takes y = false

theorem drops_of_puts {takes : Value → Bool} {e : Event} {y : Value} (h : e.puts y = true) :
    e.drops takes y = false := by
  obtain ⟨m, xs, r⟩ := e
  unfold puts at h
  split at h
  · rename_i hm hr
    cases hm
    rfl
  · cases h

theorem keeps_singleton {takes : Value → Bool} {e : Event} {y : Value} :
    Keeps takes [e] y ↔ e.puts y = true := by
  constructor
  · rintro ⟨before, e', after, heq, hputs, -⟩
    have hmem : e' ∈ [e] := heq ▸ by simp
    rw [List.mem_singleton.1 hmem] at hputs
    exact hputs
  · intro h
    exact ⟨[], e, [], rfl, h, by simp⟩

/-- One event more keeps the keys that it puts, and of those before it the ones it does not drop. -/
theorem keeps_snoc {takes : Value → Bool} {es : List Event} {e : Event} {y : Value} :
    Keeps takes (es ++ [e]) y ↔
      (Keeps takes es y ∨ e.puts y = true) ∧ e.drops takes y = false := by
  constructor
  · rintro ⟨before, e', after, heq, hputs, hafter⟩
    rcases List.eq_nil_or_concat after with rfl | ⟨after, last, rfl⟩
    · obtain ⟨-, hlast⟩ := List.append_inj' heq rfl
      cases hlast
      exact ⟨.inr hputs, drops_of_puts hputs⟩
    · have hsplit : es ++ [e] = (before ++ e' :: after) ++ [last] := by
        rw [heq]
        simp
      obtain ⟨hes, hlast⟩ := List.append_inj' hsplit rfl
      cases hlast
      refine ⟨.inl ⟨before, e', after, hes, hputs, fun f hf => hafter f (by simp [hf])⟩, ?_⟩
      exact (hafter e (by simp)).2
  · rintro ⟨hkept, hdrops⟩
    cases hputs : e.puts y with
    | true => exact ⟨es, e, [], rfl, hputs, by simp⟩
    | false =>
      obtain ⟨before, e', after, rfl, hputs', hafter⟩ := hkept.resolve_right (by simp [hputs])
      refine ⟨before, e', after ++ [e], by simp, hputs', fun f hf => ?_⟩
      rcases List.mem_append.1 hf with hf | hf
      · exact hafter f hf
      · rw [List.mem_singleton.1 hf]
        exact ⟨hputs, hdrops⟩

/-- If the keys of a set are those that a row of events keeps, then those of the set that a further
event turns it into are those that the longer row keeps. -/
theorem Turns.keeps {e : Event} {es : List Event} (h : e.Turns c d)
    (hes : ∀ y, hasKey y c.members = true ↔ Keeps c.takes es y) (y : Value) :
    hasKey y d.members = true ↔ Keeps c.takes (es ++ [e]) y := by
  rw [h y, keeps_snoc, ← hes y]
  simp

end Event

end ValueSets
