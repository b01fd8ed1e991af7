import ValueSets.Proofs.Session.Reading
import ValueSets.Proofs.Value.Places
import ValueSets.Session.Term

/-!
# Evaluating terms

Evaluating the arguments of a step makes objects and reads variables, but leaves the sets and the
variables alone, and the values are grounded: a number is read only if it can be written, too.
Nothing is handed over to the log by then, so what is found there after a step comes of the step.
-/

set_option autoImplicit false

namespace ValueSets

open Act Session Value

namespace Term

variable {s : Session}

theorem quiet_readWhole (n : Int) :
    Quiet s (readWhole n) fun m => m = n ∧ n.natAbs < Decimal.digitBound := by
  unfold readWhole
  split
  · rename_i hn
    exact quiet_pure ⟨rfl, hn⟩
  · exact quiet_throw _

/-- Reducing a fraction does not lengthen its numbers. -/
theorem grounded_mkRat {classes : List SetClass} {n : Int} {d : Nat}
    (hn : n.natAbs < Decimal.digitBound) (hd : d < Decimal.digitBound) (hzero : d ≠ 0) :
    (Value.fraction (mkRat n d)).Grounded classes := by
  rw [grounded_fraction, checkDigits_eq_ok, checkDigits_eq_ok, Rat.num_mkRat, Rat.den_mkRat,
    if_neg hzero, if_neg hzero]
  exact ⟨Nat.lt_of_le_of_lt (Int.natAbs_ediv_le_natAbs _ _) hn,
    Nat.lt_of_le_of_lt (Nat.div_le_self _ _) hd⟩

theorem quiet_readFraction (numerator : Int) (denominator : Nat) :
    Quiet s (readFraction numerator denominator) fun q =>
      (Value.fraction q).Grounded s.classes := by
  unfold readFraction
  refine (quiet_readWhole _).bind fun p hp => (quiet_readWhole _).bind fun q hq => ?_
  obtain ⟨⟨rfl, hn⟩, rfl, hd⟩ := And.intro hp hq
  split
  · exact quiet_throw _
  · rename_i hzero
    exact quiet_pure (grounded_mkRat hn hd fun h => hzero (congrArg Nat.cast h))

theorem quiet_freshGrounded {v : Value} (hv : v.NoSet s.classes) :
    Quiet s (fresh v) (Grounded s.classes) := (quiet_fresh hv).mono fun _ hw => hw.1

theorem quiet_freshPlain {v : Value} (hv : v.references = []) :
    Quiet s (fresh v) (Grounded s.classes) := quiet_freshGrounded (noSet_of_no_references hv)

mutual

/-- A term has a grounded value. -/
theorem quiet_eval : (t : Term) → Quiet s t.eval (Grounded s.classes)
  | .null | .bool _ | .color _ | .level _ | .type _ => quiet_pure (grounded_of_no_references rfl)
  | .int n => (quiet_readWhole n).bind fun m hm =>
    quiet_freshGrounded ⟨grounded_int.2 (checkDigits_eq_ok.2 (hm.1 ▸ hm.2)), by simp⟩
  | .fraction p q => (quiet_readFraction p q).bind fun q hq => quiet_freshGrounded ⟨hq, by simp⟩
  | .float _ | .text _ | .symbol _ | .bytes _ => quiet_freshPlain rfl
  | .tuple items => by
    refine (quiet_evalAll items).bind fun vs hvs => ?_
    exact quiet_freshGrounded ⟨grounded_tuple.2 hvs, by simp⟩
  | .list items => by
    refine (quiet_evalAll items).bind fun vs hvs => ?_
    exact quiet_freshGrounded ⟨grounded_list.2 hvs, by simp⟩
  | .table entries => by
    refine (quiet_evalEntries entries).bind fun es hes => ?_
    exact quiet_freshGrounded ⟨grounded_table.2 hes.merge, by simp⟩
  | .set items => by
    refine (quiet_evalKeys items).bind fun vs hvs => ?_
    have hset : (Slots.ofKeys vs).toSet.Grounded s.classes :=
      grounded_toSet.2 (Slots.each_ofKeys hvs)
    exact quiet_freshGrounded ⟨hset, by simp [Slots.toSet]⟩
  | .frozenSet items => by
    refine (quiet_evalKeys items).bind fun vs hvs => ?_
    have hset : (Slots.ofKeys vs).toFrozenSet.Grounded s.classes :=
      grounded_toFrozenSet.2 (Slots.each_ofKeys hvs)
    exact quiet_freshGrounded ⟨hset, by simp [Slots.toFrozenSet]⟩
  | .named name => by
    unfold eval
    refine quiet_get.bind fun t ht => ?_
    cases hv : t.value? name with
    | none => exact quiet_throw _
    | some v => exact quiet_pure (ht.classes_eq ▸ ht.sound.value hv)

theorem quiet_evalAll : (ts : List Term) → Quiet s (evalAll ts) (AllGrounded s.classes)
  | [] => quiet_pure allGrounded_nil
  | t :: ts => by
    refine (quiet_eval t).bind fun v hv => (quiet_evalAll ts).bind fun vs hvs => ?_
    exact quiet_pure (allGrounded_cons.2 ⟨hv, hvs⟩)

theorem quiet_evalKeys : (ts : List Term) → Quiet s (evalKeys ts) (AllGrounded s.classes)
  | [] => quiet_pure allGrounded_nil
  | t :: ts => by
    refine (quiet_eval t).bind fun v hv => ?_
    refine (quiet_ofExcept fun _ _ => trivial).bind fun _ _ => ?_
    refine (quiet_evalKeys ts).bind fun vs hvs => ?_
    exact quiet_pure (allGrounded_cons.2 ⟨hv, hvs⟩)

theorem quiet_evalEntries : (es : List (Term × Term)) →
    Quiet s (evalEntries es) (EntriesGrounded s.classes)
  | [] => quiet_pure fun _ he => by cases he
  | (k, t) :: es => by
    refine (quiet_eval k).bind fun key hkey => (quiet_eval t).bind fun v hv => ?_
    refine (quiet_ofExcept fun _ _ => trivial).bind fun _ _ => ?_
    refine (quiet_evalEntries es).bind fun rest hrest => ?_
    exact quiet_pure (entriesGrounded_cons.2 ⟨⟨hkey, hv⟩, hrest⟩)

end

/-- Whether the values of named arguments are grounded. -/
def NamedGrounded (classes : List SetClass) (named : List (String × Value)) : Prop :=
  ∀ b ∈ named, b.2.Grounded classes

theorem quiet_evalNamed (ts : List (String × Term)) :
    Quiet s (evalNamed ts) (NamedGrounded s.classes) := by
  induction ts with
  | nil => exact quiet_pure fun b hb => by cases hb
  | cons entry ts ih =>
    obtain ⟨name, t⟩ := entry
    refine (quiet_eval t).bind fun v hv => ih.bind fun rest hrest => quiet_pure fun b hb => ?_
    rcases List.mem_cons.1 hb with rfl | hb
    · exact hv
    · exact hrest b hb

end Term

/-! ## The log -/

namespace Act

variable {α β : Type}

/-- Whether an action hands nothing over to the log. -/
def Silent (m : Act α) : Prop := ∀ t, (outcome m t).2.log = t.log

theorem silent_pure (a : α) : Silent (pure a : Act α) := fun _ => rfl

theorem silent_throw (fault : Fault) : Silent (throw fault : Act α) := fun _ => rfl

theorem silent_ofExcept (e : Except Fault α) : Silent (MonadExcept.ofExcept e : Act α) := by
  intro t
  rw [outcome_ofExcept]

theorem Silent.bind {m : Act α} {f : α → Act β} (hm : Silent m) (hf : ∀ a, Silent (f a)) :
    Silent (m >>= f) := by
  intro t
  have hfirst := hm t
  rw [outcome_bind]
  cases h : outcome m t with
  | mk r u =>
    rw [h] at hfirst
    cases r with
    | error fault => exact hfirst
    | ok a => exact (hf a u).trans hfirst

theorem silent_create (v : Value) : Silent (create v) := by
  intro t
  cases v with
  | _ => rfl

theorem silent_fresh (v : Value) : Silent (fresh v) := by
  unfold fresh
  split
  · exact silent_pure v
  · exact silent_create v

end Act

namespace Term

theorem silent_readWhole (n : Int) : Silent (readWhole n) := by
  unfold readWhole
  split
  · exact silent_pure n
  · exact silent_throw _

theorem silent_readFraction (numerator : Int) (denominator : Nat) :
    Silent (readFraction numerator denominator) := by
  unfold readFraction
  refine (silent_readWhole _).bind fun p => (silent_readWhole _).bind fun q => ?_
  split
  · exact silent_throw _
  · exact silent_pure _

mutual

/-- Evaluating a term hands nothing over to the log. -/
theorem silent_eval : (t : Term) → Silent t.eval
  | .null | .bool _ | .color _ | .level _ | .type _ => silent_pure _
  | .int n => (silent_readWhole n).bind fun _ => silent_fresh _
  | .fraction p q => (silent_readFraction p q).bind fun _ => silent_fresh _
  | .float _ | .text _ | .symbol _ | .bytes _ => silent_fresh _
  | .tuple items | .list items => (silent_evalAll items).bind fun _ => silent_fresh _
  | .table entries => (silent_evalEntries entries).bind fun _ => silent_fresh _
  | .set items | .frozenSet items => (silent_evalKeys items).bind fun _ => silent_fresh _
  | .named name => by
    intro t
    unfold eval
    rw [outcome_bind, outcome_get]
    dsimp only
    cases t.value? name <;> rfl

theorem silent_evalAll : (ts : List Term) → Silent (evalAll ts)
  | [] => silent_pure []
  | t :: ts => (silent_eval t).bind fun _ => (silent_evalAll ts).bind fun _ => silent_pure _

theorem silent_evalKeys : (ts : List Term) → Silent (evalKeys ts)
  | [] => silent_pure []
  | t :: ts => (silent_eval t).bind fun _ => (silent_ofExcept _).bind fun _ =>
    (silent_evalKeys ts).bind fun _ => silent_pure _

theorem silent_evalEntries : (es : List (Term × Term)) → Silent (evalEntries es)
  | [] => silent_pure []
  | (k, t) :: es => (silent_eval k).bind fun _ => (silent_eval t).bind fun _ =>
    (silent_ofExcept _).bind fun _ => (silent_evalEntries es).bind fun _ => silent_pure _

end

theorem silent_evalNamed (ts : List (String × Term)) : Silent (evalNamed ts) := by
  induction ts with
  | nil => exact silent_pure []
  | cons entry ts ih => exact (silent_eval entry.2).bind fun _ => ih.bind fun _ => silent_pure _

end Term

end ValueSets
