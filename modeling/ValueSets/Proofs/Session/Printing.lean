import ValueSets.Proofs.Session.Reading

/-!
# Printing

Printing a value in a sound session looks at all of the session but its log, and leaves nothing
behind but notices of listings there, however deep the value is nested, and whether its handles are
grounded or not: `Act.recounts_print`. So the sets and variables stay what they are, and a value
that is printed twice is printed alike.

`Act.Recounts` says this of any action, with a rule for each way in which actions are put together.
The order in which sets are listed is that of the values of the session, which its log has no part
in.
-/

set_option autoImplicit false

namespace ValueSets

open Session Value

namespace Session

theorem samenessTo_withLog (t : Session) (log : List Notice) (depth : Nat) :
    samenessTo { t with log } depth = t.samenessTo depth := by
  induction depth with
  | zero => rfl
  | succ depth ih =>
    unfold samenessTo
    rw [ih]
    rfl

theorem isOrderedTo_withLog (t : Session) (log : List Notice) (o : Order) (depth : Nat) :
    isOrderedTo { t with log } o depth = t.isOrderedTo o depth := by
  have hsame : sameness { t with log } = t.sameness := samenessTo_withLog t log t.depth
  induction depth with
  | zero => rfl
  | succ depth ih =>
    unfold isOrderedTo
    rw [ih, hsame]
    rfl

end Session

namespace Act

variable {α β γ : Type} {s t : Session}

/-- Whether an action looks at all of a session but its log, where it leaves notices of listings
that follow no order, and leaves nothing else behind. -/
def Recounts (t : Session) (m : Act α) : Prop :=
  ∃ r, ∃ listed : List SetClass,
    ∀ log, outcome m { t with log } = (r, { t with log := log ++ listed.map .unordered })

/-- An action that leaves the log as it is, too, recounts. -/
theorem recounts_of_outcome {m : Act α} {r : Except Fault α}
    (h : ∀ log, outcome m { t with log } = (r, { t with log })) : Recounts t m :=
  ⟨r, [], fun log => by simp [h]⟩

theorem recounts_pure (a : α) : Recounts t (pure a : Act α) :=
  recounts_of_outcome fun _ => outcome_pure a _

theorem recounts_throw (fault : Fault) : Recounts t (throw fault : Act α) :=
  recounts_of_outcome fun _ => outcome_throw fault _

theorem recounts_ofExcept (e : Except Fault α) : Recounts t (MonadExcept.ofExcept e : Act α) :=
  recounts_of_outcome fun _ => outcome_ofExcept e _

theorem recounts_note (cls : SetClass) : Recounts t (note (.unordered cls)) :=
  ⟨.ok (), [cls], fun _ => rfl⟩

/-- Two parts that recount do so together: the notices of the second stand behind those of the
first. -/
theorem Recounts.bind {m : Act α} {f : α → Act β} (hm : Recounts t m)
    (hf : ∀ a, Recounts t (f a)) : Recounts t (m >>= f) := by
  obtain ⟨r, listed, hm⟩ := hm
  cases r with
  | error fault =>
    refine ⟨.error fault, listed, fun log => ?_⟩
    rw [outcome_bind, hm]
  | ok a =>
    obtain ⟨r, further, hf⟩ := hf a
    refine ⟨r, listed ++ further, fun log => ?_⟩
    rw [outcome_bind, hm]
    dsimp only
    rw [hf, List.map_append, List.append_assoc]

/-- What is read off a session is the same whatever its log is. -/
theorem recounts_bind_of_ok {m : Act α} {f : α → Act β} {a : α}
    (hm : ∀ log, outcome m { t with log } = (.ok a, { t with log })) (hf : Recounts t (f a)) :
    Recounts t (m >>= f) := by
  obtain ⟨r, listed, hf⟩ := hf
  refine ⟨r, listed, fun log => ?_⟩
  rw [outcome_bind, hm]
  exact hf log

theorem recounts_get {f : Session → Act α} (hf : ∀ log, f { t with log } = f t)
    (h : Recounts t (f t)) : Recounts t (get >>= f) := by
  obtain ⟨r, listed, h⟩ := h
  refine ⟨r, listed, fun log => ?_⟩
  rw [outcome_bind, outcome_get]
  dsimp only
  rw [hf]
  exact h log

theorem Recounts.map {m : Act α} (hm : Recounts t m) (f : α → β) : Recounts t (f <$> m) := by
  rw [map_eq_pure_bind]
  exact hm.bind fun a => recounts_pure (f a)

theorem recounts_mapM {f : γ → Act α} (hf : ∀ x, Recounts t (f x)) (xs : List γ) :
    Recounts t (xs.mapM f) := by
  induction xs with
  | nil => exact recounts_pure []
  | cons x xs ih =>
    rw [List.mapM_cons]
    exact (hf x).bind fun y => ih.bind fun ys => recounts_pure (y :: ys)

/-- An action that recounts leaves the sets alone. -/
theorem quiet_of_recounts {m : Act α} (hm : ∀ t, s.Like t → Recounts t m) :
    Quiet s m fun _ => True := by
  intro t ht
  obtain ⟨r, listed, hm⟩ := hm t ht
  have hout : outcome m t = (r, { t with log := t.log ++ listed.map .unordered }) := hm t.log
  rw [hout]
  exact ⟨ht.withLog _, fun _ _ => trivial⟩

/-! ## Listing -/

theorem recounts_list {c : Collection} (hc : c.standIn? = none) : Recounts t (list c) := by
  have horder : ∀ log,
      outcome precedence { t with log } = (.ok (t.isOrdered .less), { t with log }) :=
    fun log => congrArg (fun before => (Except.ok before, _)) (isOrderedTo_withLog t log .less _)
  have hlist : Recounts t (do MonadExcept.ofExcept (c.list (← precedence)) : Act (List Value)) :=
    recounts_bind_of_ok horder (recounts_ofExcept _)
  unfold list
  rw [hc]
  dsimp only
  unfold listConfigured
  split
  · exact (recounts_note c.cls).bind fun _ => hlist
  · exact hlist

/-! ## Printing -/

section

variable {printWhole : Int → Act String} {printHeld : List Value → Value → Act String}

theorem recounts_literalsM {around vs : List Value}
    (h : ∀ v ∈ vs, ∀ around, Recounts t (literalM printWhole printHeld around v)) :
    Recounts t (literalsM printWhole printHeld around vs) := by
  induction vs with
  | nil => exact recounts_pure []
  | cons v vs ih =>
    unfold literalsM
    refine (h v (by simp) around).bind fun item => ?_
    exact (ih fun w hw => h w (by simp [hw])).bind fun items => recounts_pure (item :: items)

theorem recounts_entryLiteralsM {around : List Value} {es : List (Value × Value)}
    (h : ∀ e ∈ es, ∀ around, Recounts t (literalM printWhole printHeld around e.1) ∧
      Recounts t (literalM printWhole printHeld around e.2)) :
    Recounts t (entryLiteralsM printWhole printHeld around es) := by
  induction es with
  | nil => exact recounts_pure []
  | cons e es ih =>
    obtain ⟨hkey, hvalue⟩ := h e (by simp) around
    unfold entryLiteralsM
    refine hkey.bind fun _ => hvalue.bind fun _ => ?_
    exact (ih fun d hd => h d (by simp [hd])).bind fun _ => recounts_pure _

/-- Printing recounts if printing whole numbers and what is held elsewhere does. -/
theorem recounts_literalM (hwhole : ∀ n, Recounts t (printWhole n))
    (hheld : ∀ around w, Recounts t (printHeld around w)) (v : Value) (around : List Value) :
    Recounts t (literalM printWhole printHeld around v) := by
  induction v using Value.inductionOn generalizing around with
  | tuple items identity ih =>
    unfold literalM
    split
    · exact recounts_pure _
    · exact (recounts_literalsM ih).map _
  | list items ih => exact (recounts_literalsM ih).map _
  | set items layout ih => exact (recounts_literalsM ih).map _
  | frozenSet items identity layout ih => exact (recounts_literalsM ih).map _
  | table es ih =>
    refine (recounts_entryLiteralsM fun e he around => ?_).map _
    exact ⟨(ih e he).1 around, (ih e he).2 around⟩
  | flat w hflat =>
    cases w with
    | tuple | list | table | set | frozenSet => cases hflat
    | int n => exact hwhole n
    | fraction q => exact (hwhole q.num).bind fun _ => (hwhole q.den).bind fun _ => recounts_pure _
    | config | box | handle => exact hheld around _
    | _ => exact recounts_pure _

end

theorem recounts_printTo (ht : t.Sound) (depth : Nat) (v : Value) (around : List Value) :
    Recounts t (printTo depth around v) := by
  induction depth generalizing v around with
  | zero => exact recounts_throw _
  | succ depth ih =>
    refine recounts_literalM (fun _ => recounts_ofExcept _) (fun around w => ?_) v around
    split
    · rename_i h
      refine recounts_bind_of_ok (a := t.collection h) (fun _ => rfl) ?_
      refine (recounts_list (ht.ownConfig h)).bind fun ms => ?_
      exact (recounts_mapM (fun m => ih m around) ms).bind fun _ => recounts_pure _
    · refine recounts_get (fun _ => rfl) ?_
      rw [ht.inside?_eq]
      exact recounts_pure _
    · split
      · exact recounts_pure _
      · exact recounts_bind_of_ok (a := t.look w) (fun _ => rfl) (ih _ _)

/-- Printing a value of a sound session recounts. -/
theorem recounts_print (ht : t.Sound) (v : Value) : Recounts t (print v) :=
  recounts_get (fun _ => rfl) (recounts_printTo ht t.depth v [])

/-- Printing a value leaves the sets alone. -/
theorem quiet_print (v : Value) : Quiet s (print v) fun _ => True :=
  quiet_of_recounts fun _ ht => recounts_print ht.sound v

end Act

end ValueSets
