import ValueSets.Proofs.Requests

/-!
# Operators and methods

Between two sets by key the operators are other names for methods. Who is asked is another matter: a
comparison is first put to the right operand, turned around, where the class of that operand is
strictly below that of the left one. For inclusion this changes nothing, since the two questions are
mirror images (`Collection.Lawful.atMost_eq`, `Collection.Lawful.atLeast_eq`). Equality asks
whichever set answers first, so it depends on the classes, and is the same in both directions where
one class is below the other: no class is below one that is below it.

Between a set and a value that is no set (`Value.Mixed`) the set has no answer, whichever side it is
on, so it comes down to the type of the other value (`Operator.IsDecidedBy`): that type may answer
or fail as it likes, and only where it has no answer either are the two unequal and other operators
refused. Of the values of a session only tables answer, and only to being joined in place: a table
reads entries off whatever it is joined with, and answers itself.

`Session.IsReachable.operators_decided` says what each instruction with an operator answers, and
that no set is changed.
-/

set_option autoImplicit false

namespace ValueSets

open Session Value Act

/-! ## Two sets -/

/-- The answer to a question about two sets by key. -/
def Question.verdict (q : Question) (c d : Collection) : Bool :=
  match q with
  | .isSuperset => d.members.all c.holds
  | .isSubset => c.members.all d.holds
  | .equal => c.size == d.size && d.members.all c.holds

theorem Question.answer_eq {c d : Collection} (hc : c.Lawful) (hd : d.Lawful) (q : Question)
    (same : Sameness) : q.answer same c d = .ok (q.verdict c d) := by
  cases q with
  | isSuperset => exact hc.isSuperset_eq same hd
  | isSubset => exact hd.isSuperset_eq same hc
  | equal => exact hc.equal_eq same hd

namespace Collection

variable {c d : Collection}

/-- `c <= d` asks for inclusion, whoever is asked. -/
theorem Lawful.atMost_eq (hc : c.Lawful) (hd : d.Lawful) (same : Sameness) :
    c.compare same (.order .atMost) d = .ok (Question.isSubset.verdict c d) := by
  have hle : c.le same d = c.isSubset same d := by
    unfold le
    split <;> rfl
  exact hle.trans (Question.isSubset.answer_eq hc hd same)

/-- `c >= d` asks for inclusion the other way around, whoever is asked. -/
theorem Lawful.atLeast_eq (hc : c.Lawful) (hd : d.Lawful) (same : Sameness) :
    c.compare same (.order .atLeast) d = .ok (Question.isSuperset.verdict c d) := by
  have hge : c.ge same d = c.isSuperset same d := by
    unfold ge
    split <;> rfl
  exact hge.trans (Question.isSuperset.answer_eq hc hd same)

/-- `c == d` asks `d` if its class is strictly below that of `c`, and `c` otherwise. -/
theorem Lawful.equal_sign_eq (hc : c.Lawful) (hd : d.Lawful) (same : Sameness) :
    c.compare same .equal d = .ok (if d.cls.isProperSubclassOf c.cls
      then Question.equal.verdict d c else Question.equal.verdict c d) := by
  show c.eq same d = _
  unfold eq answersFirst
  split
  · exact Question.equal.answer_eq hd hc same
  · exact Question.equal.answer_eq hc hd same

theorem Lawful.unequal_sign_eq (hc : c.Lawful) (hd : d.Lawful) (same : Sameness) :
    c.compare same .unequal d = .ok !(if d.cls.isProperSubclassOf c.cls
      then Question.equal.verdict d c else Question.equal.verdict c d) := by
  have hequal := hc.equal_sign_eq hd same
  show (do return !(← c.compare same .equal d)) = _
  rw [hequal]
  rfl

/-- Of two sets of which one is of a class below that of the other, the same one answers whether
they are equal in both directions. -/
theorem asked_comm {asked : Collection → Collection → Bool}
    (h : d.cls.isProperSubclassOf c.cls = true ∨ c.cls.isProperSubclassOf d.cls = true) :
    (if d.cls.isProperSubclassOf c.cls then asked d c else asked c d) =
      if c.cls.isProperSubclassOf d.cls then asked c d else asked d c := by
  rcases h with h | h
  · simp only [h, SetClass.isProperSubclassOf_asymm h, if_true, Bool.false_eq_true, if_false]
  · simp only [h, SetClass.isProperSubclassOf_asymm h, if_true, Bool.false_eq_true, if_false]

/-- What an operation makes of lawful sets does not depend on how values are compared. -/
theorem Lawful.combine_congr (hc : c.Lawful) (hd : d.Lawful) (op : SetOperator)
    (same other : Sameness) : c.combine same op d = c.combine other op d := by
  cases op with
  | union => exact (hc.union_eq same).trans (hc.union_eq other).symm
  | intersection => exact (hc.intersection_eq same hd).trans (hc.intersection_eq other hd).symm
  | difference => exact (hc.difference_eq same hd).trans (hc.difference_eq other hd).symm
  | symmetricDifference =>
    exact (hc.symmetricDifference_eq same hd).trans (hc.symmetricDifference_eq other hd).symm

end Collection

/-! ## A set and another value -/

/-- Two values of which one is a set of this library and the other is not. -/
inductive Value.Mixed : Value → Value → Prop
  | left {h : Handle} {w : Value} : (∀ k, w ≠ .handle k) → Mixed (.handle h) w
  | right {v : Value} {h : Handle} : (∀ k, v ≠ .handle k) → Mixed v (.handle h)

theorem Value.isCollection_eq_false {v : Value} (hv : ∀ k, v ≠ .handle k) :
    v.isCollection = false := by
  cases v with
  | handle k => exact absurd rfl (hv k)
  | _ => rfl

theorem Value.isCollection_of_mixed {v w : Value} (hmixed : Mixed v w) :
    (v.isCollection == w.isCollection) = false := by
  cases hmixed with
  | left hw => rw [isCollection_eq_false hw]; rfl
  | right hv => rw [isCollection_eq_false hv]; rfl

/-! ## What operators do -/

/-- The fault of an operator that neither operand answers is about the types of the operands. -/
theorem Operator.reportedAs_refusal (op : Operator) (left right : String) (s : Session) :
    (op.refusal left right).reportedAs s = .type := by
  rw [Fault.reportedAs_of_isFixed] <;> cases op <;> rfl

/-- What comes of an operator on a set and another value, by what the type of that value made of it:
its answer or its fault. If it has none, the two are unequal, if that is asked, and else the fault
is about their types. -/
def Operator.IsDecidedBy (op : Operator) (result : Except Fault Value) :
    Except Fault (Option Value) → Prop
  | .ok (some answer) => result = .ok answer
  | .error fault => result = .error fault
  | .ok none => match op with
    | .compare .equal => result = .ok (.bool false)
    | .compare .unequal => result = .ok (.bool true)
    | _ => ∃ fault, result = .error fault ∧ ∀ s, fault.reportedAs s = .type

/-- Whether an operator is left to the table in a box on its left, with which a value is to be
joined in place. -/
def Session.JoinsTable (t : Session) (op : Operator) (v : Value) (b : Box) : Prop :=
  op = .makeInPlace .union ∧ v = .box b ∧ ∃ es, t.look v = .table es

namespace Act

variable {t : Session} {v w : Value} {h k : Handle} {op : Operator} {b : Box}

theorem outcome_look_eq (v : Value) (t : Session) : outcome (look v) t = (.ok (t.look v), t) := rfl

theorem outcome_compare_sets (cmp : Comparison) (h k : Handle) (t : Session) :
    outcome (compare cmp (.handle h) (.handle k)) t =
      ((t.collection h).compare t.sameness cmp (t.collection k), t) := by
  unfold compare
  rw [outcome_bind_of_ok (outcome_get t)]
  dsimp only
  rw [outcome_bind_of_ok (outcome_fetch h t), outcome_bind_of_ok (outcome_fetch k t)]
  exact outcome_ofExcept _ t

/-- An operator that makes a value makes a set of two sets, also if it is written in place. -/
theorem outcome_operate_sets {make : SetOperator} (hop : op = .make make ∨ op = .makeInPlace make)
    (h k : Handle) (t : Session) :
    outcome (operate op (.handle h) (.handle k)) t =
      outcome (answerSet ((t.collection h).combine t.sameness make (t.collection k))) t := by
  have hcombine : outcome (combine op make (.handle h) (.handle k)) t =
      outcome (answerSet ((t.collection h).combine t.sameness make (t.collection k))) t := by
    unfold combine
    dsimp only
    rw [outcome_bind_of_ok (outcome_fetch h t), outcome_bind_of_ok (outcome_sameness t),
      outcome_bind_of_ok (outcome_fetch k t)]
  rcases hop with rfl | rfl
  · exact hcombine
  · exact hcombine

/-- An operator on a set and another value does what the type of that value does to it, and nothing
else. -/
theorem operateBy_of_mixed (respond : Responder) (hmixed : Mixed v w) (op : Operator)
    (t : Session) :
    op.IsDecidedBy (outcome (operateBy respond op v w) t).1 (outcome (respond op v w) t).1 ∧
      (outcome (operateBy respond op v w) t).2 = (outcome (respond op v w) t).2 := by
  have hmix : operateBy respond op v w = operateMixed respond op v w :=
    if_neg (Bool.eq_false_iff.1 (isCollection_of_mixed hmixed))
  rw [hmix]
  unfold operateMixed
  rw [outcome_bind]
  cases outcome (respond op v w) t with
  | mk r u =>
    cases r with
    | error fault => exact ⟨rfl, rfl⟩
    | ok answer =>
      cases answer with
      | some answer => exact ⟨rfl, rfl⟩
      | none =>
        have hrefused : ∃ fault, Except.error (op.refusal v.typeName w.typeName) =
            (.error fault : Except Fault Value) ∧ ∀ s, fault.reportedAs s = .type :=
          ⟨_, rfl, op.reportedAs_refusal _ _⟩
        cases op with
        | make | makeInPlace => exact ⟨hrefused, rfl⟩
        | compare cmp =>
          cases cmp with
          | equal => exact ⟨rfl, rfl⟩
          | unequal => exact ⟨rfl, rfl⟩
          | order => exact ⟨hrefused, rfl⟩

/-- A table that is to be joined in place with a set answers itself, or the fault that it meets. -/
theorem outcome_respond_of_joinsTable (hjoin : t.JoinsTable op v b) :
    outcome (respond op v w) t =
      ((outcome (joinInPlace b w) t).1.map fun _ => some v, (outcome (joinInPlace b w) t).2) := by
  obtain ⟨rfl, rfl, es, hes⟩ := hjoin
  unfold respond
  rw [outcome_bind_of_ok (outcome_look_eq _ t), hes]
  dsimp only
  rw [outcome_bind]
  cases outcome (joinInPlace b w) t with
  | mk r u => cases r <;> rfl

/-- No other value of a session has an answer. -/
theorem outcome_respond_eq_none (hjoin : ∀ b, ¬ t.JoinsTable op v b) :
    outcome (respond op v w) t = (.ok none, t) := by
  unfold respond
  rw [outcome_bind_of_ok (outcome_look_eq _ t)]
  split
  · exact absurd ⟨rfl, rfl, _, ‹_›⟩ (hjoin _)
  · rfl

end Act

/-! ## Instructions -/

/-- Whether an instruction uses an operator on two values, after its arguments and its operands were
evaluated in passing to the session `u`. -/
inductive Session.Operates (s : Session) (i : Instruction) (op : Operator) (v w : Value)
    (u : Session) : Prop
  | intro {left right : Term} {a : List Value × List (String × Value)} {t₁ t₂ : Session} :
    i.step = .operate op left right → outcome i.arguments s.begun = (.ok a, t₁) →
    outcome left.eval t₁ = (.ok v, t₂) → outcome right.eval t₂ = (.ok w, u) →
    Operates s i op v w u

/-- Whether an instruction asks a question about two sets by key by its name. -/
inductive Session.Asks (s : Session) (i : Instruction) (q : Question) (h k : Handle)
    (u : Session) : Prop
  | intro {on other : String} {a : List Value × List (String × Value)} :
    i.step = .ask q on other → s.Holds on h → s.Holds other k →
    outcome i.arguments s.begun = (.ok a, u) → Asks s i q h k u

/-- Whether an instruction combines two sets by key: by the name of the operation, or by the
operator, which may be written in place. -/
inductive Session.Combines (s : Session) (i : Instruction) (op : SetOperator) (h k : Handle)
    (u : Session) : Prop
  | named {on other : String} {a : List Value × List (String × Value)} :
    i.step = .combine op on other → s.Holds on h → s.Holds other k →
    outcome i.arguments s.begun = (.ok a, u) → Combines s i op h k u
  | written {sign : Operator} : sign = .make op ∨ sign = .makeInPlace op →
    s.Operates i sign (.handle h) (.handle k) u → h.cls.isKeyed = true → k.cls.isKeyed = true →
    Combines s i op h k u

/-- Whether an instruction answers a question, and leaves the sets alone. -/
def Instruction.Tells (s : Session) (i : Instruction) (b : Bool) : Prop :=
  i.answer s = .ok (.bool b) ∧ (s.after i).collections = s.collections

/-- Whether an instruction is refused for the types of its values, and leaves the sets alone. -/
def Instruction.IsRefused (s : Session) (i : Instruction) : Prop :=
  ∃ fault, i.answer s = .error fault ∧ (∀ t, fault.reportedAs t = .type) ∧
    (s.after i).collections = s.collections

/-- Whether an instruction with an operator finds its operands unequal, if that is asked, and else
is refused. -/
def Instruction.KeepsApart (s : Session) (i : Instruction) (op : Operator) : Prop :=
  match op with
  | .compare .equal => i.Tells s false
  | .compare .unequal => i.Tells s true
  | _ => i.IsRefused s

namespace Session

variable {s u : Session} {i : Instruction} {op : Operator} {v w : Value} {h k : Handle} {b : Bool}

namespace Operates

theorem isPlain (hop : s.Operates i op v w u) : i.IsPlain s := by
  obtain ⟨hstep, -, -, -⟩ := hop
  intro args named t _
  rw [hstep]
  trivial

theorem like (hs : s.Sound) (hop : s.Operates i op v w u) :
    s.Like u ∧ v.Grounded s.classes ∧ w.Grounded s.classes := by
  cases hop with
  | @intro left right _ _ _ _ harguments hleft hright =>
    have hu := quiet_arguments i _ hs.like_begun
    rw [harguments] at hu
    have hv := Term.quiet_eval left _ hu.1
    rw [hleft] at hv
    have hw := Term.quiet_eval right _ hv.1
    rw [hright] at hw
    exact ⟨hw.1, hv.2 v rfl, hw.2 w rfl⟩

theorem outcome_attempt (hop : s.Operates i op v w u) :
    outcome i.attempt s.begun = outcome (operate op v w) u := by
  obtain ⟨hstep, harguments, hleft, hright⟩ := hop
  rw [Instruction.outcome_attempt, harguments, hstep]
  unfold Step.run
  dsimp only
  rw [outcome_bind_of_ok hleft, outcome_bind_of_ok hright]

/-- A comparison of two sets by key answers as lawful sets do, and leaves the sets alone. -/
theorem tells_of_sets {cmp : Comparison} (hs : s.Sound)
    (hop : s.Operates i (.compare cmp) (.handle h) (.handle k) u) (hh : h.cls.isKeyed = true)
    (hk : k.cls.isKeyed = true)
    (hanswer : ∀ same, (s.collection h).Lawful → (s.collection k).Lawful →
      (s.collection h).compare same cmp (s.collection k) = .ok b) : i.Tells s b := by
  obtain ⟨hu, hleft, hright⟩ := hop.like hs
  have hcompare : outcome (compare cmp (.handle h) (.handle k)) u = (.ok b, u) := by
    rw [outcome_compare_sets, hu.collection_eq hs hleft, hu.collection_eq hs hright,
      hanswer _ ((hs.behind hleft).lawful hh) ((hs.behind hright).lawful hk)]
  have hattempt : outcome i.attempt s.begun = (.ok (.bool b), u) := by
    rw [hop.outcome_attempt]
    show outcome (compare cmp (.handle h) (.handle k) >>= fun b => pure (Value.bool b)) u = _
    rw [outcome_bind_of_ok hcompare, outcome_pure]
  obtain ⟨hresult, hcollections⟩ := hs.answer_eq hop.isPlain hattempt
  exact ⟨hresult, hcollections.trans hu.collections⟩

end Operates

/-- A question about two sets by key is answered, and leaves the sets alone. -/
theorem Asks.tells {q : Question} (hs : s.Sound) (hasks : s.Asks i q h k u) :
    i.Tells s (q.verdict (s.collection h) (s.collection k)) := by
  cases hasks with
  | @intro on other a hstep hon hother harguments =>
    have hu : s.Like u := by
      have hlike := (quiet_arguments i _ hs.like_begun).1
      rwa [harguments] at hlike
    have hanswer : outcome (askVariables q on other) u =
        (.ok (q.verdict (s.collection h) (s.collection k)), u) := by
      unfold askVariables
      rw [outcome_bind_of_ok (outcome_calledOf hu.sound.untouched (hon.like hu).value q.name)]
      show outcome (valueOf other >>= fun v => askNamed q (.handle h) v) u = _
      rw [outcome_bind_of_ok (outcome_valueOf (hother.like hu).value)]
      unfold askNamed
      dsimp only
      rw [outcome_bind_of_ok (outcome_sameness u), outcome_bind_of_ok (outcome_fetch h u),
        outcome_bind_of_ok (outcome_fetch k u), hon.collection_eq hs hu,
        hother.collection_eq hs hu, q.answer_eq (hon.lawful hs) (hother.lawful hs)]
      exact outcome_ofExcept _ u
    have hattempt : outcome i.attempt s.begun =
        (.ok (.bool (q.verdict (s.collection h) (s.collection k))), u) := by
      rw [Instruction.outcome_attempt, harguments, hstep]
      unfold Step.run
      dsimp only
      rw [outcome_bind_of_ok hanswer, outcome_pure]
    have hplain : i.IsPlain s := by
      intro args named t _
      rw [hstep]
      trivial
    obtain ⟨hresult, hcollections⟩ := hs.answer_eq hplain hattempt
    exact ⟨hresult, hcollections.trans hu.collections⟩

namespace Combines

variable {make : SetOperator}

theorem isPlain (hcombines : s.Combines i make h k u) : i.IsPlain s := by
  cases hcombines with
  | named hstep =>
    intro args named t _
    rw [hstep]
    trivial
  | written _ hop => exact hop.isPlain

/-- The operands are sets by key, and evaluating the arguments leaves them what they are. -/
theorem operands (hs : s.Sound) (hcombines : s.Combines i make h k u) :
    s.Like u ∧ (s.collection h).Lawful ∧ (s.collection k).Lawful ∧
      (s.collection h).config.IsSettled ∧
      u.collection h = s.collection h ∧ u.collection k = s.collection k := by
  have hparts : s.Like u ∧ (Value.handle h).Grounded s.classes ∧
      (Value.handle k).Grounded s.classes ∧ h.cls.isKeyed = true ∧ k.cls.isKeyed = true := by
    cases hcombines with
    | named _ hon hother harguments =>
      have hlike := (quiet_arguments i _ hs.like_begun).1
      rw [harguments] at hlike
      exact ⟨hlike, hon.grounded hs, hother.grounded hs, hon.keyed, hother.keyed⟩
    | written _ hop hh hk =>
      obtain ⟨hlike, hleft, hright⟩ := hop.like hs
      exact ⟨hlike, hleft, hright, hh, hk⟩
  obtain ⟨hu, hh, hk, hkeyed, hkeyed'⟩ := hparts
  have hbehind := hs.behind hh
  exact ⟨hu, hbehind.lawful hkeyed, (hs.behind hk).lawful hkeyed', hbehind.config.settled,
    hu.collection_eq hs hh, hu.collection_eq hs hk⟩

/-- However two sets are combined, the set that the operation makes of them is answered. -/
theorem outcome_attempt (hs : s.Sound) (hcombines : s.Combines i make h k u) :
    outcome i.attempt s.begun =
      outcome (answerSet ((u.collection h).combine u.sameness make (u.collection k))) u := by
  have hu := (hcombines.operands hs).1
  cases hcombines with
  | @named on other a hstep hon hother harguments =>
    rw [Instruction.outcome_attempt, harguments, hstep]
    show outcome (combineVariables make on other) u = _
    unfold combineVariables
    rw [outcome_bind_of_ok (outcome_calledOf hu.sound.untouched (hon.like hu).value make.name)]
    show outcome (valueOf other >>= fun v => combineNamed make (.handle h) v) u = _
    rw [outcome_bind_of_ok (outcome_valueOf (hother.like hu).value)]
    unfold combineNamed
    dsimp only
    rw [outcome_bind_of_ok (outcome_fetch h u), outcome_bind_of_ok (outcome_sameness u),
      outcome_bind_of_ok (outcome_fetch k u)]
  | written hsign hop _ _ => rw [hop.outcome_attempt, outcome_operate_sets hsign]

theorem makes (hs : s.Sound) (hcombines : s.Combines i make h k u) :
    i.Makes s ((s.collection h).combine .byKey make (s.collection k)) := by
  obtain ⟨hu, hc, hd, hsettled, hcu, hdu⟩ := hcombines.operands hs
  have hattempt := hcombines.outcome_attempt hs
  rw [hcu, hdu, hc.combine_congr hd make u.sameness .byKey] at hattempt
  refine hs.makes_of_attempt hcombines.isPlain hu (fun r hr => ?_) hattempt
  have hmade := hc.proper.combine hr
  exact ⟨hmade.proper.ownConfig, hmade.config ▸ hsettled⟩

end Combines

/-- Between a set and another value of the session equality is answered, and other operators are
refused, but for one that is left to a table. No set is changed. -/
theorem Operates.of_mixed (hs : s.Sound) (hop : s.Operates i op v w u) (hmixed : Mixed v w) :
    (∀ b, u.JoinsTable op v b →
      i.answer s = ((outcome (joinInPlace b w) u).1.map fun _ => v) ∧
      (s.after i).collections = s.collections) ∧
    ((∀ b, ¬ u.JoinsTable op v b) → i.KeepsApart s op) := by
  obtain ⟨hu, -, hw⟩ := hop.like hs
  obtain ⟨hdecided, hleft⟩ := operateBy_of_mixed respond hmixed op u
  have hattempt := hop.outcome_attempt
  unfold operate at hattempt
  generalize hout : outcome (operateBy respond op v w) u = out at hattempt hdecided hleft
  obtain ⟨r, t⟩ := out
  constructor
  · intro b hjoin
    rw [outcome_respond_of_joinsTable hjoin] at hdecided hleft
    cases hleft
    have hr : r = (outcome (joinInPlace b w) u).1.map fun _ => v := by
      cases hjoined : (outcome (joinInPlace b w) u).1 with
      | ok => rwa [hjoined] at hdecided
      | error fault => rwa [hjoined] at hdecided
    rw [hr] at hattempt
    obtain ⟨hanswer, hcollections⟩ := hs.answer_eq hop.isPlain hattempt
    exact ⟨hanswer, hcollections.trans (quiet_joinInPlace b hw u hu).1.collections⟩
  · intro hjoin
    rw [outcome_respond_eq_none hjoin] at hdecided hleft
    cases hleft
    obtain ⟨hanswer, hcollections⟩ := hs.answer_eq hop.isPlain hattempt
    have hsets := hcollections.trans hu.collections
    have hrefused : (∃ fault, r = .error fault ∧ ∀ s, fault.reportedAs s = .type) →
        i.IsRefused s := by
      rintro ⟨fault, rfl, hfault⟩
      exact ⟨fault, hanswer, hfault, hsets⟩
    cases op with
    | make | makeInPlace => exact hrefused hdecided
    | compare cmp =>
      cases cmp with
      | equal => exact ⟨hanswer.trans hdecided, hsets⟩
      | unequal => exact ⟨hanswer.trans hdecided, hsets⟩
      | order => exact hrefused hdecided

/-- Operators between sets by key answer what the methods answer. Inclusion is the same from both
sides. Equality asks the right set if its class is strictly below that of the left one, and is
symmetric if one of the classes is below the other; inequality is its negation. An operator that
makes a set makes the same set, or fails for the same reason, as the operation of that name, also in
place. Between a set and a value that is no set the type of that value decides, whatever it answers
to sets: its answer or its fault is what comes of the operator, and if it has none, equality does
not hold, inequality does, and any other operator is refused. Of the values of a session only a
table answers, on the left where it is to be joined in place: the table is the answer then, as far
as it can be joined with the members. No operator changes a set. -/
theorem IsReachable.operators_decided (hs : s.IsReachable) (hh : h.cls.isKeyed = true)
    (hk : k.cls.isKeyed = true) :
    let c := s.collection h
    let d := s.collection k
    let same :=
      if d.cls.isProperSubclassOf c.cls then Question.equal.verdict d c
      else Question.equal.verdict c d
    (∀ i u, s.Asks i .isSubset h k u ∨
        s.Operates i (.compare (.order .atMost)) (.handle h) (.handle k) u ∨
        s.Operates i (.compare (.order .atLeast)) (.handle k) (.handle h) u →
      i.Tells s (Question.isSubset.verdict c d)) ∧
    (∀ i u, s.Asks i .isSuperset h k u ∨
        s.Operates i (.compare (.order .atLeast)) (.handle h) (.handle k) u ∨
        s.Operates i (.compare (.order .atMost)) (.handle k) (.handle h) u →
      i.Tells s (Question.isSuperset.verdict c d)) ∧
    (∀ i u, s.Asks i .equal h k u → i.Tells s (Question.equal.verdict c d)) ∧
    (∀ i u, s.Asks i .equal k h u → i.Tells s (Question.equal.verdict d c)) ∧
    (∀ i u, s.Operates i (.compare .equal) (.handle h) (.handle k) u → i.Tells s same) ∧
    (∀ i u, s.Operates i (.compare .unequal) (.handle h) (.handle k) u → i.Tells s !same) ∧
    (d.cls.isProperSubclassOf c.cls = true ∨ c.cls.isProperSubclassOf d.cls = true →
      ∀ i u, s.Operates i (.compare .equal) (.handle k) (.handle h) u → i.Tells s same) ∧
    (∀ op i u, s.Combines i op h k u → i.Makes s (c.combine .byKey op d)) ∧
    (∀ respond op v w t, Mixed v w →
      op.IsDecidedBy (outcome (operateBy respond op v w) t).1 (outcome (respond op v w) t).1 ∧
      (outcome (operateBy respond op v w) t).2 = (outcome (respond op v w) t).2) ∧
    ∀ i op v w u, s.Operates i op v w u → Mixed v w →
      (∀ b, u.JoinsTable op v b →
        i.answer s = ((outcome (joinInPlace b w) u).1.map fun _ => v) ∧
        (s.after i).collections = s.collections) ∧
      ((∀ b, ¬ u.JoinsTable op v b) → i.KeepsApart s op) := by
  intro c d same
  have hsound := hs.sound
  refine ⟨?_, ?_, fun i u h => h.tells hsound, fun i u h => h.tells hsound, ?_, ?_, ?_,
    fun op i u h => h.makes hsound, fun respond op v w t h => operateBy_of_mixed respond h op t,
    fun i op v w u hop => hop.of_mixed hsound⟩
  · rintro i u (hasks | hop | hop)
    · exact hasks.tells hsound
    · exact hop.tells_of_sets hsound hh hk fun same hc hd => hc.atMost_eq hd same
    · exact hop.tells_of_sets hsound hk hh fun same hd hc => hd.atLeast_eq hc same
  · rintro i u (hasks | hop | hop)
    · exact hasks.tells hsound
    · exact hop.tells_of_sets hsound hh hk fun same hc hd => hc.atLeast_eq hd same
    · exact hop.tells_of_sets hsound hk hh fun same hd hc => hd.atMost_eq hc same
  · intro i u hop
    exact hop.tells_of_sets hsound hh hk fun same hc hd => hc.equal_sign_eq hd same
  · intro i u hop
    exact hop.tells_of_sets hsound hh hk fun same hc hd => hc.unequal_sign_eq hd same
  · intro hbelow i u hop
    refine hop.tells_of_sets hsound hk hh fun other hd hc => ?_
    rw [hd.equal_sign_eq hc other, ← Collection.asked_comm hbelow]

/-- An unrestricted set of a truth value is equal to a set of the whole number of its key when it is
asked by name. As an operator, equality asks the set of whole numbers, which does not take truth
values. A text is neither joined with the set nor equal to it. -/
theorem operators_decided_of_levels :
    let s := (({} : Session).after
        { step := .construct .inMemory, args := [.bool true], target? := some "a" }).after
      { step := .construct .int, args := [.level .low], target? := some "b" }
    let i : Instruction := { step := .operate (.compare .equal) (.named "a") (.named "b") }
    let j : Instruction := { step := .operate (.makeInPlace .union) (.text "xy") (.named "a") }
    let e : Instruction := { step := .ask .equal "a" "b" }
    e.Tells s true ∧ i.Tells s false ∧ j.IsRefused s := by
  intro s i j e
  let h : Handle := ⟨0, .inMemory⟩
  let k : Handle := ⟨1, .int⟩
  have hs : s.IsReachable :=
    .step (.step .refl (Instruction.isPlain_of_no_config (by simp) Collection.hasPlainConfig_nil))
      (Instruction.isPlain_of_no_config (by simp) Collection.hasPlainConfig_nil)
  obtain ⟨-, -, hequal, -, hsign, -, -, -, -, hmixed⟩ :=
    hs.operators_decided (h := h) (k := k) rfl rfl
  have ha : s.value? "a" = some (.handle h) := rfl
  have hb : s.value? "b" = some (.handle k) := rfl
  have hi : s.Operates i (.compare .equal) (.handle h) (.handle k) s.begun :=
    .intro rfl rfl rfl rfl
  have hj : s.Operates j (.makeInPlace .union) (.text "xy" 3) (.handle h)
      { s.begun with nextIdentity := 4 } := .intro rfl rfl rfl rfl
  refine ⟨hequal e s.begun (.intro rfl ⟨ha, rfl⟩ ⟨hb, rfl⟩ rfl), hsign i s.begun hi, ?_⟩
  refine (hmixed j _ _ _ _ hj (.right (by simp))).2 fun b hjoin => ?_
  cases hjoin.2.1

/-- A table without entries that is joined in place with an empty set is not refused: it answers
itself. -/
theorem table_joined_with_set :
    ∃ (s u : Session) (i : Instruction) (v w : Value), s.IsReachable ∧
      s.Operates i (.makeInPlace .union) v w u ∧ Mixed v w ∧ i.answer s = .ok v ∧
      ¬ i.KeepsApart s (.makeInPlace .union) := by
  let s := ({} : Session).after { step := .construct .inMemory, target? := some "a" }
  let i : Instruction := { step := .operate (.makeInPlace .union) (.table []) (.named "a") }
  have hs : s.IsReachable :=
    .step .refl (Instruction.isPlain_of_no_config (by simp) Collection.hasPlainConfig_nil)
  have hi : s.Operates i (.makeInPlace .union) (.box ⟨0, .table⟩) (.handle ⟨0, .inMemory⟩)
      { s.begun with contents := [.table []] } := .intro rfl rfl rfl rfl
  have hanswer : i.answer s = .ok (.box ⟨0, .table⟩) := rfl
  refine ⟨s, _, i, _, _, hs, hi, .right (by simp), hanswer, ?_⟩
  rintro ⟨fault, hfault, -, -⟩
  cases hanswer.symm.trans hfault

end Session

end ValueSets
