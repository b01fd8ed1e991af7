import ValueSets.Proofs.Collection.Lawful
import ValueSets.Proofs.Fallible
import ValueSets.Session.Operand

/-!
# Sets without an element type

A set of the keyed storage without an element type and a plain set differ in how they look for a
member. If the values that they are given are hashable, and comparing those values is comparing
their keys, both find the same one. So each primitive does the same to the members, whichever of the
two answers, and the operations that are derived from the primitives follow: every equation below
speaks of the members alone.
-/

set_option autoImplicit false

namespace ValueSets

open Fallible

/-- What an operation makes of the members of two sets. -/
def SetOperator.onMembers (op : SetOperator) (ms ns : List Value) : List Value :=
  match op with
  | .union => Members.addAll ms ns
  | .intersection =>
    if ms.length < ns.length then ms.filter fun x => Value.hasKey x ns
    else ns.filter fun x => Value.hasKey x ms
  | .difference => ms.filter fun x => !Value.hasKey x ns
  | .symmetricDifference =>
    Members.addAll (ms.filter fun x => !Value.hasKey x ns) (ns.filter fun x => !Value.hasKey x ms)

/-- What a question about two sets comes to. -/
def Question.onMembers (q : Question) (ms ns : List Value) : Bool :=
  match q with
  | .isSuperset => ns.all fun x => Value.hasKey x ms
  | .isSubset => ms.all fun x => Value.hasKey x ns
  | .equal => ms.length == ns.length && ns.all fun x => Value.hasKey x ms

/-- What a comparison of two sets comes to, if it is defined for sets. -/
def Comparison.onMembers? (cmp : Comparison) (ms ns : List Value) : Option Bool :=
  match cmp with
  | .equal => some (Question.equal.onMembers ms ns)
  | .unequal => some (!Question.equal.onMembers ms ns)
  | .order .atMost => some (Question.isSubset.onMembers ms ns)
  | .order .atLeast => some (Question.isSuperset.onMembers ms ns)
  | .order .less | .order .greater => none

/-- Whether comparing good values is comparing their keys. -/
def Sameness.IsByKey (good : Value → Prop) (same : Sameness) : Prop :=
  ∀ v w, good v → good w → same v w = .ok (v.sameKey w)

variable {good : Value → Prop}

/-- A set without an element type whose members are good, be it keyed or plain. -/
structure Collection.Untyped (good : Value → Prop) (c : Collection) : Prop where
  cls : c.cls = .inMemory ∨ c.cls = .plain
  ownConfig : c.standIn? = none
  untyped : c.config.elementType = none
  distinct : Members.Distinct c.members
  members : ∀ m ∈ c.members, good m

/-! ## Looking through a list -/

namespace Scanned

variable {same : Sameness} {c : Collection} {x : Value}

theorem has_eq (hsame : same.IsByKey good) (hc : ∀ m ∈ c.members, good m) (hx : good x) :
    has same c x = .ok (Value.hasKey x c.members) :=
  anyM_eq_ok fun m hm => hsame m x (hc m hm) hx

/-- Where no two members are the same key, the first one of a key is the only one. -/
theorem dropFirst_eq (hsame : same.IsByKey good) {ms : List Value} (hms : ∀ m ∈ ms, good m)
    (hdistinct : Members.Distinct ms) (hx : good x) :
    dropFirst same x ms = .ok (Members.drop ms x) := by
  induction ms with
  | nil => rfl
  | cons m ms ih =>
    obtain ⟨hm, hrest⟩ := List.pairwise_cons.1 hdistinct
    have hstep : dropFirst same x (m :: ms) = (same m x >>= fun b =>
        if b then .ok ms else dropFirst same x ms >>= fun rest => .ok (m :: rest)) := rfl
    have hdrop : Members.drop (m :: ms) x =
        if m.sameKey x then Members.drop ms x else m :: Members.drop ms x := by
      unfold Members.drop
      rw [List.filter_cons]
      cases m.sameKey x <;> rfl
    rw [hstep, hsame m x (hms m (by simp)) hx, hdrop, ih (fun n hn => hms n (by simp [hn])) hrest]
    cases hmx : m.sameKey x with
    | false => rfl
    | true =>
      have hkept : Members.drop ms x = ms := by
        refine List.filter_eq_self.2 fun n hn => ?_
        rw [← Value.sameKey_congr_right hmx, Value.sameKey_comm, hm n hn]
        rfl
      rw [hkept]
      rfl

/-- Adding good elements one after the other is adding them by key. -/
theorem insert_eq {same : Collection → Sameness} (hsame : ∀ d, (same d).IsByKey good)
    {xs : List Value} (hc : ∀ m ∈ c.members, good m) (hxs : ∀ x ∈ xs, good x) :
    insert same c xs = (.ok (), c.holding (Members.addAll c.members xs)) := by
  induction xs generalizing c with
  | nil => rfl
  | cons x xs ih =>
    have hx := hxs x (by simp)
    have hrest : ∀ y ∈ xs, good y := fun y hy => hxs y (by simp [hy])
    have hadd : Members.addAll c.members (x :: xs) =
        Members.addAll (Members.add c.members x) xs := rfl
    unfold insert
    rw [has_eq (hsame c) hc hx, hadd]
    unfold Members.add
    cases Value.hasKey x c.members with
    | true => exact ih hc hrest
    | false =>
      refine ih (c := c.holding (c.members ++ [x])) (fun m hm => ?_) hrest
      rcases List.mem_append.1 hm with hm | hm
      · exact hc m hm
      · rw [List.mem_singleton.1 hm]
        exact hx

theorem delete_eq {same : Collection → Sameness} (hsame : ∀ d, (same d).IsByKey good)
    {xs : List Value} (hc : ∀ m ∈ c.members, good m) (hdistinct : Members.Distinct c.members)
    (hxs : ∀ x ∈ xs, good x) :
    delete same c xs = (.ok (), c.holding (xs.foldl Members.drop c.members)) := by
  induction xs generalizing c with
  | nil => rfl
  | cons x xs ih =>
    unfold delete
    rw [dropFirst_eq (hsame c) hc hdistinct (hxs x (by simp))]
    refine ih (c := c.holding (Members.drop c.members x)) (fun m hm => ?_) (hdistinct.drop x)
      fun y hy => hxs y (by simp [hy])
    exact hc m (List.mem_filter.1 hm).1

end Scanned

/-- Dropping good elements from a keyed set without an element type drops their keys. -/
theorem Keyed.delete_eq {c : Collection} (huntyped : c.config.elementType = none)
    {xs : List Value} (hxs : ∀ x ∈ xs, x.isHashable = true) :
    delete c xs = (.ok (), c.holding (xs.foldl Members.drop c.members)) := by
  induction xs generalizing c with
  | nil => rfl
  | cons x xs ih =>
    have hrest : ∀ y ∈ xs, y.isHashable = true := fun y hy => hxs y (by simp [hy])
    have htakes : c.takes x = true := by
      unfold Collection.takes
      rw [huntyped]
    unfold delete
    rw [htakes, hxs x (by simp)]
    cases hempty : c.members.isEmpty with
    | true =>
      have hnone := ih huntyped hrest
      rw [List.isEmpty_iff.1 hempty] at hnone ⊢
      exact hnone
    | false => exact ih (c := c.holding (Members.drop c.members x)) huntyped hrest

/-! ## Primitives -/

namespace Collection.Untyped

variable {c d : Collection}

theorem takes_eq (hc : c.Untyped good) (x : Value) : c.takes x = true := by
  unfold Collection.takes
  rw [hc.untyped]

theorem holding (hc : c.Untyped good) {ms : List Value} (hms : ∀ m ∈ ms, good m)
    (hdistinct : Members.Distinct ms) : (c.holding ms).Untyped good :=
  ⟨hc.cls, hc.ownConfig, hc.untyped, hdistinct, hms⟩

theorem emptied_eq (hc : c.Untyped good) : c.emptied = .ok (c.holding []) := by
  have hfits : ∀ t, c.cls.fixedType? = some t →
      ∃ e, c.config.elementType = some e ∧ e.isSubtypeOf t = true := by
    intro t ht
    rcases hc.cls with hcls | hcls
    all_goals
      rw [hcls] at ht
      cases ht
  unfold Collection.emptied
  rw [hc.ownConfig]
  simp only [SetClass.configure_of_fits c.config.identity hfits, bind, Except.bind, pure,
    Except.pure, Except.ok.injEq]
  unfold Collection.holding
  rw [hc.ownConfig]

theorem cleared (hc : c.Untyped good) : c.cleared.Untyped good :=
  hc.holding (by simp) List.Pairwise.nil

variable (hgood : ∀ v, good v → v.isHashable = true)

include hgood

theorem lawful (hc : c.Untyped good) (hcls : c.cls = .inMemory) : c.Lawful where
  keyed := by rw [hcls]; rfl
  ownConfig := hc.ownConfig
  hashable m hm := hgood m (hc.members m hm)
  distinct := hc.distinct
  taken m _ := hc.takes_eq m
  bound t ht := by
    rw [hcls] at ht
    cases ht

theorem insert_eq (hc : c.Untyped good) {same : Collection → Sameness}
    (hsame : ∀ d, (same d).IsByKey good) {xs : List Value} (hxs : ∀ x ∈ xs, good x) :
    c.insert same xs = (.ok (), c.holding (Members.addAll c.members xs)) := by
  rcases hc.cls with hcls | hcls
  · have hkeyed : Keyed.insert c xs = .ok (c.holding (Members.addAll c.members xs)) :=
      Keyed.insert_eq_ok_iff.2 ⟨fun x hx => ⟨hc.takes_eq x, hgood x (hxs x hx)⟩, rfl⟩
    rw [(hc.lawful hgood hcls).insert_eq, hkeyed]
  · unfold Collection.insert
    rw [hcls]
    exact Scanned.insert_eq hsame hc.members hxs

theorem delete_eq (hc : c.Untyped good) {same : Collection → Sameness}
    (hsame : ∀ d, (same d).IsByKey good) {xs : List Value} (hxs : ∀ x ∈ xs, good x) :
    c.delete same xs = (.ok (), c.holding (xs.foldl Members.drop c.members)) := by
  rcases hc.cls with hcls | hcls
  · rw [(hc.lawful hgood hcls).delete_eq]
    exact Keyed.delete_eq hc.untyped fun x hx => hgood x (hxs x hx)
  · unfold Collection.delete
    rw [hcls]
    exact Scanned.delete_eq hsame hc.members hc.distinct hxs

variable {same : Sameness} (hsame : same.IsByKey good)

include hsame

theorem has_eq (hc : c.Untyped good) {x : Value} (hx : good x) :
    c.has same x = .ok (Value.hasKey x c.members) := by
  rcases hc.cls with hcls | hcls
  · rw [(hc.lawful hgood hcls).has_of_isHashable same (hgood x hx)]
    unfold Collection.holds
    rw [hc.takes_eq, Bool.true_and]
  · unfold Collection.has
    rw [hcls]
    exact Scanned.has_eq hsame hc.members hx

theorem inserted_eq (hc : c.Untyped good) {xs : List Value} (hxs : ∀ x ∈ xs, good x) :
    c.inserted same xs = .ok (c.holding (Members.addAll c.members xs)) := by
  unfold Collection.inserted
  rw [hc.insert_eq hgood (fun _ => hsame) hxs]

/-! ## Derived operations -/

theorem insertedEmpty_eq (hc : c.Untyped good) {ms : List Value} (hms : ∀ m ∈ ms, good m)
    (hdistinct : Members.Distinct ms) :
    (c.holding []).inserted same ms = .ok (c.holding ms) := by
  have hempty : (c.holding []).Untyped good := hc.cleared
  have hadd : Members.addAll [] ms = [] ++ ms := Members.addAll_eq_append hdistinct
  rw [hempty.inserted_eq hgood hsame hms, holding_members, hadd]
  rfl

theorem like_eq (hc : c.Untyped good) : c.like same c.members = .ok c := by
  unfold Collection.like
  rw [hc.emptied_eq]
  exact hc.insertedEmpty_eq hgood hsame hc.members hc.distinct

/-- A copy has the members in their order, be it a copy of the storage or made by adding. -/
theorem copy_eq (hc : c.Untyped good) : c.copy same = .ok c := by
  unfold Collection.copy Collection.derivedCopy
  split
  · rw [hc.emptied_eq]
    rfl
  · exact hc.like_eq hgood hsame

theorem hasAll_eq (hc : c.Untyped good) {xs : List Value} (hxs : ∀ x ∈ xs, good x) :
    c.hasAll same xs = .ok (xs.all fun x => Value.hasKey x c.members) :=
  allM_eq_ok fun x hx => hc.has_eq hgood hsame (hxs x hx)

theorem hasAny_eq (hc : c.Untyped good) {xs : List Value} (hxs : ∀ x ∈ xs, good x) :
    c.hasAny same xs = .ok (xs.any fun x => Value.hasKey x c.members) :=
  anyM_eq_ok fun x hx => hc.has_eq hgood hsame (hxs x hx)

theorem membersIn_eq (hc : c.Untyped good) (hd : d.Untyped good) :
    c.membersIn same d = .ok (c.members.filter fun x => Value.hasKey x d.members) :=
  filterM_eq_ok fun x hx => hd.has_eq hgood hsame (hc.members x hx)

theorem membersNotIn_eq (hc : c.Untyped good) (hd : d.Untyped good) :
    c.membersNotIn same d = .ok (c.members.filter fun x => !Value.hasKey x d.members) := by
  refine filterM_eq_ok (p := fun x => !Value.hasKey x d.members) fun x hx => ?_
  rw [hd.has_eq hgood hsame (hc.members x hx)]
  rfl

theorem insertedEmpty_sublist (hc : c.Untyped good) (hd : d.Untyped good) {ms : List Value}
    (hms : ms.Sublist d.members) : (c.holding []).inserted same ms = .ok (c.holding ms) :=
  hc.insertedEmpty_eq hgood hsame (fun m hm => hd.members m (hms.subset hm))
    (List.Pairwise.sublist hms hd.distinct)

theorem difference_eq (hc : c.Untyped good) (hd : d.Untyped good) :
    c.difference same d =
      .ok (c.holding (SetOperator.difference.onMembers c.members d.members)) := by
  unfold Collection.difference
  rw [hc.emptied_eq, hc.membersNotIn_eq hgood hsame hd]
  exact hc.insertedEmpty_sublist hgood hsame hc List.filter_sublist

/-- What an operation makes of two sets is decided by their members. -/
theorem combine_eq (hc : c.Untyped good) (hd : d.Untyped good) (op : SetOperator) :
    c.combine same op d = .ok (c.holding (op.onMembers c.members d.members)) := by
  cases op with
  | union =>
    unfold Collection.combine Collection.union
    rw [hc.like_eq hgood hsame]
    exact hc.inserted_eq hgood hsame hd.members
  | intersection =>
    unfold Collection.combine Collection.intersection SetOperator.onMembers
    rw [hc.emptied_eq]
    simp only [bind, Except.bind]
    by_cases hlt : c.size < d.size
    · have hfewer : c.members.length < d.members.length := hlt
      rw [if_pos hlt, if_pos hfewer, hc.membersIn_eq hgood hsame hd]
      exact hc.insertedEmpty_sublist hgood hsame hc List.filter_sublist
    · have hmany : ¬c.members.length < d.members.length := hlt
      rw [if_neg hlt, if_neg hmany, hd.membersIn_eq hgood hsame hc]
      exact hc.insertedEmpty_sublist hgood hsame hd List.filter_sublist
  | difference => exact hc.difference_eq hgood hsame hd
  | symmetricDifference =>
    unfold Collection.combine Collection.symmetricDifference
    rw [hc.difference_eq hgood hsame hd, hd.membersNotIn_eq hgood hsame hc]
    refine (hc.holding (fun m hm => ?_) ?_).inserted_eq hgood hsame fun m hm => ?_
    · exact hc.members m (List.mem_filter.1 hm).1
    · exact List.Pairwise.filter _ hc.distinct
    · exact hd.members m (List.mem_filter.1 hm).1

theorem isSuperset_eq (hc : c.Untyped good) (hd : d.Untyped good) :
    c.isSuperset same d = .ok (Question.isSuperset.onMembers c.members d.members) :=
  hc.hasAll_eq hgood hsame hd.members

theorem equal_eq (hc : c.Untyped good) (hd : d.Untyped good) :
    c.equal same d = .ok (Question.equal.onMembers c.members d.members) := by
  unfold Collection.equal Question.onMembers Collection.size
  cases c.members.length == d.members.length with
  | true => exact hc.isSuperset_eq hgood hsame hd
  | false => rfl

theorem answer_eq (hc : c.Untyped good) (hd : d.Untyped good) (q : Question) :
    q.answer same c d = .ok (q.onMembers c.members d.members) := by
  cases q with
  | isSuperset => exact hc.isSuperset_eq hgood hsame hd
  | isSubset => exact hd.isSuperset_eq hgood hsame hc
  | equal => exact hc.equal_eq hgood hsame hd

/-- A comparison of two sets of one class is answered by the first of them. -/
theorem compare_eq (hc : c.Untyped good) (hd : d.Untyped good) (hcls : d.cls = c.cls)
    (cmp : Comparison) :
    c.compare same cmp d = match cmp.onMembers? c.members d.members with
      | some answer => .ok answer
      | none => .error (.noOrder cmp.sign c.cls.name c.cls.name) := by
  have hfirst : c.answersFirst d = false := by
    unfold Collection.answersFirst
    rw [hcls]
    rcases hc.cls with hcls | hcls
    all_goals
      rw [hcls]
      rfl
  have heq : c.eq same d = .ok (Question.equal.onMembers c.members d.members) := by
    unfold Collection.eq
    rw [hfirst]
    exact hc.equal_eq hgood hsame hd
  match cmp with
  | .equal => exact heq
  | .unequal =>
    unfold Collection.compare
    rw [heq]
    rfl
  | .order .atMost =>
    unfold Collection.compare Collection.isOrdered Collection.le
    rw [hfirst]
    exact hd.isSuperset_eq hgood hsame hc
  | .order .atLeast =>
    unfold Collection.compare Collection.isOrdered Collection.ge
    rw [hfirst]
    exact hc.isSuperset_eq hgood hsame hd
  | .order .less | .order .greater =>
    unfold Collection.compare Collection.isOrdered
    rw [hcls]
    rfl

omit hsame

/-- Taking out the first member drops it. -/
theorem popFirst_eq (hc : c.Untyped good) {same : Collection → Sameness}
    (hsame : ∀ d, (same d).IsByKey good) :
    c.popFirst same = (.ok c.members.head?, c.holding c.members.tail) := by
  unfold Collection.popFirst
  cases hms : c.members with
  | nil =>
    simp only [List.head?_nil, List.tail_nil]
    rw [← hms, holding_self]
  | cons x xs =>
    have hx : ∀ y ∈ [x], good y := by
      intro y hy
      rw [List.mem_singleton.1 hy]
      exact hc.members x (by simp [hms])
    have hdrop : Members.drop ([] ++ x :: xs) x = [] ++ xs :=
      Members.drop_eq_append (hms ▸ hc.distinct)
    simp only [hc.delete_eq hgood hsame hx, hms, List.foldl_cons, List.foldl_nil]
    rw [← List.nil_append (x :: xs), hdrop]
    rfl

end Collection.Untyped

/-! ## What the operations make -/

namespace SetOperator

variable {ms ns : List Value}

theorem mem_of_mem_onMembers {op : SetOperator} {m : Value} (h : m ∈ op.onMembers ms ns) :
    m ∈ ms ∨ m ∈ ns := by
  cases op with
  | union => exact Members.mem_of_mem_addAll h
  | intersection =>
    unfold onMembers at h
    dsimp only at h
    split at h
    · exact .inl (List.mem_filter.1 h).1
    · exact .inr (List.mem_filter.1 h).1
  | difference => exact .inl (List.mem_filter.1 h).1
  | symmetricDifference =>
    exact (Members.mem_of_mem_addAll h).imp (fun h => (List.mem_filter.1 h).1)
      fun h => (List.mem_filter.1 h).1

theorem distinct_onMembers (hms : Members.Distinct ms) (hns : Members.Distinct ns)
    (op : SetOperator) : Members.Distinct (op.onMembers ms ns) := by
  cases op with
  | union => exact hms.addAll ns
  | intersection =>
    unfold onMembers
    dsimp only
    split
    · exact List.Pairwise.filter _ hms
    · exact List.Pairwise.filter _ hns
  | difference => exact List.Pairwise.filter _ hms
  | symmetricDifference =>
    have hleft : Members.Distinct (ms.filter fun x => !Value.hasKey x ns) :=
      List.Pairwise.filter _ hms
    exact hleft.addAll _

end SetOperator

end ValueSets
