import Mathlib.Data.List.Forall2
import ValueSets.Proofs.Inclusion

/-!
# Equality as interchangeability

Equal sets may hold different values for one key, in different orders. Among sets of one element
type this makes no difference to any later question: equality is an equivalence relation, it says
that the sets have the same values, and equal sets can take each other's place. Calls that change
them end alike, with faults about the same value, and leave them equal, and with every other set
they answer the same and have equal results.

The proofs go by `Collection.SameKeys`, which forgets which values stand for the keys and in which
order. Each primitive is a congruence for it, and on lawful sets it is equality.
-/

set_option autoImplicit false

namespace ValueSets

namespace Members

open Value

/-- A list that has the keys of all members of another one has every key of it. -/
theorem hasKey_of_forall {xs ys : List Value} (h : ∀ m ∈ xs, hasKey m ys = true) {x : Value}
    (hx : hasKey x xs = true) : hasKey x ys = true := by
  obtain ⟨m, hm, hmx⟩ := hasKey_iff.1 hx
  rw [← hasKey_congr hmx ys]
  exact h m hm

theorem hasKey_self_of_mem {ms : List Value} {m : Value} (hm : m ∈ ms) : hasKey m ms = true :=
  hasKey_iff.2 ⟨m, hm, sameKey_refl m⟩

end Members

/-- The value that an operation was given and failed at. -/
def Fault.offender? : Fault → Option Value
  | .rejected _ v _ | .unhashable v => some v
  | _ => none

/-- Two results alike: both successes, or faults of one category about one value. -/
inductive ResultsAlike : Except Fault Unit → Except Fault Unit → Prop
  | ok : ResultsAlike (.ok ()) (.ok ())
  | error {f g : Fault} {v : Value} : f.category = g.category → f.offender? = some v →
      g.offender? = some v → ResultsAlike (.error f) (.error g)

/-- A call that changes a set. -/
inductive Change where
  | insert (xs : List Value)
  | delete (xs : List Value)
  | clear

namespace Change

/-- The result of a call and the set it leaves. -/
def apply (same : Collection → Sameness) (c : Collection) : Change → Mutation Unit
  | insert xs => c.insert same xs
  | delete xs => c.delete same xs
  | clear => (.ok (), c.cleared)

/-- The results of calls made one after the other, whether they fail or not, and the set they leave.
-/
def run (same : Collection → Sameness) :
    List Change → Collection → List (Except Fault Unit) × Collection
  | [], c => ([], c)
  | change :: changes, c =>
    let (result, d) := change.apply same c
    let (results, e) := run same changes d
    (result :: results, e)

end Change

namespace Collection

/-- Two sets of one element type whose members have the same keys. -/
structure SameKeys (a b : Collection) : Prop where
  elementType : a.config.elementType = b.config.elementType
  keys : ∀ x, Value.hasKey x a.members = Value.hasKey x b.members

namespace SameKeys

variable {a b c : Collection}

theorem refl (a : Collection) : a.SameKeys a := ⟨rfl, fun _ => rfl⟩

theorem symm (h : a.SameKeys b) : b.SameKeys a :=
  ⟨h.elementType.symm, fun x => (h.keys x).symm⟩

theorem trans (hab : a.SameKeys b) (hbc : b.SameKeys c) : a.SameKeys c :=
  ⟨hab.elementType.trans hbc.elementType, fun x => (hab.keys x).trans (hbc.keys x)⟩

theorem takes_eq (h : a.SameKeys b) : a.takes = b.takes :=
  funext fun x => takes_congr h.elementType x

theorem holds_eq (h : a.SameKeys b) (x : Value) : a.holds x = b.holds x := by
  unfold holds
  rw [h.takes_eq, h.keys x]

theorem isEmpty_eq (h : a.SameKeys b) : a.members.isEmpty = b.members.isEmpty := by
  cases ha : a.members with
  | nil =>
    cases hb : b.members with
    | nil => rfl
    | cons m ms =>
      have hm := h.keys m
      simp [ha, hb, Value.sameKey_refl] at hm
  | cons m ms =>
    cases hb : b.members with
    | nil =>
      have hm := h.keys m
      simp [ha, hb, Value.sameKey_refl] at hm
    | cons n ns => rfl

/-- Adding elements fails alike, or adds the same keys. -/
theorem keyed_insert (h : a.SameKeys b) (xs : List Value) :
    (∃ v f g, Keyed.insert a xs = .error f ∧ Keyed.insert b xs = .error g ∧
      f.category = g.category ∧ f.offender? = some v ∧ g.offender? = some v) ∨
    ∃ a' b', Keyed.insert a xs = .ok a' ∧ Keyed.insert b xs = .ok b' ∧ a'.SameKeys b' := by
  unfold Keyed.insert
  rw [h.takes_eq, h.elementType]
  split
  · exact .inl ⟨_, _, _, rfl, rfl, rfl, rfl, rfl⟩
  · split
    · exact .inl ⟨_, _, _, rfl, rfl, rfl, rfl, rfl⟩
    · refine .inr ⟨_, _, rfl, rfl, h.elementType, fun x => ?_⟩
      rw [Members.hasKey_addAll, Members.hasKey_addAll, h.keys x]

/-- Dropping elements has the same result, and drops the same keys. -/
theorem keyed_delete (h : a.SameKeys b) (xs : List Value) :
    (Keyed.delete a xs).1 = (Keyed.delete b xs).1 ∧
      (Keyed.delete a xs).2.SameKeys (Keyed.delete b xs).2 := by
  induction xs generalizing a b with
  | nil => exact ⟨rfl, h⟩
  | cons x xs ih =>
    unfold Keyed.delete
    rw [h.isEmpty_eq, h.takes_eq]
    split
    · exact ih h
    · split
      · exact ⟨rfl, h⟩
      · refine ih ⟨h.elementType, fun y => ?_⟩
        rw [Members.hasKey_drop, Members.hasKey_drop, h.keys y]

end SameKeys

namespace Lawful

variable {a b c : Collection}

/-- Sets of the same keys have equally many members. -/
theorem size_eq (ha : a.Lawful) (hb : b.Lawful) (h : a.SameKeys b) : a.size = b.size := by
  have hle : ∀ {c d : Collection}, c.Lawful → c.SameKeys d → c.size ≤ d.size := by
    intro c d hc hcd
    refine Members.length_le_of_hasKey hc.distinct fun m hm => ?_
    rw [← hcd.keys m]
    exact Members.hasKey_self_of_mem hm
  exact Nat.le_antisymm (hle ha h) (hle hb h.symm)

/-- Sets of one element type that include each other have the same keys. -/
theorem sameKeys_of_includes (htype : a.config.elementType = b.config.elementType)
    (hab : ∀ m ∈ a.members, b.holds m = true) (hba : ∀ m ∈ b.members, a.holds m = true) :
    a.SameKeys b := by
  refine ⟨htype, fun x => ?_⟩
  rw [Bool.eq_iff_iff]
  constructor
  · exact Members.hasKey_of_forall fun m hm => hasKey_of_holds (hab m hm)
  · exact Members.hasKey_of_forall fun m hm => hasKey_of_holds (hba m hm)

/-- Equality of lawful sets of one element type asks whether they have the same keys. -/
theorem equal_iff_sameKeys (same : Sameness) (ha : a.Lawful) (hb : b.Lawful)
    (htype : a.config.elementType = b.config.elementType) :
    ∃ equal : Bool, a.equal same b = .ok equal ∧ (equal = true ↔ a.SameKeys b) := by
  have hincludes := ha.includes_eq hb
  rw [ha.taken_of_elementType_eq htype.symm, Bool.and_true] at hincludes
  refine ⟨_, (ha.equal_eq same hb).trans (congrArg Except.ok hincludes.symm), ?_⟩
  simp only [Bool.and_eq_true, List.all_eq_true]
  constructor
  · rintro ⟨hba, hab⟩
    exact sameKeys_of_includes htype hab hba
  · intro h
    exact ⟨fun m hm => (h.holds_eq m).trans (hb.holds_of_mem hm),
      fun m hm => (h.holds_eq m).symm.trans (ha.holds_of_mem hm)⟩

theorem equal_of_sameKeys (same : Sameness) (ha : a.Lawful) (hb : b.Lawful) (h : a.SameKeys b) :
    a.equal same b = .ok true :=
  ha.equal_of_holds_eq same hb h.holds_eq

theorem sameKeys_of_equal {same : Sameness} (ha : a.Lawful) (hb : b.Lawful)
    (htype : a.config.elementType = b.config.elementType) (h : a.equal same b = .ok true) :
    a.SameKeys b := by
  obtain ⟨equal, hequal, hiff⟩ := ha.equal_iff_sameKeys same hb htype
  rw [h, Except.ok.injEq] at hequal
  exact hiff.1 hequal.symm

/-- Lawful sets of one element type have the same keys if they give the same answer about each
hashable value. -/
theorem sameKeys_iff_has (same : Sameness) (ha : a.Lawful) (hb : b.Lawful)
    (htype : a.config.elementType = b.config.elementType) :
    a.SameKeys b ↔ ∀ x, x.isHashable = true →
      ∃ answer, a.has same x = .ok answer ∧ b.has same x = .ok answer := by
  constructor
  · intro h x hx
    refine ⟨_, ha.has_of_isHashable same hx, ?_⟩
    rw [hb.has_of_isHashable same hx, h.holds_eq x]
  · intro h
    have hagree : ∀ x, x.isHashable = true → a.holds x = b.holds x := by
      intro x hx
      obtain ⟨answer, hanswer, hanswer'⟩ := h x hx
      rw [ha.has_of_isHashable same hx, Except.ok.injEq] at hanswer
      rw [hb.has_of_isHashable same hx, Except.ok.injEq] at hanswer'
      exact hanswer.trans hanswer'.symm
    refine sameKeys_of_includes htype (fun m hm => ?_) fun m hm => ?_
    · exact (hagree m (ha.hashable m hm)).symm.trans (ha.holds_of_mem hm)
    · exact (hagree m (hb.hashable m hm)).trans (hb.holds_of_mem hm)

/-! ## Calls that change sets -/

/-- One call ends alike on sets of the same keys, and leaves lawful sets of the same keys. -/
theorem apply_alike (same : Collection → Sameness) (ha : a.Lawful) (hb : b.Lawful)
    (h : a.SameKeys b) (change : Change) :
    ResultsAlike (change.apply same a).1 (change.apply same b).1 ∧
      (change.apply same a).2.Lawful ∧ (change.apply same b).2.Lawful ∧
      (change.apply same a).2.SameKeys (change.apply same b).2 := by
  cases change with
  | insert xs =>
    simp only [Change.apply, ha.insert_eq, hb.insert_eq]
    rcases h.keyed_insert xs with
      ⟨v, f, g, hf, hg, hcategory, hfv, hgv⟩ | ⟨a', b', ha', hb', h'⟩
    · rw [hf, hg]
      exact ⟨.error hcategory hfv hgv, ha, hb, h⟩
    · rw [ha', hb']
      exact ⟨.ok, ha.keyed_insert ha', hb.keyed_insert hb', h'⟩
  | delete xs =>
    simp only [Change.apply, ha.delete_eq, hb.delete_eq]
    obtain ⟨hresult, h'⟩ := h.keyed_delete xs
    refine ⟨?_, ha.keyed_delete xs, hb.keyed_delete xs, h'⟩
    cases hdelete : Keyed.delete a xs with
    | mk result d =>
      rw [← hresult, hdelete]
      cases result with
      | ok => exact .ok
      | error fault =>
        obtain ⟨-, x, -, -, rfl, -⟩ := Keyed.delete_eq_error hdelete
        exact .error rfl rfl rfl
  | clear => exact ⟨.ok, ha.cleared, hb.cleared, h.elementType, fun x => rfl⟩

/-- A run of calls ends alike on sets of the same keys, call by call, and leaves sets of the same
keys. -/
theorem run_alike (same : Collection → Sameness) (ha : a.Lawful) (hb : b.Lawful)
    (h : a.SameKeys b) (changes : List Change) :
    List.Forall₂ ResultsAlike (Change.run same changes a).1 (Change.run same changes b).1 ∧
      (Change.run same changes a).2.Lawful ∧ (Change.run same changes b).2.Lawful ∧
      (Change.run same changes a).2.SameKeys (Change.run same changes b).2 := by
  induction changes generalizing a b with
  | nil => exact ⟨.nil, ha, hb, h⟩
  | cons change changes ih =>
    obtain ⟨hresult, ha', hb', h'⟩ := ha.apply_alike same hb h change
    obtain ⟨hresults, hlawful⟩ := ih ha' hb' h'
    exact ⟨.cons hresult hresults, hlawful⟩

/-! ## Questions and operations with another set -/

theorem all_holds_eq (ha : a.Lawful) (hb : b.Lawful) (h : a.SameKeys b)
    (htype : c.config.elementType = a.config.elementType) :
    a.members.all c.holds = b.members.all c.holds := by
  have hholds : ∀ {d : Collection}, d.Lawful → c.config.elementType = d.config.elementType →
      (d.members.all c.holds = true ↔ ∀ x, Value.hasKey x d.members = true →
        Value.hasKey x c.members = true) := by
    intro d hd hcd
    rw [List.all_eq_true]
    constructor
    · intro hall x hx
      exact Members.hasKey_of_forall (fun m hm => hasKey_of_holds (hall m hm)) hx
    · intro hall m hm
      refine holds_iff.2 ⟨?_, hall m (Members.hasKey_self_of_mem hm)⟩
      rw [takes_congr hcd m]
      exact hd.taken m hm
  rw [Bool.eq_iff_iff, hholds ha htype, hholds hb (htype.trans h.elementType)]
  simp only [h.keys]

/-- Operations on operands of the same keys have equal results. -/
theorem combine_equal (same : Sameness) {a' b' : Collection} (ha : a.Lawful) (ha' : a'.Lawful)
    (hb : b.Lawful) (hb' : b'.Lawful) (haa' : a.SameKeys a') (hbb' : b.SameKeys b')
    (htype : a.config.elementType = b.config.elementType) (op : SetOperator) :
    ∃ r q, a.combine same op b = .ok r ∧ a'.combine same op b' = .ok q ∧
      r.equal same q = .ok true ∧ q.equal same r = .ok true := by
  have htype' : b'.config.elementType = a'.config.elementType := by
    rw [← hbb'.elementType, ← htype, haa'.elementType]
  obtain ⟨r, hr, hrlawful, -, hrholds⟩ :=
    ha.combine_eq_ok same hb (takes_congr htype.symm) op
  obtain ⟨q, hq, hqlawful, -, hqholds⟩ :=
    ha'.combine_eq_ok same hb' (takes_congr htype') op
  have hholds : ∀ x, r.holds x = q.holds x := by
    intro x
    rw [hrholds, hqholds, haa'.holds_eq, hbb'.holds_eq]
  exact ⟨r, q, hr, hq, hrlawful.equal_of_holds_eq same hqlawful hholds,
    hqlawful.equal_of_holds_eq same hrlawful fun x => (hholds x).symm⟩

end Lawful

/-- Two sets of which one can take the place of the other: calls that change them end alike, they
are of one size, and with every set of their element type they answer the same and have equal
results. -/
structure Interchangeable (same : Sameness) (changing : Collection → Sameness)
    (a b : Collection) : Prop where
  run : ∀ changes : List Change,
    List.Forall₂ ResultsAlike (Change.run changing changes a).1
        (Change.run changing changes b).1 ∧
      (Change.run changing changes a).2.equal same (Change.run changing changes b).2 = .ok true
  size : a.size = b.size
  answers : ∀ c : Collection, c.IsReachable → c.config.elementType = a.config.elementType →
    (∃ answer, a.isSuperset same c = .ok answer ∧ b.isSuperset same c = .ok answer) ∧
      ∃ answer, a.isSubset same c = .ok answer ∧ b.isSubset same c = .ok answer
  combined : ∀ c : Collection, c.IsReachable → c.config.elementType = a.config.elementType →
    ∀ op : SetOperator,
      (∃ r q, a.combine same op c = .ok r ∧ b.combine same op c = .ok q ∧
        r.equal same q = .ok true ∧ q.equal same r = .ok true) ∧
      ∃ r q, c.combine same op a = .ok r ∧ c.combine same op b = .ok q ∧
        r.equal same q = .ok true ∧ q.equal same r = .ok true

theorem SameKeys.interchangeable {a b : Collection} (h : a.SameKeys b) (ha : a.Lawful)
    (hb : b.Lawful) (same : Sameness) (changing : Collection → Sameness) :
    Interchangeable same changing a b where
  run changes := by
    obtain ⟨hresults, ha', hb', h'⟩ := ha.run_alike changing hb h changes
    exact ⟨hresults, ha'.equal_of_sameKeys same hb' h'⟩
  size := ha.size_eq hb h
  answers c hc htype := by
    refine ⟨⟨_, ha.isSuperset_eq same hc.lawful, ?_⟩, _, hc.lawful.isSuperset_eq same ha, ?_⟩
    · rw [hb.isSuperset_eq same hc.lawful, funext h.holds_eq]
    · rw [ha.all_holds_eq hb h htype]
      exact hc.lawful.isSuperset_eq same hb
  combined c hc htype op :=
    ⟨ha.combine_equal same hb hc.lawful hc.lawful h (SameKeys.refl c) htype.symm op,
      hc.lawful.combine_equal same hc.lawful ha hb (SameKeys.refl c) h htype op⟩

/-- Among sets of reachable sessions that have one element type, equality is an equivalence
relation. It holds of two sets exactly if both have the same hashable values, and exactly if they
are interchangeable. -/
theorem equal_iff_interchangeable (same : Sameness) (changing : Collection → Sameness)
    {a b c : Collection} (ha : a.IsReachable) (hb : b.IsReachable) (hc : c.IsReachable)
    (hab : a.config.elementType = b.config.elementType)
    (hbc : b.config.elementType = c.config.elementType) :
    a.equal same a = .ok true ∧
    (∃ equal, a.equal same b = .ok equal ∧ b.equal same a = .ok equal ∧
      (equal = true ↔ ∀ x, x.isHashable = true →
        ∃ answer, a.has same x = .ok answer ∧ b.has same x = .ok answer)) ∧
    (a.equal same b = .ok true → b.equal same c = .ok true → a.equal same c = .ok true) ∧
    (a.equal same b = .ok true ↔ Interchangeable same changing a b) := by
  have halawful := ha.lawful
  have hblawful := hb.lawful
  have hclawful := hc.lawful
  have hkeys : a.equal same b = .ok true → a.SameKeys b := halawful.sameKeys_of_equal hblawful hab
  refine ⟨halawful.equal_of_sameKeys same halawful (SameKeys.refl a), ?_, fun h h' => ?_,
    fun h => (hkeys h).interchangeable halawful hblawful same changing, fun h => (h.run []).2⟩
  · obtain ⟨equal, hequal, hiff⟩ := halawful.equal_iff_sameKeys same hblawful hab
    obtain ⟨back, hback, hbackiff⟩ := hblawful.equal_iff_sameKeys same halawful hab.symm
    have hagree : back = equal := by
      rw [Bool.eq_iff_iff, hiff, hbackiff]
      exact ⟨SameKeys.symm, SameKeys.symm⟩
    exact ⟨equal, hequal, hagree ▸ hback,
      hiff.trans (halawful.sameKeys_iff_has same hblawful hab)⟩
  · have hkeys' := hblawful.sameKeys_of_equal hclawful hbc h'
    exact halawful.equal_of_sameKeys same hclawful ((hkeys h).trans hkeys')

/-- Two sets that hold different values for one key, in different orders, stay equal where that key
is dropped by a third value of it. -/
theorem equal_iff_interchangeable_of_levels :
    let same : Sameness := fun x y => .ok (x.sameKey y)
    let a : Collection := ⟨.inMemory, { identity := 1, settings := {} },
      [.bool true, .level .mid], none⟩
    let b : Collection := ⟨.inMemory, { identity := 2, settings := {} },
      [.level .mid, .level .low], none⟩
    let changes := [Change.delete [.int 1, .list []], .insert [.bool false]]
    a.equal same b = .ok true ∧ a.size = b.size ∧
      (Change.run (fun _ => same) changes a).2.members = [.level .mid, .bool false] ∧
      (Change.run (fun _ => same) changes b).2.members = [.level .mid, .bool false] ∧
      (Change.run (fun _ => same) changes a).2.equal same
        (Change.run (fun _ => same) changes b).2 = .ok true := by
  intro same a b changes
  let s := (({} : Session).after
    { step := .construct .inMemory, args := [.bool true, .level .mid] }).after
    { step := .construct .inMemory, args := [.level .mid, .level .low] }
  have hs : s.IsReachable :=
    .step (.step .refl (Instruction.isPlain_of_no_config (by decide) hasPlainConfig_nil))
      (Instruction.isPlain_of_no_config (by decide) hasPlainConfig_nil)
  have hcollections : s.collections = [a, b] := rfl
  have ha : a.IsReachable := ⟨s, hs, by simp [hcollections], rfl⟩
  have hb : b.IsReachable := ⟨s, hs, by simp [hcollections], rfl⟩
  have hequal : a.equal same b = .ok true := rfl
  obtain ⟨-, -, -, hinterchangeable⟩ :=
    equal_iff_interchangeable same (fun _ => same) ha hb hb rfl rfl
  have h := hinterchangeable.1 hequal
  exact ⟨hequal, h.size, rfl, rfl, (h.run changes).2⟩

end Collection

end ValueSets
