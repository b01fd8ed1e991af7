import ValueSets.Members.Lemmas
import ValueSets.Value.Items

/-!
# Values whose sets exist

A session keeps its sets beside its values, which refer to them by handles. Given the classes of the
sets that there are, a value is grounded if each handle in it is that of a set of the class that the
handle says, each configuration in it is grounded, and each number in it can be written in digits. A
configuration is grounded if it has an identity and its element type is one whose values can be
hashed, unless one of the classes fixes that very type. `Value.references` finds the handles, the
configurations and the numbers. Being grounded stays true while sets are added, and whatever is
taken out of grounded values is grounded.
-/

set_option autoImplicit false

namespace ValueSets

namespace Config

/-- A configuration that has its identity: its own, or that of the shared one. -/
def IsSettled (c : Config) : Prop := c.identity ≠ 0 ∨ c = shared

theorem isSettled_iff {c : Config} : c.IsSettled ↔ ¬(c.identity = 0 ∧ c ≠ shared) := by
  unfold IsSettled
  rw [Decidable.not_and_iff_not_or_not, Decidable.not_not]

/-- Whether an element type is one whose values can be hashed, or one that a class fixes, where the
sets have the given classes. -/
def IsTyped (classes : List SetClass) (c : Config) : Prop :=
  ∀ e, c.elementType = some e → e.isHashable = true ∨ ∃ cls ∈ classes, cls.fixedType? = some e

/-- A configuration as it may be found where the sets have the given classes. -/
structure IsGrounded (classes : List SetClass) (c : Config) : Prop where
  settled : c.IsSettled
  typed : c.IsTyped classes

variable {classes more : List SetClass} {c d : Config}

theorem IsTyped.append (hc : c.IsTyped classes) : c.IsTyped (classes ++ more) := by
  intro e he
  rcases hc e he with hhash | ⟨cls, hcls, hfixed⟩
  · exact .inl hhash
  · exact .inr ⟨cls, List.mem_append_left more hcls, hfixed⟩

theorem IsTyped.congr (hc : c.IsTyped classes) (h : d.elementType = c.elementType) :
    d.IsTyped classes := by
  intro e he
  exact hc e (h ▸ he)

theorem IsGrounded.append (hc : c.IsGrounded classes) : c.IsGrounded (classes ++ more) :=
  ⟨hc.settled, hc.typed.append⟩

/-- The configuration of the sets that do not make their own has no element type. -/
theorem isGrounded_shared : shared.IsGrounded classes := by
  refine ⟨.inr rfl, fun e he => ?_⟩
  cases he

end Config

namespace Value

mutual

/-- What a value refers to: the handles, the configurations and the numbers in it. -/
def references : Value → List Value
  | .int n _ => [.int n]
  | .fraction q _ => [.fraction q]
  | .handle h => [.handle h]
  | .config c => [.config c]
  | .tuple items _ | .list items | .set items _ | .frozenSet items _ _ => allReferences items
  | .table entries => entryReferences entries
  | _ => []
termination_by structural x => x

/-- What several values refer to. -/
def allReferences : List Value → List Value
  | [] => []
  | v :: vs => references v ++ allReferences vs
termination_by structural x => x

/-- What the entries of a table refer to. -/
def entryReferences : List (Value × Value) → List Value
  | [] => []
  | (k, v) :: es => references k ++ references v ++ entryReferences es
termination_by structural x => x

end

theorem mem_allReferences {r : Value} {vs : List Value} :
    r ∈ allReferences vs ↔ ∃ v ∈ vs, r ∈ references v := by
  induction vs with
  | nil => simp [allReferences]
  | cons v vs ih => simp [allReferences, ih]

theorem mem_entryReferences {r : Value} {es : List (Value × Value)} :
    r ∈ entryReferences es ↔ ∃ e ∈ es, r ∈ references e.1 ∨ r ∈ references e.2 := by
  induction es with
  | nil => simp [entryReferences]
  | cons e es ih =>
    obtain ⟨k, v⟩ := e
    simp [entryReferences, ih, or_assoc]

/-- Whether a handle is that of a set, a configuration is grounded and a number has few enough
digits to be written, where the sets have the given classes. -/
def IsThere (classes : List SetClass) : Value → Prop
  | .int n _ => checkDigits n.natAbs = .ok ()
  | .fraction q _ => checkDigits q.num.natAbs = .ok () ∧ checkDigits q.den = .ok ()
  | .handle h => classes[h.index]? = some h.cls
  | .config c => c.IsGrounded classes
  | _ => True

/-- Whether all that a value refers to is there, where the sets have the given classes. -/
def Grounded (classes : List SetClass) (v : Value) : Prop :=
  ∀ r ∈ v.references, r.IsThere classes

/-- A grounded value that is no set of the session. -/
def NoSet (classes : List SetClass) (v : Value) : Prop :=
  v.Grounded classes ∧ ∀ h, v ≠ .handle h

/-- Whether a value is a number that is written in digits. -/
def isNumber : Value → Bool
  | .int .. | .fraction .. => true
  | _ => false

/-- Whether a value may be answered: it is grounded, or a number whose digits are not counted yet.
-/
def Answerable (classes : List SetClass) (v : Value) : Prop :=
  v.Grounded classes ∨ v.isNumber = true

/-- Whether all values of a list are grounded. -/
def AllGrounded (classes : List SetClass) (vs : List Value) : Prop := ∀ v ∈ vs, v.Grounded classes

/-- Whether the keys and values of entries are grounded. -/
def EntriesGrounded (classes : List SetClass) (es : List (Value × Value)) : Prop :=
  ∀ e ∈ es, e.1.Grounded classes ∧ e.2.Grounded classes

variable {classes more : List SetClass} {v w : Value} {vs ws xs : List Value}
  {es fs : List (Value × Value)}

/-! ## The parts of values -/

theorem grounded_of_no_references (hv : v.references = []) : v.Grounded classes := by
  intro r hr
  rw [hv] at hr
  cases hr

/-- A value that refers to nothing is no set. -/
theorem noSet_of_no_references (hv : v.references = []) : v.NoSet classes := by
  refine ⟨grounded_of_no_references hv, fun h heq => ?_⟩
  rw [heq] at hv
  cases hv

theorem NoSet.answerable (hv : v.NoSet classes) :
    v.Answerable classes ∧ ∀ h, v ≠ .handle h := ⟨.inl hv.1, hv.2⟩

/-- A number is no set. -/
theorem answerable_of_isNumber (hv : v.isNumber = true) :
    v.Answerable classes ∧ ∀ h, v ≠ .handle h := by
  refine ⟨.inr hv, fun h heq => ?_⟩
  rw [heq] at hv
  cases hv

theorem allReferences_grounded :
    (∀ r ∈ allReferences vs, r.IsThere classes) ↔ AllGrounded classes vs := by
  unfold AllGrounded Grounded
  simp only [mem_allReferences]
  constructor
  · intro hvs v hv r hr
    exact hvs r ⟨v, hv, hr⟩
  · rintro hvs r ⟨v, hv, hr⟩
    exact hvs v hv r hr

@[simp] theorem grounded_int {n : Int} {identity : Nat} :
    (Value.int n identity).Grounded classes ↔ checkDigits n.natAbs = .ok () := by
  simp [Grounded, references, IsThere]

@[simp] theorem grounded_fraction {q : Rat} {identity : Nat} :
    (Value.fraction q identity).Grounded classes ↔
      checkDigits q.num.natAbs = .ok () ∧ checkDigits q.den = .ok () := by
  simp [Grounded, references, IsThere]

@[simp] theorem grounded_handle {h : Handle} :
    (Value.handle h).Grounded classes ↔ classes[h.index]? = some h.cls := by
  simp [Grounded, references, IsThere]

@[simp] theorem grounded_config {c : Config} :
    (Value.config c).Grounded classes ↔ c.IsGrounded classes := by
  simp [Grounded, references, IsThere]

@[simp] theorem grounded_tuple {identity : Nat} :
    (Value.tuple xs identity).Grounded classes ↔ AllGrounded classes xs :=
  allReferences_grounded

@[simp] theorem grounded_list : (Value.list xs).Grounded classes ↔ AllGrounded classes xs :=
  allReferences_grounded

@[simp] theorem grounded_set {layout : Layout} :
    (Value.set xs layout).Grounded classes ↔ AllGrounded classes xs :=
  allReferences_grounded

@[simp] theorem grounded_frozenSet {identity : Nat} {layout : Layout} :
    (Value.frozenSet xs identity layout).Grounded classes ↔ AllGrounded classes xs :=
  allReferences_grounded

@[simp] theorem grounded_table :
    (Value.table es).Grounded classes ↔ EntriesGrounded classes es := by
  have hreferences : (Value.table es).references = entryReferences es := rfl
  unfold EntriesGrounded Grounded
  rw [hreferences]
  simp only [mem_entryReferences]
  constructor
  · intro hes e he
    exact ⟨fun r hr => hes r ⟨e, he, .inl hr⟩, fun r hr => hes r ⟨e, he, .inr hr⟩⟩
  · rintro hes r ⟨e, he, hr | hr⟩
    · exact (hes e he).1 r hr
    · exact (hes e he).2 r hr

theorem IsThere.append (hv : v.IsThere classes) : v.IsThere (classes ++ more) := by
  cases v with
  | handle h =>
    have hfound : classes[h.index]? = some h.cls := hv
    show (classes ++ more)[h.index]? = some h.cls
    rw [List.getElem?_append_left (List.getElem?_eq_some_iff.1 hfound).1]
    exact hfound
  | config c => exact Config.IsGrounded.append hv
  | int | fraction => exact hv
  | _ => trivial

theorem Grounded.append (hv : v.Grounded classes) : v.Grounded (classes ++ more) :=
  fun r hr => (hv r hr).append

/-! ## Lists of values -/

theorem allGrounded_nil : AllGrounded classes [] := by
  intro v hv
  cases hv

theorem allGrounded_cons :
    AllGrounded classes (v :: vs) ↔ v.Grounded classes ∧ AllGrounded classes vs := by
  unfold AllGrounded
  simp

theorem allGrounded_append :
    AllGrounded classes (vs ++ ws) ↔ AllGrounded classes vs ∧ AllGrounded classes ws := by
  unfold AllGrounded
  simp only [List.mem_append]
  constructor
  · intro h
    exact ⟨fun v hv => h v (.inl hv), fun v hv => h v (.inr hv)⟩
  · rintro ⟨hvs, hws⟩ v (hv | hv)
    · exact hvs v hv
    · exact hws v hv

theorem AllGrounded.of_subset (hvs : AllGrounded classes vs) (h : ws ⊆ vs) :
    AllGrounded classes ws := fun v hv => hvs v (h hv)

theorem AllGrounded.append (hvs : AllGrounded classes vs) : AllGrounded (classes ++ more) vs :=
  fun v hv => (hvs v hv).append

theorem entriesGrounded_cons {e : Value × Value} : EntriesGrounded classes (e :: es) ↔
    (e.1.Grounded classes ∧ e.2.Grounded classes) ∧ EntriesGrounded classes es := by
  unfold EntriesGrounded
  simp only [List.forall_mem_cons]

theorem entriesGrounded_append :
    EntriesGrounded classes (es ++ fs) ↔
      EntriesGrounded classes es ∧ EntriesGrounded classes fs := by
  unfold EntriesGrounded
  simp only [List.mem_append]
  constructor
  · intro h
    exact ⟨fun e he => h e (.inl he), fun e he => h e (.inr he)⟩
  · rintro ⟨hes, hfs⟩ e (he | he)
    · exact hes e he
    · exact hfs e he

theorem EntriesGrounded.keys (hes : EntriesGrounded classes es) :
    AllGrounded classes (es.map (·.1)) := by
  intro v hv
  obtain ⟨e, he, rfl⟩ := List.mem_map.1 hv
  exact (hes e he).1

/-- Each entry that one more is merged into has a key and a value that were given. -/
theorem forall_mergeEntry {p q : Value → Prop} {merged : List (Value × Value)}
    {entry : Value × Value} (hmerged : ∀ e ∈ merged, p e.1 ∧ q e.2)
    (hentry : p entry.1 ∧ q entry.2) : ∀ e ∈ Members.mergeEntry merged entry, p e.1 ∧ q e.2 := by
  unfold Members.mergeEntry
  split
  · intro e he
    obtain ⟨old, hold, rfl⟩ := List.mem_map.1 he
    split
    · exact ⟨(hmerged old hold).1, hentry.2⟩
    · exact hmerged old hold
  · intro e he
    rcases List.mem_append.1 he with he | he
    · exact hmerged e he
    · rw [List.mem_singleton.1 he]
      exact hentry

/-- Each entry of a merged table has a key and a value that were given. -/
theorem forall_mergeEntries {p q : Value → Prop} (hes : ∀ e ∈ es, p e.1 ∧ q e.2) :
    ∀ e ∈ Members.mergeEntries es, p e.1 ∧ q e.2 := by
  rw [Members.mergeEntries_eq_foldl]
  suffices hfold : ∀ merged : List (Value × Value), (∀ e ∈ merged, p e.1 ∧ q e.2) →
      ∀ e ∈ es.foldl Members.mergeEntry merged, p e.1 ∧ q e.2 from hfold [] (by simp)
  induction es with
  | nil => exact fun merged hmerged => hmerged
  | cons entry es ih =>
    intro merged hmerged
    have hentry := forall_mergeEntry hmerged (hes entry (by simp))
    exact ih (fun e he => hes e (by simp [he])) _ hentry

theorem EntriesGrounded.merge (hes : EntriesGrounded classes es) :
    EntriesGrounded classes (Members.mergeEntries es) := forall_mergeEntries hes

/-! ## Values made of values -/

@[simp] theorem references_withIdentity (identity : Nat) (v : Value) :
    (v.withIdentity identity).references = v.references := by
  cases v <;> rfl

@[simp] theorem grounded_withIdentity (identity : Nat) :
    (v.withIdentity identity).Grounded classes ↔ v.Grounded classes := by
  unfold Grounded
  rw [references_withIdentity]

@[simp] theorem grounded_ofElementType (t : Option Ty) :
    (ofElementType t).Grounded classes := by
  apply grounded_of_no_references
  cases t <;> rfl

theorem grounded_entries (c : Config) : EntriesGrounded classes c.entries := by
  intro e he
  simp only [Config.entries, List.mem_cons, List.not_mem_nil, or_false] at he
  rcases he with rfl | rfl
  · exact ⟨grounded_of_no_references rfl, grounded_ofElementType _⟩
  · exact ⟨grounded_of_no_references rfl, grounded_of_no_references rfl⟩

theorem grounded_pair {e : Value × Value} (hk : e.1.Grounded classes)
    (hv : e.2.Grounded classes) : (pair e).Grounded classes := by
  unfold pair
  rw [grounded_tuple, allGrounded_cons, allGrounded_cons]
  exact ⟨hk, hv, allGrounded_nil⟩

/-- The items of a grounded value are grounded. -/
theorem Grounded.items (hv : v.Grounded classes) (hvs : v.items? = .ok vs) :
    AllGrounded classes vs := by
  -- the items of all that is no sequence and no table are made of data
  have hplain : ∀ {α : Type} (xs : List α) (f : α → Value), (∀ x, (f x).Grounded classes) →
      AllGrounded classes (xs.map f) := by
    intro α xs f hf w hw
    obtain ⟨x, -, rfl⟩ := List.mem_map.1 hw
    exact hf x
  unfold items? at hvs
  split at hvs
  case h_4 | h_5 | h_6 | h_7 =>
    cases hvs
    simpa using hv
  case h_8 =>
    cases hvs
    exact (grounded_table.1 hv).keys
  case h_9 c =>
    cases hvs
    intro w hw
    obtain ⟨e, he, rfl⟩ := List.mem_map.1 hw
    obtain ⟨hkey, hvalue⟩ := grounded_entries c e he
    exact grounded_pair hkey hvalue
  case h_12 => cases hvs
  case h_3 =>
    cases hvs
    refine hplain _ _ fun b => grounded_int.2 (checkDigits_of_lt ?_)
    exact Nat.lt_trans b.toNat_lt (by decide)
  all_goals
    cases hvs
    exact hplain _ _ fun _ => grounded_of_no_references rfl

end Value

end ValueSets
