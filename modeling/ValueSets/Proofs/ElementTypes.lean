import ValueSets.Proofs.Session.Reachable

/-!
# Element types below the type of a class

A class that fixes its element type lets a set be restricted to any type below that one. What such a
set takes is what the class takes, with one exception: a restriction to truth values takes them,
although numbers do not. `Ty.takes_eq_of_isSubtypeOf` says so of any two types. From it follows what
is true of the members of a set of a class, and where a set of numbers holds a truth value.
-/

set_option autoImplicit false

namespace ValueSets

namespace Ty

/-- Whether a type is of a kind of numbers, among which truth values do not count. -/
def isNumeric (t : Ty) : Bool := t.kind? == some .integer || t.kind? == some .real

variable {e t : Ty} {v : Value}

theorem kind?_sets (c : SetClass) : (Ty.sets c).kind? = none := by
  simp [kind?, isSubtypeOf, above]

/-- Nothing else is below the truth values. -/
theorem eq_bool_of_isSubtypeOf (h : t.isSubtypeOf .bool = true) : t = .bool := by
  cases t with
  | sets c => simp [isSubtypeOf, above] at h
  | _ =>
    revert h
    decide

theorem kind?_eq_real_iff :
    t.kind? = some .real ↔ t = .float ∨ t = .fraction ∨ t = .rational ∨ t = .real := by
  cases t with
  | sets c => simp [kind?_sets]
  | _ => decide

/-- Above a type of the real kind are types of that kind, and types that all numbers are of. -/
theorem kind?_or_isSubtypeOf_number (he : e.kind? = some .real) (h : e.isSubtypeOf t = true) :
    t.kind? = some .real ∨ Ty.number.isSubtypeOf t = true := by
  have hall : ∀ u ∈ e.above, u.kind? = some .real ∨ Ty.number.isSubtypeOf u = true := by
    rcases kind?_eq_real_iff.1 he with rfl | rfl | rfl | rfl
    all_goals decide
  simp only [isSubtypeOf, Bool.or_eq_true, beq_iff_eq, List.contains_iff_mem] at h
  rcases h with rfl | h
  · exact .inl he
  · exact hall t h

/-- The values of a type of the integer kind are numbers. -/
theorem isSubtypeOf_number_of_integer (h : t.kind? = some .integer) :
    t.isSubtypeOf .number = true := by
  cases t with
  | sets c => simp [kind?_sets] at h
  | _ =>
    revert h
    decide

/-- The types that truth values are of, apart from their own, are numeric or above all numbers. -/
theorem isNumeric_or_isSubtypeOf_number (h : Ty.bool.isSubtypeOf t = true) (hne : t ≠ .bool) :
    t.isNumeric = true ∨ Ty.number.isSubtypeOf t = true := by
  have hall : ∀ u ∈ Ty.bool.above, u.isNumeric = true ∨ Ty.number.isSubtypeOf u = true := by
    decide
  simp only [isSubtypeOf, Bool.or_eq_true, beq_iff_eq, List.contains_iff_mem] at h
  exact hall t (h.resolve_left (Ne.symm hne))

/-- What all numbers are of is of no kind. -/
theorem isNumeric_of_number_isSubtypeOf (h : Ty.number.isSubtypeOf t = true) :
    t.isNumeric = false := by
  simp only [isSubtypeOf, above, Bool.or_eq_true, beq_iff_eq, List.contains_iff_mem,
    List.mem_singleton] at h
  rcases h with rfl | rfl
  all_goals rfl

/-! ## What a type takes -/

/-- A truth value is taken by the types that it is of, unless they are numeric. -/
theorem takes_of_isBool (hv : v.isA .bool = true) : t.takes v = (v.isA t && !t.isNumeric) := by
  have hnone : v.kind? = none := by
    unfold Value.kind?
    rw [eq_bool_of_isSubtypeOf hv]
    rfl
  have htakes : t.takes v = if t.isNumeric then false else v.isA t := by
    unfold takes isNumeric
    simp [hv, hnone]
  rw [htakes]
  cases t.isNumeric <;> simp

/-- Any other value is taken by the types that it is of, and by those of the real kind if it is of
the integer kind. -/
theorem takes_of_not_isBool (hv : v.isA .bool = false) :
    t.takes v = (v.isA t || (t.kind? == some .real && v.kind? == some .integer)) := by
  unfold takes
  rw [hv]
  rfl

/-- A type takes what a type below it takes. The exception are the truth values, which a numeric
type does not take although their own type is below it. -/
theorem takes_eq_of_isSubtypeOf (h : e.isSubtypeOf t = true) (hv : e.takes v = true) :
    t.takes v = !(e == .bool && t.isNumeric) := by
  cases hbool : v.isA .bool with
  | true =>
    rw [takes_of_isBool hbool, Bool.and_eq_true, Bool.not_eq_true'] at hv
    obtain ⟨hve, hnumeric⟩ := hv
    have hvt : v.isA t = true := isSubtypeOf_trans hve h
    rw [takes_of_isBool hbool, hvt, Bool.true_and]
    by_cases he : e = .bool
    · rw [he]
      rfl
    · -- the type of the truth value is strictly below `e`, which is not numeric
      have hbelow : Ty.bool.isSubtypeOf e = true := eq_bool_of_isSubtypeOf hbool ▸ hve
      have habove : Ty.number.isSubtypeOf e = true :=
        (isNumeric_or_isSubtypeOf_number hbelow he).resolve_left (by simp [hnumeric])
      rw [isNumeric_of_number_isSubtypeOf (isSubtypeOf_trans habove h), Bool.and_false]
  | false =>
    have he : (e == .bool) = false := by
      rw [beq_eq_false_iff_ne]
      rintro rfl
      rw [takes_of_not_isBool hbool, hbool] at hv
      exact absurd hv (by simp [kind?_eq_real_iff])
    rw [he, Bool.false_and, Bool.not_false, takes_of_not_isBool hbool]
    rw [takes_of_not_isBool hbool] at hv
    simp only [Bool.or_eq_true, Bool.and_eq_true, beq_iff_eq] at hv ⊢
    rcases hv with hve | ⟨hreal, hinteger⟩
    · exact .inl (isSubtypeOf_trans hve h)
    · -- an integer that widens to `e` widens to `t`, or is one of all numbers
      rcases kind?_or_isSubtypeOf_number hreal h with hkind | hnumber
      · exact .inr ⟨hkind, hinteger⟩
      · exact .inl (isSubtypeOf_trans (isSubtypeOf_number_of_integer hinteger) hnumber)

end Ty

namespace Collection

variable {c : Collection} {t : Ty} {cls : SetClass} {same : Sameness} {standIn : Value → StandIn}
  {identity : Nat}

/-- An empty set of a class that fixes its element type, restricted to just that type. -/
def ofClass (cls : SetClass) (t : Ty) (identity : Nat) : Collection where
  cls := cls
  config := { identity, settings := { elementType := some t } }
  members := []

theorem lawful_ofClass (hkeyed : cls.isKeyed = true) (hfixed : cls.fixedType? = some t) :
    (ofClass cls t identity).Lawful where
  keyed := hkeyed
  ownConfig := rfl
  hashable := by simp [ofClass]
  distinct := List.Pairwise.nil
  taken := by simp [ofClass]
  bound u hu := by
    rw [show cls.fixedType? = some u from hu, Option.some.injEq] at hfixed
    exact ⟨t, rfl, hfixed ▸ Ty.isSubtypeOf_refl u⟩

/-- Making a set of such a class without options adds the elements to the empty one. -/
theorem construct_eq_insert (hkeyed : cls.isKeyed = true) (hfixed : cls.fixedType? = some t)
    (xs : List Value) :
    construct same standIn cls xs [] identity = Keyed.insert (ofClass cls t identity) xs := by
  have hsignature : cls.signature.bind (.null :: xs) [] = .ok [("self", .null)] := by
    simp [SetClass.signature, Signature.bind, Signature.bindNamed, Signature.parameters,
      Signature.needed, bind, Except.bind, pure, Except.pure]
  have hsettings : Settings.readNamed [] = .ok {} := rfl
  have hconfig : configured standIn cls [] identity =
      .ok ((ofClass cls t identity).config, none) := by
    simp [configured, hkeyed, hsettings, SetClass.configure, SetClass.bind, hfixed, ofClass, bind,
      Except.bind, pure, Except.pure]
  unfold construct
  rw [hsignature]
  simp only [hconfig, bind, Except.bind]
  exact (lawful_ofClass hkeyed hfixed).inserted_eq same xs

/-- A set of such a class is made of one hashable value exactly if the class takes it. -/
theorem construct_singleton_iff (hkeyed : cls.isKeyed = true) (hfixed : cls.fixedType? = some t)
    {x : Value} (hx : x.isHashable = true) :
    (∃ d, construct same standIn cls [x] [] identity = .ok d ∧ d.members = [x]) ↔
      t.takes x = true := by
  have htakes : (ofClass cls t identity).takes x = t.takes x := rfl
  simp only [construct_eq_insert hkeyed hfixed, Keyed.insert_eq_ok_iff, List.mem_singleton,
    forall_eq, htakes, hx, and_true]
  constructor
  · rintro ⟨d, ⟨htaken, -⟩, -⟩
    exact htaken
  · intro htaken
    exact ⟨_, ⟨htaken, rfl⟩, rfl⟩

/-- In whatever way a set was restricted whose class fixes the element type, a set of the class that
is made without options may be made of each of its members, unless the set is restricted to truth
values and the class to numbers. No other set of a class of numbers has a truth value. -/
theorem IsReachable.members_fit_class (hc : c.IsReachable) (hfixed : c.cls.fixedType? = some t)
    (same : Sameness) (standIn : Value → StandIn) (identity : Nat) :
    (∀ (e : Ty) (v : Value), e.isSubtypeOf t = true → e.takes v = true →
      (t.takes v = true ↔ ¬(e = .bool ∧ t.isNumeric = true))) ∧
    ∀ m ∈ c.members,
      ((∃ d, construct same standIn c.cls [m] [] identity = .ok d ∧ d.members = [m]) ↔
        ¬(c.config.elementType = some .bool ∧ t.isNumeric = true)) ∧
      (m.isA .bool = true → t.isNumeric = true →
        c.config.elementType = some .bool ∧ Ty.bool.isSubtypeOf t = true) := by
  have hlawful := hc.lawful
  obtain ⟨e, he, hsub⟩ := hlawful.bound t hfixed
  have hwiden : ∀ (e : Ty) (v : Value), e.isSubtypeOf t = true → e.takes v = true →
      (t.takes v = true ↔ ¬(e = .bool ∧ t.isNumeric = true)) := by
    intro e v hsub hv
    rw [Ty.takes_eq_of_isSubtypeOf hsub hv, Bool.not_eq_true', ← Bool.not_eq_true,
      Bool.and_eq_true, beq_iff_eq]
  refine ⟨hwiden, fun m hm => ?_⟩
  have htaken : e.takes m = true := by
    simpa only [takes, he] using hlawful.taken m hm
  rw [he, Option.some.injEq]
  refine ⟨?_, fun hbool hnumeric => ?_⟩
  · rw [construct_singleton_iff hlawful.keyed hfixed (hlawful.hashable m hm)]
    exact hwiden e m hsub htaken
  · have hrefused : t.takes m = false := by
      rw [Ty.takes_of_isBool hbool, hnumeric, Bool.not_true, Bool.and_false]
    by_cases hbelow : e = .bool
    · exact ⟨hbelow, hbelow ▸ hsub⟩
    · rw [(hwiden e m hsub htaken).2 fun h => hbelow h.1] at hrefused
      cases hrefused

/-- A set of whole numbers that is restricted to levels has members that any set of whole numbers
may have. -/
theorem members_fit_class_of_levels :
    let same : Sameness := fun x y => .ok (x.sameKey y)
    let c : Collection := ⟨.int, { identity := 1, settings := { elementType := some .level } },
      [.level .high, .level .low], none⟩
    ∀ m ∈ c.members, m.isA .bool = false ∧
      ∃ d, construct same (fun v => { value := v }) .int [m] [] 2 = .ok d ∧ d.members = [m] := by
  intro same c m hm
  let s := ({} : Session).after
    { step := .construct .int, args := [.level .high, .level .low],
      named := [("element_type", .type .level)] }
  have hs : s.IsReachable :=
    .step .refl (Instruction.isPlain_of_no_config (by decide) hasPlainConfig_nil)
  have hcollections : s.collections = [c] := rfl
  have hc : c.IsReachable := ⟨s, hs, by simp [hcollections], rfl⟩
  obtain ⟨-, hmembers⟩ := hc.members_fit_class rfl same (fun v => { value := v }) 2
  obtain ⟨hmade, hbool⟩ := hmembers m hm
  refine ⟨?_, hmade.2 (by decide)⟩
  cases h : m.isA .bool with
  | false => rfl
  | true => exact absurd (hbool h rfl).1 (by decide)

/-- A set of whole numbers that is restricted to truth values has one, which no set of whole numbers
may have that is made without options. -/
theorem truth_value_among_whole_numbers :
    ∃ c : Collection, c.IsReachable ∧ c.cls = .int ∧ c.members = [.bool true] ∧
      ∀ same standIn identity, construct same standIn c.cls c.members [] identity =
        .error (.rejected .int (.bool true) .int) := by
  let s := ({} : Session).after
    { step := .construct .int, args := [.bool true], named := [("element_type", .type .bool)] }
  have hs : s.IsReachable :=
    .step .refl (Instruction.isPlain_of_no_config (by decide) hasPlainConfig_nil)
  let c : Collection :=
    ⟨.int, { identity := 1, settings := { elementType := some .bool } }, [.bool true], none⟩
  have hcollections : s.collections = [c] := rfl
  exact ⟨c, ⟨s, hs, by simp [hcollections], rfl⟩, rfl, rfl, fun same standIn identity => rfl⟩

end Collection

end ValueSets
