import ValueSets.Proofs.Construction

/-!
# Where element types come from

An element type whose values cannot be hashed is refused where a configuration is made of settings.
That is not the only way for a type to get into a configuration: a class that fixes one puts it into
a copy, and nobody looks at it there. So an element type of a set is one that the options ask for or
one that the class fixes, `Collection.MadeBy.elementType_eq`, and sets that are derived from it
share its configuration, `Collection.DerivesFrom.config_eq`.

`Session.IsReachable.element_types_traced` puts this together: the element type of every
configuration in a session is one whose values can be hashed, or one that the class of some set
fixes. The latter cannot be left out, since a class that fixes a type makes sets of it whatever type
it is.
-/

set_option autoImplicit false

namespace ValueSets

open Session Value Act

/-- The element type that named options ask for: that of the configuration that is given, and
otherwise the one that is named. -/
def Settings.typeIn (named : List (String × Value)) : Option Ty :=
  match named.lookup "config", elementIn named with
  | some (.config c), _ => c.elementType
  | _, .type t => some t
  | _, _ => none

/-- Whether a configuration restricts sets to values that may be hashable, if it restricts them. -/
def Config.HasHashableType (c : Config) : Prop := ∀ t, c.elementType = some t → t.isHashable = true

/-- The sets that a set leads to by copies and by operators with any other sets. -/
inductive Collection.DerivesFrom (c : Collection) : Collection → Prop
  | refl : DerivesFrom c c
  | copied {d e : Collection} {same : Sameness} : DerivesFrom c d → d.copy same = .ok e →
    DerivesFrom c e
  | combined {d e : Collection} {same : Sameness} {op : SetOperator} (other : Collection) :
    DerivesFrom c d → d.combine same op other = .ok e → DerivesFrom c e

section

variable {cls : SetClass} {named : List (String × Value)} {identity : Nat} {base config : Config}
  {xs : List Value} {made : Except Fault Collection} {c d : Collection} {t : Ty}

namespace Settings

theorem typeIn_of_areAlone (h : AreAlone named) :
    typeIn named = match elementIn named with
      | .type t => some t
      | _ => none := by
  unfold typeIn
  rcases h with h | h
  all_goals
    rw [h]
    cases elementIn named <;> rfl

theorem typeIn_eq_some_iff (h : AreAlone named) :
    typeIn named = some t ↔ elementIn named = .type t := by
  rw [typeIn_of_areAlone h]
  cases elementIn named <;> simp

end Settings

/-- Options come to a configuration with the type that they ask for. -/
theorem Config.ChosenBy.elementType_eq (h : ChosenBy named identity (.ok base)) :
    base.elementType = Settings.typeIn named := by
  cases h with
  | given hconfig =>
    unfold Settings.typeIn
    rw [hconfig]
  | @made element? sorted halone helement =>
    rw [Settings.typeIn_of_areAlone halone]
    cases hvalue : Settings.elementIn named with
    | null | type t =>
      rw [hvalue] at helement
      cases helement
      rfl
    | _ =>
      rw [hvalue] at helement
      cases helement

/-- Settings come to a type whose values can be hashed. -/
theorem Config.ChosenBy.hasHashableType (h : ChosenBy named identity (.ok base))
    (halone : Settings.AreAlone named) : base.HasHashableType := by
  cases h with
  | given hconfig =>
    rcases halone with hnone | hnone
    all_goals
      rw [hnone] at hconfig
      cases hconfig
  | made _ _ hhash _ => exact hhash

/-- A class takes a configuration with its type, or puts its own there if there is none. -/
theorem SetClass.Binds.elementType_eq (h : cls.Binds identity base (.ok config)) :
    config.elementType = base.elementType.or cls.fixedType? := by
  cases h with
  | free hfixed => rw [hfixed, Option.or_none]
  | below hfixed helement => rw [helement, Option.some_or]
  | copied hfixed helement =>
    rw [hfixed, helement]
    rfl

namespace Collection

/-- A set has the element type that the options ask for, and otherwise the one that the class fixes.
-/
theorem MadeBy.elementType_eq (h : MadeBy cls named identity xs (.ok c)) :
    c.config.elementType = (Settings.typeIn named).or cls.fixedType? := by
  cases h with
  | filled hchosen hbinds hfilled =>
    cases hfilled with
    | filled => rw [hbinds.elementType_eq, hchosen.elementType_eq]

/-- Where settings name an element type whose values cannot be hashed, no set is made. -/
theorem MadeBy.eq_error (h : MadeBy cls named identity xs made) (halone : Settings.AreAlone named)
    (htype : Settings.typeIn named = some t) (hhash : t.isHashable = false) :
    made = .error (.unhashableType t) ∨
      ∃ faults, Settings.Faulty (Settings.elementIn named) (Settings.listingIn named) faults ∧
        made = .error (.invalidFields faults) := by
  -- what comes to a configuration has the type, but not one like that
  have hnone : ∀ base, ¬Config.ChosenBy named identity (.ok base) := by
    intro base hchosen
    have htrue := hchosen.hasHashableType halone t (hchosen.elementType_eq.trans htype)
    rw [hhash] at htrue
    cases htrue
  cases h with
  | unchosen hchosen =>
    cases hchosen with
    | invalid _ hfaults => exact .inr ⟨_, hfaults, rfl⟩
    | unhashable _ helement _ _ =>
      have htyped := Settings.elementChoice_some_iff.1 helement
      rw [(Settings.typeIn_eq_some_iff halone).2 htyped, Option.some.injEq] at htype
      subst htype
      exact .inl rfl
  | unbound hchosen _ => exact absurd hchosen (hnone _)
  | filled hchosen _ _ => exact absurd hchosen (hnone _)

/-- A class that fixes a type makes a set of it without being asked, whatever type it is. -/
theorem madeBy_of_fixedType (hfixed : cls.fixedType? = some t) (identity : Nat) :
    MadeBy cls [] identity [] (.ok
      { cls, config := { identity, settings := ⟨some t, true⟩ }, members := [] }) := by
  have hchosen : Config.ChosenBy [] identity (.ok { identity, settings := ⟨none, true⟩ }) :=
    .made (.inl rfl) .absent (by simp) .bool
  exact .filled hchosen (.copied hfixed rfl) (.filled (by simp) (by simp))

/-- A set that was made is proper. -/
theorem MadeBy.proper (h : MadeBy cls named identity xs (.ok c)) (hkeyed : cls.isKeyed = true) :
    c.Proper := by
  cases h with
  | filled _ hbinds hfilled =>
    have hinsert := Keyed.insert_of_filledWith hfilled
    exact ((lawful_of_binds hkeyed hbinds).keyed_insert hinsert).proper

/-- Sets that are derived from a proper one are proper and share its configuration. -/
theorem DerivesFrom.config_eq (hc : c.Proper) (h : c.DerivesFrom d) :
    d.Proper ∧ d.config = c.config := by
  induction h with
  | refl => exact ⟨hc, rfl⟩
  | copied _ hcopy ih =>
    obtain ⟨hproper, hconfig⟩ := ih
    have hlike := hproper.copy hcopy
    exact ⟨hlike.proper, hlike.config.trans hconfig⟩
  | combined other _ hcombine ih =>
    obtain ⟨hproper, hconfig⟩ := ih
    have hlike := hproper.combine hcombine
    exact ⟨hlike.proper, hlike.config.trans hconfig⟩

end Collection

/-- The type of a typed configuration is one that a class fixes, unless its values can be hashed. -/
theorem Config.IsTyped.hasHashableType_or {classes : List SetClass} (h : base.IsTyped classes) :
    base.HasHashableType ∨ ∃ cls ∈ classes, cls.fixedType? = base.elementType := by
  cases helement : base.elementType with
  | none =>
    refine .inl fun t ht => ?_
    rw [helement] at ht
    cases ht
  | some e =>
    rcases h e helement with hhash | hfixed
    · refine .inl fun t ht => ?_
      rw [helement, Option.some.injEq] at ht
      exact ht ▸ hhash
    · exact .inr hfixed

end

namespace Session

variable {s : Session}

/-- The element type of a configuration of a session, be it that of a set or held by a variable, is
one whose values can be hashed, or one that the class of some set fixes. A set that an instruction
makes, and each set that is derived from it, has the type that the options ask for or else the one
that its class fixes; settings that ask for a type whose values cannot be hashed make no set, but a
class that fixes a type, whatever it is, makes a set of it. -/
theorem IsReachable.element_types_traced (hs : s.IsReachable) :
    (∀ c ∈ s.collections, c.config.HasHashableType ∨
      ∃ d ∈ s.collections, d.cls.fixedType? = c.config.elementType) ∧
    (∀ name config, s.value? name = some (.config config) → config.HasHashableType ∨
      ∃ d ∈ s.collections, d.cls.fixedType? = config.elementType) ∧
    ∀ i cls xs named u, s.Constructs i cls xs named u → ∃ made, i.Makes s made ∧
      (∀ c, made = .ok c → ∀ d, c.DerivesFrom d →
        d.config.elementType = (Settings.typeIn named).or cls.fixedType?) ∧
      (∀ t, Settings.AreAlone named → Settings.typeIn named = some t → t.isHashable = false →
        made = .error (.unhashableType t) ∨
          ∃ faults, Settings.Faulty (Settings.elementIn named) (Settings.listingIn named) faults ∧
            made = .error (.invalidFields faults)) ∧
      ∀ t, cls.fixedType? = some t → named = [] → xs = [] →
        ∃ c, made = .ok c ∧ c.config.elementType = some t := by
  have htraced : ∀ config : Config, config.IsTyped s.classes → config.HasHashableType ∨
      ∃ d ∈ s.collections, d.cls.fixedType? = config.elementType := by
    intro config htyped
    refine htyped.hasHashableType_or.imp id ?_
    rintro ⟨cls, hcls, hfixed⟩
    obtain ⟨d, hd, rfl⟩ := List.mem_map.1 hcls
    exact ⟨d, hd, hfixed⟩
  refine ⟨fun c hc => htraced _ (hs.sound.configs c hc).typed, fun name config hconfig => ?_,
    fun i cls xs named u hmakes => ?_⟩
  · exact htraced _ (grounded_config.1 (hs.sound.value hconfig)).typed
  · obtain ⟨made, hmade⟩ :=
      Collection.exists_madeBy cls hmakes.options.plain u.nextIdentity xs
    refine ⟨made, hmakes.makes hs.sound hmade, ?_, fun t => hmade.eq_error, ?_⟩
    · rintro c rfl d hd
      rw [(hd.config_eq (hmade.proper hmakes.keyed)).2]
      exact hmade.elementType_eq
    · rintro t hfixed rfl rfl
      have hfree := Collection.madeBy_of_fixedType hfixed u.nextIdentity
      exact ⟨_, ((hmade.eq_iff hmakes.keyed hmakes.options).1 hfree).symm, rfl⟩

/-- A set of lists cannot be asked for, next to a set of texts whose type the class fixes. -/
theorem element_types_traced_of_list :
    let s := ({} : Session).after { step := .construct .string, target? := some "a" }
    let i : Instruction :=
      { step := .construct .inMemory, named := [("element_type", .type .list)] }
    s.IsReachable ∧ i.answer s = .error (.unhashableType .list) ∧
      (s.after i).collections = s.collections ∧
      ∀ c ∈ s.collections, c.config.HasHashableType ∨
        ∃ d ∈ s.collections, d.cls.fixedType? = c.config.elementType := by
  intro s i
  let named : List (String × Value) := [("element_type", .type .list)]
  have hs : s.IsReachable :=
    .step .refl (Instruction.isPlain_of_no_config (by decide) Collection.hasPlainConfig_nil)
  have hmakes : s.Constructs i .inMemory [] named (outcome i.arguments s.begun).2 := by
    refine ⟨.inl rfl, rfl, rfl, ⟨by decide, by decide, ?_⟩⟩
    intro v hv
    cases hv
  obtain ⟨hsets, -, hconstructs⟩ := hs.element_types_traced
  obtain ⟨made, hmade, -, hrefused, -⟩ := hconstructs _ _ _ _ _ hmakes
  rcases hrefused .list (.inl rfl) rfl rfl with rfl | ⟨faults, hfaults, -⟩
  · exact ⟨hs, hmade.1, hmade.2, hsets⟩
  · exact absurd hfaults (Settings.not_faulty_of_choices .type .bool)

/-- A set of the class that fixes lists is made nevertheless, and is configured for them. -/
theorem configured_for_lists :
    let i : Instruction := { step := .construct .list, target? := some "a" }
    i.IsPlain {} ∧ i.answer {} = .ok (.handle ⟨0, .list⟩) ∧
      ∃ c, (({} : Session).after i).collections = [c] ∧ c.cls.isKeyed = true ∧
        c.config.elementType = some .list ∧ ¬c.config.HasHashableType := by
  intro i
  refine ⟨Instruction.isPlain_of_no_config (by decide) Collection.hasPlainConfig_nil, rfl,
    _, rfl, rfl, rfl, fun h => ?_⟩
  have hhash : Ty.list.isHashable = true := h .list rfl
  cases hhash

end Session

end ValueSets
