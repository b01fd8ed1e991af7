import ValueSets.Proofs.Session.TwinSteps
import ValueSets.Session.Step

/-!
# Making sets in twin sessions

A keyed set without an element type is made together with a plain set that is given a configuration
of the same settings. The options of the keyed set may come to any configuration: one that is given,
one that is made of them, or the shared one.
-/

set_option autoImplicit false

namespace ValueSets

open Fallible Value

variable {known : List Config} {vars : List (String × Value)} {named : List (String × Value)}
  {args : List Value}

/-- Whether a keyed set without an element type can be made of evaluated arguments, with hashable
elements, and is listed as `config` says. -/
structure Session.MakesUntyped (s : Session) (config : Config) (args : List Value)
    (named : List (String × Value)) : Prop where
  hashable : ∀ v ∈ args, v.isHashable = true
  settled : config.IsSettled
  made : ∃ c,
    Collection.construct s.sameness s.standIn .inMemory args named s.nextIdentity = .ok c ∧
      c.standIn? = none ∧ c.config.elementType = none ∧ c.config.settings = config.settings

namespace Collection

variable {same : Sameness} {standIn : Value → StandIn} {identity : Nat}

/-- A class that fixes no element type takes a configuration as it is. -/
theorem configure_inMemory (c : Config) (identity : Nat) :
    SetClass.inMemory.configure c identity = .ok c := by
  refine SetClass.configure_of_fits identity fun t ht => ?_
  cases ht

/-- Options come to a configuration that has its identity, if nothing stands in for it. -/
theorem isSettled_of_configured {config : Config} (hidentity : identity ≠ 0)
    (hnamed : ∀ c, named.lookup "config" = some (.config c) → c.identity ≠ 0)
    (h : configured standIn .inMemory named identity = .ok (config, none)) : config.IsSettled := by
  have hadopted : ∀ i : StandIn, SetClass.inMemory.adopt i identity = .ok (config, none) →
      config.IsSettled := by
    intro i hi
    unfold SetClass.adopt at hi
    split at hi
    · obtain ⟨j, -, hi⟩ := bind_eq_ok.1 hi
      obtain ⟨settings, -, hi⟩ := bind_eq_ok.1 hi
      cases hi
    · cases hi
      exact .inr rfl
  have hmade : ∀ settings : Except Fault Settings, (do
      return (← SetClass.inMemory.configure { identity, settings := ← settings } identity, none) :
        Except Fault (Config × Option StandIn)) = .ok (config, none) → config.IsSettled := by
    intro settings hmade
    obtain ⟨read, -, hmade⟩ := bind_eq_ok.1 hmade
    rw [configure_inMemory] at hmade
    cases hmade
    exact .inl hidentity
  unfold configured at h
  split at h
  · rename_i c hc
    dsimp only at h
    split at h
    · exact hadopted _ h
    · rw [configure_inMemory] at h
      cases h
      exact .inl (hnamed _ hc)
  · exact hmade _ h
  · exact hmade _ h
  · exact hadopted _ h

/-- What is added to a set that keeps its members by key changes nothing but its members. -/
theorem eq_holding_of_inserted {c d : Collection} {xs : List Value}
    (hkeyed : c.cls.isKeyed = true) (h : c.inserted same xs = .ok d) :
    d = c.holding (Members.addAll c.members xs) := by
  unfold inserted insert at h
  rw [if_pos hkeyed] at h
  split at h
  · rename_i t heq
    split at heq
    · cases heq
    · rename_i hinserted
      cases heq
      cases h
      exact (Keyed.insert_eq_ok_iff.1 hinserted).2
    · cases heq
  · cases h

/-- A keyed set is made in three steps: its options are assigned, they come to a configuration, and
the elements are added. -/
theorem exists_of_construct {c : Collection}
    (h : construct same standIn .inMemory args named identity = .ok c) :
    ∃ bound, SetClass.inMemory.signature.bind (.null :: args) named = .ok bound ∧
      configured standIn .inMemory named identity = .ok (c.config, c.standIn?) := by
  unfold construct at h
  split at h
  · cases h
  · rename_i bound hbound
    obtain ⟨⟨config, i⟩, hconfigured, h⟩ := bind_eq_ok.1 h
    cases eq_holding_of_inserted rfl h
    exact ⟨bound, hbound, hconfigured⟩

/-- An empty set without an element type. -/
theorem untyped_empty {cls : SetClass} {config : Config} (hcls : cls = .inMemory ∨ cls = .plain)
    (huntyped : config.elementType = none) :
    Untyped (Simple known) { cls, config, members := [] } :=
  ⟨hcls, rfl, huntyped, List.Pairwise.nil, by simp⟩

variable {config : Config}

/-- How a set without an element type is made once its configuration is known. -/
theorem construct_eq {cls : SetClass} {bound : List (String × Value)}
    (hcls : cls = .inMemory ∨ cls = .plain) (huntyped : config.elementType = none)
    (hbound : cls.signature.bind (.null :: args) named = .ok bound)
    (hconfigured : configured standIn cls named identity = .ok (config, none))
    (hsame : same.IsByKey (Simple known)) (hargs : ∀ x ∈ args, x.Simple known) :
    construct same standIn cls args named identity =
      .ok { cls, config, members := Members.addAll [] args } := by
  have hempty : Untyped (Simple known) { cls, config, members := [] } :=
    untyped_empty hcls huntyped
  unfold construct
  rw [hbound, hconfigured]
  exact hempty.inserted_eq (fun v hv => hv.1) hsame hargs

end Collection

namespace Act

variable {s t : Session} {config : Config}

/-- Making a set of simple elements without an element type adds it. -/
theorem outcome_construct_simple (hs : s.Untouched) (hapart : Config.Apart known) {cls : SetClass}
    {bound : List (String × Value)} (hcls : cls = .inMemory ∨ cls = .plain)
    (huntyped : config.elementType = none)
    (hbound : cls.signature.bind (.null :: args) named = .ok bound)
    (hconfigured : Collection.configured s.standIn cls named s.nextIdentity = .ok (config, none))
    (hargs : ∀ x ∈ args, x.Simple known) :
    outcome (construct cls args named) s =
      outcome (answerSet (.ok { cls, config, members := Members.addAll [] args }))
        { s with nextIdentity := s.nextIdentity + 1 } := by
  let u : Session := { s with nextIdentity := s.nextIdentity + 1 }
  have hu : u.Untouched := ⟨hs.reached, hs.fields⟩
  have hmade : Collection.construct u.sameness u.standIn cls args named s.nextIdentity =
      .ok { cls, config, members := Members.addAll [] args } :=
    Collection.construct_eq hcls huntyped hbound hconfigured (hu.sameness_isByKey hapart) hargs
  rw [outcome_construct, hmade]

theorem alike_construct (hst : s.Twins known vars t) (hmakes : s.MakesUntyped config args named)
    (hargs : ∀ x ∈ args, x.Familiar known) (hnamed : ∀ b ∈ named, b.2.Familiar known) :
    Alike known vars (Value.Twins known) (outcome (construct .inMemory args named) s)
      (outcome (construct .plain args [("config", .config config)]) t) := by
  obtain ⟨c, hmade, hown, huntyped, hsettings⟩ := hmakes.made
  obtain ⟨bound, hbound, hconfigured⟩ := Collection.exists_of_construct hmade
  rw [hown] at hconfigured
  have hsimple : ∀ x ∈ args, x.Simple known := fun x hx => ⟨hmakes.hashable x hx, hargs x hx⟩
  have hsettled : c.config.IsSettled := by
    refine Collection.isSettled_of_configured (Nat.pos_iff_ne_zero.1 hst.positive) ?_ hconfigured
    intro d hd
    have hfamiliar : (Value.config d).Familiar known :=
      hnamed ("config", .config d) (mem_of_lookup hd)
    exact hst.apart.named d hfamiliar.config
  have hplain : config.elementType = none := by
    unfold Config.elementType at huntyped ⊢
    rw [← hsettings, huntyped]
  have hconfigured' : Collection.configured t.standIn .plain [("config", .config config)]
      t.nextIdentity = .ok (config, none) := by
    have hinside : (t.standIn (.config config)).inside? = none := hst.untouched'.inside?_eq config
    unfold Collection.configured
    simp only [List.lookup_cons, beq_self_eq_true, hinside]
    rfl
  have hbound' : ∃ bound, SetClass.plain.signature.bind (.null :: args)
      [("config", .config config)] = .ok bound := ⟨_, rfl⟩
  obtain ⟨bound', hbound'⟩ := hbound'
  rw [outcome_construct_simple hst.untouched hst.apart (.inl rfl) huntyped hbound hconfigured
      hsimple,
    outcome_construct_simple hst.untouched' hst.apart (.inr rfl) hplain hbound' hconfigured'
      hsimple]
  have hempty : Collection.Twins known { cls := .inMemory, config := c.config, members := [] }
      { cls := .plain, config, members := [] } :=
    ⟨rfl, rfl, Collection.untyped_empty (.inl rfl) huntyped,
      Collection.untyped_empty (.inr rfl) hplain, hsettings.symm, rfl, hsettled, hmakes.settled⟩
  have hmembers : ∀ m ∈ Members.addAll [] args, m.Simple known := by
    intro m hm
    rcases Members.mem_of_mem_addAll hm with hm | hm
    · cases hm
    · exact hsimple m hm
  have hdistinct : Members.Distinct (Members.addAll [] args) :=
    Members.Distinct.addAll List.Pairwise.nil args
  exact together_answerSet (.ok (hempty.holding hmembers hdistinct)) _ _
    (together_freshIdentity s t hst).1

/-! ## Configurations -/

theorem readNamed_listed (named : List (String × Value)) :
    Settings.readNamed (named.map (Prod.map id listed)) = Settings.readNamed named := by
  have helement : ∀ v : Value, Settings.readElementType v.listed = Settings.readElementType v := by
    intro v
    cases v with
    | tuple | list | table | set | frozenSet => simp [Settings.readElementType]
    | _ => rfl
  have hlisting : ∀ v : Value, Settings.readListing v.listed = Settings.readListing v := by
    intro v
    cases v with
    | tuple | list | table | set | frozenSet => simp [Settings.readListing]
    | _ => rfl
  have hgiven : ∀ (name : String) (usual : Value), usual.listed = usual →
      ((named.map (Prod.map id listed)).lookup name).getD usual =
        ((named.lookup name).getD usual).listed := by
    intro name usual husual
    rw [lookup_map]
    cases named.lookup name with
    | none => exact husual.symm
    | some v => rfl
  unfold Settings.readNamed Settings.read
  rw [hgiven _ _ rfl, hgiven _ _ rfl, helement, hlisting]

theorem isFixed_of_readNamed {fault : Fault} (h : Settings.readNamed named = .error fault) :
    fault.IsFixed := by
  unfold Settings.readNamed Settings.read at h
  split at h
  · split at h
    · split at h
      · cases h
      · cases h
        rfl
    · cases h
  · cases h
    rfl

/-- A configuration that is made becomes one of the known ones. -/
theorem alike_configure (hst : s.Twins known vars t) (args args' : List Value) :
    ∃ more, Alike more vars (Value.Twins more) (outcome (Step.configure.run args named) s)
      (outcome (Step.configure.run args' (named.map (Prod.map id listed))) t) := by
  have hstep : ∀ (args : List Value) (named : List (String × Value)) (u : Session),
      outcome (Step.configure.run args named) u =
        ((Settings.readNamed named).map fun settings =>
          Value.config { identity := u.nextIdentity, settings },
          { u with nextIdentity := u.nextIdentity + 1 }) := by
    intro args named u
    unfold Step.run
    dsimp only
    generalize Settings.readNamed named = settings
    cases settings <;> rfl
  rw [hstep, hstep, readNamed_listed]
  have hnext := (together_freshIdentity s t hst).1
  cases hread : Settings.readNamed named with
  | error fault => exact ⟨known, hnext, .error (isFixed_of_readNamed hread).alike⟩
  | ok settings =>
    let made : Config := { identity := s.nextIdentity, settings }
    have hsub : known ⊆ known ++ [made] := List.subset_append_left known [made]
    refine ⟨known ++ [made], hnext.mono hsub (hst.apart_append rfl rfl) ?_, .ok ?_⟩
    · intro c hc
      rcases List.mem_append.1 hc with hc | hc
      · exact hnext.fresh c hc
      · rw [List.mem_singleton.1 hc]
        exact Nat.lt_succ_self s.nextIdentity
    · rw [hst.nextIdentity]
      refine ⟨rfl, .flat rfl (by simp) fun c hc => ?_⟩
      cases hc
      exact List.mem_append_right known (List.mem_singleton.2 rfl)

end Act

end ValueSets
