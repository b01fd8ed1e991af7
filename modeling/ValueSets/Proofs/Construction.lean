import ValueSets.Proofs.Fields
import ValueSets.Proofs.Members.Newcomers
import ValueSets.Proofs.Requests

/-!
# How sets come to be

Making a set goes in three stages. The options come to a configuration (`Config.ChosenBy`): one that
is given decides alone, and otherwise the fields decide, each by what its value stands for
(`Settings.ElementChoice`, `Settings.ListingChoice`), and all of them before the element type has to
be hashable. The class then takes that configuration or refuses it, or puts the type that it
fixes into a copy (`SetClass.Binds`). The elements come last (`Collection.FilledWith`), as if they
were added to an empty set. Each stage has exactly one outcome, and only the first fault counts, so
`Collection.MadeBy` is a relation that has exactly one result for every class, options and elements:
`Collection.madeBy_iff` says that it is what making a set answers.

`Session.IsReachable.construction_decided` carries this over to instructions that make a set, and
says of a set of the keys of a table that it has them all.
-/

set_option autoImplicit false

namespace ValueSets

open Session Value Act

/-! ## The stages -/

namespace Settings

/-- The element type among named options. -/
def elementIn (named : List (String × Value)) : Value :=
  (named.lookup "element_type").getD .null

/-- The listing choice among named options. -/
def listingIn (named : List (String × Value)) : Value :=
  (named.lookup "sorted_listing").getD (.bool true)

/-- Whether named options give no configuration, so that one is made of the settings. -/
def AreAlone (named : List (String × Value)) : Prop :=
  named.lookup "config" = none ∨ named.lookup "config" = some .null

end Settings

/-- What named options come to: the configuration that is given, whatever else is named, or one that
is made of the settings and named `identity`. Fields that stand for nothing are reported before an
element type whose values cannot be hashed. -/
inductive Config.ChosenBy (named : List (String × Value)) (identity : Nat) :
    Except Fault Config → Prop
  | given {c : Config} : named.lookup "config" = some (.config c) → ChosenBy named identity (.ok c)
  | invalid {faults : List FieldFault} : Settings.AreAlone named →
    Settings.Faulty (Settings.elementIn named) (Settings.listingIn named) faults →
    ChosenBy named identity (.error (.invalidFields faults))
  | unhashable {t : Ty} {sorted : Bool} : Settings.AreAlone named →
    Settings.ElementChoice (Settings.elementIn named) (.ok (some t)) → t.isHashable = false →
    Settings.ListingChoice (Settings.listingIn named) (.ok sorted) →
    ChosenBy named identity (.error (.unhashableType t))
  | made {element? : Option Ty} {sorted : Bool} : Settings.AreAlone named →
    Settings.ElementChoice (Settings.elementIn named) (.ok element?) →
    (∀ t, element? = some t → t.isHashable = true) →
    Settings.ListingChoice (Settings.listingIn named) (.ok sorted) →
    ChosenBy named identity (.ok { identity, settings := ⟨element?, sorted⟩ })

/-- What a class makes of a configuration: it takes one that fits as it is, refuses one with a type
that is not below its own, and puts its own type into a copy of one without a type. -/
inductive SetClass.Binds (cls : SetClass) (identity : Nat) (base : Config) :
    Except Fault Config → Prop
  | free : cls.fixedType? = none → Binds cls identity base (.ok base)
  | below {t e : Ty} : cls.fixedType? = some t → base.elementType = some e →
    e.isSubtypeOf t = true → Binds cls identity base (.ok base)
  | conflict {t e : Ty} : cls.fixedType? = some t → base.elementType = some e →
    e.isSubtypeOf t = false → Binds cls identity base (.error (.classConflict cls t e))
  | copied {t : Ty} : cls.fixedType? = some t → base.elementType = none →
    Binds cls identity base (.ok { identity, settings := ⟨some t, base.sortedListing⟩ })

/-- What elements make of an empty set: the first that is not taken is rejected, if there is one,
and otherwise the first that cannot be hashed is refused. If all are admitted, the set has the first
of those of each key in their order. -/
inductive Collection.FilledWith (cls : SetClass) (config : Config) (xs : List Value) :
    Except Fault Collection → Prop
  | rejected {t : Ty} {x : Value} : config.elementType = some t →
    (xs.find? fun y => !t.takes y) = some x →
    FilledWith cls config xs (.error (.rejected cls x t))
  | unhashable {x : Value} : (∀ t, config.elementType = some t → ∀ y ∈ xs, t.takes y = true) →
    (xs.find? fun y => !y.isHashable) = some x → FilledWith cls config xs (.error (.unhashable x))
  | filled : (∀ t, config.elementType = some t → ∀ y ∈ xs, t.takes y = true) →
    (∀ y ∈ xs, y.isHashable = true) →
    FilledWith cls config xs (.ok { cls, config, members := Members.newcomers [] xs })

/-- What a class, named options and elements come to: the fault of the first stage that fails, or
the set. -/
inductive Collection.MadeBy (cls : SetClass) (named : List (String × Value)) (identity : Nat)
    (xs : List Value) : Except Fault Collection → Prop
  | unchosen {fault : Fault} : Config.ChosenBy named identity (.error fault) →
    MadeBy cls named identity xs (.error fault)
  | unbound {base : Config} {fault : Fault} : Config.ChosenBy named identity (.ok base) →
    cls.Binds identity base (.error fault) → MadeBy cls named identity xs (.error fault)
  | filled {base config : Config} {r : Except Fault Collection} :
    Config.ChosenBy named identity (.ok base) → cls.Binds identity base (.ok config) →
    FilledWith cls config xs r → MadeBy cls named identity xs r

/-! ## Each stage has an outcome -/

section

variable {cls : SetClass} {named : List (String × Value)} {identity : Nat} {base config : Config}
  {xs : List Value} {made : Except Fault Collection} {same : Sameness} {standIn : Value → StandIn}

theorem Config.exists_chosenBy (hnamed : Collection.HasPlainConfig named) (identity : Nat) :
    ∃ r, Config.ChosenBy named identity r := by
  have hfields : Settings.AreAlone named → ∃ r, Config.ChosenBy named identity r := by
    intro halone
    have helement := Settings.elementChoice_readElementType (Settings.elementIn named)
    obtain ⟨listing, hlisting⟩ := Settings.exists_listingChoice (Settings.listingIn named)
    generalize Settings.readElementType (Settings.elementIn named) = element at helement
    cases element with
    | error fault =>
      cases listing with
      | error other => exact ⟨_, .invalid halone (.both helement hlisting)⟩
      | ok sorted => exact ⟨_, .invalid halone (.element helement hlisting)⟩
    | ok element? =>
      cases listing with
      | error fault => exact ⟨_, .invalid halone (.listing helement hlisting)⟩
      | ok sorted =>
        cases element? with
        | none => exact ⟨_, .made halone helement (by simp) hlisting⟩
        | some t =>
          cases hhash : t.isHashable with
          | true => exact ⟨_, .made halone helement (by simpa using hhash) hlisting⟩
          | false => exact ⟨_, .unhashable halone helement hhash hlisting⟩
  cases hconfig : named.lookup "config" with
  | none => exact hfields (.inl hconfig)
  | some v =>
    rcases hnamed v hconfig with rfl | ⟨c, rfl⟩
    · exact hfields (.inr hconfig)
    · exact ⟨_, .given hconfig⟩

theorem SetClass.exists_binds (cls : SetClass) (identity : Nat) (base : Config) :
    ∃ r, cls.Binds identity base r := by
  cases hfixed : cls.fixedType? with
  | none => exact ⟨_, .free hfixed⟩
  | some t =>
    cases helement : base.elementType with
    | none => exact ⟨_, .copied hfixed helement⟩
    | some e =>
      cases hsub : e.isSubtypeOf t with
      | true => exact ⟨_, .below hfixed helement hsub⟩
      | false => exact ⟨_, .conflict hfixed helement hsub⟩

theorem Collection.exists_filledWith (cls : SetClass) (config : Config) (xs : List Value) :
    ∃ r, FilledWith cls config xs r := by
  have htaken : (∀ t, config.elementType = some t → ∀ y ∈ xs, t.takes y = true) →
      ∃ r, FilledWith cls config xs r := by
    intro htaken
    cases hfind : xs.find? fun y => !y.isHashable with
    | some x => exact ⟨_, .unhashable htaken hfind⟩
    | none => exact ⟨_, .filled htaken (by simpa using hfind)⟩
  cases helement : config.elementType with
  | none => exact htaken (by simp [helement])
  | some t =>
    cases hfind : xs.find? fun y => !t.takes y with
    | some x => exact ⟨_, .rejected helement hfind⟩
    | none =>
      apply htaken
      intro e he
      rw [helement, Option.some.injEq] at he
      subst he
      simpa using hfind

theorem Collection.exists_madeBy (cls : SetClass) (hnamed : HasPlainConfig named)
    (identity : Nat) (xs : List Value) : ∃ made, MadeBy cls named identity xs made := by
  obtain ⟨r, hchosen⟩ := Config.exists_chosenBy hnamed identity
  cases r with
  | error fault => exact ⟨_, .unchosen hchosen⟩
  | ok base =>
    obtain ⟨r, hbinds⟩ := cls.exists_binds identity base
    cases r with
    | error fault => exact ⟨_, .unbound hchosen hbinds⟩
    | ok config =>
      obtain ⟨made, hfilled⟩ := exists_filledWith cls config xs
      exact ⟨made, .filled hchosen hbinds hfilled⟩

/-! ## And only one -/

/-- Options come to what a class is to take. -/
theorem Collection.configured_of_chosenBy {r : Except Fault Config} (hkeyed : cls.isKeyed = true)
    (hinside : ∀ c, (standIn (.config c)).inside? = none)
    (h : Config.ChosenBy named identity r) :
    configured standIn cls named identity = (do
      let base ← r
      return (← cls.configure base identity, none)) := by
  have halone : Settings.AreAlone named → configured standIn cls named identity = (do
      let settings ← Settings.read (Settings.elementIn named) (Settings.listingIn named)
      return (← cls.configure { identity, settings } identity, none)) := by
    rintro (hconfig | hconfig)
    all_goals
      unfold configured
      rw [hconfig]
      simp only [hkeyed, if_true]
      rfl
  cases h with
  | given hconfig =>
    unfold configured
    rw [hconfig]
    simp only [hinside, Option.isSome_none, Bool.false_eq_true, if_false]
    rfl
  | invalid hnone hfaults =>
    rw [halone hnone, Settings.read_of_faulty hfaults]
    rfl
  | unhashable hnone helement hhash hlisting =>
    rw [halone hnone, Settings.read_of_unhashable helement hhash hlisting]
    rfl
  | made hnone helement hhash hlisting =>
    rw [halone hnone, Settings.read_of_choices helement hhash hlisting]
    rfl

theorem SetClass.configure_of_binds {r : Except Fault Config} (hkeyed : cls.isKeyed = true)
    (h : cls.Binds identity base r) : cls.configure base identity = r := by
  cases h with
  | free hfixed => exact configure_of_fits identity (by simp [hfixed])
  | below hfixed helement hsub =>
    refine configure_of_fits identity fun t ht => ⟨_, helement, ?_⟩
    rw [hfixed, Option.some.injEq] at ht
    exact ht ▸ hsub
  | @conflict t e hfixed helement hsub =>
    have hsettings : base.settings.elementType = some e := helement
    have hbind : cls.bind base.settings = .error (.classConflict cls t e) := by
      unfold bind
      simp only [hfixed, hsettings, hsub, Bool.false_eq_true, if_false]
    unfold configure
    rw [hkeyed, hbind]
    rfl
  | @copied t hfixed helement =>
    have hsettings : base.settings.elementType = none := helement
    have hbind : cls.bind base.settings = .ok ⟨some t, base.sortedListing⟩ := by
      unfold bind
      simp only [hfixed, hsettings]
      rfl
    have hchanged : ⟨some t, base.sortedListing⟩ ≠ base.settings := by
      intro heq
      rw [← heq] at hsettings
      cases hsettings
    unfold configure
    rw [hkeyed, hbind]
    show Except.ok (if ⟨some t, base.sortedListing⟩ = base.settings then base
      else { identity, settings := ⟨some t, base.sortedListing⟩ }) = _
    rw [if_neg hchanged]

/-- A set of a class that took its configuration is lawful while it is empty. -/
theorem Collection.lawful_of_binds (hkeyed : cls.isKeyed = true)
    (h : cls.Binds identity base (.ok config)) :
    Collection.Lawful { cls, config, members := [] } :=
  lawful_of_configure hkeyed (SetClass.configure_of_binds hkeyed h)

/-- Elements are added to an empty set as they fill it. -/
theorem Keyed.insert_of_filledWith (h : Collection.FilledWith cls config xs made) :
    insert { cls, config, members := [] } xs = made := by
  have htakes : (∀ t, config.elementType = some t → ∀ y ∈ xs, t.takes y = true) →
      ∀ y ∈ xs, Collection.takes { cls, config, members := [] } y = true := by
    intro htaken y hy
    unfold Collection.takes
    dsimp only
    split
    · rfl
    · rename_i t ht
      exact htaken t ht y hy
  cases h with
  | @rejected t x helement hfind =>
    have hrefused : (xs.find? fun y =>
        !Collection.takes { cls, config, members := [] } y) = some x := by
      unfold Collection.takes
      simpa only [helement] using hfind
    obtain ⟨e, he, hinsert⟩ := insert_of_find?_takes hrefused
    rw [hinsert]
    dsimp only at he
    rw [helement, Option.some.injEq] at he
    rw [he]
  | unhashable htaken hfind => exact insert_of_find?_isHashable (htakes htaken) hfind
  | filled htaken hhash =>
    refine insert_eq_ok_iff.2 ⟨fun y hy => ⟨htakes htaken y hy, hhash y hy⟩, ?_⟩
    dsimp only
    rw [Members.addAll_eq_append_newcomers]
    rfl

theorem Collection.construct_of_madeBy {bound : List (String × Value)} (hkeyed : cls.isKeyed = true)
    (hinside : ∀ c, (standIn (.config c)).inside? = none)
    (hbound : cls.signature.bind (.null :: xs) named = .ok bound)
    (h : MadeBy cls named identity xs made) :
    construct same standIn cls xs named identity = made := by
  unfold construct
  rw [hbound]
  dsimp only
  cases h with
  | unchosen hchosen =>
    rw [configured_of_chosenBy hkeyed hinside hchosen]
    rfl
  | unbound hchosen hbinds =>
    rw [configured_of_chosenBy hkeyed hinside hchosen]
    dsimp only [Bind.bind, Except.bind]
    rw [SetClass.configure_of_binds hkeyed hbinds]
  | filled hchosen hbinds hfilled =>
    rw [configured_of_chosenBy hkeyed hinside hchosen]
    dsimp only [Bind.bind, Except.bind]
    rw [SetClass.configure_of_binds hkeyed hbinds]
    exact ((lawful_of_binds hkeyed hbinds).inserted_eq same xs).trans
      (Keyed.insert_of_filledWith hfilled)

/-- A class, plain options and elements come to exactly one thing, which making a set answers. -/
theorem Collection.madeBy_iff {bound : List (String × Value)} (hkeyed : cls.isKeyed = true)
    (hinside : ∀ c, (standIn (.config c)).inside? = none) (hnamed : HasPlainConfig named)
    (hbound : cls.signature.bind (.null :: xs) named = .ok bound) :
    MadeBy cls named identity xs made ↔ construct same standIn cls xs named identity = made := by
  constructor
  · exact construct_of_madeBy hkeyed hinside hbound
  · rintro rfl
    obtain ⟨made, hmade⟩ := exists_madeBy cls hnamed identity xs
    rw [construct_of_madeBy hkeyed hinside hbound hmade]
    exact hmade

/-- Adding elements to an empty set comes to what they fill it with. -/
theorem Collection.filledWith_iff :
    FilledWith cls config xs made ↔ Keyed.insert { cls, config, members := [] } xs = made := by
  constructor
  · exact Keyed.insert_of_filledWith
  · rintro rfl
    obtain ⟨made, hmade⟩ := exists_filledWith cls config xs
    rw [Keyed.insert_of_filledWith hmade]
    exact hmade

/-- A set that was made has the first of each key of the elements. -/
theorem Collection.MadeBy.members_eq {c : Collection} (h : MadeBy cls named identity xs (.ok c)) :
    c.members = Members.addAll [] xs := by
  cases h with
  | filled _ _ hfilled =>
    cases hfilled with
    | filled =>
      rw [Members.addAll_eq_append_newcomers]
      rfl

/-- A set that was made has a configuration of its own with its identity. -/
theorem Collection.MadeBy.settled {c : Collection} (h : MadeBy cls named identity xs (.ok c))
    (hidentity : identity ≠ 0)
    (hgiven : ∀ config, named.lookup "config" = some (.config config) → config.IsSettled) :
    c.standIn? = none ∧ c.config.IsSettled := by
  cases h with
  | filled hchosen hbinds hfilled =>
    cases hfilled with
    | filled =>
      refine ⟨rfl, ?_⟩
      cases hbinds with
      | copied => exact .inl hidentity
      | free | below =>
        cases hchosen with
        | given hconfig => exact hgiven _ hconfig
        | made => exact .inl hidentity

end

/-! ## Options -/

/-- Whether named values are options of a set by key: each is given once, and what is given for the
configuration is one or nothing. -/
structure Collection.AreOptions (named : List (String × Value)) : Prop where
  names : ∀ name ∈ named.map (·.1), name ∈ ["element_type", "sorted_listing", "config"]
  once : (named.map (·.1)).Nodup
  plain : HasPlainConfig named

namespace Signature

variable {α : Type} {sig : Signature} {v : α} {xs : List α} {bound named : List (String × α)}

/-- Names that have parameters, each given once, are bound as they are given. -/
theorem bindNamed_eq_append (hnames : ∀ name ∈ named.map (·.1), sig.hasParameter name = true)
    (honce : ((bound ++ named).map (·.1)).Nodup) :
    sig.bindNamed bound named = .ok (bound ++ named) := by
  induction named generalizing bound with
  | nil =>
    rw [List.append_nil]
    rfl
  | cons entry named ih =>
    obtain ⟨name, w⟩ := entry
    have hnew : (bound.any fun b => b.1 == name) = false := by
      rw [List.map_append, List.map_cons, List.nodup_append] at honce
      rw [List.any_eq_false]
      intro b hb heq
      exact honce.2.2 b.1 (List.mem_map_of_mem hb) name (by simp) (eq_of_beq heq)
    have hrest : sig.bindNamed (bound ++ [(name, w)]) named = .ok (bound ++ [(name, w)] ++ named) :=
      ih (fun n hn => hnames n (by simp [hn])) (by simpa using honce)
    unfold bindNamed
    rw [hnames name (by simp), hnew, hrest]
    simp

/-- An operation whose only parameter with a position is the receiver can be called with named
arguments, each given once. -/
theorem bind_eq_cons (hparameters : sig.parameters = [sig.receiver])
    (hmore : sig.takesMore = true ∨ xs = [])
    (hnames : ∀ name ∈ named.map (·.1), name ∈ sig.byName)
    (honce : (sig.receiver :: named.map (·.1)).Nodup) :
    sig.bind (v :: xs) named = .ok ((sig.receiver, v) :: named) := by
  have hzip : sig.parameters.zip (v :: xs) = [(sig.receiver, v)] := by
    rw [hparameters]
    rfl
  have hbound : sig.bindNamed [(sig.receiver, v)] named = .ok ((sig.receiver, v) :: named) := by
    refine bindNamed_eq_append (fun name hname => ?_) honce
    unfold hasParameter
    rw [Bool.or_eq_true]
    exact .inr (List.contains_iff_mem.2 (hnames name hname))
  have hfew : (!sig.takesMore && decide (sig.parameters.length < (v :: xs).length)) = false := by
    rcases hmore with hmore | rfl
    · rw [hmore]
      rfl
    · rw [hparameters]
      simp
  have hneeded : ∀ name ∈ sig.needed, name = sig.receiver := by
    intro name hname
    have hparameter : name ∈ sig.parameters := List.mem_append_left _ hname
    rwa [hparameters, List.mem_singleton] at hparameter
  have hmissing : (sig.needed.filter fun name =>
      !((sig.receiver, v) :: named).any fun b => b.1 == name) = [] := by
    rw [List.filter_eq_nil_iff]
    intro name hname
    rw [hneeded name hname]
    simp
  unfold bind
  rw [hzip, hbound]
  show (if _ then _ else _) = _
  rw [hfew, hmissing]
  rfl

end Signature

namespace Collection.AreOptions

variable {named : List (String × Value)}

theorem nodup_cons (h : AreOptions named) {receiver : String}
    (hreceiver : receiver ∉ ["element_type", "sorted_listing", "config"]) :
    (receiver :: named.map (·.1)).Nodup :=
  List.nodup_cons.2 ⟨fun hmem => hreceiver (h.names receiver hmem), h.once⟩

/-- A class by key can be made with options. -/
theorem bind_signature (h : AreOptions named) {cls : SetClass} (hkeyed : cls.isKeyed = true)
    (xs : List Value) :
    cls.signature.bind (.null :: xs) named = .ok (("self", .null) :: named) := by
  have hbyName : cls.signature.byName = ["element_type", "sorted_listing", "config"] := by
    unfold SetClass.signature
    simp only [hkeyed, if_true]
  have honce : ("self" :: named.map (·.1)).Nodup := h.nodup_cons (by decide)
  refine Signature.bind_eq_cons rfl (.inl rfl) (fun name hname => ?_) honce
  rw [hbyName]
  exact h.names name hname

end Collection.AreOptions

/-- A class, options and elements come to one thing only. -/
theorem Collection.MadeBy.eq_iff {cls : SetClass} {named : List (String × Value)} {identity : Nat}
    {xs : List Value} {made r : Except Fault Collection} (hmade : MadeBy cls named identity xs made)
    (hkeyed : cls.isKeyed = true) (hnamed : AreOptions named) :
    MadeBy cls named identity xs r ↔ r = made := by
  -- any account of what the values are to a session will do
  have hiff (r : Except Fault Collection) : MadeBy cls named identity xs r ↔
      construct (fun _ _ => .ok true) (fun value => { value }) cls xs named identity = r :=
    madeBy_iff hkeyed (fun _ => rfl) hnamed.plain (hnamed.bind_signature hkeyed xs)
  rw [hiff, (hiff made).1 hmade]
  exact eq_comm

/-! ## Making sets in a session -/

/-- Whether an instruction makes a set of a class by key of elements and options, which its
arguments are evaluated to in passing to the session `u`. Sets of the usual class are also made by
the function for new sets. -/
structure Session.Constructs (s : Session) (i : Instruction) (cls : SetClass) (xs : List Value)
    (named : List (String × Value)) (u : Session) : Prop where
  step : i.step = .construct cls ∨ i.step = .new ∧ cls = .inMemory
  keyed : cls.isKeyed = true
  arguments : outcome i.arguments s.begun = (.ok (xs, named), u)
  options : Collection.AreOptions named

/-- Whether an instruction makes a set of the keys of a table, whose entries and the options are
evaluated in passing to the session `u`. -/
structure Session.ConstructsKeys (s : Session) (i : Instruction) (es : List (Value × Value))
    (named : List (String × Value)) (u : Session) : Prop where
  evaluated : ∃ entries xs t, i.step = .keySet entries ∧
    outcome i.arguments s.begun = (.ok (xs, named), t) ∧
    outcome (Term.evalEntries entries) t = (.ok es, u)
  options : Collection.AreOptions named

/-- Whether an instruction puts what elements made of a set in its place, or fails as they are
refused and leaves the sets alone. -/
def Instruction.Fills (s : Session) (i : Instruction) (h : Handle)
    (made : Except Fault Collection) : Prop :=
  match made with
  | .ok c => i.answer s = .ok .null ∧ (s.after i).collections = s.collections.set h.index c
  | .error fault => i.answer s = .error fault ∧ (s.after i).collections = s.collections

namespace Session

variable {s t u : Session} {i : Instruction} {cls : SetClass} {xs : List Value}
  {named : List (String × Value)} {made : Except Fault Collection} {es : List (Value × Value)}

/-- Making a set with options of the session adds what they come to, or fails as they do. -/
theorem Sound.makes_of_construct (hs : s.Sound) (hi : i.IsPlain s) (ht : s.Like t)
    (hkeyed : cls.isKeyed = true) (hoptions : Collection.AreOptions named)
    (hgrounded : Term.NamedGrounded s.classes named)
    (hattempt : outcome i.attempt s.begun = outcome (construct cls xs named) t)
    (hmade : Collection.MadeBy cls named t.nextIdentity xs made) : i.Makes s made := by
  let u : Session := { t with nextIdentity := t.nextIdentity + 1 }
  have hu : s.Like u := ht.withIdentity (Nat.succ_pos _)
  have hgiven : ∀ c, named.lookup "config" = some (.config c) → c.IsSettled := by
    intro c hc
    exact (grounded_config.1 (hgrounded.lookup hc)).settled
  rw [outcome_construct, Collection.construct_of_madeBy hkeyed hu.sound.inside?_standIn
    (hoptions.bind_signature hkeyed xs) hmade] at hattempt
  refine hs.makes_of_attempt hi hu (fun c hc => ?_) hattempt
  rw [hc] at hmade
  exact hmade.settled (Nat.ne_of_gt ht.sound.positive) hgiven

namespace Constructs

theorem isPlain (hmakes : s.Constructs i cls xs named u) : i.IsPlain s := by
  intro args given t hargs
  rw [hmakes.arguments] at hargs
  cases hargs
  rcases hmakes.step with hstep | ⟨hstep, -⟩
  · rw [hstep]
    exact hmakes.options.plain
  · rw [hstep]
    exact hmakes.options.plain

theorem makes (hs : s.Sound) (hmakes : s.Constructs i cls xs named u)
    (hmade : Collection.MadeBy cls named u.nextIdentity xs made) : i.Makes s made := by
  obtain ⟨hu, hgood⟩ := quiet_arguments i _ hs.like_begun
  rw [hmakes.arguments] at hu hgood
  refine hs.makes_of_construct hmakes.isPlain hu hmakes.keyed hmakes.options (hgood _ rfl).2 ?_
    hmade
  rw [Instruction.outcome_attempt, hmakes.arguments]
  rcases hmakes.step with hstep | ⟨hstep, rfl⟩
  · rw [hstep]
    rfl
  · rw [hstep]
    rfl

end Constructs

namespace ConstructsKeys

theorem isPlain (hmakes : s.ConstructsKeys i es named u) : i.IsPlain s := by
  obtain ⟨entries, xs, t, hstep, harguments, -⟩ := hmakes.evaluated
  intro args given w hargs
  rw [harguments] at hargs
  cases hargs
  rw [hstep]
  exact hmakes.options.plain

theorem makes (hs : s.Sound) (hmakes : s.ConstructsKeys i es named u)
    (hmade : Collection.MadeBy .inMemory named u.nextIdentity
      ((Members.mergeEntries es).map (·.1)) made) : i.Makes s made := by
  obtain ⟨entries, xs, t, hstep, harguments, hentries⟩ := hmakes.evaluated
  obtain ⟨ht, hgood⟩ := quiet_arguments i _ hs.like_begun
  rw [harguments] at ht hgood
  have hu := (Term.quiet_evalEntries entries t ht).1
  rw [hentries] at hu
  refine hs.makes_of_construct hmakes.isPlain hu rfl hmakes.options (hgood _ rfl).2 ?_ hmade
  rw [Instruction.outcome_attempt, harguments, hstep]
  show outcome (keySet entries named) t = _
  unfold keySet
  let sig : Signature :=
    { operation := "key_set", receiver := "mapping", byName := named.map (·.1) }
  have hbound : outcome (bindCall sig [.null] named) u =
      (.ok (("mapping", .null) :: named), u) := by
    unfold bindCall
    have honce : ("mapping" :: named.map (·.1)).Nodup := hmakes.options.nodup_cons (by decide)
    rw [Signature.bind_eq_cons rfl (.inr rfl) (fun _ hname => hname) honce]
    rfl
  rw [outcome_bind_of_ok hentries, outcome_bind_of_ok hbound]

end ConstructsKeys

/-- A set of the keys of a table has them all. -/
theorem members_eq_keys {c : Collection} (hmade : Collection.MadeBy .inMemory named u.nextIdentity
    ((Members.mergeEntries es).map (·.1)) (.ok c)) :
    c.members = (Members.mergeEntries es).map (·.1) ∧
      c.size = (Members.mergeEntries es).length := by
  have hmembers := hmade.members_eq
  rw [Members.addAll_keys] at hmembers
  refine ⟨hmembers, ?_⟩
  unfold Collection.size
  rw [hmembers, List.length_map]

/-- Adding elements to an empty set puts what they fill it with in its place, or fails as they do.
-/
theorem Calls.fills {h : Handle} (hs : s.Sound) (hcall : s.Calls i .insert h xs u)
    (hempty : (s.collection h).members = [])
    (hfilled : Collection.FilledWith (s.collection h).cls (s.collection h).config xs made) :
    i.Fills s h made := by
  have hcollection : s.collection h =
      { cls := (s.collection h).cls, config := (s.collection h).config, members := [] } := by
    have hown := hs.ownConfig h
    cases hc : s.collection h
    rw [hc] at hempty hown
    dsimp only at hempty hown
    rw [hempty, hown]
  have hattempt := hcall.outcome_insert hs
  rw [hcollection, Collection.filledWith_iff.1 hfilled] at hattempt
  unfold Instruction.Fills
  cases made with
  | ok c =>
    obtain ⟨hanswer, hafter⟩ := hs.answer_eq hcall.isPlain hattempt
    exact ⟨hanswer, hafter.trans (hcall.collections_store hs c)⟩
  | error fault =>
    obtain ⟨hanswer, hafter⟩ := hs.answer_eq hcall.isPlain hattempt
    exact ⟨hanswer, hafter.trans (hcall.like hs).collections⟩

/-- Making a set of a class by key, also by the function for new sets, comes to exactly one of the
things that the class, the options and the elements can come to: the set is added, with the
configuration that was given itself unless the class put its type into a copy, or the fault of the
first stage that fails is reported. Neither changes what the other variables hold, so a given
configuration stays as it was. Elements come to the same where they are added to an empty set of
that class and configuration. A set that is made of the keys of a table comes about likewise, and
has all of them in their order. -/
theorem IsReachable.construction_decided (hs : s.IsReachable) :
    (∀ i cls xs named u, s.Constructs i cls xs named u → ∃ made,
      (∀ r, Collection.MadeBy cls named u.nextIdentity xs r ↔ r = made) ∧ i.Makes s made ∧
      ∀ name, i.target? ≠ some name → (s.after i).value? name = s.value? name) ∧
    (∀ i h xs u, s.Calls i .insert h xs u → (s.collection h).members = [] → ∃ made,
      (∀ r, Collection.FilledWith (s.collection h).cls (s.collection h).config xs r ↔ r = made) ∧
      i.Fills s h made) ∧
    ∀ i es named u, s.ConstructsKeys i es named u → ∃ made,
      (∀ r, Collection.MadeBy .inMemory named u.nextIdentity
        ((Members.mergeEntries es).map (·.1)) r ↔ r = made) ∧ i.Makes s made ∧
      ∀ c, made = .ok c → c.members = (Members.mergeEntries es).map (·.1) ∧
        c.size = (Members.mergeEntries es).length := by
  refine ⟨fun i cls xs named u hmakes => ?_, fun i h xs u hcall hempty => ?_,
    fun i es named u hmakes => ?_⟩
  · obtain ⟨made, hmade⟩ :=
      Collection.exists_madeBy cls hmakes.options.plain u.nextIdentity xs
    exact ⟨made, fun r => hmade.eq_iff hmakes.keyed hmakes.options, hmakes.makes hs.sound hmade,
      fun name hname => hs.sound.value?_after hmakes.isPlain hname⟩
  · obtain ⟨made, hfilled⟩ :=
      Collection.exists_filledWith (s.collection h).cls (s.collection h).config xs
    refine ⟨made, fun r => ?_, hcall.fills hs.sound hempty hfilled⟩
    rw [Collection.filledWith_iff, Collection.filledWith_iff.1 hfilled]
    exact eq_comm
  · obtain ⟨made, hmade⟩ := Collection.exists_madeBy .inMemory hmakes.options.plain u.nextIdentity
      ((Members.mergeEntries es).map (·.1))
    refine ⟨made, fun r => hmade.eq_iff rfl hmakes.options, hmakes.makes hs.sound hmade, ?_⟩
    rintro c rfl
    exact members_eq_keys hmade

/-- A set of whole numbers is made with a configuration and an element type that is none. Nobody
looks at the latter, and the set gets a copy of the configuration, which is listed unsorted as well
and stays without an element type itself. -/
theorem construction_decided_of_given :
    let c : Config := { identity := 1, settings := { sortedListing := false } }
    let s := ({} : Session).after
      { step := .configure, named := [("sorted_listing", .bool false)], target? := some "c" }
    let i : Instruction :=
      { step := .construct .int, args := [.level .mid, .level .low, .level .mid],
        named := [("element_type", .text "x"), ("config", .named "c")], target? := some "a" }
    s.IsReachable ∧ s.value? "c" = some (.config c) ∧ (s.after i).value? "c" = some (.config c) ∧
      i.Makes s (.ok
        { cls := .int, config := { identity := 2, settings := ⟨some .int, false⟩ },
          members := [.level .mid, .level .low] }) := by
  intro c s i
  let named : List (String × Value) := [("element_type", .text "x"), ("config", .config c)]
  let xs : List Value := [.level .mid, .level .low, .level .mid]
  have hs : s.IsReachable :=
    .step .refl (Instruction.isPlain_of_no_config (by decide) trivial)
  have hc : s.value? "c" = some (.config c) := rfl
  have hmakes : s.Constructs i .int xs named (outcome i.arguments s.begun).2 := by
    refine ⟨.inl rfl, rfl, rfl, ⟨by decide, by decide, ?_⟩⟩
    intro v hv
    exact .inr ⟨c, (Option.some.inj hv).symm⟩
  obtain ⟨made, hunique, hmade, hvariables⟩ := hs.construction_decided.1 _ _ _ _ _ hmakes
  have hcopied : SetClass.int.Binds 2 c (.ok { identity := 2, settings := ⟨some .int, false⟩ }) :=
    .copied rfl rfl
  have htaken : ∀ e, some Ty.int = some e → ∀ y ∈ xs, e.takes y = true := by
    intro e he
    cases he
    decide
  have hfilled := (hunique _).1 (.filled (.given rfl) hcopied (.filled htaken (by decide)))
  refine ⟨hs, hc, (hvariables "c" (by decide)).trans hc, ?_⟩
  rw [← hfilled] at hmade
  exact hmade

end Session

end ValueSets
