import ValueSets.Proofs.Session.Operations
import ValueSets.Proofs.Session.Printing
import ValueSets.Session.Step

/-!
# Steps

What a step may do to the sets of a sound session. A step that calls no changing method leaves them
alone, and answers no set but a new one (`Step.yields_run`). A step that does changes at most the
set that it is called on (`Step.mutates_run`, `Step.quiet_run`).

This holds for steps that leave configurations what they are: where a set is given a configuration,
that is one or absent, and no name of the parts of a configuration is assigned to
(`Step.IsPlain`).
-/

set_option autoImplicit false

namespace ValueSets

open Session Value Term

namespace Step

/-- The method that changes sets which a step calls, if it calls one. -/
def mutator? : Step → Option Method
  | .call m _ => if m.mutates then some m else none
  | .popFirst _ => some .pop
  | _ => none

/-- The set that a step calls a method on, and the further arguments. -/
def receiver? (s : Session) (args : List Value) (named : List (String × Value)) :
    Step → Option (Handle × List Value)
  | .call m on => s.receiver? m on args named
  | .popFirst on => match s.value? on with
    | some (.handle h) => some (h, args)
    | _ => none
  | _ => none

/-- Whether a step reads what a variable holds, and nothing else. -/
def isAlias : Step → Bool
  | .alias _ => true
  | _ => false

/-- Whether a step leaves configurations what they are. Assigning to a name that starts with an
underscore reaches into one. -/
def IsPlain (named : List (String × Value)) : Step → Prop
  | .construct _ | .new | .keySet _ => Collection.HasPlainConfig named
  | .assign _ field => field.toList.head? ≠ some '_'
  | _ => True

end Step

namespace Act

variable {s : Session} {h : Handle} {v : Value} {xs args : List Value} {name : String}
  {named : List (String × Value)}

theorem yields_keySet (entries : List (Term × Term)) (hgrounded : NamedGrounded s.classes named)
    (hnamed : Collection.HasPlainConfig named) : Yields s (keySet entries named) := by
  unfold keySet
  refine (quiet_evalEntries entries).bind_yields fun es hes => ?_
  refine (quiet_bindCall _ _ _).bind_yields fun _ _ => ?_
  exact yields_construct .inMemory hes.merge.keys hgrounded hnamed

/-- The default of a call to take out a member is grounded. -/
theorem namedGrounded_popArgs {bound : List (String × Value)} (hv : v.Grounded s.classes)
    (hargs : AllGrounded s.classes args)
    (hbind : (Method.pop.signatureIn .collection).bind (v :: args) [] = .ok bound) :
    NamedGrounded s.classes bound :=
  namedGrounded_of_bind (allGrounded_cons.2 ⟨hv, hargs⟩) (fun _ hb => by cases hb) hbind

theorem mutates_popFirstOf (hargs : AllGrounded s.classes args)
    (hh : (Value.handle h).Grounded s.classes) (hvalue : s.value? name = some (.handle h)) :
    Mutates s h (popFirstOf name args) := by
  unfold popFirstOf
  refine (quiet_valueOf name).bind_mutates hh fun v hv => ?_
  rw [hvalue] at hv
  cases hv.1
  refine (quiet_bindCall _ _ _).bind_mutates hh fun bound hbind => ?_
  exact mutates_popFirst hh (namedGrounded_popArgs hh hargs hbind)

theorem quiet_popFirstOf (hargs : AllGrounded s.classes args)
    (hvalue : ∀ h, s.value? name ≠ some (.handle h)) :
    Quiet s (popFirstOf name args) (Grounded s.classes) := by
  unfold popFirstOf
  refine (quiet_valueOf name).bind fun v hv => ?_
  have hset : ∀ h, v ≠ .handle h := fun h hvh => hvalue h (hvh ▸ hv.1)
  refine (quiet_bindCall _ _ _).bind fun bound hbind => ?_
  exact quiet_popFirst ⟨hv.2, hset⟩ (namedGrounded_popArgs hv.2 hargs hbind)

/-! ## Listing -/

theorem quiet_keyOf (f : KeyFunction) (hv : v.Grounded s.classes) :
    Quiet s (f.apply print sizeOf look (fieldOf "value") v) fun _ => True := by
  have hpure : ∀ e : Except Fault Value,
      Quiet s (do return .value (← MonadExcept.ofExcept e) : Act SortKey) fun _ => True :=
    fun e => (quiet_ofExcept fun _ _ => trivial).bind fun _ _ => quiet_pure trivial
  cases f with
  | length => exact (quiet_sizeOf hv).bind fun _ _ => quiet_pure trivial
  | absolute => exact hpure _
  | negation => exact hpure _
  | lower => exact hpure _
  | literal => exact (quiet_print _).bind fun _ _ => quiet_pure trivial
  | first => exact (quiet_look hv).bind fun _ _ => quiet_ofExcept fun _ _ => trivial
  | last => exact (quiet_look hv).bind fun _ _ => quiet_ofExcept fun _ _ => trivial
  | value =>
    unfold KeyFunction.apply
    dsimp only
    split
    · exact quiet_pure trivial
    · exact (quiet_fieldOf (p := fun _ => True) _ _).bind fun _ _ => quiet_pure trivial
  | constant => exact quiet_pure trivial
  | identity => exact quiet_pure trivial
  | modThree => exact quiet_ofExcept fun _ _ => trivial
  | kind => exact quiet_pure trivial

/-- Listing by a key gives the members, whatever the key is. -/
theorem quiet_listBy {c : Collection} {key : Value → Act SortKey}
    (before : SortKey → SortKey → Except Fault Bool)
    (hkey : ∀ x ∈ c.members, Quiet s (key x) fun _ => True) :
    Quiet s (c.listBy before key) fun vs => vs ⊆ c.members := by
  unfold Collection.listBy
  refine (quiet_mapM (p := fun entry : SortKey × Value => entry.2 ∈ c.members)
    fun x hx => ?_).bind fun keyed hkeyed => quiet_ofExcept fun vs hvs v hv => ?_
  · exact (hkey x hx).bind fun k _ => quiet_pure hx
  · obtain ⟨entry, hentry, rfl⟩ := List.mem_map.1
      ((Sorting.perm_of_sortedByKey hvs).subset hv)
    exact hkeyed entry hentry

theorem quiet_listOf (name : String) (key : Option KeyFunction) :
    Quiet s (listOf name key) (NoSet s.classes) := by
  unfold listOf
  refine (quiet_calledOf name "list").bind fun v hv => ?_
  split
  · refine (quiet_fetch hv.2).bind fun c hc => ?_
    refine (quiet_list hc.proper.ownConfig).bind fun vs hvs => ?_
    exact quiet_freshList (hc.members.of_subset hvs)
  · refine quiet_precedence.bind fun before _ => (quiet_fetch hv.2).bind fun c hc => ?_
    refine (quiet_listBy _ fun x hx => quiet_keyOf _ (hc.members x hx)).bind fun vs hvs => ?_
    exact quiet_freshList (hc.members.of_subset hvs)
  · refine (quiet_callOwn? _ _).bind fun own hown => ?_
    rw [hown]
    exact quiet_throw _
  · exact quiet_throw _

/-! ## Answers -/

theorem quiet_contains (hargs : AllGrounded s.classes args) :
    Quiet s (contains name args) fun _ => True := by
  unfold contains
  refine (quiet_valueOf name).bind fun v hv => (quiet_firstOf hargs).bind fun x _ => ?_
  split
  · exact quiet_hasIn hv.2 x
  · exact quiet_configContains (grounded_config.1 hv.2) x
  · exact quiet_get.bind fun _ _ => quiet_ofExcept fun _ _ => trivial

theorem quiet_printed (name : String) : Quiet s (printed name) (NoSet s.classes) := by
  unfold printed
  refine (quiet_valueOf name).bind fun v hv => ?_
  split
  · exact quiet_pure (noSet_of_no_references rfl)
  · exact (quiet_print v).bind fun text _ => quiet_create (noSet_of_no_references rfl)

theorem yields_hash (name : String) : Yields s (Act.hash name) := by
  unfold Act.hash
  refine (quiet_valueOf name).bind_yields fun v hv => ?_
  split
  · refine quiet_get.bind_yields fun t ht => ?_
    rw [ht.sound.inside?_eq]
    exact quiet_null.yields
  · refine (quiet_ofExcept fun _ _ => trivial).bind_yields fun _ _ => ?_
    split
    · exact (quiet_freshNumber rfl).yields_number
    · exact quiet_null.yields

/-! ## Assignments -/

/-- The fields of a configuration cannot be assigned to. -/
theorem quiet_assignSetting (c : Config) (v : Value) {field : String}
    (hfield : field.toList.head? ≠ some '_') {p : Unit → Prop} :
    Quiet s (assignSetting c field v) p := by
  have hassigner : Quiet s (checkAssigner c field) fun _ => True := by
    unfold checkAssigner
    refine quiet_get.bind fun t ht => ?_
    rw [ht.sound.inside?_eq]
    exact quiet_pure trivial
  unfold assignSetting
  refine hassigner.bind fun _ _ => ?_
  split
  case h_7 =>
    split
    · exact quiet_throw _
    · split
      · rename_i hunderscore
        exact absurd (eq_of_beq hunderscore) hfield
      · exact quiet_throw _
  -- the names of the parts start with an underscore
  all_goals exact absurd rfl hfield

theorem quiet_assign (hargs : AllGrounded s.classes args) {field : String}
    (hfield : field.toList.head? ≠ some '_') :
    Quiet s (assign name field args) (NoSet s.classes) := by
  have hrest : ∀ c, Quiet s (do
      let v ← firstOf args
      assignSetting c field v
      return .null : Act Value) (NoSet s.classes) := by
    intro c
    refine (quiet_firstOf hargs).bind fun v _ => ?_
    exact (quiet_assignSetting (p := fun _ => True) c v hfield).bind fun _ _ => quiet_null
  unfold assign
  refine (quiet_valueOf name).bind fun v hv => ?_
  split
  · rename_i c
    exact hrest c
  · refine (quiet_configOf name).bind fun target htarget => ?_
    obtain ⟨c, rfl, -⟩ := htarget
    exact hrest c

end Act

/-! ## What a step does -/

namespace Step

open Act

variable {s : Session} {h : Handle} {m : Method} {xs args : List Value}
  {named : List (String × Value)} {step : Step}

/-- A step that calls no changing method leaves the sets alone, and answers no set but a new one. A
step that reads a variable answers what that holds. -/
theorem yields_run (hplain : step.IsPlain named) (hmutator : step.mutator? = none)
    (halias : step.isAlias = false) (hargs : AllGrounded s.classes args)
    (hnamed : NamedGrounded s.classes named) : Yields s (step.run args named) := by
  cases step with
  | construct cls => exact yields_construct cls hargs hnamed hplain
  | new => exact yields_construct .inMemory hargs hnamed hplain
  | keySet entries => exact yields_keySet entries hnamed hplain
  | configure =>
    refine quiet_freshIdentity.bind_yields fun identity hpositive => ?_
    refine (quiet_ofExcept fun settings hread => hread).bind_yields fun settings hread => ?_
    refine (quiet_pure ⟨grounded_config.2 ⟨.inl (Nat.ne_of_gt hpositive), ?_⟩, by simp⟩).yields
    exact fun e he => .inl (Collection.isHashable_of_readNamed hread he)
  | call m on =>
    have hm : m.mutates = false := by
      simpa [mutator?] using hmutator
    exact yields_call hm hargs hnamed
  | derivedCopy on => exact (quiet_valueOf on).bind_yields fun v hv => yields_derivedCopy hv.2
  | popFirst on => cases hmutator
  | list on key => exact (quiet_listOf on key).yields
  | combine op on other => exact yields_combineVariables op on other
  | ask question on other => exact (quiet_answer (quiet_askVariables question on other)).yields
  | operate op left right =>
    refine (quiet_eval left).bind_yields fun v hv => (quiet_eval right).bind_yields fun w hw => ?_
    exact yields_operate op hv hw
  | contains on => exact (quiet_answer (quiet_contains hargs)).yields
  | print on => exact (quiet_printed on).yields
  | truth on =>
    refine quiet_get.bind_yields fun t _ => (quiet_valueOf on).bind_yields fun v _ => ?_
    exact (quiet_pure (noSet_of_no_references rfl)).yields
  | iterate on =>
    refine (quiet_valueOf on).bind_yields fun v hv => ?_
    refine (quiet_items hv.2).bind_yields fun vs hvs => ?_
    exact (quiet_freshList hvs).yields
  | hash on => exact yields_hash on
  | «alias» on => cases halias
  | configOf on =>
    refine Quiet.yields ((quiet_configOf on).mono ?_)
    rintro _ ⟨c, rfl, hc⟩
    exact ⟨grounded_config.2 hc, by simp⟩
  | sameConfig on other =>
    refine (quiet_configOf on).bind_yields fun _ _ => ?_
    refine (quiet_configOf other).bind_yields fun _ _ => ?_
    exact (quiet_pure (noSet_of_no_references rfl)).yields
  | sameObject on other =>
    refine (quiet_valueOf on).bind_yields fun _ _ => (quiet_valueOf other).bind_yields fun _ _ => ?_
    exact (quiet_pure (noSet_of_no_references rfl)).yields
  | assign on field => exact (quiet_assign hargs hplain).yields

/-- A step that reads a variable leaves the sets alone. -/
theorem quiet_run_alias (halias : step.isAlias = true) :
    Quiet s (step.run args named) (Grounded s.classes) := by
  cases step with
  | «alias» on => exact (quiet_valueOf on).mono fun v hv => hv.2
  | _ => cases halias

theorem grounded_receiver? (hs : s.Sound) (hargs : AllGrounded s.classes args)
    (hnamed : NamedGrounded s.classes named)
    (hreceiver : step.receiver? s args named = some (h, xs)) :
    (Value.handle h).Grounded s.classes := by
  cases step with
  | call method on => exact Act.grounded_receiver? hs hargs hnamed hreceiver
  | popFirst on =>
    simp only [receiver?] at hreceiver
    split at hreceiver
    · rename_i hvalue
      cases hreceiver
      exact hs.value hvalue
    · cases hreceiver
  | _ => cases hreceiver

/-- A step that calls a changing method on a set changes at most that set. -/
theorem mutates_run (hmutator : step.mutator? = some m)
    (hreceiver : step.receiver? s args named = some (h, xs))
    (hh : (Value.handle h).Grounded s.classes) (hargs : AllGrounded s.classes args)
    (hnamed : NamedGrounded s.classes named) : Mutates s h (step.run args named) := by
  cases step with
  | call method on =>
    simp only [mutator?, Option.ite_none_right_eq_some] at hmutator
    obtain ⟨hm, hmethod⟩ := hmutator
    cases hmethod
    exact mutates_call hm hargs hnamed hh hreceiver
  | popFirst on =>
    cases hmutator
    simp only [receiver?] at hreceiver
    split at hreceiver
    · rename_i hvalue
      cases hreceiver
      exact mutates_popFirstOf hargs hh hvalue
    · cases hreceiver
  | _ => cases hmutator

/-- A step that calls a changing method on what is no set leaves the sets alone. -/
theorem quiet_run (hmutator : step.mutator? = some m)
    (hreceiver : step.receiver? s args named = none) (hargs : AllGrounded s.classes args)
    (hnamed : NamedGrounded s.classes named) :
    Quiet s (step.run args named) (Grounded s.classes) := by
  cases step with
  | call method on =>
    simp only [mutator?, Option.ite_none_right_eq_some] at hmutator
    exact quiet_call hmutator.1 hargs hnamed hreceiver
  | popFirst on =>
    refine quiet_popFirstOf hargs fun h hvalue => ?_
    simp only [receiver?, hvalue] at hreceiver
    cases hreceiver
  | _ => cases hmutator

/-- A step that calls no changing method on a set leaves the sets alone or adds one. The set that it
answers is the added one, unless it reads a variable or calls a changing method. -/
theorem kept_run (hplain : step.IsPlain named)
    (hreceiver : ∀ m, step.mutator? = some m → step.receiver? s args named = none)
    (hargs : AllGrounded s.classes args) (hnamed : NamedGrounded s.classes named) :
    Ends s (step.run args named) (Kept s (step.mutator? = none ∧ step.isAlias = false)) := by
  cases hmutator : step.mutator? with
  | some m => exact (quiet_run hmutator (hreceiver m hmutator) hargs hnamed).kept (by simp)
  | none =>
    cases halias : step.isAlias with
    | true =>
      have hquiet : Quiet s (step.run args named) (Grounded s.classes) := quiet_run_alias halias
      exact hquiet.kept (by simp)
    | false => exact (yields_run hplain hmutator halias hargs hnamed).kept _

end Step

end ValueSets
