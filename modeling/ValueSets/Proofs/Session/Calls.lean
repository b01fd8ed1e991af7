import ValueSets.Proofs.Session.Effects
import ValueSets.Proofs.Session.Terms

/-!
# Calls

Making a set and calling a method do one of three things to a sound session. Making a set and asking
for a copy add a set. Adding, dropping, emptying and taking out a member change the set that the
method is called on. All other methods leave the sets alone.
-/

set_option autoImplicit false

namespace ValueSets

open Session Value Term

/-! ## Parameters -/

namespace Signature

variable {α : Type} {sig : Signature} {bound given named : List (String × α)} {positional : List α}

theorem mem_of_bindNamed (h : sig.bindNamed given named = .ok bound) :
    ∀ b ∈ bound, b ∈ given ∨ b ∈ named := by
  induction named generalizing given with
  | nil =>
    cases h
    exact fun b hb => .inl hb
  | cons entry named ih =>
    obtain ⟨name, a⟩ := entry
    unfold bindNamed at h
    split at h
    · cases h
    · split at h
      · cases h
      · intro b hb
        rcases ih h b hb with hb | hb
        · rcases List.mem_append.1 hb with hb | hb
          · exact .inl hb
          · exact .inr (by simp [List.mem_singleton.1 hb])
        · exact .inr (by simp [hb])

/-- The arguments of a call by parameter are those that were given, in their places or by name. -/
theorem mem_zip_of_bind (h : sig.bind positional named = .ok bound) :
    ∀ b ∈ bound, b ∈ sig.parameters.zip positional ∨ b ∈ named := by
  obtain ⟨all, hall, h⟩ := Fallible.bind_eq_ok.1 h
  have hbound : bound = all := by
    simp only at h
    split at h
    · cases h
    · split at h
      · cases h
      · cases h
        rfl
  subst hbound
  exact mem_of_bindNamed hall

theorem mem_of_bind (h : sig.bind positional named = .ok bound) :
    ∀ b ∈ bound, b.2 ∈ positional ∨ b ∈ named := by
  intro b hb
  rcases mem_zip_of_bind h b hb with hb | hb
  · exact .inl (List.of_mem_zip hb).2
  · exact .inr hb

/-- An argument is one of those beside the receiver, unless it is bound to the receiver. -/
theorem mem_of_bind_of_ne {receiver : α} (h : sig.bind (receiver :: positional) named = .ok bound)
    {b : String × α} (hb : b ∈ bound) (hne : b.1 ≠ sig.receiver) :
    b.2 ∈ positional ∨ b ∈ named := by
  have hzip : sig.parameters.zip (receiver :: positional) =
      (sig.receiver, receiver) :: (sig.required ++ sig.optional).zip positional := rfl
  rcases mem_zip_of_bind h b hb with hb | hb
  · rw [hzip] at hb
    rcases List.mem_cons.1 hb with rfl | hb
    · exact absurd rfl hne
    · exact .inl (List.of_mem_zip hb).2
  · exact .inr hb

end Signature

theorem Term.NamedGrounded.lookup {classes : List SetClass} {named : List (String × Value)}
    (hnamed : NamedGrounded classes named) {name : String} {v : Value}
    (h : named.lookup name = some v) : v.Grounded classes := hnamed (name, v) (mem_of_lookup h)

/-- Whether a method changes the set that it is called on. -/
def Method.mutates : Method → Bool
  | .insert | .delete | .clear | .pop => true
  | _ => false

namespace Act

variable {s : Session} {h : Handle} {v : Value} {vs xs args : List Value} {name : String}
  {named bound : List (String × Value)}

/-! ## Variables and parameters -/

theorem quiet_valueOf (name : String) :
    Quiet s (valueOf name) fun v => s.value? name = some v ∧ v.Grounded s.classes := by
  unfold valueOf
  refine quiet_get.bind fun t ht => ?_
  have hvalue : t.value? name = s.value? name := by
    unfold value?
    rw [ht.bindings]
  cases hv : t.value? name with
  | none => exact quiet_throw _
  | some v => exact quiet_pure ⟨hvalue.symm.trans hv, ht.classes_eq ▸ ht.sound.value hv⟩

theorem quiet_firstOf (hargs : AllGrounded s.classes args) :
    Quiet s (firstOf args) (Grounded s.classes) := by
  unfold firstOf
  cases args with
  | nil => exact quiet_throw _
  | cons x xs => exact quiet_pure (allGrounded_cons.1 hargs).1

theorem quiet_calledOf (name operation : String) :
    Quiet s (calledOf name operation) fun v => s.value? name = some v ∧ v.Grounded s.classes := by
  unfold calledOf
  refine (quiet_valueOf name).bind fun v hv => ?_
  exact (quiet_checkCall v operation).bind fun _ _ => quiet_pure hv

/-- No value has an operation of its own. -/
theorem quiet_callOwn? (v : Value) (operation : String) :
    Quiet s (callOwn? v operation) (· = none) := by
  unfold callOwn?
  refine (quiet_ownField? v operation).bind fun own hown => ?_
  rw [hown]
  exact quiet_pure rfl

theorem quiet_bindCall (sig : Signature) (args : List Value) (named : List (String × Value)) :
    Quiet s (bindCall sig args named) fun bound => sig.bind args named = .ok bound := by
  unfold bindCall
  cases hbind : sig.bind args named with
  | error fault => exact quiet_throw _
  | ok bound => exact quiet_pure rfl

/-- The arguments of a call are grounded by parameter, too. -/
theorem namedGrounded_of_bind {sig : Signature} (hargs : AllGrounded s.classes args)
    (hnamed : NamedGrounded s.classes named) (h : sig.bind args named = .ok bound) :
    NamedGrounded s.classes bound := by
  intro b hb
  rcases Signature.mem_of_bind h b hb with hb | hb
  · exact hargs b.2 hb
  · exact hnamed b hb

theorem quiet_defaultOf (hbound : NamedGrounded s.classes bound) :
    Quiet s (defaultOf bound) (Grounded s.classes) := by
  unfold defaultOf
  cases hv : bound.lookup "default" with
  | none => exact quiet_throw _
  | some v => exact quiet_pure (hbound.lookup hv)

/-- What is asked for its configuration has one. -/
theorem quiet_configOf (name : String) :
    Quiet s (configOf name) fun v => ∃ c, v = .config c ∧ c.IsGrounded s.classes := by
  unfold configOf
  refine (quiet_valueOf name).bind fun v hv => ?_
  split
  · refine (quiet_fetch hv.2).bind fun c hc => ?_
    rw [hc.proper.ownConfig]
    exact quiet_pure ⟨c.config, rfl, hc.config⟩
  · exact quiet_fieldOf _ _

/-! ## Making sets -/

/-- Making a set takes an identity, and answers what comes of the arguments in the session that has
given it away. -/
theorem outcome_construct (cls : SetClass) (xs : List Value) (named : List (String × Value))
    (t : Session) :
    let u : Session := { t with nextIdentity := t.nextIdentity + 1 }
    outcome (construct cls xs named) t = outcome (answerSet
      (Collection.construct u.sameness u.standIn cls xs named t.nextIdentity)) u := rfl

/-- Making a set with plain options adds one. -/
theorem yields_construct (cls : SetClass) (hvs : AllGrounded s.classes vs)
    (hgrounded : NamedGrounded s.classes named) (hnamed : Collection.HasPlainConfig named) :
    Yields s (construct cls vs named) := by
  unfold construct
  refine quiet_freshIdentity.bind_yields fun identity _ => quiet_get.bind_yields fun t ht => ?_
  refine yields_answerSet fun c hc => ?_
  have hinside := ht.sound.inside?_standIn
  obtain ⟨hproper, hcls, hms, hconfigured⟩ := Collection.proper_of_construct hnamed hinside hc
  have hgiven : ∀ config, named.lookup "config" = some (.config config) →
      config.IsTyped s.classes := by
    intro config hlookup
    exact (grounded_config.1 (hgrounded.lookup hlookup)).typed
  refine ⟨hproper, ?_, hvs.of_subset hms⟩
  rw [hcls]
  exact Config.typed_of_configured hnamed hinside hgiven hconfigured

/-! ## Questions -/

theorem quiet_ask (hh : (Value.handle h).Grounded s.classes)
    (question : Sameness → Collection → Except Fault Bool) :
    Quiet s (ask h question) fun _ => True := by
  unfold ask
  refine quiet_sameness.bind fun _ _ => (quiet_fetch hh).bind fun _ _ => ?_
  exact quiet_ofExcept fun _ _ => trivial

theorem quiet_hasIn (hv : v.Grounded s.classes) (x : Value) :
    Quiet s (hasIn v x) fun _ => True := by
  unfold hasIn
  refine (quiet_checkCall v _).bind fun _ _ => ?_
  split
  · exact quiet_ask hv _
  · exact quiet_throw _

theorem quiet_sizeOf (hv : v.Grounded s.classes) : Quiet s (sizeOf v) fun _ => True := by
  unfold sizeOf
  split
  · exact (quiet_fetch hv).bind fun _ _ => quiet_pure trivial
  · exact (quiet_look hv).bind fun _ _ => quiet_ofExcept fun _ _ => trivial

theorem quiet_failEmpty {α : Type} {p : α → Prop} (v : Value) : Quiet s (failEmpty v) p :=
  quiet_failCall _ _ _

theorem yields_derivedCopy (hv : v.Grounded s.classes) : Yields s (derivedCopy v) := by
  unfold derivedCopy
  split
  · refine (quiet_fetch hv).bind_yields fun c hc => quiet_sameness.bind_yields fun same _ => ?_
    exact yields_answerSet fun d hd => hc.fits.madeLike (hc.proper.like hd) hc.members
  · exact (quiet_failEmpty _).yields

/-! ## Methods -/

theorem quiet_answer {m : Act Bool} (hm : Quiet s m fun _ => True) :
    Quiet s (do return .bool (← m)) (NoSet s.classes) :=
  hm.bind fun _ _ => quiet_pure (noSet_of_no_references rfl)

theorem mutates_mutate {change : (Collection → Sameness) → Collection → Mutation Unit}
    (hh : (Value.handle h).Grounded s.classes) (hvs : AllGrounded s.classes vs)
    (hchange : ∀ same (c : Collection), c.Proper →
      c.MadeLike (c.members ++ vs) (change same c).2) :
    Mutates s h (do mutate h change; return .null) := by
  intro t ht
  obtain ⟨same, c, hc, hchanged, hr⟩ := ends_mutate hh hvs hchange t ht
  rw [outcome_bind]
  cases hout : outcome (mutate h change) t with
  | mk r u =>
    rw [hout] at hchanged hr
    cases r with
    | error fault => exact ⟨c, _, hc, hchanged, fun v hv => by cases hv⟩
    | ok _ =>
      refine ⟨c, _, hc, hchanged, fun v hv => ?_⟩
      cases hv
      exact grounded_of_no_references rfl

/-- Taking out a member changes the set, and answers the member or the default. -/
theorem mutates_popWith
    {take : (Collection → Sameness) → Collection → Mutation (Option Value)}
    (hh : (Value.handle h).Grounded s.classes) (hbound : NamedGrounded s.classes bound)
    (htake : ∀ same (c : Collection), c.Proper → c.MadeLike c.members (take same c).2 ∧
      ∀ x, (take same c).1 = .ok (some x) → x ∈ c.members)
    (hnone : ∀ same (c : Collection), c.Proper → (take same c).1 = .ok none →
      (take same c).2 = c) :
    Mutates s h (popWith h take bound) := by
  intro t ht
  have hchange : ∀ same (c : Collection), c.Proper →
      c.MadeLike (c.members ++ []) (take same c).2 := by
    intro same c hc
    rw [List.append_nil]
    exact (htake same c hc).1
  obtain ⟨same, c, hc, hchanged, hr⟩ := ends_mutate hh allGrounded_nil hchange t ht
  unfold popWith
  rw [outcome_bind]
  cases hout : outcome (mutate h take) t with
  | mk r u =>
    rw [hout] at hchanged hr
    cases r with
    | error fault => exact ⟨c, _, hc, hchanged, fun v hv => by cases hv⟩
    | ok o =>
      cases o with
      | some x =>
        refine ⟨c, _, hc, hchanged, fun v hv => ?_⟩
        cases hv
        exact hc.members x ((htake same c hc.proper).2 x hr.symm)
      | none =>
        -- the set is empty, so what is left of the call leaves it as it was
        have hsame := hnone same c hc.proper hr.symm
        rw [hsame] at hchanged
        have hlike : s.Like u := hchanged.like hc
        obtain ⟨hend, hgood⟩ := quiet_defaultOf hbound u hlike
        exact ⟨c, c, hc, hend.changed hc, hgood⟩

theorem mutates_popFirst (hh : (Value.handle h).Grounded s.classes)
    (hbound : NamedGrounded s.classes bound) :
    Mutates s h (popFirst (.handle h) bound) :=
  mutates_popWith hh hbound (fun same _ hc => hc.popFirst same)
    fun _ _ _ hnone => Collection.Proper.popFirst_none hnone

/-- A value that is no set has no first member to give up. -/
theorem quiet_popFirst (hv : v.NoSet s.classes) (hbound : NamedGrounded s.classes bound) :
    Quiet s (popFirst v bound) (Grounded s.classes) := by
  unfold popFirst
  split
  · exact absurd rfl (hv.2 _)
  · refine (quiet_allItems hv.1 fun _ _ => quiet_pure trivial).bind fun empty _ => ?_
    cases empty with
    | true => exact quiet_defaultOf hbound
    | false => exact quiet_failCall _ _ _

/-- A method that all sets share and that changes nothing leaves the sets alone, or makes a copy. -/
theorem yields_callCommon {m : Method} (hm : m.mutates = false) (hv : v.Grounded s.classes) :
    Yields s (callCommon m v xs bound) := by
  have hnull : Yields s (pure .null : Act Value) :=
    (quiet_pure (noSet_of_no_references rfl)).yields
  cases m with
  | insert | delete | clear | pop => cases hm
  | has => exact hnull
  | hasAll =>
    unfold callCommon
    simp only
    split
    · exact (quiet_answer (quiet_ask hv _)).yields
    · exact (quiet_answer (quiet_allM fun x _ => quiet_hasIn hv x)).yields
  | hasAny =>
    unfold callCommon
    simp only
    split
    · exact (quiet_answer (quiet_ask hv _)).yields
    · exact (quiet_answer (quiet_anyM fun x _ => quiet_hasIn hv x)).yields
  | size => exact (quiet_sizeOf hv).bind_yields fun n _ => (quiet_freshNumber rfl).yields_number
  | unsortedList =>
    exact (quiet_items hv).bind_yields fun ws hws => (quiet_freshList hws).yields
  | copy => exact yields_derivedCopy hv

/-- A method that changes sets leaves them alone where a value that is no set is called for what all
sets share. -/
theorem quiet_callCommon {m : Method} (hm : m.mutates = true) (hv : v.NoSet s.classes)
    (hbound : NamedGrounded s.classes bound) :
    Quiet s (callCommon m v xs bound) (Grounded s.classes) := by
  cases m with
  | has | hasAll | hasAny | size | unsortedList | copy => cases hm
  | insert | delete | clear => exact quiet_pure (grounded_of_no_references rfl)
  | pop => exact quiet_popFirst hv hbound

/-- A method that all sets share changes at most the set that it is called on. -/
theorem mutates_callCommon {m : Method} (hm : m.mutates = true)
    (hh : (Value.handle h).Grounded s.classes) (hbound : NamedGrounded s.classes bound) :
    Mutates s h (callCommon m (.handle h) xs bound) := by
  cases m with
  | has | hasAll | hasAny | size | unsortedList | copy => cases hm
  | insert | delete | clear => exact (quiet_pure (grounded_of_no_references rfl)).mutates hh
  | pop => exact mutates_popFirst hh hbound

/-- What a method does that depends on how members are kept, if it changes nothing. -/
theorem yields_callStored {m : Method} (hm : m.mutates = false)
    (hh : (Value.handle h).Grounded s.classes) : Yields s (callStored m h xs bound) := by
  cases m with
  | insert | delete | clear | pop => cases hm
  | has => exact (quiet_answer (quiet_ask hh _)).yields
  | copy =>
    unfold callStored
    refine (quiet_fetch hh).bind_yields fun c hc => quiet_sameness.bind_yields fun same _ => ?_
    refine (quiet_ofExcept fun d hd => hc.proper.copy hd).bind_yields fun d hd => ?_
    have hfits := hc.fits.madeLike hd hc.members
    split
    · exact (makes_allocateCopy hfits).yields
    · exact (makes_allocate hfits).yields
  | hasAll | hasAny | size | unsortedList => exact yields_callCommon rfl hh

/-- What a method does that depends on how members are kept, if it changes the set. -/
theorem mutates_callStored {m : Method} (hm : m.mutates = true)
    (hh : (Value.handle h).Grounded s.classes) (hxs : AllGrounded s.classes xs)
    (hbound : NamedGrounded s.classes bound) : Mutates s h (callStored m h xs bound) := by
  cases m with
  | has | hasAll | hasAny | size | unsortedList | copy => cases hm
  | insert =>
    exact mutates_mutate hh hxs fun same c hc => hc.insert same xs
  | delete =>
    refine mutates_mutate hh allGrounded_nil fun same c hc => ?_
    rw [List.append_nil]
    exact hc.delete same xs
  | clear =>
    refine mutates_mutate hh allGrounded_nil fun same c hc => ?_
    rw [List.append_nil]
    exact hc.cleared
  | pop =>
    exact mutates_popWith hh hbound (fun same _ hc => hc.pop same)
      fun _ _ hc hnone => hc.pop_none hnone

theorem quiet_elementValueOf (hv : v.Grounded s.classes) :
    Quiet s (elementValueOf v) fun _ => True := by
  unfold elementValueOf
  split
  · refine (quiet_fetch hv).bind fun c hc => ?_
    rw [hc.proper.ownConfig]
    exact quiet_pure trivial
  · refine quiet_get.bind fun _ _ => (quiet_fieldOf (p := fun _ => True) _ _).bind fun _ _ => ?_
    exact quiet_ofExcept fun _ _ => trivial

/-- A method of storage by key does nothing to a value without such a storage. -/
theorem quiet_callWithoutStorage (m : Method) (hv : v.Grounded s.classes) :
    Quiet s (callWithoutStorage m v xs) (NoSet s.classes) := by
  have hmissing : ∀ field, Quiet s (failCall v field (v.missingField field) : Act Value)
      (NoSet s.classes) := fun field => quiet_failCall _ _ _
  unfold callWithoutStorage
  simp only
  split
  · exact (quiet_fetch hv).bind fun c hc => (quiet_ofExcept fun _ _ => trivial).bind
      fun _ _ => hmissing _
  · exact quiet_failEmpty _
  · exact hmissing _
  · exact hmissing _
  · split
    · exact quiet_pure (noSet_of_no_references rfl)
    · refine (quiet_elementValueOf hv).bind fun w _ => ?_
      split
      · exact hmissing _
      · exact hmissing _

end Act

end ValueSets
