import ValueSets.Proofs.Session.Calls
import ValueSets.Session.Container

/-!
# Methods by name

A method is called on what a variable holds. Where that is a set, the set is the receiver; where it
is a type of sets, the receiver is the first argument. `Session.receiver?` finds the receiver that
is a set. A method that changes sets changes no other one than its receiver, and leaves all sets
alone where it has none; any other method answers at most a new set.
-/

set_option autoImplicit false

namespace ValueSets

open Session Value Term

/-- The value that a method is called on which is asked of a type. -/
def Method.receiverIn (m : Method) (home : Ty) (args : List Value)
    (named : List (String × Value)) : Value :=
  match (m.signatureIn home).bind args named with
  | .ok bound => (bound.lookup (m.signatureIn home).receiver).getD .null
  | .error _ => .null

/-- The set that a method is called on, and the further arguments. -/
def Session.receiver? (s : Session) (m : Method) (name : String) (args : List Value)
    (named : List (String × Value)) : Option (Handle × List Value) :=
  match s.value? name with
  | some (.handle h) => some (h, args)
  | some (.type t) => match (m.homeIn? t).map fun home => m.receiverIn home args named with
    | some (.handle h) => some (h, args.drop 1)
    | _ => none
  | _ => none

namespace Act

variable {s : Session} {h : Handle} {m : Method} {home : Ty} {v : Value} {xs args : List Value}
  {name : String} {named bound : List (String × Value)}

/-! ## Methods of sets -/

/-- A method that changes nothing, found in any type. -/
theorem yields_callIn (hm : m.mutates = false) (hv : v.Grounded s.classes) :
    Yields s (callIn home m v xs bound) := by
  unfold callIn
  split
  · split
    · exact yields_callStored hm hv
    · exact (quiet_callWithoutStorage m hv).yields
  · exact (quiet_callWithoutStorage m hv).yields
  · exact yields_callCommon hm hv

/-- A method that changes the set that it is called on, found in any type. -/
theorem mutates_callIn (hm : m.mutates = true) (hh : (Value.handle h).Grounded s.classes)
    (hxs : AllGrounded s.classes xs) (hbound : NamedGrounded s.classes bound) :
    Mutates s h (callIn home m (.handle h) xs bound) := by
  cases home with
  | sets cls =>
    unfold callIn
    simp only
    split
    · exact mutates_callStored hm hh hxs hbound
    · exact ((quiet_callWithoutStorage m hh).mono fun _ hv => hv.1).mutates hh
  | _ => exact mutates_callCommon hm hh hbound

/-- A method that changes sets, called on a value that is none. -/
theorem quiet_callIn (hm : m.mutates = true) (hv : v.NoSet s.classes)
    (hbound : NamedGrounded s.classes bound) :
    Quiet s (callIn home m v xs bound) (Grounded s.classes) := by
  unfold callIn
  split
  · exact absurd rfl (hv.2 _)
  · exact (quiet_callWithoutStorage m hv.1).mono fun _ hw => hw.1
  · exact quiet_callCommon hm hv hbound

theorem yields_callSet (hm : m.mutates = false) (hh : (Value.handle h).Grounded s.classes) :
    Yields s (callSet m h args named) := by
  unfold callSet
  exact (quiet_bindCall _ _ _).bind_yields fun bound _ => yields_callIn hm hh

theorem mutates_callSet (hm : m.mutates = true) (hh : (Value.handle h).Grounded s.classes)
    (hargs : AllGrounded s.classes args) (hnamed : NamedGrounded s.classes named) :
    Mutates s h (callSet m h args named) := by
  unfold callSet
  refine (quiet_bindCall _ _ _).bind_mutates hh fun bound hbind => ?_
  have hall := allGrounded_cons.2 ⟨hh, hargs⟩
  exact mutates_callIn hm hh hargs (namedGrounded_of_bind hall hnamed hbind)

theorem grounded_receiverIn (hargs : AllGrounded s.classes args)
    (hnamed : NamedGrounded s.classes named) :
    (m.receiverIn home args named).Grounded s.classes := by
  unfold Method.receiverIn
  split
  · rename_i bound hbind
    cases hv : bound.lookup (m.signatureIn home).receiver with
    | none => exact grounded_of_no_references rfl
    | some v => exact (namedGrounded_of_bind hargs hnamed hbind).lookup hv
  · exact grounded_of_no_references rfl

/-- The set that a method is called on is one of the session. -/
theorem grounded_receiver? (hs : s.Sound) (hargs : AllGrounded s.classes args)
    (hnamed : NamedGrounded s.classes named)
    (hreceiver : s.receiver? m name args named = some (h, xs)) :
    (Value.handle h).Grounded s.classes := by
  unfold receiver? at hreceiver
  split at hreceiver
  · rename_i hvalue
    cases hreceiver
    exact hs.value hvalue
  · rename_i t hvalue
    split at hreceiver
    · rename_i k hk
      cases hreceiver
      obtain ⟨home, -, hhome⟩ := Option.map_eq_some_iff.1 hk
      rw [← hhome]
      exact grounded_receiverIn hargs hnamed
    · cases hreceiver
  · cases hreceiver

theorem receiverIn_eq (hbind : (m.signatureIn home).bind args named = .ok bound) :
    (bound.lookup (m.signatureIn home).receiver).getD .null = m.receiverIn home args named := by
  unfold Method.receiverIn
  rw [hbind]

theorem yields_callUnbound (hm : m.mutates = false) (hargs : AllGrounded s.classes args)
    (hnamed : NamedGrounded s.classes named) : Yields s (callUnbound home m args named) := by
  unfold callUnbound
  refine (quiet_bindCall _ _ _).bind_yields fun bound hbind => ?_
  rw [receiverIn_eq hbind]
  exact yields_callIn hm (grounded_receiverIn hargs hnamed)

theorem mutates_callUnbound (hm : m.mutates = true) (hargs : AllGrounded s.classes args)
    (hnamed : NamedGrounded s.classes named) (hr : m.receiverIn home args named = .handle h) :
    Mutates s h (callUnbound home m args named) := by
  have hh : (m.receiverIn home args named).Grounded s.classes := grounded_receiverIn hargs hnamed
  rw [hr] at hh
  unfold callUnbound
  refine (quiet_bindCall _ _ _).bind_mutates hh fun bound hbind => ?_
  rw [receiverIn_eq hbind, hr]
  exact mutates_callIn hm hh (hargs.of_subset (List.drop_subset 1 args))
    (namedGrounded_of_bind hargs hnamed hbind)

theorem quiet_callUnbound (hm : m.mutates = true) (hargs : AllGrounded s.classes args)
    (hnamed : NamedGrounded s.classes named)
    (hr : ∀ h, m.receiverIn home args named ≠ .handle h) :
    Quiet s (callUnbound home m args named) (Grounded s.classes) := by
  unfold callUnbound
  refine (quiet_bindCall _ _ _).bind fun bound hbind => ?_
  rw [receiverIn_eq hbind]
  exact quiet_callIn hm ⟨grounded_receiverIn hargs hnamed, hr⟩
    (namedGrounded_of_bind hargs hnamed hbind)

/-! ## Methods of lists, tables and value sets -/

theorem quiet_null : Quiet s (pure .null : Act Value) (NoSet s.classes) :=
  quiet_pure (noSet_of_no_references rfl)

theorem quiet_insertAt (b : Box) (hargs : AllGrounded s.classes args) :
    Quiet s (insertAt b args) (NoSet s.classes) := by
  unfold insertAt
  split
  · rename_i index v
    split
    · exact quiet_throw _
    · rename_i n hn
      have hv := (allGrounded_cons.1 (allGrounded_cons.1 hargs).2).1
      have hinsert : Quiet s (do
          let items ← items (.box b)
          let place := placeOf items.length n
          change b (.list (items.take place ++ v :: items.drop place))
          return .null : Act Value) (NoSet s.classes) := by
        refine (quiet_items (grounded_of_no_references rfl)).bind fun ws hws => ?_
        refine (quiet_change b ?_ rfl).bind fun _ _ => quiet_null
        rw [grounded_list, allGrounded_append, allGrounded_cons]
        exact ⟨hws.of_subset (List.take_subset _ ws), hv, hws.of_subset (List.drop_subset _ ws)⟩
      split
      · exact (quiet_throw (p := fun _ => True) _).bind fun _ _ => hinsert
      · exact hinsert
  · exact quiet_throw _

/-- An empty list, table or value set may be put into a box. -/
theorem quiet_changeEmpty (b : Box) (t : Ty) :
    Quiet s (change b (emptyOf t)) fun _ => True := by
  unfold emptyOf
  split
  all_goals exact quiet_change b (grounded_of_no_references rfl) rfl

theorem quiet_callBox (b : Box) (hargs : AllGrounded s.classes args) :
    Quiet s (callBox m b args named) (NoSet s.classes) := by
  have hempty : Quiet s (do change b (emptyOf b.type); return .null : Act Value)
      (NoSet s.classes) := (quiet_changeEmpty b b.type).bind fun _ _ => quiet_null
  unfold callBox
  simp only
  split
  · exact quiet_throw _
  · split
    · exact quiet_insertAt b hargs
    · split
      · exact quiet_throw _
      · exact hempty

theorem quiet_receiverOf (t : Ty) (operation : String) (hargs : AllGrounded s.classes args) :
    Quiet s (receiverOf t operation args) fun r =>
      r.1.Grounded s.classes ∧ AllGrounded s.classes r.2 := by
  unfold receiverOf
  split
  · exact quiet_throw _
  · split
    · exact quiet_pure (allGrounded_cons.1 hargs)
    · exact quiet_throw _

/-! ## Calling by name -/

/-- No value has an operation of its own, so a call goes on as if it had not been looked for. -/
theorem ends_callOwn {rest : Act Value} {post : Except Fault Value → Session → Prop}
    (looks : Bool) (v : Value) (operation : String)
    (hfail : ∀ fault t, s.Like t → post (.error fault) t) (hrest : Ends s rest post) :
    Ends s (if looks = true then do
        match ← callOwn? v operation with
        | some made => return made
        | none => rest
      else rest) post := by
  split
  · refine (quiet_callOwn? v operation).bind_ends hfail fun own hown => ?_
    rw [hown]
    exact hrest
  · exact hrest

/-- A method that changes nothing leaves the sets alone, or answers a new one. -/
theorem yields_call (hm : m.mutates = false) (hargs : AllGrounded s.classes args)
    (hnamed : NamedGrounded s.classes named) : Yields s (call m name args named) := by
  unfold call
  refine (quiet_calledOf name m.name).bind_yields fun v hv => ?_
  refine ends_callOwn _ v m.name (fun _ _ ht => .inl ⟨ht, fun _ hw => by cases hw⟩) ?_
  split
  · exact yields_callSet hm hv.2
  · split
    · exact (quiet_callBox _ hargs).yields
    · exact (quiet_throw _).yields
  · split
    · exact yields_callUnbound hm hargs hnamed
    · split
      · refine (quiet_receiverOf _ _ hargs).bind_yields fun r hr => ?_
        split
        · exact (quiet_callBox _ hr.2).yields
        · exact (quiet_throw _).yields
      · exact (quiet_throw _).yields
  · exact (quiet_throw _).yields

/-- A method that changes sets changes at most its receiver. -/
theorem mutates_call (hm : m.mutates = true) (hargs : AllGrounded s.classes args)
    (hnamed : NamedGrounded s.classes named) (hh : (Value.handle h).Grounded s.classes)
    (hr : s.receiver? m name args named = some (h, xs)) :
    Mutates s h (call m name args named) := by
  unfold call
  refine (quiet_calledOf name m.name).bind_mutates hh fun v hv => ?_
  refine ends_callOwn _ v m.name (fun fault _ ht => mutated_of_fault ht hh fault) ?_
  unfold receiver? at hr
  rw [hv.1] at hr
  cases v with
  | handle k =>
    cases hr
    exact mutates_callSet hm hh hargs hnamed
  | type t =>
    dsimp only
    cases hhome : m.homeIn? t with
    | none => simp [hhome] at hr
    | some home =>
      simp only [hhome, Option.map_some] at hr
      split at hr
      · rename_i hreceiver
        cases hr
        exact mutates_callUnbound hm hargs hnamed (Option.some.inj hreceiver)
      · cases hr
  | _ => cases hr

/-- A method that changes sets leaves them alone where it has no set as its receiver. -/
theorem quiet_call (hm : m.mutates = true) (hargs : AllGrounded s.classes args)
    (hnamed : NamedGrounded s.classes named) (hr : s.receiver? m name args named = none) :
    Quiet s (call m name args named) (Grounded s.classes) := by
  have hbox : ∀ b xs, AllGrounded s.classes xs →
      Quiet s (callBox m b xs named) (Grounded s.classes) :=
    fun b xs hxs => (quiet_callBox b hxs).mono fun _ hw => hw.1
  unfold call
  refine (quiet_calledOf name m.name).bind fun v hv => ?_
  refine ends_callOwn _ v m.name (fun _ _ ht => ⟨ht, fun _ hw => by cases hw⟩) ?_
  unfold receiver? at hr
  rw [hv.1] at hr
  cases v with
  | handle k => cases hr
  | box b =>
    dsimp only
    split
    · exact hbox b args hargs
    · exact quiet_throw _
  | type t =>
    dsimp only
    cases hhome : m.homeIn? t with
    | none =>
      dsimp only
      split
      · refine (quiet_receiverOf _ _ hargs).bind fun r hr => ?_
        split
        · exact hbox _ _ hr.2
        · exact quiet_throw _
      · exact quiet_throw _
    | some home =>
      refine quiet_callUnbound hm hargs hnamed fun k hk => ?_
      simp only [hhome, Option.map_some, hk] at hr
      cases hr
  | _ => exact quiet_throw _

end Act

end ValueSets
