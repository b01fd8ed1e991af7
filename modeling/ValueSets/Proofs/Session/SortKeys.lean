import ValueSets.Proofs.Session.Simple
import ValueSets.Proofs.Sorting.Permutation
import ValueSets.Proofs.Value.Written

/-!
# Listing simple members

The sort key of a simple value is a simple value, a number or a text, and is computed without regard
to the session. So sets with the same simple members are listed alike in all sessions in which
nothing was reached into, in their natural order and by any key.
-/

set_option autoImplicit false

namespace ValueSets

open Fallible Value

variable {known : List Config}

/-! ## Sort keys -/

namespace Act

variable {s : Session}

theorem outcome_look {v : Value} (hv : v.Simple known) : outcome (look v) s = (.ok v, s) := by
  have hlook : s.look v = v := by
    unfold Session.look
    split
    · rename_i b
      exact absurd rfl (hv.ne_box b)
    · rfl
  unfold look
  rw [outcome_bind, outcome_get]
  simp only [hlook, outcome_pure]

theorem outcome_sizeOf {v : Value} (hv : v.Simple known) :
    outcome (sizeOf v) s = (v.length?, s) := by
  unfold sizeOf
  split
  · rename_i h
    exact absurd rfl (hv.ne_handle h)
  · rw [outcome_bind, outcome_look hv]
    exact outcome_ofExcept _ _

/-- Where no object was given fields, no value has one. -/
theorem outcome_fieldOf (hs : s.Untouched) (name : String) (v : Value) :
    outcome (fieldOf name v) s = (.error (v.missingField name), s) := by
  have hown : outcome (ownField? v name) s = (.ok none, s) := by
    unfold ownField?
    rw [outcome_bind, outcome_get]
    dsimp only
    split
    · simp only [hs.inside?_eq, outcome_pure]
    · rename_i hv
      simp only [hs.ownFields_eq hv, List.lookup_nil, outcome_pure]
  unfold fieldOf
  rw [outcome_bind, hown]
  rfl

end Act

theorem ofExcept_eq_error {α : Type} {e : Except Fault α} {fault : Fault} :
    (MonadExcept.ofExcept e : Except Fault α) = .error fault ↔ e = .error fault := by
  cases e <;> rfl

theorem ofExcept_eq_ok {α : Type} {e : Except Fault α} {a : α} :
    (MonadExcept.ofExcept e : Except Fault α) = .ok a ↔ e = .ok a := by
  cases e <;> rfl

namespace KeyFunction

/-- The sort key of a simple value. -/
def ofSimple (f : KeyFunction) (v : Value) : Except Fault SortKey :=
  f.apply written length? .ok (fun v => .error (v.missingField "value")) v

open Act in
theorem outcome_apply {s : Session} (hs : s.Untouched) {v : Value} (hv : v.Simple known)
    (f : KeyFunction) :
    outcome (f.apply print sizeOf look (fieldOf "value") v) s = (f.ofSimple v, s) := by
  unfold ofSimple apply
  cases f with
  | length =>
    dsimp only
    rw [outcome_bind, outcome_sizeOf hv]
    cases v.length? <;> rfl
  | literal =>
    dsimp only
    rw [outcome_bind, outcome_print hs hv]
    cases v.written <;> rfl
  | first =>
    dsimp only
    rw [outcome_bind, outcome_look hv]
    dsimp only
    rw [outcome_ofExcept]
    show _ = (MonadExcept.ofExcept (v.item? (·.head?) 0), s)
    cases v.item? (·.head?) 0 <;> rfl
  | last =>
    dsimp only
    rw [outcome_bind, outcome_look hv]
    dsimp only
    rw [outcome_ofExcept]
    show _ = (MonadExcept.ofExcept (v.item? (·.getLast?) (-1)), s)
    cases v.item? (·.getLast?) (-1) <;> rfl
  | value =>
    dsimp only
    cases v.number? with
    | some n => rfl
    | none =>
      dsimp only
      rw [outcome_bind, outcome_fieldOf hs]
      rfl
  | absolute =>
    dsimp only
    rw [outcome_bind, outcome_ofExcept]
    cases v.absolute? <;> rfl
  | negation =>
    dsimp only
    rw [outcome_bind, outcome_ofExcept]
    cases v.negation? <;> rfl
  | lower =>
    dsimp only
    rw [outcome_bind, outcome_ofExcept]
    cases v.lower? <;> rfl
  | modThree =>
    dsimp only
    rw [outcome_ofExcept]
    cases v.modThree? <;> rfl
  | constant | identity | kind => rfl

end KeyFunction

/-- A sort key that is a simple value, if it is a value. -/
def SortKey.IsSimple (known : List Config) (k : SortKey) : Prop :=
  ∀ v, k = .value v → v.Simple known

namespace Value

theorem simple_of_absolute {v w : Value} (h : v.absolute? = .ok w) : w.Simple known := by
  cases v with
  | bool | int | level | float | fraction =>
    cases h
    exact simple_of_isFlat rfl rfl (by simp)
  | _ => cases h

theorem simple_of_negation {v w : Value} (h : v.negation? = .ok w) : w.Simple known := by
  cases v with
  | bool | int | level | float | fraction =>
    cases h
    exact simple_of_isFlat rfl rfl (by simp)
  | _ => cases h

theorem simple_of_lower {v w : Value} (h : v.lower? = .ok w) : w.Simple known := by
  cases v with
  | text | symbol =>
    cases h
    exact simple_of_isFlat rfl rfl (by simp)
  | _ => cases h

theorem simple_of_number {v w : Value} (h : v.number? = some w) : w.Simple known := by
  cases v with
  | color | level =>
    cases h
    exact simple_of_isFlat rfl rfl (by simp)
  | _ => cases h

theorem simple_of_modThree {v : Value} {k : SortKey} (h : v.modThree? = .ok k) :
    k.IsSimple known := by
  have hfilled : ∀ {form cs}, filled form cs = .ok k → k.IsSimple known := by
    intro form cs h w hw
    subst hw
    unfold filled at h
    split at h <;> cases h
  cases v with
  | bool | int | level | float | fraction =>
    cases h
    intro w hw
    cases hw
    exact simple_of_isFlat rfl rfl (by simp)
  | text | symbol | bytes => exact hfilled h
  | _ => cases h

/-- What is picked of the items of a value of type `t`, as a sort key. -/
def pickedOf (t : Ty) (picked? : Option Value) : Except Fault SortKey :=
  match picked? with
  | some item => .ok (.value item)
  | none => .error (.noItemAt t)

/-- The items of a simple sequence are simple. -/
theorem simple_of_item {v : Value} (hv : v.Simple known) {pick : List Value → Option Value}
    (hpick : ∀ {ws w}, pick ws = some w → w ∈ ws) {place : Int} {k : SortKey}
    (h : v.item? pick place = .ok k) : k.IsSimple known := by
  have hitems : ∀ {ws : List Value}, (∀ w ∈ ws, w.Simple known) → v.items? = .ok ws →
      (v.items? >>= fun us => pickedOf v.typeOf (pick us)) = .ok k → k.IsSimple known := by
    intro ws hws hv h
    obtain ⟨us, hus, h⟩ := bind_eq_ok.1 h
    cases hus.symm.trans hv
    unfold pickedOf at h
    split at h
    · rename_i item hitem
      cases h
      intro w hw
      cases hw
      exact hws item (hpick hitem)
    · cases h
  have hcharacter : ∀ cs : List Char, ∀ w ∈ cs.map character, w.Simple known := by
    intro cs w hw
    obtain ⟨c, -, rfl⟩ := List.mem_map.1 hw
    exact simple_of_isFlat rfl rfl (by simp [character])
  cases v with
  | text | symbol => exact hitems (hcharacter _) rfl h
  | bytes bs =>
    refine hitems (fun w hw => ?_) rfl h
    obtain ⟨b, -, rfl⟩ := List.mem_map.1 hw
    exact simple_of_isFlat rfl rfl (by simp)
  | tuple items => exact hitems hv.tuple rfl h
  | list | table | set => exact absurd hv.isHashable (by simp [isHashable, unhashablePart?])
  | type t =>
    have htype : t.item? place = .ok k := h
    intro w hw
    subst hw
    unfold Ty.item? at htype
    split at htype <;> cases htype
  | _ => cases h

/-! ## Faults of sort keys -/

variable {fault : Fault} {v : Value}

theorem isFixed_of_length (h : v.length? = .error fault) : fault.IsFixed := by
  unfold length? at h
  split at h
  all_goals cases h
  rfl

theorem isFixed_of_absolute (h : v.absolute? = .error fault) : fault.IsFixed := by
  unfold absolute? at h
  split at h
  all_goals cases h
  rfl

theorem isFixed_of_negation (h : v.negation? = .error fault) : fault.IsFixed := by
  unfold negation? at h
  split at h
  all_goals cases h
  rfl

theorem isFixed_of_lower (h : v.lower? = .error fault) : fault.IsFixed := by
  unfold lower? at h
  split at h
  all_goals cases h
  rfl

theorem isFixed_of_modThree (h : v.modThree? = .error fault) : fault.IsFixed := by
  have hfilled : ∀ {form cs}, filled form cs = .error fault → fault.IsFixed := by
    intro form cs h
    unfold filled at h
    split at h
    all_goals cases h
    rfl
  cases v with
  | bool | int | level | float | fraction => cases h
  | text | symbol | bytes => exact hfilled h
  | _ =>
    cases h
    rfl

theorem isFixed_missingField (field : String) (v : Value) : (v.missingField field).IsFixed := by
  unfold missingField
  split <;> rfl

theorem isFixed_of_items (h : v.items? = .error fault) : fault.IsFixed := by
  unfold items? at h
  split at h
  all_goals cases h
  rfl

theorem isFixed_of_item {pick : List Value → Option Value} {place : Int}
    (h : v.item? pick place = .error fault) : fault.IsFixed := by
  have hsequence : (v.items? >>= fun ws => pickedOf v.typeOf (pick ws)) = .error fault →
      fault.IsFixed := by
    intro h
    rcases bind_eq_error.1 h with h | ⟨ws, -, h⟩
    · exact isFixed_of_items h
    · unfold pickedOf at h
      split at h
      all_goals cases h
      rfl
  cases v with
  | text | symbol | bytes | tuple | list => exact hsequence h
  | table entries =>
    unfold item? at h
    dsimp only at h
    split at h
    all_goals cases h
    rfl
  | type t =>
    have htype : t.item? place = .error fault := h
    unfold Ty.item? at htype
    split at htype
    all_goals cases htype
    unfold Ty.itemFault
    split <;> rfl
  | _ =>
    cases h
    rfl

end Value

namespace KeyFunction

/-- The sort key of a simple value is simple. -/
theorem isSimple_of_ofSimple {f : KeyFunction} {v : Value} (hv : v.Simple known) {k : SortKey}
    (h : f.ofSimple v = .ok k) : k.IsSimple known := by
  have hvalue : ∀ {w : Value}, w.Simple known → (SortKey.value w).IsSimple known := by
    intro w hw u hu
    cases hu
    exact hw
  unfold ofSimple apply at h
  cases f with
  | identity =>
    cases h
    exact hvalue hv
  | constant | kind =>
    cases h
    exact hvalue (simple_of_isFlat rfl rfl (by simp [kindName]))
  | length | literal =>
    obtain ⟨n, -, h⟩ := bind_eq_ok.1 h
    cases h
    exact hvalue (simple_of_isFlat rfl rfl (by simp))
  | absolute =>
    obtain ⟨w, hw, h⟩ := bind_eq_ok.1 h
    cases h
    exact hvalue (simple_of_absolute (ofExcept_eq_ok.1 hw))
  | negation =>
    obtain ⟨w, hw, h⟩ := bind_eq_ok.1 h
    cases h
    exact hvalue (simple_of_negation (ofExcept_eq_ok.1 hw))
  | lower =>
    obtain ⟨w, hw, h⟩ := bind_eq_ok.1 h
    cases h
    exact hvalue (simple_of_lower (ofExcept_eq_ok.1 hw))
  | first =>
    obtain ⟨w, hw, h⟩ := bind_eq_ok.1 h
    cases hw
    exact simple_of_item hv List.mem_of_mem_head? (ofExcept_eq_ok.1 h)
  | last =>
    obtain ⟨w, hw, h⟩ := bind_eq_ok.1 h
    cases hw
    exact simple_of_item hv List.mem_of_getLast? (ofExcept_eq_ok.1 h)
  | value =>
    dsimp only at h
    split at h
    · rename_i n hn
      cases h
      exact hvalue (simple_of_number hn)
    · cases h
  | modThree => exact simple_of_modThree (ofExcept_eq_ok.1 h)

/-- A sort key that a value does not have is no rejection. -/
theorem isFixed_of_ofSimple {f : KeyFunction} {v : Value} {fault : Fault}
    (h : f.ofSimple v = .error fault) : fault.IsFixed := by
  unfold ofSimple apply at h
  cases f with
  | identity | constant | kind => cases h
  | literal =>
    rcases bind_eq_error.1 h with h | ⟨text, -, h⟩
    · rw [eq_tooLongToWrite h]
      rfl
    · cases h
  | length =>
    rcases bind_eq_error.1 h with h | ⟨n, -, h⟩
    · exact isFixed_of_length h
    · cases h
  | absolute =>
    rcases bind_eq_error.1 h with h | ⟨w, -, h⟩
    · exact isFixed_of_absolute (ofExcept_eq_error.1 h)
    · cases h
  | negation =>
    rcases bind_eq_error.1 h with h | ⟨w, -, h⟩
    · exact isFixed_of_negation (ofExcept_eq_error.1 h)
    · cases h
  | lower =>
    rcases bind_eq_error.1 h with h | ⟨w, -, h⟩
    · exact isFixed_of_lower (ofExcept_eq_error.1 h)
    · cases h
  | first | last =>
    rcases bind_eq_error.1 h with h | ⟨w, hw, h⟩
    · cases h
    · cases hw
      exact isFixed_of_item (ofExcept_eq_error.1 h)
  | value =>
    dsimp only at h
    split at h
    · cases h
    · rcases bind_eq_error.1 h with h | ⟨w, -, h⟩
      · cases h
        exact isFixed_missingField _ v
      · cases h
  | modThree => exact isFixed_of_modThree (ofExcept_eq_error.1 h)

end KeyFunction

theorem SortKey.agree_lessThan {before before' : Precedence}
    (h : Sorting.AgreeOn Fault.IsFixed (Simple known) before before') :
    Sorting.AgreeOn Fault.IsFixed (SortKey.IsSimple known) (lessThan before)
      (lessThan before') := by
  intro k l hk hl
  unfold lessThan
  split
  · rename_i v w
    exact h v w (hk v rfl) (hl w rfl)
  · exact agree_ok _
  · exact agree_ok _
  · exact agree_error rfl

/-! ## Listing -/

namespace Act

variable {s : Session} {c : Collection}

theorem outcome_mapM {α β : Type} {f : α → Act β} {g : α → Except Fault β} {xs : List α}
    (h : ∀ x ∈ xs, outcome (f x) s = (g x, s)) : outcome (xs.mapM f) s = (xs.mapM g, s) := by
  induction xs with
  | nil => rfl
  | cons x xs ih =>
    rw [List.mapM_cons, List.mapM_cons, outcome_bind, h x (by simp)]
    cases g x with
    | error fault => rfl
    | ok y =>
      dsimp only
      rw [outcome_bind, ih fun z hz => h z (by simp [hz])]
      cases xs.mapM g <;> rfl

/-- Listing members by a key that leaves the session alone does so, too. -/
theorem outcome_listBy_of_keys {κ : Type} {key : Value → Act κ} {key? : Value → Except Fault κ}
    (h : ∀ m ∈ c.members, outcome (key m) s = (key? m, s))
    (before : κ → κ → Except Fault Bool) :
    outcome (c.listBy before key) s = (c.listBy before key?, s) := by
  let keyed : Except Fault (List (κ × Value)) :=
    c.members.mapM fun x => key? x >>= fun k => pure (k, x)
  have hkeyed : outcome (c.members.mapM fun x => key x >>= fun k => pure (k, x)) s =
      (keyed, s) := by
    refine outcome_mapM fun m hm => ?_
    rw [outcome_bind, h m hm]
    cases key? m <;> rfl
  have hlist : c.listBy before key? =
      keyed >>= fun ks => MonadExcept.ofExcept (Sorting.sortedByKey before ks) := rfl
  rw [hlist]
  unfold Collection.listBy
  rw [outcome_bind, hkeyed]
  cases keyed with
  | error fault => rfl
  | ok ks =>
    dsimp only
    rw [outcome_ofExcept]
    show _ = (MonadExcept.ofExcept (Sorting.sortedByKey before ks), s)
    cases Sorting.sortedByKey before ks <;> rfl

/-- Listing simple members by a named key leaves the session alone. -/
theorem outcome_listBy (hs : s.Untouched) (hc : ∀ m ∈ c.members, m.Simple known)
    (before : SortKey → SortKey → Except Fault Bool) (f : KeyFunction) :
    outcome (c.listBy before (f.apply print sizeOf look (fieldOf "value"))) s =
      (c.listBy before f.ofSimple, s) :=
  outcome_listBy_of_keys (fun m hm => KeyFunction.outcome_apply hs (hc m hm) f) before

end Act

namespace Collection

variable {c d : Collection} {before before' : Precedence}

/-- Whether a listing has to pass over the natural order depends on the members and the settings. -/
theorem lacksOrder_eq (hmembers : d.members = c.members)
    (hsettings : d.config.settings = c.config.settings) : d.lacksOrder = c.lacksOrder := by
  unfold lacksOrder Config.elementType Config.sortedListing
  rw [hmembers, hsettings]

/-- Sets that agree on their members and on how to list them are listed alike. -/
theorem agree_list (h : Sorting.AgreeOn Fault.IsFixed (Simple known) before before')
    (hc : ∀ m ∈ c.members, m.Simple known) (hmembers : d.members = c.members)
    (hsettings : d.config.settings = c.config.settings) :
    Agree Fault.IsFixed (c.list before) (d.list before') := by
  have hsorted : d.config.sortedListing = c.config.sortedListing :=
    congrArg Settings.sortedListing hsettings
  unfold list
  rw [hmembers, hsorted, lacksOrder_eq hmembers hsettings]
  split
  · exact agree_ok _
  · exact Sorting.agree_sorted h hc

/-- A listing by a key has the members. -/
theorem subset_of_listBy {key : Value → Except Fault SortKey} {vs : List Value}
    {lessThan : SortKey → SortKey → Except Fault Bool} (h : c.listBy lessThan key = .ok vs) :
    vs ⊆ c.members := by
  obtain ⟨keyed, hkeyed, h⟩ := bind_eq_ok.1 h
  intro v hv
  obtain ⟨entry, hentry, rfl⟩ := List.mem_map.1
    ((Sorting.perm_of_sortedByKey (ofExcept_eq_ok.1 h)).subset hv)
  obtain ⟨m, hm, hkey⟩ := exists_of_mem_mapM hkeyed hentry
  obtain ⟨k, -, hpair⟩ := bind_eq_ok.1 hkey
  cases hpair
  exact hm

theorem agree_listBy (h : Sorting.AgreeOn Fault.IsFixed (Simple known) before before')
    (hc : ∀ m ∈ c.members, m.Simple known) (hmembers : d.members = c.members) (f : KeyFunction) :
    Agree Fault.IsFixed (c.listBy (SortKey.lessThan before) f.ofSimple)
      (d.listBy (SortKey.lessThan before') f.ofSimple) := by
  have hkey : ∀ m ∈ c.members, Agree Fault.IsFixed
      (f.ofSimple m >>= fun k => pure (k, m)) (f.ofSimple m >>= fun k => pure (k, m)) := by
    intro m _
    have hown : Agree Fault.IsFixed (f.ofSimple m) (f.ofSimple m) :=
      ⟨rfl, fun _ => KeyFunction.isFixed_of_ofSimple⟩
    exact hown.bind fun k _ => agree_ok (k, m)
  unfold listBy
  rw [hmembers]
  refine (agree_mapM hkey).bind fun ks hks => ?_
  have hsimple : ∀ k ∈ ks, k.1.IsSimple known := by
    intro k hk
    obtain ⟨m, hm, hkm⟩ := exists_of_mem_mapM hks hk
    obtain ⟨key, hkey, hpair⟩ := bind_eq_ok.1 hkm
    cases hpair
    exact KeyFunction.isSimple_of_ofSimple (hc m hm) hkey
  have hsorted := Sorting.agree_sortedByKey (SortKey.agree_lessThan h) hsimple
  have hplain : ∀ e : Except Fault (List Value),
      (MonadExcept.ofExcept e : Except Fault (List Value)) = e := by
    intro e
    cases e <;> rfl
  rw [hplain, hplain]
  exact hsorted

end Collection

end ValueSets
