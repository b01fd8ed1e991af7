import ValueSets.Proofs.Collection.Proper
import ValueSets.Proofs.Entries
import ValueSets.Proofs.Value.Grounded
import ValueSets.Session.Action

/-!
# Sound sessions

A session is sound if its sets are proper, their configurations are grounded, and so is every value
in it, in a variable, in a box or among the members of a set. In a sound session no configuration
was reached into and no object was given fields, so a set is what was stored, and describing the
session anew changes nothing. A box holds a list, a table or a value set.

`Session.Like` relates the sessions that an action may pass through as long as it leaves the sets
and the variables alone. `Act.Ends` says how an action ends that begins in such a session, and
`Act.Quiet` is the case of an action that stays among them. There is one rule for each way in which
actions are put together, so what an action does is proved along its text.
-/

set_option autoImplicit false

namespace ValueSets

open Value

/-- Whether a value is what boxes are made for: a list, a table or a value set. -/
def Value.isContent : Value → Bool
  | .list _ | .table _ | .set _ _ => true
  | _ => false

namespace Session

variable {s t : Session}

/-- Values may be nested one deep in any session. -/
theorem exists_depth (s : Session) : ∃ depth, s.depth = depth + 1 :=
  Nat.exists_eq_succ_of_ne_zero (Nat.mul_ne_zero (Nat.succ_ne_zero _) (Nat.succ_ne_zero _))

/-- A session in which no configuration was reached into and no object was given fields. -/
structure Untouched (s : Session) : Prop where
  reached : s.reached = []
  fields : s.fields = []

namespace Untouched

theorem inside?_eq (hs : s.Untouched) (c : Config) : s.inside? c = none := by
  unfold inside?
  rw [hs.reached]
  rfl

theorem described_eq (hs : s.Untouched) : s.described = s := by
  unfold described
  rw [hs.reached]
  rfl

theorem ownFields_eq (hs : s.Untouched) {v : Value} (hv : ∀ c, v ≠ .config c) :
    (s.standIn v).fields = [] := by
  unfold standIn
  split
  · rename_i c
    exact absurd rfl (hv c)
  · simp [hs.fields]

end Untouched

/-- The classes of the sets of a session. -/
def classes (s : Session) : List SetClass := s.collections.map (·.cls)

/-- A session whose sets are proper and whose values are grounded. -/
structure Sound (s : Session) : Prop where
  reached : s.reached = []
  fields : s.fields = []
  positive : 0 < s.nextIdentity
  proper : ∀ c ∈ s.collections, c.Proper
  configs : ∀ c ∈ s.collections, c.config.IsGrounded s.classes
  members : ∀ c ∈ s.collections, AllGrounded s.classes c.members
  contents : AllGrounded s.classes s.contents
  boxed : ∀ v ∈ s.contents, v.isContent = true
  bindings : ∀ b ∈ s.bindings, b.2.Grounded s.classes

namespace Sound

theorem untouched (hs : s.Sound) : s.Untouched := ⟨hs.reached, hs.fields⟩

/-- No configuration of a sound session was reached into. -/
theorem inside?_eq (hs : s.Sound) (c : Config) : s.inside? c = none := hs.untouched.inside?_eq c

/-- Describing a sound session anew changes nothing. -/
theorem described_eq (hs : s.Sound) : s.described = s := hs.untouched.described_eq

/-- A configuration of a sound session stands in for itself as it was made. -/
theorem inside?_standIn (hs : s.Sound) (c : Config) : (s.standIn (.config c)).inside? = none := by
  unfold standIn standInFor
  exact hs.inside?_eq c

/-- No object of a sound session was given fields. -/
theorem ownFields_eq (hs : s.Sound) {v : Value} (hv : ∀ c, v ≠ .config c) :
    (s.standIn v).fields = [] := hs.untouched.ownFields_eq hv

/-- The set behind a handle is the one in its place. -/
theorem collection_of_getElem? (hs : s.Sound) {h : Handle} {c : Collection}
    (hc : s.collections[h.index]? = some c) : s.collection h = c := by
  have hstored : s.stored h = c := by
    unfold stored
    rw [hc]
    rfl
  have hproper := hs.proper c (List.mem_of_getElem? hc)
  unfold collection standInOf
  simp only [hstored, hproper.ownConfig, hs.inside?_eq, Option.map_none]

/-- A grounded handle is that of a set. -/
theorem exists_set (hs : s.Sound) {h : Handle} (hh : (Value.handle h).Grounded s.classes) :
    ∃ c, s.collections[h.index]? = some c ∧ c.cls = h.cls ∧ s.collection h = c := by
  rw [grounded_handle, classes, List.getElem?_map, Option.map_eq_some_iff] at hh
  obtain ⟨c, hc, hcls⟩ := hh
  exact ⟨c, hc, hcls, hs.collection_of_getElem? hc⟩

/-- Nothing stands in for the configuration of a set, be there a set behind the handle or not. -/
theorem ownConfig (hs : s.Sound) (h : Handle) : (s.collection h).standIn? = none := by
  have hstored : (s.stored h).standIn? = none := by
    unfold stored
    cases hc : s.collections[h.index]? with
    | none => rfl
    | some c => exact (hs.proper c (List.mem_of_getElem? hc)).ownConfig
  unfold collection standInOf
  simp only [hstored, hs.inside?_eq, Option.map_none]

theorem look (hs : s.Sound) {v : Value} (hv : v.Grounded s.classes) :
    (s.look v).Grounded s.classes := by
  unfold Session.look
  split
  · rename_i b
    cases hb : s.contents[b.index]? with
    | none => exact grounded_of_no_references rfl
    | some w => exact hs.contents w (List.mem_of_getElem? hb)
  · exact hv

theorem entries (hs : s.Sound) {v : Value} (hv : v.Grounded s.classes) :
    EntriesGrounded s.classes (s.entries v) := by
  have hlook := hs.look hv
  unfold Session.entries
  split
  · rename_i es heq
    rw [heq] at hlook
    exact grounded_table.1 hlook
  · intro e he
    cases he

theorem value (hs : s.Sound) {name : String} {v : Value} (h : s.value? name = some v) :
    v.Grounded s.classes := hs.bindings (name, v) (mem_of_lookup h)

end Sound

/-- What is known of the set behind a grounded handle. -/
structure Behind (s : Session) (h : Handle) (c : Collection) : Prop where
  found : s.collections[h.index]? = some c
  cls : c.cls = h.cls
  proper : c.Proper
  config : c.config.IsGrounded s.classes
  members : AllGrounded s.classes c.members

theorem Sound.behind (hs : s.Sound) {h : Handle} (hh : (Value.handle h).Grounded s.classes) :
    s.Behind h (s.collection h) := by
  obtain ⟨c, hc, hcls, heq⟩ := hs.exists_set hh
  have hmem := List.mem_of_getElem? hc
  rw [heq]
  exact ⟨hc, hcls, hs.proper c hmem, hs.configs c hmem, hs.members c hmem⟩

theorem Behind.lawful {h : Handle} {c : Collection} (hc : s.Behind h c)
    (hkeyed : h.cls.isKeyed = true) : c.Lawful := hc.proper.lawful (hc.cls ▸ hkeyed)

theorem Sound.collections_ne_nil (hs : s.Sound) {h : Handle}
    (hh : (Value.handle h).Grounded s.classes) : s.collections ≠ [] := by
  intro hnil
  have hfound := (hs.behind hh).found
  rw [hnil] at hfound
  cases hfound

/-- A session like another one, apart from its boxes, its identities and its log. -/
structure Like (s t : Session) : Prop where
  sound : t.Sound
  collections : t.collections = s.collections
  bindings : t.bindings = s.bindings

namespace Like

theorem refl (hs : s.Sound) : s.Like s := ⟨hs, rfl, rfl⟩

theorem classes_eq (h : s.Like t) : t.classes = s.classes := by
  unfold classes
  rw [h.collections]

/-- Sessions that are alike have the same variables. -/
theorem value?_eq (ht : s.Like t) (name : String) : t.value? name = s.value? name := by
  unfold value?
  rw [ht.bindings]

theorem behind (ht : s.Like t) {h : Handle} (hh : (Value.handle h).Grounded s.classes) :
    s.Behind h (t.collection h) := by
  rw [← ht.classes_eq] at hh
  obtain ⟨hfound, hcls, hproper, hconfig, hmembers⟩ := ht.sound.behind hh
  exact ⟨ht.collections ▸ hfound, hcls, hproper, ht.classes_eq ▸ hconfig,
    ht.classes_eq ▸ hmembers⟩

/-- A set is the same in sessions that are alike. -/
theorem collection_eq (hs : s.Sound) (ht : s.Like t) {h : Handle}
    (hh : (Value.handle h).Grounded s.classes) : t.collection h = s.collection h :=
  Option.some.inj ((ht.behind hh).found.symm.trans (hs.behind hh).found)

/-- A session like another one may get other boxes, as long as what they hold is grounded and what
boxes are made for. -/
theorem withContents (h : s.Like t) {contents : List Value}
    (hcontents : ∀ v ∈ contents, v ∈ t.contents ∨ v.Grounded s.classes ∧ v.isContent = true) :
    s.Like { t with contents } where
  sound :=
    { h.sound with
      contents := by
        have hclasses : classes { t with contents } = t.classes := rfl
        intro v hv
        rw [hclasses]
        rcases hcontents v hv with hold | ⟨hground, -⟩
        · exact h.sound.contents v hold
        · exact h.classes_eq ▸ hground
      boxed := by
        intro v hv
        rcases hcontents v hv with hold | ⟨-, hcontent⟩
        · exact h.sound.boxed v hold
        · exact hcontent }
  collections := h.collections
  bindings := h.bindings

/-- Changing a box leaves a session like it was, if the box gets what is grounded. -/
theorem change (h : s.Like t) (b : Box) {v : Value} (hv : v.Grounded s.classes)
    (hcontent : v.isContent = true) : s.Like (t.change b v) := by
  apply h.withContents
  intro w hw
  rcases List.mem_or_eq_of_mem_set hw with hw | rfl
  · exact .inl hw
  · exact .inr ⟨hv, hcontent⟩

theorem withIdentity (h : s.Like t) {nextIdentity : Nat} (hpositive : 0 < nextIdentity) :
    s.Like { t with nextIdentity } :=
  ⟨{ h.sound with positive := hpositive }, h.collections, h.bindings⟩

theorem withLog (h : s.Like t) (log : List Notice) : s.Like { t with log } :=
  ⟨{ h.sound with }, h.collections, h.bindings⟩

end Like

end Session

namespace Act

open Session

variable {α β : Type} {s : Session}

/-- What an action answers, and the session that it leaves. -/
def outcome (m : Act α) (t : Session) : Except Fault α × Session := m.run.run t

/-- Whether an action that begins in a session like `s` ends as `post` says. -/
def Ends (s : Session) (m : Act α) (post : Except Fault α → Session → Prop) : Prop :=
  ∀ t, s.Like t → post (outcome m t).1 (outcome m t).2

/-- Whether an action that begins in a session like `s` leaves such a session, and what it answers
is good. -/
def Quiet (s : Session) (m : Act α) (good : α → Prop) : Prop :=
  Ends s m fun r t => s.Like t ∧ ∀ a, r = .ok a → good a

@[simp] theorem outcome_pure (a : α) (t : Session) : outcome (pure a : Act α) t = (.ok a, t) := rfl

@[simp] theorem outcome_throw (fault : Fault) (t : Session) :
    outcome (throw fault : Act α) t = (.error fault, t) := rfl

@[simp] theorem outcome_get (t : Session) : outcome (get : Act Session) t = (.ok t, t) := rfl

@[simp] theorem outcome_ofExcept (e : Except Fault α) (t : Session) :
    outcome (MonadExcept.ofExcept e : Act α) t = (e, t) := by
  cases e <;> rfl

/-- The parts of an action take place one after the other, up to the first fault. -/
theorem outcome_bind (m : Act α) (f : α → Act β) (t : Session) :
    outcome (m >>= f) t = match outcome m t with
      | (.ok a, u) => outcome (f a) u
      | (.error fault, u) => (.error fault, u) := by
  unfold outcome
  simp only [ExceptT.run_bind, StateT.run_bind]
  cases h : StateT.run (ExceptT.run m) t with
  | mk r u => cases r <;> rfl

/-- An action goes on as its second part does if the first one is known to succeed. -/
theorem outcome_bind_of_ok {m : Act α} {f : α → Act β} {a : α} {t u : Session}
    (h : outcome m t = (.ok a, u)) : outcome (m >>= f) t = outcome (f a) u := by
  rw [outcome_bind, h]

/-- Parts of an action that succeed together succeed one after the other. -/
theorem outcome_bind_eq_ok {m : Act α} {f : α → Act β} {t u : Session} {b : β} :
    outcome (m >>= f) t = (.ok b, u) ↔
      ∃ a w, outcome m t = (.ok a, w) ∧ outcome (f a) w = (.ok b, u) := by
  rw [outcome_bind]
  constructor
  · intro h
    split at h
    · exact ⟨_, _, ‹_›, h⟩
    · cases h
  · rintro ⟨a, w, hm, hf⟩
    rw [hm]
    exact hf

/-- A fault that is caught leaves the session as it is by then. -/
theorem outcome_tryCatch (m : Act α) (f : Fault → Act α) (t : Session) :
    outcome (tryCatch m f) t = match outcome m t with
      | (.ok a, u) => (.ok a, u)
      | (.error fault, u) => outcome (f fault) u := by
  unfold outcome
  simp only [ExceptT.run_tryCatch, StateT.run_bind]
  cases h : StateT.run (ExceptT.run m) t with
  | mk r u => cases r <;> rfl

/-! ## Rules for what leaves the sets alone -/

variable {p : α → Prop} {q : β → Prop} {post : Except Fault β → Session → Prop}

theorem Quiet.mono {m : Act α} {r : α → Prop} (hm : Quiet s m p)
    (h : ∀ a, p a → r a) : Quiet s m r :=
  fun t ht => ⟨(hm t ht).1, fun a ha => h a ((hm t ht).2 a ha)⟩

theorem quiet_pure {a : α} (ha : p a) : Quiet s (pure a) p := by
  intro t ht
  refine ⟨ht, fun b hb => ?_⟩
  cases hb
  exact ha

theorem quiet_throw (fault : Fault) : Quiet s (throw fault : Act α) p := by
  intro t ht
  refine ⟨ht, fun a ha => ?_⟩
  cases ha

theorem quiet_get : Quiet s (get : Act Session) s.Like := by
  intro t ht
  refine ⟨ht, fun u hu => ?_⟩
  cases hu
  exact ht

theorem quiet_ofExcept {e : Except Fault α} (he : ∀ a, e = .ok a → p a) :
    Quiet s (MonadExcept.ofExcept e : Act α) p := by
  cases e with
  | error fault => exact quiet_throw fault
  | ok a => exact quiet_pure (he a rfl)

theorem quiet_modify {f : Session → Session} (hf : ∀ t, s.Like t → s.Like (f t)) :
    Quiet s (modify f : Act Unit) fun _ => True :=
  fun t ht => ⟨hf t ht, fun _ _ => trivial⟩

theorem quiet_modifyGet {f : Session → α × Session}
    (hf : ∀ t, s.Like t → s.Like (f t).2 ∧ p (f t).1) :
    Quiet s (modifyGet f : Act α) p := by
  intro t ht
  refine ⟨(hf t ht).1, fun a ha => ?_⟩
  cases ha
  exact (hf t ht).2

/-- An action that begins by leaving the sets alone ends as its second part does, unless it fails
before. -/
theorem Quiet.bind_ends {m : Act α} {f : α → Act β} (hm : Quiet s m p)
    (hfail : ∀ fault t, s.Like t → post (.error fault) t)
    (hf : ∀ a, p a → Ends s (f a) post) : Ends s (m >>= f) post := by
  intro t ht
  obtain ⟨hlike, hgood⟩ := hm t ht
  rw [outcome_bind]
  cases hr : outcome m t with
  | mk r u =>
    rw [hr] at hlike hgood
    cases r with
    | error fault => exact hfail fault u hlike
    | ok a => exact hf a (hgood a rfl) u hlike

/-- Two parts that leave the sets alone do so together. -/
theorem Quiet.bind {m : Act α} {f : α → Act β} (hm : Quiet s m p)
    (hf : ∀ a, p a → Quiet s (f a) q) : Quiet s (m >>= f) q :=
  hm.bind_ends (fun _ _ ht => ⟨ht, fun _ hb => by cases hb⟩) hf

theorem Quiet.tryCatch {m : Act α} {f : Fault → Act α} (hm : Quiet s m p)
    (hf : ∀ fault, Quiet s (f fault) p) : Quiet s (tryCatch m f) p := by
  intro t ht
  obtain ⟨hlike, hgood⟩ := hm t ht
  rw [outcome_tryCatch]
  cases hr : outcome m t with
  | mk r u =>
    rw [hr] at hlike hgood
    cases r with
    | error fault => exact hf fault u hlike
    | ok a => exact ⟨hlike, hgood⟩

/-! ## Walks -/

variable {γ : Type} {xs : List γ}

theorem quiet_mapM {f : γ → Act α} (hf : ∀ x ∈ xs, Quiet s (f x) p) :
    Quiet s (xs.mapM f) fun ys => ∀ y ∈ ys, p y := by
  induction xs with
  | nil => exact quiet_pure (by simp)
  | cons x xs ih =>
    rw [List.mapM_cons]
    refine (hf x (by simp)).bind fun y hy => ?_
    refine (ih fun z hz => hf z (by simp [hz])).bind fun ys hys => ?_
    apply quiet_pure
    intro z hz
    rcases List.mem_cons.1 hz with rfl | hz
    · exact hy
    · exact hys z hz

theorem quiet_forM {f : γ → Act Unit} (hf : ∀ x ∈ xs, Quiet s (f x) fun _ => True) :
    Quiet s (xs.forM f) fun _ => True := by
  induction xs with
  | nil => exact quiet_pure trivial
  | cons x xs ih =>
    rw [List.forM_eq_forM, List.forM_cons]
    exact (hf x (by simp)).bind fun _ _ => ih fun z hz => hf z (by simp [hz])

theorem quiet_allM {f : γ → Act Bool} (hf : ∀ x ∈ xs, Quiet s (f x) fun _ => True) :
    Quiet s (xs.allM f) fun _ => True := by
  induction xs with
  | nil => exact quiet_pure trivial
  | cons x xs ih =>
    rw [List.allM_cons]
    refine (hf x (by simp)).bind fun b _ => ?_
    cases b with
    | true => exact ih fun z hz => hf z (by simp [hz])
    | false => exact quiet_pure trivial

theorem quiet_anyM {f : γ → Act Bool} (hf : ∀ x ∈ xs, Quiet s (f x) fun _ => True) :
    Quiet s (xs.anyM f) fun _ => True := by
  induction xs with
  | nil => exact quiet_pure trivial
  | cons x xs ih =>
    rw [List.anyM_cons]
    refine (hf x (by simp)).bind fun b _ => ?_
    cases b with
    | true => exact quiet_pure trivial
    | false => exact ih fun z hz => hf z (by simp [hz])

theorem quiet_filterAuxM {f : γ → Act Bool} {acc : List γ}
    (hf : ∀ x ∈ xs, Quiet s (f x) fun _ => True) :
    Quiet s (List.filterAuxM f xs acc) fun ys => ∀ y ∈ ys, y ∈ xs ∨ y ∈ acc := by
  induction xs generalizing acc with
  | nil => exact quiet_pure fun y hy => .inr hy
  | cons x xs ih =>
    unfold List.filterAuxM
    refine (hf x (by simp)).bind fun b _ => ?_
    refine (ih fun z hz => hf z (by simp [hz])).mono fun ys hys y hy => ?_
    rcases hys y hy with hy | hy
    · exact .inl (by simp [hy])
    · cases b with
      | true =>
        rcases List.mem_cons.1 hy with rfl | hy
        · exact .inl (by simp)
        · exact .inr hy
      | false => exact .inr hy

theorem quiet_filterM {f : γ → Act Bool} (hf : ∀ x ∈ xs, Quiet s (f x) fun _ => True) :
    Quiet s (xs.filterM f) fun ys => ys ⊆ xs := by
  unfold List.filterM
  refine (quiet_filterAuxM hf).bind fun ys hys => quiet_pure fun y hy => ?_
  rcases hys y (List.mem_reverse.1 hy) with hy | hy
  · exact hy
  · cases hy

end Act

end ValueSets
