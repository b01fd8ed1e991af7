import ValueSets.Members.Lemmas
import ValueSets.Proofs.Value.Places
import ValueSets.Value.Parts

/-!
# Values where sets are lists

`Value.listed` is a value as it is where each keyed set without an element type is kept as a plain
one: its handles name the plain class, and nothing else of it changes. A hashable value holds no
handle, so it is the same in both places.

Two configurations of one identity compare as one object. `Value.Familiar` limits the configurations
in a value to known ones, which are told apart by their identities, and its handles to keyed sets.
`Value.Simple` values are the hashable ones among these: comparing them is comparing their keys.
-/

set_option autoImplicit false

namespace ValueSets

namespace Value

/-- A value as it is where sets are kept as lists. -/
def listed : Value → Value := mapFlat fun v => match v with
  | .handle h => .handle ⟨h.index, .plain⟩
  | v => v

theorem mapAllFlat_eq (f : Value → Value) (vs : List Value) :
    mapAllFlat f vs = vs.map (mapFlat f) := by
  induction vs with
  | nil => rfl
  | cons v vs ih => simp [mapAllFlat, ih]

theorem mapEntriesFlat_eq (f : Value → Value) (es : List (Value × Value)) :
    mapEntriesFlat f es = es.map fun e => (mapFlat f e.1, mapFlat f e.2) := by
  induction es with
  | nil => rfl
  | cons e es ih =>
    obtain ⟨k, v⟩ := e
    simp [mapEntriesFlat, ih]

/-- The entries of a table as they are where sets are kept as lists. -/
def listedEntry (e : Value × Value) : Value × Value := (e.1.listed, e.2.listed)

section

variable (xs : List Value) (identity : Nat) (layout : Layout)

@[simp] theorem listed_tuple : listed (.tuple xs identity) = .tuple (xs.map listed) identity := by
  unfold listed mapFlat
  rw [mapAllFlat_eq]

@[simp] theorem listed_list : listed (.list xs) = .list (xs.map listed) := by
  unfold listed mapFlat
  rw [mapAllFlat_eq]

@[simp] theorem listed_table (es : List (Value × Value)) :
    listed (.table es) = .table (es.map listedEntry) := by
  unfold listed mapFlat
  rw [mapEntriesFlat_eq]
  rfl

@[simp] theorem listed_set : listed (.set xs layout) = .set (xs.map listed) layout := by
  unfold listed mapFlat
  rw [mapAllFlat_eq]

@[simp] theorem listed_frozenSet :
    listed (.frozenSet xs identity layout) = .frozenSet (xs.map listed) identity layout := by
  unfold listed mapFlat
  rw [mapAllFlat_eq]

@[simp] theorem listed_handle (h : Handle) : listed (.handle h) = .handle ⟨h.index, .plain⟩ := rfl

theorem listed_of_isFlat {v : Value} (hflat : v.isFlat = true) (hset : ∀ h, v ≠ .handle h) :
    v.listed = v := by
  cases v with
  | handle h => exact absurd rfl (hset h)
  | tuple | list | table | set | frozenSet => cases hflat
  | _ => rfl

end

theorem map_listed {vs : List Value} (h : ∀ v ∈ vs, v.listed = v) : vs.map listed = vs :=
  (List.map_congr_left (g := id) h).trans (List.map_id vs)

theorem map_named_listed {named : List (String × Value)} (h : ∀ b ∈ named, b.2.listed = b.2) :
    named.map (Prod.map id listed) = named := by
  refine (List.map_congr_left (g := id) fun b hb => ?_).trans (List.map_id named)
  exact Prod.ext rfl (h b hb)

/-- A hashable value holds no set of the session. -/
theorem listed_of_isHashable {v : Value} (h : v.isHashable = true) : v.listed = v := by
  induction v using inductionOn with
  | tuple items identity ih =>
    rw [isHashable_tuple, List.all_eq_true] at h
    rw [listed_tuple, map_listed fun w hw => ih w hw (h w hw)]
  | frozenSet items identity layout ih =>
    rw [isHashable_frozenSet, List.all_eq_true] at h
    rw [listed_frozenSet, map_listed fun w hw => ih w hw (h w hw)]
  | list | table | set => simp [isHashable, unhashablePart?] at h
  | flat w hflat =>
    refine listed_of_isFlat hflat fun k hk => ?_
    subst hk
    simp [isHashable, unhashablePart?] at h

/-- What keeps a value from being hashed is in the same place. -/
theorem unhashablePart?_listed (v : Value) :
    v.listed.unhashablePart? = v.unhashablePart?.map listed := by
  have hall : ∀ vs : List Value,
      (∀ w ∈ vs, w.listed.unhashablePart? = w.unhashablePart?.map listed) →
      firstUnhashablePart? (vs.map listed) = (firstUnhashablePart? vs).map listed := by
    intro vs hvs
    induction vs with
    | nil => rfl
    | cons w ws ih =>
      have hrest := ih fun u hu => hvs u (by simp [hu])
      simp only [List.map_cons, firstUnhashablePart?, hvs w (by simp), hrest]
      cases w.unhashablePart? <;> rfl
  induction v using inductionOn with
  | tuple items identity ih => simpa [unhashablePart?] using hall items ih
  | frozenSet items identity layout ih => simpa [unhashablePart?] using hall items ih
  | list | table | set => simp [unhashablePart?]
  | flat w hflat =>
    cases w with
    | tuple | list | table | set | frozenSet => cases hflat
    | config c =>
      cases hodd : c.oddity?.bind Oddity.unhashable? <;>
        simp [listed, mapFlat, unhashablePart?, hodd]
    | _ => rfl

theorem withIdentity_listed (identity : Nat) (v : Value) :
    (v.withIdentity identity).listed = v.listed.withIdentity identity := by
  cases v <;> simp [withIdentity] <;> rfl

theorem isShared_listed (v : Value) : v.listed.isShared = v.isShared := by
  cases v <;> simp [isShared] <;> rfl

end Value

/-- Configurations that are told apart by their identities. -/
structure Config.Apart (known : List Config) : Prop where
  even : ∀ c ∈ known, c.oddity? = none
  named : ∀ c ∈ known, c.identity ≠ 0
  apart : ∀ c ∈ known, ∀ d ∈ known, c.identity = d.identity → c = d

namespace Value

variable {known more : List Config}

/-- A value whose handles are those of keyed sets without an element type and whose configurations
are known. -/
inductive Familiar (known : List Config) : Value → Prop
  | tuple {items : List Value} {identity : Nat} : (∀ v ∈ items, Familiar known v) →
    Familiar known (.tuple items identity)
  | list {items : List Value} : (∀ v ∈ items, Familiar known v) → Familiar known (.list items)
  | table {entries : List (Value × Value)} :
    (∀ e ∈ entries, Familiar known e.1) → (∀ e ∈ entries, Familiar known e.2) →
    Familiar known (.table entries)
  | set {items : List Value} {layout : Layout} : (∀ v ∈ items, Familiar known v) →
    Familiar known (.set items layout)
  | frozenSet {items : List Value} {identity : Nat} {layout : Layout} :
    (∀ v ∈ items, Familiar known v) → Familiar known (.frozenSet items identity layout)
  | flat {v : Value} : v.isFlat = true → (∀ h, v = .handle h → h.cls = .inMemory) →
    (∀ c, v = .config c → c ∈ known) → Familiar known v

namespace Familiar

theorem mono {v : Value} (h : v.Familiar known) (hsub : known ⊆ more) : v.Familiar more := by
  induction h with
  | tuple _ ih => exact .tuple ih
  | list _ ih => exact .list ih
  | table _ _ ihk ihv => exact .table ihk ihv
  | set _ ih => exact .set ih
  | frozenSet _ ih => exact .frozenSet ih
  | flat hflat hset hconfig => exact .flat hflat hset fun c hc => hsub (hconfig c hc)

theorem of_isFlat {v : Value} (hflat : v.isFlat = true) (hset : ∀ h, v ≠ .handle h)
    (hconfig : ∀ c, v ≠ .config c) : v.Familiar known :=
  .flat hflat (fun h hv => absurd hv (hset h)) fun c hv => absurd hv (hconfig c)

theorem handle {h : Handle} (hv : (Value.handle h).Familiar known) : h.cls = .inMemory := by
  cases hv with
  | flat _ hset _ => exact hset h rfl

theorem config {c : Config} (hv : (Value.config c).Familiar known) : c ∈ known := by
  cases hv with
  | flat _ _ hconfig => exact hconfig c rfl

theorem withIdentity {v : Value} (h : v.Familiar known) (identity : Nat) :
    (v.withIdentity identity).Familiar known := by
  cases h with
  | tuple h => exact .tuple h
  | list h => exact .list h
  | table hk hv => exact .table hk hv
  | set h => exact .set h
  | frozenSet h => exact .frozenSet h
  | flat hflat hset hconfig =>
    cases v with
    | tuple | list | table | set | frozenSet => cases hflat
    | null | bool | color | level | type | config | box | handle => exact .flat hflat hset hconfig
    | _ => exact of_isFlat rfl (by simp [Value.withIdentity]) (by simp [Value.withIdentity])

end Familiar

/-- A hashable value whose configurations are known. -/
def Simple (known : List Config) (v : Value) : Prop := v.isHashable = true ∧ v.Familiar known

theorem simple_of_isFlat {v : Value} (hhash : v.isHashable = true) (hflat : v.isFlat = true)
    (hconfig : ∀ c, v ≠ .config c) : v.Simple known := by
  refine ⟨hhash, .of_isFlat hflat (fun h hv => ?_) hconfig⟩
  subst hv
  cases hhash

namespace Simple

variable {v w : Value}

theorem isHashable (h : v.Simple known) : v.isHashable = true := h.1

theorem listed_eq (h : v.Simple known) : v.listed = v := listed_of_isHashable h.1

theorem mono (h : v.Simple known) (hsub : known ⊆ more) : v.Simple more := ⟨h.1, h.2.mono hsub⟩

theorem ne_handle (h : v.Simple known) (k : Handle) : v ≠ .handle k := by
  rintro rfl
  simp [Simple, Value.isHashable, unhashablePart?] at h

theorem ne_box (h : v.Simple known) (b : Box) : v ≠ .box b := by
  rintro rfl
  simp [Simple, Value.isHashable, unhashablePart?] at h

theorem tuple {items : List Value} {identity : Nat}
    (h : (Value.tuple items identity).Simple known) : ∀ w ∈ items, w.Simple known := by
  obtain ⟨hhash, hfamiliar⟩ := h
  rw [isHashable_tuple, List.all_eq_true] at hhash
  cases hfamiliar with
  | tuple hitems => exact fun w hw => ⟨hhash w hw, hitems w hw⟩
  | flat hflat => cases hflat

theorem frozenSet {items : List Value} {identity : Nat} {layout : Layout}
    (h : (Value.frozenSet items identity layout).Simple known) : ∀ w ∈ items, w.Simple known := by
  obtain ⟨hhash, hfamiliar⟩ := h
  rw [isHashable_frozenSet, List.all_eq_true] at hhash
  cases hfamiliar with
  | frozenSet hitems => exact fun w hw => ⟨hhash w hw, hitems w hw⟩
  | flat hflat => cases hflat

end Simple

/-- What a hashable value holds is known once the configurations in it are. -/
theorem exists_simple {v : Value} (h : v.isHashable = true) : ∃ known, v.Simple known := by
  have hall : ∀ vs : List Value, (∀ w ∈ vs, w.isHashable = true → ∃ known, w.Simple known) →
      (∀ w ∈ vs, w.isHashable = true) → ∃ known, ∀ w ∈ vs, w.Simple known := by
    intro vs hvs hhash
    induction vs with
    | nil => exact ⟨[], by simp⟩
    | cons w ws ih =>
      obtain ⟨first, hfirst⟩ := hvs w (by simp) (hhash w (by simp))
      obtain ⟨rest, hrest⟩ :=
        ih (fun u hu => hvs u (by simp [hu])) fun u hu => hhash u (by simp [hu])
      refine ⟨first ++ rest, fun u hu => ?_⟩
      rcases List.mem_cons.1 hu with rfl | hu
      · exact hfirst.mono (List.subset_append_left first rest)
      · exact (hrest u hu).mono (List.subset_append_right first rest)
  induction v using inductionOn with
  | tuple items identity ih =>
    obtain ⟨known, hknown⟩ := hall items ih (List.all_eq_true.1 (isHashable_tuple .. ▸ h))
    exact ⟨known, h, .tuple fun w hw => (hknown w hw).2⟩
  | frozenSet items identity layout ih =>
    obtain ⟨known, hknown⟩ := hall items ih (List.all_eq_true.1 (isHashable_frozenSet .. ▸ h))
    exact ⟨known, h, .frozenSet fun w hw => (hknown w hw).2⟩
  | list | table | set => simp [isHashable, unhashablePart?] at h
  | flat w hflat =>
    cases w with
    | config c => exact ⟨[c], h, .flat rfl (by simp) (by simp)⟩
    | _ => exact ⟨[], simple_of_isFlat h hflat (by simp)⟩

end Value

end ValueSets
