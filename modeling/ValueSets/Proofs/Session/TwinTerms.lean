import ValueSets.Proofs.Session.Terms
import ValueSets.Proofs.Session.Twins

/-!
# Evaluating terms in twin sessions

A term has the same value in twin sessions, but for the classes of the sets in it. What is kept by
key in a table or a value set is hashable, so it holds no set and is the same.
-/

set_option autoImplicit false

namespace ValueSets

open Fallible Value Act

variable {known : List Config} {vars : List (String × Value)} {v : Value}

namespace Value

theorem familiar_of_unhashablePart (hv : v.Familiar known) {part : Value}
    (h : v.unhashablePart? = some part) : part.Familiar known := by
  have hall : ∀ {vs : List Value}, (∀ w ∈ vs, w.unhashablePart? = some part → part.Familiar known) →
      firstUnhashablePart? vs = some part → part.Familiar known := by
    intro vs hvs hpart
    induction vs with
    | nil => cases hpart
    | cons w ws ih =>
      unfold firstUnhashablePart? at hpart
      cases hw : w.unhashablePart? with
      | some p =>
        rw [hw] at hpart
        cases hpart
        exact hvs w (by simp) hw
      | none =>
        rw [hw] at hpart
        exact ih (fun u hu => hvs u (by simp [hu])) hpart
  induction hv with
  | tuple _ ih => exact hall (fun w hw hpart => ih w hw hpart) h
  | frozenSet _ ih => exact hall (fun w hw hpart => ih w hw hpart) h
  | list hitems =>
    cases h
    exact .list hitems
  | table hkeys hvalues =>
    cases h
    exact .table hkeys hvalues
  | set hitems =>
    cases h
    exact .set hitems
  | @flat w hflat hset hconfig =>
    cases w with
    | tuple | list | table | set | frozenSet => cases hflat
    | box | handle =>
      cases h
      exact .flat hflat hset hconfig
    | config c =>
      simp only [unhashablePart?, Option.map_eq_some_iff] at h
      obtain ⟨t, -, rfl⟩ := h
      exact .of_isFlat rfl (by simp) (by simp)
    | _ => cases h

theorem sameWords_typeName (hv : v.Familiar known) : SameWords v.typeName v.listed.typeName := by
  cases v with
  | handle h =>
    have hcls := hv.handle
    obtain ⟨k, cls⟩ := h
    cases hcls
    exact .plain
  | tuple | list | table | set | frozenSet =>
    simp only [listed_tuple, listed_list, listed_table, listed_set, listed_frozenSet]
    exact .refl _
  | _ => exact .refl _

/-- A value can be hashed where sets are lists exactly if it can be hashed. -/
theorem alike_requireHash (hv : v.Familiar known) :
    Fallible.Alike Fault.Alike (fun _ _ => v.Simple known) v.requireHash v.listed.requireHash := by
  unfold requireHash
  rw [unhashablePart?_listed]
  cases hpart : v.unhashablePart? with
  | none => exact .ok ⟨by simp [isHashable, hpart], hv⟩
  | some part =>
    exact .error (Fault.alike_noHash (sameWords_typeName (familiar_of_unhashablePart hv hpart)))

end Value

/-- Familiar values and the same ones where sets are kept as lists. -/
def Value.AllTwins (known : List Config) (vs ws : List Value) : Prop :=
  ws = vs.map listed ∧ ∀ v ∈ vs, v.Familiar known

/-- Entries with simple keys, which can be those of a table, and the same ones where sets are kept
as lists. -/
def Value.EntryTwins (known : List Config) (es fs : List (Value × Value)) : Prop :=
  fs = es.map listedEntry ∧ ∀ e ∈ es, e.1.Simple known ∧ e.2.Familiar known

namespace Members

theorem listedEntry_of_simple {e : Value × Value} (h : e.1.Simple known) :
    listedEntry e = (e.1, e.2.listed) := by
  unfold listedEntry
  rw [h.listed_eq]

/-- One entry is merged alike, since the keys are the same. -/
theorem mergeEntry_map_listed {merged : List (Value × Value)} {entry : Value × Value}
    (hmerged : ∀ e ∈ merged, e.1.Simple known) (hentry : entry.1.Simple known) :
    mergeEntry (merged.map listedEntry) (listedEntry entry) =
      (mergeEntry merged entry).map listedEntry := by
  have hkeys : (merged.map listedEntry).map (·.1) = merged.map (·.1) := by
    rw [List.map_map]
    refine List.map_congr_left fun e he => ?_
    simp only [Function.comp, listedEntry_of_simple (hmerged e he)]
  have hasked : ∀ (es : List (Value × Value)) (k : Value),
      (es.any fun e => e.1.sameKey k) = (es.map (·.1)).any fun v => v.sameKey k := by
    intro es k
    rw [List.any_map]
    rfl
  have hany : ((merged.map listedEntry).any fun e => e.1.sameKey (listedEntry entry).1) =
      merged.any fun e => e.1.sameKey entry.1 := by
    rw [hasked, hasked, hkeys, listedEntry_of_simple hentry]
  unfold mergeEntry
  rw [hany]
  split
  · rw [List.map_map, List.map_map]
    refine List.map_congr_left fun e he => ?_
    simp only [Function.comp, listedEntry_of_simple (hmerged e he), listedEntry_of_simple hentry]
    split
    · exact (listedEntry_of_simple (e := (e.1, entry.2)) (hmerged e he)).symm
    · exact (listedEntry_of_simple (hmerged e he)).symm
  · rw [List.map_append]
    rfl

/-- Tables are merged alike. -/
theorem mergeEntries_map_listed {es : List (Value × Value)}
    (hes : ∀ e ∈ es, e.1.Simple known ∧ e.2.Familiar known) :
    mergeEntries (es.map listedEntry) = (mergeEntries es).map listedEntry := by
  rw [mergeEntries_eq_foldl, mergeEntries_eq_foldl]
  -- along the fold the merged keys stay simple, which is what merging one more entry asks for
  suffices hfold : ∀ merged : List (Value × Value),
      (∀ e ∈ merged, e.1.Simple known ∧ e.2.Familiar known) →
      (es.map listedEntry).foldl mergeEntry (merged.map listedEntry) =
        (es.foldl mergeEntry merged).map listedEntry from hfold [] (by simp)
  induction es with
  | nil => exact fun merged _ => rfl
  | cons entry es ih =>
    intro merged hmerged
    have hentry := hes entry (by simp)
    rw [List.map_cons, List.foldl_cons, List.foldl_cons,
      mergeEntry_map_listed (fun e he => (hmerged e he).1) hentry.1]
    exact ih (fun e he => hes e (by simp [he])) _ (forall_mergeEntry hmerged hentry)

end Members

namespace Term

theorem together_readWhole (n : Int) :
    Together known vars (fun m m' => m' = m) (readWhole n) (readWhole n) := by
  unfold readWhole
  split
  · exact together_pure rfl
  · exact together_throw (Fault.IsFixed.alike rfl)

theorem together_readFraction (p : Int) (q : Nat) :
    Together known vars (fun r r' => r' = r) (readFraction p q) (readFraction p q) := by
  unfold readFraction
  refine (together_readWhole p).bind fun m m' hm => ?_
  refine (together_readWhole q).bind fun n n' hn => ?_
  rw [hm, hn]
  split
  · exact together_throw (Fault.IsFixed.alike rfl)
  · exact together_pure rfl

mutual

/-- A term has the same value in twin sessions. -/
theorem together_eval : (t : Term) → Together known vars (Value.Twins known) t.eval t.eval
  | .null | .bool _ | .color _ | .level _ | .type _ =>
    together_pure ⟨rfl, .of_isFlat rfl (by simp) (by simp)⟩
  | .int n => by
    refine (together_readWhole n).bind fun m m' hm => ?_
    rw [hm]
    exact together_freshFlat rfl (by simp) (by simp)
  | .fraction p q => by
    refine (together_readFraction p q).bind fun r r' hr => ?_
    rw [hr]
    exact together_freshFlat rfl (by simp) (by simp)
  | .float _ | .text _ | .symbol _ | .bytes _ => together_freshFlat rfl (by simp) (by simp)
  | .tuple items => by
    refine (together_evalAll items).bind fun vs ws hvs => ?_
    rw [hvs.1, ← listed_tuple]
    exact together_fresh (.tuple hvs.2)
  | .list items => by
    refine (together_evalAll items).bind fun vs ws hvs => ?_
    rw [hvs.1, ← listed_list]
    exact together_fresh (.list hvs.2)
  | .table entries => by
    refine (together_evalEntries entries).bind fun es fs hes => ?_
    have hmerged := forall_mergeEntries hes.2
    rw [hes.1, Members.mergeEntries_map_listed hes.2, ← listed_table]
    exact together_fresh (.table (fun e he => (hmerged e he).1.2) fun e he => (hmerged e he).2)
  | .set items => by
    refine (together_evalKeys items).bind fun vs ws hvs => ?_
    have heach : Slots.Each (Simple known) (Slots.ofKeys vs) := Slots.each_ofKeys hvs.2
    have hsame : (Slots.ofKeys vs).toSet.listed = (Slots.ofKeys vs).toSet := by
      unfold Slots.toSet
      rw [listed_set, map_listed fun v hv => (heach v hv).listed_eq]
    rw [hvs.1]
    exact together_freshSame hsame (.set fun v hv => (heach v hv).2)
  | .frozenSet items => by
    refine (together_evalKeys items).bind fun vs ws hvs => ?_
    have heach : Slots.Each (Simple known) (Slots.ofKeys vs) := Slots.each_ofKeys hvs.2
    have hsame : (Slots.ofKeys vs).toFrozenSet.listed = (Slots.ofKeys vs).toFrozenSet := by
      unfold Slots.toFrozenSet
      rw [listed_frozenSet, map_listed fun v hv => (heach v hv).listed_eq]
    rw [hvs.1]
    exact together_freshSame hsame (.frozenSet fun v hv => (heach v hv).2)
  | .named name => by
    unfold eval
    refine together_get.bind fun s t hst => ?_
    rw [(hst.value? name).1, (hst.value? name).2]
    cases hv : vars.lookup name with
    | none => exact together_throw (Fault.IsFixed.alike rfl)
    | some v => exact together_pure ⟨rfl, hst.bound (name, v) (mem_of_lookup hv)⟩

theorem together_evalAll : (ts : List Term) →
    Together known vars (Value.AllTwins known) (evalAll ts) (evalAll ts)
  | [] => together_pure ⟨rfl, by simp⟩
  | t :: ts => by
    refine (together_eval t).bind fun v w hv => ?_
    refine (together_evalAll ts).bind fun vs ws hvs => together_pure ⟨?_, ?_⟩
    · rw [hv.1, hvs.1]
      rfl
    · exact List.forall_mem_cons.2 ⟨hv.2, hvs.2⟩

theorem together_evalKeys : (ts : List Term) →
    Together known vars (fun vs ws => ws = vs ∧ ∀ v ∈ vs, v.Simple known) (evalKeys ts)
      (evalKeys ts)
  | [] => together_pure ⟨rfl, by simp⟩
  | t :: ts => by
    refine (together_eval t).bind fun v w hv => ?_
    rw [hv.1]
    refine (together_ofExcept (alike_requireHash hv.2)).bind fun _ _ hsimple => ?_
    refine (together_evalKeys ts).bind fun vs ws hvs => together_pure ⟨?_, ?_⟩
    · rw [hsimple.listed_eq, hvs.1]
    · exact List.forall_mem_cons.2 ⟨hsimple, hvs.2⟩

theorem together_evalEntries : (es : List (Term × Term)) →
    Together known vars (Value.EntryTwins known) (evalEntries es) (evalEntries es)
  | [] => together_pure ⟨rfl, by simp⟩
  | (k, t) :: es => by
    refine (together_eval k).bind fun key key' hkey => ?_
    refine (together_eval t).bind fun v w hv => ?_
    rw [hkey.1]
    refine (together_ofExcept (alike_requireHash hkey.2)).bind fun _ _ hsimple => ?_
    refine (together_evalEntries es).bind fun rest rest' hrest => together_pure ⟨?_, ?_⟩
    · rw [hv.1, hrest.1]
      rfl
    · exact List.forall_mem_cons.2 ⟨⟨hsimple, hv.2⟩, hrest.2⟩

end

/-- Named arguments with familiar values, and the same ones where sets are kept as lists. -/
def NamedTwins (known : List Config) (named named' : List (String × Value)) : Prop :=
  named' = named.map (Prod.map id listed) ∧ ∀ b ∈ named, b.2.Familiar known

theorem together_evalNamed (ts : List (String × Term)) :
    Together known vars (NamedTwins known) (evalNamed ts) (evalNamed ts) := by
  induction ts with
  | nil => exact together_pure ⟨rfl, by simp⟩
  | cons entry ts ih =>
    obtain ⟨name, t⟩ := entry
    refine (together_eval t).bind fun v w hv => ih.bind fun rest rest' hrest => ?_
    refine together_pure ⟨?_, List.forall_mem_cons.2 ⟨hv.2, hrest.2⟩⟩
    rw [hv.1, hrest.1]
    rfl

end Term

theorem Act.together_arguments (i : Instruction) :
    Together known vars (fun a b => Value.AllTwins known a.1 b.1 ∧ Term.NamedTwins known a.2 b.2)
      i.arguments i.arguments := by
  unfold Instruction.arguments
  refine (Term.together_evalAll i.args).bind fun args args' hargs => ?_
  refine (Term.together_evalNamed i.named).bind fun named named' hnamed => ?_
  exact together_pure ⟨hargs, hnamed⟩

end ValueSets
