import ValueSets.Proofs.Session.FailedCalls

/-!
# Frames

What an instruction leaves as it is. An instruction that calls no changing method on a set leaves
all sets alone, and a set that it answers is a new one; one that does changes that set only, through
whatever variable it is seen. An instruction that fails leaves all sets alone, except that dropping
elements stops at the failing one, and has then dropped what those before it drop. So over a whole
run a set stays what it is until a changing method is called on it, and a set that was made from
others has nothing in common with them.
-/

set_option autoImplicit false

namespace ValueSets

open Session Value Act

variable {s t : Session} {i : Instruction} {v : Value} {h : Handle} {m : Method} {xs : List Value}
  {r : Except Fault Value} {c d : Collection} {k : Nat}

/-- Whether an instruction calls no changing method on the set in a place. -/
def Instruction.Spares (k : Nat) (s : Session) (i : Instruction) : Prop :=
  i.IsPlain s ∧ ∀ m h xs, i.change? s = some (m, h, xs) → h.index ≠ k

theorem Instruction.mutator?_of_change? (hsome : i.change? s = some (m, h, xs)) :
    i.step.mutator? = some m := by
  unfold change? at hsome
  split at hsome
  · obtain ⟨a, -, heq⟩ := Option.map_eq_some_iff.1 hsome
    cases heq
    assumption
  · cases hsome

namespace Session

theorem Sound.index_lt (hs : s.Sound) {name : String} (hvalue : s.value? name = some (.handle h)) :
    h.index < s.collections.length := by
  obtain ⟨c, hc, -⟩ := hs.exists_set (hs.value hvalue)
  exact (List.getElem?_eq_some_iff.1 hc).1

/-- The set that a variable holds is what is behind its handle. -/
theorem Sound.getElem?_collection (hs : s.Sound) (hh : (Value.handle h).Grounded s.classes) :
    s.collections[h.index]? = some (s.collection h) := by
  obtain ⟨c, hc, -, heq⟩ := hs.exists_set hh
  rw [heq, hc]

/-! ## One instruction -/

/-- An instruction that calls no changing method on a set leaves all sets alone. -/
theorem Sound.frame_of_change?_eq_none (hs : s.Sound) (hi : i.IsPlain s)
    (hnone : i.change? s = none) :
    (∀ k < s.collections.length, (s.after i).collections[k]? = s.collections[k]?) ∧
    (∀ fault, i.answer s = .error fault → (s.after i).collections = s.collections) ∧
    ∀ h, i.step.mutator? = none → i.step.isAlias = false → i.answer s = .ok (.handle h) →
      ∃ c, (s.after i).collections = s.collections ++ [c] ∧
        h = ⟨s.collections.length, c.cls⟩ := by
  unfold Instruction.answer
  cases hattempt : outcome i.attempt s.begun with
  | mk r t =>
    rcases attempt_of_change?_eq_none hs hi hnone hattempt with ⟨ht, hv⟩ | ⟨v, rfl, hadds⟩
    · obtain ⟨-, hafter⟩ :=
        after_of_attempt hattempt ht.sound fun v hr => ht.classes_eq ▸ (hv v hr).1
      rw [hafter, ht.collections]
      refine ⟨fun _ _ => rfl, fun _ _ => rfl, fun h hm halias hr => ?_⟩
      exact absurd rfl ((hv _ hr).2 ⟨hm, halias⟩ h)
    · obtain ⟨-, hafter⟩ := after_of_attempt hattempt hadds.sound fun w hw => by
        cases hw
        exact .inl hadds.grounded
      rw [hafter]
      have hfails : ∀ fault, (Except.ok v : Except Fault Value) ≠ .error fault := by simp
      refine ⟨fun k hk => hadds.getElem?_eq hk, fun fault hr => absurd hr (hfails fault),
        fun h _ _ hr => ?_⟩
      cases hr
      obtain ⟨c, hadded, heq⟩ := hadds.added
      cases heq
      exact ⟨c, hadded, rfl⟩

/-- What an instruction that calls a changing method on a set by key leaves of the set if it
fails. -/
theorem Sound.leftBy_of_change?_eq_some (hs : s.Sound) (hsome : i.change? s = some (m, h, xs))
    (hc : s.Behind h c) (hkeyed : c.cls.isKeyed = true)
    (hattempt : outcome i.attempt s.begun = (r, t))
    (hd : t.collections = s.collections.set h.index d) {fault : Fault} (hr : r = .error fault) :
    c.LeftBy m xs fault d := by
  obtain ⟨args, named, u, hu, hargs, hnamed, hm, hreceiver, hstep⟩ :=
    exists_step_of_change?_eq_some hs hsome
  have hh := Step.grounded_receiver? hs hargs hnamed hreceiver
  -- evaluating the arguments leaves the sets alone, so the call meets the set `c` as it was
  have hcu := hu.behind hh
  have hcollection : u.collection h = c := Option.some.inj (hcu.found.symm.trans hc.found)
  obtain ⟨e, he, hleft⟩ := Step.leaves_run hu hm hreceiver (hu.classes_eq ▸ hh)
    (hcu.proper.lawful (hcollection ▸ hkeyed))
  rw [← hstep, hattempt] at he hleft
  have hde : d = e := by
    have hlt := (List.getElem?_eq_some_iff.1 hc.found).1
    rw [hd, hu.collections] at he
    have hsame := congrArg (·[h.index]?) he
    simpa [List.getElem?_set_self hlt] using hsame
  rw [hde, ← hcollection]
  exact hleft fault hr

/-- An instruction that calls a changing method on a set puts one of the same class and
configuration in its place. -/
theorem Sound.frame_of_change?_eq_some (hs : s.Sound) (hsome : i.change? s = some (m, h, xs)) :
    ∃ c d, s.collections[h.index]? = some c ∧
      (s.after i).collections = s.collections.set h.index d ∧
      d.cls = c.cls ∧ d.config = c.config ∧
      (∀ name k, s.value? name = some (.handle k) →
        (s.after i).collection k = if k.index = h.index then d else s.collection k) ∧
      ∀ fault, i.answer s = .error fault → c.cls.isKeyed = true → c.LeftBy m xs fault d := by
  unfold Instruction.answer
  cases hattempt : outcome i.attempt s.begun with
  | mk r t =>
    obtain ⟨c, d, hc, hchanged, hv⟩ := attempt_of_change?_eq_some hs hsome hattempt
    obtain ⟨hsound, hafter⟩ := after_of_attempt hattempt hchanged.sound fun v hr =>
      .inl (hchanged.classes_eq hc ▸ hv v hr)
    have hclasses : (s.after i).classes = s.classes := by
      rw [← hchanged.classes_eq hc]
      unfold classes
      rw [hafter]
    refine ⟨c, d, hc.found, hafter.trans hchanged.collections, hchanged.cls, hchanged.config,
      fun name k hk => ?_, fun fault hr hkeyed =>
        hs.leftBy_of_change?_eq_some hsome hc hkeyed hattempt hchanged.collections hr⟩
    have hground := hs.value hk
    have hnew := hsound.getElem?_collection (hclasses ▸ hground)
    rw [hafter] at hnew
    split
    · rename_i heq
      rw [heq, hchanged.getElem?_self hc] at hnew
      exact (Option.some.inj hnew).symm
    · rename_i hne
      rw [hchanged.getElem?_of_ne (Ne.symm hne), hs.getElem?_collection hground] at hnew
      exact (Option.some.inj hnew).symm

/-! ## Runs -/

/-- An instruction that spares a set leaves it as it is. -/
theorem Sound.getElem?_after (hs : s.Sound) (hi : i.Spares k s) (hk : k < s.collections.length) :
    (s.after i).collections[k]? = s.collections[k]? := by
  cases hchange : i.change? s with
  | none => exact (hs.frame_of_change?_eq_none hi.1 hchange).1 k hk
  | some change =>
    obtain ⟨m, h, xs⟩ := change
    obtain ⟨c, d, -, hset, -⟩ := hs.frame_of_change?_eq_some hchange
    rw [hset, List.getElem?_set_ne (hi.2 m h xs hchange)]

/-- A run that spares a set leaves it as it is. -/
theorem Sound.getElem?_of_spared (hs : s.Sound) (ht : s.ReachesBy (Instruction.Spares k) t)
    (hk : k < s.collections.length) :
    t.Sound ∧ t.collections[k]? = s.collections[k]? := by
  induction ht with
  | refl => exact ⟨hs, rfl⟩
  | step _ hi ih =>
    obtain ⟨hsound, hsame⟩ := ih
    have hk' := (List.getElem?_eq_some_iff.1 (hsame.trans (List.getElem?_eq_getElem hk))).1
    exact ⟨(hsound.after hi.1).sound, (hsound.getElem?_after hi hk').trans hsame⟩

/-- In a reachable session an instruction leaves all sets alone and answers none but a new one,
unless it calls a changing method on a set. Then it changes that set only, through all variables
that hold it. If it fails for an element that was to be dropped, the set has lost exactly what
dropping the elements before that one drops, and if it fails for any other reason, the set stays as
it is. From then on a set stays what it is until a changing method is called on it. -/
theorem IsReachable.frame (hs : s.IsReachable) (hi : i.IsPlain s) :
    (∀ name h, s.value? name = some (.handle h) → h.index < s.collections.length) ∧
    (i.step.mutator? = none → i.change? s = none) ∧
    (i.change? s = none →
      (∀ k < s.collections.length, (s.after i).collections[k]? = s.collections[k]?) ∧
      (∀ fault, i.answer s = .error fault → (s.after i).collections = s.collections) ∧
      ∀ h, i.step.mutator? = none → i.step.isAlias = false → i.answer s = .ok (.handle h) →
        ∃ c, (s.after i).collections = s.collections ++ [c] ∧
          h = ⟨s.collections.length, c.cls⟩) ∧
    (∀ m h xs, i.change? s = some (m, h, xs) → i.step.mutator? = some m ∧
      ∃ c d, s.collections[h.index]? = some c ∧
        (s.after i).collections = s.collections.set h.index d ∧
        d.cls = c.cls ∧ d.config = c.config ∧
        (∀ name k, s.value? name = some (.handle k) →
          (s.after i).collection k = if k.index = h.index then d else s.collection k) ∧
        ∀ fault, i.answer s = .error fault → c.cls.isKeyed = true →
          (∀ x, m = .delete → fault = .unhashable x → c.DroppedUpTo xs x d) ∧
          ((∀ x, m = .delete → fault ≠ .unhashable x) → d = c)) ∧
    ∀ k t, k < (s.after i).collections.length →
      (s.after i).ReachesBy (Instruction.Spares k) t →
      t.collections[k]? = (s.after i).collections[k]? := by
  have hsound := hs.sound
  refine ⟨fun name h => hsound.index_lt, Instruction.change?_eq_none,
    hsound.frame_of_change?_eq_none hi, fun m h xs hsome => ?_, fun k t hk ht => ?_⟩
  · obtain ⟨c, d, hc, hset, hcls, hconfig, hseen, hleft⟩ := hsound.frame_of_change?_eq_some hsome
    refine ⟨Instruction.mutator?_of_change? hsome, c, d, hc, hset, hcls, hconfig, hseen,
      fun fault hfault hkeyed => ?_⟩
    have hleft := hleft fault hfault hkeyed
    exact ⟨hleft.dropped, hleft.kept⟩
  · exact ((hsound.after hi).sound.getElem?_of_spared ht hk).2

/-- Dropping stops at a list, and what it did by then is seen through both variables. -/
theorem frame_of_failed_delete :
    let s := (({} : Session).after
      { step := .construct .inMemory, args := [.level .low, .level .mid],
        target? := some "a" }).after
      { step := .alias "a", target? := some "b" }
    let i : Instruction :=
      { step := .call .delete "b", args := [.level .low, .list [], .level .mid] }
    ∃ h c d, s.value? "a" = some (.handle h) ∧ s.collections = [c] ∧ d.size < c.size ∧
      i.answer s = .error (.unhashable (.box ⟨0, .list⟩)) ∧ (s.after i).collection h = d ∧
      c.DroppedUpTo [.level .low, .box ⟨0, .list⟩, .level .mid] (.box ⟨0, .list⟩) d := by
  intro s i
  have hs : s.IsReachable :=
    .step (.step .refl (Instruction.isPlain_of_no_config (by simp) Collection.hasPlainConfig_nil))
      (Instruction.isPlain_of_no_config (by simp) trivial)
  have hi : i.IsPlain s := Instruction.isPlain_of_no_config List.not_mem_nil trivial
  have ha : s.value? "a" = some (.handle ⟨0, .inMemory⟩) := rfl
  have hanswer : i.answer s = .error (.unhashable (.box ⟨0, .list⟩)) := rfl
  have hchange : i.change? s = some (.delete, ⟨0, .inMemory⟩,
      [.level .low, .box ⟨0, .list⟩, .level .mid]) := rfl
  have hsets : s.collections =
      [⟨.inMemory, { identity := 1, settings := {} }, [.level .low, .level .mid], none⟩] := rfl
  have hsizes : (s.after i).collections.map Collection.size = [1] := rfl
  obtain ⟨-, -, -, hchanges, -⟩ := hs.frame hi
  obtain ⟨-, c, d, hc, hset, -, -, hseen, hfails⟩ := hchanges _ _ _ hchange
  rw [hsets] at hc hset
  cases hc
  rw [hset] at hsizes
  have hsize : d.size = 1 := by simpa using hsizes
  refine ⟨_, _, d, ha, hsets, by rw [hsize]; decide, hanswer, hseen "a" _ ha, ?_⟩
  exact (hfails _ hanswer rfl).1 _ rfl rfl

end Session

end ValueSets
