import Mathlib
import ValueSets.Proofs.Failures
import ValueSets.Proofs.Session.Frame

/-!
# Copies of sets by key

A set that keeps its members by key is copied in one of two ways: its storage is taken as it is, or
its members are added to an empty set one after the other, as for all sets. The second way checks
the types of the members, hashes them and looks for their keys, and the first does nothing of that.
They agree since a set by key has only members that it takes, that are hashable and that have keys
of their own, so that all of them are added again, in their order (`Collection.Lawful.copy_eq`,
`Collection.Lawful.like_eq`). Its configuration has its identity already, so the copy shares it.

What is left is that a copy is a set of its own. Either way adds the set once more at the end of the
session (`Session.Sound.after_copy`), so the frame of an instruction says that each of them stays
what it is until that very set is changed. `Session.copies_agree` puts this together.
-/

set_option autoImplicit false

namespace ValueSets

open Session Value Act

variable {s t : Session} {i j : Instruction} {on : String} {h : Handle}

/-- A session with one set more. -/
def Session.adding (s : Session) (c : Collection) : Session :=
  { s with collections := s.collections ++ [c] }

/-- Whether an instruction copies the set in a variable, by its storage or by its members. -/
structure Instruction.Copies (on : String) (i : Instruction) : Prop where
  step : i.step = .call .copy on ∨ i.step = .derivedCopy on
  args : i.args = []
  named : i.named = []

/-! ## The two ways -/

namespace Act

/-- The set in a variable is taken into the session once more as it is. -/
theorem outcome_allocateCopy (ht : t.Sound) (hon : t.Holds on h) :
    outcome (allocateCopy (t.collection h)) t =
      (.ok ⟨t.collections.length, h.cls⟩, t.adding (t.collection h)) := by
  have hbehind := ht.behind (hon.grounded ht)
  have hsettled := hbehind.config.settled
  unfold allocateCopy
  rw [settleConfig_eq (ht.ownConfig h) hsettled, pure_bind, hbehind.cls]
  rfl

/-- A set by key that is copied by its storage is added once more. -/
theorem outcome_copy (ht : t.Sound) (hon : t.Holds on h) :
    outcome (call .copy on [] []) t =
      (.ok (.handle ⟨t.collections.length, h.cls⟩), t.adding (t.collection h)) := by
  rw [outcome_call_of_holds ht hon rfl]
  unfold callStored
  dsimp only
  rw [outcome_bind_of_ok (outcome_fetch h t), outcome_bind_of_ok (outcome_sameness t),
    (hon.lawful ht).copy_eq, outcome_bind_of_ok (outcome_ofExcept _ t), if_pos hon.keyed,
    outcome_bind_of_ok (outcome_allocateCopy ht hon)]
  rfl

/-- A set by key that is copied by its members is added once more. -/
theorem outcome_derivedCopy (ht : t.Sound) (hon : t.Holds on h) :
    outcome (do derivedCopy (← valueOf on)) t =
      (.ok (.handle ⟨t.collections.length, h.cls⟩), t.adding (t.collection h)) := by
  have hcopied : (t.collection h).derivedCopy t.sameness = .ok (t.collection h) :=
    (hon.lawful ht).like_eq t.sameness
  rw [outcome_bind_of_ok (outcome_valueOf hon.value)]
  unfold derivedCopy
  dsimp only
  have hbehind := ht.behind (hon.grounded ht)
  rw [outcome_bind_of_ok (outcome_fetch h t), outcome_bind_of_ok (outcome_sameness t), hcopied,
    outcome_answerSet ht.untouched fun c hc => ?_]
  · dsimp only
    rw [hbehind.cls]
    rfl
  · cases hc
    exact ⟨ht.ownConfig h, hbehind.config.settled⟩

end Act

namespace Instruction.Copies

theorem isPlain (hi : i.Copies on) (s : Session) : i.IsPlain s := by
  refine isPlain_of_no_config (by simp [hi.named]) ?_
  rcases hi.step with h | h <;> rw [h] <;> trivial

/-- An instruction that copies a set by key adds it once more and answers the new set. -/
theorem outcome_attempt (hi : i.Copies on) (ht : t.Sound) (hon : t.Holds on h) :
    outcome i.attempt t =
      (.ok (.handle ⟨t.collections.length, h.cls⟩), t.adding (t.collection h)) := by
  have hargs : outcome i.arguments t = (.ok ([], []), t) := by
    unfold arguments
    rw [hi.args, hi.named]
    rfl
  rw [Instruction.outcome_attempt, hargs]
  dsimp only
  rcases hi.step with hstep | hstep
  · rw [hstep]
    exact outcome_copy ht hon
  · rw [hstep]
    exact outcome_derivedCopy ht hon

end Instruction.Copies

namespace Session

/-- A copy of a set by key is the same set once more, at the end of the session, and the variable
still holds the first one unless the copy is put there. -/
theorem Sound.after_copy (hs : s.Sound) (hon : s.Holds on h) (hi : i.Copies on) :
    i.answer s = .ok (.handle ⟨s.collections.length, h.cls⟩) ∧ (s.after i).Sound ∧
      (s.after i).collections = s.collections ++ [s.collection h] ∧
      (i.target? ≠ some on → (s.after i).Holds on h) := by
  have hattempt := hi.outcome_attempt hs.like_begun.sound (hon.like hs.like_begun)
  rw [hon.collection_eq hs hs.like_begun] at hattempt
  obtain ⟨hextends, hgrounded⟩ := hs.attempt (hi.isPlain s) hattempt
  obtain ⟨hsound, hcollections⟩ := after_of_attempt hattempt hextends.sound hgrounded
  refine ⟨congrArg Prod.fst hattempt, hsound, hcollections, fun htarget => ⟨?_, hon.keyed⟩⟩
  rw [hs.value?_after (hi.isPlain s) htarget]
  exact hon.value

/-- Copying a set by key succeeds by its storage and by its members, and each way adds a set of the
same class and configuration that has the same members in the same order. The set and two of its
copies are equal, whichever is asked about which, and each of the three stays what it is, whatever
the session goes through, until a changing method is called on that very set. -/
theorem copies_agree (hs : s.IsReachable) (hon : s.Holds on h) (hi : i.Copies on)
    (hj : j.Copies on) (htarget : i.target? ≠ some on) :
    let t := s.after i
    let u := t.after j
    let c := s.collection h
    let k := s.collections.length
    let three : List Handle := [h, ⟨k, c.cls⟩, ⟨k + 1, c.cls⟩]
    i.answer s = .ok (.handle ⟨k, c.cls⟩) ∧ j.answer t = .ok (.handle ⟨k + 1, c.cls⟩) ∧
    h.index < k ∧ u.collections = s.collections ++ [c, c] ∧
    (∀ a ∈ three, ∀ b ∈ three,
      (u.collection a).equal u.sameness (u.collection b) = .ok true) ∧
    ∀ a ∈ three, ∀ w, u.ReachesBy (Instruction.Spares a.index) w →
      w.collections[a.index]? = some c := by
  intro t u c k three
  have hsound := hs.sound
  have hbehind := hsound.behind (hon.grounded hsound)
  have hcls : c.cls = h.cls := hbehind.cls
  have hlt : h.index < k := (List.getElem?_eq_some_iff.1 hbehind.found).1
  obtain ⟨hanswer, ht, hadded, hheld⟩ := hsound.after_copy hon hi
  -- the first copy leaves the set where it is, so the second one is made of the same
  have hcopied : t.collection h = c := ht.collection_of_getElem? (by
    rw [hadded, List.getElem?_append_left hlt]
    exact hbehind.found)
  obtain ⟨hanswer', hu, hadded', -⟩ := ht.after_copy (hheld htarget) hj
  have hsets : u.collections = s.collections ++ [c, c] := by
    rw [hadded', hcopied, hadded, List.append_assoc]
    rfl
  have hplace : ∀ a ∈ three, u.collections[a.index]? = some c := by
    intro a ha
    rw [hsets]
    rcases List.mem_cons.1 ha with rfl | ha
    · rw [List.getElem?_append_left hlt]
      exact hbehind.found
    · rw [List.mem_pair] at ha
      rcases ha with rfl | rfl <;> simp [k]
  have hequal : c.equal u.sameness c = .ok true :=
    (hon.lawful hsound).equal_of_holds_eq u.sameness (hon.lawful hsound) fun _ => rfl
  refine ⟨hcls ▸ hanswer, ?_, hlt, hsets, fun a ha b hb => ?_, fun a ha w hw => ?_⟩
  · rw [hanswer', hadded, List.length_append, hcls]
    rfl
  · rw [hu.collection_of_getElem? (hplace a ha), hu.collection_of_getElem? (hplace b hb)]
    exact hequal
  · have hin := (List.getElem?_eq_some_iff.1 (hplace a ha)).1
    rw [(hu.getElem?_of_spared hw hin).2, hplace a ha]

/-- A set of floats that has two different not-a-numbers is copied both ways, and the first copy is
cleared. The set and its other copy keep their members. -/
theorem copies_agree_of_nan :
    let s := ({} : Session).after
      { step := .construct .float, args := [.float .nan, .level .low, .float .nan],
        target? := some "a" }
    let i : Instruction := { step := .call .copy "a", target? := some "b" }
    let j : Instruction := { step := .derivedCopy "a", target? := some "c" }
    let e : Instruction := { step := .call .clear "b" }
    let u := (s.after i).after j
    let w := u.after e
    ∃ c, c.size = 3 ∧ s.collections = [c] ∧ u.collections = [c, c, c] ∧
      w.collections[0]? = some c ∧ w.collections[1]? = some c.cleared ∧
      w.collections[2]? = some c := by
  intro s i j e u w
  let h : Handle := ⟨0, .float⟩
  have hs : s.IsReachable :=
    .step .refl (Instruction.isPlain_of_no_config (by simp) Collection.hasPlainConfig_nil)
  have hon : s.Holds "a" h := ⟨by unfold s h; cbv, rfl⟩
  have hi : i.Copies "a" := ⟨.inl rfl, rfl, rfl⟩
  have hj : j.Copies "a" := ⟨.inr rfl, rfl, rfl⟩
  obtain ⟨-, -, -, hsets, -, hkept⟩ := copies_agree hs hon hi hj (by simp [i])
  have hone : s.collections = [s.collection h] := by unfold s h; cbv
  have hsize : (s.collection h).size = 3 := by unfold s h; cbv
  have hcls : (s.collection h).cls = .float := by unfold s h; cbv
  have hcleared : w.collections[1]? = some (s.collection h).cleared := by
    unfold w u s i j e h
    cbv
  have hplain : e.IsPlain u := Instruction.isPlain_of_no_config List.not_mem_nil trivial
  have hchange : e.change? u = some (.clear, ⟨1, .float⟩, []) := by
    unfold e u s i j
    cbv
  have hspared : ∀ k, k ≠ 1 → u.ReachesBy (Instruction.Spares k) w := by
    intro k hk
    refine .step .refl ⟨hplain, fun m g xs hsome => ?_⟩
    rw [hchange] at hsome
    cases hsome
    exact hk.symm
  refine ⟨_, hsize, hone, ?_, ?_, hcleared, ?_⟩
  · rw [hsets, hone]
    rfl
  · exact hkept h (by simp) w (hspared 0 (by decide))
  · exact hkept ⟨2, .float⟩ (by simp [hone, hcls]) w (hspared 2 (by decide))

end Session

end ValueSets
