import ValueSets.Proofs.Session.Twins

/-!
# Answers of twin sessions

Once a step is taken, its value is written and put into a variable, or the fault that ended it is
reported. Twin sessions refuse to write the same values, and what they answer is alike.
-/

set_option autoImplicit false

namespace ValueSets

open Fallible Value

variable {known : List Config} {vars : List (String × Value)}

/-! ## Writing -/

theorem agree_checkDigits (n : Nat) :
    Agree Fault.IsFixed (checkDigits n) (checkDigits n) := by
  unfold checkDigits
  split
  · exact agree_ok ()
  · exact agree_error rfl

namespace Value

variable {checkHeld checkHeld' : Value → Except Fault Unit}

theorem agree_checkAllWritable {vs : List Value}
    (h : ∀ v ∈ vs, Agree Fault.IsFixed (v.checkWritable checkHeld)
      (v.listed.checkWritable checkHeld')) :
    Agree Fault.IsFixed (checkAllWritable checkHeld vs)
      (checkAllWritable checkHeld' (vs.map listed)) := by
  induction vs with
  | nil => exact agree_ok ()
  | cons v vs ih =>
    unfold checkAllWritable
    exact (h v (by simp)).bind fun _ _ => ih fun w hw => h w (by simp [hw])

theorem agree_checkEntriesWritable {es : List (Value × Value)}
    (hkeys : ∀ e ∈ es, Agree Fault.IsFixed (e.1.checkWritable checkHeld)
      (e.1.listed.checkWritable checkHeld'))
    (hvalues : ∀ e ∈ es, Agree Fault.IsFixed (e.2.checkWritable checkHeld)
      (e.2.listed.checkWritable checkHeld')) :
    Agree Fault.IsFixed (checkEntriesWritable checkHeld es)
      (checkEntriesWritable checkHeld' (es.map listedEntry)) := by
  induction es with
  | nil => exact agree_ok ()
  | cons e es ih =>
    obtain ⟨k, v⟩ := e
    refine (hkeys (k, v) (by simp)).bind fun _ _ => ?_
    refine (hvalues (k, v) (by simp)).bind fun _ _ => ?_
    exact ih (fun e he => hkeys e (by simp [he])) fun e he => hvalues e (by simp [he])

/-- A familiar value can be written where sets are lists exactly if it can be written, if that is so
of the boxes, sets and configurations in it. -/
theorem agree_checkWritable
    (hheld : ∀ v : Value, v.Familiar known → v.isFlat = true →
      Agree Fault.IsFixed (checkHeld v) (checkHeld' v.listed))
    {v : Value} (hv : v.Familiar known) :
    Agree Fault.IsFixed (v.checkWritable checkHeld) (v.listed.checkWritable checkHeld') := by
  induction hv with
  | tuple _ ih =>
    rw [listed_tuple]
    exact agree_checkAllWritable ih
  | list _ ih =>
    rw [listed_list]
    exact agree_checkAllWritable ih
  | table _ _ ihk ihv =>
    rw [listed_table]
    exact agree_checkEntriesWritable ihk ihv
  | set _ ih =>
    rw [listed_set]
    exact agree_checkAllWritable ih
  | frozenSet _ ih =>
    rw [listed_frozenSet]
    exact agree_checkAllWritable ih
  | @flat v hflat hset hconfig =>
    have hfamiliar : v.Familiar known := .flat hflat hset hconfig
    cases v with
    | tuple | list | table | set | frozenSet => cases hflat
    | box | handle | config => exact hheld _ hfamiliar rfl
    | int n => exact agree_checkDigits n.natAbs
    | fraction q =>
      exact (agree_checkDigits q.num.natAbs).bind fun _ _ => agree_checkDigits q.den
    | _ => exact agree_ok ()

end Value

namespace Session.Twins

variable {s t : Session} {v w : Value}

theorem agree_checkWritableTo (h : s.Twins known vars t) (depth : Nat) {v : Value}
    (hv : v.Familiar known) :
    Agree Fault.IsFixed (s.checkWritableTo depth v) (t.checkWritableTo depth v.listed) := by
  induction depth generalizing v with
  | zero => exact agree_error rfl
  | succ depth ih =>
    refine agree_checkWritable (fun held hheld hflat => ?_) hv
    cases held with
    | tuple | list | table | set | frozenSet => cases hflat
    | handle k =>
      have hstored := h.stored hheld.handle
      show Agree _ ((s.stored k).members.forM (s.checkWritableTo depth))
        ((t.stored ⟨k.index, .plain⟩).members.forM (t.checkWritableTo depth))
      rw [hstored.members]
      refine agree_forM fun m hm => ?_
      have hsimple := hstored.left.members m hm
      have hmember := ih hsimple.2
      rw [hsimple.listed_eq] at hmember
      exact hmember
    | config c =>
      show Agree _ (if (s.inside? c).isNone then .ok () else _)
        (if (t.inside? c).isNone then .ok () else _)
      rw [h.untouched.inside?_eq, h.untouched'.inside?_eq]
      exact agree_ok ()
    | _ =>
      obtain ⟨hlook, hfamiliar⟩ := h.look hheld
      have hlooked := ih hfamiliar
      rw [← hlook] at hlooked
      exact hlooked

/-- Twin sessions can write the same values. -/
theorem alike_write (h : s.Twins known vars t) (hvw : v.Twins known w) :
    Act.Alike known vars (Value.Twins known) (Act.outcome (Instruction.write v) s)
      (Act.outcome (Instruction.write w) t) := by
  have hchecked : Agree Fault.IsFixed (s.checkWritable v) (t.checkWritable w) := by
    unfold Session.checkWritable
    rw [h.depth_eq, hvw.1]
    exact h.agree_checkWritableTo s.depth hvw.2
  rw [Instruction.outcome_write, Instruction.outcome_write]
  obtain ⟨hsame, hfixed⟩ := hchecked
  rw [← hsame]
  refine ⟨h, ?_⟩
  cases hcheck : s.checkWritable v with
  | ok _ => exact .ok hvw
  | error fault => exact .error (hfixed fault hcheck).alike

/-! ## Variables -/

/-- Twin sessions stay twins if a variable gets twin values. -/
theorem bind (h : s.Twins known vars t) (name : String) (hvw : v.Twins known w) :
    (s.bind name v).Twins known (s.bind name v).bindings (t.bind name w) := by
  have hbindings : (t.bind name w).bindings =
      (s.bind name v).bindings.map (Prod.map id listed) := by
    have hasked : (t.bindings.any fun b => b.1 == name) = s.bindings.any fun b => b.1 == name := by
      rw [h.bindings', h.bindings, List.any_map]
      rfl
    unfold Session.bind
    dsimp only
    rw [hasked, h.bindings', h.bindings, hvw.1]
    split
    · rw [List.map_map, List.map_map]
      refine List.map_congr_left fun b _ => ?_
      show (if b.1 == name then (name, v.listed) else Prod.map id listed b) =
        Prod.map id listed (if b.1 == name then (name, v) else b)
      split <;> rfl
    · rw [List.map_append]
      rfl
  have hbound : ∀ b ∈ (s.bind name v).bindings, b.2.Familiar known := by
    intro b hb
    rcases Session.mem_bindings_bind hb with rfl | hb
    · exact hvw.2
    · exact h.bound b (h.bindings ▸ hb)
  exact { h with
    untouched := ⟨h.untouched.reached, h.untouched.fields⟩
    untouched' := ⟨h.untouched'.reached, h.untouched'.fields⟩
    bindings := rfl
    bindings' := hbindings
    bound := hbound }

end Session.Twins

end ValueSets
