import ValueSets.Proofs.Collection.Untyped
import ValueSets.Proofs.Session.Sound
import ValueSets.Proofs.Sorting.Agreement
import ValueSets.Proofs.Value.Listed
import ValueSets.Session.Call

/-!
# Simple values in a session

Simple values hold no box and no set, and their configurations are told apart by their identities.
So what a session answers about them does not depend on its sets: they are compared by their keys,
and ordered and printed alike in all sessions in which nothing was reached into.
-/

set_option autoImplicit false

namespace ValueSets

open Fallible Value

variable {known : List Config}

namespace Fault

/-- Whether a fault is the rejection of an element. -/
def isRejection : Fault → Bool
  | .rejected .. => true
  | _ => false

/-- A fault that is no rejection. Its report shows nothing that the session has to print. -/
def IsFixed (f : Fault) : Prop := f.isRejection = false

end Fault

/-! ## Sameness -/

section

variable {sameHeld : Sameness}

theorem allSameAs_eq {xs : List Value} (h : ∀ x ∈ xs, ∀ y, y.Simple known →
    sameAs sameHeld x y = .ok (x.sameKey y)) {ys : List Value} (hys : ∀ y ∈ ys, y.Simple known) :
    allSameAs sameHeld xs ys = .ok (sameKeys xs ys) := by
  induction xs generalizing ys with
  | nil => rfl
  | cons x xs ih =>
    cases ys with
    | nil => rfl
    | cons y ys =>
      unfold allSameAs sameKeys
      dsimp only
      rw [h x (by simp) y (hys y (by simp))]
      cases x.sameKey y with
      | true => exact ih (fun z hz => h z (by simp [hz])) fun z hz => hys z (by simp [hz])
      | false => rfl

/-- Simple values are compared by their keys if their configurations are. -/
theorem sameAs_eq (hheld : ∀ c ∈ known, ∀ w : Value, w.Simple known →
    sameHeld (.config c) w = .ok ((Value.config c).sameKey w)) {v w : Value} (hv : v.Simple known)
    (hw : w.Simple known) : sameAs sameHeld v w = .ok (v.sameKey w) := by
  induction v using inductionOn generalizing w with
  | tuple items identity ih =>
    cases w with
    | tuple ys j => exact allSameAs_eq (fun x hx y hy => ih x hx (hv.tuple x hx) hy) hw.tuple
    | _ => rfl
  | frozenSet items identity layout ih =>
    cases w with
    | box b => exact absurd rfl (hw.ne_box b)
    | _ => rfl
  | list | table | set => exact absurd hv.isHashable (by simp [isHashable, unhashablePart?])
  | flat v hflat =>
    cases v with
    | tuple | list | table | set | frozenSet => cases hflat
    | box b => exact absurd rfl (hv.ne_box b)
    | handle h => exact absurd rfl (hv.ne_handle h)
    | config c => exact hheld c hv.2.config w hw
    | _ => rfl

end

namespace Session

variable {s t : Session}

theorem Untouched.sameConfigs_eq (hs : s.Untouched) (hknown : Config.Apart known) {c d : Config}
    (hc : c ∈ known) (hd : d ∈ known) (same : Sameness) :
    s.sameConfigs same c d = .ok ((Value.config c).sameKey (.config d)) := by
  have hkey : (Value.config c).sameKey (.config d) = (c.settings == d.settings) := by
    rw [Bool.eq_iff_iff]
    simp [sameKey, atom?, hknown.even c hc, hknown.even d hd]
  unfold sameConfigs
  rw [hs.inside?_eq, hs.inside?_eq, hkey]
  rfl

/-- A session compares simple values by their keys. -/
theorem Untouched.sameness_isByKey (hs : s.Untouched) (hknown : Config.Apart known) :
    s.sameness.IsByKey (Simple known) := by
  intro v w hv hw
  unfold sameness
  obtain ⟨depth, hdepth⟩ := s.exists_depth
  rw [hdepth]
  refine sameAs_eq (fun c hc w hw => ?_) hv hw
  cases w with
  | config d =>
    have hd := hw.2.config
    cases hid : c.identity == d.identity with
    | true =>
      cases hknown.apart c hc d hd (beq_iff_eq.1 hid)
      simp [isSameObject, sameKey_refl]
    | false =>
      simp only [isSameObject, hid, Bool.false_eq_true, if_false]
      exact hs.sameConfigs_eq hknown hc hd _
  | box b => exact absurd rfl (hw.ne_box b)
  | handle h => exact absurd rfl (hw.ne_handle h)
  | _ => simp [isSameObject, sameKey, atom?]

/-! ## Order -/

section

variable {o : Order} {same same' : Sameness} {held held' : Value → Value → Except Fault Bool}

theorem agree_areOrdered (hsame : same.IsByKey (Simple known))
    (hsame' : same'.IsByKey (Simple known)) {xs : List Value} (h : ∀ x ∈ xs, ∀ y, y.Simple known →
      Agree Fault.IsFixed (Value.isOrdered o same held x y) (Value.isOrdered o same' held' x y))
    (hxs : ∀ x ∈ xs, x.Simple known) {ys : List Value} (hys : ∀ y ∈ ys, y.Simple known) :
    Agree Fault.IsFixed (areOrdered o same held xs ys) (areOrdered o same' held' xs ys) := by
  induction xs generalizing ys with
  | nil => exact agree_ok _
  | cons x xs ih =>
    cases ys with
    | nil => exact agree_ok _
    | cons y ys =>
      have hx := hxs x (by simp)
      have hy := hys y (by simp)
      unfold areOrdered
      dsimp only
      rw [hsame x y hx hy, hsame' x y hx hy]
      cases x.sameKey y with
      | true =>
        exact ih (fun z hz => h z (by simp [hz])) (fun z hz => hxs z (by simp [hz]))
          fun z hz => hys z (by simp [hz])
      | false => exact h x (by simp) y hy

/-- The answer about simple values is that of their own, and is no rejection. -/
theorem agree_isOrdered (hsame : same.IsByKey (Simple known))
    (hsame' : same'.IsByKey (Simple known)) {v w : Value} (hv : v.Simple known)
    (hw : w.Simple known) :
    Agree Fault.IsFixed (Value.isOrdered o same held v w) (Value.isOrdered o same' held' v w) := by
  have hrefused : ∀ left right, (Fault.noOrder o.sign left right).IsFixed := fun _ _ => rfl
  induction v using inductionOn generalizing w with
  | tuple items identity ih =>
    cases w with
    | tuple ys j =>
      exact agree_areOrdered hsame hsame' (fun x hx y hy => ih x hx (hv.tuple x hx) hy)
        hv.tuple hw.tuple
    | _ => exact agree_error (hrefused _ _)
  | frozenSet items identity layout ih =>
    unfold Value.isOrdered
    cases w with
    | box b => exact absurd rfl (hw.ne_box b)
    | frozenSet | set => exact agree_ok _
    | _ => exact agree_error (hrefused _ _)
  | list | table | set => exact absurd hv.isHashable (by simp [isHashable, unhashablePart?])
  | flat v hflat =>
    cases v with
    | tuple | list | table | set | frozenSet => cases hflat
    | box b => exact absurd rfl (hv.ne_box b)
    | handle h => exact absurd rfl (hv.ne_handle h)
    | bytes bs j =>
      cases w with
      | bytes cs k => exact agree_ok _
      | _ => exact agree_error (hrefused _ _)
    | _ =>
      unfold Value.isOrdered
      refine ⟨rfl, fun fault hfault => ?_⟩
      revert hfault
      split
      · intro hfault
        cases hfault
      · split
        · intro hfault
          cases hfault
        · split
          · intro hfault
            cases hfault
          · intro hfault
            cases hfault
            exact hrefused _ _

end

/-- Sessions in which nothing was reached into order simple values alike. -/
theorem Untouched.agree_isOrdered (hs : s.Untouched) (ht : t.Untouched)
    (hknown : Config.Apart known) (o : Order) :
    Sorting.AgreeOn Fault.IsFixed (Simple known) (s.isOrdered o) (t.isOrdered o) := by
  intro v w hv hw
  unfold isOrdered
  obtain ⟨depth, hdepth⟩ := s.exists_depth
  obtain ⟨depth', hdepth'⟩ := t.exists_depth
  rw [hdepth, hdepth']
  exact Session.agree_isOrdered (hs.sameness_isByKey hknown) (ht.sameness_isByKey hknown) hv hw

end Session

/-! ## Printing -/

namespace Act

variable {s : Session}

theorem outcome_map {α β : Type} {m : Act α} {e : Except Fault α} {t : Session} (f : α → β)
    (h : outcome m s = (e, t)) : outcome (f <$> m) s = (f <$> e, t) := by
  rw [map_eq_pure_bind, outcome_bind, h]
  cases e <;> rfl

/-- Parts that leave the session alone do so together. -/
theorem outcome_bind_of_eq {α β : Type} {m : Act α} {f : α → Act β} {e : Except Fault α}
    {g : α → Except Fault β} (hm : outcome m s = (e, s))
    (hf : ∀ a, outcome (f a) s = (g a, s)) : outcome (m >>= f) s = (e >>= g, s) := by
  rw [outcome_bind, hm]
  cases e with
  | error fault => rfl
  | ok a => exact hf a

section

variable {printWhole : Int → Act String} {printHeld : List Value → Value → Act String}

theorem outcome_literalsM {around vs : List Value}
    (h : ∀ v ∈ vs, ∀ around, outcome (literalM printWhole printHeld around v) s =
      (v.literalM wholeText (fun _ held => .ok held.heldLiteral) around, s)) :
    outcome (literalsM printWhole printHeld around vs) s =
      (literalsM wholeText (fun _ held => .ok held.heldLiteral) around vs, s) := by
  induction vs with
  | nil => rfl
  | cons v vs ih =>
    unfold literalsM
    refine outcome_bind_of_eq (h v (by simp) around) fun item => ?_
    exact outcome_bind_of_eq (ih fun w hw => h w (by simp [hw])) fun items => rfl

/-- A simple value is printed as it is written where its numbers and its configurations are. -/
theorem outcome_literalM (hwhole : ∀ n, outcome (printWhole n) s = (wholeText n, s))
    (hheld : ∀ around c, outcome (printHeld around (.config c)) s = (.ok c.literal, s)) {v : Value}
    (hv : v.Simple known) (around : List Value) :
    outcome (literalM printWhole printHeld around v) s =
      (v.literalM wholeText (fun _ held => .ok held.heldLiteral) around, s) := by
  induction v using inductionOn generalizing around with
  | tuple items identity ih =>
    unfold literalM
    split
    · rfl
    · exact outcome_map tupleLiteral (outcome_literalsM fun w hw => ih w hw (hv.tuple w hw))
  | frozenSet items identity layout ih =>
    exact outcome_map frozenSetLiteral (outcome_literalsM fun w hw => ih w hw (hv.frozenSet w hw))
  | list | table | set => exact absurd hv.isHashable (by simp [isHashable, unhashablePart?])
  | flat v hflat =>
    cases v with
    | tuple | list | table | set | frozenSet => cases hflat
    | box b => exact absurd rfl (hv.ne_box b)
    | handle h => exact absurd rfl (hv.ne_handle h)
    | config c => exact hheld around c
    | int n => exact hwhole n
    | fraction q =>
      refine outcome_bind_of_eq (hwhole q.num) fun numerator => ?_
      exact outcome_bind_of_eq (hwhole q.den) fun denominator => rfl
    | _ => rfl

end

/-- Printing a simple value needs one level of nesting only, since it holds no box and no set. -/
theorem outcome_printTo (hs : s.Untouched) {v : Value} (hv : v.Simple known) (depth : Nat)
    (around : List Value) : outcome (printTo (depth + 1) around v) s =
      (v.literalM wholeText (fun _ held => .ok held.heldLiteral) around, s) := by
  refine outcome_literalM (fun n => outcome_ofExcept _ s) (fun around c => ?_) hv around
  dsimp only
  rw [outcome_bind, outcome_get]
  simp only [hs.inside?_eq, outcome_pure]

/-- A simple value is printed as it is written, unless a number in it is too long. -/
theorem outcome_print (hs : s.Untouched) {v : Value} (hv : v.Simple known) :
    outcome (print v) s = (v.written, s) := by
  obtain ⟨depth, hdepth⟩ := s.exists_depth
  unfold print
  rw [outcome_bind, outcome_get]
  simp only [hdepth]
  exact outcome_printTo hs hv depth []

end Act

end ValueSets
