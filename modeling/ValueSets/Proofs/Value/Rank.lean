import Mathlib.Algebra.Order.Ring.Rat
import Mathlib.Data.String.Basic
import Mathlib.Data.Sum.Order
import Mathlib.Order.WithBot
import ValueSets.Proofs.ElementTypes

/-!
# The place of a value in the natural order

Numbers without the not-a-numbers are linearly ordered by size, and texts by their characters. Each
value of a kind is a number or a text, so its rank among all of these is an element of one linear
order: two such values are the same key exactly if they have the same rank (`sameKey_iff_rank`), and
a question of order between two numbers, or between two texts, is answered by their ranks
(`isOrdered_less_eq`) and never fails.

What is of a kind is decided by types. A type of a kind takes values of that kind only, or integers
where it is a real one (`Ty.kind?_of_takes`), and the members of a list with a common kind are all
numbers or all texts.
-/

set_option autoImplicit false

namespace ValueSets

namespace Magnitude

/-- The place of a size between the two infinities. A not-a-number has none. -/
def rank : Magnitude → WithBot (WithTop ℚ)
  | .exact q => ((q : WithTop ℚ) : WithBot (WithTop ℚ))
  | .posInf => ((⊤ : WithTop ℚ) : WithBot (WithTop ℚ))
  | .negInf | .nan _ => ⊥

variable {a b : Magnitude}

theorem less_eq_rank_lt (ha : a.isNan = false) (hb : b.isNan = false) :
    a.less b = decide (a.rank < b.rank) := by
  cases a <;> cases b <;> simp_all [isNan, less, rank]
  case exact.posInf q => exact decide_eq_true (WithBot.coe_lt_coe.2 (WithTop.coe_lt_top q))

theorem rank_inj (ha : a.isNan = false) (hb : b.isNan = false) : a.rank = b.rank ↔ a = b := by
  cases a <;> cases b <;> simp_all [isNan, rank]

end Magnitude

namespace Value

/-- The place of a number among the numbers, or of a text among the texts. All numbers stand before
all texts. -/
def rank (v : Value) : Lex (WithBot (WithTop ℚ) ⊕ String) :=
  match v.magnitude? with
  | some m => Sum.inlₗ m.rank
  | none => Sum.inrₗ (v.text?.getD "")

/-- Whether a value has a place in the natural order: it is a number or a text. -/
def IsRanked (v : Value) : Prop :=
  v.isNan = false ∧ (v.magnitude?.isSome = true ∨ v.text?.isSome = true)

/-- Whether all of some values are numbers, or all of them are texts. -/
def OfOneOrder (vs : List Value) : Prop :=
  (∀ v ∈ vs, v.magnitude?.isSome = true) ∨ ∀ v ∈ vs, v.text?.isSome = true

variable {v w : Value} {a b : Magnitude} {s t : String}

/-! ## Numbers and texts -/

theorem isFlat_of_magnitude? (hv : v.magnitude? = some a) : v.isFlat = true := by
  cases v <;> first | rfl | cases hv

theorem isFlat_of_text? (hv : v.text? = some s) : v.isFlat = true := by
  cases v <;> first | rfl | cases hv

theorem atom?_of_magnitude? (hv : v.magnitude? = some a) : v.atom? = some (.number a) := by
  cases v <;> simp_all [magnitude?, atom?]

theorem atom?_of_text? (hv : v.text? = some s) : v.atom? = some (.text s) := by
  cases v <;> simp_all [text?, atom?]

theorem magnitude?_of_text? (hv : v.text? = some s) : v.magnitude? = none := by
  cases v <;> simp_all [text?, magnitude?]

theorem isOrdered_of_magnitude? (o : Order) (same : Sameness)
    (held : Value → Value → Except Fault Bool) (hv : v.magnitude? = some a)
    (hw : w.magnitude? = some b) : isOrdered o same held v w = .ok (sizesOrdered o a b) := by
  cases v with
  | bool | int | float | fraction | level =>
    unfold isOrdered
    rw [hv, hw]
  | _ => cases hv

theorem isOrdered_of_text? (o : Order) (same : Sameness)
    (held : Value → Value → Except Fault Bool) (hv : v.text? = some s) (hw : w.text? = some t) :
    isOrdered o same held v w = .ok (textsOrdered o s t) := by
  have hnone := magnitude?_of_text? hv
  cases v with
  | text | symbol =>
    unfold isOrdered
    rw [hnone, hv, hw]
  | _ => cases hv

theorem isNan_of_magnitude? (hv : v.magnitude? = some a) : v.isNan = a.isNan := by
  unfold isNan
  rw [hv]

theorem rank_of_magnitude? (hv : v.magnitude? = some a) : v.rank = Sum.inlₗ a.rank := by
  unfold rank
  rw [hv]

theorem rank_of_text? (hv : v.text? = some s) : v.rank = Sum.inrₗ s := by
  unfold rank
  rw [magnitude?_of_text? hv, hv]
  rfl

/-! ## Ranks -/

theorem IsRanked.cases (hv : v.IsRanked) :
    (∃ a, v.magnitude? = some a ∧ a.isNan = false) ∨ ∃ s, v.text? = some s := by
  obtain ⟨hnan, hmagnitude | htext⟩ := hv
  · obtain ⟨a, ha⟩ := Option.isSome_iff_exists.1 hmagnitude
    exact .inl ⟨a, ha, (isNan_of_magnitude? ha).symm.trans hnan⟩
  · exact .inr (Option.isSome_iff_exists.1 htext)

/-- Ranked values are the same key exactly if they have the same rank. -/
theorem sameKey_iff_rank (hv : v.IsRanked) (hw : w.IsRanked) :
    v.sameKey w = true ↔ v.rank = w.rank := by
  rcases hv.cases with ⟨a, ha, hanan⟩ | ⟨s, hs⟩
  · rw [sameKey_of_isFlat (isFlat_of_magnitude? ha), atom?_of_magnitude? ha, rank_of_magnitude? ha]
    rcases hw.cases with ⟨b, hb, hbnan⟩ | ⟨t, ht⟩
    · rw [atom?_of_magnitude? hb, rank_of_magnitude? hb]
      simp [Magnitude.rank_inj hanan hbnan]
    · rw [atom?_of_text? ht, rank_of_text? ht]
      simp
  · rw [sameKey_of_isFlat (isFlat_of_text? hs), atom?_of_text? hs, rank_of_text? hs]
    rcases hw.cases with ⟨b, hb, hbnan⟩ | ⟨t, ht⟩
    · rw [atom?_of_magnitude? hb, rank_of_magnitude? hb]
      simp
    · rw [atom?_of_text? ht, rank_of_text? ht]
      simp

/-- The question of order never fails among values of one order. -/
theorem exists_isOrdered {vs : List Value} (h : OfOneOrder vs) (o : Order) (same : Sameness)
    (held : Value → Value → Except Fault Bool) :
    ∀ v ∈ vs, ∀ w ∈ vs, ∃ b, isOrdered o same held v w = .ok b := by
  intro v hv w hw
  rcases h with h | h
  · obtain ⟨a, ha⟩ := Option.isSome_iff_exists.1 (h v hv)
    obtain ⟨b, hb⟩ := Option.isSome_iff_exists.1 (h w hw)
    exact ⟨_, isOrdered_of_magnitude? o same held ha hb⟩
  · obtain ⟨s, hs⟩ := Option.isSome_iff_exists.1 (h v hv)
    obtain ⟨t, ht⟩ := Option.isSome_iff_exists.1 (h w hw)
    exact ⟨_, isOrdered_of_text? o same held hs ht⟩

/-- Among values of one order, the one of the smaller rank stands first. -/
theorem isOrdered_less_eq {vs : List Value} (h : OfOneOrder vs)
    (hnan : ∀ v ∈ vs, v.isNan = false) (same : Sameness)
    (held : Value → Value → Except Fault Bool) :
    ∀ v ∈ vs, ∀ w ∈ vs, isOrdered .less same held v w = .ok (decide (v.rank < w.rank)) := by
  intro v hv w hw
  rcases h with h | h
  · obtain ⟨a, ha⟩ := Option.isSome_iff_exists.1 (h v hv)
    obtain ⟨b, hb⟩ := Option.isSome_iff_exists.1 (h w hw)
    have hanan := (isNan_of_magnitude? ha).symm.trans (hnan v hv)
    have hbnan := (isNan_of_magnitude? hb).symm.trans (hnan w hw)
    rw [isOrdered_of_magnitude? .less same held ha hb, rank_of_magnitude? ha, rank_of_magnitude? hb]
    simp only [sizesOrdered, Order.answer, Magnitude.less_eq_rank_lt hanan hbnan,
      Sum.Lex.inl_lt_inl_iff]
  · obtain ⟨s, hs⟩ := Option.isSome_iff_exists.1 (h v hv)
    obtain ⟨t, ht⟩ := Option.isSome_iff_exists.1 (h w hw)
    rw [isOrdered_of_text? .less same held hs ht, rank_of_text? hs, rank_of_text? ht]
    simp only [textsOrdered, Order.answer, Sum.Lex.inr_lt_inr_iff]

theorem OfOneOrder.isRanked {vs : List Value} (h : OfOneOrder vs)
    (hnan : ∀ v ∈ vs, v.isNan = false) : ∀ v ∈ vs, v.IsRanked := by
  intro v hv
  rcases h with h | h
  · exact ⟨hnan v hv, .inl (h v hv)⟩
  · exact ⟨hnan v hv, .inr (h v hv)⟩

end Value

/-! ## Kinds -/

namespace Kind

variable {i j k l : Kind}

/-- Whether values of one kind are found among those of another: integers are found among the real
numbers. -/
def Covers (k j : Kind) : Prop := j = k ∨ k = .real ∧ j = .integer

instance (k j : Kind) : Decidable (k.Covers j) :=
  inferInstanceAs (Decidable (j = k ∨ k = .real ∧ j = .integer))

theorem Covers.refl (k : Kind) : k.Covers k := .inl rfl

theorem Covers.trans (hkj : k.Covers j) (hji : j.Covers i) : k.Covers i := by
  rcases hkj with rfl | ⟨rfl, rfl⟩
  · exact hji
  · rcases hji with rfl | ⟨h, -⟩
    · exact .inr ⟨rfl, rfl⟩
    · cases h

theorem Covers.isNumeric_eq (h : k.Covers j) : j.isNumeric = k.isNumeric := by
  rcases h with rfl | ⟨rfl, rfl⟩ <;> rfl

/-- Widening leads to a kind that covers both. -/
theorem covers_of_join? (h : i.join? j = some l) : l.Covers i ∧ l.Covers j := by
  revert h
  cases i <;> cases j <;> cases l <;> decide

theorem covers_of_extend? {seen : Option Kind} (h : extend? seen j = some l) :
    (∀ i, seen = some i → l.Covers i) ∧ l.Covers j := by
  cases seen with
  | none =>
    cases h
    exact ⟨by simp, .refl j⟩
  | some i =>
    obtain ⟨hi, hj⟩ := covers_of_join? h
    exact ⟨fun _ heq => Option.some.inj heq ▸ hi, hj⟩

end Kind

namespace Ty

variable {e t : Ty} {k : Kind}

/-- No type of real numbers is one of texts. -/
theorem not_isSubtypeOf_text (h : e.isSubtypeOf .real = true) : e.isSubtypeOf .text = false := by
  cases e with
  | sets c => simp [isSubtypeOf, above] at h
  | _ =>
    revert h
    decide

/-- What is below a type of a kind is of that kind, but for integers below the real numbers. The
truth values have no kind. -/
theorem kind?_of_isSubtypeOf (ht : t.kind? = some k) (h : e.isSubtypeOf t = true)
    (hbool : e.isSubtypeOf .bool = false) :
    ∃ j, e.kind? = some j ∧ k.Covers j := by
  unfold kind? at ht ⊢
  rw [hbool]
  simp only [Bool.false_eq_true, if_false]
  split at ht
  · cases ht
  · split at ht
    · rename_i htext
      cases ht
      rw [if_pos (isSubtypeOf_trans h htext)]
      exact ⟨_, rfl, .refl _⟩
    · split at ht
      · rename_i hintegral
        cases ht
        have hbelow := isSubtypeOf_trans h hintegral
        rw [not_isSubtypeOf_text (isSubtypeOf_trans hbelow (by decide)), if_pos hbelow]
        exact ⟨_, rfl, .refl _⟩
      · split at ht
        · rename_i hreal
          cases ht
          have hbelow := isSubtypeOf_trans h hreal
          rw [not_isSubtypeOf_text hbelow, if_pos hbelow]
          cases e.isSubtypeOf .integral with
          | true => exact ⟨_, rfl, .inr ⟨rfl, rfl⟩⟩
          | false => exact ⟨_, rfl, .refl _⟩
        · cases ht

/-- A type of a kind takes values of that kind only, or integers where it is a real one. -/
theorem kind?_of_takes {v : Value} (ht : t.kind? = some k) (hv : t.takes v = true) :
    ∃ j, v.kind? = some j ∧ k.Covers j := by
  cases hbool : v.isA .bool with
  | true =>
    -- a truth value is of no type of a kind that would take it
    rw [takes_of_isBool hbool, Bool.and_eq_true, Bool.not_eq_true'] at hv
    obtain ⟨hvt, hnumeric⟩ := hv
    have hbelow : Ty.bool.isSubtypeOf t = true := eq_bool_of_isSubtypeOf hbool ▸ hvt
    have hne : t ≠ .bool := by
      rintro rfl
      cases ht
    have hnumber := (isNumeric_or_isSubtypeOf_number hbelow hne).resolve_left (by simp [hnumeric])
    simp only [isSubtypeOf, above, Bool.or_eq_true, beq_iff_eq, List.contains_iff_mem,
      List.mem_singleton] at hnumber
    rcases hnumber with rfl | rfl
    all_goals cases ht
  | false =>
    rw [takes_of_not_isBool hbool, Bool.or_eq_true, Bool.and_eq_true, beq_iff_eq, beq_iff_eq] at hv
    rcases hv with hvt | ⟨hreal, hinteger⟩
    · exact kind?_of_isSubtypeOf ht hvt hbool
    · rw [hreal, Option.some.injEq] at ht
      exact ⟨_, hinteger, .inr ⟨ht.symm, rfl⟩⟩

end Ty

namespace Value

variable {v : Value} {k : Kind}

/-- A hashable value of a kind of numbers is a number, and one of the kind of strings is a text. -/
theorem ranked_of_kind? (hv : v.isHashable = true) (hk : v.kind? = some k) :
    if k.isNumeric then v.magnitude?.isSome = true else v.text?.isSome = true := by
  cases v with
  | box b => cases hv
  | handle h => cases hv
  | list | table | set => cases hv
  | config c => cases hk
  | type t =>
    have hnone : t.typeOf.kind? = none := by cases t <;> rfl
    exact absurd (hnone.symm.trans hk) (by simp)
  | bool | null | bytes | tuple | frozenSet | color => cases hk
  | int | level | float | fraction =>
    cases hk
    rfl
  | text | symbol =>
    cases hk
    rfl

/-- A walk over values ends with a kind that covers what was seen before and the kind of each value.
-/
theorem covers_of_commonKindFrom? {seen : Option Kind} {vs : List Value}
    (h : commonKindFrom? seen vs = some k) :
    (∀ i, seen = some i → k.Covers i) ∧ ∀ v ∈ vs, ∃ j, v.kind? = some j ∧ k.Covers j := by
  induction vs generalizing seen with
  | nil =>
    refine ⟨fun i hi => ?_, by simp⟩
    rw [show seen = some k from h, Option.some.injEq] at hi
    exact .inl hi.symm
  | cons v vs ih =>
    unfold commonKindFrom? at h
    split at h
    · cases h
    · rename_i current hcurrent
      split at h
      · cases h
      · rename_i kind hextend
        obtain ⟨hkind, hvs⟩ := ih h
        have hk := hkind kind rfl
        obtain ⟨hseen, hcovers⟩ := Kind.covers_of_extend? hextend
        refine ⟨fun i hi => hk.trans (hseen i hi), fun w hw => ?_⟩
        rcases List.mem_cons.1 hw with rfl | hw
        · exact ⟨current, hcurrent, hk.trans hcovers⟩
        · exact hvs w hw

/-- Hashable values that have a natural order are all numbers, or all texts. An element type that
decides so takes no others. -/
theorem ofOneOrder_of_hasNaturalOrder {vs : List Value} {elementType : Option Ty}
    (hhash : ∀ v ∈ vs, v.isHashable = true)
    (htakes : ∀ t, elementType = some t → ∀ v ∈ vs, t.takes v = true)
    (h : hasNaturalOrder vs elementType = true) : OfOneOrder vs := by
  have hkinds : ∃ k : Kind, ∀ v ∈ vs, ∃ j, v.kind? = some j ∧ k.Covers j := by
    cases elementType with
    | some t =>
      obtain ⟨k, hk⟩ := Option.isSome_iff_exists.1 h
      exact ⟨k, fun v hv => Ty.kind?_of_takes hk (htakes t rfl v hv)⟩
    | none =>
      obtain ⟨k, hk⟩ := Option.isSome_iff_exists.1 h
      exact ⟨k, (covers_of_commonKindFrom? hk).2⟩
  obtain ⟨k, hk⟩ := hkinds
  have hranked : ∀ v ∈ vs,
      if k.isNumeric then v.magnitude?.isSome = true else v.text?.isSome = true := by
    intro v hv
    obtain ⟨j, hj, hjk⟩ := hk v hv
    rw [← hjk.isNumeric_eq]
    exact ranked_of_kind? (hhash v hv) hj
  cases hnumeric : k.isNumeric with
  | true => exact .inl fun v hv => by simpa [hnumeric] using hranked v hv
  | false => exact .inr fun v hv => by simpa [hnumeric] using hranked v hv

end Value

end ValueSets
