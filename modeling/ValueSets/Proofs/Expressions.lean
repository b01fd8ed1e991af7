import ValueSets.Proofs.Collection.Algebra
import ValueSets.Proofs.Session.Reachable

/-!
# Expressions of sets

Terms that are built from sets by the operations of set algebra, nested to any depth. Where all sets
have one element type, such a term never fails to give a set, and that set has what the term says
with the operations read as those on truth values. So all laws of truth values are laws of sets: two
terms that no truth values tell apart give equal sets.

The proof is by induction on the term. What it carries along is that the set so far is lawful and of
the same element type, so that it takes the values that the other operand has.
-/

set_option autoImplicit false

namespace ValueSets

/-- A term of set algebra over the sets that `α` names. -/
inductive Expression (α : Type) where
  | leaf (name : α)
  | node (op : SetOperator) (left right : Expression α)

namespace Expression

variable {α : Type}

/-- The set that a term gives, operand by operand. -/
def eval (same : Sameness) (sets : α → Collection) : Expression α → Except Fault Collection
  | leaf name => .ok (sets name)
  | node op left right => do
    let c ← left.eval same sets
    let d ← right.eval same sets
    c.combine same op d

/-- The truth value that a term gives. -/
def denote (has : α → Bool) : Expression α → Bool
  | leaf name => has name
  | node op left right => op.keeps (left.denote has) (right.denote has)

variable {sets : α → Collection} {elementType : Option Ty}

/-- A term over lawful sets of one element type gives a lawful set of that element type, which has
what the term denotes. -/
theorem eval_lawful (same : Sameness) (hsets : ∀ name, (sets name).Lawful)
    (htype : ∀ name, (sets name).config.elementType = elementType) (t : Expression α) :
    ∃ r, t.eval same sets = .ok r ∧ r.Lawful ∧ r.config.elementType = elementType ∧
      ∀ x, r.holds x = t.denote fun name => (sets name).holds x := by
  induction t with
  | leaf name => exact ⟨sets name, rfl, hsets name, htype name, fun x => rfl⟩
  | node op left right ihleft ihright =>
    obtain ⟨c, hc, hclawful, hctype, hcholds⟩ := ihleft
    obtain ⟨d, hd, hdlawful, hdtype, hdholds⟩ := ihright
    have halike : ∀ y, d.takes y = c.takes y := Collection.takes_congr (hdtype.trans hctype.symm)
    obtain ⟨r, hr, hrlawful, hrconfig, hrholds⟩ := hclawful.combine_eq_ok same hdlawful halike op
    refine ⟨r, ?_, hrlawful, by rw [hrconfig, hctype], fun x => ?_⟩
    · unfold eval
      rw [hc, hd]
      exact hr
    · rw [hrholds x, hcholds x, hdholds x]
      rfl

/-- A term over sets of one element type gives a set. It has a hashable value exactly if the term
denotes so for the sets in it, and is equal to what any term gives that denotes the same. -/
theorem eval_denotes (same : Sameness) (hsets : ∀ name, (sets name).IsReachable)
    (htype : ∀ name, (sets name).config.elementType = elementType) (t : Expression α) :
    ∃ r, t.eval same sets = .ok r ∧
      (∀ x, x.isHashable = true → ∃ has : α → Bool,
        (∀ name, (sets name).has same x = .ok (has name)) ∧ r.has same x = .ok (t.denote has)) ∧
      ∀ u : Expression α, (∀ has, t.denote has = u.denote has) →
        ∃ q, u.eval same sets = .ok q ∧ r.equal same q = .ok true ∧ q.equal same r = .ok true := by
  have hlawful : ∀ name, (sets name).Lawful := fun name => (hsets name).lawful
  obtain ⟨r, hr, hrlawful, -, hrholds⟩ := eval_lawful same hlawful htype t
  refine ⟨r, hr, fun x hx => ?_, fun u hdenote => ?_⟩
  · refine ⟨fun name => (sets name).holds x, fun name => ?_, ?_⟩
    · exact (hlawful name).has_of_isHashable same hx
    · rw [hrlawful.has_of_isHashable same hx, hrholds x]
  · obtain ⟨q, hq, hqlawful, -, hqholds⟩ := eval_lawful same hlawful htype u
    have heq : ∀ x, r.holds x = q.holds x := fun x => by
      rw [hrholds x, hqholds x]
      exact hdenote _
    exact ⟨q, hq, hrlawful.equal_of_holds_eq same hqlawful heq,
      hqlawful.equal_of_holds_eq same hrlawful fun x => (heq x).symm⟩

/-- For two sets of whole numbers of different classes, a symmetric difference is what the union has
and the intersection lacks. -/
theorem eval_denotes_of_levels :
    let same : Sameness := fun x y => .ok (x.sameKey y)
    let config (identity : Nat) : Config := { identity, settings := { elementType := some .int } }
    let sets (name : Bool) : Collection :=
      if name then ⟨.int, config 2, [.level .low, .level .high], none⟩
      else ⟨.inMemory, config 1, [.level .mid, .level .low], none⟩
    let t := node .symmetricDifference (leaf false) (leaf true)
    let u := node .difference (node .union (leaf false) (leaf true))
      (node .intersection (leaf false) (leaf true))
    ∃ r q, t.eval same sets = .ok r ∧ u.eval same sets = .ok q ∧
      r.equal same q = .ok true ∧ q.equal same r = .ok true := by
  intro same config sets t u
  let s := (({} : Session).after
    { step := .construct .inMemory, args := [.level .mid, .level .low],
      named := [("element_type", .type .int)] }).after
    { step := .construct .int, args := [.level .low, .level .high] }
  have hs : s.IsReachable :=
    .step (.step .refl (Instruction.isPlain_of_no_config (by decide) Collection.hasPlainConfig_nil))
      (Instruction.isPlain_of_no_config (by decide) Collection.hasPlainConfig_nil)
  have hcollections : s.collections = [sets false, sets true] := rfl
  have hsets : ∀ name, (sets name).IsReachable := by
    intro name
    refine ⟨s, hs, ?_, ?_⟩
    · rw [hcollections]
      cases name <;> simp
    · cases name <;> rfl
  have htype : ∀ name, (sets name).config.elementType = some .int := by
    intro name
    cases name <;> rfl
  have hdenote : ∀ has, t.denote has = u.denote has := by
    intro has
    show (has false != has true) = ((has false || has true) && !(has false && has true))
    cases has false <;> cases has true <;> rfl
  obtain ⟨r, hr, -, hequal⟩ := eval_denotes same hsets htype t
  obtain ⟨q, hq, hrq, hqr⟩ := hequal u hdenote
  exact ⟨r, q, hr, hq, hrq, hqr⟩

end Expression

end ValueSets
