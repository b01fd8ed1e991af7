/-!
# Exact sizes of numbers

All numeric values, whatever they are written as, are compared by their exact size: a rational
number, one of the two infinities, or a not-a-number. Two not-a-numbers are the same size only if
they are the same object, so each carries an identity.

`Magnitude.less` is the strict order. A not-a-number is below nothing and above nothing, and
`Magnitude.less_trichotomy` says that all other sizes are linearly ordered.
-/

set_option autoImplicit false

namespace ValueSets

/-- The exact size of a number. -/
inductive Magnitude where
  | exact (q : Rat)
  | posInf
  | negInf
  /-- Not a number; `identity` tells one such object from another. -/
  | nan (identity : Nat)
deriving DecidableEq

namespace Magnitude

/-- Whether the number has no place in the order. -/
def isNan : Magnitude → Bool
  | .nan _ => true
  | _ => false

/-- The strict order of sizes, false whenever a not-a-number takes part. -/
def less : Magnitude → Magnitude → Bool
  | .exact p, .exact q => p < q
  | .exact _, .posInf => true
  | .negInf, .exact _ => true
  | .negInf, .posInf => true
  | _, _ => false

/-- Any two numbers with a place in the order are equal or one is below the other. -/
theorem less_trichotomy {a b : Magnitude} (ha : a.isNan = false) (hb : b.isNan = false) :
    a.less b = true ∨ a = b ∨ b.less a = true := by
  cases a <;> cases b <;> simp_all [isNan, less]
  case exact.exact p q =>
    by_cases hpq : p < q
    · exact .inl hpq
    · by_cases hqp : q < p
      · exact .inr (.inr hqp)
      · exact .inr (.inl (Rat.le_antisymm (Rat.not_lt.1 hqp) (Rat.not_lt.1 hpq)))

end Magnitude

end ValueSets
