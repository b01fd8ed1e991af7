import ValueSets.Magnitude

/-!
# Binary64 numbers, exactly

A finite binary64 number is kept as the rational it denotes; the negative zero, the infinities and
the not-a-numbers stand beside it. `Binary64.ofRat` rounds a rational to the nearest of them, a tie
going to the even significand, so no machine arithmetic takes part.
-/

set_option autoImplicit false

namespace ValueSets

/-- A binary64 number. `finite q` is used for the rationals that the format holds. -/
inductive Binary64 where
  | finite (q : Rat)
  | negZero
  | posInf
  | negInf
  /-- Not a number. -/
  | nan
deriving DecidableEq

namespace Binary64

/-- The exact size; both zeros are zero. `identity` is that of the object which is the number. -/
def magnitude (identity : Nat) : Binary64 → Magnitude
  | .finite q => .exact q
  | .negZero => .exact 0
  | .posInf => .posInf
  | .negInf => .negInf
  | .nan => .nan identity

/-- The nearest integer to a nonnegative rational, a half going to the even neighbour. -/
def roundHalfEven (q : Rat) : Nat :=
  let down := q.floor.toNat
  let rest := q - down
  if rest < 1 / 2 then down
  else if 1 / 2 < rest then down + 1
  else if down % 2 == 0 then down else down + 1

/-- The exponent `k` with `2 ^ k ≤ q < 2 ^ (k + 1)`, for a positive `q`. -/
def binaryExponent (q : Rat) : Int :=
  let guess : Int := (q.num.natAbs.log2 : Int) - (q.den.log2 : Int)
  if (2 : Rat) ^ guess ≤ q then guess else guess - 1

/-- The rational value of the nearest binary64 number to a positive `q`, the exponent unbounded
above. A significand has 53 bits and no step is finer than `2 ^ (-1074)`. -/
def nearest (q : Rat) : Rat :=
  let step : Rat := (2 : Rat) ^ max (binaryExponent q - 52) (-1074)
  (roundHalfEven (q / step) : Rat) * step

/-- The least power of two too large for the format. -/
def overflow : Rat := (2 : Rat) ^ (1024 : Nat)

/-- Rounds to the nearest binary64 number; past the largest one that is an infinity. A negative
number too small for the format becomes the negative zero. -/
def ofRat (q : Rat) : Binary64 :=
  if q = 0 then .finite 0
  else if 0 < q then
    let r := nearest q
    if overflow ≤ r then .posInf else .finite r
  else
    let r := nearest (-q)
    if overflow ≤ r then .negInf else if r = 0 then .negZero else .finite (-r)

/-- Change of sign; a not-a-number stays as it is. -/
def negate : Binary64 → Binary64
  | .finite q => if q = 0 then .negZero else .finite (-q)
  | .negZero => .finite 0
  | .posInf => .negInf
  | .negInf => .posInf
  | .nan => .nan

/-- The difference, rounded into the format. -/
def subtract : Binary64 → Binary64 → Binary64
  | .nan, _ => .nan
  | _, .nan => .nan
  | .posInf, .posInf => .nan
  | .negInf, .negInf => .nan
  | .posInf, _ => .posInf
  | .negInf, _ => .negInf
  | _, .posInf => .negInf
  | _, .negInf => .posInf
  | .finite p, .finite q => ofRat (p - q)
  | .finite p, .negZero => .finite p
  | .negZero, .finite q => if q = 0 then .negZero else .finite (-q)
  | .negZero, .negZero => .finite 0

/-- Distance from zero. -/
def absolute : Binary64 → Binary64
  | .finite q => .finite q.abs
  | .negZero => .finite 0
  | .posInf => .posInf
  | .negInf => .posInf
  | .nan => .nan

/-- The remainder of `q` after taking off whole multiples of a positive `m` toward the floor. -/
def floorRemainder (q m : Rat) : Rat := q - ((q / m).floor : Rat) * m

/-- The floored remainder by a positive `m`, rounded into the format. An infinity leaves no
number, and the result for a negative number that is all but a multiple may round up to `m`. -/
def remainder (m : Rat) : Binary64 → Binary64
  | .finite q => ofRat (floorRemainder q m)
  | .negZero => .finite 0
  | .posInf => .nan
  | .negInf => .nan
  | .nan => .nan

/-- Whether the number is neither of the zeros. -/
def isNonzero : Binary64 → Bool
  | .finite q => q ≠ 0
  | .negZero => false
  | _ => true

end Binary64

end ValueSets
