import ValueSets.Value

/-!
# Hashes

The hash of a value is a whole number of 64 bits with a sign, never -1, and the same for all values
that are the same key. Numbers are hashed by their exact size: a quotient is divided modulo a prime.
Tuples and value sets are hashed by the hashes of their items, value sets without regard to order.
Of all other values only the empty texts and bytes have a hash that is settled in advance.
-/

set_option autoImplicit false

namespace ValueSets

namespace Hashing

/-- The prime modulo which the sizes of numbers are hashed. -/
def modulus : Nat := Nat.pow 2 61 - 1

/-- The hash of a number that no residue stands for: an infinity, or a quotient whose denominator
the prime divides. -/
def infinite : Nat := 314159

/-- A power modulo the prime. -/
def power (base exponent : Nat) : Nat :=
  if exponent = 0 then 1
  else
    let root := power (base * base % modulus) (exponent / 2)
    if exponent % 2 = 0 then root else base * root % modulus
termination_by exponent

/-- The hash next to one that is not allowed. -/
def allowed (h : Int) : Int := if h = -1 then -2 else h

/-- The hash of an exact number. A quotient is the product with the inverse of its denominator,
which is a power of it, since the modulus is prime. -/
def ofRat (q : Rat) : Int :=
  let size :=
    if q.den % modulus = 0 then infinite
    else q.num.natAbs * power (q.den % modulus) (modulus - 2) % modulus
  allowed (if q.num < 0 then -size else size)

/-- The hash of the size of a number. A not-a-number is hashed as the object that it is. -/
def ofMagnitude? : Magnitude → Option Int
  | .exact q => some (ofRat q)
  | .posInf => some infinite
  | .negInf => some (-infinite)
  | .nan _ => none

/-- The bits of a hash. -/
def word (h : Int) : UInt64 := UInt64.ofInt h

/-- The hash of some bits, unless they are not allowed. -/
def ofWord (instead : Int) (w : UInt64) : Int :=
  let h := w.toInt64.toInt
  if h = -1 then instead else h

/-- A word turned left by 31 places. -/
def turned (w : UInt64) : UInt64 := (w <<< 31) ||| (w >>> 33)

/-- The hash of a sequence: each item is mixed into the one word that is kept, and the length at
last. -/
def ofSequence (hashes : List Int) : Int :=
  let first : UInt64 := 11400714785074694791
  let second : UInt64 := 14029467366897019727
  let seed : UInt64 := 2870177450012600261
  let mixed := hashes.foldl (fun w h => turned (w + word h * second) * first) seed
  ofWord 1546275796 (mixed + (UInt64.ofNat hashes.length ^^^ (seed ^^^ 3527539)))

/-- Spreads the bits of a hash, so that hashes that are close to each other do not cancel out. -/
def spread (h : Int) : UInt64 :=
  let w := word h
  let shuffled : UInt64 := w ^^^ (89869747 : UInt64) ^^^ (w <<< 16)
  shuffled * 3644798167

/-- The hash of a value set: that of its items in any order. -/
def ofItems (hashes : List Int) : Int :=
  let all := hashes.foldl (fun w h => w ^^^ spread h) (0 : UInt64)
  let counted := all ^^^ ((UInt64.ofNat hashes.length + 1) * 1927868237)
  let mixed := counted ^^^ ((counted >>> 11) ^^^ (counted >>> 25))
  ofWord 590923713 (mixed * 69069 + 907133923)

end Hashing

namespace Value

mutual

/-- The hash of a value, if it is settled in advance. -/
def hash? : Value → Option Int
  | .text s _ => if s = "" then some 0 else none
  | .symbol s _ => if s = "" then some 0 else none
  | .bytes bs _ => if bs.isEmpty then some 0 else none
  | .tuple items _ => (hashes? items).map Hashing.ofSequence
  | .frozenSet items _ _ => (hashes? items).map Hashing.ofItems
  | v => match v.magnitude? with
    | some m => Hashing.ofMagnitude? m
    | none => none
termination_by structural x => x

/-- The hashes of several values, if all are settled in advance. -/
def hashes? : List Value → Option (List Int)
  | [] => some []
  | v :: vs => match hash? v, hashes? vs with
    | some h, some hs => some (h :: hs)
    | _, _ => none
termination_by structural x => x

end

end Value

end ValueSets
