import ValueSets.Decimal.Binary64

/-!
# Shortest decimal text of a binary64 number

A finite number is written with the fewest decimal digits that read back as that number; of several
such texts the nearest is taken, on a tie the one with an even last digit. `Decimal.digits?`
searches the grids of one to seventeen digits, and `Decimal.Layout` holds the choices of the format:
where positional notation ends and how an exponent is written. `Decimal.read?` is the reader.
-/

set_option autoImplicit false

namespace ValueSets.Decimal

/-- A power of ten. -/
def tenPow (k : Int) : Rat := (10 : Rat) ^ k

/-- The number of decimal digits of a natural number. -/
def digitCount (n : Nat) : Nat := (toString n).length

/-- The greatest number of digits of a whole number that is read or written. -/
def digitLimit : Nat := 4300

/-- The least whole number of more digits than are read or written. -/
def digitBound : Nat := Nat.pow 10 digitLimit

theorem le_digitBound {k : Nat} (hk : k ≤ digitLimit) : Nat.pow 10 k ≤ digitBound := by
  unfold digitBound
  generalize digitLimit = limit at hk
  exact Nat.pow_le_pow_right (by decide) hk

/-- The exponent `k` with `10 ^ k ≤ q < 10 ^ (k + 1)`, for a positive `q`. -/
def decimalExponent (q : Rat) : Int :=
  let guess : Int := (digitCount q.num.natAbs : Int) - (digitCount q.den : Int)
  if tenPow guess ≤ q then guess else guess - 1

/-- A positive decimal `significand * 10 ^ exponent`. -/
structure Digits where
  significand : Nat
  exponent : Int

/-- The rational a decimal denotes. -/
def Digits.toRat (d : Digits) : Rat := (d.significand : Rat) * tenPow d.exponent

/-- Whether a decimal reads back as the binary64 number `q`. -/
def Digits.readsBackAs (d : Digits) (q : Rat) : Bool :=
  Binary64.ofRat d.toRat == .finite q

/-- The neighbours of `q` among the decimals with `count` digits, the nearer one first. If both are
equally near, that is the one with an even significand. -/
def neighbours (q : Rat) (count : Nat) : List Digits :=
  let exponent := decimalExponent q - (count : Int) + 1
  let scaled := q / tenPow exponent
  let down := scaled.floor.toNat
  let below : Digits := ⟨down, exponent⟩
  let above : Digits := ⟨down + 1, exponent⟩
  let rest := scaled - down
  if rest < 1 / 2 || (rest == 1 / 2 && down % 2 == 0) then [below, above] else [above, below]

/-- The first decimal that reads back as `q`, over growing numbers of digits. -/
def digits? (q : Rat) : Option Digits :=
  (List.range 17).findSome? fun i =>
    (neighbours q (i + 1)).find? fun d => d.readsBackAs q

/-- The choices of a written format. -/
structure Layout where
  /-- The least scientific exponent written positionally. -/
  leastPositional : Int
  /-- The greatest scientific exponent written positionally. -/
  greatestPositional : Int
  /-- The least number of digits of a written exponent. -/
  exponentWidth : Nat

/-- Positional text ends below `10 ^ (-4)` and at `10 ^ 16`; exponents have two digits at least. -/
def plainLayout : Layout := ⟨-4, 15, 2⟩

/-- A text of `count` zeros. -/
def zeros (count : Nat) : String := String.ofList (List.replicate count '0')

/-- Positional text of the digits `ds` whose first digit stands for `10 ^ k`. A whole number keeps
one zero after the point. -/
def positional (ds : List Char) (k : Int) : String :=
  if k < 0 then "0." ++ zeros ((-k).toNat - 1) ++ String.ofList ds
  else
    let whole := k.toNat + 1
    if ds.length ≤ whole then String.ofList ds ++ zeros (whole - ds.length) ++ ".0"
    else String.ofList (ds.take whole) ++ "." ++ String.ofList (ds.drop whole)

/-- Text with an exponent: one digit before the point, the point only if more digits follow, and a
signed exponent. -/
def scientific (format : Layout) (ds : List Char) (k : Int) : String :=
  let fraction := if ds.length ≤ 1 then "" else "." ++ String.ofList (ds.drop 1)
  let size := toString k.natAbs
  let sign := if k < 0 then "-" else "+"
  let exponent := sign ++ zeros (format.exponentWidth - size.length) ++ size
  String.ofList (ds.take 1) ++ fraction ++ "e" ++ exponent

/-- Takes trailing zeros off a digit list. -/
def dropTrailingZeros (ds : List Char) : List Char :=
  (ds.reverse.dropWhile (· == '0')).reverse

/-- The text of a decimal in the given format. -/
def Digits.render (format : Layout) (d : Digits) : String :=
  let written := (toString d.significand).toList
  let k := d.exponent + (written.length : Int) - 1
  let ds := dropTrailingZeros written
  if format.leastPositional ≤ k ∧ k ≤ format.greatestPositional then positional ds k
  else scientific format ds k

/-- The shortest text of a positive finite number. -/
def renderPositive (q : Rat) : String :=
  match digits? q with
  | some d => d.render plainLayout
  | none => toString q.num ++ "/" ++ toString q.den

/-- The shortest text of a binary64 number. -/
def render : Binary64 → String
  | .finite q =>
    if q = 0 then "0.0"
    else if q < 0 then "-" ++ renderPositive (-q)
    else renderPositive q
  | .negZero => "-0.0"
  | .posInf => "inf"
  | .negInf => "-inf"
  | .nan => "nan"

/-- The value of a run of decimal digits; `none` at any other character. -/
def readNat? (cs : List Char) : Option Nat :=
  cs.foldlM (fun n c => if c.isDigit then some (10 * n + (c.toNat - 48)) else none) 0

/-- The value of a run of digits with an optional sign. -/
def readInt? : List Char → Option Int
  | '-' :: cs => (readNat? cs).map fun n => -(n : Int)
  | '+' :: cs => (readNat? cs).map fun n => (n : Int)
  | cs => (readNat? cs).map fun n => (n : Int)

/-- Reads digits, an optional fraction and an optional exponent as a nonnegative rational. -/
def readUnsigned? (cs : List Char) : Option Rat := do
  let mantissa := cs.takeWhile (· != 'e')
  let exponentPart := (cs.dropWhile (· != 'e')).drop 1
  let whole := mantissa.takeWhile (· != '.')
  let fraction := (mantissa.dropWhile (· != '.')).drop 1
  let significand ← readNat? (whole ++ fraction)
  let exponent ← readInt? exponentPart
  return (significand : Rat) * tenPow (exponent - (fraction.length : Int))

/-- Reads a decimal text as the nearest binary64 number. -/
def read? (text : String) : Option Binary64 :=
  match text.toList with
  | ['i', 'n', 'f'] => some .posInf
  | ['-', 'i', 'n', 'f'] => some .negInf
  | ['n', 'a', 'n'] => some .nan
  | '-' :: cs =>
    (readUnsigned? cs).map fun q => if q = 0 then .negZero else Binary64.ofRat (-q)
  | cs => (readUnsigned? cs).map Binary64.ofRat

end ValueSets.Decimal
