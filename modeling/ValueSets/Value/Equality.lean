import ValueSets.Value

/-!
# Key equality

Two values are the same key if they are one object or are equal. Values without parts are compared
by what they stand for: numbers by exact size, texts and symbols by their characters. Sequences are
compared item by item, tables and value sets by mutual inclusion. A not-a-number is the same key
only as the object it is, and a box or a set of this library likewise. `Value.sameKey` is what keyed
storage finds its members by.
-/

set_option autoImplicit false

namespace ValueSets

/-- What a value without parts stands for when values are compared. -/
inductive Atom where
  | null
  | number (m : Magnitude)
  | text (s : String)
  | bytes (bs : List UInt8)
  | color (c : Color)
  | type (t : Ty)
  | settings (s : Settings) (oddity? : Option Oddity)
  | box (index : Nat)
  | handle (index : Nat)
deriving DecidableEq

namespace Value

/-- What a value stands for, if it has no parts. -/
def atom? : Value → Option Atom
  | .null => some .null
  | .bool b => some (.number (.exact (if b then 1 else 0)))
  | .int n _ => some (.number (.exact n))
  | .float x identity => some (.number (x.magnitude identity))
  | .fraction q _ => some (.number (.exact q))
  | .level l => some (.number (.exact l.number))
  | .text s _ => some (.text s)
  | .symbol s _ => some (.text s)
  | .bytes bs _ => some (.bytes bs)
  | .color c => some (.color c)
  | .type t => some (.type t)
  | .config c => some (.settings c.settings c.oddity?)
  | .box b => some (.box b.index)
  | .handle h => some (.handle h.index)
  | .tuple _ _ | .list _ | .table _ | .set _ _ | .frozenSet _ _ _ => none

mutual

/-- Whether two values are the same key. -/
def sameKey : Value → Value → Bool
  | .tuple xs _, w => match w with
    | .tuple ys _ => sameKeys xs ys
    | _ => false
  | .list xs, w => match w with
    | .list ys => sameKeys xs ys
    | _ => false
  | .table es, w => match w with
    | .table fs => sameEntries es fs (fs.map fun _ => false)
    | _ => false
  | .set xs _, w => match w.setItems? with
    | some ys => sameItems xs ys (ys.map fun _ => false)
    | none => false
  | .frozenSet xs _ _, w => match w.setItems? with
    | some ys => sameItems xs ys (ys.map fun _ => false)
    | none => false
  | v, w => v.atom? == w.atom?
termination_by structural x => x

/-- Whether two sequences have the same keys place by place. -/
def sameKeys : List Value → List Value → Bool
  | [], ys => ys.isEmpty
  | x :: xs, ys => match ys with
    | [] => false
    | y :: ys => sameKey x y && sameKeys xs ys
termination_by structural x => x

/-- Whether each of the first values is the same key as one of the second, and each of the second is
one of the first. `met` says which of the second were met before. -/
def sameItems : List Value → List Value → List Bool → Bool
  | [], _, met => met.all id
  | x :: xs, ys, met =>
    let same := ys.map fun y => sameKey x y
    same.any id && sameItems xs ys (List.zipWith or met same)
termination_by structural x => x

/-- Whether each entry of the first table has a like entry in the second, and each of the second one
in the first. `met` says which of the second were met before. -/
def sameEntries : List (Value × Value) → List (Value × Value) → List Bool → Bool
  | [], _, met => met.all id
  | (k, v) :: es, fs, met =>
    let same := fs.map fun f => sameKey k f.1 && sameKey v f.2
    same.any id && sameEntries es fs (List.zipWith or met same)
termination_by structural x => x

end

/-- Whether one of the values is the same key as `x`. -/
def hasKey (x : Value) (vs : List Value) : Bool := vs.any fun v => v.sameKey x

/-- Whether each of the first values is the same key as one of the second. -/
def allAmong (xs ys : List Value) : Bool := xs.all fun x => ys.any fun y => x.sameKey y

/-- Whether two values are one object. -/
def isSameObject (v w : Value) : Bool :=
  match v, w with
  | .config c, .config d => c.identity == d.identity
  | v, w => v.identity == w.identity && v.typeOf == w.typeOf && v.sameKey w

end Value

end ValueSets
