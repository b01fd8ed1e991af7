import ValueSets.Value.Equality
import ValueSets.Fault

/-!
# Comparing values

`Value.sameAs` is key equality with one addition: boxes, configurations and sets of this library are
compared by what they hold, which the caller decides and which may fail. `Value.isOrdered` answers
the four questions of order. Numbers, texts, bytes, sequences and value sets are ordered among
themselves, value sets by inclusion; all else has no order and is a fault. Sequences are ordered by
their first differing items. `Value.lessThan` is the order of values that hold neither boxes nor
sets of this library.
-/

set_option autoImplicit false

namespace ValueSets

/-- A way to tell whether two values are the same, which may fail. -/
abbrev Sameness := Value → Value → Except Fault Bool

/-- A way to tell whether one value stands before another, which may fail. -/
abbrev Precedence := Value → Value → Except Fault Bool

/-- Sameness by key alone, which never fails. -/
def Sameness.byKey : Sameness := fun v w => .ok (v.sameKey w)

namespace Value

section

variable (sameHeld : Sameness)

mutual

/-- Whether two values are one object or equal. If the first is a box, a configuration or a set of
this library, or the second is a box that a value set may equal, `sameHeld` decides. -/
def sameAs : Value → Value → Except Fault Bool
  | .box b, w => sameHeld (.box b) w
  | .handle h, w => sameHeld (.handle h) w
  | .config c, w => sameHeld (.config c) w
  | .frozenSet xs identity layout, w => match w with
    | .box b => sameHeld (.frozenSet xs identity layout) (.box b)
    | w => .ok ((Value.frozenSet xs identity layout).sameKey w)
  | .tuple xs _, w => match w with
    | .tuple ys _ => allSameAs xs ys
    | _ => .ok false
  | .list xs, w => match w with
    | .list ys => if xs.length == ys.length then allSameAs xs ys else .ok false
    | _ => .ok false
  | .table es, w => match w with
    | .table fs => if es.length == fs.length then entriesSameAs es fs else .ok false
    | _ => .ok false
  | v, w => .ok (v.sameKey w)
termination_by structural x => x

/-- Whether two sequences hold the same values place by place. -/
def allSameAs : List Value → List Value → Except Fault Bool
  | [], ys => .ok ys.isEmpty
  | x :: xs, ys => match ys with
    | [] => .ok false
    | y :: ys => do if ← sameAs x y then allSameAs xs ys else return false
termination_by structural x => x

/-- Whether each entry of the first table has its key in the second, with the same value. -/
def entriesSameAs : List (Value × Value) → List (Value × Value) → Except Fault Bool
  | [], _ => .ok true
  | (k, v) :: es, fs => match fs.find? fun f => f.1.sameKey k with
    | none => .ok false
    | some f => do if ← sameAs v f.2 then entriesSameAs es fs else return false
termination_by structural x => x

end

end

/-- Whether a value is a number that is not one. -/
def isNan (v : Value) : Bool :=
  match v.magnitude? with
  | some m => m.isNan
  | none => false

/-- Whether two values are equal. A not-a-number is the same as itself, but not equal to it. -/
def equals (same : Sameness) (v w : Value) : Except Fault Bool :=
  if v.isNan || w.isNan then .ok false else same v w

end Value

/-- The four questions of order. -/
inductive Order where
  | less
  | atMost
  | greater
  | atLeast
deriving DecidableEq, Repr

namespace Order

/-- The sign of a question. -/
def sign : Order → String
  | .less => "<"
  | .atMost => "<="
  | .greater => ">"
  | .atLeast => ">="

/-- The answer about two things of which the first is below, level with, or above the second, or
none of these. -/
def answer (o : Order) (below level above : Bool) : Bool :=
  match o with
  | .less => below
  | .atMost => below || level
  | .greater => above
  | .atLeast => above || level

end Order

namespace Value

/-- Whether one list of bytes stands before another. -/
def bytesBefore : List UInt8 → List UInt8 → Bool
  | _, [] => false
  | [], _ :: _ => true
  | b :: bs, c :: cs => if b == c then bytesBefore bs cs else b < c

/-- The answer about two sizes. Not-a-numbers are neither below, level with, nor above anything. -/
def sizesOrdered (o : Order) (a b : Magnitude) : Bool :=
  o.answer (a.less b) (a == b && !a.isNan) (b.less a)

/-- The answer about two texts. -/
def textsOrdered (o : Order) (s t : String) : Bool :=
  o.answer (decide (s < t)) (s == t) (decide (t < s))

/-- The answer about two lists of bytes. -/
def bytesOrdered (o : Order) (bs cs : List UInt8) : Bool :=
  o.answer (bytesBefore bs cs) (bs == cs) (bytesBefore cs bs)

/-- The answer about two value sets: a smaller set is below one that has all its members. -/
def setsOrdered (o : Order) (xs ys : List Value) : Bool :=
  o.answer (xs.length < ys.length && allAmong xs ys) (xs.length == ys.length && allAmong xs ys)
    (ys.length < xs.length && allAmong ys xs)

section

variable (o : Order) (same : Sameness) (ofHeld : Value → Value → Except Fault Bool)

mutual

/-- The answer about two values. If the first is a box or a set of this library, `ofHeld` gives it.
-/
def isOrdered : Value → Value → Except Fault Bool
  | .box b, w => ofHeld (.box b) w
  | .handle h, w => ofHeld (.handle h) w
  | .frozenSet xs identity layout, w => match w with
    | .box b => ofHeld (.frozenSet xs identity layout) (.box b)
    | w => match w.setItems? with
      | some ys => .ok (setsOrdered o xs ys)
      | none => .error (.noOrder o.sign "frozenset" w.typeName)
  | .tuple xs _, w => match w with
    | .tuple ys _ => areOrdered xs ys
    | _ => .error (.noOrder o.sign "tuple" w.typeName)
  | .list xs, w => match w with
    | .list ys => areOrdered xs ys
    | _ => .error (.noOrder o.sign "list" w.typeName)
  | .bytes bs _, w => match w with
    | .bytes cs _ => .ok (bytesOrdered o bs cs)
    | _ => .error (.noOrder o.sign "bytes" w.typeName)
  | v, w =>
    match v.magnitude?, w.magnitude? with
    | some a, some b => .ok (sizesOrdered o a b)
    | _, _ => match v.text?, w.text? with
      | some s, some t => .ok (textsOrdered o s t)
      | _, _ => match v.setItems?, w.setItems? with
        | some xs, some ys => .ok (setsOrdered o xs ys)
        | _, _ => .error (.noOrder o.sign v.typeName w.typeName)
termination_by structural x => x

/-- The answer about two sequences: that about their first differing items, else that about their
lengths. -/
def areOrdered : List Value → List Value → Except Fault Bool
  | [], ys => .ok (o.answer (!ys.isEmpty) ys.isEmpty false)
  | x :: xs, ys => match ys with
    | [] => .ok (o.answer false false true)
    | y :: ys => do if ← same x y then areOrdered xs ys else isOrdered x y
termination_by structural x => x

end

end

/-- Whether one value stands before another. Boxes and sets of this library stand before nothing. -/
def lessThan (same : Sameness) : Precedence :=
  isOrdered .less same fun v w => .error (.noOrder Order.less.sign v.typeName w.typeName)

end Value

end ValueSets
