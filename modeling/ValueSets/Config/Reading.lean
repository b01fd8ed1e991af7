import ValueSets.Fault

/-!
# Reading settings from values

A configuration is made from values that may be unusable. An element type is a type or absent. The
listing choice is a truth value, or one of the numbers and words that stand for one; a fraction is
rounded to binary64 first. All unusable fields are reported together, before an element type whose
values cannot be kept by key.
-/

set_option autoImplicit false

namespace ValueSets

namespace Settings

/-- The words for yes. -/
def trueWords : List String := ["1", "t", "y", "on", "yes", "true"]

/-- The words for no. -/
def falseWords : List String := ["0", "f", "n", "off", "no", "false"]

/-- The truth value that a word stands for, ASCII letters in either case. -/
def readWord (s : String) : Except FieldFault Bool :=
  if trueWords.contains s.toLower then .ok true
  else if falseWords.contains s.toLower then .ok false
  else .error .listingUnreadable

/-- The whole numbers that are read at all are those of 64 bits, with a sign. -/
def wholeBound : Int := Int.pow 2 63

/-- The truth value that a whole number stands for. -/
def readWhole (n : Int) : Except FieldFault Bool :=
  if n < -wholeBound || wholeBound ≤ n then .error .listingNotBool
  else if n = 1 then .ok true
  else if n = 0 then .ok false
  else .error .listingUnreadable

/-- The truth value that a binary64 number stands for. It must be whole, and the least whole number
of 64 bits is not reached. -/
def readNumber (x : Binary64) : Except FieldFault Bool :=
  match x.magnitude 0 with
  | .exact q =>
    if q.den = 1 && -wholeBound < q.num then readWhole q.num else .error .listingNotBool
  | _ => .error .listingNotBool

/-- The listing choice that a value stands for. -/
def readListing : Value → Except FieldFault Bool
  | .bool b => .ok b
  | .int n _ => readWhole n
  | .level l => readWhole l.number
  | .float x _ => readNumber x
  | .fraction q _ => readNumber (Binary64.ofRat q)
  | .text s _ => readWord s
  | .symbol s _ => readWord s
  | .bytes bs _ => readWord (String.ofList (bs.map fun b => Char.ofNat b.toNat))
  | _ => .error .listingNotBool

/-- The element type that a value stands for. -/
def readElementType : Value → Except FieldFault (Option Ty)
  | .null => .ok none
  | .type t => .ok (some t)
  | _ => .error .elementNotType

/-- The fault of a field, if it has one. -/
def fault? {α : Type} : Except FieldFault α → List FieldFault
  | .ok _ => []
  | .error fault => [fault]

/-- Settings read from the values of the two fields. -/
def read (elementType sortedListing : Value) : Except Fault Settings :=
  match readElementType elementType, readListing sortedListing with
  | .ok element, .ok sorted =>
    match element with
    | some t => if t.isHashable then .ok ⟨some t, sorted⟩ else .error (.unhashableType t)
    | none => .ok ⟨none, sorted⟩
  | element, sorted => .error (.invalidFields (fault? element ++ fault? sorted))

/-- Settings read from named values; a field that is not named keeps its usual value, and other
names are passed over. -/
def readNamed (named : List (String × Value)) : Except Fault Settings :=
  read ((named.lookup "element_type").getD .null)
    ((named.lookup "sorted_listing").getD (.bool true))

end Settings

end ValueSets
