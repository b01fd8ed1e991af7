import ValueSets.SetError
import ValueSets.Signature
import ValueSets.Text.Template

/-!
# Faults

Every reason for which an operation of the library fails, each with what its report needs. A fault
has a category, by which callers tell faults apart, and a message. The message of a rejected element
shows that element, so `Fault.message` takes the element's printed form from outside: a set of this
library can stand inside it.
-/

set_option autoImplicit false

namespace ValueSets

/-- A field of a configuration that was given an unusable value. -/
inductive FieldFault where
  /-- The element type is neither a type nor absent. -/
  | elementNotType
  /-- The listing choice is a text, bytes or integer that stands for no truth value. -/
  | listingUnreadable
  /-- The listing choice is of a form that never stands for a truth value. -/
  | listingNotBool

/-- Why an operation fails. -/
inductive Fault where
  /-- A set of class `cls`, restricted to `expected`, refused an element. -/
  | rejected (cls : SetClass) (value : Value) (expected : Ty)
  /-- A class that fixes its element type was configured with a type that does not fit. -/
  | classConflict (cls : SetClass) (fixed configured : Ty)
  /-- A value cannot be kept by key. -/
  | unhashable (value : Value)
  /-- A configuration names an element type whose values cannot be kept by key. -/
  | unhashableType (t : Ty)
  | emptySet
  | invalidFields (fields : List FieldFault)
  /-- A field of a configuration was assigned to. -/
  | frozen (field : String)
  | unboundVariable (name : String)
  /-- A part of a value cannot be hashed. -/
  | noHash (part : Value)
  /-- A value stands where a type is needed. -/
  | notType
  | noOperator (operator left right : String)
  | noOrder (operator left right : String)
  | noLength (typeName : String)
  | noAbsolute (typeName : String)
  | noNegation (typeName : String)
  | noItems (typeName : String)
  | typeHasNoItems (typeName : String)
  /-- A class of sets, given in its printed form, cannot be narrowed to a type of elements. -/
  | notNarrowable (literal : String)
  | noItemAt (sequence : Ty)
  /-- A sequence is asked for an item by a text. -/
  | placeNotWhole (sequence : Ty)
  /-- Bytes are asked whether they start with a text. -/
  | startNotBytes
  /-- A value is called that cannot be. -/
  | notCallable (typeName : String)
  /-- A table without a key, given in its printed form. -/
  | noEntry (key : String)
  | noField (typeName field : String)
  | typeHasNoField (typeName field : String)
  /-- A type that enumerates its values has none of a name. -/
  | noSuchValue (name : String)
  /-- A function of texts is used on something else. -/
  | notTextFor (function typeName : String)
  | template (fault : TemplateFault)
  | notIterable (typeName : String)
  /-- A value that can be neither asked for its items nor walked. -/
  | noContainment (typeName : String)
  | notContainedInText (typeName : String)
  | notContainedInBytes (typeName : String)
  | noByte
  /-- A type that enumerates its values is asked about something else. -/
  | notEnumerated (typeName enumType : String)
  /-- A whole number is too large for a binary64 number. -/
  | wholeTooLarge
  /-- A fraction is too large for a binary64 number. -/
  | fractionTooLarge
  /-- What a table is updated with has an item of a wrong length. -/
  | entryLength (index length : Nat)
  /-- What a table is updated with has an item without items of its own. -/
  | entryNotSequence (index : Nat)
  | notWhole (typeName : String)
  /-- The storage of the type `home` is to add all items of a value that has none. -/
  | notSpread (home : Ty) (typeName : String)
  /-- The type of a configuration is set to a value that is no type. -/
  | typeNotType (typeName : String)
  /-- The type of a configuration is set to one whose values cannot change. -/
  | typeNotMutable
  /-- The type of a configuration is set to one of values that are built otherwise. -/
  | typeNotAlike (name typeName : String)
  /-- The table of all fields of a configuration is set to a value that is no table. -/
  | fieldsNotTable (typeName : String)
  /-- The references to an object that do not keep it alive are set. -/
  | referencesFixed (typeName : String)
  /-- A field of a configuration is set that is computed. -/
  | computedField (field : String)
  /-- What names an enumerated value or what it stands for is set. -/
  | enumerationFixed (field : String)
  /-- A field is assigned to a type that cannot change. -/
  | typeFixed (typeName field : String)
  /-- An index that no list can have. -/
  | indexTooLarge
  /-- A whole number is spelled out with more digits than are read. -/
  | tooLongToRead (digits : Nat)
  /-- A whole number has more digits than are written. -/
  | tooLongToWrite
  /-- A fraction with the denominator zero. -/
  | noFraction (numerator : Int)
  | call (fault : CallFault)
  | noModule (name : String)
  | noSubmodule (name parent : String)
  /-- A name that a module does not define. -/
  | noDefinition (home name : String)
  /-- A name that a loader neither holds nor knows where to find. -/
  | notExported (home name : String)
  /-- A relative module path with nothing that it is relative to. -/
  | noBase (path : String)
  /-- A relative module path whose base is no text. -/
  | baseNotText
  /-- A relative module path that climbs above the outermost package. -/
  | aboveTop
  | emptyModuleName
  /-- A set is nested in itself. -/
  | endlessNesting

namespace Fault

/-- The categories of faults that callers tell apart. -/
inductive Category where
  | elementType
  | unhashable
  | emptySet
  | validation
  | unbound
  | type
  | index
  | key
  | field
  | missingModule
  | importing
  | value
  | overflow
  | division
  | memory
  | recursion
deriving DecidableEq, Repr

/-- The category of a fault. -/
def category : Fault → Category
  | .rejected .. | .classConflict .. => .elementType
  | .unhashable _ | .unhashableType _ => .unhashable
  | .emptySet => .emptySet
  | .invalidFields _ | .frozen _ => .validation
  | .unboundVariable _ => .unbound
  | .noItemAt _ => .index
  | .noEntry _ => .key
  | .noField .. | .typeHasNoField .. | .noSuchValue _ | .referencesFixed _
  | .computedField _ | .enumerationFixed _ | .noDefinition .. | .notExported .. => .field
  | .noModule _ | .noSubmodule .. => .missingModule
  | .aboveTop => .importing
  | .emptyModuleName | .entryLength .. | .noByte | .tooLongToRead _ | .tooLongToWrite => .value
  | .wholeTooLarge | .fractionTooLarge | .indexTooLarge => .overflow
  | .noFraction _ => .division
  | .template fault => match fault.category with
    | .type => .type
    | .value => .value
    | .overflow => .overflow
    | .memory => .memory
  | .endlessNesting => .recursion
  | _ => .type

end Fault

namespace FieldFault

/-- The sentence for a field, which names the field and the rule it breaks. -/
def message : FieldFault → String
  | .elementNotType => "element_type: is_type: Input should be a type"
  | .listingUnreadable =>
    "sorted_listing: bool_parsing: Input should be a valid boolean, unable to interpret input"
  | .listingNotBool => "sorted_listing: bool_type: Input should be a valid boolean"

end FieldFault

namespace Fault

/-- The error record that a failed set operation leaves, if it leaves one. `shown` is the printed
form of the element that a rejection is about. -/
def record? (shown : String) : Fault → Option SetError
  | .rejected _ value expected => some (.elementType value shown expected none)
  | .classConflict cls fixed configured =>
    some (.elementType (.type configured) configured.literal fixed (some (.text
      (cls.name ++ " holds '" ++ fixed.name ++ "' elements, cannot use element_type '"
        ++ configured.name ++ "'"))))
  | .unhashable value => some (.unhashable value none)
  | .unhashableType t =>
    some (.unhashable (.type t) (some (.text
      ("element_type '" ++ t.name ++ "' is not hashable and cannot be stored in a set"))))
  | .emptySet => some (.empty SetError.emptyMessage)
  | _ => none

/-- Whether a fault was found by a hash that failed. -/
def isFailedHash : Fault → Bool
  | .unhashable _ => true
  | _ => false

/-- The sentence about a whole number of too many digits. -/
def digitLimitMessage (detail : String) : String :=
  "Exceeds the limit (" ++ toString Decimal.digitLimit ++ " digits) for integer string conversion"
    ++ detail ++ "; use sys.set_int_max_str_digits() to increase the limit"

/-- The message of a fault that leaves no error record. -/
def message : Fault → String
  | .invalidFields fields => "; ".intercalate (fields.map FieldFault.message)
  | .frozen field => field ++ ": frozen_instance: Instance is frozen"
  | .unboundVariable name => name
  | .noHash part => "unhashable type: '" ++ part.typeName ++ "'"
  | .notType => "issubclass() arg 1 must be a class"
  | .noOperator operator left right =>
    "unsupported operand type(s) for " ++ operator ++ ": '" ++ left ++ "' and '" ++ right ++ "'"
  | .noOrder operator left right =>
    "'" ++ operator ++ "' not supported between instances of '" ++ left ++ "' and '" ++ right ++ "'"
  | .noLength typeName => "object of type '" ++ typeName ++ "' has no len()"
  | .noAbsolute typeName => "bad operand type for abs(): '" ++ typeName ++ "'"
  | .noNegation typeName => "bad operand type for unary -: '" ++ typeName ++ "'"
  | .noItems typeName => "'" ++ typeName ++ "' object is not subscriptable"
  | .typeHasNoItems typeName => "type '" ++ typeName ++ "' is not subscriptable"
  | .notNarrowable literal => literal ++ " is not a generic class"
  | .noItemAt sequence => match sequence with
    | .text | .symbol => "string index out of range"
    | .bytes => "index out of range"
    | t => t.name ++ " index out of range"
  | .placeNotWhole sequence => match sequence with
    | .text | .symbol => "string indices must be integers, not 'str'"
    | .bytes => "byte indices must be integers or slices, not str"
    | t => t.name ++ " indices must be integers or slices, not str"
  | .startNotBytes => "startswith first arg must be bytes or a tuple of bytes, not str"
  | .notCallable typeName => "'" ++ typeName ++ "' object is not callable"
  | .noEntry key => key
  | .noField typeName field => "'" ++ typeName ++ "' object has no attribute '" ++ field ++ "'"
  | .typeHasNoField typeName field =>
    "type object '" ++ typeName ++ "' has no attribute '" ++ field ++ "'"
  | .noSuchValue name => name
  | .notTextFor function typeName =>
    "descriptor '" ++ function ++ "' for 'str' objects doesn't apply to a '" ++ typeName
      ++ "' object"
  | .template fault => fault.message
  | .notIterable typeName => "'" ++ typeName ++ "' object is not iterable"
  | .noContainment typeName => "argument of type '" ++ typeName ++ "' is not iterable"
  | .notContainedInText typeName =>
    "'in <string>' requires string as left operand, not " ++ typeName
  | .notContainedInBytes typeName => "a bytes-like object is required, not '" ++ typeName ++ "'"
  | .noByte => "byte must be in range(0, 256)"
  | .notEnumerated typeName enumType =>
    "unsupported operand type(s) for 'in': '" ++ typeName ++ "' and '" ++ enumType ++ "'"
  | .wholeTooLarge => "int too large to convert to float"
  | .fractionTooLarge => "integer division result too large for a float"
  | .entryLength index length =>
    "dictionary update sequence element #" ++ toString index ++ " has length " ++ toString length
      ++ "; 2 is required"
  | .entryNotSequence index =>
    "cannot convert dictionary update sequence element #" ++ toString index ++ " to a sequence"
  | .notWhole typeName => "'" ++ typeName ++ "' object cannot be interpreted as an integer"
  | .notSpread home typeName =>
    home.path ++ ".insert() argument after * must be an iterable, not " ++ typeName
  | .typeNotType typeName =>
    "__class__ must be set to a class, not '" ++ typeName ++ "' object"
  | .typeNotMutable =>
    "__class__ assignment only supported for mutable types or ModuleType subclasses"
  | .typeNotAlike name typeName =>
    "__class__ assignment: '" ++ name ++ "' object layout differs from '" ++ typeName ++ "'"
  | .fieldsNotTable typeName =>
    "__dict__ must be set to a dictionary, not a '" ++ typeName ++ "'"
  | .referencesFixed typeName =>
    "attribute '__weakref__' of '" ++ typeName ++ "' objects is not writable"
  | .computedField field =>
    "property '" ++ field ++ "' of '" ++ Ty.config.name ++ "' object has no setter"
  | .enumerationFixed field => "<enum 'Enum'> cannot set attribute '" ++ field ++ "'"
  | .typeFixed typeName field =>
    "cannot set '" ++ field ++ "' attribute of immutable type '" ++ typeName ++ "'"
  | .indexTooLarge => "Python int too large to convert to C ssize_t"
  | .tooLongToRead digits => digitLimitMessage (": value has " ++ toString digits ++ " digits")
  | .tooLongToWrite => digitLimitMessage ""
  | .noFraction numerator => "Fraction(" ++ toString numerator ++ ", 0)"
  | .call fault => fault.message
  | .noModule name => "No module named " ++ Text.quote name
  | .noSubmodule name parent =>
    "No module named " ++ Text.quote name ++ "; " ++ Text.quote parent ++ " is not a package"
  | .noDefinition home name => "module '" ++ home ++ "' has no attribute '" ++ name ++ "'"
  | .notExported home name => "module " ++ home ++ " has no attribute " ++ name
  | .noBase path =>
    "the 'package' argument is required to perform a relative import for " ++ Text.quote path
  | .baseNotText => "__package__ not set to a string"
  | .aboveTop => "attempted relative import beyond top-level package"
  | .emptyModuleName => "Empty module name"
  | .endlessNesting => "maximum recursion depth exceeded"
  | .rejected .. | .classConflict .. | .unhashable _ | .unhashableType _ | .emptySet => ""

end Fault

/-- The type of what a type of things that hold others yields when it is narrowed to some of them.
-/
def Ty.narrowedName? : Ty → Option String
  | .list | .tuple | .table | .set | .frozenSet | .type => some "types.GenericAlias"
  | .collection | .sets .inMemory => some "_GenericAlias"
  | _ => none

/-- The fault of asking a type for an item that it does not yield. A type that enumerates its values
has none of that name: `unlisted`. -/
def Ty.itemFault (unlisted : Fault) : Ty → Fault
  | .color | .level => unlisted
  | .sets c => .notNarrowable (Ty.sets c).literal
  | t => .typeHasNoItems t.reportedName

/-- The fault of asking a value for a field that it does not have. -/
def Value.missingField (field : String) : Value → Fault
  | .type .color | .type .level => .noSuchValue field
  | .type t => .typeHasNoField t.reportedName field
  | v => .noField v.typeName field

/-- Refuses a whole number that has too many digits to be written. -/
def checkDigits (n : Nat) : Except Fault Unit :=
  if n < Decimal.digitBound then .ok () else .error .tooLongToWrite

theorem checkDigits_eq_ok {n : Nat} : checkDigits n = .ok () ↔ n < Decimal.digitBound := by
  unfold checkDigits
  split
  · rename_i h
    exact ⟨fun _ => h, fun _ => rfl⟩
  · rename_i h
    refine ⟨fun hok => ?_, fun hlt => absurd hlt h⟩
    cases hok

/-- A number of a few digits is not refused. -/
theorem checkDigits_of_lt {n : Nat} (hn : n < 1000) : checkDigits n = .ok () := by
  have hbound : Nat.pow 10 3 ≤ Decimal.digitBound := Decimal.le_digitBound (by decide)
  exact checkDigits_eq_ok.2 (Nat.lt_of_lt_of_le hn hbound)

/-- The digits of a whole number, unless they are too many. -/
def wholeText (n : Int) : Except Fault String := do
  checkDigits n.natAbs
  return toString n

/-- The printed form of a value, unless a whole number in it has too many digits. The name of its
type stands for a box or a set of this library. -/
def Value.written (v : Value) : Except Fault String :=
  v.literalM wholeText (fun _ held => .ok held.heldLiteral) []

/-- Refuses a value that cannot be hashed, naming the part at fault. -/
def Value.requireHash (v : Value) : Except Fault Unit :=
  match v.unhashablePart? with
  | some part => .error (.noHash part)
  | none => .ok ()

end ValueSets
