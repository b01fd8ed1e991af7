import ValueSets.Value.Literal

/-!
# Error records of sets

What a caller of the library gets to see of a failed set operation: a code, a message and details.
A record of an element that cannot be hashed, or of a wrong type, has a message of its own unless
the maker gives a nonempty one.
-/

set_option autoImplicit false

namespace ValueSets

/-- The classes of error records. All are records of sets in general. -/
inductive ErrorClass where
  | general
  | unhashable
  | elementType
  | empty
deriving DecidableEq, Repr

/-- The name of a class of error records. -/
def ErrorClass.name : ErrorClass → String
  | .general => "SetError"
  | .unhashable => "UnhashableElementError"
  | .elementType => "ElementTypeError"
  | .empty => "EmptySetError"

/-- The wider classes of failures that a class of error records belongs to. -/
def ErrorClass.families : ErrorClass → List String
  | .general => ["SetError"]
  | .unhashable => ["SetError", "TypeError"]
  | .elementType => ["SetError", "TypeError"]
  | .empty => ["SetError", "KeyError"]

/-- An error record. `expected?` is the type that an element of a wrong type should have had. -/
structure SetError where
  cls : ErrorClass
  code : Value
  message : Value
  details : Value
  expected? : Option Ty := none

namespace SetError

/-- A record with one text for each named detail. -/
def detailTable (entries : List (String × String)) : Value :=
  .table (entries.map fun e => (.text e.1, .text e.2))

/-- The name by which an unhashable value is reported: its own if it is a type, else that of its
type. -/
def reportedName : Value → String
  | .type t => t.name
  | v => v.typeName

/-- The record of a value that cannot be hashed, with the message given or the usual one. -/
def unhashable (value : Value) (message? : Option Value) : SetError where
  cls := .unhashable
  code := .text "UNHASHABLE_ELEMENT"
  message := message?.getD
    (.text ("Set elements must be hashable, got type '" ++ reportedName value ++ "'"))
  details := detailTable [("type", reportedName value)]

/-- The record of an element of a wrong type, with the message given or the usual one, which shows
the element's printed form. -/
def elementType (value : Value) (literal : String) (expected : Ty) (message? : Option Value) :
    SetError where
  cls := .elementType
  code := .text "ELEMENT_TYPE_MISMATCH"
  message := message?.getD
    (.text ("Expected element of type '" ++ expected.name ++ "', got " ++ literal ++ " of type '"
      ++ value.typeName ++ "'"))
  details := detailTable [("expected", expected.name), ("actual", value.typeName)]
  expected? := some expected

/-- The record of taking a member out of an empty set. -/
def empty (message : Value) : SetError where
  cls := .empty
  code := .text "EMPTY_SET"
  message := message
  details := .table []

/-- The usual message for taking a member out of an empty set. -/
def emptyMessage : Value := .text "pop from an empty set"

/-- A record with everything given. -/
def general (code message details : Value) : SetError where
  cls := .general
  code := code
  message := message
  details := details

/-- The record in one line. -/
def summary (e : SetError) : String := e.code.plainText ++ ": " ++ e.message.plainText

/-- The printed form of a record. Code and message stand between marks as they are. -/
def literal (e : SetError) : String :=
  e.cls.name ++ "(code='" ++ e.code.plainText ++ "', message='" ++ e.message.plainText ++ "')"

/-- The record as a table, in the order code, message, details. -/
def toTable (e : SetError) : Value :=
  .table [(.text "code", e.code), (.text "message", e.message), (.text "details", e.details)]

end SetError

end ValueSets
