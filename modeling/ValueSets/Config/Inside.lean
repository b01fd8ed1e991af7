import ValueSets.Fault

/-!
# The inside of a configuration

The fields of a configuration cannot be assigned to, but what it keeps them in can be: the table of
its fields, further entries that are asked for names which the table does not have, what is private
to it, and the names of the fields that were set. A configuration that was reached into in this way
may lack a field, and a field may hold any value.

What all configurations share is looked up in the table first, too. So an entry under one of the
names below stands in front of it: the names that lead to private values, what a configuration was
made from, the fields that are printed, the computed fields, and the ways of assigning to a name.
-/

set_option autoImplicit false

namespace ValueSets

namespace Settings

/-- The name of the field that restricts a set to a type. -/
def elementField : String := "element_type"

/-- The name of the field that asks for a sorted listing. -/
def listingField : String := "sorted_listing"

/-- The names of the fields. -/
def fieldNames : List String := [elementField, listingField]

end Settings

/-- An element type, or its absence, as a value. -/
def Value.ofElementType : Option Ty → Value
  | none => .null
  | some t => .type t

/-- The fields of a configuration, by name. -/
def Config.entries (c : Config) : List (Value × Value) :=
  [(.text Settings.elementField, .ofElementType c.elementType),
    (.text Settings.listingField, .bool c.sortedListing)]

/-- What a configuration keeps its fields in. -/
structure Inside where
  /-- The table of its fields. -/
  table : Value
  /-- What is asked for a name that the table does not have. -/
  further : Value := .null
  /-- What is private to the configuration. -/
  hidden : Value := .null
  /-- The names of the fields that were set, where they were replaced. -/
  named? : Option Value := none

namespace Inside

/-- The entry that says which names lead to private values. -/
def privateNames : String := "__private_attributes__"

/-- The entry that says what a configuration was made from. -/
def origins : String := "__pydantic_generic_metadata__"

/-- The entry that says which fields are printed. -/
def printedFields : String := "__pydantic_fields__"

/-- The entry with the fields that are computed. -/
def computedFields : String := "__pydantic_computed_fields__"

/-- The entry with the ways of assigning to a name. -/
def assigners : String := "__pydantic_setattr_handlers__"

/-- What entries lead to from a name. -/
def lookup (name : String) (entries : List (Value × Value)) : Option Value :=
  (entries.find? fun e => e.1.sameKey (.text name)).map (·.2)

/-- Whether a key is the name of a field of configurations. -/
def isField (key : Value) : Bool := Settings.fieldNames.any fun name => key.sameKey (.text name)

/-- Whether a key of a table of fields is one that is passed over where the fields are walked:
those that start with an underscore. Only texts have a start. -/
def isHiddenKey (key : Value) : Except Fault Bool :=
  match key with
  | .bytes _ _ => .error .startNotBytes
  | key => match key.text? with
    | some name => .ok (name.toList.head? == some '_')
    | none => .error (key.missingField "startswith")

/-- The fault of asking a value for the entries of a table. -/
def entriesFault : Value → Fault
  | .type .table => .call (.noReceiver (Ty.table.name ++ ".items"))
  | v => v.missingField "items"

/-- The fault of asking a value for one entry, where it is not a table. -/
def readingFault : Value → Fault
  | .type .table => .call (.otherReceiver "get" Ty.table.name Ty.text.name)
  | v => v.missingField "get"

/-- What a value leads to from a name, where it can be asked for one: a table leads to the entry of
that name, and a type that is narrowed to the name is some value that is no type. -/
def itemOf (name : String) : Value → Except Fault (Option Value)
  | .table entries => .ok (lookup name entries)
  | .type .color | .type .level => .ok none
  | .type t =>
    if t.narrowedName?.isSome then .ok (some (.bool true)) else .error (t.itemFault .notType)
  | .text _ _ => .error (.placeNotWhole .text)
  | .symbol _ _ => .error (.placeNotWhole .symbol)
  | .bytes _ _ => .error (.placeNotWhole .bytes)
  | .tuple _ _ => .error (.placeNotWhole .tuple)
  | .list _ => .error (.placeNotWhole .list)
  | v => .error (.noItems v.typeName)

/-- Refuses to copy a configuration whose private values are not named, whose options cannot be
read, or whose names of fields take no further one. -/
def checkCopy (i : Inside) (options? : Option Value) : Except Fault Unit := do
  let isNamed : Bool := i.hidden.typeOf == .null || i.hidden.typeOf == .table
  if !isNamed then throw (entriesFault i.hidden)
  match options? with
  | none => pure ()
  | some v => if v.typeOf != .table then throw (readingFault v)
  match i.named? with
  | none => return ()
  | some v =>
    if v.typeOf == .table then throw (.entryLength 0 Settings.elementField.length)
    if v.typeOf != .set then throw (v.missingField "update")

end Inside

end ValueSets
