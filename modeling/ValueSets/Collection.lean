import ValueSets.Config.Inside
import ValueSets.Members

/-!
# Sets

A set has a class, a configuration and its members in the order of their storage. This module holds
the type and how a set comes by its configuration: a class that fixes its element type applies that
type to a configuration without one, and refuses one whose type does not fit.

Another value may stand in for a configuration. One that counts as false stands for the shared
configuration, and any other is kept as it is. A set that checks the types of its elements has to
find an element type in that value: sets and classes of sets have one, if they check types
themselves, and so has an object that was given one. A configuration that was reached into stands in
for itself. Where it has no element type but the class of the set fixes one, the set gets a copy.
-/

set_option autoImplicit false

namespace ValueSets

/-- A value that is kept in place of a configuration, as it is by now. -/
structure StandIn where
  value : Value
  /-- Whether the value counts as true. One that does not stands for the shared configuration in the
  sets derived from here on. -/
  counts : Bool := true
  /-- The fields that are found in the value. -/
  fields : List (String × Value) := []
  /-- The faults of asking for fields that are not found, where they are not the usual one. -/
  refusals : List (String × Fault) := []
  /-- The inside of a configuration that was reached into. -/
  inside? : Option Inside := none
  /-- The element type of a copy of that configuration, if a copy is to take its place. -/
  given? : Option Ty := none

/-- A set: its class, its configuration, and its members in the order of storage. -/
structure Collection where
  cls : SetClass
  config : Config
  members : List Value
  /-- What is kept in place of a configuration, if anything is. Then `config` is what the set reads
  off it. -/
  standIn? : Option StandIn := none

/-- Settings with the element type that a class fixes applied to them. -/
def SetClass.bind (cls : SetClass) (settings : Settings) : Except Fault Settings :=
  match cls.fixedType? with
  | none => .ok settings
  | some fixed => match settings.elementType with
    | none => .ok { settings with elementType := some fixed }
    | some configured =>
      if configured.isSubtypeOf fixed then .ok settings
      else .error (.classConflict cls fixed configured)

/-- The configuration of a set of a class that is given one. If the class changes the settings, that
is a configuration object of its own, named `identity`. -/
def SetClass.configure (cls : SetClass) (config : Config) (identity : Nat) :
    Except Fault Config := do
  if !cls.isKeyed then return config
  let settings ← cls.bind config.settings
  return if settings = config.settings then config else { identity, settings }

namespace StandIn

/-- The fault of asking for a field that is not found. -/
def missing (i : StandIn) (field : String) : Fault :=
  (i.refusals.lookup field).getD (i.value.missingField field)

/-- Refuses to call what is found under a name, unless that is a type. -/
def checkCall (i : StandIn) (name : String) : Except Fault Unit :=
  match i.fields.lookup name with
  | none | some (.type _) => .ok ()
  | some v => .error (.notCallable v.typeName)

/-- What a set finds in place of its element type. -/
def elementValue (i : StandIn) : Except Fault Value :=
  match i.fields.lookup Settings.elementField, i.value with
  | some v, _ => .ok v
  | none, .handle ⟨_, cls⟩ | none, .type (.sets cls) =>
    if cls.isKeyed then .ok (.ofElementType cls.fixedType?)
    else .error (i.missing Settings.elementField)
  | none, _ => .error (i.missing Settings.elementField)

/-- The element type that a set finds. -/
def elementType (i : StandIn) : Except Fault (Option Ty) := do
  match ← i.elementValue with
  | .null => return none
  | .type t => return some t
  | _ => throw .notType

/-- The settings that a set reads off what stands in for its configuration, as far as there are any.
-/
def read (i : StandIn) : Settings where
  elementType := i.elementType.toOption.join

/-- The name under which a configuration is asked for a copy of it with other fields. -/
def copying : String := "model_copy"

/-- The settings that a new set of a class finds. A value without an element type cannot take on the
one that a class fixes. -/
def settings (cls : SetClass) (i : StandIn) : Except Fault Settings := do
  if !cls.isKeyed then return {}
  match ← i.elementValue, cls.fixedType? with
  | _, none => return i.read
  | .null, some _ => do
    i.checkCall copying
    throw (i.value.missingField copying)
  | .type t, some _ => cls.bind { elementType := some t }
  | _, some _ => throw .notType

/-- What a class takes in place of a configuration that was reached into and has no element type,
where the class fixes one: a copy that has it. -/
def boundTo (cls : SetClass) (i : StandIn) : Except Fault StandIn := do
  match i.inside?, cls.fixedType? with
  | some inside, some t => match ← i.elementValue with
    | .null => do
      i.checkCall copying
      i.checkCall "__copy__"
      inside.checkCopy (i.fields.lookup "model_config")
      return { i with fields := (Settings.elementField, .type t) :: i.fields, given? := some t }
    | _ => return i
  | _, _ => return i

end StandIn

/-- What a set of a class takes for its configuration when it is given another value, and that
value, if it is kept. The settings that are read off it belong to a configuration named `identity`.
-/
def SetClass.adopt (cls : SetClass) (i : StandIn) (identity : Nat) :
    Except Fault (Config × Option StandIn) := do
  if i.counts then
    let i ← i.boundTo cls
    return ({ identity, settings := ← i.settings cls }, some i)
  if cls.fixedType?.isSome then let _ ← i.settings cls
  return (Config.shared, none)

namespace Collection

/-- The number of members. -/
def size (s : Collection) : Nat := s.members.length

/-- Whether the element type of a set, if it has one, takes a value. -/
def takes (s : Collection) (x : Value) : Bool :=
  match s.config.elementType with
  | none => true
  | some t => t.takes x

/-- Refuses elements whose types would have to be checked against a value that is no type, and any
where the element type is not found. -/
def checkElementType (s : Collection) (xs : List Value) : Except Fault Unit :=
  match s.standIn? with
  | none => .ok ()
  | some i => do
    match ← i.elementValue with
    | .null | .type _ => return ()
    | _ => if xs.isEmpty then return () else throw .notType

/-- An empty set of the same class and configuration. A set's own configuration has the element type
of its class already, so binding it once more leaves it as it is. -/
def emptied (s : Collection) : Except Fault Collection :=
  match s.standIn? with
  | none => do
    let config ← s.cls.configure s.config s.config.identity
    return { s with config, members := [] }
  | some i => do
    let (config, standIn?) ← s.cls.adopt i s.config.identity
    return { cls := s.cls, config, members := [], standIn? }

end Collection

end ValueSets
