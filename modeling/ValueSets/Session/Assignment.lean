import ValueSets.Session.Call

/-!
# Assignments in a session

Assigning to a field of a configuration fails, since configurations do not change. Names that start
with an underscore are no fields: those of the parts that a configuration keeps its fields in put
another value in the place of a part, and all others are entries beside the fields. What stands in
for a configuration may be an object that takes fields, and then has them from there on.
-/

set_option autoImplicit false

namespace ValueSets

/-- The names of what is computed of a configuration. -/
def Config.computedFields : List String := ["__fields__", "__fields_set__"]

/-- The fault of setting the type of an object to a value. -/
def Value.notTypeOf (typeName : String) : Value → Fault
  | .type t => if t.isFixed then .typeNotMutable else .typeNotAlike t.name typeName
  | v => .typeNotType v.typeName

/-- Whether an object can be made one of a type: its own, and a set one of any sets. -/
def Value.fits (object : Value) (t : Ty) : Bool :=
  t == object.typeOf || (object.isA .collection && t.isSubtypeOf .collection)

/-- The class of an object that keeps the references to it which do not keep it alive. -/
def Value.referenceHolder : Value → String
  | .color _ | .level _ => "Enum"
  | .handle _ => Ty.collection.name
  | v => v.typeName

namespace Act

/-- Puts an entry beside the fields of a configuration. -/
def assignBeside (c : Config) (name : String) (v : Value) : Act Unit := do
  match (← reachInto c).table with
  | .box b => addEntries b [(.text name, v)]
  | _ => return ()

/-- Refuses to assign to a name of a configuration that has a value of its own in place of the way
of assigning to it. -/
def checkAssigner (c : Config) (field : String) : Act Unit := do
  let session ← get
  match (session.inside? c).bind fun i =>
      Inside.lookup Inside.assigners (session.entries i.table) with
  | none => return ()
  | some ways => match ← entryOf? ways (.text field) with
    | none | some .null | some (.type _) => return ()
    | some way => throw (.notCallable way.typeName)

/-- Assigns a value to a field of a configuration. -/
def assignSetting (c : Config) (field : String) (v : Value) : Act Unit := do
  checkAssigner c field
  match field with
  | "__class__" => throw (v.notTypeOf Ty.config.name)
  | "__dict__" =>
    if v.typeOf == .table then changeInside c fun i => { i with table := v }
    else throw (.fieldsNotTable v.typeName)
  | "__weakref__" => throw (.referencesFixed Ty.config.name)
  | "__pydantic_extra__" => changeInside c fun i => { i with further := v }
  | "__pydantic_private__" => changeInside c fun i => { i with hidden := v }
  | "__pydantic_fields_set__" => changeInside c fun i => { i with named? := some v }
  | field =>
    if Config.computedFields.contains field then throw (.computedField field)
    else if field.toList.head? == some '_' then assignBeside c field v
    else throw (.frozen field)

/-- Gives a field to an object. -/
def giveField (object : Value) (field : String) (v : Value) : Act Unit :=
  modify fun s => { s with fields := (object, field, v) :: s.fields }

/-- Assigns a value to a name that all objects with fields have. The type of an object stays, and a
table of all fields takes the place of the fields. -/
def assignReserved (object : Value) (field : String) (v : Value) : Act Unit := do
  match field with
  | "__class__" => match v with
    | .type t => if !object.fits t then throw ((Value.type t).notTypeOf object.typeName)
    | v => throw (v.notTypeOf object.typeName)
  | "__dict__" =>
    if v.typeOf != .table then throw (.fieldsNotTable v.typeName)
    let given := ((← get).entries v).filterMap fun e =>
      e.1.text?.map fun name => (object, name, e.2)
    modify fun s =>
      { s with fields := given ++ s.fields.filter fun f => !f.1.isSameObject object }
  | "__weakref__" => throw (.referencesFixed object.referenceHolder)
  | field => giveField object field v

/-- Puts a configuration, or what stands in for one, in the place of that of a set. -/
def assignConfig (h : Handle) (v : Value) : Act Unit := modify fun s =>
  let c := s.stored h
  match v with
  | .config config => s.store h { c with config, standIn? := none }
  | v => s.store h { c with standIn? := some (s.standIn v) }

/-- Assigns a value to a field of an object that is no configuration. Sets, symbols and enumerated
values take any field, and so do the types that are not fixed. -/
def assignField (object : Value) (field : String) (v : Value) : Act Unit :=
  match object with
  | .handle h => if field == "config" then assignConfig h v else assignReserved object field v
  | .symbol .. => assignReserved object field v
  | .color _ | .level _ =>
    if field == "value" || field == "name" then throw (.enumerationFixed field)
    else assignReserved object field v
  | .type t =>
    if t.isFixed then throw (.typeFixed t.reportedName field) else giveField object field v
  | object => throw (object.missingField field)

/-- Assigns the first of the arguments to a field of the configuration in a variable, or of that of
the set in it. -/
def assign (name field : String) (args : List Value) : Act Value := do
  let target ← match ← valueOf name with
    | .config c => pure (.config c)
    | _ => configOf name
  let v ← firstOf args
  match target with
  | .config c => assignSetting c field v
  | target => assignField target field v
  return .null

end Act

end ValueSets
