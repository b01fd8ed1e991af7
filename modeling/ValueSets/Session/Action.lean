import ValueSets.Collection.Listing
import ValueSets.Session
import ValueSets.Value.Conversion

/-!
# Actions

Steps of a session are actions: they may change the session, and what they changed stays when they
fail. This module holds what all of them are made of: new objects, changes of boxes, sets and the
insides of configurations, notices to the log, and walking and printing values.

Values are printed as deep as there are boxes, configurations and sets; one of the latter two that
is nested in itself is a fault.
-/

set_option autoImplicit false

namespace ValueSets

/-- An action in a session. -/
abbrev Act (α : Type) := ExceptT Fault (StateM Session) α

namespace Act

/-- The set behind a handle. -/
def fetch (h : Handle) : Act Collection := return (← get).collection h

/-- What a box holds, or any other value itself. -/
def look (v : Value) : Act Value := return (← get).look v

/-- Changes what a box holds. -/
def change (b : Box) (v : Value) : Act Unit := modify fun s => (s.change b v).described

/-- How values of the session are compared. -/
def sameness : Act Sameness := return (← get).sameness

/-- How values of the session are ordered. -/
def precedence : Act Precedence := return (← get).isOrdered .less

/-- An identity that no object of the session has. -/
def freshIdentity : Act Nat := modifyGet fun s =>
  (s.nextIdentity, { s with nextIdentity := s.nextIdentity + 1 })

/-- A new object. A list, a table or a value set is put into a box. -/
def create (v : Value) : Act Value := do
  match v with
  | .list _ | .table _ | .set _ _ => modifyGet fun s =>
    (.box ⟨s.contents.length, v.typeOf⟩, { s with contents := s.contents ++ [v] })
  | v => return v.withIdentity (← freshIdentity)

/-- A value as an object: a new one, unless all values of its content are one object. -/
def fresh (v : Value) : Act Value :=
  if v.isShared then return v else create v

/-- Hands a notice over to the log. -/
def note (n : Notice) : Act Unit := modify fun s => { s with log := s.log ++ [n] }

/-- The inside of a configuration, which is reached into from here on. -/
def reachInto (c : Config) : Act Inside := do
  match (← get).inside? c with
  | some i => return i
  | none => do
    let table ← create (.table c.entries)
    modify fun s => s.reach c { table }
    return { table }

/-- Changes the inside of a configuration. -/
def changeInside (c : Config) (f : Inside → Inside) : Act Unit := do
  let inside := f (← reachInto c)
  modify fun s =>
    let reached := s.reached.map fun r =>
      if r.config.identity = c.identity then { r with inside } else r
    { s with reached }.described

/-- Puts entries into the table in a box. -/
def addEntries (b : Box) (entries : List (Value × Value)) : Act Unit := do
  change b (.table (Members.mergeEntries ((← get).entries (.box b) ++ entries)))

/-- A new object of the same content, where the content of an object can change. -/
def duplicateOf (v : Value) : Act Value := do
  match v with
  | .box b => create (← look (.box b))
  | v => return v

/-- A copy of a configuration that was reached into, with an element type. -/
def copyInside (i : Inside) (t : Ty) : Act Config := do
  let entries := (← get).entries i.table ++ [(.text Settings.elementField, .type t)]
  let table ← create (.table (Members.mergeEntries entries))
  let further ← duplicateOf i.further
  let hidden ← duplicateOf i.hidden
  let config : Config := { identity := ← freshIdentity, settings := {} }
  modify fun s => (s.reach config { table, further, hidden }).described
  return config

/-- The configuration of a new set, and what stands in for it. One that has no identity yet gets
one, and a copy that is to be made is made. -/
def settleConfig (c : Collection) : Act Collection := do
  match c.standIn?.bind (·.inside?), c.standIn?.bind (·.given?) with
  | some inside, some t => do
    let config ← copyInside inside t
    return { c with config, standIn? := none }
  | _, _ =>
    if c.config.identity = 0 ∧ c.config ≠ Config.shared then
      return { c with config := { c.config with identity := ← freshIdentity } }
    else return c

/-- Takes a new set into the session that keeps its members as another one does. -/
def allocateCopy (c : Collection) : Act Handle := do
  let c ← settleConfig c
  modifyGet fun s =>
    (⟨s.collections.length, c.cls⟩, { s with collections := s.collections ++ [c] })

/-- Takes a new set into the session, to which its members were added just now. -/
def allocate (c : Collection) : Act Handle := do
  let s ← get
  if s.reached.isEmpty then allocateCopy c
  else allocateCopy { c with members := c.members.map s.current }

/-- Changes the set behind a handle. A failing change keeps what it had done, and values compare as
they do at that point of the change. -/
def mutate {α : Type} (h : Handle)
    (change : (Collection → Sameness) → Collection → Mutation α) : Act α := do
  let session ← get
  let (result, changed) := change (fun c => (session.store h c).sameness) (session.collection h)
  set (session.store h changed)
  MonadExcept.ofExcept result

/-- The members of a set as its configuration asks for, with the notice that an unordered listing
gives. -/
def listConfigured (c : Collection) : Act (List Value) := do
  if c.lacksOrder then note (.unordered c.cls)
  MonadExcept.ofExcept (c.list (← precedence))

/-- The members of a set as they are listed. What stands in for a configuration says how to list
them if it was given the fields for that. -/
def list (c : Collection) : Act (List Value) := do
  match c.standIn? with
  | none => listConfigured c
  | some i =>
    if c.members.isEmpty then return []
    match i.fields.lookup Settings.listingField with
    | none => throw (i.missing Settings.listingField)
    | some choice =>
      if !(← get).isTrue choice then return c.members
      let settings := { elementType := ← MonadExcept.ofExcept i.elementType }
      listConfigured { c with config := { c.config with settings } }

/-- What a value has of its own under a name: an entry of a configuration that was reached into, or
a field that was given to it. Such a configuration may refuse to be asked. -/
def ownField? (v : Value) (name : String) : Act (Option Value) := do
  let session ← get
  match v with
  | .config c => match session.inside? c with
    | none => return none
    | some i => MonadExcept.ofExcept (session.field? i name)
  | v => return (session.standIn v).fields.lookup name

/-- What a value has under a name. -/
def fieldOf (name : String) (v : Value) : Act Value := do
  match ← ownField? v name with
  | some held => return held
  | none => throw (v.missingField name)

/-- Refuses to call what a value has of its own under a name, unless that is a type. -/
def checkCall (v : Value) (name : String) : Act Unit := do
  match ← ownField? v name with
  | none | some (.type _) => return ()
  | some held => throw (.notCallable held.typeName)

/-- Fails since a value has no operation of a name. What it has of its own under that name is called
in place of it, and so is the fault. -/
def failCall {α : Type} (v : Value) (name : String) (fault : Fault) : Act α := do
  checkCall v name
  throw fault

/-- The entries of a value, which should be a table. -/
def entriesOf (v : Value) : Act (List (Value × Value)) := do
  match ← look v with
  | .table es => return es
  | w => failCall v "items" (Inside.entriesFault w)

/-- What a table has under a key. Other values have no such entry, and are called in vain. -/
def entryOf? (v key : Value) : Act (Option Value) := do
  match ← look v with
  | .table es => return (es.find? fun e => e.1.sameKey key).map (·.2)
  | w => failCall v "get" (Inside.readingFault w)

/-- The entries of an inside that are walked. -/
def shownEntries (i : Inside) : Act (List (Value × Value)) := do
  ((← get).entries i.table).filterM fun e => do
    return !(← MonadExcept.ofExcept (Inside.isHiddenKey e.1))

/-- The further entries of an inside, if there are any to walk. -/
def furtherShown (i : Inside) : Act (List (Value × Value)) := do
  if (← get).isTrue i.further then entriesOf i.further else return []

/-- The items that a value is walked by: those that come first, and what yields the others once the
first are used. The characters of a text and the fields of a configuration are new objects. -/
def itemStages (v : Value) : Act (List Value × Act (List Value)) := do
  let itemsOf (es : List (Value × Value)) : Act (List Value) :=
    es.mapM fun e => fresh (Value.pair e)
  match v with
  | .handle h => return ((← fetch h).members, return [])
  | .text .. | .symbol .. => do
    return (← (← MonadExcept.ofExcept v.items?).mapM fresh, return [])
  | .config c => do
    let inside := (← get).inside c
    return (← itemsOf (← shownEntries inside), do itemsOf (← furtherShown inside))
  | v => do return (← MonadExcept.ofExcept (← look v).items?, return [])

/-- The items that a value is walked by. -/
def items (v : Value) : Act (List Value) := do
  let (first, others) ← itemStages v
  return first ++ (← others)

/-- Whether all items of a value fulfil a condition. No more of them are asked for than needed. -/
def allItems (v : Value) (isGood : Value → Act Bool) : Act Bool := do
  let (first, others) ← itemStages v
  if !(← first.allM isGood) then return false
  (← others).allM isGood

/-- The items of a value that fulfil a condition, which is asked of each before the next is walked
to. -/
def filterItems (v : Value) (isGood : Value → Act Bool) : Act (List Value) := do
  let (first, others) ← itemStages v
  let kept ← first.filterM isGood
  return kept ++ (← (← others).filterM isGood)

/-- Whether a configuration has a value among the items that it is walked by. -/
def configContains (c : Config) (x : Value) : Act Bool := do
  let same ← sameness
  let isOther (item : Value) : Act Bool := return !(← MonadExcept.ofExcept (same item x))
  return !(← allItems (.config c) isOther)

/-- Whether the printed form of a configuration shows a key of its table: that of a field, unless an
entry names the fields that are printed. -/
def isPrinted (c : Config) (key : Value) : Act Bool := do
  let i := (← get).inside c
  match Inside.lookup Inside.printedFields ((← get).entries i.table) with
  | none => return Inside.isField key
  | some known => match ← entryOf? known key with
    | none => return false
    | some field =>
      if !(← get).isTrue field then return false
      return (← get).isTrue (← fieldOf "repr" field)

/-- The computed fields of a configuration that its printed form shows. There are none, unless an
entry names them. -/
def computedEntries (c : Config) : Act (List (Value × Value)) := do
  let i := (← get).inside c
  match Inside.lookup Inside.computedFields ((← get).entries i.table) with
  | none => return []
  | some named => (← entriesOf named).filterMapM fun e => do
    if !(← get).isTrue (← fieldOf "repr" e.2) then return none
    return some (e.1, ← fieldOf e.1.plainText (.config c))

/-- What a configuration has of its own in place of a part of its printing. Only a type can be
called, and makes what `make` says, where it says anything. -/
def ownPart? (c : Config) (name : String) (make : Ty → Option Value) : Act (Option Value) := do
  match ((← get).standInFor c).fields.lookup name with
  | none => return none
  | some (.type t) => return make t
  | some held => throw (.notCallable held.typeName)

/-- The printed fields of a configuration: those that its table has, in the order in which they
stand there, then the further entries and the computed fields. `printed` prints a value in it. -/
def printFields (printed : Value → Act String) (c : Config) : Act (List String) := do
  let i := (← get).inside c
  let computed ← computedEntries c
  let named (e : Value × Value) : Act String := do
    let shown ← printed e.2
    return if e.1.typeOf == .null then shown else e.1.plainText ++ "=" ++ shown
  let own ← ((← get).entries i.table).filterMapM fun e => do
    if ← isPrinted c e.1 then some <$> named e else return none
  let further ← if i.further.typeOf == .null then pure [] else do
    (← entriesOf i.further).mapM named
  return own ++ further ++ (← computed.mapM named)

/-- Prints a configuration by its inside: its name, and its fields with a separator between them.
-/
def printInside (printed : Value → Act String) (c : Config) : Act String := do
  let separator := ", "
  let name := (← ownPart? c "__repr_name__" Ty.empty?).elim Ty.config.name Value.plainText
  let shown ← match ← ownPart? c "__repr_str__" (Ty.ofText? separator) with
    | some joined => pure joined.plainText
    | none => do
      let fields ← match ← ownPart? c "__repr_args__" Ty.empty? with
        | some made => (← MonadExcept.ofExcept made.items?).mapM printed
        | none => printFields printed c
      pure (separator.intercalate fields)
  return name ++ "(" ++ shown ++ ")"

/-- Prints a value that stands inside those of `around`, in which boxes, configurations and sets are
nested at most `depth` deep. -/
def printTo : Nat → List Value → Value → Act String
  | 0 => fun _ _ => throw .endlessNesting
  | depth + 1 => Value.literalM (fun n => MonadExcept.ofExcept (wholeText n)) fun around held => do
    match held with
    | .handle h => do
      let c ← fetch h
      let items ← (← list c).mapM (printTo depth around)
      return c.cls.name ++ "(" ++ Value.bracketed "[" "]" items ++ ")"
    | .config c => match (← get).inside? c with
      | none => return c.literal
      | some _ => printInside (printTo depth around) c
    | held =>
      if around.any held.isSameObject then return Value.dots held.typeOf
      else printTo depth (held :: around) (← look held)

/-- Prints a value of the session. -/
def print (v : Value) : Act String := do
  printTo (← get).depth [] v

end Act

end ValueSets
