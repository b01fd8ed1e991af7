import ValueSets.Collection.Operator
import ValueSets.Value.Items
import ValueSets.Value.Literal
import ValueSets.Value.Parts

/-!
# Sessions

A session owns all sets that were made in it, what its boxes hold, the insides of configurations
that were reached into, and variables that hold values. A set among those values is a handle, and a
list, a table or a value set is a box, so two variables may hold the same set or the same list, and
a change of it is seen through both, and in all that holds it.

Comparing values that hold boxes, configurations and sets goes through the session. They may be
nested as deep as there are such things; a set nested in itself is a fault. A configuration that was
reached into is described anew after each change, so that it is kept by key for what it holds by
then.
-/

set_option autoImplicit false

namespace ValueSets

/-- A record as it is written to the log. -/
structure Record where
  /-- The part of the library that speaks. -/
  source : String
  severity : String := "DEBUG"
  text : String
deriving DecidableEq, Repr

namespace Record

/-- The record of an element that a set refused. -/
def rejection (cls : SetClass) (shown typeName : String) : Record where
  source := "gensets.collections.in_memory_set"
  text := cls.name ++ " rejected " ++ shown ++ " of type " ++ typeName

/-- The record of a listing that has no natural order to follow. -/
def unordered (cls : SetClass) : Record where
  source := "gensets.collections.base_set"
  text := cls.name ++ " members have no natural order, listing unsorted"

end Record

/-- What an operation hands over to the log. It has what the record is about and not the record,
whose text is put together by whoever writes it. -/
inductive Notice where
  /-- A set of class `cls` refused an element. -/
  | rejection (cls : SetClass) (element : Value)
  /-- A listing of a set of class `cls` has no natural order to follow. -/
  | unordered (cls : SetClass)

/-- The record of a notice. `shown` is the printed form of an element that was refused. -/
def Notice.record (shown : String) : Notice → Record
  | .rejection cls element => .rejection cls shown element.typeName
  | .unordered cls => .unordered cls

/-- A configuration that was reached into, as it is described by now. -/
structure Reached where
  config : Config
  inside : Inside

/-- A session: its sets, what its boxes hold, its variables in the order they were first bound, the
next identity for a new object, and what the step at hand handed over to the log. -/
structure Session where
  collections : List Collection := []
  /-- What each box holds: the items of a list or of a value set, or the entries of a table. -/
  contents : List Value := []
  /-- The configurations that were reached into. -/
  reached : List Reached := []
  /-- The fields that objects were given, by object and name, the latest first. -/
  fields : List (Value × String × Value) := []
  bindings : List (String × Value) := []
  nextIdentity : Nat := 1
  log : List Notice := []

namespace Session

/-- The set behind a handle as it was stored; an empty one for a handle of another session. -/
def stored (s : Session) (h : Handle) : Collection :=
  (s.collections[h.index]?).getD { cls := h.cls, config := Config.shared, members := [] }

/-- Puts a set behind a handle. -/
def store (s : Session) (h : Handle) (c : Collection) : Session :=
  { s with collections := s.collections.set h.index c }

/-- What a box holds. Any other value is what it is. -/
def look (s : Session) : Value → Value
  | .box b => (s.contents[b.index]?).getD .null
  | v => v

/-- Changes what a box holds. -/
def change (s : Session) (b : Box) (v : Value) : Session :=
  { s with contents := s.contents.set b.index v }

/-- A changed box holds what was put into it. -/
theorem look_change_self (s : Session) (b : Box) (v : Value) (h : b.index < s.contents.length) :
    (s.change b v).look (.box b) = v := by
  simp [look, change, h]

/-- Changing a box leaves the others as they are. -/
theorem look_change_of_ne (s : Session) {b c : Box} (v : Value) (h : b.index ≠ c.index) :
    (s.change b v).look (.box c) = s.look (.box c) := by
  simp [look, change, h]

/-- Whether a value counts as true: a set does if it has members. -/
def isTrue (s : Session) : Value → Bool
  | .handle h => !(s.stored h).members.isEmpty
  | v => (s.look v).isTruthy

/-- The entries of the table in a box. -/
def entries (s : Session) (v : Value) : List (Value × Value) :=
  match s.look v with
  | .table es => es
  | _ => []

/-- The inside of a configuration, if it was reached into. -/
def inside? (s : Session) (c : Config) : Option Inside :=
  (s.reached.find? fun r => r.config.identity == c.identity).map (·.inside)

/-- The inside of any configuration. -/
def inside (s : Session) (c : Config) : Inside :=
  (s.inside? c).getD { table := .table c.entries }

/-- Whether a value contains a name. -/
def containsName (s : Session) (v : Value) (name : String) : Except Fault Bool :=
  let same : Sameness := fun x y => .ok (x.sameKey y)
  match v with
  | .handle h => (s.stored h).has same (.text name)
  | v => Value.contains same s.look v (.text name)

/-- Whether an inside leads to a private value from a name. -/
def isPrivate (s : Session) (i : Inside) (name : String) : Except Fault Bool := do
  match Inside.lookup Inside.privateNames (s.entries i.table) with
  | none => return false
  | some names =>
    if !(← s.containsName names name) then return false
    let _ ← Inside.itemOf name (s.look names)
    return true

/-- What an inside leads to from a name, if to anything. What is asked where the table has no entry
of that name may refuse. -/
def field? (s : Session) (i : Inside) (name : String) : Except Fault (Option Value) := do
  match Inside.lookup name (s.entries i.table) with
  | some v => return some v
  | none =>
    if ← s.isPrivate i name then Inside.itemOf name (s.look i.hidden)
    else if s.isTrue i.further then Inside.itemOf name (s.look i.further)
    else return none

/-- What a configuration is like as a stand-in for itself. -/
def standInFor (s : Session) (c : Config) : StandIn :=
  let i := s.inside c
  let own := (s.entries i.table).filterMap fun e => e.1.text?.map fun name => (name, e.2)
  let answers := Settings.fieldNames.map fun name => (name, s.field? i name)
  { value := .config c
    fields := own ++ answers.filterMap fun (name, answer) => match answer with
      | .ok (some v) => some (name, v)
      | _ => none
    refusals := answers.filterMap fun (name, answer) => match answer with
      | .error fault => some (name, fault)
      | .ok _ => none
    inside? := s.inside? c }

/-- What a value is like as a stand-in for a configuration. -/
def standIn (s : Session) (v : Value) : StandIn :=
  match v with
  | .config c => s.standInFor c
  | v =>
    { value := v
      counts := s.isTrue v
      fields := s.fields.filterMap fun f => if f.1.isSameObject v then some f.2 else none }

/-- What stands in for the configuration of a set by now. -/
def standInOf (s : Session) (c : Collection) : Option StandIn :=
  match c.standIn? with
  | some i => some (s.standIn i.value)
  | none => (s.inside? c.config).map fun _ => s.standInFor c.config

/-- The set behind a handle. What stands in for its configuration is read off again. -/
def collection (s : Session) (h : Handle) : Collection :=
  let c := s.stored h
  match s.standInOf c with
  | none => c
  | some i => { c with config := { c.config with settings := i.read }, standIn? := some i }

/-- The value of a variable. -/
def value? (s : Session) (name : String) : Option Value := s.bindings.lookup name

/-- Puts a value into a variable. -/
def bind (s : Session) (name : String) (v : Value) : Session :=
  let bindings :=
    if s.bindings.any fun b => b.1 == name then
      s.bindings.map fun b => if b.1 == name then (name, v) else b
    else s.bindings ++ [(name, v)]
  { s with bindings := bindings }

/-- How deep boxes, configurations and sets can be nested without one of the latter two being nested
in itself. Between two of those each box stands once at most. -/
def depth (s : Session) : Nat :=
  (s.collections.length + s.reached.length + 1) * (s.contents.length + 1)

/-- What a configuration was made from: its type, unless an entry names something else. -/
def origin (s : Session) (i : Inside) : Except Fault Value := do
  match Inside.lookup Inside.origins (s.entries i.table) with
  | none => return .type .config
  | some v =>
    let key := "origin"
    match ← Inside.itemOf key (s.look v) with
    | none => throw (.noEntry (Text.quote key))
    | some w => return if s.isTrue w then w else .type .config

/-- Whether two insides are equal: they were made from the same, have the same private values, the
same further entries, and the same fields. Other entries beside the fields do not count. -/
def sameInsides (s : Session) (same : Sameness) (i j : Inside) : Except Fault Bool := do
  let made ← s.origin i
  if !(← Value.equals same made (← s.origin j)) then return false
  if !(← Value.equals same i.hidden j.hidden) then return false
  if !(← Value.equals same i.further j.further) then return false
  let es := s.entries i.table
  let fs := s.entries j.table
  if ← same (.table es) (.table fs) then return true
  let onlyFields (es : List (Value × Value)) : Bool := es.all fun e => Inside.isField e.1
  if onlyFields es && onlyFields fs then return false
  Settings.fieldNames.allM fun name =>
    match Inside.lookup name es, Inside.lookup name fs with
    | some v, some w => same v w
    | none, none => .ok true
    | _, _ => .ok false

/-- Whether two configurations are equal. Settings decide unless one of them was reached into. -/
def sameConfigs (s : Session) (same : Sameness) (c d : Config) : Except Fault Bool :=
  if (s.inside? c).isNone && (s.inside? d).isNone then .ok (c.settings == d.settings)
  else s.sameInsides same (s.inside c) (s.inside d)

/-- Sameness of values in which boxes, configurations and sets are nested at most `depth` deep. -/
def samenessTo (s : Session) : Nat → Sameness
  | 0 => fun _ _ => .error .endlessNesting
  | depth + 1 => Value.sameAs fun v w =>
    if v.isSameObject w then .ok true
    else match v, w with
      | .handle h, .handle k => (s.collection h).eq (samenessTo s depth) (s.collection k)
      | .config c, .config d => s.sameConfigs (samenessTo s depth) c d
      | .handle _, _ | _, .handle _ | .config _, _ | _, .config _ => .ok false
      | v, w => Value.sameAs (samenessTo s depth) (s.look v) (s.look w)

/-- Sameness of the values of a session. -/
def sameness (s : Session) : Sameness := s.samenessTo s.depth

/-- The answer to a question of order about values in which boxes are nested at most `depth` deep.
-/
def isOrderedTo (s : Session) (o : Order) : Nat → Value → Value → Except Fault Bool
  | 0 => fun _ _ => .error .endlessNesting
  | depth + 1 => Value.isOrdered o s.sameness fun v w =>
    match v, w with
    | .handle h, .handle k => (s.collection h).isOrdered s.sameness o (s.collection k)
    | .handle h, w => .error (.noOrder o.sign h.cls.name w.typeName)
    | v, w => isOrderedTo s o depth (s.look v) (s.look w)

/-- The answer to a question of order about the values of a session. -/
def isOrdered (s : Session) (o : Order) (v w : Value) : Except Fault Bool :=
  s.isOrderedTo o s.depth v w

/-- The settings that the fields of an inside stand for, if they do. A listing choice may be a
number. -/
def fieldSettings? (s : Session) (i : Inside) : Option Settings :=
  let es := s.entries i.table
  match Inside.lookup Settings.elementField es, Inside.lookup Settings.listingField es with
  | some element, some listing =>
    let choice? := match listing.magnitude? with
      | some (.exact q) => if q = 0 then some false else if q = 1 then some true else none
      | _ => none
    match element, choice? with
    | .null, some choice => some ⟨none, choice⟩
    | .type t, some choice => some ⟨some t, choice⟩
    | _, _ => none
  | _, _ => none

/-- What sets a configuration apart that was reached into. -/
def oddity (s : Session) (r : Reached) : Oddity :=
  let isLike (other : Reached) : Bool :=
    match s.sameness (.config r.config) (.config other.config) with
    | .ok same => same
    | .error _ => false
  let likeness := ((s.reached.find? isLike).getD r).config.identity
  let es := s.entries r.inside.table
  let fields := Settings.fieldNames.filterMap fun name => Inside.lookup name es
  { likeness
    fields? :=
      if (s.fieldSettings? r.inside).isSome then none else some (Value.tuple fields).literal
    unhashable? := (Value.firstUnhashablePart? fields).map Value.typeOf }

/-- A configuration that was reached into, as it is described by now. Settings tell it if its fields
stand for settings and it holds nothing else. -/
def describe (s : Session) (r : Reached) : Config :=
  let settings? := s.fieldSettings? r.inside
  let isEmpty (v : Value) : Bool := v.typeOf == .null
  let isPlain := match s.origin r.inside with
    | .ok (.type .config) => true
    | _ => false
  let isTold :=
    settings?.isSome && isPlain && isEmpty r.inside.hidden && isEmpty r.inside.further
  { r.config with
    settings := settings?.getD {}
    oddity? := if isTold then none else some (s.oddity r) }

/-- A configuration that is kept by key, as it is described by now. It stays where its fields led
when it was added, and is not found there once they lead elsewhere. -/
def keptAs (c now : Config) : Config :=
  let fields? (d : Config) : Option String := d.oddity?.bind Oddity.fields?
  if c.settings = now.settings ∧ fields? c = fields? now then now
  else
    { c with
      oddity? := some { likeness := c.identity, fields? := fields? c, isMisplaced := true } }

/-- Puts a configuration as it is described by now in the place of what it was. -/
def redescribe (s : Session) (c : Config) : Session :=
  let replace (f : Config → Config) : Value → Value := Value.mapFlat fun v => match v with
    | .config d => if d.identity = c.identity then .config (f d) else v
    | v => v
  let now := replace fun _ => c
  let kept := replace fun d => keptAs d c
  { s with
    bindings := s.bindings.map fun b => (b.1, now b.2)
    contents := s.contents.map now
    fields := s.fields.map fun f => (f.1, f.2.1, now f.2.2)
    reached := s.reached.map fun r =>
      { config := if r.config.identity = c.identity then c else r.config
        inside := { r.inside with
          further := now r.inside.further, hidden := now r.inside.hidden } }
    collections := s.collections.map fun d =>
      { d with members := d.members.map (if d.cls.isKeyed then kept else now) } }

/-- A value with the configurations in it as they are described by now. -/
def current (s : Session) : Value → Value := Value.mapFlat fun v => match v with
  | .config c => match s.reached.find? fun r => r.config.identity == c.identity with
    | some r => .config r.config
    | none => v
  | v => v

/-- Adds a configuration to those that were reached into. -/
def reach (s : Session) (config : Config) (inside : Inside) : Session :=
  { s with reached := s.reached ++ [{ config, inside }] }

/-- Describes the configurations that were reached into anew. -/
def described (s : Session) : Session :=
  s.reached.foldl (fun s r => s.redescribe (s.describe r)) s

end Session

end ValueSets
