import ValueSets.Fault

/-!
# Loading exports on demand

A package lists names and the modules that define them, and fetches a definition when its name is
first asked for. `Loader` is the state of such a package: its globals and its map. Asking for a name
of the map imports the module of that name and puts the definition into the globals; a name outside
the map is a fault, and a fault changes nothing. What an import yields is a parameter here.

The globals also hold the hooks that a loader answers through. A definition that is fetched under
the name of a hook takes its place; if it is the hook of another package, that package answers from
then on.
-/

set_option autoImplicit false

namespace ValueSets

/-- Something that a module defines. -/
inductive Definition where
  /-- A class, a function or a module, by the module that declares it, if one does, and its name
  there. -/
  | object (home? : Option String) (name : String)
  | constant (v : Value)
  /-- A table of types, which are given by name, under the names that they belong to. -/
  | types (entries : List (String × String))
  /-- A hook that the loader of a package installed, by the module that declares it and its name
  there. -/
  | hook (package? : Option String) (home name : String)

/-- The definitions of a module: a name that it lacks is a fault. -/
abbrev Definitions := String → Except Fault Definition

/-- What importing an absolute module path yields. -/
abbrev Importer := String → Except Fault Definitions

namespace ModulePath

/-- The parts of a dotted path. -/
def parts (path : List Char) : List (List Char) :=
  path.splitOn '.'

/-- Parts with dots between them. -/
def joined (parts : List (List Char)) : String :=
  ".".intercalate (parts.map String.ofList)

/-- The absolute form of a path that may be relative to a package. One leading dot stands for the
package itself and each further one for the package around it. -/
def resolve (path : String) (base : Value) : Except Fault String :=
  let dots := path.toList.takeWhile (· == '.')
  let rest := path.toList.dropWhile (· == '.')
  if dots.isEmpty then
    if path == "" then .error .emptyModuleName else .ok path
  else if !base.isTruthy then .error (.noBase path)
  else match base.text? with
    | none => .error .baseNotText
    | some package =>
      let around := parts package.toList
      if around.length < dots.length then .error .aboveTop
      else
        let base := joined (around.take (around.length + 1 - dots.length))
        .ok (if rest.isEmpty then base else base ++ "." ++ String.ofList rest)

end ModulePath

/-- A package that loads its exports on demand. -/
structure Loader where
  /-- The path of the package, if others can import it. -/
  package? : Option String := none
  /-- What the package holds, by name. -/
  globals : List (String × Definition)
  /-- The module path of each exported name, in the order of declaration. -/
  map : List (String × String)

namespace Loader

/-- The name under which a package holds its own name. -/
def selfName : String := "__name__"

/-- The name under which a package holds the names that it exports. -/
def exportsName : String := "__all__"

/-- The name of the hook that is asked for names. -/
def getHook : String := "__getattr__"

/-- The name of the hook that lists all names. -/
def namesHook : String := "__dir__"

/-- Puts a definition into globals. -/
def assign (globals : List (String × Definition)) (name : String) (d : Definition) :
    List (String × Definition) :=
  if globals.any fun g => g.1 == name then
    globals.map fun g => if g.1 == name then (name, d) else g
  else globals ++ [(name, d)]

/-- The exported names, in the order of declaration. -/
def exported (map : List (String × String)) : List String := map.map (·.1)

/-- Installs a loader for the names of `map`. The hooks are definitions of the module `home`. -/
def install (package? : Option String) (home : String) (globals : List (String × Definition))
    (map : List (String × String)) : Loader :=
  let names : Value := .list ((exported map).map .text)
  let hook (globals : List (String × Definition)) (name : String) :=
    assign globals name (.hook package? home name)
  let withNames := assign globals exportsName (.constant names)
  { package?, globals := hook (hook withNames getHook) namesHook, map }

/-- Whether a name is in the globals. -/
def holds (l : Loader) (name : String) : Bool := l.globals.any fun g => g.1 == name

/-- The name of the package. -/
def self (l : Loader) : Except Fault Value :=
  match l.globals.lookup selfName with
  | some (.constant v) => .ok v
  | some (.object _ name) | some (.hook _ _ name) => .ok (.text name)
  | some (.types entries) => .ok (.table (entries.map fun e => (.text e.1, .text e.2)))
  | none => .error (.noEntry (Text.quote selfName))

/-- The definition of an exported name, or why there is none. -/
def find (imports : Importer) (l : Loader) (name : String) : Except Fault Definition :=
  match l.map.lookup name with
  | some path => do
    let absolute ← ModulePath.resolve path (← l.self)
    let definitions ← imports absolute
    definitions name
  | none => do
    throw (.notExported (← l.self).plainText name)

/-- The package whose hook has taken the place of the loader's own. -/
def stranger? (l : Loader) (hookName : String) : Option String :=
  match l.globals.lookup hookName with
  | some (.hook (some package) _ _) => if l.package? == some package then none else some package
  | _ => none

/-- Fetches the definition of a name. One that is found is kept in the globals. -/
def fetch (imports : Importer) (l : Loader) (name : String) : Except Fault Definition × Loader :=
  match l.find imports name with
  | .ok d => (.ok d, { l with globals := assign l.globals name d })
  | .error fault => (.error fault, l)

/-- Asks for a name, through the hook in the globals. `others` says what other packages answer. -/
def get (imports : Importer) (others : String → Definitions) (l : Loader) (name : String) :
    Except Fault Definition × Loader :=
  match l.stranger? getHook with
  | some package => (others package name, l)
  | none => l.fetch imports name

/-- The exported names as the globals hold them. -/
def announced (l : Loader) : List Value :=
  match l.globals.lookup exportsName with
  | some (.constant (.list names)) => names
  | _ => []

/-- Whether one text stands before or at another, code point by code point. -/
def standsBefore (s t : String) : Bool := decide (s ≤ t)

/-- Names in ascending order, each once. -/
def inOrder (names : List String) : List String := names.eraseDups.mergeSort standsBefore

/-- All names of the package, held or exported, in ascending order. -/
def names (l : Loader) : List String := inOrder (l.globals.map (·.1) ++ exported l.map)

/-- All names, as the hook in the globals lists them. `others` says what other packages list. -/
def list (others : String → List String) (l : Loader) : List String :=
  match l.stranger? namesHook with
  | some package => others package
  | none => l.names

end Loader

end ValueSets
