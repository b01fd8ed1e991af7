import ValueSets.Exports.Loader

/-!
# The exports of the library

The modules under which the library presents itself, with what each of them defines, and the loader
of the outermost one.
-/

set_option autoImplicit false

namespace ValueSets.Library

/-- A module: its path, whether modules can lie below it, its definitions, and the types of those
that are declared with one. -/
structure Module where
  path : String
  isPackage : Bool
  definitions : List (String × Definition)
  types : List (String × String) := []

/-- The operations that every module has as an object. -/
def operations : List String :=
  ["__delattr__", "__dir__", "__eq__", "__format__", "__ge__", "__getattribute__", "__getstate__",
    "__gt__", "__hash__", "__init__", "__init_subclass__", "__le__", "__lt__", "__ne__", "__new__",
    "__reduce__", "__reduce_ex__", "__repr__", "__setattr__", "__sizeof__", "__str__",
    "__subclasshook__"]

/-- What can be asked of every module, whatever it defines. -/
def attributes (types : List (String × String)) : List (String × Definition) :=
  [("__class__", .object (some "builtins") "module"), ("__annotations__", .types types)]
    ++ operations.map fun name => (name, .object none name)

/-- The path of the outermost package. -/
def root : String := "gensets"

/-- The path of a module below the outermost package. -/
def below (path : String) : String := root ++ "." ++ path

/-- A definition declared in the module `home` below the outermost package. -/
def declared (home name : String) : String × Definition := (name, .object (some (below home)) name)

/-- A definition that is declared outside the library, in the module `home`. -/
def foreign (home name : String) : String × Definition := (name, .object (some home) name)

/-- A module that is held by another one, under the last part of its path. -/
def moduleHeld (path : String) : String × Definition :=
  (((path.splitOn ".").getLast?).getD path, .object none path)

/-- The modules directly below a package. -/
def submodules (around : String) (names : List String) : List (String × Definition) :=
  names.map fun name => moduleHeld (around ++ "." ++ name)

/-- The definitions that a module takes over from the vocabulary of types. -/
def typeWords (names : List String) : List (String × Definition) := names.map (foreign "typing")

/-- The definitions that a module takes over from the vocabulary of settings. -/
def settingsWords : List (String × Definition) :=
  [foreign "pydantic.main" "BaseModel", foreign "pydantic.config" "ConfigDict",
    foreign "pydantic.fields" "Field", foreign "pydantic.functional_validators" "model_validator"]

/-- Whether types are being checked, which they are not while a program runs. -/
def checkingConstant : String × Definition := ("TYPE_CHECKING", .constant (.bool false))

/-- A text constant. -/
def textConstant (name text : String) : String × Definition := (name, .constant (.text text))

/-- What every module holds about itself. A module without a description has an empty one. -/
def selfDescription (path package : String) (description : Value) : List (String × Definition) :=
  [textConstant "__name__" path, textConstant "__package__" package,
    ("__doc__", .constant description)]

/-- The module that declares the interface of sets. -/
def interfaceHome : String := "collections.base_set"

/-- The module that declares sets kept in memory. -/
def memoryHome : String := "collections.in_memory_set"

/-- The module that declares sets of a fixed element type. -/
def typedHome : String := "collections.typed_set"

/-- The module that declares natural order. -/
def orderHome : String := "collections.ordering"

/-- The module that declares the loader. -/
def loaderHome : String := "utils.lazy_loader"

/-- The public definitions of the collections. -/
def collectionDefinitions : List (String × Definition) :=
  [declared interfaceHome "SetCollection", declared memoryHome "InMemorySet",
    ("Set", .object (some (below memoryHome)) "InMemorySet"), declared memoryHome "new",
    declared memoryHome "key_set", declared typedHome "StringSet", declared typedHome "IntSet",
    declared typedHome "FloatSet"]

/-- The public error records. -/
def errorDefinitions : List (String × Definition) :=
  [declared "exception" "SetError", declared "exception" "UnhashableElementError",
    declared "exception" "ElementTypeError", declared "exception" "EmptySetError"]

/-- A package below the outermost one. -/
def package (path : String) (definitions : List (String × Definition)) : Module :=
  ⟨below path, true, selfDescription (below path) (below path) .null ++ definitions, []⟩

/-- A module that has no modules below it, inside the package `around`. -/
def leaf (path around : String) (definitions : List (String × Definition))
    (description : Value := .null) (types : List (String × String) := []) : Module where
  path := below path
  isPackage := false
  definitions := selfDescription (below path) around description ++ definitions
  types

/-- The type variable of the elements of sets. -/
def elementVariable : String × Definition := declared interfaceHome "T"

/-- The configuration that sets share, as a definition. -/
def sharedConfig : String × Definition := ("DEFAULT_CONFIG", .constant (.config Config.shared))

/-- The description of the module of error records. -/
def errorDescription : Value := .text ("\nSet Collection Exception Definitions\n\n"
  ++ "Every set operation is total for hashable elements of an accepted type, so\n"
  ++ "the only failures are violations of the element type constraint. Each error\n"
  ++ "also derives from the builtin exception Python raises in the same situation.\n")

/-- The description of the module of sets of a fixed element type. -/
def typedDescription : Value := .text "Sets whose element type is fixed by the class."

/-- The description of the module of natural order. -/
def orderDescription : Value :=
  .text "Natural ordering of set members for deterministic listing."

/-- The kinds of natural order, as definitions. -/
def kindConstants (kinds : List (String × Kind)) : List (String × Definition) :=
  kinds.map fun k => textConstant k.1 k.2.name

/-- All modules below the outermost package. -/
def modules : List Module :=
  [package "collections"
      (submodules (below "collections") ["base_set", "in_memory_set", "ordering", "typed_set"]
        ++ collectionDefinitions
        ++ [(Loader.exportsName,
          .constant (.list (collectionDefinitions.map fun d => .text d.1)))]),
    leaf interfaceHome (below "collections")
      ([moduleHeld "logging", foreign "abc" "ABC", foreign "abc" "abstractmethod"]
        ++ typeWords ["Any", "Callable", "Generic", "Hashable", "Iterator", "List", "Optional",
          "TypeVar"]
        ++ [declared interfaceHome "SetCollection", elementVariable, sharedConfig,
          declared "config" "SetConfig", declared "exception" "EmptySetError",
          declared orderHome "has_natural_order"]) .null [("_MISSING", "Any")],
    leaf memoryHome (below "collections")
      (typeWords ["Any", "Dict", "Iterable", "Iterator", "Mapping", "Optional"]
        ++ [moduleHeld "logging", declared memoryHome "InMemorySet",
          ("Set", .object (some (below memoryHome)) "InMemorySet"),
          declared memoryHome "new", declared memoryHome "key_set",
          declared memoryHome "_find_unhashable", declared interfaceHome "SetCollection",
          elementVariable, declared "config" "SetConfig",
          declared "exception" "ElementTypeError", declared "exception" "UnhashableElementError",
          declared orderHome "kind_of_type", declared orderHome "natural_kind"]
        ++ kindConstants [("INTEGER", .integer), ("REAL", .real)]),
    leaf typedHome (below "collections")
      [declared typedHome "StringSet", declared typedHome "IntSet", declared typedHome "FloatSet",
        declared memoryHome "InMemorySet"] typedDescription,
    leaf orderHome (below "collections")
      (typeWords ["Any", "Iterable", "Optional"]
        ++ [moduleHeld "numbers", declared orderHome "kind_of_type",
          declared orderHome "natural_kind", declared orderHome "_common_kind",
          declared orderHome "has_natural_order"]
        ++ kindConstants [("INTEGER", .integer), ("REAL", .real), ("STRING", .string)])
      orderDescription,
    leaf "config" root
      (typeWords ["Optional"]
        ++ settingsWords
        ++ [declared "config" "SetConfig", sharedConfig,
          declared "exception" "UnhashableElementError"]),
    leaf "exception" root (typeWords ["Any", "Dict", "Optional"] ++ errorDefinitions)
      errorDescription,
    package "utils" (submodules (below "utils") ["lazy_loader"]),
    leaf loaderHome (below "utils")
      [moduleHeld "importlib", declared loaderHome "install_lazy_loader"]]

/-- The modules outside the library that it builds on, as far as it uses them. -/
def outside : List Module :=
  [⟨"abc", false, [foreign "abc" "ABC", foreign "abc" "abstractmethod"], []⟩,
    ⟨"collections", true, [], []⟩,
    ⟨"importlib", true, [foreign "importlib" "import_module"], []⟩,
    ⟨"logging", true, [foreign "logging" "getLogger"], []⟩,
    ⟨"numbers", false, [foreign "numbers" "Integral", foreign "numbers" "Real"], []⟩,
    ⟨"pydantic", true, settingsWords, []⟩,
    ⟨"typing", false, typeWords ["Any", "Callable", "Dict", "Generic", "Hashable", "Iterable",
      "Iterator", "List", "Mapping", "Optional", "TypeVar"] ++ [checkingConstant], []⟩]

/-- The version of the library. -/
def version : String := "0.1.0"

/-- The exported names and the modules they are found in. -/
def exports : List (String × String) :=
  (collectionDefinitions.map fun d => (d.1, ".collections"))
    ++ [("SetConfig", ".config")]
    ++ (errorDefinitions.map fun d => (d.1, ".exception"))

/-- The outermost package as it is before any export is asked for. -/
def loader : Loader :=
  Loader.install (some root) (below loaderHome)
    (selfDescription root root .null
      ++ [checkingConstant, textConstant "__version__" version,
        declared loaderHome "install_lazy_loader"]
      ++ submodules root ["collections", "config", "exception", "utils"])
    exports

/-- The names that the outermost package holds beside its definitions and exports. -/
def furtherNames : List String :=
  ["__builtins__", "__cached__", "__file__", "__loader__", "__path__", "__spec__"]

/-- All names of the outermost package, in ascending order. -/
def names : List String := Loader.inOrder (loader.names ++ furtherNames)

/-- What a module answers to a name. -/
def Module.find (m : Module) (name : String) : Except Fault Definition :=
  match (m.definitions ++ attributes m.types).lookup name with
  | some d => .ok d
  | none => .error (.noDefinition m.path name)

/-- Imports a module below the outermost package. -/
def importBelow (path : String) : Except Fault Definitions :=
  match modules.find? fun m => m.path == path with
  | some m => .ok m.find
  | none => .error (.noModule path)

/-- What the outermost package answers to a name: what it holds, or else an export. -/
def definition (name : String) : Except Fault Definition :=
  match (loader.globals ++ attributes []).lookup name with
  | some d => .ok d
  | none => loader.find importBelow name

/-- The module at a path below the outermost package or outside the library. Modules outside are
found behind a dot as well. -/
def moduleAt? (path : String) : Option Module :=
  match modules.find? fun m => m.path == path with
  | some m => some m
  | none => (outside.find? fun m => path == m.path || path == "." ++ m.path).map fun m =>
    { m with path }

/-- Whether a path is that of a package or of a module without modules below it. -/
def packageAt? (path : String) : Option Bool :=
  if path == root then some true else (moduleAt? path).map (·.isPackage)

/-- Checks the packages along a path, the outermost first. `walked` are the parts passed already; an
empty path is passed over as if it were the outermost. -/
def checkPath (walked : List (List Char)) : List (List Char) → Except Fault Unit
  | [] => .ok ()
  | part :: rest =>
    let path := ModulePath.joined (walked ++ [part])
    let parent := ModulePath.joined walked
    if packageAt? path |>.isSome then checkPath (walked ++ [part]) rest
    else if path == "" && !rest.isEmpty then checkPath (walked ++ [part]) rest
    else if parent == "" || packageAt? parent == some true then .error (.noModule path)
    else .error (.noSubmodule path parent)

/-- Imports a module of the library by its absolute path. -/
def importModule (path : String) : Except Fault Definitions := do
  checkPath [] (ModulePath.parts path.toList)
  if path == root then return definition
  else match moduleAt? path with
    | some m => return m.find
    | none => throw (.noModule path)

/-- Installs a loader for a package outside the library. -/
def install (globals : List (String × Definition)) (map : List (String × String)) : Loader :=
  Loader.install none (below loaderHome) globals map

/-- Asks a package for a name. A hook of another package is that of the outermost one, which knows
its exports. -/
def get (l : Loader) (name : String) : Except Fault Definition × Loader :=
  l.get importModule (fun _ => loader.find importBelow) name

/-- All names of a package, in ascending order. -/
def list (l : Loader) : List String := l.list fun _ => names

end ValueSets.Library
