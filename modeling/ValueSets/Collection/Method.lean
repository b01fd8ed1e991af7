import ValueSets.Signature
import ValueSets.Ty

/-!
# Methods

The operations of sets that are called with arguments of any number and name, with the parameters
that each of them has. A refused call names the class that defines the operation: the storage
primitives are defined by the class that keeps the members, and so are copies and taking a member
out where members are kept by key; all else is defined once for all sets.
-/

set_option autoImplicit false

namespace ValueSets

/-- An operation of sets that is called with arguments. -/
inductive Method where
  | insert
  | delete
  | has
  | hasAll
  | hasAny
  | clear
  | size
  | unsortedList
  | copy
  | pop
deriving DecidableEq, Repr

namespace Method

/-- The name of a method. -/
def name : Method → String
  | .insert => "insert"
  | .delete => "delete"
  | .has => "has"
  | .hasAll => "has_all"
  | .hasAny => "has_any"
  | .clear => "clear"
  | .size => "len"
  | .unsortedList => "unsorted_list"
  | .copy => "clone"
  | .pop => "pop_any"

/-- Every method. -/
def all : List Method :=
  [.insert, .delete, .has, .hasAll, .hasAny, .clear, .size, .unsortedList, .copy, .pop]

/-- Finds a method by its name. -/
def ofName? (name : String) : Option Method := all.find? fun m => m.name == name

/-- The type that keeps the members of a set of a class. -/
def storage (cls : SetClass) : Ty := .sets (if cls.isKeyed then .inMemory else cls)

/-- The type that defines a method for the sets of a class. -/
def home (m : Method) (cls : SetClass) : Ty :=
  match m with
  | .insert | .delete | .has | .clear => storage cls
  | .copy | .pop => if cls.isKeyed then storage cls else .collection
  | .hasAll | .hasAny | .size | .unsortedList => .collection

/-- The parameters of a method that the type `home` defines. -/
def signatureIn (m : Method) (home : Ty) : Signature :=
  let s : Signature := { operation := home.name ++ "." ++ m.name }
  match m with
  | .insert | .delete | .hasAll | .hasAny => { s with takesMore := true }
  | .has => { s with required := ["element"] }
  | .pop => { s with optional := ["default"] }
  | .clear | .size | .unsortedList | .copy => s

/-- The parameters of a method of sets of a class. -/
def signature (m : Method) (cls : SetClass) : Signature := m.signatureIn (m.home cls)

/-- The type that defines a method which is asked of a type of sets. -/
def homeIn? (m : Method) : Ty → Option Ty
  | .collection => some .collection
  | .sets cls => some (m.home cls)
  | _ => none

end Method

end ValueSets
