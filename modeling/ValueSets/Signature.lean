/-!
# Calls with named parameters

A call gives arguments by position and by name. `Signature.bind` assigns them to the parameters of
the called operation, and names the first reason why that cannot be done: an unknown name, a
parameter given twice, too many positions, or parameters left without a value.
-/

set_option autoImplicit false

namespace ValueSets

/-- The parameters of an operation. The first position is that of the receiver of a method, or of
what an operation works on. -/
structure Signature where
  /-- The full name of the operation. -/
  operation : String
  /-- The parameter in the first position. -/
  receiver : String := "self"
  /-- Parameters that must be given. -/
  required : List String := []
  /-- Parameters that may be left out. -/
  optional : List String := []
  /-- Whether any number of further positions is taken. -/
  takesMore : Bool := false
  /-- Parameters that are given by name alone, and may be left out. -/
  byName : List String := []

/-- Why a call is refused. -/
inductive CallFault where
  | unknownName (operation name : String)
  | givenTwice (operation name : String)
  | tooMany (signature : Signature) (given : Nat)
  | missing (operation : String) (names : List String)
  /-- An operation without names for its parameters is given arguments by name. -/
  | namesNothing (operation : String)
  /-- An operation without parameters is given arguments. -/
  | takesNothing (operation : String) (given : Nat)
  /-- An operation with a fixed number of parameters is given another number of arguments. -/
  | otherCount (operation : String) (expected given : Nat)
  /-- A method of a type is called without a receiver. -/
  | noReceiver (operation : String)
  /-- A method of a type is called on a value of another type. -/
  | otherReceiver (operation typeName given : String)
  /-- A method of a type with one parameter besides the receiver is called without an argument. -/
  | takesOne (operation : String)

namespace Signature

/-- The parameters that must be given, the receiver among them. -/
def needed (s : Signature) : List String := s.receiver :: s.required

/-- The parameters with a position. -/
def parameters (s : Signature) : List String := s.needed ++ s.optional

/-- Whether an operation has a parameter of a name. -/
def hasParameter (s : Signature) (name : String) : Bool :=
  s.parameters.contains name || s.byName.contains name

variable {α : Type}

/-- Adds the arguments given by name to those bound already. -/
def bindNamed (s : Signature) (bound : List (String × α)) :
    List (String × α) → Except CallFault (List (String × α))
  | [] => .ok bound
  | (name, value) :: rest =>
    if !s.hasParameter name then .error (.unknownName s.operation name)
    else if bound.any fun b => b.1 == name then .error (.givenTwice s.operation name)
    else bindNamed s (bound ++ [(name, value)]) rest

/-- Assigns the arguments of a call to parameters, that for the receiver among them. -/
def bind (s : Signature) (positional : List α) (named : List (String × α)) :
    Except CallFault (List (String × α)) := do
  let bound ← s.bindNamed (s.parameters.zip positional) named
  if !s.takesMore && s.parameters.length < positional.length then
    throw (.tooMany s positional.length)
  let missing := s.needed.filter fun name => !bound.any fun b => b.1 == name
  if !missing.isEmpty then throw (.missing s.operation missing)
  return bound

end Signature

namespace CallFault

/-- Names joined for a sentence: by `and`, with commas from three on. -/
def joined (names : List String) : String :=
  let quoted := names.map fun n => "'" ++ n ++ "'"
  match quoted.reverse with
  | [] => ""
  | [one] => one
  | [two, one] => one ++ " and " ++ two
  | last :: front => ", ".intercalate front.reverse ++ ", and " ++ last

/-- The words for a number of things. -/
def counted (n : Nat) (thing : String) : String :=
  toString n ++ " " ++ thing ++ (if n == 1 then "" else "s")

/-- The sentence that reports a refused call. -/
def message : CallFault → String
  | .unknownName operation name =>
    operation ++ "() got an unexpected keyword argument '" ++ name ++ "'"
  | .givenTwice operation name =>
    operation ++ "() got multiple values for argument '" ++ name ++ "'"
  | .tooMany s given =>
    let least := s.needed.length
    let most := s.parameters.length
    let range := if least == most then counted most "positional argument"
      else "from " ++ toString least ++ " to " ++ counted most "positional argument"
    s.operation ++ "() takes " ++ range ++ " but " ++ toString given ++ " were given"
  | .missing operation names =>
    operation ++ "() missing " ++ toString names.length ++ " required positional argument"
      ++ (if names.length == 1 then "" else "s") ++ ": " ++ joined names
  | .namesNothing operation => operation ++ "() takes no keyword arguments"
  | .takesNothing operation given =>
    operation ++ "() takes no arguments (" ++ toString given ++ " given)"
  | .otherCount operation expected given =>
    operation ++ " expected " ++ counted expected "argument" ++ ", got " ++ toString given
  | .noReceiver operation => "unbound method " ++ operation ++ "() needs an argument"
  | .otherReceiver operation typeName given =>
    "descriptor '" ++ operation ++ "' for '" ++ typeName ++ "' objects doesn't apply to a '"
      ++ given ++ "' object"
  | .takesOne operation => operation ++ "() takes exactly one argument (0 given)"

end CallFault

end ValueSets
