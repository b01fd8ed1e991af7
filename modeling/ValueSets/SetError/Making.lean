import ValueSets.Fault

/-!
# Making error records from arguments

Each class of error records is made from arguments given by position or name. A message that is
absent or empty gives way to the usual one, in the classes that have one. Only the usual message
about an element shows that element, so it has to be printed only then.
-/

set_option autoImplicit false

namespace ValueSets

/-- The parameters that a class of error records is made from. -/
def ErrorClass.signature (c : ErrorClass) : Signature :=
  let s : Signature := { operation := c.name ++ ".__init__" }
  match c with
  | .general => { s with required := ["code", "message"], optional := ["details"] }
  | .unhashable => { s with required := ["value"], optional := ["message"] }
  | .elementType => { s with required := ["value", "expected"], optional := ["message"] }
  | .empty => { s with optional := ["message"] }

/-- A value that is given and counts as true. -/
def given? (bound : List (String × Value)) (name : String) : Option Value :=
  (bound.lookup name).filter Value.isTruthy

/-- The error record of a class made from arguments. -/
def ErrorClass.make (c : ErrorClass) (positional : List Value) (named : List (String × Value)) :
    Except Fault SetError :=
  match c.signature.bind (.null :: positional) named with
  | .error fault => .error (.call fault)
  | .ok bound =>
    let argument (name : String) : Value := (bound.lookup name).getD .null
    match c with
    | .general => .ok (.general (argument "code") (argument "message")
        ((given? bound "details").getD (.table [])))
    | .unhashable => .ok (.unhashable (argument "value") (given? bound "message"))
    | .elementType => match argument "expected" with
      | .type expected =>
        let value := argument "value"
        match given? bound "message" with
        | some message => .ok (.elementType value "" expected (some message))
        | none => do return .elementType value (← value.written) expected none
      | other => .error (.noField other.typeName "__name__")
    | .empty => .ok (.empty ((bound.lookup "message").getD SetError.emptyMessage))

end ValueSets
