import ValueSets.Session.Assignment
import ValueSets.Session.Operand
import ValueSets.Session.Operation

/-!
# Steps

What can be done in a session: making sets and configurations, calling the operations of sets on
variables, and using operators on values. `Step.run` says what a step does and answers, given the
values of its arguments, which are evaluated before anything else.
-/

set_option autoImplicit false

namespace ValueSets

/-- A step of a session. `on` and `other` name variables. -/
inductive Step where
  | construct (cls : SetClass)
  /-- A set of the given elements. -/
  | new
  /-- A set of the keys of a table. -/
  | keySet (entries : List (Term × Term))
  /-- A configuration. -/
  | configure
  /-- A method, called on what a variable holds. -/
  | call (method : Method) (on : String)
  /-- A copy made as for all sets alike. -/
  | derivedCopy (on : String)
  /-- Taking out a member as for all sets alike. -/
  | popFirst (on : String)
  | list (on : String) (key : Option KeyFunction)
  | combine (op : SetOperator) (on other : String)
  | ask (question : Question) (on other : String)
  | operate (op : Operator) (left right : Term)
  | contains (on : String)
  | print (on : String)
  | truth (on : String)
  | iterate (on : String)
  | hash (on : String)
  | alias (on : String)
  | configOf (on : String)
  | sameConfig (on other : String)
  | sameObject (on other : String)
  /-- An assignment to a field of a configuration. -/
  | assign (on field : String)

namespace Act

/-- Makes a set of the given elements, each once. -/
def new (elements : List Value) (named : List (String × Value)) : Act Value :=
  construct .inMemory elements named

/-- Makes a set of the keys of a table. -/
def keySet (entries : List (Term × Term)) (named : List (String × Value)) : Act Value := do
  let merged := Members.mergeEntries (← Term.evalEntries entries)
  let signature : Signature :=
    { operation := "key_set", receiver := "mapping", byName := named.map (·.1) }
  let _ ← bindCall signature [.null] named
  construct .inMemory (merged.map (·.1)) named

/-- Takes out the first member of what a variable holds. -/
def popFirstOf (name : String) (args : List Value) : Act Value := do
  let v ← valueOf name
  let bound ← bindCall (Method.pop.signatureIn .collection) (v :: args) []
  popFirst v bound

/-- The members of the set in a variable as they are listed. -/
def listOf (name : String) (key : Option KeyFunction) : Act Value := do
  let v ← calledOf name "list"
  match v, key with
  | .handle h, none => do fresh (.list (← list (← fetch h)))
  | .handle h, some f => do
    let before := SortKey.lessThan (← precedence)
    fresh (.list (← (← fetch h).listBy before (f.apply print sizeOf look (fieldOf "value"))))
  | v, none => do
    match ← callOwn? v "list" with
    | some made => return made
    | none => throw (v.missingCommon "list" "self")
  | v, _ => throw (v.missingCommon "list" "self")

/-- Whether what a variable holds contains a value. -/
def contains (name : String) (args : List Value) : Act Bool := do
  let v ← valueOf name
  let x ← firstOf args
  match v with
  | .handle _ => hasIn v x
  | .config c => configContains c x
  | v => do
    let session ← get
    MonadExcept.ofExcept (Value.contains session.sameness session.look v x)

/-- The printed form of what a variable holds. That of a truth value is always the same object. -/
def printed (name : String) : Act Value := do
  match ← valueOf name with
  | .bool b => return .text (boolLiteral b)
  | v => do create (.text (← print v))

/-- The hash of a configuration that was reached into: that of its fields. If it lacks one, the hash
is not settled in advance. -/
def hashInside (i : Inside) : Act Value := do
  let es := (← get).entries i.table
  let fields := Settings.fieldNames.filterMap fun name => Inside.lookup name es
  let v := Value.tuple fields
  MonadExcept.ofExcept v.requireHash
  match v.hash? with
  | some h => if fields.length == Settings.fieldNames.length then fresh (.int h) else return .null
  | none => return .null

/-- The hash of what a variable holds, if it is settled in advance. -/
def hash (name : String) : Act Value := do
  match ← valueOf name with
  | .config c => match (← get).inside? c with
    | some i => hashInside i
    | none => return .null
  | v =>
    MonadExcept.ofExcept v.requireHash
    match v.hash? with
    | some h => fresh (.int h)
    | none => return .null

end Act

namespace Step

open Act in
/-- What a step does and answers, given the values of its arguments. -/
def run (args : List Value) (named : List (String × Value)) : Step → Act Value
  | .construct cls => Act.construct cls args named
  | .new => Act.new args named
  | .keySet entries => Act.keySet entries named
  | .configure => do
    let identity ← freshIdentity
    return .config { identity, settings := ← MonadExcept.ofExcept (Settings.readNamed named) }
  | .call method on => Act.call method on args named
  | .derivedCopy on => do Act.derivedCopy (← valueOf on)
  | .popFirst on => popFirstOf on args
  | .list on key => listOf on key
  | .combine op on other => combineVariables op on other
  | .ask question on other => return .bool (← askVariables question on other)
  | .operate op left right => do
    let v ← left.eval
    let w ← right.eval
    Act.operate op v w
  | .contains on => return .bool (← Act.contains on args)
  | .print on => printed on
  | .truth on => do return .bool ((← get).isTrue (← valueOf on))
  | .iterate on => do fresh (.list (← items (← valueOf on)))
  | .hash on => Act.hash on
  | .alias on => valueOf on
  | .configOf on => Act.configOf on
  | .sameConfig on other => do
    return .bool ((← Act.configOf on).isSameObject (← Act.configOf other))
  | .sameObject on other => do
    return .bool ((← valueOf on).isSameObject (← valueOf other))
  | .assign on field => Act.assign on field args

end Step

end ValueSets
