import ValueSets.Collection.Construction
import ValueSets.Collection.Method
import ValueSets.KeyFunction
import ValueSets.Session.Action

/-!
# Calls in a session

Making sets, and calling methods on values. The arguments of a call are assigned to the parameters
first, so a refused call does nothing. A method is found in the type that defines it, and is called
on the set that it was asked of; asked of a type of sets, it is called on its first argument, which
need not be a set. A value that is no set is asked for what the method needs of it, and what it
lacks first is the fault.
-/

set_option autoImplicit false

namespace ValueSets

/-- The fault of calling a method of sets, found in the type `home` of a class, on a value that is
no set. A type of sets has the method, but is given too little: `needed` is missing. -/
def Value.missingMethod (v : Value) (home : SetClass → Ty) (name : String) (needed : String) :
    Fault :=
  let missing (t : Ty) : Fault := .call (.missing (t.name ++ "." ++ name) [needed])
  match v with
  | .type .collection => missing .collection
  | .type (.sets cls) => missing (home cls)
  | v => v.missingField name

/-- The fault of calling a method that all sets share on a value that is no set. -/
def Value.missingCommon (v : Value) (name : String) (needed : String) : Fault :=
  v.missingMethod (fun _ => .collection) name needed

/-- The name of the operation of sets that makes an empty one like it. -/
def newEmpty : String := "_new_empty"

/-- The fault of asking a value that is no set for an empty set like it. -/
def Value.missingEmpty (v : Value) : Fault :=
  v.missingMethod Method.storage newEmpty "self"

namespace Act

/-- The value of a variable. -/
def valueOf (name : String) : Act Value := do
  match (← get).value? name with
  | some v => return v
  | none => throw (.unboundVariable name)

/-- The first of the arguments. -/
def firstOf (args : List Value) : Act Value :=
  match args with
  | [] => throw (.noItemAt .list)
  | x :: _ => return x

/-- Takes a new set into the session and answers it. -/
def answerSet (c : Except Fault Collection) : Act Value := do
  return .handle (← allocate (← MonadExcept.ofExcept c))

/-- Makes a set of evaluated arguments. -/
def construct (cls : SetClass) (elements : List Value) (named : List (String × Value)) :
    Act Value := do
  let identity ← freshIdentity
  let session ← get
  answerSet (Collection.construct session.sameness session.standIn cls elements named identity)

/-- The configuration of the set in a variable, or what stands in for it. -/
def configOf (name : String) : Act Value := do
  match ← valueOf name with
  | .handle h => do
    let c ← fetch h
    return match c.standIn? with
      | some i => i.value
      | none => .config c.config
  | v => fieldOf "config" v

/-- The value of a variable, of which an operation is to be called. What the value has of its own
under that name comes first, and cannot be called. -/
def calledOf (name operation : String) : Act Value := do
  let v ← valueOf name
  checkCall v operation
  return v

/-- What a value has of its own under the name of an operation, called on nothing: a type makes an
empty value. -/
def callOwn? (v : Value) (operation : String) : Act (Option Value) := do
  match ← ownField? v operation with
  | some (.type t) => t.empty?.mapM fresh
  | _ => return none

/-- The arguments of a call by parameter. -/
def bindCall (s : Signature) (args : List Value) (named : List (String × Value)) :
    Act (List (String × Value)) :=
  match s.bind args named with
  | .ok bound => return bound
  | .error fault => throw (.call fault)

/-- The default of a call, which an empty set answers in place of a member. -/
def defaultOf (bound : List (String × Value)) : Act Value :=
  match bound.lookup "default" with
  | some v => return v
  | none => throw .emptySet

/-- Takes out a member; an empty set answers the default, if one is given. -/
def popWith (h : Handle) (take : (Collection → Sameness) → Collection → Mutation (Option Value))
    (bound : List (String × Value)) : Act Value := do
  match ← mutate h take with
  | some v => return v
  | none => defaultOf bound

/-- The answer to a question about a set. -/
def ask (h : Handle) (question : Sameness → Collection → Except Fault Bool) : Act Bool := do
  MonadExcept.ofExcept (question (← sameness) (← fetch h))

/-- Whether a value, which should be a set, has a member. -/
def hasIn (v x : Value) : Act Bool := do
  checkCall v Method.has.name
  match v with
  | .handle h => ask h fun same c => c.has same x
  | v => throw (v.missingMethod Method.storage Method.has.name "element")

/-- The number of members or items of a value. -/
def sizeOf (v : Value) : Act Nat := do
  match v with
  | .handle h => return (← fetch h).size
  | v => MonadExcept.ofExcept (← look v).length?

/-- Takes out the first member, as it is done for all sets alike. A value that is no set but has
items has none to give up. -/
def popFirst (v : Value) (bound : List (String × Value)) : Act Value := do
  match v with
  | .handle h => popWith h (fun same c => c.popFirst same) bound
  | v =>
    if ← allItems v fun _ => return false then defaultOf bound
    else failCall v Method.delete.name (v.missingField Method.delete.name)

/-- Fails to make an empty set like a value that is no set. -/
def failEmpty {α : Type} (v : Value) : Act α := failCall v newEmpty v.missingEmpty

/-- A copy made as for all sets alike. -/
def derivedCopy (v : Value) : Act Value := do
  match v with
  | .handle h => answerSet ((← fetch h).derivedCopy (← sameness))
  | v => failEmpty v

/-- What a method that all sets share does to a value. Those that a class of sets has to define do
nothing here. -/
def callCommon (m : Method) (self : Value) (elements : List Value)
    (bound : List (String × Value)) : Act Value := do
  match m with
  | .insert | .delete | .has | .clear => return .null
  | .hasAll => match self with
    | .handle h => return .bool (← ask h fun same c => c.hasAll same elements)
    | v => return .bool (← elements.allM fun x => hasIn v x)
  | .hasAny => match self with
    | .handle h => return .bool (← ask h fun same c => c.hasAny same elements)
    | v => return .bool (← elements.anyM fun x => hasIn v x)
  | .size => do fresh (.int (← sizeOf self))
  | .unsortedList => do fresh (.list (← items self))
  | .copy => derivedCopy self
  | .pop => popFirst self bound

/-- What a method that depends on how members are kept does to a set. -/
def callStored (m : Method) (h : Handle) (elements : List Value)
    (bound : List (String × Value)) : Act Value := do
  match m with
  | .insert => do
    mutate h fun same c => c.insert same elements
    return .null
  | .delete => do
    mutate h fun same c => c.delete same elements
    return .null
  | .clear => do
    mutate h fun _ c => (.ok (), c.cleared)
    return .null
  | .has => do
    let x := (bound.lookup "element").getD .null
    return .bool (← ask h fun same c => c.has same x)
  | .copy => do
    let c ← MonadExcept.ofExcept ((← fetch h).copy (← sameness))
    return .handle (← if h.cls.isKeyed then allocateCopy c else allocate c)
  | .pop => popWith h (fun same c => c.pop same) bound
  | m => callCommon m (.handle h) elements bound

/-- What a value that does not keep members by key finds in place of an element type. -/
def elementValueOf (v : Value) : Act Value := do
  match v with
  | .handle h => do
    let c ← fetch h
    match c.standIn? with
    | some i => MonadExcept.ofExcept i.elementValue
    | none => return .ofElementType c.config.elementType
  | v => do
    let i := (← get).standIn (← fieldOf "config" v)
    MonadExcept.ofExcept i.elementValue

/-- The fault of a method of storage by key that is called on a value without such a storage. -/
def callWithoutStorage (m : Method) (self : Value) (elements : List Value) : Act Value := do
  let missing (field : String) : Act Value := failCall self field (self.missingField field)
  let store := "_store"
  match m, self with
  | .copy, .handle h => do
    let _ ← MonadExcept.ofExcept (← fetch h).emptied
    missing store
  | .copy, v => failEmpty v
  | .clear, _ | .pop, _ => missing store
  | m, self =>
    if m == .delete && elements.isEmpty then return .null
    match ← elementValueOf self with
    | .null => missing store
    | _ => missing (if m == .insert then "_check_types" else "_accepts")

/-- What a method that is found in the type `home` does to a value. -/
def callIn (home : Ty) (m : Method) (self : Value) (elements : List Value)
    (bound : List (String × Value)) : Act Value :=
  match home, self with
  | .sets cls, .handle h =>
    if h.cls.isKeyed == cls.isKeyed then callStored m h elements bound
    else callWithoutStorage m self elements
  | .sets _, self => callWithoutStorage m self elements
  | _, self => callCommon m self elements bound

/-- Calls a method of a set. -/
def callSet (m : Method) (h : Handle) (args : List Value) (named : List (String × Value)) :
    Act Value := do
  let bound ← bindCall (m.signature h.cls) (.handle h :: args) named
  callIn (m.home h.cls) m (.handle h) args bound

/-- Calls a method, found in the type `home`, on the first of the arguments. -/
def callUnbound (home : Ty) (m : Method) (args : List Value) (named : List (String × Value)) :
    Act Value := do
  let s := m.signatureIn home
  let bound ← bindCall s args named
  callIn home m ((bound.lookup s.receiver).getD .null) (args.drop 1) bound

end Act

end ValueSets
