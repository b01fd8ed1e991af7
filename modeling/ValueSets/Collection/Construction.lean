import ValueSets.Collection.Storage
import ValueSets.Config.Reading

/-!
# Making sets

A set is made of elements and named options: either a configuration, which then decides alone, or
settings from which one is made. The class then applies the element type it fixes, and the elements
are added last, so the first fault in this order is the one reported.
-/

set_option autoImplicit false

namespace ValueSets

/-- The parameters that a set of a class is made with, apart from its elements. -/
def SetClass.signature (cls : SetClass) : Signature where
  operation := (if cls.isKeyed then SetClass.inMemory else cls).name ++ ".__init__"
  takesMore := true
  byName := if cls.isKeyed then ["element_type", "sorted_listing", "config"] else ["config"]

namespace Collection

/-- The configuration that the options of a set come to, and the value that stands in for it, if
there is one. A configuration object that is made on the way is named `identity`. `standIn` tells
what a value is like as a stand-in. -/
def configured (standIn : Value → StandIn) (cls : SetClass) (named : List (String × Value))
    (identity : Nat) : Except Fault (Config × Option StandIn) :=
  match named.lookup "config" with
  | some (.config c) =>
    let i := standIn (.config c)
    if i.inside?.isSome then cls.adopt i identity
    else do return (← cls.configure c identity, none)
  | none | some .null =>
    if cls.isKeyed then do
      return (← cls.configure { identity, settings := ← Settings.readNamed named } identity, none)
    else .ok (Config.shared, none)
  | some other => cls.adopt (standIn other) identity

/-- Makes a set. `identity` names the configuration object that is made on the way, if one is. -/
def construct (same : Sameness) (standIn : Value → StandIn) (cls : SetClass)
    (elements : List Value) (named : List (String × Value)) (identity : Nat) :
    Except Fault Collection := do
  match cls.signature.bind (.null :: elements) named with
  | .error fault => throw (.call fault)
  | .ok _ =>
    let (config, standIn?) ← configured standIn cls named identity
    inserted same { cls, config, members := [], standIn? } elements

end Collection

end ValueSets
