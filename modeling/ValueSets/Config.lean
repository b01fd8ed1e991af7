import ValueSets.Ty

/-!
# Configurations of sets

What a set may hold and how it is listed. A configuration is an object of its own, shared by a set
and the sets derived from it, so it carries an identity beside its settings. One that was reached
into may hold what no settings can tell.
-/

set_option autoImplicit false

namespace ValueSets

/-- The choices a configuration makes. -/
structure Settings where
  /-- The only type of elements the set takes, if it is restricted. -/
  elementType : Option Ty := none
  /-- Whether members with a natural order are listed in it. -/
  sortedListing : Bool := true
deriving DecidableEq, Repr

/-- What sets a configuration apart that holds what no settings can tell. -/
structure Oddity where
  /-- A number that it shares with the odd configurations that are equal to it. -/
  likeness : Nat
  /-- The printed form of its fields, if they hold what no settings can tell. -/
  fields? : Option String := none
  /-- Whether it is kept by key for fields that it no longer has. -/
  isMisplaced : Bool := false
  /-- The type of the part that keeps it from being hashed, if there is one. -/
  unhashable? : Option Ty := none
deriving DecidableEq, Repr

/-- A configuration object. -/
structure Config where
  /-- Tells one configuration object from another. -/
  identity : Nat
  settings : Settings
  oddity? : Option Oddity := none
deriving DecidableEq, Repr

namespace Config

/-- The element type that a configuration restricts a set to. -/
def elementType (c : Config) : Option Ty := c.settings.elementType

/-- Whether members with a natural order are listed in it. -/
def sortedListing (c : Config) : Bool := c.settings.sortedListing

/-- The configuration of the sets that are made without one and do not make their own. -/
def shared : Config := { identity := 0, settings := {} }

end Config

end ValueSets
