import ValueSets.Members
import ValueSets.Value.Hash

/-!
# The places of the items of a value set

A value set keeps its items at places of a table, and is walked in the order of the places. The
place of an item is the first free one on a path that its hash decides, or, if places of dropped
items come before that one, the last of those. A table that gets three fifths full is replaced by a
larger one, into which the items move in the order of their places; a place of a dropped item counts
as full until then. A hash that is not settled in advance counts as zero here.

`Slots.items` are the items in the order of their places. `Slots.add`, `Slots.drop` and
`Slots.merge` change a table.
-/

set_option autoImplicit false

namespace ValueSets

/-- A place of a table. -/
inductive Slot where
  | free
  | dropped
  | taken (v : Value)

/-- The places of a table; their number is a power of two. -/
abbrev Slots := Array Slot

namespace Slot

/-- The item at a place. -/
def item? : Slot → Option Value
  | .taken v => some v
  | _ => none

/-- Whether a place was never used. -/
def isFree : Slot → Bool
  | .free => true
  | _ => false

/-- Whether the item of a place was dropped. -/
def isDropped : Slot → Bool
  | .dropped => true
  | _ => false

/-- A place whose item is dropped if it is the same key as `x`. -/
def without (x : Value) : Slot → Slot
  | .taken v => if v.sameKey x then .dropped else .taken v
  | slot => slot

end Slot

namespace Slots

/-- The least number of places. -/
def leastSize : Nat := 8

/-- A table of free places. -/
def ofSize (size : Nat) : Slots := Array.replicate size .free

/-- A table for no items. -/
def none : Slots := ofSize leastSize

/-- The items in the order of their places. -/
def items (t : Slots) : List Value := t.toList.filterMap Slot.item?

/-- The number of places that are not free. -/
def filled (t : Slots) : Nat := t.countP fun slot => !slot.isFree

/-- Whether no place is that of a dropped item. -/
def isClean (t : Slots) : Bool := !t.any Slot.isDropped

/-- The bits of the hash that the path of an item begins with. -/
def bitsOf (v : Value) : Nat := (Hashing.word (v.hash?.getD 0)).toNat

/-- The number of neighbours that are tried behind a stop of a path, if there are as many. -/
def neighbours : Nat := 9

/-- The places that are tried at a stop of a path. -/
def stretch (t : Slots) (stop : Nat) : List Nat :=
  List.range' stop (if stop + neighbours < t.size then neighbours + 1 else 1)

/-- Whether a place is free. -/
def isFreeAt (t : Slots) (place : Nat) : Bool := t[place]?.any Slot.isFree

/-- Whether a place is that of a dropped item. -/
def isDroppedAt (t : Slots) (place : Nat) : Bool := t[place]?.any Slot.isDropped

/-- The place for an item on a path of so many stops: the last one of a dropped item before the
first free one, `dropped` if there is none on this path, or else the free one. The bits that are
left decide where the next stop is, as long as there are any. -/
def placeFor? (t : Slots) (stop bits : Nat) (dropped : Option Nat) : Nat → Option Nat
  | 0 => dropped
  | stops + 1 =>
    let tried := stretch t stop
    let passed := tried.takeWhile fun place => !t.isFreeAt place
    let dropped := (passed.filter t.isDroppedAt).getLast?.or dropped
    match tried[passed.length]? with
    | some place => some (dropped.getD place)
    | Option.none =>
      let left := bits / 32
      placeFor? t ((stop * 5 + 1 + left) % t.size) left dropped stops

/-- Puts an item at its place. A path has passed all places once the bits are used up and it has
made as many stops as there are places. -/
def put (t : Slots) (v : Value) : Slots :=
  let bits := bitsOf v
  match placeFor? t (bits % t.size) bits Option.none (t.size + 13) with
  | some place => t.setIfInBounds place (.taken v)
  | Option.none => t

/-- The number of places of a table with room for more than `count` items. -/
def sizeFor (count : Nat) : Nat := max leastSize (Nat.pow 2 (Nat.log2 count + 1))

/-- Moves the items to a table with room for more than `count` items. A least table stays as it is
if it is clean. -/
def resized (t : Slots) (count : Nat) : Slots :=
  let size := sizeFor count
  if size == leastSize && t.size == leastSize && t.isClean then t
  else t.items.foldl put (ofSize size)

/-- Moves the items to a table with room for many more. -/
def spread (t : Slots) : Slots :=
  let count := t.items.length
  t.resized (count * (if 50000 < count then 2 else 4))

/-- Adds an item, unless there is one of the same key. -/
def add (t : Slots) (v : Value) : Slots :=
  if v.hasKey t.items then t
  else
    let t := put t v
    if t.filled * 5 < (t.size - 1) * 3 then t else t.spread

/-- Adds items one after the other. -/
def addAll (t : Slots) (vs : List Value) : Slots := vs.foldl add t

/-- Drops the item of the same key as `x`. -/
def drop (t : Slots) (x : Value) : Slots := t.map (Slot.without x)

/-- Rebuilds a table of which more than a quarter of the places are those of dropped items. -/
def tidied (t : Slots) : Slots :=
  if t.countP Slot.isDropped ≤ (t.size - 1) / 4 then t else t.spread

/-- Makes room for so many further items, before they are added. -/
def prepared (t : Slots) (count : Nat) : Slots :=
  if (t.filled + count) * 5 < (t.size - 1) * 3 then t
  else t.resized ((t.items.length + count) * 2)

/-- Adds the items of another table. A table without items takes over the places. -/
def merge (t other : Slots) : Slots :=
  if other.items.isEmpty then t
  else
    let t := t.prepared other.items.length
    if t.filled == 0 then
      if t.size == other.size && other.isClean then other else other.items.foldl put t
    else t.addAll other.items

/-- A copy, which has room for its items but no places of dropped ones. -/
def copy (t : Slots) : Slots := none.merge t

/-- The table of keys that are added one after the other. -/
def ofKeys (keys : List Value) : Slots := none.addAll keys

/-- The table that a layout says for items. -/
def ofLayout (vs : List Value) (layout : Layout) : Slots :=
  if layout.taken.length == vs.length then
    let marked := layout.dropped.foldl (fun t place => t.setIfInBounds place .dropped)
      (ofSize layout.size)
    (layout.taken.zip vs).foldl (fun t p => t.setIfInBounds p.1 (.taken p.2)) marked
  else ofKeys vs

/-- The places of which a question holds. -/
def placesOf (t : Slots) (question : Slot → Bool) : List Nat :=
  t.toList.zipIdx.filterMap fun p => if question p.1 then some p.2 else Option.none

/-- The layout of a table. -/
def layout (t : Slots) : Layout where
  size := t.size
  taken := t.placesOf fun slot => slot.item?.isSome
  dropped := t.placesOf Slot.isDropped

/-- The value set that can change, with the items of a table. -/
def toSet (t : Slots) : Value := .set t.items t.layout

/-- The value set that cannot change, with the items of a table. -/
def toFrozenSet (t : Slots) : Value := .frozenSet t.items 0 t.layout

end Slots

/-- The places of the items of a value set. -/
def Value.slots? : Value → Option Slots
  | .set items layout => some (Slots.ofLayout items layout)
  | .frozenSet items _ layout => some (Slots.ofLayout items layout)
  | _ => none

end ValueSets
