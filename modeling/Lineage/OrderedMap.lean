import Std.Data.HashMap

/-!
# Maps in the order of insertion

The reports list variables, blocks and rules in the order in which they were first seen, and look
them up by name.  The entries are kept in a list, and an index sends each key to the position of its
entry.  Replacing the value of a key leaves the key where it is.
-/

namespace Lineage

/-- A map from names that is listed in the order of first insertion. -/
structure OrderedMap (α : Type) where
  entries : Array (String × α)
  index : Std.HashMap String Nat

namespace OrderedMap

variable {α : Type}

/-- The map without an entry. -/
def empty : OrderedMap α :=
  ⟨#[], ∅⟩

/-- The entries in the order of first insertion. -/
def toList (map : OrderedMap α) : List (String × α) :=
  map.entries.toList

/-- The keys in the order of first insertion. -/
def keys (map : OrderedMap α) : List String :=
  map.toList.map (·.1)

/-- The values in the order in which their keys were first inserted. -/
def values (map : OrderedMap α) : List α :=
  map.toList.map (·.2)

/-- The number of entries. -/
def size (map : OrderedMap α) : Nat :=
  map.entries.size

/-- Whether there is no entry. -/
def isEmpty (map : OrderedMap α) : Bool :=
  map.entries.isEmpty

/-- The value of a key. -/
def get? (map : OrderedMap α) (key : String) : Option α :=
  map.index[key]?.bind fun position => map.entries[position]?.map (·.2)

/-- Whether the key has an entry. -/
def contains (map : OrderedMap α) (key : String) : Bool :=
  map.index.contains key

/-- Adds an entry at the end, for a key that has none. -/
def push (map : OrderedMap α) (key : String) (value : α) : OrderedMap α :=
  ⟨map.entries.push (key, value), map.index.insert key map.entries.size⟩

/-- Changes the value of a key that has an entry. -/
def modify (map : OrderedMap α) (key : String) (change : α → α) : OrderedMap α :=
  match map.index[key]? with
  | some position =>
    ⟨map.entries.modify position fun entry => (entry.1, change entry.2), map.index⟩
  | none => map

/-- Sets the value of a key.  The result holds the value that the key had before. -/
def insert (map : OrderedMap α) (key : String) (value : α) : Option α × OrderedMap α :=
  match map.index[key]? with
  | some _ => (map.get? key, map.modify key fun _ => value)
  | none => (none, map.push key value)

/-- The value of a key, which is set to `value` if the key has none. -/
def getOrInsert (map : OrderedMap α) (key : String) (value : α) : α × OrderedMap α :=
  match map.get? key with
  | some found => (found, map)
  | none => (value, map.push key value)

/-- The map with the value of a key set. -/
def set (map : OrderedMap α) (key : String) (value : α) : OrderedMap α :=
  (map.insert key value).2

end OrderedMap

end Lineage
