import AdFilter.Text.Basic

namespace AdFilter

/-!
# Maps from texts

A map keeps its keys in the order in which they were first given a value.
-/

/-- A map from texts to values, as the list of its keys with their values. -/
structure TextMap (α : Type) where
  entries : List (Text × α)
  deriving Repr, DecidableEq

namespace TextMap

variable {α : Type}

/-- The map without keys. -/
def empty : TextMap α := ⟨[]⟩

/-- The value of a key. -/
def get? (map : TextMap α) (key : Text) : Option α :=
  map.entries.lookup key

/-- Whether a key has a value. -/
def contains (map : TextMap α) (key : Text) : Bool :=
  (map.get? key).isSome

/-- The number of keys. -/
def size (map : TextMap α) : Nat :=
  map.entries.length

/-- Whether there are no keys. -/
def isEmpty (map : TextMap α) : Bool :=
  map.entries.isEmpty

/-- The keys in order. -/
def keys (map : TextMap α) : List Text :=
  map.entries.map Prod.fst

/-- Change the value of a key that is present, or add the key at the end. -/
def insert (map : TextMap α) (key : Text) (value : α) : TextMap α :=
  if map.contains key then
    ⟨map.entries.map fun entry => if entry.1 = key then (key, value) else entry⟩
  else
    ⟨map.entries ++ [(key, value)]⟩

/-- Drop a key. -/
def erase (map : TextMap α) (key : Text) : TextMap α :=
  ⟨map.entries.filter fun entry => entry.1 ≠ key⟩

/-- The map that a list of assignments, one after the other, makes. -/
def ofList (assignments : List (Text × α)) : TextMap α :=
  assignments.foldl (fun map assignment => map.insert assignment.1 assignment.2) empty

end TextMap

end AdFilter
