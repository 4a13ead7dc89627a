import EntityGen.Model.Basic

/-!
Contract: the fields of one class, by name and in order.

Owns:
- `FieldTable`, which keeps the order in which names were first used;
- putting a field over an earlier one of its name, and offering one that is
  taken only where its name is free.

Does not own: which properties become fields.
-/

namespace EntityGen

open EntityGen.Model (DataType)

/-- One field: its name and its type. -/
structure Field where
  name : String
  type : DataType
deriving DecidableEq, Repr

/-- Fields with distinct names, in the order in which the names were first
used. -/
structure FieldTable where
  entries : List Field := []
deriving DecidableEq, Repr

namespace FieldTable

def empty : FieldTable := ⟨[]⟩

def toList (table : FieldTable) : List Field := table.entries

def names (table : FieldTable) : List String := table.entries.map Field.name

def size (table : FieldTable) : Nat := table.entries.length

/-- Whether there are no fields. -/
def isEmpty (table : FieldTable) : Bool := table.entries.isEmpty

/-- The type of the field of that name. -/
def get? (table : FieldTable) (name : String) : Option DataType :=
  (Named.find? Field.name name table.entries).map Field.type

/-- Whether there is a field of that name. -/
def contains (table : FieldTable) (name : String) : Bool :=
  (table.get? name).isSome

/-- The table with the field of that name set to `type`. A name that was used
before keeps its place. -/
def put (table : FieldTable) (name : String) (type : DataType) : FieldTable :=
  ⟨Named.place Field.name ⟨name, type⟩ table.entries⟩

/-- The table with a new field at the end, or nothing if the name was used
before. -/
def offer? (table : FieldTable) (name : String) (type : DataType) : Option FieldTable :=
  (Named.add? Field.name ⟨name, type⟩ table.entries).map FieldTable.mk

/-- The table with a new field at the end, unless the name was used before. -/
def offer (table : FieldTable) (name : String) (type : DataType) : FieldTable :=
  (table.offer? name type).getD table

/-- The table after it was offered every field of `other` in order. -/
def absorb (table other : FieldTable) : FieldTable :=
  other.entries.foldl (fun result field => result.offer field.name field.type) table

end FieldTable
end EntityGen
