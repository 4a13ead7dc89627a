import EntityGen.Fields.Table
import Std.Data.TreeMap

/-!
Contract: classes with their fields, by name and in order.

Owns:
- `ClassTable`, the classes in the order in which they were entered, together
  with the position of each name;
- entering a class and changing the fields of a class.

Does not own: how classes are collected from a model, and what a class takes
over from the classes derived from it.
-/

namespace EntityGen

/-- Classes and their fields in the order of entry. `positions` says where the
class of a given name stands. -/
structure ClassTable where
  classes : Array (String × FieldTable) := #[]
  positions : Std.TreeMap String Nat := {}

namespace ClassTable

def empty : ClassTable := {}

def toList (table : ClassTable) : List (String × FieldTable) :=
  table.classes.toList

def size (table : ClassTable) : Nat := table.classes.size

/-- Whether there are no classes. -/
def isEmpty (table : ClassTable) : Bool := table.classes.isEmpty

/-- Where the class of that name stands. -/
def position? (table : ClassTable) (className : String) : Option Nat :=
  table.positions[className]?

/-- Whether there is a class of that name. -/
def contains (table : ClassTable) (className : String) : Bool :=
  table.positions.contains className

/-- The fields of the class of that name. -/
def get? (table : ClassTable) (className : String) : Option FieldTable :=
  (table.position? className).bind fun position =>
    table.classes[position]?.map Prod.snd

/-- The table with the class entered at the end, unless it is there already. -/
def enter (table : ClassTable) (className : String) : ClassTable :=
  if table.contains className then table
  else
    { classes := table.classes.push (className, .empty)
      positions := table.positions.insert className table.classes.size }

/-- The table with the fields of one class changed. A class that is not there is
not entered. -/
def modify (table : ClassTable) (className : String)
    (change : FieldTable → FieldTable) : ClassTable :=
  match table.position? className with
  | none => table
  | some position =>
    { table with
      classes := table.classes.modify position fun entry => (entry.1, change entry.2) }

end ClassTable
end EntityGen
