import EntityGen.Fields.Classes

/-!
Contract: collecting the fields of a model, and the merge.

Owns:
- `Collector`, the classes collected so far and the parents noted so far;
- the choice of properties by group;
- the merge, by which a class takes over fields of the classes derived from it.

Does not own: where the classes come from, and files written for them.

Without groups every class of the model is entered. With groups a class is
entered by its first property in one of them, so classes without one are left
out. The merge looks one level down: a class takes over what its children
collected themselves, not what the children took over.
-/

namespace EntityGen

open EntityGen.Model (ClassDecl DataType Property)

/-- A chosen property has no type. -/
structure UntypedField where
  className : String
  fieldName : String
deriving DecidableEq, Repr

/-- The parent noted for a class is not in the table. -/
structure AbsentParent where
  parent : String
  child : String
deriving DecidableEq, Repr

/-- A class table under construction. Without groups every property is
chosen. -/
structure Collector where
  groups : List String := []
  table : ClassTable := {}
  parents : Std.TreeMap String String := {}

namespace Collector

def forGroups (groups : List String) : Collector := { groups := groups }

/-- The collector with `parent` noted for the class, in place of an earlier
one. -/
def noteParent (collector : Collector) (className parent : String) : Collector :=
  { collector with parents := collector.parents.insert className parent }

/-- The collector after one field. Without a type nothing is added. -/
def takeField (collector : Collector) (className fieldName : String)
    (type : Option DataType) : Except UntypedField Unit × Collector :=
  match type with
  | none => (.error ⟨className, fieldName⟩, collector)
  | some found =>
    (.ok (), { collector with
      table := (collector.table.enter className).modify className (·.put fieldName found) })

def chooses (collector : Collector) (property : Property) : Bool :=
  collector.groups.isEmpty || property.carriesAny collector.groups

/-- The collector after properties of one class, up to the first chosen one
without a type. -/
def takeProperties (collector : Collector) (className : String) :
    List Property → Except UntypedField Unit × Collector
  | [] => (.ok (), collector)
  | property :: others =>
    if collector.chooses property then
      match collector.takeField className property.name property.type with
      | (.error untyped, stopped) => (.error untyped, stopped)
      | (.ok (), extended) => extended.takeProperties className others
    else collector.takeProperties className others

/-- The collector after the parent of a class, if it has one. -/
def takeParent (collector : Collector) (decl : ClassDecl) : Collector :=
  match decl.parent with
  | none => collector
  | some parent => collector.noteParent decl.name parent

/-- The collector with the class entered, unless that is left to its
properties. -/
def takeName (collector : Collector) (decl : ClassDecl) : Collector :=
  if collector.groups.isEmpty then { collector with table := collector.table.enter decl.name }
  else collector

/-- The collector after one class of the model. What was added before a property
without a type stays. -/
def takeClass (collector : Collector) (decl : ClassDecl) :
    Except UntypedField Unit × Collector :=
  ((collector.takeParent decl).takeName decl).takeProperties decl.name decl.properties

/-- The collector after a list of classes, up to the first chosen property
without a type. -/
def takeClasses (collector : Collector) : List ClassDecl → Except UntypedField Collector
  | [] => .ok collector
  | decl :: others =>
    match collector.takeClass decl with
    | (.error untyped, _) => .error untyped
    | (.ok (), extended) => extended.takeClasses others

/-- One step of the merge: what the collected class `child` gives to its
parent. -/
def mergeChild (parents : Std.TreeMap String String)
    (state : ClassTable × List AbsentParent) (child : String × FieldTable) :
    ClassTable × List AbsentParent :=
  match parents[child.1]? with
  | none => state
  | some parent =>
    if !state.1.contains parent then (state.1, state.2 ++ [⟨parent, child.1⟩])
    else if parent == child.1 then state
    else (state.1.modify parent (·.absorb child.2), state.2)

/-- The merged table, and the parents that were not found, in the order of their
children. -/
def merged (collector : Collector) : ClassTable × List AbsentParent :=
  collector.table.toList.foldl (mergeChild collector.parents) (collector.table, [])

end Collector
end EntityGen
