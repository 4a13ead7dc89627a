import EntityGen.Model.Named

/-!
Contract: what a domain model says.

Owns:
- the element and the data type of a property;
- properties, classes and the two ways to put a property into a class;
- group membership.

Does not own: reading a model from text, and any output made of it.
-/

namespace EntityGen.Model

/-- Separates the namespaces of a class name. -/
def separator : Char := '\\'

/-- The class that stands for a moment in time. It has no file of its own. -/
def dateTimeClass : String := "DateTime"

/-- What a value is made of: a scalar, or an object of a named class. -/
inductive Element where
  | scalar (name : String)
  | object (name : String)
deriving DecidableEq, Repr

def Element.name : Element → String
  | .scalar name => name
  | .object name => name

/-- The type of a property. -/
structure DataType where
  element : Element
  collection : Bool := false
  nullable : Bool := false
deriving DecidableEq, Repr

/-- The class that values of the type refer to. -/
def DataType.target? (type : DataType) : Option String :=
  match type.element with
  | .object name => some name
  | .scalar _ => none

/-- A property of a class. The type may be left open, and the property may
belong to any number of groups. -/
structure Property where
  name : String
  type : Option DataType := none
  groups : List String := []
deriving DecidableEq, Repr

def Property.carriesAny (property : Property) (groups : List String) : Bool :=
  property.groups.any (groups.contains ·)

/-- A class: its full name, the name of its parent and its properties in the
order in which they were declared. -/
structure ClassDecl where
  name : String
  parent : Option String := none
  properties : List Property := []
deriving DecidableEq, Repr

namespace ClassDecl

/-- The first property with the given name. -/
def property? (decl : ClassDecl) (name : String) : Option Property :=
  Named.find? Property.name name decl.properties

/-- The class with `property` in the place of the one it had by that name. -/
def redeclare (decl : ClassDecl) (property : Property) : ClassDecl :=
  { decl with properties := Named.place Property.name property decl.properties }

/-- The class with `property` after the others, or nothing if the name is
already taken. -/
def declare? (decl : ClassDecl) (property : Property) : Option ClassDecl :=
  (Named.add? Property.name property decl.properties).map fun properties =>
    { decl with properties }

def extending (decl : ClassDecl) (parent : String) : ClassDecl :=
  { decl with parent := some parent }

def qualifiedName (decl : ClassDecl) (property : Property) : String :=
  decl.name ++ "::" ++ property.name

end ClassDecl
end EntityGen.Model
