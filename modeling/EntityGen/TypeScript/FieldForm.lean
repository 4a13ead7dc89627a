import EntityGen.Naming.Policy

/-!
Contract: the TypeScript side of a data type.

Owns:
- `FieldForm`, a field with a type or with an initial value;
- the table of scalar names;
- the types of fields that refer to other classes.

Does not own: imports and the layout of a file.
-/

namespace EntityGen.TypeScript

open EntityGen.Model (DataType Element dateTimeClass)

/-- What follows the name of a field. -/
inductive FieldForm where
  | typed (type : String)
  | initialised (value : String)
deriving DecidableEq, Repr

def FieldForm.suffix : FieldForm → String
  | .typed type => ": " ++ type
  | .initialised value => " = " ++ value

/-- A moment in time is written as a string. -/
def momentAsText (name : String) : String :=
  if name == dateTimeClass then "string" else name

/-- The form of a scalar field. Names that are not in the table are kept. -/
def scalarForm (name : String) : FieldForm :=
  match name with
  | "int" | "integer" | "float" | "double" => .typed "number"
  | "bool" | "boolean" => .typed "boolean"
  | "array" | "iterable" => .initialised "[]"
  | other => .typed (momentAsText other)

/-- The name by which a field refers to a class. -/
def referenceName (policy : NamingPolicy) (className : String) : String :=
  momentAsText (policy.identifier className)

def memberType (policy : NamingPolicy) : Element → String
  | .object className => referenceName policy className
  | .scalar name =>
    match scalarForm name with
    | .typed type => type
    | .initialised _ => "any[]"

/-- The form of a field. Whether the value may be null is not shown. -/
def fieldForm (policy : NamingPolicy) (type : DataType) : FieldForm :=
  if type.collection then .typed (memberType policy type.element ++ "[]")
  else
    match type.element with
    | .object className => .typed (referenceName policy className)
    | .scalar name => scalarForm name

end EntityGen.TypeScript
