import EntityGen.TypeScript.FieldForm
import EntityGen.TypeScript.Import

/-!
Contract: the text of a class file.

Owns: the layout of import lines, class declaration and fields.

Does not own: the forms of the fields, and which imports there are.
-/

namespace EntityGen.TypeScript

def fileExtension : String := "ts"

/-- The import lines and the empty line that follows them. -/
def importSection (imported : List Import) : String :=
  if imported.isEmpty then ""
  else String.join (imported.map fun entry => entry.line ++ "\n") ++ "\n"

def fieldLine (policy : NamingPolicy) (field : Field) : String :=
  "  public " ++ field.name ++ (fieldForm policy field.type).suffix ++ ";\n"

def renderWith (policy : NamingPolicy) (className : String) (fields : FieldTable)
    (imported : List Import) : String :=
  importSection imported ++
    "export class " ++ policy.identifier className ++ " \x7b\n" ++
    String.join (fields.toList.map (fieldLine policy)) ++ "\x7d\n"

/-- The file of a class with the imports that its fields need. -/
def render (policy : NamingPolicy) (className : String) (fields : FieldTable) : String :=
  renderWith policy className fields (imports policy className fields)

end EntityGen.TypeScript
