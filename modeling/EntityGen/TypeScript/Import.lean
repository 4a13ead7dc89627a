import EntityGen.Fields.Table
import EntityGen.Naming.Policy

/-!
Contract: the imports of a class file.

Owns:
- `Import` and its line;
- which fields of a class need an import, each line once.

Does not own: where class files lie.
-/

namespace EntityGen.TypeScript

open EntityGen.Model (dateTimeClass)

/-- An imported class and the path of its file. -/
structure Import where
  name : String
  path : String
deriving DecidableEq, Repr

/-- The line of an import, without a line end. -/
def Import.line (imported : Import) : String :=
  "import \x7b " ++ imported.name ++ " \x7d from '" ++ imported.path ++ "';"

/-- Whether a file of the class `source` does without an import of `target`:
moments in time are strings, and no file imports the class it declares or one
of the same identifier. -/
def needsNoImport (policy : NamingPolicy) (source target : String) : Bool :=
  policy.identifier target == dateTimeClass ||
    policy.identifier target == policy.identifier source ||
    policy.sameName target source

/-- The import of `target` in the file of `source`. -/
def importOf (policy : NamingPolicy) (source target : String) : Import :=
  ⟨policy.identifier target, policy.importPath target source⟩

/-- The classes to which fields refer, in the order of the fields. -/
def targets (fields : FieldTable) : List String :=
  fields.toList.filterMap (·.type.target?)

/-- The list without imports whose line is that of an earlier one; `seen` are
the lines so far. -/
def distinctLines (seen : List String) : List Import → List Import
  | [] => []
  | imported :: others =>
    if seen.contains imported.line then distinctLines seen others
    else imported :: distinctLines (imported.line :: seen) others

/-- The imports of the file of `source`, in the order of its fields. -/
def imports (policy : NamingPolicy) (source : String) (fields : FieldTable) : List Import :=
  distinctLines []
    (((targets fields).filter (!needsNoImport policy source ·)).map (importOf policy source))

end EntityGen.TypeScript
