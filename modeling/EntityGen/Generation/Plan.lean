import EntityGen.Generation.Config
import EntityGen.Generation.Error
import EntityGen.TypeScript.File

/-!
Contract: which file each class of a table goes to.

Owns:
- the destination of a class below a folder;
- the folder of a group;
- `plan`, which gives every class a destination of its own or names the first
  two classes that share one.

Does not own: writing the files.
-/

namespace EntityGen

/-- A file to write: the class, its fields and the destination. -/
structure PlannedFile where
  className : String
  fields : FieldTable
  path : FilePath
deriving DecidableEq, Repr

def PlannedFile.text (naming : NamingPolicy) (planned : PlannedFile) : String :=
  TypeScript.render naming planned.className planned.fields

namespace Config

def destinationBelow (config : Config) (folder : FilePath) (className : String) : FilePath :=
  (folder.join (config.naming.file className)).withExtension TypeScript.fileExtension

def destination (config : Config) (className : String) : FilePath :=
  config.destinationBelow config.outputFolder className

def groupFolderStart : String := "ws_"

def groupFolder (config : Config) (group : String) : FilePath :=
  config.outputFolder.join (.ofString (groupFolderStart ++ group))

def render? (config : Config) (table : ClassTable) (className : String) : Option String :=
  (table.get? className).map (TypeScript.render config.naming className)

/-- The planned files after `earlier` ones, in the order of the classes. -/
def planFrom (config : Config) (folder : FilePath) (earlier : List PlannedFile) :
    List (String × FieldTable) → Except GenerationError (List PlannedFile)
  | [] => .ok earlier
  | (className, fields) :: others =>
    let path := config.destinationBelow folder className
    match earlier.find? (·.path.sameAs path) with
    | some owner => .error (.sharedDestination path owner.className className)
    | none => config.planFrom folder (earlier ++ [⟨className, fields, path⟩]) others

def plan (config : Config) (folder : FilePath) (table : ClassTable) :
    Except GenerationError (List PlannedFile) :=
  config.planFrom folder [] table.toList

/-- The files of several groups, each below the folder of its group. -/
def planGroups (config : Config) :
    List (String × ClassTable) → Except GenerationError (List PlannedFile)
  | [] => .ok []
  | (group, table) :: others => do
    let first ← config.plan (config.groupFolder group) table
    let rest ← config.planGroups others
    .ok (first ++ rest)

end Config
end EntityGen
