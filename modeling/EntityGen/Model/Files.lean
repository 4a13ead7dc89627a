import EntityGen.File.Access
import EntityGen.Model.Reader
import EntityGen.Progress

/-!
Contract: the model that a list of files and directories holds.

Owns:
- `modelPaths`, the files of a model in their order, each place once;
- `readFiles`, their classes, of which no two may share a name.

Does not own: the reading of one text.

A root that is a directory stands for the files with the model extension at any
depth below it. Any other root stands for itself, whatever its extension.
-/

namespace EntityGen.Model

def modelSuffix : String := "xml"

/-- A failed file operation on a path as the cause for which a model is
refused. -/
def unreadableFile (path : FilePath) (cause : FileError) : ModelError :=
  .within path (.unreadable cause)

/-- The files for which a root stands. -/
def filesOfRoot (tree : FileTree) (root : FilePath) : Except ModelError (List FilePath) :=
  if tree.isDirectory root then
    ((tree.filesBelow root).mapError (unreadableFile root)).map fun files =>
      files.filter (·.extension? == some modelSuffix)
  else ((tree.entryAt root).mapError (unreadableFile root)).map fun _ => [root]

/-- The files for which the roots stand, root by root. -/
def filesOfRoots (tree : FileTree) : List FilePath → Except ModelError (List FilePath)
  | [] => .ok []
  | root :: others => do
    let first ← filesOfRoot tree root
    let rest ← filesOfRoots tree others
    .ok (first ++ rest)

/-- A list without the members that equal their predecessor as places. -/
def withoutRepeats : List FilePath → List FilePath
  | [] => []
  | [last] => [last]
  | first :: second :: others =>
    if first.sameAs second then withoutRepeats (first :: others)
    else first :: withoutRepeats (second :: others)

/-- The files of a model in path order. Of several spellings of one place the
first listed one is kept. -/
def modelPaths (tree : FileTree) (roots : List FilePath) : Except ModelError (List FilePath) :=
  (filesOfRoots tree roots).map fun files =>
    withoutRepeats (files.mergeSort fun left right => !right.before left)

def readFile (tree : FileTree) (path : FilePath) : Except ModelError (List ClassDecl) := do
  let text ← (tree.readText path).mapError (unreadableFile path)
  (readModel text).mapError (.within path)

/-- The classes so far with those of one more file, none of which may be
declared twice. -/
def addDistinct (path : FilePath) (known : List ClassDecl) :
    List ClassDecl → Except ModelError (List ClassDecl)
  | [] => .ok known
  | decl :: others =>
    if known.any (·.name == decl.name) then
      .error (.within path (.declaredTwice "class" decl.name))
    else addDistinct path (known ++ [decl]) others

/-- The classes so far with those of the given files, and the notes made while
they were read. -/
def readFilesFrom (tree : FileTree) (known : List ClassDecl) :
    List FilePath → Except ModelError (List ClassDecl) × List ProgressNote
  | [] => (.ok known, [])
  | path :: others =>
    match readFile tree path with
    | .error cause => (.error cause, [])
    | .ok found =>
      let note := ProgressNote.fileRead path found.length
      match addDistinct path known found with
      | .error cause => (.error cause, [note])
      | .ok extended =>
        let (result, notes) := readFilesFrom tree extended others
        (result, note :: notes)

/-- The classes of a model, file after file, and the notes made while they
were read. -/
def readFiles (tree : FileTree) (roots : List FilePath) :
    Except ModelError (List ClassDecl) × List ProgressNote :=
  match modelPaths tree roots with
  | .error cause => (.error cause, [])
  | .ok files => readFilesFrom tree [] files

end EntityGen.Model
