import EntityGen.File.Access
import EntityGen.Generation.Error

/-!
Contract: writing one file of the output.

Owns: the two steps of it, the directory and the text, and which path a failure
of each names.

Does not own: the file system, and which files are written.
-/

namespace EntityGen.Output

/-- Makes the directory of a file, if its path has one. -/
def makeFolderOf (tree : FileTree) (path : FilePath) :
    Except GenerationError Unit × FileTree :=
  match path.parent? with
  | none => (.ok (), tree)
  | some folder =>
    if folder.isEmpty then (.ok (), tree)
    else
      let (made, reached) := tree.makeDirectoryTree folder
      (made.mapError (.unwritable folder), reached)

/-- Writes a text to a file, whose directory is made if need be. -/
def saveText (tree : FileTree) (path : FilePath) (text : String) :
    Except GenerationError Unit × FileTree :=
  match makeFolderOf tree path with
  | (.error cause, reached) => (.error cause, reached)
  | (.ok (), reached) =>
    match reached.writeText path text with
    | .ok written => (.ok (), written)
    | .error cause => (.error (.unwritable path cause), reached)

end EntityGen.Output
