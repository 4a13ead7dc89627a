import EntityGen.File.Error
import EntityGen.File.Tree

/-!
Contract: reading and writing files by path.

Owns:
- following a path from piece to piece;
- reading a text, listing the files below a directory;
- making a directory, making it with those above it, and writing a text;
- which failure each of these meets first.

Does not own: the files that exist, and what the texts mean.

A path is followed through directories that exist; only its last piece may be
new. What fails leaves the tree as it is, except that directories above one
that cannot be made may have been made before.
-/

namespace EntityGen
namespace FileTree

/-- The longest name, in bytes. -/
def longestName : Nat := 255

/-- The longest path, in bytes. -/
def longestPath : Nat := 4095

/-- Goes from a directory to what a piece of a path names in it. -/
def stepInto (tree : FileTree) (location : Location) (piece : String) :
    Except FileError Location :=
  match tree.lookup location with
  | none => .error .notFound
  | some (.file _) => .error .notDirectory
  | some .directory =>
    if piece = "" ∨ piece = "." then .ok location
    else if piece = ".." then .ok location.dropLast
    else if piece.utf8ByteSize > longestName then .error .nameTooLong
    else .ok (location ++ [piece])

/-- Where a path starts. -/
def startOf (tree : FileTree) (path : FilePath) : Location :=
  if path.isAbsolute then [] else tree.current

/-- Whether a text can be a path at all. -/
def checkPath (path : FilePath) : Except FileError Unit :=
  let text := path.toString
  if text.toList.contains (Char.ofNat 0) then .error .containsNul
  else if text.isEmpty then .error .notFound
  else if text.utf8ByteSize > longestPath then .error .nameTooLong
  else .ok ()

/-- Follows the pieces of a path. The last one need not exist. -/
def follow (tree : FileTree) (path : FilePath) : Except FileError Location := do
  checkPath path
  path.pieces.foldlM tree.stepInto (tree.startOf path)

def entryAt (tree : FileTree) (path : FilePath) : Except FileError Entry := do
  match tree.lookup (← tree.follow path) with
  | some entry => .ok entry
  | none => .error .notFound

def isDirectory (tree : FileTree) (path : FilePath) : Bool :=
  match tree.entryAt path with
  | .ok .directory => true
  | _ => false

/-- The text of the file to which a path leads. -/
def readText (tree : FileTree) (path : FilePath) : Except FileError String := do
  match ← tree.entryAt path with
  | .directory => .error .isDirectory
  | .file (.text text) => .ok text
  | .file (.binary _) => .error .notText

/-- Whether the text of a path is short enough to be opened. -/
def isShort (path : FilePath) : Bool :=
  path.toString.utf8ByteSize ≤ longestPath

/-- The files below the directory to which a path leads, at any depth, each as
the path continued by its names. A directory whose path is too long is not
entered. -/
def filesBelow (tree : FileTree) (path : FilePath) : Except FileError (List FilePath) := do
  let directory ← tree.follow path
  .ok ((tree.entriesBelow directory).filterMap fun found =>
    match found.2 with
    | .directory => none
    | .file _ =>
      if isShort (path.continuedBy found.1.dropLast) then some (path.continuedBy found.1)
      else none)

/-- The last piece of a path and the directory in which it is looked up.
Slashes at the end do not count; without any other piece there is none. -/
def lastStep (tree : FileTree) (path : FilePath) :
    Except FileError (Location × Option String) := do
  checkPath path
  let written := (path.pieces.reverse.dropWhile (·.isEmpty)).reverse
  let directory ← written.dropLast.foldlM tree.stepInto (tree.startOf path)
  match tree.lookup directory with
  | some .directory => .ok (directory, written.getLast?)
  | some (.file _) => .error .notDirectory
  | none => .error .notFound

def makeDirectory (tree : FileTree) (path : FilePath) : Except FileError FileTree := do
  match ← tree.lastStep path with
  | (_, none) | (_, some ".") | (_, some "..") => .error .alreadyExists
  | (directory, some name) =>
    let location ← tree.stepInto directory name
    match tree.lookup location with
    | some _ => .error .alreadyExists
    | none => .ok (tree.place location .directory)

/-- A directory that is there already is as good as one that is made. -/
def orExisting (tree : FileTree) (path : FilePath) (cause : FileError) :
    Except FileError Unit :=
  if cause = .alreadyExists ∧ tree.isDirectory path then .ok () else .error cause

/-- Makes the first of the given directories, where each lies in the next, and
those of the others that it needs. -/
def makeDirectories (tree : FileTree) : List FilePath → Except FileError Unit × FileTree
  | [] => (.ok (), tree)
  | path :: outer =>
    match tree.makeDirectory path with
    | .ok extended => (.ok (), extended)
    | .error .notFound =>
      match tree.makeDirectories outer with
      | (.error cause, reached) => (.error cause, reached)
      | (.ok (), reached) =>
        match reached.makeDirectory path with
        | .ok extended => (.ok (), extended)
        | .error cause => (reached.orExisting path cause, reached)
    | .error cause => (tree.orExisting path cause, tree)

/-- A path and its parents, without the root and the empty path. -/
def lineage : Nat → FilePath → List FilePath
  | 0, _ => []
  | count + 1, path =>
    match path.parent? with
    | none => []
    | some parent => path :: lineage count parent

/-- Makes a directory and those above it that do not exist. -/
def makeDirectoryTree (tree : FileTree) (path : FilePath) : Except FileError Unit × FileTree :=
  tree.makeDirectories (lineage path.components.length path)

/-- Writes a text to a new file, or over the one that is there. -/
def writeText (tree : FileTree) (path : FilePath) (text : String) :
    Except FileError FileTree := do
  let endsInSlash := path.pieces.getLast? == some ""
  match ← tree.lastStep path with
  | (_, none) | (_, some ".") | (_, some "..") => .error .isDirectory
  | (directory, some name) =>
    if endsInSlash then .error .isDirectory
    else
      let location ← tree.stepInto directory name
      match tree.lookup location with
      | some .directory => .error .isDirectory
      | _ => .ok (tree.place location (.file (.text text)))

end FileTree
end EntityGen
