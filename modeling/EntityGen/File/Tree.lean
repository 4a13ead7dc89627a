import EntityGen.File.Path

/-!
Contract: the directories and files that exist.

Owns:
- `FileTree`, what lies at each location, and the current directory;
- looking up a location and placing an entry at one;
- what differs between two trees.

Does not own: paths and the rules of following them.

A location is the list of names from the root. The root always is a directory.
-/

namespace EntityGen

/-- A place in the tree: the names that lead to it from the root. -/
abbrev Location := List String

/-- What a file holds: text, or bytes that are no text. -/
inductive Content where
  | text (written : String)
  | binary (bytes : ByteArray)

instance : DecidableEq Content
  | .text left, .text right =>
    if same : left = right then isTrue (congrArg Content.text same)
    else isFalse fun equal => same (Content.text.inj equal)
  | .binary left, .binary right =>
    if same : left.data = right.data then isTrue (congrArg Content.binary (ByteArray.ext same))
    else isFalse fun equal => same (congrArg ByteArray.data (Content.binary.inj equal))
  | .text _, .binary _ => isFalse Content.noConfusion
  | .binary _, .text _ => isFalse Content.noConfusion

def Content.ofBytes (bytes : ByteArray) : Content :=
  match String.fromUTF8? bytes with
  | some decoded => .text decoded
  | none => .binary bytes

/-- What lies at a location. -/
inductive Entry where
  | directory
  | file (content : Content)
deriving DecidableEq

/-- Entries by location, and the directory in which relative paths start. -/
structure FileTree where
  entries : List (Location × Entry) := []
  current : Location := []
deriving DecidableEq

namespace FileTree

def lookup (tree : FileTree) (location : Location) : Option Entry :=
  if location.isEmpty then some .directory else tree.entries.lookup location

/-- The tree with an entry at a location, in place of what was there. -/
def place (tree : FileTree) (location : Location) (entry : Entry) : FileTree :=
  { tree with
    entries := (location, entry) :: tree.entries.filter (·.1 != location) }

/-- The tree with a directory at a location where nothing was. -/
def ensureDirectory (tree : FileTree) (location : Location) : FileTree :=
  if (tree.lookup location).isNone then tree.place location .directory else tree

def above (location : Location) : List Location :=
  (List.range location.length).map (location.take ·)

/-- The tree with an entry at a location and directories above it. -/
def layOut (tree : FileTree) (location : Location) (entry : Entry) : FileTree :=
  ((above location).foldl ensureDirectory tree).place location entry

/-- A tree that holds nothing but the given current directory. -/
def emptyAt (current : Location) : FileTree :=
  layOut { current := current } current .directory

/-- The names that lead from a directory to a location below it. -/
def below? (directory location : Location) : Option (List String) :=
  match directory.isPrefixOf? location with
  | some [] => none
  | rest => rest

/-- The entries below a directory, each with the names that lead to it. -/
def entriesBelow (tree : FileTree) (directory : Location) : List (List String × Entry) :=
  tree.entries.filterMap fun found =>
    (below? directory found.1).map fun names => (names, found.2)

/-- The entries below a directory that `earlier` does not have. -/
def changesSince (tree earlier : FileTree) (directory : Location) :
    List (List String × Entry) :=
  (tree.entriesBelow directory).filter fun found =>
    earlier.lookup (directory ++ found.1) != some found.2

end FileTree
end EntityGen
