import EntityGen.Text.Split

/-!
Contract: file paths as texts and as places.

Owns:
- `FilePath`, a path kept piece by piece as it was written;
- its components, which decide equality and order of the places meant;
- joining, parents, file names and extensions.

Does not own: which files exist, and what a path leads to when it is followed.

A path is written with `/` between its pieces. Empty pieces and pieces `.` mean
nothing, except that a path may start at the root or at the current directory;
so two spellings can name one place and still print differently.
-/

namespace EntityGen

/-- A file path, cut at its slashes. -/
structure FilePath where
  pieces : List String
deriving DecidableEq, Repr

/-- One step of a path. -/
inductive Component where
  | root
  | current
  | parent
  | name (text : String)
deriving DecidableEq, Repr

namespace Component

/-- The step that a piece stands for when it is not the start of a path. -/
def ofPiece? (piece : String) : Option Component :=
  if piece = "" ∨ piece = "." then none
  else if piece = ".." then some .parent
  else some (.name piece)

/-- Root, current directory, parent directory, names. -/
def rank : Component → Nat
  | .root => 0
  | .current => 1
  | .parent => 2
  | .name _ => 3

/-- Components are ordered by rank, and names among themselves by their text. -/
def before : Component → Component → Bool
  | .name left, .name right => left < right
  | left, right => left.rank < right.rank

end Component

namespace FilePath

/-- The path written as `text`. -/
def ofString (text : String) : FilePath :=
  ⟨(Text.pieces '/' text.toList).map String.ofList⟩

def toString (path : FilePath) : String :=
  String.ofList (Text.joined '/' (path.pieces.map String.toList))

/-- The path without any text. It names no place. -/
def empty : FilePath := ⟨[""]⟩

/-- Whether the path is written with no text at all. -/
def isEmpty (path : FilePath) : Bool :=
  path.toString.isEmpty

def isAbsolute (path : FilePath) : Bool :=
  match path.pieces with
  | "" :: _ :: _ => true
  | _ => false

/-- Whether the path starts at the current directory, written out. -/
def startsAtCurrent (path : FilePath) : Bool :=
  path.pieces.head? == some "."

/-- The component that the start of a path adds to those of its pieces. -/
def start (path : FilePath) : List Component :=
  if path.isAbsolute then [.root]
  else if path.startsAtCurrent then [.current]
  else []

def components (path : FilePath) : List Component :=
  path.start ++ path.pieces.filterMap Component.ofPiece?

/-- Whether two paths are spelled with the same components. -/
def sameAs (left right : FilePath) : Bool :=
  left.components == right.components

/-- Component by component; a path comes before those that continue it. -/
def componentsBefore : List Component → List Component → Bool
  | [], [] => false
  | [], _ :: _ => true
  | _ :: _, [] => false
  | left :: lefts, right :: rights =>
    left.before right || (left == right && componentsBefore lefts rights)

/-- The order of paths. -/
def before (left right : FilePath) : Bool :=
  componentsBefore left.components right.components

/-- `path` continued by `tail`. An absolute tail stands alone, and no slash is
added after an empty path or after a slash. -/
def join (path tail : FilePath) : FilePath :=
  if tail.isAbsolute then tail
  else if path.pieces.getLast? = some "" then ⟨path.pieces.dropLast ++ tail.pieces⟩
  else ⟨path.pieces ++ tail.pieces⟩

def ofParts (parts : List String) : FilePath :=
  parts.foldl (fun path part => path.join (ofString part)) empty

/-- `path` continued name by name. -/
def continuedBy (path : FilePath) (names : List String) : FilePath :=
  names.foldl (fun longer name => longer.join (ofString name)) path

/-- Pieces without those at the end that mean nothing. -/
def withoutTrailingFiller (parts : List String) : List String :=
  (parts.reverse.dropWhile fun piece => piece == "" || piece == ".").reverse

/-- The last component, where it is a name. -/
def fileName? (path : FilePath) : Option String :=
  match (withoutTrailingFiller path.pieces).getLast? with
  | none => none
  | some ".." => none
  | some name => some name

/-- The part of a file name before its last dot, and the part after it. A name
has no extension if its only dot is at the start, or if it has none. -/
def splitName (name : String) : String × Option String :=
  let parts := Text.pieces '.' name.toList
  let stem := Text.joined '.' parts.dropLast
  match parts.getLast? with
  | some last =>
    if stem.isEmpty then (name, none)
    else (String.ofList stem, some (String.ofList last))
  | none => (name, none)

def extension? (path : FilePath) : Option String :=
  path.fileName?.bind fun name => (splitName name).2

/-- The path with the extension of its file name replaced, or added if it has
none. What is written after the file name is dropped; a path without a file
name stays as it is. -/
def withExtension (path : FilePath) (extension : String) : FilePath :=
  match path.fileName? with
  | none => path
  | some name =>
    ⟨(withoutTrailingFiller path.pieces).dropLast ++ [(splitName name).1 ++ "." ++ extension]⟩

/-- The path without its last component. The root and the empty path have no
parent. -/
def parent? (path : FilePath) : Option FilePath :=
  match withoutTrailingFiller path.pieces with
  | [] =>
    if path.isAbsolute then none
    else if path.startsAtCurrent then some empty
    else none
  | written =>
    match withoutTrailingFiller written.dropLast with
    | [] =>
      if path.isAbsolute then some ⟨["", ""]⟩
      else if path.startsAtCurrent then some ⟨["."]⟩
      else some empty
    | above => some ⟨above⟩

end FilePath
end EntityGen
