import EntityGen.Settings.Run

/-!
Contract: the program.

Owns: the way between the library and the machine. What a run may read is taken
into a tree, the run is carried out on that tree, and what it changed is
written back.

Does not own: anything that decides what is read, written or printed as a
result.
-/

namespace EntityGen.Program

open EntityGen.CommandLine (GenerateArguments Invocation)

def absolute (location : Location) : String :=
  "/" ++ String.intercalate "/" location

/-- The location to which a path leads if no directory is a link. -/
def locationOf (current : Location) (path : FilePath) : Location :=
  path.components.foldl (fun location step =>
    match step with
    | .root => []
    | .current => location
    | .parent => location.dropLast
    | .name name => location ++ [name]) current

def entryOnDisk (location : Location) : IO (Option Entry) := do
  try
    let place ← IO.FS.realPath (absolute location)
    if ← place.isDir then return some .directory
    return some (.file (.ofBytes (← IO.FS.readBinFile place)))
  catch _ => return none

/-- The tree with a location of the machine and the directories above it. -/
def takeLocation (tree : FileTree) (location : Location) : IO FileTree := do
  match ← entryOnDisk location with
  | some entry => return tree.layOut location entry
  | none => return tree

/-- The tree with everything below a location of the machine. -/
partial def takeBelow (tree : FileTree) (location : Location) : IO FileTree := do
  let taken ← takeLocation tree location
  if taken.lookup location != some .directory then return taken
  let names ← try
      let place ← IO.FS.realPath (absolute location)
      pure ((← place.readDir).map (·.fileName))
    catch _ => pure #[]
  names.foldlM (fun tree name => takeBelow tree (location ++ [name])) taken

/-- The tree with the locations on the way to a path, and with everything below
its end. -/
def takePath (tree : FileTree) (path : FilePath) : IO FileTree := do
  let location := locationOf tree.current path
  let above ← (FileTree.above location).foldlM takeLocation tree
  takeBelow above location

/-- Writes to the machine what `tree` has and `earlier` has not. -/
def putBack (tree earlier : FileTree) : IO Unit := do
  let changes := tree.changesSince earlier []
  for (names, entry) in changes.mergeSort (fun left right => left.1.length ≤ right.1.length) do
    match entry with
    | .directory => IO.FS.createDirAll (absolute names)
    | .file (.text text) => IO.FS.writeFile (absolute names) text
    | .file (.binary bytes) => IO.FS.writeBinFile (absolute names) bytes

/-- The tree that a run needs. -/
def takeNeeded (arguments : GenerateArguments) : IO FileTree := do
  let here ← IO.currentDir
  let current := locationOf [] (.ofString here.toString)
  let bare := FileTree.emptyAt current
  let withSettings ← arguments.config.toList.foldlM takePath bare
  match prepare arguments withSettings with
  | .error _ => return withSettings
  | .ok settings => (settings.roots ++ [settings.config.outputFolder]).foldlM takePath withSettings

/-- Carries out a command line on the machine. -/
def carryOut (invocation : Invocation) : IO UInt32 := do
  let tree ← takeNeeded invocation.arguments
  let outcome := execute invocation.arguments tree
  putBack outcome.tree tree
  for note in outcome.notes do
    if invocation.verbose || note.level == .info then IO.eprintln note.line
  IO.print outcome.output
  match outcome.result with
  | .ok () => return 0
  | .error cause =>
    IO.eprintln ("Error: " ++ cause.message)
    return 1

def usage : String :=
  "usage: [-v] generate [-v] [-c FILE] [-o DIR] [--strip-prefix TEXT] [--group GROUP] " ++
    "[--per-group] [ROOT]..."

end EntityGen.Program

/-- The program: it ends with 0 after success, 1 after a failed run and 2 after
a command line that is refused. -/
def main (words : List String) : IO UInt32 := do
  match EntityGen.CommandLine.Invocation.ofWords ("entitygen" :: words) with
  | .ok invocation => EntityGen.Program.carryOut invocation
  | .error .helpRequested | .error .versionRequested =>
    IO.println EntityGen.Program.usage
    return 0
  | .error _ =>
    IO.eprintln EntityGen.Program.usage
    return 2
