import EntityGen.Generation.Output
import EntityGen.Generation.Plan
import EntityGen.Model.Files

/-!
Contract: the steps of a generation and what they leave behind.

Owns:
- `Session`, the stage reached, the files there are and the notes made;
- the steps from a model to class tables and from class tables to files;
- `run`, all steps of one generation.

Does not own: how one class is collected, planned or written as text.

All tables are complete and every file has its destination before the first
directory is made. A failed step leaves the session where it failed: files that
were written stay.
-/

namespace EntityGen

open EntityGen.Model (ClassDecl)

/-- How far a generation has come. -/
inductive Stage where
  | fresh
  | reading
  | merging
  | writing
  | done
deriving DecidableEq, Repr

/-- Where the classes of a model come from: a list at hand, files, or a source of
another kind that cannot give them. -/
inductive ModelSource where
  | given (classes : List ClassDecl)
  | stored (roots : List FilePath)
  | refused (cause : Model.ModelError)
deriving DecidableEq, Repr

/-- The classes of a source, and the notes made while they were read. -/
def ModelSource.classes (source : ModelSource) (tree : FileTree) :
    Except Model.ModelError (List ClassDecl) × List ProgressNote :=
  match source with
  | .given classes => (.ok classes, [])
  | .stored roots => Model.readFiles tree roots
  | .refused cause => (.error cause, [])

/-- The state in which one step of a generation leaves the next. -/
structure Session where
  stage : Stage := .fresh
  tree : FileTree := {}
  notes : List ProgressNote := []
deriving DecidableEq

/-- The written files in the order of writing. -/
structure Report where
  files : List FilePath
deriving DecidableEq, Repr

/-- A step of a generation: its result and the session after it. -/
abbrev Step (α : Type) := Except GenerationError α × Session

namespace Session

def noting (session : Session) (notes : List ProgressNote) : Session :=
  { session with notes := session.notes ++ notes }

def atStage (session : Session) (stage : Stage) : Session :=
  { session with stage }

end Session

/-- The groups that occur in a model, in the order of its properties. -/
def groupsOfClasses (classes : List ClassDecl) : List String :=
  classes.flatMap fun decl => decl.properties.flatMap (·.groups)

/-- A list with each member kept where it first occurs; `seen` came before. -/
def firstOccurrences (seen : List String) : List String → List String
  | [] => []
  | first :: others =>
    if seen.contains first then firstOccurrences seen others
    else first :: firstOccurrences (first :: seen) others

/-- The fields of classes, chosen by groups, before the merge. -/
def collectFields (classes : List ClassDecl) (groups : List String) :
    Except GenerationError Collector :=
  ((Collector.forGroups groups).takeClasses classes).mapError GenerationError.ofUntypedField

/-- The collected fields of several groups, or the fault of the first group that
has one. -/
def collectEach (classes : List ClassDecl) :
    List String → Except GenerationError (List (String × Collector))
  | [] => .ok []
  | group :: others => do
    let first ← collectFields classes [group]
    let rest ← collectEach classes others
    .ok ((group, first) :: rest)

def mergeGroup (group : String) (collector : Collector) :
    (String × ClassTable) × List ProgressNote :=
  let (table, absent) := collector.merged
  ((group, table), absent.map .parentAbsent ++ [.groupMerged group table.size])

def readClasses (source : ModelSource) (session : Session) : Step (List ClassDecl) :=
  let (result, notes) := source.classes session.tree
  let reading := (session.atStage .reading).noting notes
  match result with
  | .error cause => (.error (.model cause), reading)
  | .ok classes => (.ok classes, reading.noting [.classesRead classes.length])

namespace Config

/-- The groups that get a folder of their own: the configured ones, or all
groups of the model. -/
def chosenGroups (config : Config) (classes : List ClassDecl) : List String :=
  firstOccurrences []
    (if config.groups.isEmpty then groupsOfClasses classes else config.groups)

def readTable (config : Config) (source : ModelSource) (session : Session) :
    Step ClassTable :=
  match readClasses source session with
  | (.error cause, stopped) => (.error cause, stopped)
  | (.ok classes, read) =>
    match collectFields classes config.groups with
    | .error cause => (.error cause, read)
    | .ok collector =>
      let (table, absent) := collector.merged
      (.ok table, (read.atStage .merging).noting (absent.map .parentAbsent))

/-- Reads a source into one merged table for each group. -/
def readTables (config : Config) (source : ModelSource) (session : Session) :
    Step (List (String × ClassTable)) :=
  match readClasses source session with
  | (.error cause, stopped) => (.error cause, stopped)
  | (.ok classes, read) =>
    match collectEach classes (config.chosenGroups classes) with
    | .error cause => (.error cause, read)
    | .ok collectors =>
      let merged := collectors.map fun entry => mergeGroup entry.1 entry.2
      (.ok (merged.map Prod.fst), (read.atStage .merging).noting (merged.flatMap Prod.snd))

def writeFiles (config : Config) : List PlannedFile → Session → Step Unit
  | [], session => (.ok (), session)
  | planned :: others, session =>
    match Output.saveText session.tree planned.path (planned.text config.naming) with
    | (.error cause, tree) => (.error cause, { session with tree })
    | (.ok (), tree) =>
      config.writeFiles others
        ({ session with tree }.noting [.fileWritten planned.path planned.className])

/-- Makes the output folder and writes planned files. -/
def write (config : Config) (planned : List PlannedFile) (session : Session) : Step Report :=
  let writing := session.atStage .writing
  match writing.tree.makeDirectoryTree config.outputFolder with
  | (.error cause, tree) =>
    (.error (.unwritable config.outputFolder cause), { writing with tree })
  | (.ok (), tree) =>
    match config.writeFiles planned { writing with tree } with
    | (.error cause, stopped) => (.error cause, stopped)
    | (.ok (), written) =>
      (.ok ⟨planned.map (·.path)⟩,
        (written.atStage .done).noting [.runFinished planned.length config.outputFolder])

def writeTable (config : Config) (table : ClassTable) (session : Session) : Step Report :=
  match config.plan config.outputFolder table with
  | .error cause => (.error cause, session)
  | .ok planned => config.write planned session

/-- Writes the files of several groups below the folders of the groups. -/
def writeTables (config : Config) (tables : List (String × ClassTable)) (session : Session) :
    Step Report :=
  match config.planGroups tables with
  | .error cause => (.error cause, session)
  | .ok planned => config.write planned session

/-- Generates the files of a source. -/
def run (config : Config) (source : ModelSource) (session : Session) : Step Report :=
  match config.groupLayout with
  | .together =>
    match config.readTable source session with
    | (.error cause, stopped) => (.error cause, stopped)
    | (.ok table, read) => config.writeTable table read
  | .apart =>
    match config.readTables source session with
    | (.error cause, stopped) => (.error cause, stopped)
    | (.ok tables, read) => config.writeTables tables read

end Config
end EntityGen
