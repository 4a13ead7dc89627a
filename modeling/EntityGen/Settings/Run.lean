import EntityGen.Generation.Session
import EntityGen.Settings.CommandLine
import EntityGen.Settings.File
import EntityGen.Text.Quoted

/-!
Contract: carrying out a command line.

Owns:
- loading the settings file;
- `RunChoices`, the choices of the command line over those of the file;
- `execute`, from a command line to files, output text and notes;
- the causes for which it fails, and their messages.

Does not own: the reading of words and of YAML, and the generation.
-/

namespace EntityGen

open EntityGen.CommandLine (GenerateArguments)

/-- What a run needs to know: the roots of the model and the choices. -/
structure RunChoices where
  roots : List FilePath
  config : Config
deriving DecidableEq, Repr

/-- Why a command line fails. -/
inductive RunError where
  | unreadableSettings (path : FilePath) (cause : FileError)
  | invalidSettings (path : FilePath)
  | noModelPath
  | generation (cause : GenerationError)
deriving DecidableEq, Repr

def Model.ModelError.messages (cause : Model.ModelError) : List String :=
  match cause with
  | .within _ inner => cause.message :: inner.messages
  | .markup fault => [cause.message, fault.message, fault.detail]
  | .tagAttribute fault => [cause.message, fault.message]
  | .unreadable inner => [cause.message, inner.message]
  | _ => [cause.message]

def GenerationError.messages (cause : GenerationError) : List String :=
  match cause with
  | .model inner => cause.message :: inner.messages
  | .unwritable _ inner => [cause.message, inner.message]
  | _ => [cause.message]

namespace RunError

/-- What failed, followed by the messages of all causes, from the outside
in. -/
def messages : RunError → List String
  | unreadableSettings path cause =>
    ["failed to read config " ++ path.toString, cause.message]
  | invalidSettings path => ["invalid config " ++ path.toString]
  | noModelPath =>
    ["no model path given: pass one or set `path` in the config file"]
  | generation cause => "generation failed" :: cause.messages

def message (cause : RunError) : String :=
  String.intercalate ": " cause.messages

end RunError

def FileSettings.load (tree : FileTree) (path : FilePath) : Except RunError FileSettings := do
  let text ← (tree.readText path).mapError (.unreadableSettings path)
  match FileSettings.parse? text with
  | some settings => .ok settings
  | none => .error (.invalidSettings path)

namespace RunChoices

/-- The removed texts that are chosen, if any are. -/
def removedTexts (arguments : GenerateArguments) (file : FileSettings) :
    Option (List String) :=
  if arguments.removedTexts.isEmpty then file.removedTexts else some arguments.removedTexts

/-- The choices for a generation. Those of the command line win over those of
the file, and output apart can be asked for in either. -/
def chosen (arguments : GenerateArguments) (file : FileSettings) : Config :=
  let usual : ConfigDraft := {}
  ConfigDraft.finish {
    outputFolder := (arguments.output.or file.output).getD usual.outputFolder
    removedTexts := removedTexts arguments file
    groups := if arguments.groups.isEmpty then file.groups else arguments.groups
    groupLayout := if arguments.groupsApart || file.groupsApart then .apart else .together }

/-- What a run needs to know, if the command line or the file names a model. -/
def resolve (arguments : GenerateArguments) (file : FileSettings) :
    Except RunError RunChoices :=
  let roots := if arguments.roots.isEmpty then file.path.toList else arguments.roots
  if roots.isEmpty then .error .noModelPath
  else .ok ⟨roots, chosen arguments file⟩

end RunChoices

def quotedPaths (paths : List FilePath) : String :=
  "[" ++ String.intercalate ", " (paths.map fun path => Text.quoted path.toString) ++ "]"

/-- The settings that the command line names, or none. -/
def settingsOf (arguments : GenerateArguments) (tree : FileTree) :
    Except RunError FileSettings :=
  match arguments.config with
  | none => .ok {}
  | some path => FileSettings.load tree path

/-- The settings of a run, before anything of the model is read. -/
def prepare (arguments : GenerateArguments) (tree : FileTree) : Except RunError RunChoices := do
  RunChoices.resolve arguments (← settingsOf arguments tree)

/-- What a run leaves behind: how it ended, what it printed, the files and the
notes. -/
structure RunOutcome where
  result : Except RunError Unit
  output : String
  tree : FileTree
  notes : List ProgressNote

/-- What is printed after a run without faults. -/
def summary (report : Report) : String :=
  "Generated " ++ toString report.files.length ++ " files.\n"

def execute (arguments : GenerateArguments) (tree : FileTree) : RunOutcome :=
  match prepare arguments tree with
  | .error cause => ⟨.error cause, "", tree, []⟩
  | .ok settings =>
    let session : Session :=
      { tree, notes := [.modelRoots (quotedPaths settings.roots)] }
    match settings.config.run (.stored settings.roots) session with
    | (.error cause, ended) => ⟨.error (.generation cause), "", ended.tree, ended.notes⟩
    | (.ok report, ended) => ⟨.ok (), summary report, ended.tree, ended.notes⟩

end EntityGen
