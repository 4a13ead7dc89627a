import EntityGen.Fields.Collector
import EntityGen.File.Path

/-!
Contract: what a run tells about its progress.

Owns: the notes that the steps of a run make, their levels and their texts.

Does not own: where notes go and which levels are shown.
-/

namespace EntityGen

/-- A note about the progress of a run. -/
inductive ProgressNote where
  | modelRoots (quoted : String)
  | fileRead (path : FilePath) (classCount : Nat)
  | classesRead (count : Nat)
  | parentAbsent (absent : AbsentParent)
  | groupMerged (group : String) (classCount : Nat)
  | fileWritten (path : FilePath) (className : String)
  | runFinished (count : Nat) (folder : FilePath)
deriving DecidableEq, Repr

/-- How much a note matters. -/
inductive NoteLevel where
  | debug
  | info
deriving DecidableEq, Repr

namespace ProgressNote

/-- Totals matter, single steps are details. -/
def level : ProgressNote → NoteLevel
  | classesRead _ | runFinished _ _ => .info
  | _ => .debug

def message : ProgressNote → String
  | modelRoots quoted => "Model roots: " ++ quoted
  | fileRead path classCount =>
    "Parsed " ++ toString classCount ++ " classes from " ++ path.toString
  | classesRead count => "Collected " ++ toString count ++ " classes"
  | parentAbsent absent =>
    "Parent " ++ absent.parent ++ " of " ++ absent.child ++ " is not part of the graph"
  | groupMerged group classCount =>
    "Group " ++ group ++ " has " ++ toString classCount ++ " classes"
  | fileWritten path className => "Generated " ++ path.toString ++ " from " ++ className
  | runFinished count folder =>
    "Generated " ++ toString count ++ " files in " ++ folder.toString

end ProgressNote

def NoteLevel.text : NoteLevel → String
  | .debug => "DEBUG"
  | .info => "INFO"

/-- A note as one line: its level and its text. -/
def ProgressNote.line (note : ProgressNote) : String :=
  note.level.text ++ " " ++ note.message

end EntityGen
