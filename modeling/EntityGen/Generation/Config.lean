import EntityGen.File.Path
import EntityGen.Naming.Policy

/-!
Contract: what a run can be told.

Owns:
- `Config`, the choices of one run;
- `ConfigDraft`, choices made one by one over the usual ones.

Does not own: where choices come from.
-/

namespace EntityGen

/-- How groups shape the output: one folder for the properties in any chosen
group, or one folder for each group. -/
inductive GroupLayout where
  | together
  | apart
deriving DecidableEq, Repr

/-- The choices of one run. Without any group, output together covers every property and
output apart every group of the model. -/
structure Config where
  outputFolder : FilePath
  naming : NamingPolicy
  groups : List String
  groupLayout : GroupLayout
deriving DecidableEq, Repr

/-- Choices made so far. -/
structure ConfigDraft where
  outputFolder : FilePath := .ofString "./entity"
  removedTexts : Option (List String) := none
  groups : List String := []
  groupLayout : GroupLayout := .together
deriving DecidableEq, Repr

namespace ConfigDraft

/-- Removed from class names where nothing else is. -/
def usualNamespace : String := "App"

def removing (draft : ConfigDraft) (text : String) : ConfigDraft :=
  { draft with removedTexts := some (draft.removedTexts.getD [] ++ [text]) }

def withGroup (draft : ConfigDraft) (group : String) : ConfigDraft :=
  { draft with groups := draft.groups ++ [group] }

/-- The naming of a draft. Any choice of removed texts, even of none, turns the
usual namespace off. -/
def naming (draft : ConfigDraft) : NamingPolicy :=
  match draft.removedTexts with
  | none => { baseNamespace := some usualNamespace }
  | some texts => { removedTexts := texts }

/-- The choices as they stand. -/
def finish (draft : ConfigDraft) : Config :=
  { outputFolder := draft.outputFolder
    naming := draft.naming
    groups := draft.groups
    groupLayout := draft.groupLayout }

end ConfigDraft
end EntityGen
