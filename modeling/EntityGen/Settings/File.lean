import EntityGen.File.Path
import EntityGen.Text.Blank
import EntityGen.Yaml.Node

/-!
Contract: the settings file.

Owns:
- `FileSettings`, what a settings file can say;
- its reading from a YAML document, where unknown and repeated settings and
  values of the wrong kind are refused.

Does not own: YAML, and the choices of the command line.
-/

namespace EntityGen

open EntityGen.Yaml (Document Node)

/-- The settings of a file. Each one may be left out. -/
structure FileSettings where
  path : Option FilePath := none
  output : Option FilePath := none
  removedTexts : Option (List String) := none
  groups : List String := []
  groupsApart : Bool := false
deriving DecidableEq, Repr

/-- The settings by name. -/
inductive SettingName where
  | path
  | output
  | removedTexts
  | groups
  | groupsApart
deriving DecidableEq, Repr

def SettingName.ofString? : String → Option SettingName
  | "path" => some .path
  | "output" => some .output
  | "prefix_removal" => some .removedTexts
  | "groups" => some .groups
  | "per_group" => some .groupsApart
  | _ => none

/-- Whether a plain text stands for no value. -/
def isNullText (text : String) : Bool :=
  ["~", "null", "Null", "NULL"].contains text

/-- The truth value that a text stands for. -/
def truthValue? : String → Option Bool
  | "true" | "True" | "TRUE" => some true
  | "false" | "False" | "FALSE" => some false
  | _ => none

namespace Yaml.Document

/-- The text of a scalar, of whatever style and tag. -/
def text? (document : Document) (node : Node) : Option String :=
  match document.resolve node with
  | some (.scalar text _ _) => some text
  | _ => none

/-- Whether a node stands for no value; nothing if its tag says so and its text
does not. -/
def isAbsent? (document : Document) (node : Node) : Option Bool :=
  match document.resolve node with
  | none => none
  | some (.scalar text .plain none) => some (text.isEmpty || isNullText text)
  | some (.scalar text .plain (some tag)) =>
    if tag = "tag:yaml.org,2002:null" then
      if isNullText text then some true else none
    else some false
  | some _ => some false

/-- The value of a node that may stand for none. -/
def optional? {α : Type} (document : Document) (read : Node → Option α) (node : Node) :
    Option (Option α) := do
  if ← document.isAbsent? node then some none
  else some (some (← read node))

/-- The texts of a sequence. A plain node without text is an empty one. -/
def texts? (document : Document) (node : Node) : Option (List String) :=
  match document.resolve node with
  | some (.sequence items) => items.mapM document.text?
  | some (.scalar "" .plain _) => some []
  | _ => none

/-- The truth value of a plain scalar, or of a literal one that is tagged as a
truth value. -/
def truth? (document : Document) (node : Node) : Option Bool :=
  match document.resolve node with
  | some (.scalar text .plain _) => truthValue? text
  | some (.scalar text .literal (some "tag:yaml.org,2002:bool")) => truthValue? text
  | _ => none

end Yaml.Document

namespace FileSettings

/-- The settings with one more that a document gives. -/
def set? (settings : FileSettings) (document : Document) (name : SettingName) (value : Node) :
    Option FileSettings :=
  match name with
  | .path => do
    let text ← document.optional? document.text? value
    some { settings with path := text.map FilePath.ofString }
  | .output => do
    let text ← document.optional? document.text? value
    some { settings with output := text.map FilePath.ofString }
  | .removedTexts => do
    some { settings with removedTexts := ← document.optional? document.texts? value }
  | .groups => do
    some { settings with groups := ← document.texts? value }
  | .groupsApart => do
    some { settings with groupsApart := ← document.truth? value }

/-- The settings after the entries of a document, of which `given` came
before. -/
def takeEntries (document : Document) (given : List SettingName) (settings : FileSettings) :
    List (Node × Node) → Option FileSettings
  | [] => some settings
  | (key, value) :: others => do
    let name ← SettingName.ofString? (← document.text? key)
    if given.contains name then none
    else takeEntries document (name :: given) (← settings.set? document name value) others

/-- The settings of a document. An empty one says nothing. -/
def ofDocument? (document : Document) : Option FileSettings :=
  match document.resolve document.root with
  | some (.mapping entries) => takeEntries document [] {} entries
  | some (.scalar "" .plain _) => some {}
  | _ => none

/-- The settings of a text, or nothing if it is refused. -/
def parse? (text : String) : Option FileSettings :=
  if text.toList.all Text.isBlank then some {}
  else do ofDocument? (← Yaml.readDocument text)

end FileSettings
end EntityGen
