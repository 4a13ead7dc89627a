import EntityGen.Markup.Attribute
import EntityGen.Model.Basic
import EntityGen.Model.Error
import EntityGen.Text.Blank
import EntityGen.Text.Split

/-!
Contract: what the tags of a model document declare.

Owns:
- the attributes of `class` and of `property` elements;
- the type that the attributes of a property describe.

Does not own: which element may stand where.

Attributes are taken in the order in which they are written, so the first
fault of a tag is the one that is reported. Attributes of other names are
allowed and mean nothing; an attribute without text counts as absent.
-/

namespace EntityGen.Model

open EntityGen.Markup (Tag TagAttribute)

/-- A text that is not empty. -/
def present? (text : String) : Option String :=
  if text.isEmpty then none else some text

/-- The result of taking the attributes of a tag one by one. A fault of the tag
counts only when every attribute before it was taken. -/
def takeAttributes {α : Type} (take : α → TagAttribute → Except ModelError α) (initial : α)
    (tag : Tag) : Except ModelError α := do
  let result ← tag.attributes.1.foldlM take initial
  match tag.attributes.2 with
  | none => .ok result
  | some fault => .error (.tagAttribute fault)

/-- The attributes of a class tag so far. -/
structure ClassDraft where
  name : Option String := none
  parent : Option String := none
deriving DecidableEq, Repr

def ClassDraft.take (draft : ClassDraft) (given : TagAttribute) : ClassDraft :=
  match given.key with
  | "name" => { draft with name := present? given.value }
  | "extends" => { draft with parent := (present? given.value).or draft.parent }
  | _ => draft

/-- The class that a finished draft declares, without properties. -/
def ClassDraft.finish (draft : ClassDraft) : Except ModelError ClassDecl :=
  match draft.name with
  | some name => .ok { name := name, parent := draft.parent }
  | none => .error (.lacksAttribute "class" "name")

/-- The class that a class tag declares, without properties. -/
def ClassDecl.ofTag (tag : Tag) : Except ModelError ClassDecl := do
  let draft ← takeAttributes (fun (draft : ClassDraft) given => .ok (draft.take given)) {} tag
  draft.finish

/-- The groups of a list with commas, without blanks around them and without
empty ones. -/
def groupsOf (text : String) : List String :=
  (((Text.pieces ',' text.toList).map Text.trim).filter (!·.isEmpty)).map String.ofList

def truthOf (key value : String) : Except ModelError Bool :=
  match value with
  | "true" | "1" => .ok true
  | "false" | "0" => .ok false
  | _ => .error (.badAttribute "property" key value)

/-- The attributes of a property tag so far. -/
structure PropertyDraft where
  name : Option String := none
  scalar : Option String := none
  reference : Option String := none
  collection : Bool := false
  nullable : Bool := false
  groups : List String := []
deriving DecidableEq, Repr

def PropertyDraft.take (draft : PropertyDraft) (given : TagAttribute) :
    Except ModelError PropertyDraft :=
  match given.key with
  | "name" => .ok { draft with name := present? given.value }
  | "type" => .ok { draft with scalar := (present? given.value).or draft.scalar }
  | "ref" => .ok { draft with reference := (present? given.value).or draft.reference }
  | "collection" => do .ok { draft with collection := ← truthOf "collection" given.value }
  | "nullable" => do .ok { draft with nullable := ← truthOf "nullable" given.value }
  | "groups" => .ok { draft with groups := groupsOf given.value }
  | _ => .ok draft

/-- What the values of a finished draft are made of, if it says so. -/
def PropertyDraft.element? (draft : PropertyDraft) (className name : String) :
    Except ModelError (Option Element) :=
  match draft.scalar, draft.reference with
  | some _, some _ => .error (.doubleType className name)
  | some scalar, none => .ok (some (.scalar scalar))
  | none, some target => .ok (some (.object target))
  | none, none => .ok none

/-- The property that a finished draft declares in a class. -/
def PropertyDraft.finish (draft : PropertyDraft) (className : String) :
    Except ModelError Property :=
  match draft.name with
  | none => .error (.lacksAttribute "property" "name")
  | some name => do
    let element ← draft.element? className name
    .ok {
      name := name
      type := element.map fun found =>
        { element := found, collection := draft.collection, nullable := draft.nullable }
      groups := draft.groups }

/-- The property that a property tag declares in a class. -/
def Property.ofTag (className : String) (tag : Tag) : Except ModelError Property := do
  let draft ← takeAttributes PropertyDraft.take {} tag
  draft.finish className

end EntityGen.Model
