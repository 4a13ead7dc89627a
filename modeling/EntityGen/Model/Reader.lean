import EntityGen.Markup.Event
import EntityGen.Model.Element

/-!
Contract: reading a model from XML text.

Owns:
- the places of a model document and the elements that each one allows;
- `readModel`, which walks through the text character by character.

Does not own: the markup, and the meaning of the attributes in a tag.

Classes stand in the model element, properties in classes; what stands in a
property is read over. Elements before the first model element are read over
too. The first fault in the text is the one that is reported.
-/

namespace EntityGen.Model

open EntityGen.Markup (Event Scanner Tag)

/-- The class with `property` after the others, which must not have its name. -/
def ClassDecl.declare (decl : ClassDecl) (property : Property) : Except ModelError ClassDecl :=
  match decl.declare? property with
  | some extended => .ok extended
  | none => .error (.declaredTwice "property" (decl.qualifiedName property))

/-- A place in a model document. -/
inductive Place where
  /-- Before the first model element. -/
  | prolog
  /-- After the model element began. -/
  | model
  /-- In a class element, with the class so far. -/
  | classBody (decl : ClassDecl)
  /-- In a property element of a class, below so many open elements. -/
  | propertyBody (decl : ClassDecl) (depth : Nat)
deriving DecidableEq, Repr

/-- A model document so far: its finished classes and the place reached. -/
structure Document where
  classes : List ClassDecl := []
  place : Place := .prolog
deriving DecidableEq, Repr

namespace Document

def takeClass (document : Document) (decl : ClassDecl) : Except ModelError Document :=
  if document.classes.any (·.name == decl.name) then .error (.declaredTwice "class" decl.name)
  else .ok ⟨document.classes ++ [decl], .model⟩

def addPropertyTag (decl : ClassDecl) (tag : Tag) : Except ModelError ClassDecl := do
  if tag.name ≠ "property" then .error (.strangeElement tag.name "class")
  else
    decl.declare (← Property.ofTag decl.name tag)

/-- The document after an event before the first model element. -/
def stepProlog (document : Document) : Event → Document
  | .opened tag | .standalone tag =>
    if tag.name = "model" then { document with place := .model } else document
  | .closed => document

def stepModel (document : Document) : Event → Except ModelError Document
  | .opened tag =>
    if tag.name = "model" then .ok document
    else if tag.name = "class" then do
      .ok { document with place := .classBody (← ClassDecl.ofTag tag) }
    else .error (.strangeElement tag.name "model")
  | .standalone tag =>
    if tag.name = "model" then .ok document
    else if tag.name = "class" then do
      document.takeClass (← ClassDecl.ofTag tag)
    else .error (.strangeElement tag.name "model")
  | .closed => .ok document

/-- The document after an event between the properties of a class. -/
def stepClass (document : Document) (decl : ClassDecl) : Event → Except ModelError Document
  | .opened tag => do
    .ok { document with place := .propertyBody (← addPropertyTag decl tag) 0 }
  | .standalone tag => do
    .ok { document with place := .classBody (← addPropertyTag decl tag) }
  | .closed => document.takeClass decl

def stepProperty (document : Document) (decl : ClassDecl) (depth : Nat) : Event → Document
  | .opened _ => { document with place := .propertyBody decl (depth + 1) }
  | .standalone _ => document
  | .closed =>
    match depth with
    | 0 => { document with place := .classBody decl }
    | outer + 1 => { document with place := .propertyBody decl outer }

def step (document : Document) (event : Event) : Except ModelError Document :=
  match document.place with
  | .prolog => .ok (document.stepProlog event)
  | .model => document.stepModel event
  | .classBody decl => document.stepClass decl event
  | .propertyBody decl depth => .ok (document.stepProperty decl depth event)

/-- The classes of a document that ends here. -/
def finish (document : Document) : Except ModelError (List ClassDecl) :=
  match document.place with
  | .prolog => .error .noModelElement
  | .model => .ok document.classes
  | .classBody decl => .error (.unterminatedClass decl.name)
  | .propertyBody decl _ => .error (.unterminatedClass decl.name)

end Document

/-- A text so far: the place between its tags, the open elements, innermost
first, and the document. -/
structure Reader where
  scanner : Scanner := .text
  openNames : List String := []
  document : Document := {}
deriving DecidableEq, Repr

/-- A fault of the markup as the cause for which a model is refused. -/
def liftMarkup {α : Type} (result : Except Markup.MarkupError α) : Except ModelError α :=
  result.mapError .markup

namespace Reader

def takeToken (reader : Reader) (token : Markup.Token) : Except ModelError Reader := do
  let (event, openNames) ← liftMarkup (Event.ofToken reader.openNames token)
  .ok { reader with openNames := openNames, document := ← reader.document.step event }

def step (reader : Reader) (c : Char) : Except ModelError Reader := do
  let (scanner, complete) ← liftMarkup (reader.scanner.step c)
  match complete with
  | none => .ok { reader with scanner }
  | some token => takeToken { reader with scanner } token

/-- The classes of a text that ends here. -/
def finish (reader : Reader) : Except ModelError (List ClassDecl) :=
  match reader.scanner.fault? with
  | some fault => .error (.markup fault)
  | none => reader.document.finish

end Reader

/-- The classes of a model in document order, or the first fault of its
text. -/
def readModel (text : String) : Except ModelError (List ClassDecl) := do
  (← text.toList.foldlM Reader.step {}).finish

end EntityGen.Model
