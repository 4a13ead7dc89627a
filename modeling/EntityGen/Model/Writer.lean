import EntityGen.Markup.Writer
import EntityGen.Model.Basic
import EntityGen.Text.Split

/-!
Contract: the documented form of a model.

Owns: the text that declares a list of classes, one element for each class and
each property, with an attribute for everything that is not as usual.

Does not own: reading a model, which accepts many other forms.

Names and groups are written as they are, so a model whose names hold markup or
quotes has no such form.
-/

namespace EntityGen.Model

open EntityGen.Markup (Tag TagAttribute)

/-- The attribute for a truth value, which is left out when it is false. -/
def flagAttribute (key : String) (value : Bool) : List TagAttribute :=
  if value then [⟨key, "true"⟩] else []

/-- The attributes for a type: the name of a scalar or of a class, and what is
not as usual. -/
def DataType.attributes (type : DataType) : List TagAttribute :=
  let element := match type.element with
    | .scalar name => TagAttribute.mk "type" name
    | .object name => TagAttribute.mk "ref" name
  element :: flagAttribute "collection" type.collection ++
    flagAttribute "nullable" type.nullable

/-- The attribute for groups, which is left out when there are none. -/
def groupsAttribute (groups : List String) : List TagAttribute :=
  if groups.isEmpty then []
  else [⟨"groups", String.ofList (Text.joined ',' (groups.map String.toList))⟩]

/-- The tag that declares a property. -/
def Property.tag (property : Property) : Tag :=
  .ofAttributes "property"
    (⟨"name", property.name⟩ :: property.type.toList.flatMap DataType.attributes ++
      groupsAttribute property.groups)

/-- The tag that declares a class. -/
def ClassDecl.tag (decl : ClassDecl) : Tag :=
  .ofAttributes "class"
    (⟨"name", decl.name⟩ :: decl.parent.toList.map (TagAttribute.mk "extends"))

def Property.written (property : Property) : List Char :=
  "    ".toList ++ property.tag.emptyText ++ ['\n']

def ClassDecl.written (decl : ClassDecl) : List Char :=
  "  ".toList ++ decl.tag.startText ++ '\n' :: decl.properties.flatMap Property.written ++
    "  ".toList ++ Markup.endText "class" ++ ['\n']

end EntityGen.Model
