import EntityGen.Markup.Attribute

/-!
Contract: writing tags.

Owns: the written form of attributes, start tags, empty elements and end tags,
as characters that the scanner reads back.

Does not own: escaping. A value stands in double quotes as it is, so it must
hold none of its own; whoever writes a tag sees to that.
-/

namespace EntityGen.Markup

/-- An attribute as it stands in a tag, with the space in front of it. -/
def TagAttribute.written (given : TagAttribute) : List Char :=
  ' ' :: given.key.toList ++ '=' :: '"' :: given.value.toList ++ ['"']

def Tag.ofAttributes (name : String) (attributes : List TagAttribute) : Tag :=
  ⟨name.toList ++ attributes.flatMap TagAttribute.written⟩

def Tag.startText (tag : Tag) : List Char :=
  '<' :: tag.content ++ ['>']

def Tag.emptyText (tag : Tag) : List Char :=
  '<' :: tag.content ++ ['/', '>']

def endText (name : String) : List Char :=
  '<' :: '/' :: name.toList ++ ['>']

end EntityGen.Markup
