import EntityGen.Markup.Token

/-!
Contract: the elements of an XML text as they open and close.

Owns:
- `Event`, an element that opens, closes, or stands alone;
- the names of the open elements, which end tags have to match.

Does not own: what the elements mean. An element that is still open at the end
of the text is no fault of the markup.
-/

namespace EntityGen.Markup

/-- What happens to an element. -/
inductive Event where
  | opened (tag : Tag)
  | standalone (tag : Tag)
  | closed
deriving DecidableEq, Repr

/-- The event of a tag while the elements `openNames` are open, innermost
first, and the elements that are open after it. -/
def Event.ofToken (openNames : List String) :
    Token → Except MarkupError (Event × List String)
  | .startTag tag => .ok (.opened tag, tag.name :: openNames)
  | .emptyTag tag => .ok (.standalone tag, openNames)
  | .endTag name =>
    match openNames with
    | [] => .error (.unmatchedEnd name)
    | innermost :: others =>
      if name = innermost then .ok (.closed, others)
      else .error (.mismatchedEnd innermost name)

end EntityGen.Markup
