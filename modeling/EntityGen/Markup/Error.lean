/-!
Contract: what can be wrong with XML text.

Owns:
- `MarkupError`, a fault in the sequence of tags and other markup;
- `AttributeError`, a fault in the attributes of one tag;
- their messages.

Does not own: what a model requires of its elements.
-/

namespace EntityGen.Markup

/-- A fault of the markup. The first eight stop the reading of a token, the
other four come from well-read tokens that must not stand where they do. -/
inductive MarkupError where
  | unclosedTag
  | unclosedValue (quote : Char)
  | unclosedComment
  | unclosedCharacterData
  | unclosedDoctype
  | unclosedDeclaration
  | unclosedInstruction
  | unknownMarkup
  | unclosedReference
  | namelessDoctype
  | mismatchedEnd (expected found : String)
  | unmatchedEnd (found : String)
deriving DecidableEq, Repr

namespace MarkupError

/-- The text of a fault without the class of the fault. -/
def detail : MarkupError → String
  | unclosedTag => "tag not closed: `>` not found before end of input"
  | unclosedValue quote =>
    "attribute value not closed: `" ++ quote.toString ++ "` not found before end of input"
  | unclosedComment => "comment not closed: `-->` not found before end of input"
  | unclosedCharacterData => "CDATA not closed: `]]>` not found before end of input"
  | unclosedDoctype => "DOCTYPE not closed: `>` not found before end of input"
  | unclosedDeclaration => "XML declaration not closed: `?>` not found before end of input"
  | unclosedInstruction =>
    "processing instruction not closed: `?>` not found before end of input"
  | unknownMarkup => "unknown or missed symbol in markup"
  | unclosedReference =>
    "entity or character reference not closed: `;` not found before end of input"
  | namelessDoctype =>
    "`<!DOCTYPE>` declaration does not contain a name of a document type"
  | mismatchedEnd expected found =>
    "expected `</" ++ expected ++ ">`, but `</" ++ found ++ ">` was found"
  | unmatchedEnd found => "close tag `</" ++ found ++ ">` does not match any open tag"

/-- The class of a fault: whether a token could not be read at all. -/
def classText : MarkupError → String
  | unclosedReference | namelessDoctype | mismatchedEnd _ _ | unmatchedEnd _ =>
    "ill-formed document: "
  | _ => "syntax error: "

def message (fault : MarkupError) : String :=
  fault.classText ++ fault.detail

end MarkupError

/-- A fault of the attributes in a tag. Positions count the bytes of the tag
after its opening bracket. -/
inductive AttributeError where
  | expectedEquals (position : Nat)
  | expectedValue (position : Nat)
  | unquotedValue (position : Nat)
  | unclosedQuote (position : Nat) (quote : Char)
  | repeated (position previous : Nat)
deriving DecidableEq, Repr

namespace AttributeError

def position : AttributeError → Nat
  | expectedEquals position | expectedValue position | unquotedValue position => position
  | unclosedQuote position _ => position
  | repeated position _ => position

/-- The text of the fault without its position. -/
def detail : AttributeError → String
  | expectedEquals _ => "attribute key must be directly followed by `=` or space"
  | expectedValue _ => "`=` must be followed by an attribute value"
  | unquotedValue _ => "attribute value must be enclosed in `\"` or `'`"
  | unclosedQuote _ quote =>
    "missing closing quote `" ++ quote.toString ++ "` in attribute value"
  | repeated _ previous =>
    "duplicated attribute, previous declaration at position " ++ toString previous

def message (fault : AttributeError) : String :=
  "position " ++ toString fault.position ++ ": " ++ fault.detail

end AttributeError
end EntityGen.Markup
