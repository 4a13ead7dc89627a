import EntityGen.Markup.Doctype

/-!
Contract: the tags of an XML text.

Owns:
- `Scanner`, the place in the text between one character and the next;
- `Token`, a tag as it is written;
- what each character does, and what may not stand at the end of the text.

Does not own: which tags belong together, and the attributes in a tag.

Text, references, comments, character data, declarations and instructions are
read over. They only have to be complete.
-/

namespace EntityGen.Markup

/-- A start tag or an empty element: what is written between its brackets,
without the slash at the end of an empty element. -/
structure Tag where
  content : List Char
deriving DecidableEq, Repr

/-- The name of a tag reaches to its first blank. -/
def Tag.name (tag : Tag) : String :=
  String.ofList (tag.content.takeWhile (!isSpace ·))

/-- A tag of the text. -/
inductive Token where
  | startTag (tag : Tag)
  | emptyTag (tag : Tag)
  | endTag (name : String)
deriving DecidableEq, Repr

/-- The name of an end tag: what is written after its slash, without the blanks
behind it. Blanks alone are a name. -/
def endName (written : List Char) : List Char :=
  let trimmed := (written.reverse.dropWhile isSpace).reverse
  if trimmed.isEmpty then written else trimmed

/-- The tag with the given content. A slash in front makes an end tag, a slash
behind an empty element. -/
def Token.ofContent (content : List Char) : Token :=
  match content with
  | '/' :: written => .endTag (String.ofList (endName written))
  | _ =>
    if content.getLast? = some '/' then .emptyTag ⟨content.dropLast⟩
    else .startTag ⟨content⟩

/-- A place in the text. -/
inductive Scanner where
  /-- Between tags. -/
  | text
  /-- In a reference. -/
  | reference
  /-- After an opening bracket. -/
  | markup
  /-- After `<!`. -/
  | declaration
  /-- After `<!-`. -/
  | commentStart
  /-- In a comment, after so many dashes. -/
  | comment (dashes : Nat)
  /-- In the opening of character data, with these characters to come. -/
  | characterDataStart (expected : List Char)
  /-- In character data, after so many brackets. -/
  | characterData (brackets : Nat)
  /-- In a document type declaration. -/
  | doctype (place : Doctype)
  /-- In an instruction with the given beginning; `asked` after a question
  mark. -/
  | instruction (asked : Bool) (beginning : List Char)
  /-- In a tag, with what was read of it, last character first. -/
  | tag (quote : Option Char) (read : List Char)
deriving DecidableEq, Repr

namespace Scanner

/-- How much of an instruction has to be kept to tell an XML declaration. -/
def beginningSize : Nat := 4

/-- The fault of an instruction that does not end. It is an XML declaration if
it begins with `xml` as a whole word. -/
def instructionFault (beginning : List Char) : MarkupError :=
  match beginning with
  | 'x' :: 'm' :: 'l' :: after =>
    if after.all fun c => isSpace c || c == '?' then .unclosedDeclaration
    else .unclosedInstruction
  | _ => .unclosedInstruction

/-- The place after a character of a tag, or the tag if it is complete. -/
def stepTag (quote : Option Char) (read : List Char) (c : Char) :
    Scanner × Option Token :=
  if quote.isNone && c == '>' then (text, some (Token.ofContent read.reverse))
  else (tag (quoteAfter quote c) (c :: read), none)

/-- The place after one more character, and the tag that it completes. -/
def step (place : Scanner) (c : Char) : Except MarkupError (Scanner × Option Token) :=
  match place with
  | text =>
    .ok (if c = '<' then markup else if c = '&' then reference else text, none)
  | reference =>
    if c = ';' then .ok (text, none)
    else if c = '&' ∨ c = '<' then .error .unclosedReference
    else .ok (reference, none)
  | markup =>
    if c = '!' then .ok (declaration, none)
    else if c = '?' then .ok (instruction true [], none)
    else .ok (stepTag none [] c)
  | declaration =>
    if c = '-' then .ok (commentStart, none)
    else if c = '[' then .ok (characterDataStart "CDATA[".toList, none)
    else if c = 'D' ∨ c = 'd' then .ok (doctype Doctype.start, none)
    else .error .unknownMarkup
  | commentStart =>
    if c = '-' then .ok (comment 0, none) else .error .unclosedComment
  | comment dashes =>
    if c = '-' then .ok (comment (min 2 (dashes + 1)), none)
    else if c = '>' ∧ dashes = 2 then .ok (text, none)
    else .ok (comment 0, none)
  | characterDataStart [] => .error .unclosedCharacterData
  | characterDataStart (next :: expected) =>
    if c = next then
      .ok (if expected.isEmpty then characterData 0 else characterDataStart expected, none)
    else .error .unclosedCharacterData
  | characterData brackets =>
    if c = ']' then .ok (characterData (min 2 (brackets + 1)), none)
    else if c = '>' ∧ brackets = 2 then .ok (text, none)
    else .ok (characterData 0, none)
  | doctype place => do
    match ← place.step c with
    | some next => .ok (doctype next, none)
    | none => .ok (text, none)
  | instruction asked beginning =>
    if c = '>' ∧ asked then
      if beginning.isEmpty then .error .unclosedInstruction else .ok (text, none)
    else
      .ok (instruction (c == '?')
        (if beginning.length < beginningSize then beginning ++ [c] else beginning), none)
  | tag quote read => .ok (stepTag quote read c)

def fault? : Scanner → Option MarkupError
  | text => none
  | reference => some .unclosedReference
  | markup => some .unclosedTag
  | declaration => some .unknownMarkup
  | commentStart => some .unclosedComment
  | comment _ => some .unclosedComment
  | characterDataStart _ => some .unclosedCharacterData
  | characterData _ => some .unclosedCharacterData
  | doctype _ => some .unclosedDoctype
  | instruction _ beginning => some (instructionFault beginning)
  | tag none _ => some .unclosedTag
  | tag (some quote) _ => some (.unclosedValue quote)

end Scanner
end EntityGen.Markup
