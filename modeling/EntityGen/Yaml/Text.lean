/-!
Contract: YAML text as a sequence of characters on lines.

Owns:
- the characters that may occur, and the one spelling of line ends;
- `Mark`, a position in the text;
- blanks, breaks and the marks between documents.

Does not own: what the characters stand for.
-/

namespace EntityGen.Yaml

/-- Whether a character may occur in a YAML text. -/
def isReadable (c : Char) : Bool :=
  let code := c.toNat
  code == 0x09 || code == 0x0A || code == 0x0D || (0x20 ≤ code && code ≤ 0x7E) ||
    code == 0x85 || (0xA0 ≤ code && code ≤ 0xD7FF) || (0xE000 ≤ code && code ≤ 0xFFFD) ||
    0x10000 ≤ code

/-- The text with a line feed for every line end, be it written as a line feed,
a carriage return, both, or a next line character. -/
def withLineFeeds : List Char → List Char
  | [] => []
  | '\r' :: '\n' :: rest => '\n' :: withLineFeeds rest
  | c :: rest => (if c = '\r' ∨ c.toNat = 0x85 then '\n' else c) :: withLineFeeds rest

/-- Whether a character ends a line. The line and paragraph separators do, and
keep their meaning inside a scalar. -/
def isBreak (c : Char) : Bool :=
  c == '\n' || c.toNat == 0x2028 || c.toNat == 0x2029

/-- A byte order mark. At the start of a line it takes a column and means
nothing. -/
def isOrderMark (c : Char) : Bool :=
  c.toNat == 0xFEFF

/-- A space or a tab. -/
def isBlank (c : Char) : Bool :=
  c == ' ' || c == '\t'

/-- Whether nothing but a blank or a break can follow. -/
def blankAhead : List Char → Bool
  | [] => true
  | c :: _ => isBlank c || isBreak c

/-- Whether a text begins with the mark of a document start or end. -/
def documentMarkAhead : List Char → Bool
  | '-' :: '-' :: '-' :: rest => blankAhead rest
  | '.' :: '.' :: '.' :: rest => blankAhead rest
  | _ => false

/-- A character of an anchor, a tag handle or the name of a directive. -/
def isWordChar (c : Char) : Bool :=
  c.isAlphanum || c == '_' || c == '-'

def hexDigit? (c : Char) : Option Nat :=
  if '0' ≤ c ∧ c ≤ '9' then some (c.toNat - '0'.toNat)
  else if 'a' ≤ c ∧ c ≤ 'f' then some (c.toNat - 'a'.toNat + 10)
  else if 'A' ≤ c ∧ c ≤ 'F' then some (c.toNat - 'A'.toNat + 10)
  else none

/-- A position in the text. -/
structure Mark where
  index : Nat := 0
  line : Nat := 0
  column : Nat := 0
deriving DecidableEq, Repr

namespace Mark

def right (mark : Mark) (count : Nat) : Mark :=
  { mark with index := mark.index + count, column := mark.column + count }

def after (mark : Mark) (c : Char) : Mark :=
  if isBreak c then { index := mark.index + 1, line := mark.line + 1, column := 0 }
  else mark.right 1

end Mark

/-- A text from a position on. -/
structure Cursor where
  mark : Mark
  rest : List Char
deriving DecidableEq, Repr

namespace Cursor

def drop (cursor : Cursor) (count : Nat) : Cursor :=
  ⟨cursor.mark.right count, cursor.rest.drop count⟩

/-- The characters up to the first one without a property, none of which is a
break, and the text after them. -/
def span (cursor : Cursor) (property : Char → Bool) : List Char × Cursor :=
  let found := cursor.rest.takeWhile property
  (found, cursor.drop found.length)

def skipBlanks (cursor : Cursor) : Cursor :=
  (cursor.span isBlank).2

/-- The text after the comment that it begins with, if it does. -/
def skipComment (cursor : Cursor) : Cursor :=
  if cursor.rest.head? = some '#' then (cursor.span (!isBreak ·)).2 else cursor

/-- The text after the break that it begins with, if it does. Anything else
must not follow on the line. -/
def skipLineEnd (cursor : Cursor) : Option Cursor :=
  match cursor.rest with
  | [] => some cursor
  | c :: rest => if isBreak c then some ⟨cursor.mark.after c, rest⟩ else none

end Cursor
end EntityGen.Yaml
