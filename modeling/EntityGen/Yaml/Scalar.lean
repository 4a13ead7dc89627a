import EntityGen.Yaml.Text

/-!
Contract: the texts of scalars.

Owns:
- `Folding`, what blanks and breaks inside a scalar stand for;
- plain, quoted and block scalars, from their first character to their end.

Does not own: where a scalar may stand, and what its text means.

Each reader walks through the text once. Its result is nothing if the scalar is
malformed.
-/

namespace EntityGen.Yaml

/-- How a scalar is written. -/
inductive ScalarStyle where
  | plain
  | quoted
  | literal
  | folded
deriving DecidableEq, Repr

/-- The blanks and breaks since the last other character, last one first.
`broken` says that a line has ended, so that further blanks are indentation. -/
structure Folding where
  blanks : List Char := []
  firstBreak : Option Char := none
  laterBreaks : List Char := []
  broken : Bool := false
deriving DecidableEq, Repr

namespace Folding

def takeBlank (folding : Folding) (c : Char) : Folding :=
  if folding.broken then folding else { folding with blanks := c :: folding.blanks }

/-- One more break. Blanks before the first break are dropped. -/
def takeBreak (folding : Folding) (c : Char) : Folding :=
  if folding.broken then { folding with laterBreaks := c :: folding.laterBreaks }
  else { firstBreak := some c, broken := true }

def isEmpty (folding : Folding) : Bool :=
  !folding.broken && folding.blanks.isEmpty

/-- What the blanks and breaks stand for, last character first. A single line
feed is a space, and the first of several is dropped. -/
def reversedText (folding : Folding) : List Char :=
  if folding.broken then
    if folding.firstBreak = some '\n' then
      if folding.laterBreaks.isEmpty then [' '] else folding.laterBreaks
    else folding.laterBreaks ++ folding.firstBreak.toList
  else folding.blanks

end Folding

/-- A scalar that was read, and the text after it. -/
structure ScalarRead where
  text : List Char
  after : Cursor
  /-- Whether a line ended between the scalar and the text after it. -/
  broken : Bool := false
deriving DecidableEq, Repr

/-- A place inside a quoted scalar. -/
inductive QuotedPlace where
  | body
  /-- At the second of two quotes that stand for one. -/
  | secondQuote
  /-- After a backslash. -/
  | escape
  /-- In an escape by number, with so many digits to come. -/
  | code (digits value : Nat)
deriving DecidableEq, Repr

/-- The characters with an escape of one letter. -/
def escapeLetters : List (Char × Nat) := [
  ('0', 0x00), ('a', 0x07), ('b', 0x08), ('t', 0x09), ('\t', 0x09), ('n', 0x0A),
  ('v', 0x0B), ('f', 0x0C), ('r', 0x0D), ('e', 0x1B), (' ', 0x20), ('"', 0x22),
  ('/', 0x2F), ('\\', 0x5C), ('N', 0x85), ('_', 0xA0), ('L', 0x2028), ('P', 0x2029)]

/-- The letters that announce an escape by number, with the digits it has. -/
def escapeCodes : List (Char × Nat) := [('x', 2), ('u', 4), ('U', 8)]

def charOfCode? (code : Nat) : Option Char :=
  if code.isValidChar then some (Char.ofNat code) else none

/-- The quoted scalar from a place inside it on. `read` holds what was read of
it, last character first. -/
def quotedFrom (quote : Char) (mark : Mark) (place : QuotedPlace) (read : List Char)
    (folding : Folding) : List Char → Option ScalarRead
  | [] => none
  | c :: rest =>
    let next := mark.after c
    match place with
    | .secondQuote => quotedFrom quote next .body read folding rest
    | .escape =>
      if isBreak c then quotedFrom quote next .body read { broken := true } rest
      else
        match escapeLetters.lookup c, escapeCodes.lookup c with
        | some code, _ => quotedFrom quote next .body (Char.ofNat code :: read) {} rest
        | none, some digits => quotedFrom quote next (.code digits 0) read {} rest
        | none, none => none
    | .code digits value =>
      match hexDigit? c with
      | none => none
      | some digit =>
        if digits ≤ 1 then
          match charOfCode? (value * 16 + digit) with
          | some written => quotedFrom quote next .body (written :: read) {} rest
          | none => none
        else quotedFrom quote next (.code (digits - 1) (value * 16 + digit)) read {} rest
    | .body =>
      if isBlank c then quotedFrom quote next .body read (folding.takeBlank c) rest
      else if isBreak c then quotedFrom quote next .body read (folding.takeBreak c) rest
      else if mark.column = 0 ∧ documentMarkAhead (c :: rest) then none
      else
        let joined := folding.reversedText ++ read
        if c = quote then
          if quote = '\'' ∧ rest.head? = some '\'' then
            quotedFrom quote next .secondQuote (c :: joined) {} rest
          else some { text := joined.reverse, after := ⟨next, rest⟩ }
        else if quote = '"' ∧ c = '\\' then quotedFrom quote next .escape joined {} rest
        else quotedFrom quote next .body (c :: joined) {} rest

/-- The quoted scalar at a cursor, which stands at its opening quote. -/
def readQuoted (quote : Char) (cursor : Cursor) : Option ScalarRead :=
  let inside := cursor.drop 1
  quotedFrom quote inside.mark .body [] {} inside.rest

/-- A character that ends a plain scalar inside a flow collection. -/
def isFlowEnd (c : Char) : Bool :=
  c == ',' || c == '[' || c == ']' || c == '\x7b' || c == '\x7d'

/-- What a character other than a blank or a break does to a plain scalar. -/
inductive PlainStep where
  | continues
  | ends
  | refused
deriving DecidableEq, Repr

/-- What the first of the given characters does to a plain scalar. -/
def plainStep (flow : Bool) : List Char → PlainStep
  | [] => .ends
  | ':' :: rest =>
    if flow ∧ rest.head?.any (fun c => c == '?' || isFlowEnd c) then .refused
    else if blankAhead rest then .ends
    else .continues
  | c :: _ => if flow ∧ isFlowEnd c then .ends else .continues

/-- Whether a plain scalar ends before a character that follows blanks or
breaks: at a comment, at the mark of a document, or at less indentation. -/
def plainEndsAfterBlanks (flow : Bool) (indent : Nat) (mark : Mark) (text : List Char) :
    Bool :=
  text.head? == some '#' || (mark.column == 0 && documentMarkAhead text) ||
    (!flow && decide (mark.column < indent))

/-- The plain scalar that ends at a cursor. -/
def endPlain (read : List Char) (folding : Folding) (after : Cursor) : ScalarRead :=
  { text := read.reverse, after := after, broken := folding.broken }

/-- The plain scalar from a position inside it on. `indent` is the least column
of its further lines outside flow collections. -/
def plainFrom (flow : Bool) (indent : Nat) (mark : Mark) (read : List Char)
    (folding : Folding) : List Char → Option ScalarRead
  | [] => some (endPlain read folding ⟨mark, []⟩)
  | c :: rest =>
    if isBlank c then
      if folding.broken ∧ mark.column < indent ∧ c = '\t' then none
      else plainFrom flow indent (mark.after c) read (folding.takeBlank c) rest
    else if isBreak c then
      plainFrom flow indent (mark.after c) read (folding.takeBreak c) rest
    else if !folding.isEmpty ∧ plainEndsAfterBlanks flow indent mark (c :: rest) then
      some (endPlain read folding ⟨mark, c :: rest⟩)
    else
      match plainStep flow (c :: rest) with
      | .refused => none
      | .ends => some (endPlain read folding ⟨mark, c :: rest⟩)
      | .continues =>
        plainFrom flow indent (mark.after c) (c :: folding.reversedText ++ read) {} rest

def readPlain (flow : Bool) (indent : Nat) (cursor : Cursor) : Option ScalarRead :=
  plainFrom flow indent cursor.mark [] {} cursor.rest

/-- What happens to the breaks at the end of a block scalar. -/
inductive Chomping where
  | strip
  | clip
  | keep
deriving DecidableEq, Repr

/-- The head of a block scalar: its chomping, and its indentation where that is
given. -/
structure BlockHead where
  chomping : Chomping := .clip
  increment : Option Nat := none
deriving DecidableEq, Repr

/-- The chomping that a character asks for. -/
def chomping? : Char → Option Chomping
  | '+' => some .keep
  | '-' => some .strip
  | _ => none

/-- The indentation that a character asks for. -/
def increment? (c : Char) : Option Nat :=
  if '1' ≤ c ∧ c ≤ '9' then some (c.toNat - '0'.toNat) else none

/-- The head that up to two characters describe, in either order, and the text
after them. -/
def readBlockHead (cursor : Cursor) : BlockHead × Cursor :=
  match cursor.rest with
  | [] => ({}, cursor)
  | first :: rest =>
    let second := rest.head?
    match chomping? first, increment? first with
    | some chomping, _ =>
      match second.bind increment? with
      | some increment => (⟨chomping, some increment⟩, cursor.drop 2)
      | none => (⟨chomping, none⟩, cursor.drop 1)
    | none, some increment =>
      match second.bind chomping? with
      | some chomping => (⟨chomping, some increment⟩, cursor.drop 2)
      | none => (⟨.clip, some increment⟩, cursor.drop 1)
    | none, none => ({}, cursor)

/-- A block scalar so far, with all characters last one first. -/
structure BlockDraft where
  text : List Char := []
  /-- The break after the last line that has text. -/
  lineBreak : Option Char := none
  /-- The breaks of the empty lines after it. -/
  emptyLines : List Char := []
  /-- Whether the last line that has text begins with a blank. -/
  spaced : Bool := false
deriving DecidableEq, Repr

namespace BlockDraft

/-- The breaks before a line that begins with the character `c`. Between two
folded lines that begin with no blank, a single line feed is a space. -/
def breaksBefore (draft : BlockDraft) (style : ScalarStyle) (c : Char) : List Char :=
  if style = .folded ∧ draft.lineBreak = some '\n' ∧ !draft.spaced ∧ !isBlank c then
    if draft.emptyLines.isEmpty then [' '] else draft.emptyLines
  else draft.emptyLines ++ draft.lineBreak.toList

/-- The draft at the first character of a line that has text. -/
def startLine (draft : BlockDraft) (style : ScalarStyle) (c : Char) : BlockDraft :=
  { text := c :: draft.breaksBefore style c ++ draft.text, spaced := isBlank c }

def finish (draft : BlockDraft) (chomping : Chomping) : List Char :=
  let line := match chomping with
    | .strip => []
    | _ => draft.lineBreak.toList
  let empty := match chomping with
    | .keep => draft.emptyLines
    | _ => []
  (empty ++ line ++ draft.text).reverse

end BlockDraft

/-- The block scalar from a position on. `inLine` holds between the first
character of a line and its break; `indent` is nothing as long as no line has
text, and `widest` is the most indentation until then. -/
def blockFrom (style : ScalarStyle) (chomping : Chomping) (least : Nat) (mark : Mark)
    (inLine : Bool) (indent : Option Nat) (widest : Nat) (draft : BlockDraft) :
    List Char → Option ScalarRead
  | [] => some { text := draft.finish chomping, after := ⟨mark, []⟩ }
  | c :: rest =>
    let next := mark.after c
    if inLine then
      if isBreak c then
        blockFrom style chomping least next false indent widest
          { draft with lineBreak := some c } rest
      else
        blockFrom style chomping least next true indent widest
          { draft with text := c :: draft.text } rest
    else
      let outside := indent.all (mark.column < ·)
      let widest := max widest mark.column
      if outside ∧ c = ' ' then
        blockFrom style chomping least next false indent widest draft rest
      else if outside ∧ c = '\t' then none
      else if isBreak c then
        blockFrom style chomping least next false indent widest
          { draft with emptyLines := c :: draft.emptyLines } rest
      else
        let column := indent.getD (max widest (max least 1))
        if mark.column = column then
          blockFrom style chomping least next true (some column) widest
            (draft.startLine style c) rest
        else some { text := draft.finish chomping, after := ⟨mark, c :: rest⟩ }

/-- The block scalar at a cursor, which stands at its indicator. `outer` is the
column of the collection around it, if there is one. -/
def readBlock (style : ScalarStyle) (outer : Option Nat) (cursor : Cursor) :
    Option ScalarRead := do
  let (head, afterHead) := readBlockHead (cursor.drop 1)
  let body ← afterHead.skipBlanks.skipComment.skipLineEnd
  let least := (outer.map (· + 1)).getD 0
  let indent := head.increment.map (outer.getD 0 + ·)
  blockFrom style head.chomping least body.mark false indent 0 {} body.rest

end EntityGen.Yaml
