import EntityGen.Yaml.Scalar
import EntityGen.Yaml.Tag

/-!
Contract: the tokens of a YAML text.

Owns:
- `Token`, the parts of which documents consist, with the starts and ends of
  block collections made explicit;
- indentation, and the keys that show as such only at their colon;
- `tokenize`, which is nothing for a malformed text.

Does not own: how tokens make up nodes.
-/

namespace EntityGen.Yaml

/-- A part of a YAML text. -/
inductive Token where
  | directive (directive : Directive)
  | documentStart
  | documentEnd
  | blockSequenceStart
  | blockMappingStart
  | blockEnd
  | flowSequenceStart
  | flowSequenceEnd
  | flowMappingStart
  | flowMappingEnd
  | blockEntry
  | flowEntry
  | key
  | value
  | alias (name : String)
  | anchor (name : String)
  | tag (tag : TagText)
  | scalar (text : String) (style : ScalarStyle)
deriving DecidableEq, Repr

/-- A token that may turn out to be a key without a mark of its own: the number
of tokens before it, where it stands, and whether it has to be a key. -/
structure KeyCandidate where
  number : Nat
  mark : Mark
  required : Bool
deriving DecidableEq, Repr

/-- How far a key may reach, in characters. -/
def longestKey : Nat := 1024

/-- A text so far. There is one key candidate, or none, for the block context
and for each flow collection around the cursor; the innermost is first. -/
structure Scanner where
  cursor : Cursor
  tokens : Array Token := #[]
  /-- The columns of the block collections around the cursor, innermost
  first. -/
  columns : List Nat := []
  keyAllowed : Bool := true
  candidate : Option KeyCandidate := none
  outerCandidates : List (Option KeyCandidate) := []
deriving DecidableEq, Repr

namespace Scanner

/-- Whether the cursor is inside a flow collection. -/
def inFlow (scanner : Scanner) : Bool := !scanner.outerCandidates.isEmpty

def emit (scanner : Scanner) (token : Token) : Scanner :=
  { scanner with tokens := scanner.tokens.push token }

def moveTo (scanner : Scanner) (cursor : Cursor) : Scanner :=
  { scanner with cursor }

def advance (scanner : Scanner) (count : Nat) : Scanner :=
  scanner.moveTo (scanner.cursor.drop count)

/-- The scanner where a key may begin, or may not. -/
def allowKey (scanner : Scanner) (keyAllowed : Bool) : Scanner :=
  { scanner with keyAllowed }

/-- The least column of what belongs to the innermost block collection. -/
def least (scanner : Scanner) : Nat :=
  match scanner.columns with
  | [] => 0
  | column :: _ => column + 1

/-- Whether a character between tokens is read over. Tabs are where they cannot
be taken for indentation, byte order marks at the start of a line. -/
def isFiller (flow keyAllowed : Bool) (mark : Mark) (c : Char) : Bool :=
  c == ' ' || (c == '\t' && (flow || !keyAllowed)) || (isOrderMark c && mark.column == 0)

/-- Walks over fillers, comments and breaks. After a break outside flow
collections a key may begin. -/
def toNextFrom (flow : Bool) (keyAllowed comment : Bool) (mark : Mark) :
    List Char → Bool × Cursor
  | [] => (keyAllowed, ⟨mark, []⟩)
  | c :: rest =>
    if isBreak c then toNextFrom flow (keyAllowed || !flow) false (mark.after c) rest
    else if comment then toNextFrom flow keyAllowed true (mark.after c) rest
    else if isFiller flow keyAllowed mark c then
      toNextFrom flow keyAllowed false (mark.after c) rest
    else if c = '#' then toNextFrom flow keyAllowed true (mark.after c) rest
    else (keyAllowed, ⟨mark, c :: rest⟩)

def toNext (scanner : Scanner) : Scanner :=
  let (keyAllowed, cursor) := toNextFrom scanner.inFlow scanner.keyAllowed false
    scanner.cursor.mark scanner.cursor.rest
  { scanner with keyAllowed, cursor }

/-- Gives up a candidate. One that has to be a key must not be given up. -/
def giveUp (candidate : Option KeyCandidate) : Option (Option KeyCandidate) :=
  if candidate.any (·.required) then none else some none

/-- Whether a candidate lies too far back to be a key. -/
def KeyCandidate.isStale (candidate : KeyCandidate) (mark : Mark) : Bool :=
  decide (candidate.mark.line < mark.line) ||
    decide (candidate.mark.index + longestKey < mark.index)

/-- Gives up a candidate if it lies too far back. -/
def refresh (mark : Mark) (candidate : Option KeyCandidate) : Option (Option KeyCandidate) :=
  if candidate.any (KeyCandidate.isStale · mark) then giveUp candidate else some candidate

/-- The scanner without candidates that lie too far back. -/
def dropStale (scanner : Scanner) : Option Scanner := do
  let candidate ← refresh scanner.cursor.mark scanner.candidate
  let outerCandidates ← scanner.outerCandidates.mapM (refresh scanner.cursor.mark)
  some { scanner with candidate, outerCandidates }

/-- The scanner without a candidate in the innermost context. -/
def dropCandidate (scanner : Scanner) : Option Scanner := do
  some { scanner with candidate := ← giveUp scanner.candidate }

/-- The scanner with the next token as a candidate, where a key may begin. A
token right at the column of a block mapping has to be a key. -/
def saveCandidate (scanner : Scanner) : Option Scanner :=
  if scanner.keyAllowed then do
    let freed ← scanner.dropCandidate
    let mark := scanner.cursor.mark
    some { freed with
      candidate := some {
        number := scanner.tokens.size
        mark := mark
        required := !scanner.inFlow && scanner.columns.head? == some mark.column } }
  else some scanner

/-- The columns that are not above `column`, and an end for each of the
others. -/
def closedBlocks (column : Option Nat) : List Nat → List Nat × List Token
  | [] => ([], [])
  | innermost :: others =>
    if column.all (· < innermost) then
      let (left, ends) := closedBlocks column others
      (left, .blockEnd :: ends)
    else (innermost :: others, [])

/-- The scanner after the ends of all block collections that lie to the right of
a column, or of all of them. -/
def closeBlocks (scanner : Scanner) (column : Option Nat) : Scanner :=
  if scanner.inFlow then scanner
  else
    let (columns, ends) := closedBlocks column scanner.columns
    { scanner with columns, tokens := scanner.tokens ++ ends.toArray }

/-- The scanner after the start of a block collection at a column, if none is
open there. The start stands before the token of the given number. -/
def openBlock (scanner : Scanner) (column number : Nat) (start : Token) : Scanner :=
  if scanner.inFlow ∨ scanner.columns.head?.any (column ≤ ·) then scanner
  else
    { scanner with
      columns := column :: scanner.columns
      tokens := scanner.tokens.insertIdxIfInBounds number start }

def openBlockHere (scanner : Scanner) (start : Token) : Scanner :=
  scanner.openBlock scanner.cursor.mark.column scanner.tokens.size start

def takeOutside (scanner : Scanner) : Option Scanner := do
  some ((← (scanner.closeBlocks none).dropCandidate).allowKey false)

def takeDocumentMark (scanner : Scanner) (token : Token) : Option Scanner := do
  some (((← scanner.takeOutside).advance 3).emit token)

def takeDirective (scanner : Scanner) : Option Scanner := do
  let outside ← scanner.takeOutside
  let (directive, after) ← readDirective outside.cursor
  some ((outside.moveTo after).emit (.directive directive))

def takeFlowStart (scanner : Scanner) (token : Token) : Option Scanner := do
  let saved ← scanner.saveCandidate
  let inside := { saved with
    candidate := none
    outerCandidates := saved.candidate :: saved.outerCandidates }
  some (((inside.allowKey true).advance 1).emit token)

def takeFlowEnd (scanner : Scanner) (token : Token) : Option Scanner := do
  let freed ← scanner.dropCandidate
  let outside := match freed.outerCandidates with
    | [] => freed
    | candidate :: others => { freed with candidate, outerCandidates := others }
  some (((outside.allowKey false).advance 1).emit token)

def takeFlowEntry (scanner : Scanner) : Option Scanner := do
  some ((((← scanner.dropCandidate).allowKey true).advance 1).emit .flowEntry)

def takeBlockEntry (scanner : Scanner) : Option Scanner := do
  if !scanner.inFlow ∧ !scanner.keyAllowed then none
  let freed ← (scanner.openBlockHere .blockSequenceStart).dropCandidate
  some (((freed.allowKey true).advance 1).emit .blockEntry)

def takeKey (scanner : Scanner) : Option Scanner := do
  if !scanner.inFlow ∧ !scanner.keyAllowed then none
  let freed ← (scanner.openBlockHere .blockMappingStart).dropCandidate
  some (((freed.allowKey (!scanner.inFlow)).advance 1).emit .key)

/-- The scanner after the colon of a value. A candidate becomes a key, and the
mapping starts before it. -/
def takeValue (scanner : Scanner) : Option Scanner :=
  match scanner.candidate with
  | some found =>
    let keyed := { scanner with
      candidate := none
      tokens := scanner.tokens.insertIdxIfInBounds found.number .key }
    let opened := keyed.openBlock found.mark.column found.number .blockMappingStart
    some (((opened.allowKey false).advance 1).emit .value)
  | none =>
    if !scanner.inFlow ∧ !scanner.keyAllowed then none
    else
      let opened := scanner.openBlockHere .blockMappingStart
      some (((opened.allowKey (!scanner.inFlow)).advance 1).emit .value)

/-- What may follow the name of an anchor or alias. -/
def anchorEnds (text : List Char) : Bool :=
  blankAhead text || text.head?.any ("?:,]\x7d%@`".toList.contains ·)

def takeAnchor (scanner : Scanner) (token : String → Token) : Option Scanner := do
  let saved ← scanner.saveCandidate
  let (name, after) := (saved.cursor.drop 1).span isWordChar
  if name.isEmpty ∨ !anchorEnds after.rest then none
  else some (((saved.allowKey false).moveTo after).emit (token (String.ofList name)))

def takeTag (scanner : Scanner) : Option Scanner := do
  let saved ← scanner.saveCandidate
  let (tag, after) ← readTag saved.inFlow saved.cursor
  some (((saved.allowKey false).moveTo after).emit (.tag tag))

def takeBlockScalar (scanner : Scanner) (style : ScalarStyle) : Option Scanner := do
  let freed ← scanner.dropCandidate
  let found ← readBlock style freed.columns.head? freed.cursor
  some (((freed.allowKey true).moveTo found.after).emit
    (.scalar (String.ofList found.text) style))

def takeQuoted (scanner : Scanner) (quote : Char) : Option Scanner := do
  let saved ← scanner.saveCandidate
  let found ← readQuoted quote saved.cursor
  some (((saved.allowKey false).moveTo found.after).emit
    (.scalar (String.ofList found.text) .quoted))

def takePlain (scanner : Scanner) : Option Scanner := do
  let saved ← scanner.saveCandidate
  let found ← readPlain saved.inFlow saved.least saved.cursor
  some (((saved.allowKey found.broken).moveTo found.after).emit
    (.scalar (String.ofList found.text) .plain))

/-- Characters that cannot begin a plain scalar. -/
def indicators : List Char := "-?:,[]\x7b\x7d#&*!|>'\"%@`".toList

def startsPlain (flow : Bool) : List Char → Bool
  | [] => false
  | c :: rest =>
    if c = '-' then !rest.head?.any isBlank
    else if c = '?' ∨ c = ':' then !flow && !blankAhead rest
    else !isBlank c && !isBreak c && !indicators.contains c

/-- The scanner after the token that begins with the character `c`, before the
characters `rest`. -/
def takeToken (scanner : Scanner) (c : Char) (rest : List Char) : Option Scanner :=
  let flow := scanner.inFlow
  let lineStart := scanner.cursor.mark.column = 0
  if lineStart ∧ c = '%' then scanner.takeDirective
  else if lineStart ∧ documentMarkAhead (c :: rest) then
    scanner.takeDocumentMark (if c = '-' then .documentStart else .documentEnd)
  else
    match c with
    | '[' => scanner.takeFlowStart .flowSequenceStart
    | '\x7b' => scanner.takeFlowStart .flowMappingStart
    | ']' => scanner.takeFlowEnd .flowSequenceEnd
    | '\x7d' => scanner.takeFlowEnd .flowMappingEnd
    | ',' => scanner.takeFlowEntry
    | '*' => scanner.takeAnchor .alias
    | '&' => scanner.takeAnchor .anchor
    | '!' => scanner.takeTag
    | '\'' | '"' => scanner.takeQuoted c
    | _ =>
      if c = '-' ∧ blankAhead rest then scanner.takeBlockEntry
      else if c = '?' ∧ (flow ∨ blankAhead rest) then scanner.takeKey
      else if c = ':' ∧ (flow ∨ blankAhead rest) then scanner.takeValue
      else if c = '|' ∧ !flow then scanner.takeBlockScalar .literal
      else if c = '>' ∧ !flow then scanner.takeBlockScalar .folded
      else if startsPlain flow (c :: rest) then scanner.takePlain
      else none

def takeEnd (scanner : Scanner) : Option Scanner := do
  (scanner.closeBlocks none).dropCandidate

/-- The tokens of a text. Each token takes at least one of the `fuel` characters
of the text. -/
def scan (scanner : Scanner) : Nat → Option (List Token)
  | 0 => none
  | fuel + 1 => do
    let fresh ← scanner.toNext.dropStale
    match fresh.cursor.rest with
    | [] => some (← fresh.takeEnd).tokens.toList
    | c :: rest =>
      let ready := fresh.closeBlocks (some fresh.cursor.mark.column)
      (← ready.takeToken c rest).scan fuel

end Scanner

/-- The tokens of a YAML text, unless it is malformed. -/
def tokenize (text : List Char) : Option (List Token) :=
  if text.all isReadable then
    let lines := withLineFeeds text
    Scanner.scan { cursor := ⟨{}, lines⟩ } (lines.length + 1)
  else none

end EntityGen.Yaml
