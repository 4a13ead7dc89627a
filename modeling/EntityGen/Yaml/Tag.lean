import EntityGen.Yaml.Text

/-!
Contract: tags and directives as they are written.

Owns:
- the handle and the suffix of a tag in a text;
- the two directives, for the version and for a tag handle.

Does not own: which full tag a handle and a suffix stand for.
-/

namespace EntityGen.Yaml

/-- A tag as written. An empty handle says that the suffix is the whole tag. -/
structure TagText where
  handle : String
  suffix : String
deriving DecidableEq, Repr

/-- A directive in front of a document. -/
inductive Directive where
  | version (major minor : Nat)
  | handle (handle start : String)
deriving DecidableEq, Repr

/-- Whether a character may occur in a tag as itself. Between angle brackets,
and in a directive, some indicators may too. -/
def isTagChar (indicators : Bool) (c : Char) : Bool :=
  isWordChar c || ";/?:@&=+$.!~*'()".toList.contains c ||
    (indicators && ",[]".toList.contains c)

/-- A byte that is written as a percent sign and two digits, and the text after
it. -/
def escapedByte : List Char → Option (Nat × List Char)
  | '%' :: high :: low :: rest => do
    some (16 * (← hexDigit? high) + (← hexDigit? low), rest)
  | _ => none

/-- The further bytes of an escaped character, so many of them. -/
def escapedTail : Nat → List Char → Option (List Char)
  | 0, text => some text
  | count + 1, text => do
    let (byte, rest) ← escapedByte text
    if byte / 64 = 2 then escapedTail count rest else none

/-- How many bytes follow the first byte of a character. -/
def tailSize? (byte : Nat) : Option Nat :=
  if byte < 0x80 then some 0
  else if byte / 32 = 6 then some 1
  else if byte / 16 = 14 then some 2
  else if byte / 8 = 30 then some 3
  else none

/-- How many characters of the text an escaped character takes. -/
def escapeSize? (text : List Char) : Option Nat := do
  let (byte, rest) ← escapedByte text
  let tail ← tailSize? byte
  let _ ← escapedTail tail rest
  some (3 * (tail + 1))

/-- The characters of a tag at the start of a text, escapes included as they
are written; `left` of them belong to an escape that was checked. -/
def tagCharsFrom (indicators : Bool) (left : Nat) : List Char → Option (List Char)
  | [] => some []
  | c :: rest =>
    match left with
    | within + 1 => (tagCharsFrom indicators within rest).map (c :: ·)
    | 0 =>
      if c = '%' then do
        let size ← escapeSize? (c :: rest)
        (tagCharsFrom indicators (size - 1) rest).map (c :: ·)
      else if isTagChar indicators c then (tagCharsFrom indicators 0 rest).map (c :: ·)
      else some []

/-- The bytes of checked characters of a tag, all of which are below 128, with
escapes replaced by what they stand for. -/
def unescapedBytes : List Char → List UInt8
  | [] => []
  | '%' :: high :: low :: rest =>
    (16 * (hexDigit? high).getD 0 + (hexDigit? low).getD 0).toUInt8 :: unescapedBytes rest
  | c :: rest => c.toNat.toUInt8 :: unescapedBytes rest

/-- The text of checked characters of a tag, which a zero byte ends. Escapes
that make up no text stay as they are written. -/
def unescaped (chars : List Char) : String :=
  let bytes := (unescapedBytes chars).takeWhile (· != 0)
  (String.fromUTF8? ⟨bytes.toArray⟩).getD (String.ofList chars)

def readTagChars (indicators : Bool) (cursor : Cursor) : Option (List Char × Cursor) :=
  (tagCharsFrom indicators 0 cursor.rest).map fun found => (found, cursor.drop found.length)

/-- The handle at a cursor, which stands at its exclamation mark: that mark
alone, or a word between two of them. What begins like a handle and lacks the
second mark is not one. -/
def readHandle (cursor : Cursor) : List Char × Cursor :=
  let (word, after) := (cursor.drop 1).span isWordChar
  match after.rest with
  | '!' :: _ => ('!' :: word ++ ['!'], after.drop 1)
  | _ => ('!' :: word, after)

/-- The tag in angle brackets at a cursor, which stands at its exclamation
mark. -/
def readVerbatimTag (cursor : Cursor) : Option (TagText × Cursor) := do
  let (suffix, after) ← readTagChars true (cursor.drop 2)
  if suffix.isEmpty then none
  else
    match after.rest with
    | '>' :: _ => some (⟨"", unescaped suffix⟩, after.drop 1)
    | _ => none

/-- The tag with a handle at a cursor, which stands at its exclamation mark. -/
def readShortTag (cursor : Cursor) : Option (TagText × Cursor) := do
  let (handle, after) := readHandle cursor
  let (found, last) ← readTagChars false after
  if handle.length ≥ 2 ∧ handle.getLast? = some '!' then
    if found.isEmpty then none
    else some (⟨String.ofList handle, unescaped found⟩, last)
  else
    let suffix := unescaped (handle.drop 1 ++ found)
    if suffix.isEmpty then some (⟨"", "!"⟩, last) else some (⟨"!", suffix⟩, last)

/-- The tag at a cursor, which stands at its exclamation mark. A blank has to
follow, or a comma inside a flow collection. -/
def readTag (flow : Bool) (cursor : Cursor) : Option (TagText × Cursor) := do
  let (tag, after) ←
    match cursor.rest with
    | '!' :: '<' :: _ => readVerbatimTag cursor
    | _ => readShortTag cursor
  if blankAhead after.rest ∨ (flow ∧ after.rest.head? = some ',') then some (tag, after)
  else none

/-- The value of decimal digits, of which there are one to nine. -/
def versionNumber? (digits : List Char) : Option Nat :=
  if digits.isEmpty ∨ digits.length > 9 then none
  else some (digits.foldl (fun value c => value * 10 + (c.toNat - '0'.toNat)) 0)

def readVersion (cursor : Cursor) : Option (Directive × Cursor) := do
  let (major, afterMajor) := cursor.skipBlanks.span Char.isDigit
  match afterMajor.rest with
  | '.' :: _ =>
    let (minor, after) := (afterMajor.drop 1).span Char.isDigit
    some (.version (← versionNumber? major) (← versionNumber? minor), after)
  | _ => none

def readHandleDirective (cursor : Cursor) : Option (Directive × Cursor) := do
  let atHandle := cursor.skipBlanks
  if atHandle.rest.head? ≠ some '!' then none
  let (handle, afterHandle) := readHandle atHandle
  if handle.length ≥ 2 ∧ handle.getLast? ≠ some '!' then none
  if !afterHandle.rest.head?.any isBlank then none
  let (start, after) ← readTagChars true afterHandle.skipBlanks
  if start.isEmpty ∨ !blankAhead after.rest then none
  else some (.handle (String.ofList handle) (unescaped start), after)

/-- The directive at a cursor, which stands at its percent sign, and the text
after its line. -/
def readDirective (cursor : Cursor) : Option (Directive × Cursor) := do
  let (name, afterName) := (cursor.drop 1).span isWordChar
  if !blankAhead afterName.rest then none
  let (directive, after) ←
    if name = "YAML".toList then readVersion afterName
    else if name = "TAG".toList then readHandleDirective afterName
    else none
  some (directive, ← after.skipBlanks.skipComment.skipLineEnd)

end EntityGen.Yaml
