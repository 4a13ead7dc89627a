import EntityGen.Yaml.Token

/-!
Contract: the nodes of a YAML document.

Owns:
- `Node`, a scalar, a sequence or a mapping, and the aliases between them;
- `readDocument`, the one document of a text.

Does not own: what the nodes configure.

An alias refers to an anchor by number. A number is the count of distinct names
bound so far, so binding a name again can reuse one; the last node with a
number is the one that is meant.
-/

namespace EntityGen.Yaml

/-- A node of a document. Tags of collections are not kept. -/
inductive Node where
  | scalar (text : String) (style : ScalarStyle) (tag : Option String)
  | sequence (items : List Node)
  | mapping (entries : List (Node × Node))
  | alias (number : Nat)
  | anchored (number : Nat) (node : Node)

namespace Node

/-- The node that stands where nothing is written. -/
def empty (tag : Option String) : Node := .scalar "" .plain tag

mutual

/-- The anchored nodes in a node, in the order in which they begin. -/
def anchors : Node → List (Nat × Node)
  | .scalar _ _ _ => []
  | .alias _ => []
  | .sequence items => anchorsOfItems items
  | .mapping entries => anchorsOfEntries entries
  | .anchored number node => (number, node) :: node.anchors

def anchorsOfItems : List Node → List (Nat × Node)
  | [] => []
  | item :: others => item.anchors ++ anchorsOfItems others

def anchorsOfEntries : List (Node × Node) → List (Nat × Node)
  | [] => []
  | (key, value) :: others => key.anchors ++ value.anchors ++ anchorsOfEntries others

end

end Node

/-- A document: its root, and the nodes that aliases mean. -/
structure Document where
  root : Node
  targets : List (Nat × Node)

/-- The node without an anchor in front, and the target in place of an
alias. -/
def Document.resolve (document : Document) (node : Node) : Option Node :=
  match node with
  | .anchored _ inner => some inner
  | .alias number => document.targets.lookup number
  | other => some other

/-- The tokens that are left, the anchor names with their numbers, and the tag
handles with what they stand for. -/
structure NodeReader where
  tokens : List Token
  names : List (String × Nat) := []
  handles : List (String × String) := []

namespace NodeReader

/-- The reader after its first token. -/
def next (reader : NodeReader) : NodeReader :=
  { reader with tokens := reader.tokens.tail }

/-- Whether one of the given tokens is next. Without a token left, none is. -/
def isAt (reader : NodeReader) (tokens : List Token) : Bool :=
  reader.tokens.head?.any (tokens.contains ·)

/-- The reader with a name bound to a number, and that number. -/
def bind (reader : NodeReader) (name : String) : Nat × NodeReader :=
  let number := reader.names.length
  let others := reader.names.filter (·.1 != name)
  (number, { reader with names := (name, number) :: others })

/-- The anchor at the reader, if there is one. -/
def takeAnchor (reader : NodeReader) : Option Nat × NodeReader :=
  match reader.tokens with
  | .anchor name :: _ =>
    let (number, bound) := reader.bind name
    (some number, bound.next)
  | _ => (none, reader)

/-- The full tag that is written as a handle and a suffix. -/
def fullTag? (reader : NodeReader) (tag : TagText) : Option String :=
  if tag.handle.isEmpty then some tag.suffix
  else (reader.handles.lookup tag.handle).map (· ++ tag.suffix)

/-- The tag at the reader, if there is one. -/
def takeTag (reader : NodeReader) : Option (Option String × NodeReader) :=
  match reader.tokens with
  | .tag tag :: _ => (reader.fullTag? tag).map fun full => (some full, reader.next)
  | _ => some (none, reader)

/-- What stands in front of a node. -/
structure Properties where
  anchor : Option Nat
  tag : Option String

/-- The anchor and the tag in front of a node, in either order. -/
def takeProperties (reader : NodeReader) : Option (Properties × NodeReader) := do
  let (anchor, afterAnchor) := reader.takeAnchor
  let (tag, afterTag) ← afterAnchor.takeTag
  match anchor with
  | some number => some (⟨some number, tag⟩, afterTag)
  | none =>
    if tag.isNone then some (⟨none, none⟩, afterTag)
    else
      let (late, after) := afterTag.takeAnchor
      some (⟨late, tag⟩, after)

/-- A node with its anchor, if it has one. -/
def Properties.attach (properties : Properties) (node : Node) : Node :=
  match properties.anchor with
  | some number => .anchored number node
  | none => node

/-- Where a node stands: in a flow collection, in a block collection, or as the
key or value of a block mapping, where a sequence needs no indentation. -/
inductive Context where
  | flow
  | block
  | mappingPart
deriving DecidableEq, Repr

/-- The empty node, where properties stand alone. -/
def readNothing (properties : Properties) (reader : NodeReader) : Option (Node × NodeReader) :=
  if properties.anchor.isNone ∧ properties.tag.isNone then none
  else some (.empty properties.tag, reader)

/-- The reader after the comma that every item but the first needs. -/
def readSeparator (first : Bool) (reader : NodeReader) : Option NodeReader :=
  if first then some reader
  else if reader.isAt [.flowEntry] then some reader.next
  else none

mutual

/-- The node at the reader. Each call takes one of the `fuel` steps. -/
def readNode (fuel : Nat) (context : Context) (reader : NodeReader) : Option (Node × NodeReader) :=
  match fuel with
  | 0 => none
  | fuel + 1 =>
    match reader.tokens with
    | .alias name :: _ =>
      (reader.names.lookup name).map fun number => (.alias number, reader.next)
    | _ => do
      let (properties, atContent) ← reader.takeProperties
      let (node, after) ← readContent fuel context properties atContent
      some (properties.attach node, after)

def readContent (fuel : Nat) (context : Context) (properties : Properties)
    (reader : NodeReader) : Option (Node × NodeReader) :=
  match fuel with
  | 0 => none
  | fuel + 1 =>
    match reader.tokens with
    | .scalar text style :: _ => some (.scalar text style properties.tag, reader.next)
    | .flowSequenceStart :: _ => do
      let (items, after) ← readFlowItems fuel true reader.next
      some (.sequence items, after)
    | .flowMappingStart :: _ => do
      let (entries, after) ← readFlowEntries fuel true reader.next
      some (.mapping entries, after)
    | token :: _ =>
      if token = .blockEntry ∧ context = .mappingPart then do
        let (items, after) ← readBlockItems fuel false reader
        some (.sequence items, after)
      else if token = .blockSequenceStart ∧ context ≠ .flow then do
        let (items, after) ← readBlockItems fuel true reader.next
        some (.sequence items, after)
      else if token = .blockMappingStart ∧ context ≠ .flow then do
        let (entries, after) ← readBlockEntries fuel reader.next
        some (.mapping entries, after)
      else readNothing properties reader
    | [] => readNothing properties reader

/-- The node at the reader, or the empty node before one of the given
tokens. -/
def readUnless (fuel : Nat) (context : Context) (ends : List Token) (reader : NodeReader) :
    Option (Node × NodeReader) :=
  match fuel with
  | 0 => none
  | fuel + 1 =>
    if reader.isAt ends then some (.empty none, reader)
    else readNode fuel context reader

/-- The items of a block sequence. Its end is marked where it is indented. -/
def readBlockItems (fuel : Nat) (indented : Bool) (reader : NodeReader) :
    Option (List Node × NodeReader) :=
  match fuel with
  | 0 => none
  | fuel + 1 =>
    match reader.tokens with
    | .blockEntry :: _ => do
      let ends : List Token :=
        if indented then [.blockEntry, .blockEnd] else [.blockEntry, .key, .value, .blockEnd]
      let (item, afterItem) ← readUnless fuel .block ends reader.next
      let (others, after) ← readBlockItems fuel indented afterItem
      some (item :: others, after)
    | .blockEnd :: _ => some ([], if indented then reader.next else reader)
    | _ => if indented then none else some ([], reader)

def readBlockValue (fuel : Nat) (reader : NodeReader) : Option (Node × NodeReader) :=
  match fuel with
  | 0 => none
  | fuel + 1 =>
    match reader.tokens with
    | .value :: _ => readUnless fuel .mappingPart [.key, .value, .blockEnd] reader.next
    | _ => some (.empty none, reader)

def readBlockEntries (fuel : Nat) (reader : NodeReader) :
    Option (List (Node × Node) × NodeReader) :=
  match fuel with
  | 0 => none
  | fuel + 1 =>
    match reader.tokens with
    | .key :: _ => do
      let (key, afterKey) ← readUnless fuel .mappingPart [.key, .value, .blockEnd] reader.next
      let (value, afterValue) ← readBlockValue fuel afterKey
      let (others, after) ← readBlockEntries fuel afterValue
      some ((key, value) :: others, after)
    | .blockEnd :: _ => some ([], reader.next)
    | _ => none

/-- The items of a flow sequence; `first` before the first of them. A key makes
an item a mapping of one entry. -/
def readFlowItems (fuel : Nat) (first : Bool) (reader : NodeReader) :
    Option (List Node × NodeReader) :=
  match fuel with
  | 0 => none
  | fuel + 1 => do
    if reader.isAt [.flowSequenceEnd] then some ([], reader.next)
    else
      let atItem ← readSeparator first reader
      if atItem.isAt [.flowSequenceEnd] then some ([], atItem.next)
      else
        let (item, afterItem) ←
          if atItem.isAt [.key] then readPair fuel atItem.next
          else readNode fuel .flow atItem
        let (others, after) ← readFlowItems fuel false afterItem
        some (item :: others, after)

/-- The mapping of one entry in a flow sequence, after its key mark. -/
def readPair (fuel : Nat) (reader : NodeReader) : Option (Node × NodeReader) :=
  match fuel with
  | 0 => none
  | fuel + 1 => do
    let ends : List Token := [.value, .flowEntry, .flowSequenceEnd]
    let (key, afterKey) ← readUnless fuel .flow ends reader
    let (value, after) ← readFlowValue fuel [.flowEntry, .flowSequenceEnd] afterKey
    some (.mapping [(key, value)], after)

def readFlowValue (fuel : Nat) (ends : List Token) (reader : NodeReader) :
    Option (Node × NodeReader) :=
  match fuel with
  | 0 => none
  | fuel + 1 =>
    match reader.tokens with
    | .value :: _ => readUnless fuel .flow ends reader.next
    | _ => some (.empty none, reader)

/-- The entries of a flow mapping; `first` before the first of them. An item
without a key mark has no value. -/
def readFlowEntries (fuel : Nat) (first : Bool) (reader : NodeReader) :
    Option (List (Node × Node) × NodeReader) :=
  match fuel with
  | 0 => none
  | fuel + 1 => do
    if reader.isAt [.flowMappingEnd] then some ([], reader.next)
    else
      let atEntry ← readSeparator first reader
      if atEntry.isAt [.flowMappingEnd] then some ([], atEntry.next)
      else
        let (entry, afterEntry) ← readFlowEntry fuel atEntry
        let (others, after) ← readFlowEntries fuel false afterEntry
        some (entry :: others, after)

def readFlowEntry (fuel : Nat) (reader : NodeReader) : Option ((Node × Node) × NodeReader) :=
  match fuel with
  | 0 => none
  | fuel + 1 =>
    if reader.isAt [.key] then do
      let ends : List Token := [.value, .flowEntry, .flowMappingEnd]
      let (key, afterKey) ← readUnless fuel .flow ends reader.next
      let (value, after) ← readFlowValue fuel [.flowEntry, .flowMappingEnd] afterKey
      some ((key, value), after)
    else do
      let (key, after) ← readNode fuel .flow reader
      some ((key, .empty none), after)

end

/-- The handles that need no directive. -/
def usualHandles : List (String × String) :=
  [("!", "!"), ("!!", "tag:yaml.org,2002:")]

/-- Takes the directives in front of a document. No handle and no version is
given twice, and the version is 1.1 or 1.2. -/
def readDirectives (versioned : Bool) (handles : List (String × String)) :
    List Token → Option (List (String × String) × List Token)
  | .directive (.version major minor) :: rest =>
    if versioned ∨ major ≠ 1 ∨ (minor ≠ 1 ∧ minor ≠ 2) then none
    else readDirectives true handles rest
  | .directive (.handle handle start) :: rest =>
    if (handles.lookup handle).isSome then none
    else readDirectives versioned (handles ++ [(handle, start)]) rest
  | rest => some (handles, rest)

/-- The tokens after the mark that starts a document. A document without
directives may do without it. -/
def afterDocumentStart (hasDirectives : Bool) : List Token → Option (Bool × List Token)
  | .documentStart :: rest => some (true, rest)
  | rest => if hasDirectives then none else some (false, rest)

/-- Whether a document that was started by a mark has no content here. -/
def endsDocument : List Token → Bool
  | [] => true
  | .documentStart :: _ | .documentEnd :: _ | .directive _ :: _ => true
  | _ => false

/-- How many steps suffice to read the nodes of a token list. -/
def stepsFor (tokens : List Token) : Nat := 4 * tokens.length + 8

end NodeReader

open NodeReader in
/-- The document of a token list. There is at most one, and without any the
root is an empty node. -/
def Document.ofTokens (tokens : List Token) : Option Document := do
  if tokens.isEmpty then return ⟨.empty none, []⟩
  let (handles, afterDirectives) ← readDirectives false [] tokens
  let (marked, content) ←
    afterDocumentStart (afterDirectives.length < tokens.length) afterDirectives
  let reader : NodeReader := { tokens := content, handles := handles ++ usualHandles }
  let (root, after) ←
    if marked && endsDocument content then some (Node.empty none, reader)
    else readNode (stepsFor content) .block reader
  if after.tokens.all (· == .documentEnd) then
    some ⟨root, root.anchors.reverse⟩
  else none

/-- The document of a YAML text, unless the text is malformed or holds several
documents. -/
def readDocument (text : String) : Option Document := do
  Document.ofTokens (← tokenize text.toList)

end EntityGen.Yaml
