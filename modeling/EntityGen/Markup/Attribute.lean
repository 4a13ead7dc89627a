import EntityGen.Markup.Token

/-!
Contract: the attributes in a tag.

Owns:
- the reading of names and quoted values, in order, up to the first fault;
- the rule that no name occurs twice.

Does not own: which names an element knows. Values stay as they are written.
-/

namespace EntityGen.Markup

/-- An attribute in a tag. -/
structure TagAttribute where
  key : String
  value : String
deriving DecidableEq, Repr

/-- A place among the attributes of a tag. What was read is kept last
character first. -/
inductive AttributePlace where
  /-- Between attributes. -/
  | blank
  /-- In a name that began at the given position. -/
  | key (start : Nat) (read : List Char)
  /-- After a name, before its equals sign. -/
  | keyEnd (start : Nat) (key : String)
  /-- After the equals sign. -/
  | equals (key : String)
  /-- In a value. -/
  | value (key : String) (quote : Char) (read : List Char)
deriving DecidableEq, Repr

namespace AttributePlace

/-- The fault of a tag that ends at a place, at the given position. -/
def fault? (place : AttributePlace) (position : Nat) : Option AttributeError :=
  match place with
  | blank => none
  | key _ _ => some (.expectedEquals position)
  | keyEnd _ _ => some (.expectedEquals position)
  | equals _ => some (.expectedValue position)
  | value _ quote _ => some (.unclosedQuote position quote)

end AttributePlace

/-- Names of a tag so far, each with the position at which it began. -/
abbrev KeyPositions := List (String × Nat)

/-- What one character does: where it leads, the names known after it, and the
attribute that it completes. -/
structure AttributeStep where
  place : AttributePlace
  known : KeyPositions
  complete : Option TagAttribute := none

def AttributeStep.afterKey (known : KeyPositions) (start : Nat) (key : String) :
    Except AttributeError AttributeStep :=
  match known.lookup key with
  | some previous => .error (.repeated start previous)
  | none => .ok ⟨.equals key, (key, start) :: known, none⟩

/-- The step over the character `c` at the given position. -/
def AttributeStep.take (known : KeyPositions) (place : AttributePlace) (position : Nat)
    (c : Char) : Except AttributeError AttributeStep :=
  match place with
  | .blank =>
    if isSpace c then .ok ⟨.blank, known, none⟩
    else .ok ⟨.key position [c], known, none⟩
  | .key start read =>
    if c = '=' then afterKey known start (String.ofList read.reverse)
    else if isSpace c then .ok ⟨.keyEnd start (String.ofList read.reverse), known, none⟩
    else .ok ⟨.key start (c :: read), known, none⟩
  | .keyEnd start key =>
    if c = '=' then afterKey known start key
    else if isSpace c then .ok ⟨.keyEnd start key, known, none⟩
    else .error (.expectedEquals position)
  | .equals key =>
    if isQuote c then .ok ⟨.value key c [], known, none⟩
    else if isSpace c then .ok ⟨.equals key, known, none⟩
    else .error (.unquotedValue position)
  | .value key quote read =>
    if c = quote then .ok ⟨.blank, known, some ⟨key, String.ofList read.reverse⟩⟩
    else .ok ⟨.value key quote (c :: read), known, none⟩

/-- The attributes in the characters that follow a place, and the fault at
which the reading stops. -/
def attributesFrom (known : KeyPositions) (place : AttributePlace) (position : Nat) :
    List Char → List TagAttribute × Option AttributeError
  | [] => ([], place.fault? position)
  | c :: rest =>
    match AttributeStep.take known place position c with
    | .error fault => ([], some fault)
    | .ok next =>
      let (found, fault) := attributesFrom next.known next.place (position + c.utf8Size) rest
      (next.complete.toList ++ found, fault)

/-- The attributes of a tag in order, and the fault at which the reading
stops. -/
def Tag.attributes (tag : Tag) : List TagAttribute × Option AttributeError :=
  attributesFrom [] .blank tag.name.utf8ByteSize (tag.content.dropWhile (!isSpace ·))

end EntityGen.Markup
