import EntityGen.Markup.Error

/-!
Contract: where a document type declaration ends.

Owns: the places inside a declaration, character by character, from the letter
after `<!` to the closing bracket. Quotes outside the internal subset, and any
markup inside it, can hide that bracket.

Does not own: what the declaration declares. It is read over.
-/

namespace EntityGen.Markup

/-- Blank characters of the markup: space, tab, line feed, carriage return. -/
def isSpace (c : Char) : Bool :=
  c == ' ' || c == '\t' || c == '\n' || c == '\r'

def isQuote (c : Char) : Bool :=
  c == '"' || c == '\''

/-- The quote that is open after `c`, if `quote` was open before it. -/
def quoteAfter (quote : Option Char) (c : Char) : Option Char :=
  match quote with
  | some opened => if c = opened then none else quote
  | none => if isQuote c then some c else none

/-- A place inside a document type declaration. -/
inductive Doctype where
  /-- In the keyword, with these capital letters to come. -/
  | keyword (expected : List Char)
  /-- After the keyword; `named` once anything but blanks was read. -/
  | heading (quote : Option Char) (named : Bool)
  /-- Between the brackets of the internal subset. -/
  | subset
  /-- After a `<` in the subset, with the characters read since. -/
  | subsetMarkup (read : List Char)
  /-- In a comment of the subset, after so many dashes. -/
  | subsetComment (dashes : Nat)
  /-- In an instruction of the subset. -/
  | subsetInstruction (asked : Bool)
  /-- In markup of the subset in which quotes hide nothing. -/
  | subsetBare
  /-- In a declaration of the subset in which quotes hide a bracket. -/
  | subsetQuoting (quote : Option Char)
  /-- After the subset. -/
  | footing
deriving DecidableEq, Repr

namespace Doctype

/-- The place after `<!` and the first letter. -/
def start : Doctype := keyword ['O', 'C', 'T', 'Y', 'P', 'E']

/-- Beginnings of markup in the subset, after its `<`, and the place to which
each of them leads. Quotes hide nothing in an element declaration. -/
def subsetBeginnings : List (List Char × Doctype) := [
  (['!', '-', '-'], subsetComment 0),
  (['?'], subsetInstruction false),
  ("!ELEMENT".toList, subsetBare),
  ("!ATTLIST".toList, subsetQuoting none),
  ("!ENTITY".toList, subsetQuoting none),
  ("!NOTATION".toList, subsetQuoting none)]

def stepSubset (c : Char) : Doctype :=
  if c = ']' then footing else if c = '<' then subsetMarkup [] else subset

/-- The place after a character of markup in which quotes hide nothing. -/
def stepBare (c : Char) : Doctype :=
  if c = '>' then subset else subsetBare

/-- The place after the characters `read` that follow a `<` in the subset, the
last of which is `c`. Markup with another beginning reaches to its first
closing bracket. -/
def stepSubsetMarkup (read : List Char) (c : Char) : Doctype :=
  match subsetBeginnings.lookup read with
  | some place => place
  | none =>
    if subsetBeginnings.any (fun beginning => read.isPrefixOf beginning.1) then
      subsetMarkup read
    else stepBare c

/-- The place after one more character, or nothing once the declaration is
complete. -/
def step (place : Doctype) (c : Char) : Except MarkupError (Option Doctype) :=
  match place with
  | keyword [] => .ok (some (heading (quoteAfter none c) (!isSpace c)))
  | keyword (letter :: expected) =>
    if c.toUpper = letter then
      .ok (some (if expected.isEmpty then heading none false else keyword expected))
    else .error .unclosedDoctype
  | heading (some quote) named => .ok (some (heading (quoteAfter (some quote) c) named))
  | heading none named =>
    if c = '[' then .ok (some subset)
    else if c = '>' then if named then .ok none else .error .namelessDoctype
    else .ok (some (heading (quoteAfter none c) (named || !isSpace c)))
  | subset => .ok (some (stepSubset c))
  | subsetMarkup read => .ok (some (stepSubsetMarkup (read ++ [c]) c))
  | subsetComment dashes =>
    if c = '-' then .ok (some (subsetComment (min 2 (dashes + 1))))
    else if c = '>' ∧ dashes = 2 then .ok (some subset)
    else .ok (some (subsetComment 0))
  | subsetInstruction asked =>
    if c = '>' ∧ asked then .ok (some subset)
    else .ok (some (subsetInstruction (c == '?')))
  | subsetBare => .ok (some (stepBare c))
  | subsetQuoting (some quote) => .ok (some (subsetQuoting (quoteAfter (some quote) c)))
  | subsetQuoting none =>
    .ok (some (if c = '>' then subset else subsetQuoting (quoteAfter none c)))
  | footing => .ok (if c = '>' then none else some footing)

end Doctype
end EntityGen.Markup
