import EntityGen.Text.LetterCase

/-!
Contract: the snake case form of an identifier.

Owns: the places where a word starts inside an identifier, and the lowering
around them.

Does not own: which part of a class name is one identifier.

A run of upper case letters is one word, except that its last letter belongs
to the lower case letters that follow: `XMLReader` has the words `xml` and
`reader`.
-/

namespace EntityGen.Naming

open EntityGen.Text

/-- Whether an upper case letter between `previous` and `rest` starts a new
word: after a lower case letter or a digit always, and inside a run of upper
case letters when a lower case letter follows. -/
def startsWord (previous : Option Char) (rest : List Char) : Bool :=
  match previous with
  | none => false
  | some before =>
    isLower before || before.isDigit || (isUpper before && (rest.head?.any isLower))

/-- The snake case form of what follows the character `previous`. -/
def snakeFrom (previous : Option Char) : List Char → List Char
  | [] => []
  | c :: rest =>
    if isUpper c then
      (if startsWord previous rest then ['_'] else []) ++ lower c ++ snakeFrom (some c) rest
    else c :: snakeFrom (some c) rest

def snakeCase (identifier : String) : String :=
  String.ofList (snakeFrom none identifier.toList)

end EntityGen.Naming
