/-!
Contract: cutting a text at a separator and deleting a substring from it.

Owns:
- `pieces`, the parts of a text between separators, empty parts included;
- `joined`, its inverse;
- `without`, the deletion of every occurrence of a substring, found from left
  to right without overlaps.

Does not own: what the pieces mean. Namespaces, file paths and group lists
each read them by rules of their own.
-/

namespace EntityGen.Text

/-- The parts of `text` between separators. There is always one part more than
there are separators, so the empty text has one empty part. -/
def pieces (separator : Char) : List Char → List (List Char)
  | [] => [[]]
  | c :: rest =>
    if c = separator then [] :: pieces separator rest
    else
      match pieces separator rest with
      | [] => [[c]]
      | first :: others => (c :: first) :: others

/-- The parts with one separator between neighbours. -/
def joined (separator : Char) : List (List Char) → List Char
  | [] => []
  | [last] => last
  | first :: others => first ++ separator :: joined separator others

theorem pieces_ne_nil (separator : Char) (text : List Char) :
    pieces separator text ≠ [] := by
  cases text with
  | nil => simp [pieces]
  | cons c rest =>
      simp only [pieces]
      split
      · simp
      · split <;> simp

/-- Cutting loses nothing. -/
theorem joined_pieces (separator : Char) (text : List Char) :
    joined separator (pieces separator text) = text := by
  induction text with
  | nil => rfl
  | cons c rest inductionHypothesis =>
      have nonempty := pieces_ne_nil separator rest
      cases equation : pieces separator rest with
      | nil => exact absurd equation nonempty
      | cons first others =>
          rw [equation] at inductionHypothesis
          by_cases same : c = separator
          · simp [pieces, same, equation, joined, inductionHypothesis]
          · cases others with
            | nil =>
                simp only [joined] at inductionHypothesis
                simp [pieces, same, equation, joined, inductionHypothesis]
            | cons second more =>
                simp only [joined] at inductionHypothesis
                simp [pieces, same, equation, joined, inductionHypothesis]

/-- `text` without the occurrences of `pattern`, where the next `skipped`
characters belong to an occurrence that was already found. -/
def withoutFrom (pattern : List Char) : Nat → List Char → List Char
  | _, [] => []
  | skipped + 1, _ :: rest => withoutFrom pattern skipped rest
  | 0, c :: rest =>
    if pattern.isPrefixOf (c :: rest) then withoutFrom pattern (pattern.length - 1) rest
    else c :: withoutFrom pattern 0 rest

/-- `text` without any occurrence of `pattern`, searched from left to right;
text that comes together by a deletion is not searched again. An empty pattern
deletes nothing. -/
def without (pattern text : List Char) : List Char :=
  if pattern.isEmpty then text else withoutFrom pattern 0 text

end EntityGen.Text
