import EntityGen.Proofs.Markup.Attribute
import Mathlib.Data.List.Basic

/-!
Contract: tags that are written are tokens again.

Owns:
- `Enclosable`, the texts that can stand in a tag without ending it;
- `Tag.Writable`, the tags that can be written, and the texts that close them;
- the tokens of written start tags, empty elements and end tags.

Does not own: the text around tags, and their attributes.
-/

namespace EntityGen.Markup

/-! ## Texts in a tag -/

/-- Within a tag in which `quote` is open, the text neither ends the tag nor leaves a
quote open. -/
inductive Enclosable : Option Char → List Char → Prop
  | nil : Enclosable none []
  | cons {quote : Option Char} {c : Char} {rest : List Char} :
      (quote = none → c ≠ '>') → Enclosable (quoteAfter quote c) rest → Enclosable quote (c :: rest)

theorem Enclosable.append {quote : Option Char} {left right : List Char}
    (isLeft : Enclosable quote left) (isRight : Enclosable none right) :
    Enclosable quote (left ++ right) := by
  induction isLeft with
  | nil => exact isRight
  | cons noEnd _ inductionHypothesis => exact .cons noEnd inductionHypothesis

theorem enclosable_of_plain {text : List Char}
    (plain : ∀ c ∈ text, c ≠ '>' ∧ isQuote c = false) : Enclosable none text := by
  induction text with
  | nil => exact .nil
  | cons c others inductionHypothesis =>
      rw [List.forall_mem_cons] at plain
      have noQuote : quoteAfter none c = none := by
        rw [quoteAfter, plain.1.2, if_neg Bool.false_ne_true]
      refine .cons (fun _ => plain.1.1) ?_
      rw [noQuote]
      exact inductionHypothesis plain.2

theorem enclosable_singleton {c : Char} (noEnd : c ≠ '>') (noQuote : isQuote c = false) :
    Enclosable none [c] := by
  apply enclosable_of_plain
  intro other member
  obtain rfl := List.mem_singleton.mp member
  exact ⟨noEnd, noQuote⟩

/-- A tag that can be written, to stand alone or to be closed later: it has a name, it is
not taken for an end tag, a declaration or an instruction, nothing in it ends it, and no
slash makes it stand alone. -/
structure Tag.Writable (tag : Tag) : Prop where
  begins : ∃ first rest, tag.content = first :: rest ∧ isSpace first = false ∧
    first ≠ '/' ∧ first ≠ '!' ∧ first ≠ '?'
  enclosable : Enclosable none tag.content
  noSlash : tag.content.getLast? ≠ some '/'

section Tags

variable {name : String} {attributes : List TagAttribute}

end Tags

/-! ## Tokens -/

section Tokens

variable {tag : Tag}

theorem ofContent_of_ne {c : Char} {rest : List Char} (different : c ≠ '/') :
    Token.ofContent (c :: rest) =
      if (c :: rest).getLast? = some '/' then .emptyTag ⟨(c :: rest).dropLast⟩
      else .startTag ⟨c :: rest⟩ := by
  unfold Token.ofContent
  split
  · next same => exact absurd (List.cons.inj same).1 different
  · rfl

theorem ofContent_startTag (writable : tag.Writable) :
    Token.ofContent tag.content = .startTag tag := by
  obtain ⟨first, rest, isContent, -, notEnd, -⟩ := writable.begins
  have noSlash := writable.noSlash
  obtain ⟨content⟩ := tag
  subst isContent
  rw [ofContent_of_ne notEnd, if_neg noSlash]

theorem ofContent_emptyTag (writable : tag.Writable) :
    Token.ofContent (tag.content ++ ['/']) = .emptyTag tag := by
  obtain ⟨first, rest, isContent, -, notEnd, -⟩ := writable.begins
  obtain ⟨content⟩ := tag
  subst isContent
  rw [List.cons_append, ofContent_of_ne notEnd, ← List.cons_append,
    if_pos List.getLast?_concat, List.dropLast_concat]

theorem isSpace_of_mem_name {c : Char} (member : c ∈ tag.name.toList) : isSpace c = false := by
  have visible := List.all_takeWhile (p := (!isSpace ·)) (l := tag.content)
  rw [Tag.name, String.toList_ofList] at member
  simpa using List.all_eq_true.mp visible c member

end Tokens

end EntityGen.Markup
