import EntityGen.Model.Reader
import EntityGen.Proofs.Markup.Token
import EntityGen.Proofs.Result

/-!
Contract: what a part of a text does to a reader.

Owns:
- `Reads`, the parts of a text that lead from one reader to another;
- filler between tags, which changes nothing;
- written tags, each as one event of the document.

Does not own: what an event does to the document.

A reader goes through its text character by character, so what it does with a
text is what it does with the parts one after the other. Every part of a written
model begins and ends between tags.
-/

namespace EntityGen.Model

open EntityGen.Markup (Enclosable Event IsWord Scanner Tag TagAttribute Token)

namespace Reader

/-- The characters of `text` lead from one reader to the other. -/
def Reads (reader : Reader) (text : List Char) (reached : Reader) : Prop :=
  text.foldlM step reader = .ok reached

/-- The reader between two tags. -/
abbrev between (openNames : List String) (document : Document) : Reader :=
  ⟨.text, openNames, document⟩

theorem Reads.append {reader middle reached : Reader} {left right : List Char}
    (first : Reads reader left middle) (second : Reads middle right reached) :
    Reads reader (left ++ right) reached := by
  rw [Reads, List.foldlM_append, first]
  exact second

theorem reads_cons {reader middle reached : Reader} {c : Char} {rest : List Char}
    (first : reader.step c = .ok middle) (others : Reads middle rest reached) :
    Reads reader (c :: rest) reached := by
  rw [Reads, List.foldlM_cons, first]
  exact others

theorem step_of_incomplete {reader : Reader} {c : Char} {scanner : Scanner}
    (moved : reader.scanner.step c = .ok (scanner, none)) :
    reader.step c = .ok { reader with scanner } := by
  rw [step, moved]
  rfl

theorem step_of_complete {reader : Reader} {c : Char} {scanner : Scanner} {token : Token}
    (moved : reader.scanner.step c = .ok (scanner, some token)) :
    reader.step c = takeToken { reader with scanner } token := by
  rw [step, moved]
  rfl

variable {openNames : List String} {document next : Document}

/-! ## Between tags -/

/-- Text that opens neither a tag nor a reference. -/
def isFiller (text : List Char) : Bool :=
  text.all fun c => c != '<' && c != '&'

/-- What can stand in a tag is collected up to the bracket. -/
theorem reads_enclosable {quote : Option Char} {content : List Char}
    (enclosable : Enclosable quote content) (read : List Char) :
    Reads ⟨.tag quote read, openNames, document⟩ content
      ⟨.tag none (content.reverse ++ read), openNames, document⟩ := by
  induction enclosable generalizing read with
  | nil => rfl
  | @cons quote c rest noEnd _ inductionHypothesis =>
      have notClosed : (quote.isNone && c == '>') = false := by
        cases quote with
        | none => simpa using noEnd rfl
        | some opened => rfl
      have collected : Scanner.step (.tag quote read) c =
          .ok (.tag (Markup.quoteAfter quote c) (c :: read), none) := by
        simp [Scanner.step, Scanner.stepTag, notClosed]
      rw [List.reverse_cons, List.append_assoc]
      exact reads_cons (step_of_incomplete collected) (inductionHypothesis (c :: read))

/-- A tag is read as the token of what is written between its brackets. -/
theorem foldlM_tag {first : Char} {rest : List Char} (isTag : first ≠ '!' ∧ first ≠ '?')
    (enclosable : Enclosable none (first :: rest)) :
    ('<' :: first :: rest ++ ['>']).foldlM step (between openNames document) =
      (between openNames document).takeToken (Token.ofContent (first :: rest)) := by
  have opened : (between openNames document).step '<' = .ok ⟨.markup, openNames, document⟩ := rfl
  -- Behind the bracket a tag has not begun yet, but its first character is read as in a tag.
  have sameStep : step ⟨.markup, openNames, document⟩ first =
      step ⟨.tag none [], openNames, document⟩ first := by
    simp [step, Scanner.step, isTag]
  have inTag : Reads ⟨.markup, openNames, document⟩ (first :: rest)
      ⟨.tag none ((first :: rest).reverse ++ []), openNames, document⟩ := by
    have collected : Reads ⟨.tag none [], openNames, document⟩ (first :: rest)
        ⟨.tag none ((first :: rest).reverse ++ []), openNames, document⟩ :=
      reads_enclosable enclosable []
    rw [Reads, List.foldlM_cons] at collected ⊢
    rw [sameStep]
    exact collected
  have toEnd : Reads (between openNames document) ('<' :: first :: rest)
      ⟨.tag none ((first :: rest).reverse ++ []), openNames, document⟩ :=
    reads_cons opened inTag
  have completes : Scanner.step (.tag none ((first :: rest).reverse ++ [])) '>' =
      .ok (.text, some (Token.ofContent (first :: rest))) := by
    rw [List.append_nil, Scanner.step, Scanner.stepTag, List.reverse_reverse]
    rfl
  rw [List.foldlM_append, toEnd, Result.ok_bind, List.foldlM_cons, step_of_complete completes]
  exact bind_pure _

theorem takeToken_of_event {token : Token} {event : Event} {namesAfter : List String}
    (isEvent : Event.ofToken openNames token = .ok (event, namesAfter)) :
    (between openNames document).takeToken token =
      (document.step event).map (between namesAfter) := by
  rw [takeToken, isEvent]
  change (document.step event >>= _) = _
  cases document.step event <;> rfl

section Tags

variable {tag : Tag}

theorem foldlM_startText (writable : tag.Writable) :
    tag.startText.foldlM step (between openNames document) =
      (document.step (.opened tag)).map (between (tag.name :: openNames)) := by
  obtain ⟨first, rest, isContent, -, -, isTag⟩ := writable.begins
  have isToken := Markup.ofContent_startTag writable
  have enclosable := writable.enclosable
  have isEvent : Event.ofToken openNames (.startTag tag) =
      .ok (.opened tag, tag.name :: openNames) := rfl
  rw [← takeToken_of_event isEvent, ← isToken, Tag.startText]
  rw [isContent] at enclosable ⊢
  exact foldlM_tag isTag enclosable

theorem foldlM_emptyText (writable : tag.Writable) :
    tag.emptyText.foldlM step (between openNames document) =
      (document.step (.standalone tag)).map (between openNames) := by
  obtain ⟨first, rest, isContent, -, -, isTag⟩ := writable.begins
  have isToken := Markup.ofContent_emptyTag writable
  have slash : Enclosable none ['/'] := Markup.enclosable_singleton (by decide) (by decide)
  have enclosable := writable.enclosable.append slash
  have isEvent : Event.ofToken openNames (.emptyTag tag) = .ok (.standalone tag, openNames) := rfl
  have inParts : tag.emptyText = '<' :: (tag.content ++ ['/']) ++ ['>'] := by
    simp [Tag.emptyText]
  rw [← takeToken_of_event isEvent, ← isToken, inParts]
  rw [isContent, List.cons_append] at enclosable ⊢
  exact foldlM_tag isTag enclosable

end Tags

section Elements

variable {name : String} {attributes : List TagAttribute}

end Elements

end Reader

end EntityGen.Model
