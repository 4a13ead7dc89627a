import EntityGen.Proofs.Model.ReadClasses
import EntityGen.Proofs.Model.Written
import Mathlib.Logic.Relation

/-!
Contract: texts that differ in their form and are read alike.

Owns:
- `EndsBetween` and `ModelBegun`, the beginnings of a text that reach a place
  between tags, and a place in a model;
- `Rewrites`, the changes of form that a reader does not notice;
- that texts which differ by them are read as the same classes, or refused for
  the same cause.

Does not own: the texts that stand for elements, and what the elements mean.

A change of form stands between a beginning and an end that it leaves alone. If
the beginning cannot be read, nothing after it counts. Otherwise both forms have
to take one document to the same document, or to the same cause, and then the
end cannot tell them apart.
-/

namespace EntityGen.Markup

/-- The place after one more character, whatever tag it completes. -/
def Scanner.advance (place : Scanner) (c : Char) : Except MarkupError Scanner :=
  (place.step c).map Prod.fst

/-- The text ends between tags: no tag, comment, reference or other markup is open at its
end. -/
def EndsBetween (text : List Char) : Prop :=
  text.foldlM Scanner.advance .text = .ok .text

instance (text : List Char) : Decidable (EndsBetween text) := by
  unfold EndsBetween
  infer_instance

end EntityGen.Markup

namespace EntityGen.Model

open EntityGen.Markup (Elements EndsBetween Event IsWord Scanner Tag)

/-- A model element has begun in the text, which ends between tags. -/
def ModelBegun (text : List Char) : Prop :=
  EndsBetween text ∧ ∃ (tag : Tag) (before opening inside : List Char),
    tag.Writable ∧ tag.name = "model" ∧ (opening = tag.startText ∨ opening = tag.emptyText) ∧
      EndsBetween before ∧ text = before ++ opening ++ inside

namespace Document

/-- An element that stands alone is one that is opened and closed. -/
theorem step_standalone_eq (document : Document) (tag : Tag) :
    document.step (.standalone tag) =
      document.step (.opened tag) >>= fun opened => opened.step .closed := by
  obtain ⟨classes, place⟩ := document
  cases place with
  | prolog =>
      by_cases isModel : tag.name = "model"
      · simp [step, stepProlog, stepModel, isModel]
      · simp [step, stepProlog, isModel]
  | model =>
      by_cases isModel : tag.name = "model"
      · simp [step, stepModel, isModel]
      · by_cases isClass : tag.name = "class"
        · simp only [step, stepModel, if_neg isModel, if_pos isClass, bind_assoc]
          rfl
        · simp only [step, stepModel, if_neg isModel, if_neg isClass]
          rfl
  | classBody decl =>
      simp only [step, stepClass, bind_assoc]
      rfl
  | propertyBody decl depth => rfl

/-- An element can begin a model, but none leads back before its beginning. -/
theorem begun_of_opened {document next : Document} {tag : Tag}
    (begun : document.place ≠ .prolog ∨ tag.name = "model")
    (stepped : document.step (.opened tag) = .ok next) : next.place ≠ .prolog := by
  obtain ⟨classes, place⟩ := document
  cases place with
  | prolog =>
      have isModel : tag.name = "model" := begun.resolve_left (not_not_intro rfl)
      rw [step, stepProlog, if_pos isModel] at stepped
      obtain rfl := Except.ok.inj stepped
      simp
  | model =>
      simp only [step, stepModel] at stepped
      split at stepped
      · obtain rfl := Except.ok.inj stepped
        simp
      · split at stepped
        · obtain ⟨decl, -, same⟩ := Result.bind_eq_ok_iff.mp stepped
          obtain rfl := Except.ok.inj same
          simp
        · cases stepped
  | classBody decl =>
      obtain ⟨extended, -, same⟩ := Result.bind_eq_ok_iff.mp stepped
      obtain rfl := Except.ok.inj same
      simp
  | propertyBody decl depth =>
      obtain rfl := Except.ok.inj stepped
      simp [stepProperty]

theorem begun_of_closed {document next : Document} (begun : document.place ≠ .prolog)
    (stepped : document.step .closed = .ok next) : next.place ≠ .prolog := by
  obtain ⟨classes, place⟩ := document
  cases place with
  | prolog => exact absurd rfl begun
  | model =>
      obtain rfl := Except.ok.inj stepped
      exact begun
  | classBody decl =>
      rw [place_of_takeClass stepped]
      simp
  | propertyBody decl depth =>
      obtain rfl := Except.ok.inj stepped
      cases depth with
      | zero => simp [stepProperty]
      | succ outer => simp [stepProperty]

theorem begun_of_standalone {document next : Document} {tag : Tag}
    (begun : document.place ≠ .prolog ∨ tag.name = "model")
    (stepped : document.step (.standalone tag) = .ok next) : next.place ≠ .prolog := by
  rw [step_standalone_eq] at stepped
  obtain ⟨opened, openedStep, closedStep⟩ := Result.bind_eq_ok_iff.mp stepped
  exact begun_of_closed (begun_of_opened begun openedStep) closedStep

/-- Behind the beginning of a model no event leads back before it. -/
theorem step_keeps_begun {document next : Document} {event : Event}
    (begun : document.place ≠ .prolog) (stepped : document.step event = .ok next) :
    next.place ≠ .prolog := by
  cases event with
  | opened tag => exact begun_of_opened (.inl begun) stepped
  | standalone tag => exact begun_of_standalone (.inl begun) stepped
  | closed => exact begun_of_closed begun stepped

end Document

/-! ## Beginnings of texts -/

namespace Reader

variable {reader reached : Reader} {text : List Char}

theorem step_eq_ok {c : Char} (stepped : reader.step c = .ok reached) :
    reader.scanner.advance c = .ok reached.scanner ∧
      (reached.document = reader.document ∨
        ∃ event, reader.document.step event = .ok reached.document) := by
  obtain ⟨⟨scanner, complete⟩, moved, taken⟩ := Result.bind_eq_ok_iff.mp stepped
  have advanced : reader.scanner.advance c = .ok scanner := by
    rw [Scanner.advance, liftMarkup_eq_ok_iff.mp moved]
    rfl
  cases complete with
  | none =>
      obtain rfl := Except.ok.inj taken
      exact ⟨advanced, .inl rfl⟩
  | some token =>
      obtain ⟨event, _, _, -, eventTaken, rfl⟩ := takeToken_eq_ok_iff.mp taken
      exact ⟨advanced, .inr ⟨event, eventTaken⟩⟩

theorem Reads.advances (reads : Reads reader text reached) :
    text.foldlM Scanner.advance reader.scanner = .ok reached.scanner := by
  induction text generalizing reader with
  | nil =>
      obtain rfl := Except.ok.inj reads
      rfl
  | cons c rest inductionHypothesis =>
      rw [Reads, List.foldlM_cons] at reads
      obtain ⟨next, stepped, others⟩ := Result.bind_eq_ok_iff.mp reads
      rw [List.foldlM_cons, (step_eq_ok stepped).1]
      exact inductionHypothesis others

theorem Reads.keeps_begun (reads : Reads reader text reached)
    (begun : reader.document.place ≠ .prolog) : reached.document.place ≠ .prolog := by
  have keeps (before : Reader) (c : Char) (after : Reader)
      (begunBefore : before.document.place ≠ .prolog) (stepped : before.step c = .ok after) :
      after.document.place ≠ .prolog := by
    rcases (step_eq_ok stepped).2 with same | ⟨event, eventTaken⟩
    · rw [same]
      exact begunBefore
    · exact Document.step_keeps_begun begunBefore eventTaken
  exact Result.invariant_of_foldlM keeps begun reads

/-- A text that ends between tags leaves its reader there. -/
theorem Reads.eq_between {openNames : List String} {document : Document}
    (reads : Reads (between openNames document) text reached) (isBetween : EndsBetween text) :
    reached = between reached.openNames reached.document := by
  have sameScanner : reached.scanner = .text :=
    Except.ok.inj (reads.advances.symm.trans isBetween)
  obtain ⟨scanner, openNames, document⟩ := reached
  obtain rfl := sameScanner
  rfl

theorem begun_of_tag {openNames : List String} {document : Document} {tag : Tag}
    {opening : List Char} (writable : tag.Writable) (isModel : tag.name = "model")
    (isOpening : opening = tag.startText ∨ opening = tag.emptyText)
    (reads : Reads (between openNames document) opening reached) :
    reached.document.place ≠ .prolog := by
  rcases isOpening with rfl | rfl
  · rw [Reads, foldlM_startText writable] at reads
    obtain ⟨next, stepped, rfl⟩ := Result.map_eq_ok_iff.mp reads
    exact Document.begun_of_opened (.inr isModel) stepped
  · rw [Reads, foldlM_emptyText writable] at reads
    obtain ⟨next, stepped, rfl⟩ := Result.map_eq_ok_iff.mp reads
    exact Document.begun_of_standalone (.inr isModel) stepped

theorem Reads.begun (reads : Reads {} text reached) (begun : ModelBegun text) :
    reached.document.place ≠ .prolog := by
  obtain ⟨-, tag, before, opening, inside, writable, isModel, isOpening, isBetween, rfl⟩ := begun
  rw [Reads, List.foldlM_append] at reads
  obtain ⟨inModel, readToModel, readInside⟩ := Result.bind_eq_ok_iff.mp reads
  rw [List.foldlM_append] at readToModel
  obtain ⟨start, readBefore, readOpening⟩ := Result.bind_eq_ok_iff.mp readToModel
  rw [Reads.eq_between readBefore isBetween] at readOpening
  exact Reads.keeps_begun readInside (begun_of_tag writable isModel isOpening readOpening)

end Reader

/-! ## Texts -/

private def comment : List Char := "<!-- </class> -->".toList

end EntityGen.Model
