import EntityGen.Model.Reader
import EntityGen.Proofs.Result

/-!
Contract: what the faults of one model text name.

Owns:
- `IsUnplaced`, the results whose cause names no path;
- that every step of reading a text is one of them.

Does not own: which fault a text has, and the paths that are named around it.
-/

namespace EntityGen.Model

open EntityGen.Markup (Event Tag TagAttribute Token)

/-- Whether a cause names the path of a file. -/
def ModelError.namesPath : ModelError → Bool
  | .within _ _ => true
  | _ => false

/-- A result that, if it has a cause, has one that names no path. -/
def IsUnplaced {α : Type} (result : Except ModelError α) : Prop :=
  ∀ cause, result = .error cause → cause.namesPath = false

section Steps

variable {α β : Type}

theorem isUnplaced_ok (value : α) : IsUnplaced (.ok value) := nofun

theorem isUnplaced_error {cause : ModelError} (noPath : cause.namesPath = false) :
    IsUnplaced (.error cause : Except ModelError α) := by
  rintro _ ⟨⟩
  exact noPath

theorem IsUnplaced.bind {first : Except ModelError α} {next : α → Except ModelError β}
    (unplaced : IsUnplaced first) (nextUnplaced : ∀ value, IsUnplaced (next value)) :
    IsUnplaced (first >>= next) := by
  intro cause failed
  rcases Result.bind_eq_error_iff.mp failed with early | ⟨value, -, late⟩
  · exact unplaced cause early
  · exact nextUnplaced value cause late

theorem IsUnplaced.foldlM {take : β → α → Except ModelError β}
    (unplaced : ∀ before item, IsUnplaced (take before item)) (items : List α) (first : β) :
    IsUnplaced (items.foldlM take first) := by
  induction items generalizing first with
  | nil => exact isUnplaced_ok first
  | cons item others inductionHypothesis =>
      rw [List.foldlM_cons]
      exact (unplaced first item).bind inductionHypothesis

theorem isUnplaced_liftMarkup (result : Except Markup.MarkupError α) :
    IsUnplaced (liftMarkup result) := by
  intro cause failed
  obtain ⟨fault, -, rfl⟩ := Result.mapError_eq_error_iff.mp failed
  rfl

end Steps

/-! ## Tags -/

theorem isUnplaced_takeAttributes {α : Type} {take : α → TagAttribute → Except ModelError α}
    (unplaced : ∀ before given, IsUnplaced (take before given)) (initial : α) (tag : Tag) :
    IsUnplaced (takeAttributes take initial tag) := by
  refine (IsUnplaced.foldlM unplaced _ _).bind fun result => ?_
  split
  · exact isUnplaced_ok result
  · exact isUnplaced_error rfl

theorem isUnplaced_ofTag (tag : Tag) : IsUnplaced (ClassDecl.ofTag tag) := by
  refine (isUnplaced_takeAttributes (fun _ _ => isUnplaced_ok _) _ tag).bind fun draft => ?_
  unfold ClassDraft.finish
  split
  · exact isUnplaced_ok _
  · exact isUnplaced_error rfl

theorem isUnplaced_truthOf (key value : String) : IsUnplaced (truthOf key value) := by
  unfold truthOf
  split
  · exact isUnplaced_ok _
  · exact isUnplaced_ok _
  · exact isUnplaced_ok _
  · exact isUnplaced_ok _
  · exact isUnplaced_error rfl

theorem isUnplaced_take (draft : PropertyDraft) (given : TagAttribute) :
    IsUnplaced (draft.take given) := by
  unfold PropertyDraft.take
  split
  case h_4 => exact (isUnplaced_truthOf _ _).bind fun _ => isUnplaced_ok _
  case h_5 => exact (isUnplaced_truthOf _ _).bind fun _ => isUnplaced_ok _
  all_goals exact isUnplaced_ok _

theorem isUnplaced_element? (draft : PropertyDraft) (className name : String) :
    IsUnplaced (draft.element? className name) := by
  unfold PropertyDraft.element?
  split
  · exact isUnplaced_error rfl
  · exact isUnplaced_ok _
  · exact isUnplaced_ok _
  · exact isUnplaced_ok _

theorem isUnplaced_propertyOfTag (className : String) (tag : Tag) :
    IsUnplaced (Property.ofTag className tag) := by
  refine (isUnplaced_takeAttributes isUnplaced_take _ tag).bind fun draft => ?_
  unfold PropertyDraft.finish
  split
  · exact isUnplaced_error rfl
  · exact (isUnplaced_element? draft className _).bind fun _ => isUnplaced_ok _

/-! ## Documents -/

namespace Document

theorem isUnplaced_takeClass (document : Document) (decl : ClassDecl) :
    IsUnplaced (document.takeClass decl) := by
  unfold takeClass
  split
  · exact isUnplaced_error rfl
  · exact isUnplaced_ok _

theorem isUnplaced_declare (decl : ClassDecl) (property : Property) :
    IsUnplaced (decl.declare property) := by
  unfold ClassDecl.declare
  split
  · exact isUnplaced_ok _
  · exact isUnplaced_error rfl

theorem isUnplaced_addPropertyTag (decl : ClassDecl) (tag : Tag) :
    IsUnplaced (addPropertyTag decl tag) := by
  unfold addPropertyTag
  split
  · exact isUnplaced_error rfl
  · exact (isUnplaced_propertyOfTag decl.name tag).bind (isUnplaced_declare decl)

theorem isUnplaced_stepModel (document : Document) (event : Event) :
    IsUnplaced (document.stepModel event) := by
  cases event with
  | opened tag =>
      rw [stepModel]
      split
      · exact isUnplaced_ok _
      · split
        · exact (isUnplaced_ofTag tag).bind fun _ => isUnplaced_ok _
        · exact isUnplaced_error rfl
  | standalone tag =>
      rw [stepModel]
      split
      · exact isUnplaced_ok _
      · split
        · exact (isUnplaced_ofTag tag).bind document.isUnplaced_takeClass
        · exact isUnplaced_error rfl
  | closed => exact isUnplaced_ok _

theorem isUnplaced_stepClass (document : Document) (decl : ClassDecl) (event : Event) :
    IsUnplaced (document.stepClass decl event) := by
  cases event with
  | opened tag => exact (isUnplaced_addPropertyTag decl tag).bind fun _ => isUnplaced_ok _
  | standalone tag => exact (isUnplaced_addPropertyTag decl tag).bind fun _ => isUnplaced_ok _
  | closed => exact document.isUnplaced_takeClass decl

theorem isUnplaced_step (document : Document) (event : Event) :
    IsUnplaced (document.step event) := by
  unfold step
  split
  · exact isUnplaced_ok _
  · exact document.isUnplaced_stepModel event
  · exact document.isUnplaced_stepClass _ event
  · exact isUnplaced_ok _

end Document

/-! ## Texts -/

namespace Reader

theorem isUnplaced_takeToken (reader : Reader) (token : Token) :
    IsUnplaced (reader.takeToken token) := by
  refine (isUnplaced_liftMarkup _).bind fun event => ?_
  exact (reader.document.isUnplaced_step event.1).bind fun _ => isUnplaced_ok _

theorem isUnplaced_step (reader : Reader) (c : Char) : IsUnplaced (reader.step c) := by
  refine (isUnplaced_liftMarkup _).bind fun scanned => ?_
  obtain ⟨scanner, complete⟩ := scanned
  cases complete with
  | none => exact isUnplaced_ok _
  | some token => exact isUnplaced_takeToken _ token

end Reader

end EntityGen.Model
