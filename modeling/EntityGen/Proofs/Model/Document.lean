import EntityGen.Proofs.Markup.Outline
import EntityGen.Proofs.Model.Reader

/-!
Contract: what a document reads of well-nested elements.

Owns:
- the class elements of a document, wherever they lie;
- the steps of a document over the events of elements and outlines;
- `resultOf`, reading the class elements alone.

Does not own: what a class element declares.

A reader of classes knows only whether a model element has begun. It does not
notice where that element ends: class elements behind it are read as well, and so
are those of a model element that is never closed. Elements before the first
model element, or around it, are read over.
-/

namespace EntityGen.Model

open EntityGen.Markup (Elements Event Outline Tag)

/-! ## Class elements -/

/-- The class elements among those in a model. The tags of a model element in a
model make no difference. -/
def classesInside : Elements → List (Tag × Elements)
  | .none => []
  | .standalone tag after =>
    if tag.name = "model" then classesInside after else (tag, .none) :: classesInside after
  | .enclosing tag inside after =>
    if tag.name = "model" then classesInside inside ++ classesInside after
    else (tag, inside) :: classesInside after

/-- The class elements behind the beginning of the first model element. -/
def classElements : Elements → Option (List (Tag × Elements))
  | .none => none
  | .standalone tag after =>
    if tag.name = "model" then some (classesInside after) else classElements after
  | .enclosing tag inside after =>
    if tag.name = "model" then some (classesInside inside ++ classesInside after)
    else
      match classElements inside with
      | some found => some (found ++ classesInside after)
      | none => classElements after

/-- The class elements of an outline in a model, all of which have to be closed. -/
def outlineInside : Outline → Option (List (Tag × Elements))
  | .complete elements => some (classesInside elements)
  | .unclosed before tag inside =>
    if tag.name = "model" then (outlineInside inside).map (classesInside before ++ ·) else none

/-- The class elements of an outline, all of which have to be closed, behind the
beginning of its first model element. -/
def outlineClasses : Outline → Option (List (Tag × Elements))
  | .complete elements => classElements elements
  | .unclosed before tag inside =>
    match classElements before with
    | some found =>
      if tag.name = "model" then (outlineInside inside).map (found ++ ·) else none
    | none => if tag.name = "model" then outlineInside inside else outlineClasses inside

/-! ## Events of elements -/

namespace Document

theorem foldlM_step_propertyBody (elements : Elements) (classes : List ClassDecl)
    (decl : ClassDecl) (depth : Nat) :
    elements.events.foldlM step ⟨classes, .propertyBody decl depth⟩ =
      .ok ⟨classes, .propertyBody decl depth⟩ := by
  induction elements generalizing depth with
  | none => rfl
  | standalone tag after inductionHypothesis => exact inductionHypothesis depth
  | enclosing tag inside after insideHypothesis afterHypothesis =>
      show (inside.events ++ .closed :: after.events).foldlM step
        ⟨classes, .propertyBody decl (depth + 1)⟩ = _
      rw [List.foldlM_append, insideHypothesis]
      exact afterHypothesis depth

/-- The class after the elements in its own. -/
def takeChildren (decl : ClassDecl) (elements : Elements) : Except ModelError ClassDecl :=
  elements.toList.foldlM (fun extended child => addPropertyTag extended child.1) decl

theorem foldlM_step_classBody (elements : Elements) (classes : List ClassDecl)
    (decl : ClassDecl) :
    elements.events.foldlM step ⟨classes, .classBody decl⟩ =
      takeChildren decl elements >>= fun extended => .ok ⟨classes, .classBody extended⟩ := by
  induction elements generalizing decl with
  | none => rfl
  | standalone tag after inductionHypothesis =>
      unfold takeChildren at inductionHypothesis ⊢
      rw [Elements.toList, List.foldlM_cons, Elements.events, List.foldlM_cons, bind_assoc]
      show (addPropertyTag decl tag >>= _) >>= _ = _
      rw [bind_assoc]
      exact Result.bind_congr_of_ok fun extended _ => inductionHypothesis extended
  | enclosing tag inside after _ inductionHypothesis =>
      unfold takeChildren at inductionHypothesis ⊢
      rw [Elements.toList, List.foldlM_cons, Elements.events, List.foldlM_cons, bind_assoc]
      show (addPropertyTag decl tag >>= _) >>= _ = _
      rw [bind_assoc]
      refine Result.bind_congr_of_ok fun extended _ => ?_
      show (inside.events ++ .closed :: after.events).foldlM step
        ⟨classes, .propertyBody extended 0⟩ = _
      rw [List.foldlM_append, foldlM_step_propertyBody]
      exact inductionHypothesis extended

/-- The document after one more element of a model. -/
def takeElement (document : Document) (element : Tag × Elements) :
    Except ModelError Document :=
  if element.1.name = "class" then do
    let head ← ClassDecl.ofTag element.1
    document.takeClass (← takeChildren head element.2)
  else .error (.strangeElement element.1.name "model")

theorem place_of_takeClass {document next : Document} {decl : ClassDecl}
    (taken : document.takeClass decl = .ok next) : next.place = .model := by
  unfold takeClass at taken
  split at taken
  · cases taken
  · obtain rfl := Except.ok.inj taken
    rfl

theorem takeElement_place {document next : Document} {element : Tag × Elements}
    (taken : document.takeElement element = .ok next) : next = ⟨next.classes, .model⟩ := by
  unfold takeElement at taken
  split at taken
  · obtain ⟨head, -, taken⟩ := Result.bind_eq_ok_iff.mp taken
    obtain ⟨decl, -, taken⟩ := Result.bind_eq_ok_iff.mp taken
    rw [← place_of_takeClass taken]
  · cases taken

theorem foldlM_takeElement_place {elements : List (Tag × Elements)} {classes : List ClassDecl}
    {next : Document} (taken : elements.foldlM takeElement ⟨classes, .model⟩ = .ok next) :
    next = ⟨next.classes, .model⟩ := by
  induction elements generalizing classes with
  | nil =>
      obtain rfl := Except.ok.inj taken
      rfl
  | cons element others inductionHypothesis =>
      rw [List.foldlM_cons] at taken
      obtain ⟨after, first, taken⟩ := Result.bind_eq_ok_iff.mp taken
      rw [takeElement_place first] at taken
      exact inductionHypothesis taken

section ModelPlace

variable {tag : Tag} (classes : List ClassDecl)

theorem step_model_of_model (isModel : tag.name = "model") :
    step ⟨classes, .model⟩ (.opened tag) = .ok ⟨classes, .model⟩ ∧
      step ⟨classes, .model⟩ (.standalone tag) = .ok ⟨classes, .model⟩ := by
  simp [step, stepModel, isModel]

theorem step_standalone (notModel : tag.name ≠ "model") :
    step ⟨classes, .model⟩ (.standalone tag) = takeElement ⟨classes, .model⟩ (tag, .none) := by
  simp only [step, stepModel, takeElement, if_neg notModel]
  rfl

theorem foldlM_step_enclosing (notModel : tag.name ≠ "model") (inside : Elements) :
    (Event.opened tag :: (inside.events ++ [.closed])).foldlM step ⟨classes, .model⟩ =
      takeElement ⟨classes, .model⟩ (tag, inside) := by
  rw [List.foldlM_cons]
  simp only [step, stepModel, takeElement, if_neg notModel]
  by_cases isClass : tag.name = "class"
  · simp only [if_pos isClass]
    rw [bind_assoc]
    refine Result.bind_congr_of_ok fun head _ => ?_
    show (inside.events ++ [Event.closed]).foldlM step ⟨classes, .classBody head⟩ = _
    rw [List.foldlM_append, foldlM_step_classBody, bind_assoc]
    refine Result.bind_congr_of_ok fun decl _ => ?_
    show step ⟨classes, .classBody decl⟩ .closed >>= pure = _
    rw [bind_pure]
    rfl
  · simp only [if_neg isClass]
    rfl

/-- Elements in a model are read as the class elements among them. -/
theorem foldlM_step_model (elements : Elements) :
    elements.events.foldlM step ⟨classes, .model⟩ =
      (classesInside elements).foldlM takeElement ⟨classes, .model⟩ := by
  induction elements generalizing classes with
  | none => rfl
  | standalone tag after inductionHypothesis =>
      rw [Elements.events, List.foldlM_cons, classesInside]
      by_cases isModel : tag.name = "model"
      · rw [if_pos isModel, (step_model_of_model classes isModel).2]
        exact inductionHypothesis classes
      · rw [if_neg isModel, List.foldlM_cons, step_standalone classes isModel]
        refine Result.bind_congr_of_ok fun next taken => ?_
        rw [takeElement_place taken]
        exact inductionHypothesis next.classes
  | enclosing tag inside after insideHypothesis afterHypothesis =>
      rw [Elements.events, classesInside]
      by_cases isModel : tag.name = "model"
      · rw [if_pos isModel, List.foldlM_append, ← insideHypothesis, List.foldlM_cons,
          (step_model_of_model classes isModel).1, Result.ok_bind, List.foldlM_append]
        refine Result.bind_congr_of_ok fun next taken => ?_
        rw [insideHypothesis] at taken
        rw [foldlM_takeElement_place taken]
        exact afterHypothesis next.classes
      · have inParts : Event.opened tag :: (inside.events ++ .closed :: after.events) =
            (.opened tag :: (inside.events ++ [.closed])) ++ after.events := by simp
        rw [if_neg isModel, inParts, List.foldlM_append,
          foldlM_step_enclosing classes isModel, List.foldlM_cons]
        refine Result.bind_congr_of_ok fun next taken => ?_
        rw [takeElement_place taken]
        exact afterHypothesis next.classes

end ModelPlace

/-- The document of class elements, or of a text in which no model element has
begun. -/
def ofClasses : Option (List (Tag × Elements)) → Except ModelError Document
  | none => .ok {}
  | some elements => elements.foldlM takeElement ⟨[], .model⟩

theorem step_prolog_of_other {tag : Tag} (notModel : tag.name ≠ "model") :
    step {} (.opened tag) = .ok {} ∧ step {} (.standalone tag) = .ok {} := by
  simp [step, stepProlog, notModel]

theorem step_prolog_of_model {tag : Tag} (isModel : tag.name = "model") :
    step {} (.opened tag) = .ok ⟨[], .model⟩ ∧ step {} (.standalone tag) = .ok ⟨[], .model⟩ := by
  simp [step, stepProlog, isModel]

theorem foldlM_step_prolog (elements : Elements) :
    elements.events.foldlM step {} = ofClasses (classElements elements) := by
  induction elements with
  | none => rfl
  | standalone tag after inductionHypothesis =>
      rw [Elements.events, List.foldlM_cons, classElements]
      by_cases isModel : tag.name = "model"
      · rw [if_pos isModel, (step_prolog_of_model isModel).2]
        exact foldlM_step_model [] after
      · rw [if_neg isModel, (step_prolog_of_other isModel).2]
        exact inductionHypothesis
  | enclosing tag inside after insideHypothesis afterHypothesis =>
      rw [Elements.events, List.foldlM_cons, classElements]
      by_cases isModel : tag.name = "model"
      · rw [if_pos isModel, (step_prolog_of_model isModel).1, Result.ok_bind, List.foldlM_append,
          ofClasses, List.foldlM_append, foldlM_step_model]
        refine Result.bind_congr_of_ok fun next taken => ?_
        rw [foldlM_takeElement_place taken]
        exact foldlM_step_model next.classes after
      · rw [if_neg isModel, (step_prolog_of_other isModel).1, Result.ok_bind, List.foldlM_append,
          insideHypothesis]
        cases classElements inside with
        | none => exact afterHypothesis
        | some found =>
            simp only [ofClasses]
            rw [List.foldlM_append]
            refine Result.bind_congr_of_ok fun next taken => ?_
            rw [foldlM_takeElement_place taken]
            exact foldlM_step_model next.classes after

/-! ## Elements that stay open -/

/-- The result of a text that ends after the given events. -/
def resultAfter (document : Document) (events : List Event) : Except ModelError (List ClassDecl) :=
  events.foldlM step document >>= finish

theorem resultAfter_cons (document : Document) (event : Event) (others : List Event) :
    document.resultAfter (event :: others) = document.step event >>= (resultAfter · others) := by
  rw [resultAfter, List.foldlM_cons, bind_assoc]
  rfl

theorem resultAfter_append (document : Document) (earlier later : List Event) :
    document.resultAfter (earlier ++ later) =
      earlier.foldlM step document >>= (resultAfter · later) := by
  rw [resultAfter, List.foldlM_append, bind_assoc]
  rfl

theorem foldlM_step_outline (outline : Outline) (classes : List ClassDecl) (decl : ClassDecl)
    (depth : Nat) :
    outline.events.foldlM step ⟨classes, .propertyBody decl depth⟩ =
      .ok ⟨classes, .propertyBody decl (depth + outline.openNames.length)⟩ := by
  induction outline generalizing depth with
  | complete elements => exact foldlM_step_propertyBody elements classes decl depth
  | unclosed before tag inside inductionHypothesis =>
      rw [Outline.events, List.foldlM_append, foldlM_step_propertyBody, Outline.openNames,
        List.length_append, List.length_singleton, Nat.add_comm inside.openNames.length,
        ← Nat.add_assoc]
      exact inductionHypothesis (depth + 1)

section Unfinished

variable (outline : Outline) (classes result : List ClassDecl)

theorem resultAfter_classBody_ne_ok (decl : ClassDecl) :
    resultAfter ⟨classes, .classBody decl⟩ outline.events ≠ .ok result := by
  intro read
  cases outline with
  | complete elements =>
      rw [Outline.events, resultAfter, foldlM_step_classBody] at read
      obtain ⟨document, taken, finished⟩ := Result.bind_eq_ok_iff.mp read
      obtain ⟨extended, -, same⟩ := Result.bind_eq_ok_iff.mp taken
      obtain rfl := Except.ok.inj same
      cases finished
  | unclosed before tag inside =>
      rw [Outline.events, resultAfter_append, foldlM_step_classBody] at read
      obtain ⟨document, taken, read⟩ := Result.bind_eq_ok_iff.mp read
      obtain ⟨extended, -, same⟩ := Result.bind_eq_ok_iff.mp taken
      obtain rfl := Except.ok.inj same
      rw [resultAfter_cons] at read
      obtain ⟨next, opened, read⟩ := Result.bind_eq_ok_iff.mp read
      obtain ⟨longer, -, same⟩ := Result.bind_eq_ok_iff.mp opened
      obtain rfl := Except.ok.inj same
      dsimp only at read
      rw [resultAfter, foldlM_step_outline] at read
      cases read

theorem resultAfter_opened_ne_ok {tag : Tag} (notModel : tag.name ≠ "model") :
    resultAfter ⟨classes, .model⟩ (.opened tag :: outline.events) ≠ .ok result := by
  intro read
  rw [resultAfter_cons] at read
  obtain ⟨next, opened, read⟩ := Result.bind_eq_ok_iff.mp read
  simp only [step, stepModel, if_neg notModel] at opened
  split at opened
  · obtain ⟨head, -, same⟩ := Result.bind_eq_ok_iff.mp opened
    obtain rfl := Except.ok.inj same
    exact resultAfter_classBody_ne_ok outline classes result head read
  · cases opened

end Unfinished

/-- The result of class elements alone. -/
def resultOf (classes : List ClassDecl) (elements : List (Tag × Elements)) :
    Except ModelError (List ClassDecl) :=
  elements.foldlM takeElement ⟨classes, .model⟩ >>= finish

theorem resultOf_append (classes : List ClassDecl) (found more : List (Tag × Elements)) :
    resultOf classes (found ++ more) =
      found.foldlM takeElement ⟨classes, .model⟩ >>= fun next => resultOf next.classes more := by
  rw [resultOf, List.foldlM_append, bind_assoc]
  refine Result.bind_congr_of_ok fun next taken => ?_
  rw [foldlM_takeElement_place taken]
  rfl

/-- The tag of an element that stays open is a model tag, and makes no difference. -/
theorem resultAfter_unclosed_eq_ok_iff {tag : Tag} {inside : Outline}
    {classes result : List ClassDecl} {found : List (Tag × Elements)}
    (insideRead : ∀ known, resultAfter ⟨known, .model⟩ inside.events = .ok result ↔
      ∃ more, outlineInside inside = some more ∧ resultOf known more = .ok result) :
    (found.foldlM takeElement ⟨classes, .model⟩ >>=
        (resultAfter · (.opened tag :: inside.events))) = .ok result ↔
      ∃ all, (if tag.name = "model" then (outlineInside inside).map (found ++ ·) else none) =
        some all ∧ resultOf classes all = .ok result := by
  by_cases isModel : tag.name = "model"
  · simp only [if_pos isModel, Option.map_eq_some_iff, exists_exists_and_eq_and]
    simp only [resultOf_append, Result.bind_eq_ok_iff]
    constructor
    · rintro ⟨next, taken, read⟩
      rw [foldlM_takeElement_place taken, resultAfter_cons,
        (step_model_of_model next.classes isModel).1] at read
      obtain ⟨more, isMore, moreRead⟩ := (insideRead next.classes).mp read
      exact ⟨more, isMore, next, taken, moreRead⟩
    · rintro ⟨more, isMore, next, taken, moreRead⟩
      refine ⟨next, taken, ?_⟩
      rw [foldlM_takeElement_place taken, resultAfter_cons,
        (step_model_of_model next.classes isModel).1]
      exact (insideRead next.classes).mpr ⟨more, isMore, moreRead⟩
  · simp only [if_neg isModel, reduceCtorEq, false_and, exists_false, iff_false]
    intro read
    obtain ⟨next, taken, read⟩ := Result.bind_eq_ok_iff.mp read
    rw [foldlM_takeElement_place taken] at read
    exact resultAfter_opened_ne_ok inside next.classes result isModel read

theorem resultAfter_model_eq_ok_iff (outline : Outline) (classes : List ClassDecl)
    {result : List ClassDecl} :
    resultAfter ⟨classes, .model⟩ outline.events = .ok result ↔
      ∃ found, outlineInside outline = some found ∧ resultOf classes found = .ok result := by
  induction outline generalizing classes with
  | complete elements =>
      simp [Outline.events, outlineInside, resultAfter, resultOf, foldlM_step_model]
  | unclosed before tag inside inductionHypothesis =>
      rw [Outline.events, resultAfter_append, foldlM_step_model, outlineInside]
      exact resultAfter_unclosed_eq_ok_iff inductionHypothesis

theorem resultAfter_prolog_eq_ok_iff (outline : Outline) {result : List ClassDecl} :
    resultAfter {} outline.events = .ok result ↔
      ∃ found, outlineClasses outline = some found ∧ resultOf [] found = .ok result := by
  induction outline with
  | complete elements =>
      rw [Outline.events, resultAfter, foldlM_step_prolog, outlineClasses]
      cases classElements elements with
      | none => simp [ofClasses, finish]
      | some found => simp [ofClasses, resultOf]
  | unclosed before tag inside inductionHypothesis =>
      rw [Outline.events, resultAfter_append, foldlM_step_prolog, outlineClasses]
      cases classElements before with
      | none =>
          rw [ofClasses, Result.ok_bind, resultAfter_cons]
          by_cases isModel : tag.name = "model"
          · rw [(step_prolog_of_model isModel).1, Result.ok_bind]
            simp only [if_pos isModel]
            exact resultAfter_model_eq_ok_iff inside []
          · rw [(step_prolog_of_other isModel).1, Result.ok_bind]
            simp only [if_neg isModel]
            exact inductionHypothesis
      | some found =>
          exact resultAfter_unclosed_eq_ok_iff fun known => resultAfter_model_eq_ok_iff inside known

end Document

end EntityGen.Model
