import EntityGen.Proofs.Model.Document
import EntityGen.Proofs.Model.RoundTrip

/-!
Contract: which texts are read as models, and as which classes.

Owns:
- `Declares`, an element with properties in it that declares a class;
- the texts that are read, by their outline;
- texts of one model element, as which others are read too.

Does not own: what a single tag declares.

Reading a text is reading the class elements of its outline. So a text is judged in
three steps: its markup, the elements that stay open, and the class elements one by
one.
-/

namespace EntityGen.Model

open EntityGen.Markup (Elements Event Outline Tag)

/-- An element, with those directly inside it, declares a class. -/
structure Declares (element : Tag × Elements) (decl : ClassDecl) : Prop where
  isClass : element.1.name = "class"
  head : ClassDecl.ofTag element.1 = .ok { decl with properties := [] }
  areProperties : ∀ child ∈ element.2.toList, child.1.name = "property"
  properties : element.2.toList.mapM (fun child => Property.ofTag decl.name child.1) =
    .ok decl.properties
  distinct : (decl.properties.map Property.name).Nodup

/-! ## Declared classes -/

theorem addPropertyTag_eq_ok_iff {decl extended : ClassDecl} {tag : Tag} :
    Document.addPropertyTag decl tag = .ok extended ↔
      tag.name = "property" ∧ ∃ property, Property.ofTag decl.name tag = .ok property ∧
        property.name ∉ decl.properties.map Property.name ∧ decl.adding [property] = extended := by
  by_cases isProperty : tag.name = "property"
  · rw [Document.addPropertyTag, if_neg (not_not_intro isProperty), Result.bind_eq_ok_iff]
    simp only [isProperty, true_and]
    refine exists_congr fun property => and_congr_right fun _ => ?_
    by_cases isTaken : property.name ∈ decl.properties.map Property.name
    · simp [ClassDecl.declare_of_taken isTaken, isTaken]
    · simp [ClassDecl.declare_of_free isTaken, isTaken]
  · simp [Document.addPropertyTag, isProperty]

theorem foldlM_addPropertyTag_eq_ok_iff {children : List (Tag × Elements)}
    {decl extended : ClassDecl} (distinct : (decl.properties.map Property.name).Nodup) :
    children.foldlM (fun known child => Document.addPropertyTag known child.1) decl =
        .ok extended ↔
      (∀ child ∈ children, child.1.name = "property") ∧
        ∃ properties, children.mapM (fun child => Property.ofTag decl.name child.1) =
            .ok properties ∧
          ((decl.properties ++ properties).map Property.name).Nodup ∧
            decl.adding properties = extended := by
  induction children generalizing decl with
  | nil => simp [ClassDecl.adding, distinct]
  | cons child others inductionHypothesis =>
      rw [List.foldlM_cons, Result.bind_eq_ok_iff, List.forall_mem_cons]
      simp only [addPropertyTag_eq_ok_iff]
      constructor
      · rintro ⟨_, ⟨isProperty, property, read, new, rfl⟩, taken⟩
        have stillDistinct : ((decl.adding [property]).properties.map Property.name).Nodup := by
          simpa [ClassDecl.adding, List.nodup_append, distinct] using new
        obtain ⟨areProperties, more, readMore, allDistinct, same⟩ :=
          (inductionHypothesis stillDistinct).mp taken
        refine ⟨⟨isProperty, areProperties⟩, property :: more, ?_, ?_, ?_⟩
        · rw [List.mapM_cons, read, Result.ok_bind, Result.bind_eq_ok_iff]
          exact ⟨more, readMore, rfl⟩
        · rw [List.append_cons]
          exact allDistinct
        · rw [ClassDecl.adding_cons]
          exact same
      · rintro ⟨⟨isProperty, areProperties⟩, properties, readAll, allDistinct, same⟩
        rw [List.mapM_cons] at readAll
        obtain ⟨property, read, readAll⟩ := Result.bind_eq_ok_iff.mp readAll
        obtain ⟨more, readMore, isList⟩ := Result.bind_eq_ok_iff.mp readAll
        obtain rfl := Except.ok.inj isList
        have new := Named.free_of_nodup allDistinct
        rw [List.append_cons] at allDistinct
        have stillDistinct : ((decl.adding [property]).properties.map Property.name).Nodup := by
          rw [List.map_append] at allDistinct
          exact allDistinct.of_append_left
        rw [ClassDecl.adding_cons] at same
        refine ⟨_, ⟨isProperty, property, read, new, rfl⟩, ?_⟩
        exact (inductionHypothesis stillDistinct).mpr
          ⟨areProperties, more, readMore, allDistinct, same⟩

/-- A class tag alone declares no properties. -/
theorem properties_ofTag {tag : Tag} {head : ClassDecl} (isHead : ClassDecl.ofTag tag = .ok head) :
    head.properties = [] := by
  obtain ⟨draft, -, finished⟩ := Result.bind_eq_ok_iff.mp isHead
  unfold ClassDraft.finish at finished
  split at finished
  · obtain rfl := Except.ok.inj finished
    rfl
  · cases finished

theorem takeClass_eq_ok_iff {classes : List ClassDecl} {place : Place} {decl : ClassDecl}
    {next : Document} :
    Document.takeClass ⟨classes, place⟩ decl = .ok next ↔
      decl.name ∉ classes.map ClassDecl.name ∧ next = ⟨classes ++ [decl], .model⟩ := by
  by_cases isTaken : decl.name ∈ classes.map ClassDecl.name
  · have declared : classes.any (·.name == decl.name) = true := by
      obtain ⟨other, member, same⟩ := List.mem_map.mp isTaken
      exact List.any_eq_true.mpr ⟨other, member, beq_iff_eq.mpr same⟩
    simp [Document.takeClass, declared, isTaken]
  · simp [takeClass_of_new isTaken, isTaken, eq_comm]

theorem takeElement_eq_ok_iff {element : Tag × Elements} {classes : List ClassDecl}
    {next : Document} :
    Document.takeElement ⟨classes, .model⟩ element = .ok next ↔
      ∃ decl, Declares element decl ∧ decl.name ∉ classes.map ClassDecl.name ∧
        next = ⟨classes ++ [decl], .model⟩ := by
  by_cases isClass : element.1.name = "class"
  · simp only [Document.takeElement, if_pos isClass, Result.bind_eq_ok_iff, takeClass_eq_ok_iff,
      Document.takeChildren]
    constructor
    · rintro ⟨head, isHead, decl, taken, new, same⟩
      have noProperties := properties_ofTag isHead
      obtain ⟨areProperties, properties, read, distinct, rfl⟩ :=
        (foldlM_addPropertyTag_eq_ok_iff (by simp [noProperties])).mp taken
      rw [noProperties, List.nil_append] at distinct
      refine ⟨_, ⟨isClass, ?_, areProperties, ?_, ?_⟩, new, same⟩
      · rw [isHead, ClassDecl.adding, ← noProperties]
      · rw [ClassDecl.adding, noProperties]
        exact read
      · rw [ClassDecl.adding, noProperties]
        exact distinct
    · rintro ⟨decl, declares, new, same⟩
      refine ⟨_, declares.head, decl, ?_, new, same⟩
      exact (foldlM_addPropertyTag_eq_ok_iff (by simp)).mpr
        ⟨declares.areProperties, decl.properties, declares.properties, declares.distinct, rfl⟩
  · simp only [Document.takeElement, if_neg isClass, reduceCtorEq, false_iff]
    rintro ⟨decl, declares, -⟩
    exact isClass declares.isClass

theorem resultOf_eq_ok_iff {elements : List (Tag × Elements)} {classes result : List ClassDecl}
    (distinct : (classes.map ClassDecl.name).Nodup) :
    Document.resultOf classes elements = .ok result ↔
      ∃ more, List.Forall₂ Declares elements more ∧
        ((classes ++ more).map ClassDecl.name).Nodup ∧ classes ++ more = result := by
  induction elements generalizing classes with
  | nil => simp [Document.resultOf, Document.finish, distinct]
  | cons element others inductionHypothesis =>
      rw [Document.resultOf, List.foldlM_cons, bind_assoc, Result.bind_eq_ok_iff]
      simp only [takeElement_eq_ok_iff, List.forall₂_cons_left_iff]
      constructor
      · rintro ⟨_, ⟨decl, declares, new, rfl⟩, read⟩
        have stillDistinct : ((classes ++ [decl]).map ClassDecl.name).Nodup := by
          simpa [List.nodup_append, distinct] using new
        obtain ⟨more, declareMore, allDistinct, same⟩ := (inductionHypothesis stillDistinct).mp read
        rw [← List.append_cons] at allDistinct same
        exact ⟨decl :: more, ⟨decl, more, declares, declareMore, rfl⟩, allDistinct, same⟩
      · rintro ⟨_, ⟨decl, more, declares, declareMore, rfl⟩, allDistinct, same⟩
        have new := Named.free_of_nodup allDistinct
        rw [List.append_cons] at allDistinct same
        have stillDistinct : ((classes ++ [decl]).map ClassDecl.name).Nodup := by
          rw [List.map_append] at allDistinct
          exact allDistinct.of_append_left
        refine ⟨_, ⟨decl, declares, new, rfl⟩, ?_⟩
        exact (inductionHypothesis stillDistinct).mpr ⟨more, declareMore, allDistinct, same⟩

/-! ## Texts -/

theorem liftMarkup_eq_ok_iff {α : Type} {result : Except Markup.MarkupError α} {value : α} :
    liftMarkup result = .ok value ↔ result = .ok value :=
  Result.mapError_eq_ok_iff

theorem takeToken_eq_ok_iff {reader after : Reader} {token : Markup.Token} :
    reader.takeToken token = .ok after ↔
      ∃ event namesAfter document,
        Event.ofToken reader.openNames token = .ok (event, namesAfter) ∧
          reader.document.step event = .ok document ∧
            ⟨reader.scanner, namesAfter, document⟩ = after := by
  simp only [Reader.takeToken, Result.bind_eq_ok_iff, liftMarkup_eq_ok_iff, Prod.exists,
    exists_and_left, Except.ok.injEq]

/-- Reading the characters of a text is reading its events, as far as either
succeeds. -/
theorem foldlM_step_eq_ok_iff {reader : Reader} {text : List Char} {result : List ClassDecl} :
    text.foldlM Reader.step reader >>= Reader.finish = .ok result ↔
      ∃ events, Markup.eventsFrom reader.scanner reader.openNames text = .ok events ∧
        reader.document.resultAfter events = .ok result := by
  induction text generalizing reader with
  | nil =>
      show reader.finish = .ok result ↔ _
      unfold Reader.finish Markup.eventsFrom
      cases reader.scanner.fault? with
      | some fault => simp
      | none => simp [Document.resultAfter]
  | cons c rest inductionHypothesis =>
      rw [List.foldlM_cons, bind_assoc, Result.bind_eq_ok_iff]
      simp only [inductionHypothesis, Reader.step, Result.bind_eq_ok_iff, liftMarkup_eq_ok_iff,
        Markup.eventsFrom]
      constructor
      · rintro ⟨after, ⟨⟨scanner, complete⟩, moved, taken⟩, events, readOthers, isResult⟩
        cases complete with
        | none =>
            obtain rfl := Except.ok.inj taken
            exact ⟨events, ⟨_, moved, readOthers⟩, isResult⟩
        | some token =>
            obtain ⟨event, namesAfter, document, fits, stepped, rfl⟩ :=
              takeToken_eq_ok_iff.mp taken
            refine ⟨event :: events, ⟨_, moved, ?_⟩, ?_⟩
            · exact Result.bind_eq_ok_iff.mpr
                ⟨_, fits, Result.bind_eq_ok_iff.mpr ⟨events, readOthers, rfl⟩⟩
            · rw [Document.resultAfter_cons, stepped]
              exact isResult
      · rintro ⟨events, ⟨⟨scanner, complete⟩, moved, readOthers⟩, isResult⟩
        cases complete with
        | none => exact ⟨_, ⟨_, moved, rfl⟩, events, readOthers, isResult⟩
        | some token =>
            obtain ⟨⟨event, namesAfter⟩, fits, readOthers⟩ := Result.bind_eq_ok_iff.mp readOthers
            obtain ⟨others, readRest, same⟩ := Result.bind_eq_ok_iff.mp readOthers
            obtain rfl := Except.ok.inj same
            rw [Document.resultAfter_cons] at isResult
            obtain ⟨document, stepped, isResult⟩ := Result.bind_eq_ok_iff.mp isResult
            have taken : Reader.takeToken { reader with scanner } token =
                .ok ⟨scanner, namesAfter, document⟩ :=
              takeToken_eq_ok_iff.mpr ⟨event, namesAfter, document, fits, stepped, rfl⟩
            exact ⟨_, ⟨_, moved, taken⟩, others, readRest, isResult⟩

theorem readModel_eq_ok_iff {text : String} {classes : List ClassDecl} :
    readModel text = .ok classes ↔
      ∃ outline elements, Markup.outlineOf text = .ok outline ∧
        outlineClasses outline = some elements ∧ List.Forall₂ Declares elements classes ∧
          (classes.map ClassDecl.name).Nodup := by
  have noneDeclared : (([] : List ClassDecl).map ClassDecl.name).Nodup := List.nodup_nil
  show text.toList.foldlM Reader.step {} >>= Reader.finish = .ok classes ↔ _
  rw [foldlM_step_eq_ok_iff]
  simp only [← Markup.exists_outlineOf_iff]
  constructor
  · rintro ⟨_, ⟨outline, isOutline, rfl⟩, read⟩
    obtain ⟨elements, found, isResult⟩ := (Document.resultAfter_prolog_eq_ok_iff outline).mp read
    obtain ⟨_, declare, distinct, rfl⟩ := (resultOf_eq_ok_iff noneDeclared).mp isResult
    exact ⟨outline, elements, isOutline, found, declare, distinct⟩
  · rintro ⟨outline, elements, isOutline, found, declare, distinct⟩
    refine ⟨_, ⟨outline, isOutline, rfl⟩, ?_⟩
    refine (Document.resultAfter_prolog_eq_ok_iff outline).mpr ⟨elements, found, ?_⟩
    exact (resultOf_eq_ok_iff noneDeclared).mpr ⟨classes, declare, distinct, rfl⟩

/-! ## Texts with one model -/

/-- The text is one model element, which is closed, and the elements in it declare
the classes, one each. -/
def IsModelOf (text : String) (classes : List ClassDecl) : Prop :=
  ∃ document root inside, Markup.outlineOf text = .ok (.complete document) ∧
    document.toList = [(root, inside)] ∧ root.name = "model" ∧
      List.Forall₂ Declares inside.toList classes

/-- The text is one model element, which is closed, and no other one is directly in
it. -/
def HasOneModel (text : String) : Prop :=
  ∃ document root inside, Markup.outlineOf text = .ok (.complete document) ∧
    document.toList = [(root, inside)] ∧ root.name = "model" ∧
      ∀ child ∈ inside.toList, child.1.name ≠ "model"

theorem classesInside_of_noModel {elements : Elements}
    (noModel : ∀ child ∈ elements.toList, child.1.name ≠ "model") :
    classesInside elements = elements.toList := by
  induction elements with
  | none => rfl
  | standalone tag after inductionHypothesis =>
      rw [Elements.toList, List.forall_mem_cons] at noModel
      rw [classesInside, if_neg noModel.1, inductionHypothesis noModel.2, Elements.toList]
  | enclosing tag inside after _ inductionHypothesis =>
      rw [Elements.toList, List.forall_mem_cons] at noModel
      rw [classesInside, if_neg noModel.1, inductionHypothesis noModel.2, Elements.toList]

theorem classElements_of_one {document inside : Elements} {root : Tag}
    (only : document.toList = [(root, inside)]) (isModel : root.name = "model") :
    classElements document = some (classesInside inside) := by
  cases document with
  | none => cases only
  | standalone tag after =>
      obtain ⟨⟨rfl, rfl⟩, noneAfter⟩ : (tag = root ∧ Elements.none = inside) ∧
          after.toList = [] := by simpa [Elements.toList] using only
      cases after with
      | none => simp [classElements, isModel]
      | standalone other more => cases noneAfter
      | enclosing other within more => cases noneAfter
  | enclosing tag within after =>
      obtain ⟨⟨rfl, rfl⟩, noneAfter⟩ : (tag = root ∧ within = inside) ∧
          after.toList = [] := by simpa [Elements.toList] using only
      cases after with
      | none => simp [classElements, classesInside, isModel]
      | standalone other more => cases noneAfter
      | enclosing other within more => cases noneAfter

/-- **What is read as a model.** A text is read as a list of classes exactly if its
markup has no fault, a model element begins in it, every element that stays open is
a model element or began before the first of them, and the elements behind the
beginning of the first model element declare these classes, one each, with distinct
names. For a text that is one closed model element with no other one directly in it,
these are the elements directly in the model. -/
theorem readModel_reads_classElements {text : String} {classes : List ClassDecl} :
    (readModel text = .ok classes ↔
      ∃ outline elements, Markup.outlineOf text = .ok outline ∧
        outlineClasses outline = some elements ∧ List.Forall₂ Declares elements classes ∧
          (classes.map ClassDecl.name).Nodup) ∧
    (HasOneModel text →
      (readModel text = .ok classes ↔
        IsModelOf text classes ∧ (classes.map ClassDecl.name).Nodup)) := by
  refine ⟨readModel_eq_ok_iff, ?_⟩
  rintro ⟨document, root, inside, isOutline, only, isModel, noModel⟩
  have found : outlineClasses (.complete document) = some inside.toList := by
    rw [outlineClasses, classElements_of_one only isModel, classesInside_of_noModel noModel]
  rw [readModel_eq_ok_iff]
  constructor
  · rintro ⟨outline, elements, sameOutline, sameFound, declare, distinct⟩
    obtain rfl := Except.ok.inj (isOutline.symm.trans sameOutline)
    obtain rfl := Option.some.inj (found.symm.trans sameFound)
    exact ⟨⟨document, root, inside, isOutline, only, isModel, declare⟩, distinct⟩
  · rintro ⟨⟨same, sameRoot, sameInside, sameOutline, sameOnly, -, declare⟩, distinct⟩
    obtain rfl := Outline.complete.inj (Except.ok.inj (isOutline.symm.trans sameOutline))
    obtain ⟨rfl, rfl⟩ := Prod.mk.inj (List.singleton_injective (only.symm.trans sameOnly))
    exact ⟨_, _, isOutline, found, declare, distinct⟩

/-- A model of one class is read as this class, and is a model of it. -/
theorem readModel_personText :
    HasOneModel "<model><class name=\"Person\"/></model>" ∧
      readModel "<model><class name=\"Person\"/></model>" = .ok [{ name := "Person" }] ∧
      IsModelOf "<model><class name=\"Person\"/></model>" [{ name := "Person" }] := by
  have form : HasOneModel "<model><class name=\"Person\"/></model>" :=
    ⟨.enclosing ⟨"model".toList⟩ (.standalone ⟨"class name=\"Person\"".toList⟩ .none) .none,
      _, _, by decide +kernel, rfl, by decide +kernel, by decide +kernel⟩
  have read : readModel "<model><class name=\"Person\"/></model>" =
      .ok [{ name := "Person" }] := by decide +kernel
  exact ⟨form, read, ((readModel_reads_classElements.2 form).mp read).1⟩

/-- A model element that is never closed is read, a class behind the end of its
model is read, and a model element in another one is read. None of these texts is a
model of the classes that are read. -/
theorem strayModels_are_read :
    (readModel "<model><class name=\"A\"/>" = .ok [{ name := "A" }] ∧
      ¬ IsModelOf "<model><class name=\"A\"/>" [{ name := "A" }]) ∧
    (readModel "<model/><class name=\"A\"/>" = .ok [{ name := "A" }] ∧
      ¬ IsModelOf "<model/><class name=\"A\"/>" [{ name := "A" }]) ∧
    (readModel "<model><model/></model>" = .ok [] ∧
      ¬ IsModelOf "<model><model/></model>" []) := by
  have unclosed : Markup.outlineOf "<model><class name=\"A\"/>" =
      .ok (.unclosed .none ⟨"model".toList⟩
        (.complete (.standalone ⟨"class name=\"A\"".toList⟩ .none))) := by decide +kernel
  have behind : Markup.outlineOf "<model/><class name=\"A\"/>" =
      .ok (.complete (.standalone ⟨"model".toList⟩
        (.standalone ⟨"class name=\"A\"".toList⟩ .none))) := by decide +kernel
  have nested : Markup.outlineOf "<model><model/></model>" =
      .ok (.complete (.enclosing ⟨"model".toList⟩
        (.standalone ⟨"model".toList⟩ .none) .none)) := by decide +kernel
  refine ⟨⟨by decide +kernel, ?_⟩, ⟨by decide +kernel, ?_⟩, ⟨by decide +kernel, ?_⟩⟩
  · rintro ⟨document, root, inside, isOutline, -⟩
    cases Except.ok.inj (unclosed.symm.trans isOutline)
  · rintro ⟨document, root, inside, isOutline, only, -⟩
    obtain rfl := Outline.complete.inj (Except.ok.inj (behind.symm.trans isOutline))
    cases only
  · rintro ⟨document, root, inside, isOutline, only, -, declare⟩
    obtain rfl := Outline.complete.inj (Except.ok.inj (nested.symm.trans isOutline))
    obtain ⟨-, rfl⟩ := Prod.mk.inj (List.singleton_injective only)
    cases declare

end EntityGen.Model
