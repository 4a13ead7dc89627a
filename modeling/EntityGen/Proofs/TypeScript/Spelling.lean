import EntityGen.Proofs.Fields.Types
import EntityGen.Proofs.TypeScript.Import
import Mathlib.Data.List.DropRight

/-!
Contract: references to classes with separators at their start.

Owns:
- models whose references are respelled, and the one spelling without separators;
- that a class file reads the same in every spelling.

Does not own: which classes are written, and parents.

Every use of a reference in a text goes through the reduced name of the class, and
reducing begins with the separators at the start.
-/

namespace EntityGen

open EntityGen.Model (ClassDecl DataType Element Property separator)

/-! ## Spellings -/

/-- The second name is the first one with separators added at its start. -/
def Respelled (written respelled : String) : Prop :=
  ∃ count, respelled.toList = List.replicate count separator ++ written.toList

inductive Model.Element.Respelled : Element → Element → Prop
  | scalar (name : String) : Respelled (.scalar name) (.scalar name)
  | object {written respelled : String} :
      EntityGen.Respelled written respelled → Respelled (.object written) (.object respelled)

structure Model.DataType.Respelled (written respelled : DataType) : Prop where
  element : written.element.Respelled respelled.element
  collection : written.collection = respelled.collection
  nullable : written.nullable = respelled.nullable

structure Model.Property.Respelled (written respelled : Property) : Prop where
  name : written.name = respelled.name
  type : Option.Rel DataType.Respelled written.type respelled.type
  groups : written.groups = respelled.groups

/-- The second class is the first one with separators added to the parent and to classes
that its properties refer to. -/
structure Model.ClassDecl.Respelled (written respelled : ClassDecl) : Prop where
  name : written.name = respelled.name
  parent : Option.Rel EntityGen.Respelled written.parent respelled.parent
  properties : List.Forall₂ Property.Respelled written.properties respelled.properties

/-! ## The spelling without separators -/

/-- A name without the separators at its start. -/
def trimmedName (name : String) : String :=
  String.ofList (NamingPolicy.withoutLeadingSeparators name.toList)

/-- A type that refers to a class by its trimmed name. -/
def Model.DataType.trimmed (type : DataType) : DataType :=
  match type.element with
  | .scalar _ => type
  | .object name => { type with element := .object (trimmedName name) }

theorem Respelled.trimmedName_eq {written respelled : String}
    (same : Respelled written respelled) : trimmedName written = trimmedName respelled := by
  obtain ⟨count, added⟩ := same
  have separators : ∀ sign ∈ List.replicate count separator, (sign == separator) = true := by
    intro sign member
    exact beq_iff_eq.mpr (List.eq_of_mem_replicate member)
  unfold trimmedName NamingPolicy.withoutLeadingSeparators
  rw [added, List.dropWhile_append_of_pos separators]

theorem Model.DataType.Respelled.trimmed_eq {written respelled : DataType}
    (same : written.Respelled respelled) : written.trimmed = respelled.trimmed := by
  obtain ⟨element, collection, nullable⟩ := written
  obtain ⟨otherElement, _, _⟩ := respelled
  obtain ⟨sameElement, rfl, rfl⟩ := same
  cases sameElement with
  | scalar name => rfl
  | object sameName => simp only [trimmed, sameName.trimmedName_eq]

theorem Model.Property.Respelled.mapType_eq {written respelled : Property}
    (same : written.Respelled respelled) :
    written.mapType DataType.trimmed = respelled.mapType DataType.trimmed := by
  obtain ⟨name, type, groups⟩ := written
  obtain ⟨_, otherType, _⟩ := respelled
  obtain ⟨rfl, sameType, rfl⟩ := same
  cases sameType with
  | none => rfl
  | some sameType => simp only [mapType, Option.map_some, sameType.trimmed_eq]

theorem Model.ClassDecl.Respelled.properties_eq {written respelled : ClassDecl}
    (same : written.Respelled respelled) :
    (written.mapTypes DataType.trimmed).properties =
      (respelled.mapTypes DataType.trimmed).properties := by
  have each := same.properties.imp fun _ _ => Property.Respelled.mapType_eq
  have images : List.Forall₂ Eq (written.properties.map (·.mapType DataType.trimmed))
      (respelled.properties.map (·.mapType DataType.trimmed)) :=
    List.forall₂_map_left_iff.mpr (List.forall₂_map_right_iff.mpr each)
  rwa [List.forall₂_eq_eq_eq] at images

/-! ## Texts -/

namespace TypeScript

variable (policy : NamingPolicy)

theorem sameName_trimmedName (name : String) : policy.sameName (trimmedName name) name = true := by
  have once : NamingPolicy.withoutLeadingSeparators (trimmedName name).toList =
      NamingPolicy.withoutLeadingSeparators name.toList := by
    rw [trimmedName, String.toList_ofList]
    exact List.dropWhile_idempotent _ _
  unfold NamingPolicy.sameName NamingPolicy.reducedName NamingPolicy.reducedChars
  rw [once]
  exact beq_self_eq_true _

theorem identifier_trimmedName (name : String) :
    policy.identifier (trimmedName name) = policy.identifier name :=
  identifier_eq_of_sameName (sameName_trimmedName policy name)

theorem fieldForm_trimmed (type : DataType) :
    fieldForm policy type.trimmed = fieldForm policy type := by
  obtain ⟨element, collection, nullable⟩ := type
  cases element with
  | scalar name => rfl
  | object name =>
      simp only [DataType.trimmed, fieldForm, memberType, referenceName, identifier_trimmedName]

theorem askedImport?_mapType_trimmed (source : String) (field : Field) :
    askedImport? policy source (field.mapType DataType.trimmed) =
      askedImport? policy source field := by
  obtain ⟨fieldName, element, collection, nullable⟩ := field
  cases element with
  | scalar name => rfl
  | object name =>
      have samePath : policy.importPath (trimmedName name) source =
          policy.importPath name source :=
        NamingPolicy.importPath_eq_of_sameName (sameName_trimmedName policy name)
      simp only [askedImport?, Field.mapType, DataType.trimmed, importOf, identifier_trimmedName,
        samePath]

/-- The text of a class file does not depend on the separators at the start of its
references. -/
theorem render_mapTypes_trimmed (className : String) (fields : FieldTable) :
    render policy className (fields.mapTypes DataType.trimmed) = render policy className fields := by
  have sameImports : imports policy className (fields.mapTypes DataType.trimmed) =
      imports policy className fields := by
    rw [imports_eq_firstUses, imports_eq_firstUses, FieldTable.mapTypes, FieldTable.toList,
      List.filterMap_map]
    congr 2
    funext field
    exact askedImport?_mapType_trimmed policy className field
  have sameLines : (fields.mapTypes DataType.trimmed).toList.map (fieldLine policy) =
      fields.toList.map (fieldLine policy) := by
    rw [FieldTable.mapTypes, FieldTable.toList, List.map_map]
    apply List.map_congr_left
    intro field _
    simp only [Function.comp_apply, fieldLine, Field.mapType, fieldForm_trimmed]
  rw [render, render, renderWith, renderWith, sameImports, sameLines]

end TypeScript
end EntityGen
