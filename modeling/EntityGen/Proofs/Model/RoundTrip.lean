import EntityGen.Proofs.Model.Element
import EntityGen.Proofs.Model.Named
import EntityGen.Proofs.Model.Reader

/-!
Contract: the documented form of a model is read back.

Owns:
- `Admissible` and `Writable`, the classes that have this form;
- written properties and classes, each as a part that adds itself to a document;
- the classes of a written model.

Does not own: what a tag declares, and texts in other forms.
-/

namespace EntityGen.Model

open EntityGen.Markup (Tag)

/-! ## Properties -/

/-- The class with more properties behind its own. -/
def ClassDecl.adding (decl : ClassDecl) (properties : List Property) : ClassDecl :=
  { decl with properties := decl.properties ++ properties }

theorem ClassDecl.adding_cons (decl : ClassDecl) (property : Property) (others : List Property) :
    decl.adding (property :: others) = (decl.adding [property]).adding others := by
  simp [adding]

theorem ClassDecl.declare_of_free {decl : ClassDecl} {property : Property}
    (isFree : property.name ∉ decl.properties.map Property.name) :
    decl.declare property = .ok (decl.adding [property]) := by
  rw [declare, declare?, Named.add?_of_free isFree]
  rfl

theorem ClassDecl.declare_of_taken {decl : ClassDecl} {property : Property}
    (isTaken : property.name ∈ decl.properties.map Property.name) :
    decl.declare property =
      .error (.declaredTwice "property" (decl.qualifiedName property)) := by
  rw [declare, declare?, Named.add?_of_taken isTaken]
  rfl

section Properties

variable {openNames : List String} {classes : List ClassDecl} {decl : ClassDecl}

end Properties

/-! ## Classes -/

/-- A class that the documented form can declare. -/
@[mk_iff]
structure ClassDecl.Admissible (decl : ClassDecl) : Prop extends decl.AdmissibleHead where
  properties : ∀ property ∈ decl.properties, property.Admissible
  distinct : (decl.properties.map Property.name).Nodup

instance (decl : ClassDecl) : Decidable decl.Admissible :=
  decidable_of_iff' _ (ClassDecl.admissible_iff decl)

section Classes

variable {openNames : List String} {classes : List ClassDecl}

theorem takeClass_of_new {decl : ClassDecl} (new : decl.name ∉ classes.map ClassDecl.name)
    (place : Place) :
    Document.takeClass ⟨classes, place⟩ decl = .ok ⟨classes ++ [decl], .model⟩ := by
  have notDeclared : classes.any (·.name == decl.name) = false := by
    rw [List.any_eq_false]
    intro other member same
    exact new (eq_of_beq same ▸ List.mem_map_of_mem member)
  rw [Document.takeClass, notDeclared, if_neg Bool.false_ne_true]

end Classes

/-! ## Models -/

/-- Classes that the documented form can declare together. -/
@[mk_iff]
structure Writable (classes : List ClassDecl) : Prop where
  distinct : (classes.map ClassDecl.name).Nodup
  admissible : ∀ decl ∈ classes, decl.Admissible

instance (classes : List ClassDecl) : Decidable (Writable classes) :=
  decidable_of_iff' _ (writable_iff classes)

end EntityGen.Model
