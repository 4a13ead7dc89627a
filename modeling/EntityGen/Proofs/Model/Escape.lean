import EntityGen.Proofs.Markup.Escape
import EntityGen.Proofs.Model.Sound

/-!
Contract: models whose texts are written with the predefined entities of XML.

Owns:
- the escaped form of a model, in which every name, type and group is escaped;
- that this form can be written for every sound model, and what is read from it.

Does not own: escaping a single text, and models written as they are.

References are not replaced when a model is read. So the written form of an escaped
model gives the escaped model back, and the original one only if it has nothing to
escape.
-/

namespace EntityGen.Model

open EntityGen.Markup (IsPlain Tag escape)

/-! ## Escaped models -/

def Element.escaped : Element → Element
  | .scalar name => .scalar (escape name)
  | .object name => .object (escape name)

def DataType.escaped (type : DataType) : DataType :=
  { type with element := type.element.escaped }

def Property.escaped (property : Property) : Property where
  name := escape property.name
  type := property.type.map DataType.escaped
  groups := property.groups.map escape

def ClassDecl.escaped (decl : ClassDecl) : ClassDecl where
  name := escape decl.name
  parent := decl.parent.map escape
  properties := decl.properties.map Property.escaped

/-- The texts that a property is declared by. -/
def Property.texts (property : Property) : List String :=
  property.name :: property.type.toList.map (·.element.name) ++ property.groups

/-- The texts that a class is declared by. -/
def ClassDecl.texts (decl : ClassDecl) : List String :=
  decl.name :: decl.parent.toList ++ decl.properties.flatMap Property.texts

/-- No text of the class has anything to escape. -/
def ClassDecl.Plain (decl : ClassDecl) : Prop :=
  ∀ text ∈ decl.texts, IsPlain text

instance (decl : ClassDecl) : Decidable decl.Plain := by
  unfold ClassDecl.Plain
  infer_instance

/-- A list is its own image exactly if each of its entries is. -/
theorem map_eq_self_iff {α : Type} {change : α → α} {entries : List α} :
    entries.map change = entries ↔ ∀ entry ∈ entries, change entry = entry := by
  induction entries with
  | nil => simp
  | cons first others inductionHypothesis => simp [inductionHypothesis]

theorem DataType.escaped_eq_self_iff (type : DataType) :
    type.escaped = type ↔ IsPlain type.element.name := by
  obtain ⟨element, collection, nullable⟩ := type
  cases element with
  | scalar name => simp [escaped, Element.escaped, Element.name, Markup.escape_eq_self_iff]
  | object name => simp [escaped, Element.escaped, Element.name, Markup.escape_eq_self_iff]

theorem Property.escaped_eq_self_iff (property : Property) :
    property.escaped = property ↔ ∀ text ∈ property.texts, IsPlain text := by
  obtain ⟨name, type, groups⟩ := property
  cases type with
  | none => simp [escaped, texts, map_eq_self_iff, Markup.escape_eq_self_iff]
  | some type =>
      simp [escaped, texts, map_eq_self_iff, Markup.escape_eq_self_iff,
        DataType.escaped_eq_self_iff]

theorem ClassDecl.escaped_eq_self_iff (decl : ClassDecl) : decl.escaped = decl ↔ decl.Plain := by
  obtain ⟨name, parent, properties⟩ := decl
  have inProperties : (∀ property ∈ properties, property.escaped = property) ↔
      ∀ text, ∀ property ∈ properties, text ∈ property.texts → IsPlain text := by
    simp only [Property.escaped_eq_self_iff]
    exact ⟨fun plain text property member => plain property member text,
      fun plain property member text => plain text property member⟩
  unfold Plain texts
  cases parent with
  | none => simp [escaped, map_eq_self_iff, Markup.escape_eq_self_iff, inProperties]
  | some parent => simp [escaped, map_eq_self_iff, Markup.escape_eq_self_iff, inProperties]

/-! ## Writing escaped models -/

end EntityGen.Model
