import EntityGen.Model.Element
import EntityGen.Model.Writer
import EntityGen.Proofs.Markup.Attribute
import EntityGen.Proofs.Result
import EntityGen.Proofs.Text.Split
import Mathlib.Tactic.MkIffOfInductiveProp

/-!
Contract: what the tags of the documented form declare.

Owns:
- `Admissible`, the properties and classes that this form can declare;
- the keys of a tag and their order;
- a property and the head of a class from their own tags.

Does not own: the order of the tags, and the names that classes and properties
share.
-/

namespace EntityGen.Model

open EntityGen.Markup (IsWord Tag TagAttribute)

/-! ## Values -/

/-- A text that an attribute can give: it is not empty, which would count as absent,
and has no double quote. -/
def IsValue (text : String) : Prop := text ≠ "" ∧ '"' ∉ text.toList

instance (text : String) : Decidable (IsValue text) := by
  unfold IsValue
  infer_instance

/-- The attributes of a tag without a fault are taken one by one. -/
theorem takeAttributes_of_listed {α : Type} {tag : Tag} {attributes : List TagAttribute}
    (listed : tag.attributes = (attributes, none))
    (take : α → TagAttribute → Except ModelError α) (initial : α) :
    takeAttributes take initial tag = attributes.foldlM take initial := by
  rw [takeAttributes, listed]
  exact bind_pure _

/-- Attributes with some of the given keys, in their order, and values without double
quotes. -/
structure Keyed (keys : List String) (attributes : List TagAttribute) : Prop where
  keys : (attributes.map TagAttribute.key).Sublist keys
  values : ∀ given ∈ attributes, '"' ∉ given.value.toList

namespace Keyed

theorem nil (keys : List String) : Keyed keys [] :=
  ⟨List.nil_sublist keys, fun _ member => absurd member List.not_mem_nil⟩

theorem append {leftKeys rightKeys : List String} {left right : List TagAttribute}
    (isLeft : Keyed leftKeys left) (isRight : Keyed rightKeys right) :
    Keyed (leftKeys ++ rightKeys) (left ++ right) := by
  refine ⟨?_, List.forall_mem_append.mpr ⟨isLeft.values, isRight.values⟩⟩
  rw [List.map_append]
  exact isLeft.keys.append isRight.keys

theorem one {keys : List String} {key value : String} (known : key ∈ keys)
    (free : '"' ∉ value.toList) : Keyed keys [⟨key, value⟩] := by
  refine ⟨List.singleton_sublist.mpr known, ?_⟩
  intro given member
  obtain rfl := List.mem_singleton.mp member
  exact free

theorem admissible {keys : List String} {attributes : List TagAttribute}
    (keyed : Keyed keys attributes) (words : ∀ key ∈ keys, IsWord key) :
    ∀ given ∈ attributes, given.Admissible := by
  intro given member
  have known := keyed.keys.subset (List.mem_map_of_mem member)
  exact ⟨words given.key known, keyed.values given member⟩

/-- A tag with keys of their own gives its attributes one by one. -/
theorem takeAttributes {α : Type} {keys : List String} {attributes : List TagAttribute}
    (keyed : Keyed keys attributes) (words : ∀ key ∈ keys, IsWord key) (distinct : keys.Nodup)
    {name : String} (isWord : IsWord name) (take : α → TagAttribute → Except ModelError α)
    (initial : α) :
    takeAttributes take initial (.ofAttributes name attributes) =
      attributes.foldlM take initial :=
  takeAttributes_of_listed
    (Markup.attributes_ofAttributes isWord (keyed.admissible words) (distinct.sublist keyed.keys))
    take initial

end Keyed

/-! ## Classes -/

namespace ClassDecl

/-- The name and the parent of a class can be declared. -/
@[mk_iff]
structure AdmissibleHead (decl : ClassDecl) : Prop where
  name : IsValue decl.name
  parent : ∀ parent ∈ decl.parent, IsValue parent

instance (decl : ClassDecl) : Decidable decl.AdmissibleHead :=
  decidable_of_iff' _ (admissibleHead_iff decl)

def keys : List String := ["name", "extends"]

def attributes (decl : ClassDecl) : List TagAttribute :=
  ⟨"name", decl.name⟩ :: decl.parent.toList.map (TagAttribute.mk "extends")

end ClassDecl

/-! ## Groups -/

/-- A group that a list with commas gives back: nothing of it is cut off or cut
apart. -/
@[mk_iff]
structure IsGroup (group : String) : Prop where
  value : IsValue group
  commaFree : ',' ∉ group.toList
  trimmed : Text.trim group.toList = group.toList

instance (group : String) : Decidable (IsGroup group) :=
  decidable_of_iff' _ (isGroup_iff group)

namespace DataType

/-- The draft of a property of that name and type. -/
def draft (name : String) (type : DataType) : PropertyDraft :=
  match type.element with
  | .scalar scalar =>
    { name := some name, scalar := some scalar
      collection := type.collection, nullable := type.nullable }
  | .object target =>
    { name := some name, reference := some target
      collection := type.collection, nullable := type.nullable }

end DataType

/-! ## Properties -/

namespace Property

/-- A property that can be declared. -/
@[mk_iff]
structure Admissible (property : Property) : Prop where
  name : IsValue property.name
  type : ∀ type ∈ property.type, IsValue type.element.name
  groups : ∀ group ∈ property.groups, IsGroup group

instance (property : Property) : Decidable property.Admissible :=
  decidable_of_iff' _ (admissible_iff property)

def keys : List String := ["name", "type", "ref", "collection", "nullable", "groups"]

def attributes (property : Property) : List TagAttribute :=
  ⟨"name", property.name⟩ :: property.type.toList.flatMap DataType.attributes ++
    groupsAttribute property.groups

/-- The draft that the attributes of a property add up to. -/
def draft (property : Property) : PropertyDraft :=
  match property.type with
  | none => { name := some property.name, groups := property.groups }
  | some type => { type.draft property.name with groups := property.groups }

end Property

end EntityGen.Model
