import EntityGen.Proofs.Markup.AttributeList
import EntityGen.Proofs.Model.Element
import Mathlib.Data.List.Nodup

/-!
Contract: what a tag declares does not depend on the order of its attributes.

Owns:
- what one attribute does to the draft of a class or of a property, part by part;
- that attributes of different keys can change places;
- that attributes of other keys can be left out.

Does not own: which attributes a tag has, and the fault that is reported when there are
several.

Every part of a draft is set by the attributes of one key, and whether an attribute can be
taken is told by the attribute alone. So attributes of different keys never meet.
-/

namespace EntityGen.Model

open EntityGen.Markup (Tag TagAttribute)

variable {γ : Type}

/-- A part of a draft after an attribute. Attributes of one key change it. -/
def setPart (key : String) (change : String → γ → γ) (given : TagAttribute) (part : γ) : γ :=
  if given.key = key then change given.value part else part

/-- Of two attributes with different keys at most one changes the part. -/
theorem setPart_comm {one other : TagAttribute} (different : one.key ≠ other.key) (key : String)
    (change : String → γ → γ) (part : γ) :
    setPart key change other (setPart key change one part) =
      setPart key change one (setPart key change other part) := by
  unfold setPart
  by_cases isOne : one.key = key
  · have notOther : other.key ≠ key := fun isOther => different (isOne.trans isOther.symm)
    rw [if_pos isOne, if_neg notOther, if_neg notOther, if_pos isOne]
  · rw [if_neg isOne, if_neg isOne]

/-! ## Classes -/

namespace ClassDraft

theorem take_eq (draft : ClassDraft) (given : TagAttribute) :
    draft.take given =
      { name := setPart "name" (fun value _ => present? value) given draft.name
        parent := setPart "extends" (fun value before => (present? value).or before) given
          draft.parent } := by
  unfold take setPart
  split <;> simp_all

theorem take_comm {one other : TagAttribute} (different : one.key ≠ other.key)
    (draft : ClassDraft) : (draft.take one).take other = (draft.take other).take one := by
  simp only [take_eq, setPart_comm different]

theorem take_of_unknown {given : TagAttribute} (unknown : given.key ∉ ClassDecl.keys)
    (draft : ClassDraft) : draft.take given = draft := by
  unfold take
  split <;> simp_all [ClassDecl.keys]

end ClassDraft

/-! ## Properties -/

/-- The attribute can be taken: a flag has a truth value. -/
def Legible (given : TagAttribute) : Prop :=
  ∀ key ∈ ["collection", "nullable"], given.key = key → ∃ truth, truthOf key given.value = .ok truth

/-- A flag after a text with a truth value. Any other text is refused, so it may keep the
flag. -/
def setFlag (key value : String) (before : Bool) : Bool :=
  (truthOf key value).toOption.getD before

theorem truthOf_bind_eq_ok_iff {α : Type} (key value : String) (before : Bool)
    (finish : Bool → α) (next : α) :
    (truthOf key value >>= fun truth => .ok (finish truth)) = .ok next ↔
      (∃ truth, truthOf key value = .ok truth) ∧ finish (setFlag key value before) = next := by
  unfold setFlag
  cases truthOf key value with
  | error cause => simp [Result.error_bind]
  | ok truth => simp [Except.toOption]

namespace PropertyDraft

/-- The draft after an attribute that can be taken. -/
def after (draft : PropertyDraft) (given : TagAttribute) : PropertyDraft where
  name := setPart "name" (fun value _ => present? value) given draft.name
  scalar := setPart "type" (fun value before => (present? value).or before) given draft.scalar
  reference := setPart "ref" (fun value before => (present? value).or before) given draft.reference
  collection := setPart "collection" (setFlag "collection") given draft.collection
  nullable := setPart "nullable" (setFlag "nullable") given draft.nullable
  groups := setPart "groups" (fun value _ => groupsOf value) given draft.groups

theorem take_eq_ok_iff (draft : PropertyDraft) (given : TagAttribute) (next : PropertyDraft) :
    draft.take given = .ok next ↔ Legible given ∧ draft.after given = next := by
  unfold take
  split
  · next isName => simp [after, setPart, Legible, isName]
  · next isType => simp [after, setPart, Legible, isType]
  · next isReference => simp [after, setPart, Legible, isReference]
  -- Only a flag can be refused.
  · next isFlag =>
      rw [truthOf_bind_eq_ok_iff "collection" given.value draft.collection]
      simp [after, setPart, Legible, isFlag]
  · next isFlag =>
      rw [truthOf_bind_eq_ok_iff "nullable" given.value draft.nullable]
      simp [after, setPart, Legible, isFlag]
  · next isGroups => simp [after, setPart, Legible, isGroups]
  · next unknown => simp_all [after, setPart, Legible]

theorem after_comm {one other : TagAttribute} (different : one.key ≠ other.key)
    (draft : PropertyDraft) : (draft.after one).after other = (draft.after other).after one := by
  simp only [after, setPart_comm different]

theorem take_of_unknown {given : TagAttribute} (unknown : given.key ∉ Property.keys)
    (draft : PropertyDraft) : draft.take given = .ok draft := by
  unfold take
  split <;> simp_all [Property.keys]

end PropertyDraft

/-! ## All attributes -/

section Tags

variable {tag other : Tag} {attributes others : List TagAttribute}
  (listed : tag.attributes = (attributes, none)) (otherListed : other.attributes = (others, none))

include listed otherListed

section Order

variable {δ : Type} {take : δ → TagAttribute → Except ModelError δ}
  {after : δ → TagAttribute → δ} {Passes : TagAttribute → Prop}
  (steps : ∀ before given next,
    take before given = .ok next ↔ Passes given ∧ after before given = next)
  (comm : ∀ {one other : TagAttribute}, one.key ≠ other.key →
    ∀ before, after (after before one) other = after (after before other) one)
  (permuted : others.Perm attributes) (distinct : (attributes.map TagAttribute.key).Nodup)

include steps comm permuted distinct

/-- Attributes with keys of their own can be taken in any order. -/
theorem takeAttributes_eq_ok_iff_of_perm (first last : δ) :
    takeAttributes take first other = .ok last ↔ takeAttributes take first tag = .ok last := by
  have sameLast : attributes.foldl after first = others.foldl after first := by
    refine permuted.symm.foldl_eq' (fun one isOne other isOther before => ?_) first
    by_cases same : one = other
    · rw [same]
    · exact comm (fun sameKey => same (List.inj_on_of_nodup_map distinct isOne isOther sameKey))
        before
  rw [takeAttributes_of_listed listed, takeAttributes_of_listed otherListed,
    Result.foldlM_eq_ok_iff steps, Result.foldlM_eq_ok_iff steps, sameLast]
  simp only [permuted.mem_iff]

end Order

section Unknown

variable {kept : TagAttribute → Bool} (filtered : others = attributes.filter kept)

include filtered

/-- Attributes that an element does not know can be left out. -/
theorem takeAttributes_eq_of_filter {δ : Type} {keys : List String}
    {take : δ → TagAttribute → Except ModelError δ}
    (idle : ∀ given : TagAttribute, given.key ∉ keys → ∀ before, take before given = .ok before)
    (known : ∀ given ∈ attributes, given.key ∈ keys → kept given = true) (first : δ) :
    takeAttributes take first other = takeAttributes take first tag := by
  rw [takeAttributes_of_listed listed, takeAttributes_of_listed otherListed, filtered]
  refine Result.foldlM_filter_of_idle (fun given member isLeftOut => ?_) first
  refine idle given fun isKnown => ?_
  rw [known given member isKnown] at isLeftOut
  cases isLeftOut

theorem ClassDecl.ofTag_eq_of_filter
    (known : ∀ given ∈ attributes, given.key ∈ ClassDecl.keys → kept given = true) :
    ofTag other = ofTag tag := by
  rw [ofTag, ofTag, takeAttributes_eq_of_filter listed otherListed filtered
    (fun given unknown before => congrArg Except.ok (ClassDraft.take_of_unknown unknown before))
    known]

theorem Property.ofTag_eq_of_filter
    (known : ∀ given ∈ attributes, given.key ∈ Property.keys → kept given = true)
    (className : String) : ofTag className other = ofTag className tag := by
  rw [ofTag, ofTag, takeAttributes_eq_of_filter listed otherListed filtered
    (fun _ unknown => PropertyDraft.take_of_unknown unknown) known]

end Unknown

variable (permuted : others.Perm attributes) (distinct : (attributes.map TagAttribute.key).Nodup)

include permuted distinct

theorem ClassDecl.ofTag_eq_ok_iff_of_perm (decl : ClassDecl) :
    ofTag other = .ok decl ↔ ofTag tag = .ok decl := by
  have steps (before : ClassDraft) (given : TagAttribute) (next : ClassDraft) :
      (.ok (before.take given) : Except ModelError ClassDraft) = .ok next ↔
        True ∧ before.take given = next := by
    rw [Except.ok.injEq, true_and]
  rw [ofTag, ofTag, Result.bind_eq_ok_iff, Result.bind_eq_ok_iff]
  simp only [takeAttributes_eq_ok_iff_of_perm listed otherListed steps ClassDraft.take_comm
    permuted distinct]

theorem Property.ofTag_eq_ok_iff_of_perm (className : String) (property : Property) :
    ofTag className other = .ok property ↔ ofTag className tag = .ok property := by
  rw [ofTag, ofTag, Result.bind_eq_ok_iff, Result.bind_eq_ok_iff]
  simp only [takeAttributes_eq_ok_iff_of_perm listed otherListed PropertyDraft.take_eq_ok_iff
    PropertyDraft.after_comm permuted distinct]

end Tags

/-- **The order of attributes.** The attributes of a tag that is read without a fault have
keys of their own. They can be written in any order, and some of them can be left out. A
tag with them in another order declares a class or a property exactly if this one does,
and the same one. A tag without some of them, all of which have keys that the element does
not know, gives the same result, also where it is a fault. By `exists_attributes_iff` this is
said for every list of attributes with keys of their own that a tag can have. -/
theorem attribute_order_is_immaterial {tag : Tag} {attributes : List TagAttribute}
    (listed : tag.attributes = (attributes, none)) :
    (attributes.map TagAttribute.key).Nodup ∧
      (∀ others : List TagAttribute, others.Perm attributes →
        (∃ other : Tag, other.name = tag.name ∧ other.attributes = (others, none)) ∧
          ∀ other : Tag, other.attributes = (others, none) →
            (∀ decl, ClassDecl.ofTag other = .ok decl ↔ ClassDecl.ofTag tag = .ok decl) ∧
              ∀ className property, Property.ofTag className other = .ok property ↔
                Property.ofTag className tag = .ok property) ∧
      ∀ kept : TagAttribute → Bool,
        (∃ other : Tag, other.name = tag.name ∧
            other.attributes = (attributes.filter kept, none)) ∧
          ∀ other : Tag, other.attributes = (attributes.filter kept, none) →
            ((∀ given ∈ attributes, given.key ∈ ClassDecl.keys → kept given = true) →
                ClassDecl.ofTag other = ClassDecl.ofTag tag) ∧
              ((∀ given ∈ attributes, given.key ∈ Property.keys → kept given = true) →
                ∀ className, Property.ofTag className other = Property.ofTag className tag) := by
  have isName : ∀ c ∈ tag.name.toList, Markup.isSpace c = false :=
    fun _ => Markup.isSpace_of_mem_name
  obtain ⟨quotable, distinct⟩ :=
    (Markup.exists_attributes_iff isName attributes).mp ⟨tag, rfl, listed⟩
  refine ⟨distinct, fun others permuted => ⟨?_, fun other otherListed => ⟨?_, ?_⟩⟩,
    fun kept => ⟨?_, fun other otherListed => ⟨?_, ?_⟩⟩⟩
  · refine (Markup.exists_attributes_iff isName others).mpr ⟨fun given member => ?_, ?_⟩
    · exact quotable given (permuted.mem_iff.mp member)
    · exact (permuted.map TagAttribute.key).nodup_iff.mpr distinct
  · exact ClassDecl.ofTag_eq_ok_iff_of_perm listed otherListed permuted distinct
  · exact Property.ofTag_eq_ok_iff_of_perm listed otherListed permuted distinct
  · refine (Markup.exists_attributes_iff isName _).mpr ⟨fun given member => ?_, ?_⟩
    · exact quotable given (List.mem_of_mem_filter member)
    · exact distinct.sublist (List.filter_sublist.map TagAttribute.key)
  · exact ClassDecl.ofTag_eq_of_filter listed otherListed rfl
  · exact Property.ofTag_eq_of_filter listed otherListed rfl

/-- A tag with everything that its order could matter for: a reference behind an empty
type, both flags, groups, and a key that is not known, with double quotes in its value. -/
def itemsTag : Tag :=
  ⟨("property type=\"\" ref=\"Item\" nullable=\"0\" note='a \"b\"' collection=\"1\"" ++
    " groups=\"read, edit\" name=\"items\"").toList⟩

def itemsAttributes : List TagAttribute :=
  [⟨"type", ""⟩, ⟨"ref", "Item"⟩, ⟨"nullable", "0"⟩, ⟨"note", "a \"b\""⟩, ⟨"collection", "1"⟩,
    ⟨"groups", "read, edit"⟩, ⟨"name", "items"⟩]

def itemsProperty : Property where
  name := "items"
  type := some { element := .object "Item", collection := true }
  groups := ["read", "edit"]

theorem itemsTag_declares_in_any_order :
    itemsTag.attributes = (itemsAttributes, none) ∧
      (∃ other : Tag, other.name = "property" ∧
        other.attributes = (itemsAttributes.reverse, none)) ∧
      (∀ other : Tag, other.attributes = (itemsAttributes.reverse, none) →
        Property.ofTag "Order" other = .ok itemsProperty) ∧
      ∀ other : Tag, other.attributes = (itemsAttributes.filter (·.key ≠ "note"), none) →
        Property.ofTag "Order" other = .ok itemsProperty := by
  have listed : itemsTag.attributes = (itemsAttributes, none) := by decide +kernel
  have isProperty : itemsTag.name = "property" := by decide +kernel
  have declared : Property.ofTag "Order" itemsTag = .ok itemsProperty := by
    rw [Property.ofTag, takeAttributes_of_listed listed]
    decide +kernel
  obtain ⟨-, reordered, shortened⟩ := attribute_order_is_immaterial listed
  obtain ⟨written, alike⟩ := reordered _ itemsAttributes.reverse_perm
  rw [isProperty] at written
  refine ⟨listed, written, fun other otherListed => ?_, fun other otherListed => ?_⟩
  · exact ((alike other otherListed).2 "Order" itemsProperty).mpr declared
  · have known : ∀ given ∈ itemsAttributes, given.key ∈ Property.keys →
        decide (given.key ≠ "note") = true := by decide
    exact (((shortened _).2 other otherListed).2 known "Order").trans declared

end EntityGen.Model
