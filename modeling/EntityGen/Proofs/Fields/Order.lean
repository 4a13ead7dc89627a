import EntityGen.Proofs.Fields.Distinct
import Mathlib.Data.Finset.Dedup
import Mathlib.Data.List.Perm.Basic

/-!
Contract: how far the order of the classes of a model matters.

Owns:
- `SameCollected`, what collectors of one model in different orders share;
- comparing merged tables by their names and by their types;
- the rivals for a field, which make the order matter.

Does not own: the order of the fields of a class.

An order decides only where the classes stand in the table. The merge reads the
table in its order, and of several offers of one name it takes the first.
-/

namespace EntityGen

open EntityGen.Model (ClassDecl DataType)

namespace Collector

/-! ## Two orders of one model -/

/-- Two collectors with the same classes and parents. -/
structure SameCollected (left right : Collector) : Prop where
  leftIndexed : left.table.Indexed
  rightIndexed : right.table.Indexed
  listed : left.table.toList.Perm right.table.toList
  parents : ∀ className : String, left.parents[className]? = right.parents[className]?

theorem exists_takeClasses_iff_of_perm {collector : Collector} {order classes : List ClassDecl}
    (perm : order.Perm classes) :
    (∃ filled, collector.takeClasses order = .ok filled) ↔
      ∃ filled, collector.takeClasses classes = .ok filled := by
  simp only [exists_takeClasses_iff, perm.mem_iff]

theorem sameCollected_of_perm {groups : List String} {classes order : List ClassDecl}
    {filled other : Collector} (distinct : (classes.map ClassDecl.name).Nodup)
    (perm : order.Perm classes) (taken : (forGroups groups).takeClasses classes = .ok filled)
    (otherTaken : (forGroups groups).takeClasses order = .ok other) :
    SameCollected filled other := by
  have orderDistinct : (order.map ClassDecl.name).Nodup :=
    (perm.map ClassDecl.name).nodup_iff.mpr distinct
  obtain ⟨indexed, listed⟩ := toList_forGroups distinct taken
  obtain ⟨otherIndexed, otherListed⟩ := toList_forGroups orderDistinct otherTaken
  refine ⟨indexed, otherIndexed, ?_, fun className => ?_⟩
  · rw [listed, otherListed]
    exact (perm.filterMap _).symm
  · rw [getElem?_parents_forGroups taken, getElem?_parents_forGroups otherTaken,
      lastParent?_of_perm distinct perm]

/-- If all answers in a list agree, the first one does not depend on the order. -/
theorem findSome?_eq_of_perm {α β : Type} {answer : α → Option β} {left right : List α}
    (perm : left.Perm right)
    (agree : ∀ one ∈ left, ∀ other ∈ left, ∀ given said,
      answer one = some given → answer other = some said → given = said) :
    left.findSome? answer = right.findSome? answer := by
  cases onLeft : left.findSome? answer with
  | none =>
      rw [List.findSome?_eq_none_iff] at onLeft
      symm
      rw [List.findSome?_eq_none_iff]
      intro one member
      exact onLeft one (perm.mem_iff.mpr member)
  | some given =>
      obtain ⟨one, isLeft, gives⟩ := List.exists_of_findSome?_eq_some onLeft
      have isAnswered : (right.findSome? answer).isSome := by
        rw [List.findSome?_isSome_iff]
        exact ⟨one, perm.mem_iff.mp isLeft, by rw [gives]; rfl⟩
      obtain ⟨said, onRight⟩ := Option.isSome_iff_exists.mp isAnswered
      obtain ⟨other, isRight, otherGives⟩ := List.exists_of_findSome?_eq_some onRight
      have same : given = said :=
        agree one isLeft other (perm.mem_iff.mpr isRight) given said gives otherGives
      rw [onRight, same]

/-! ## How far the order matters -/

/-- The same classes, each with fields of the same names. -/
def SameFieldNames (left right : ClassTable) : Prop :=
  ∀ className, (left.get? className).map (·.names.toFinset) =
    (right.get? className).map (·.names.toFinset)

/-- The same classes, each with the same types under the same names. -/
def SameFieldTypes (left right : ClassTable) : Prop :=
  ∀ className, (left.get? className).map FieldTable.get? =
    (right.get? className).map FieldTable.get?

theorem SameFieldTypes.bind_get? {left right : ClassTable} (same : SameFieldTypes left right)
    (className fieldName : String) :
    (left.get? className).bind (·.get? fieldName) =
      (right.get? className).bind (·.get? fieldName) := by
  have types (fields : Option FieldTable) : fields.bind (·.get? fieldName) =
      (fields.map FieldTable.get?).bind (· fieldName) := by
    cases fields <;> rfl
  rw [types, types, same className]

/-- A class was collected with a field, and its parent is another class. -/
def Offers (collector : Collector) (child parent fieldName : String) (type : DataType) : Prop :=
  child ≠ parent ∧ collector.parents[child]? = some parent ∧
    ∃ fields, collector.table.get? child = some fields ∧ fields.get? fieldName = some type

/-- Two different children offer a class a field that it did not collect itself, and
they give it different types. -/
def HasRivals (collector : Collector) : Prop :=
  ∃ parent own fieldName,
    collector.table.get? parent = some own ∧ own.get? fieldName = none ∧
      ∃ left right leftType rightType, left ≠ right ∧ leftType ≠ rightType ∧
        collector.Offers left parent fieldName leftType ∧
        collector.Offers right parent fieldName rightType

/-- A class offers a field with one type only. -/
theorem Offers.type_eq {collector : Collector} {child parent fieldName : String}
    {type otherType : DataType} (offers : collector.Offers child parent fieldName type)
    (offersOther : collector.Offers child parent fieldName otherType) : type = otherType := by
  obtain ⟨-, -, fields, collected, has⟩ := offers
  obtain ⟨-, -, otherFields, otherCollected, otherHas⟩ := offersOther
  rw [collected] at otherCollected
  rw [← Option.some.inj otherCollected, has] at otherHas
  exact Option.some.inj otherHas

theorem offers_of_mem_childrenOf {collector : Collector} (indexed : collector.table.Indexed)
    {child : String × FieldTable} {parent fieldName : String} {type : DataType}
    (isChild : child ∈ childrenOf (collector.parents[·]?) collector.table.toList parent)
    (has : child.2.get? fieldName = some type) :
    collector.Offers child.1 parent fieldName type := by
  rw [childrenOf, List.mem_filter, decide_eq_true_eq] at isChild
  obtain ⟨member, different, hasParent⟩ := isChild
  have collected := (ClassTable.get?_eq_some_iff indexed child.1 child.2).mpr member
  exact ⟨different, hasParent, child.2, collected, has⟩

namespace SameCollected

variable {left right : Collector} (same : SameCollected left right)

include same

theorem get?_table (className : String) :
    left.table.get? className = right.table.get? className := by
  apply Option.ext
  intro fields
  rw [ClassTable.get?_eq_some_iff same.leftIndexed,
    ClassTable.get?_eq_some_iff same.rightIndexed, same.listed.mem_iff]

theorem parents_eq : (fun className : String => left.parents[className]?) =
    fun className : String => right.parents[className]? := funext same.parents

theorem perm_childrenOf (className : String) :
    (childrenOf (left.parents[·]?) left.table.toList className).Perm
      (childrenOf (right.parents[·]?) right.table.toList className) := by
  rw [same.parents_eq]
  exact same.listed.filter _

/-- The merge gives every class fields of the same names. -/
theorem sameFieldNames_merged : SameFieldNames left.merged.1 right.merged.1 := by
  intro className
  rw [get?_merged same.leftIndexed, get?_merged same.rightIndexed, same.get?_table]
  cases right.table.get? className with
  | none => rfl
  | some own =>
      have offered : (offeredTo (left.parents[·]?) left.table.toList className).Perm
          (offeredTo (right.parents[·]?) right.table.toList className) :=
        (same.perm_childrenOf className).flatMap_right _
      simp only [Option.map_some, Option.some.injEq]
      ext name
      simp only [List.mem_toFinset, mem_names_gaining, (offered.map Field.name).mem_iff]

/-- Without rivals, the merge gives every field the same type. -/
theorem sameFieldTypes_merged (noRivals : ¬ left.HasRivals) :
    SameFieldTypes left.merged.1 right.merged.1 := by
  intro className
  rw [get?_merged same.leftIndexed, get?_merged same.rightIndexed, ← same.get?_table]
  cases found : left.table.get? className with
  | none => rfl
  | some own =>
      simp only [Option.map_some, Option.some.injEq]
      funext name
      rw [get?_gaining, get?_gaining]
      cases isOwn : own.get? name with
      | some type => rfl
      | none =>
          rw [Option.none_or, Option.none_or]
          apply findSome?_eq_of_perm (same.perm_childrenOf className)
          intro one isOne other isOther given said gives otherGives
          by_contra different
          have oneOffers := offers_of_mem_childrenOf same.leftIndexed isOne gives
          have otherOffers := offers_of_mem_childrenOf same.leftIndexed isOther otherGives
          have otherNames : one.1 ≠ other.1 := by
            intro sameName
            rw [sameName] at oneOffers
            exact different (oneOffers.type_eq otherOffers)
          exact noRivals ⟨className, own, name, found, isOwn, one.1, other.1, given, said,
            otherNames, different, oneOffers, otherOffers⟩

end SameCollected

/-- A class can be moved to the front, and then what it offers is taken. -/
theorem exists_order_preferring {groups : List String} {classes : List ClassDecl}
    {filled : Collector} (distinct : (classes.map ClassDecl.name).Nodup)
    (taken : (forGroups groups).takeClasses classes = .ok filled)
    {child parent name : String} {own : FieldTable} {type : DataType}
    (found : filled.table.get? parent = some own) (missing : own.get? name = none)
    (offers : filled.Offers child parent name type) :
    ∃ order, order.Perm classes ∧ ∃ other, (forGroups groups).takeClasses order = .ok other ∧
      (other.merged.1.get? parent).bind (·.get? name) = some type := by
  obtain ⟨different, hasParent, fields, collected, has⟩ := offers
  obtain ⟨indexed, listed⟩ := toList_forGroups distinct taken
  have member : (child, fields) ∈ filled.table.toList :=
    (ClassTable.get?_eq_some_iff indexed child fields).mp collected
  rw [listed, List.mem_filterMap] at member
  obtain ⟨decl, isClass, isCollected⟩ := member
  have perm : (decl :: classes.erase decl).Perm classes := (List.perm_cons_erase isClass).symm
  obtain ⟨other, otherTaken⟩ := (exists_takeClasses_iff_of_perm perm).mpr ⟨filled, taken⟩
  refine ⟨_, perm, other, otherTaken, ?_⟩
  have same := sameCollected_of_perm distinct perm taken otherTaken
  have orderDistinct : ((decl :: classes.erase decl).map ClassDecl.name).Nodup :=
    (perm.map ClassDecl.name).nodup_iff.mpr distinct
  obtain ⟨otherIndexed, otherListed⟩ := toList_forGroups orderDistinct otherTaken
  rw [List.filterMap_cons_some isCollected] at otherListed
  have isChild : child ≠ parent ∧ other.parents[child]? = some parent :=
    ⟨different, (same.parents child).symm.trans hasParent⟩
  rw [get?_merged otherIndexed, ← same.get?_table, found, Option.map_some, Option.bind_some,
    get?_gaining, missing, Option.none_or, otherListed, childrenOf,
    List.filter_cons_of_pos (by simpa using isChild), List.findSome?_cons, has]

/-- **How far the order of the classes matters.** For classes with names of their own,
the properties can be collected in every order or in none, and the merge then gives
the same classes fields of the same names. It gives them the same types in every
order exactly if no two children of a class are rivals for one of its fields. -/
theorem merged_of_any_order (groups : List String) {classes : List ClassDecl}
    (distinct : (classes.map ClassDecl.name).Nodup) :
    (∀ order, order.Perm classes →
      ((∃ filled, (forGroups groups).takeClasses order = .ok filled) ↔
        ∃ filled, (forGroups groups).takeClasses classes = .ok filled)) ∧
    ∀ filled, (forGroups groups).takeClasses classes = .ok filled →
      (∀ order, order.Perm classes → ∀ other, (forGroups groups).takeClasses order = .ok other →
        SameFieldNames filled.merged.1 other.merged.1) ∧
      ((∀ order, order.Perm classes → ∀ other,
          (forGroups groups).takeClasses order = .ok other →
            SameFieldTypes filled.merged.1 other.merged.1) ↔ ¬ filled.HasRivals) := by
  refine ⟨fun order perm => exists_takeClasses_iff_of_perm perm, fun filled taken => ⟨?_, ?_, ?_⟩⟩
  · intro order perm other otherTaken
    exact (sameCollected_of_perm distinct perm taken otherTaken).sameFieldNames_merged
  · intro allSame hasRivals
    obtain ⟨parent, own, name, found, missing, left, right, leftType, rightType, -, different,
      leftOffers, rightOffers⟩ := hasRivals
    have typeInFilled {child : String} {type : DataType}
        (offers : filled.Offers child parent name type) :
        (filled.merged.1.get? parent).bind (·.get? name) = some type := by
      obtain ⟨order, perm, other, otherTaken, preferred⟩ :=
        exists_order_preferring distinct taken found missing offers
      rw [(allSame order perm other otherTaken).bind_get?]
      exact preferred
    have leftFound := typeInFilled leftOffers
    rw [typeInFilled rightOffers] at leftFound
    exact different (Option.some.inj leftFound).symm
  · intro noRivals order perm other otherTaken
    exact (sameCollected_of_perm distinct perm taken otherTaken).sameFieldTypes_merged noRivals

private def saleModel : List ClassDecl := [
  { name := "Document" },
  { name := "Invoice", parent := some "Document", properties := [
    { name := "number", type := some { element := .scalar "int" } }] },
  { name := "Receipt", parent := some "Document", properties := [
    { name := "number", type := some { element := .scalar "string" } }] }]

/-- Two documents number themselves differently, so another order of the classes gives
a document a number of another type. -/
theorem order_of_saleModel_matters :
    (saleModel.map ClassDecl.name).Nodup ∧
      ∃ filled, (forGroups []).takeClasses saleModel = .ok filled ∧ filled.HasRivals ∧
        ∃ order, order.Perm saleModel ∧ ∃ other, (forGroups []).takeClasses order = .ok other ∧
          SameFieldNames filled.merged.1 other.merged.1 ∧
          ¬ SameFieldTypes filled.merged.1 other.merged.1 := by
  have distinct : (saleModel.map ClassDecl.name).Nodup := by decide
  have typed : ∀ decl ∈ saleModel, ∀ property ∈ chosenOf [] decl, property.type.isSome := by decide
  have isTaken : ∃ filled, (forGroups []).takeClasses saleModel = .ok filled :=
    exists_takeClasses_iff.mpr typed
  obtain ⟨filled, taken⟩ := isTaken
  obtain ⟨indexed, listed⟩ := toList_forGroups distinct taken
  have collected (className : String) (fields : FieldTable)
      (member : (className, fields) ∈ saleModel.filterMap (collected? [])) :
      filled.table.get? className = some fields := by
    rw [ClassTable.get?_eq_some_iff indexed, listed]
    exact member
  have offers (child type : String) (different : child ≠ "Document")
      (hasParent : lastParent? (saleModel.map .takeClass) child = some "Document")
      (member : (child, ⟨[⟨"number", { element := .scalar type }⟩]⟩) ∈
        saleModel.filterMap (collected? [])) :
      filled.Offers child "Document" "number" { element := .scalar type } :=
    ⟨different, (getElem?_parents_forGroups taken child).trans hasParent, _,
      collected child _ member, rfl⟩
  have hasRivals : filled.HasRivals :=
    ⟨"Document", .empty, "number", collected "Document" .empty (by decide), rfl,
      "Invoice", "Receipt", { element := .scalar "int" }, { element := .scalar "string" },
      by decide, by decide,
      offers "Invoice" "int" (by decide) (by decide) (by decide),
      offers "Receipt" "string" (by decide) (by decide) (by decide)⟩
  obtain ⟨sameNames, sameTypes⟩ := (merged_of_any_order [] distinct).2 filled taken
  have orderMatters := mt sameTypes.mp (not_not_intro hasRivals)
  simp only [not_forall] at orderMatters
  obtain ⟨order, perm, other, otherTaken, otherTypes⟩ := orderMatters
  exact ⟨distinct, filled, taken, hasRivals, order, perm, other, otherTaken,
    sameNames order perm other otherTaken, otherTypes⟩

end Collector
end EntityGen
