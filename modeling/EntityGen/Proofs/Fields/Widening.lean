import EntityGen.Proofs.Fields.Distinct

/-!
Contract: what is gained when properties are chosen by more groups.

Owns:
- `HasField`, the fields of a table by the names of class and field;
- which classes and fields a table has after classes were taken, in any order and of any
  names;
- which of them the merge adds.

Does not own: the types of the fields.

With more groups more parents enter the table, more children give to them, and more
fields of a class stand in the way of what its children give. What stands in the way is a
field of the same name, though, so by their names nothing is ever lost.
-/

namespace EntityGen

open EntityGen.Model (ClassDecl DataType Property)

namespace ClassTable

/-- The class of that name has a field of that name. -/
def HasField (table : ClassTable) (className fieldName : String) : Prop :=
  ∃ fields, table.get? className = some fields ∧ fieldName ∈ fields.names

section HasField

variable {table : ClassTable} (indexed : table.Indexed)

include indexed

theorem hasField_iff (className fieldName : String) :
    table.HasField className fieldName ↔
      ∃ entry ∈ table.toList, entry.1 = className ∧ fieldName ∈ entry.2.names := by
  unfold HasField
  simp only [get?_eq_some_iff indexed]
  constructor
  · rintro ⟨fields, member, isField⟩
    exact ⟨_, member, rfl, isField⟩
  · rintro ⟨⟨_, fields⟩, member, rfl, isField⟩
    exact ⟨fields, member, isField⟩

/-- A class that is entered has no fields yet. -/
theorem hasField_enter (entered className fieldName : String) :
    (table.enter entered).HasField className fieldName ↔ table.HasField className fieldName := by
  rw [hasField_iff (indexed_enter indexed entered), hasField_iff indexed, toList_enter indexed]
  split
  · rfl
  · have noFields : fieldName ∉ FieldTable.empty.names := List.not_mem_nil
    simp only [List.mem_append, List.mem_singleton, or_and_right, exists_or, exists_eq_left,
      noFields, and_false, or_false]

theorem hasField_modify_put {changed : String} (present : changed ∈ table.classNames)
    (put : String) (type : DataType) (className fieldName : String) :
    (table.modify changed (·.put put type)).HasField className fieldName ↔
      table.HasField className fieldName ∨ className = changed ∧ fieldName = put := by
  have putName (fields : FieldTable) : fieldName ∈ (fields.put put type).names ↔
      fieldName ∈ fields.names ∨ fieldName = put := by
    rw [FieldTable.names_put]
    split
    · next isOld =>
        refine ⟨Or.inl, ?_⟩
        rintro (isField | rfl)
        · exact isField
        · exact isOld
    · rw [List.mem_append, List.mem_singleton]
  rw [hasField_iff (indexed_modify indexed changed _), hasField_iff indexed,
    toList_modify indexed]
  simp only [List.mem_map, exists_exists_and_eq_and, changeOne_fst]
  constructor
  · rintro ⟨entry, member, rfl, isField⟩
    unfold changeOne at isField
    split at isField
    · next same =>
        rcases (putName _).mp isField with isOld | isNew
        · exact Or.inl ⟨entry, member, rfl, isOld⟩
        · exact Or.inr ⟨same, isNew⟩
    · exact Or.inl ⟨entry, member, rfl, isField⟩
  · rintro (⟨entry, member, rfl, isField⟩ | ⟨rfl, rfl⟩)
    · refine ⟨entry, member, rfl, ?_⟩
      unfold changeOne
      split
      · exact (putName _).mpr (Or.inl isField)
      · exact isField
    · obtain ⟨entry, member, same⟩ := List.mem_map.mp present
      refine ⟨entry, member, same, ?_⟩
      rw [changeOne, if_pos same]
      exact (putName _).mpr (Or.inr rfl)

end HasField

end ClassTable

namespace Collector

/-! ## What classes add -/

/-- `after` has the classes and fields of `before`, one class if it is `entered`, and some
fields of this class. -/
structure Gains (before after : ClassTable) (className : String) (entered : Prop)
    (fieldNames : List String) : Prop where
  indexed : after.Indexed
  classes : ∀ name,
    name ∈ after.classNames ↔ name ∈ before.classNames ∨ name = className ∧ entered
  fields : ∀ name fieldName, after.HasField name fieldName ↔
    before.HasField name fieldName ∨ name = className ∧ fieldName ∈ fieldNames

section Gains

variable {before after : ClassTable} {className : String}

theorem gains_putProperty {property : Property} (indexed : before.Indexed)
    (put : putProperty className before property = .ok after) :
    Gains before after className True [property.name] := by
  unfold putProperty at put
  split at put
  · cases put
  · next type _ =>
      obtain rfl := Except.ok.inj put
      have entered := ClassTable.indexed_enter indexed className
      have present : className ∈ (before.enter className).classNames :=
        (ClassTable.mem_classNames_enter indexed).mpr (Or.inl rfl)
      refine ⟨ClassTable.indexed_modify entered className _, fun name => ?_,
        fun name fieldName => ?_⟩
      · rw [ClassTable.classNames_modify entered, ClassTable.mem_classNames_enter indexed,
          and_true, or_comm]
      · rw [ClassTable.hasField_modify_put entered present, ClassTable.hasField_enter indexed,
          List.mem_singleton]

theorem gains_foldlM_putProperty {properties : List Property} (indexed : before.Indexed)
    (put : properties.foldlM (putProperty className) before = .ok after) :
    Gains before after className (properties ≠ []) (properties.map Property.name) := by
  induction properties generalizing before with
  | nil =>
      obtain rfl := Except.ok.inj put
      exact ⟨indexed, by simp, by simp⟩
  | cons property others inductionHypothesis =>
      rw [List.foldlM_cons] at put
      obtain ⟨next, first, rest⟩ := Result.bind_eq_ok_iff.mp put
      have gained := gains_putProperty indexed first
      have later := inductionHypothesis gained.indexed rest
      refine ⟨later.indexed, fun name => ?_, fun name fieldName => ?_⟩
      · rw [later.classes, gained.classes]
        simp only [ne_eq, reduceCtorEq, not_false_eq_true, and_true]
        tauto
      · rw [later.fields, gained.fields, List.mem_singleton, List.map_cons, List.mem_cons]
        tauto

/-- A class enters the table of a collector with these groups. -/
def Enters (groups : List String) (decl : ClassDecl) : Prop :=
  groups = [] ∨ chosenOf groups decl ≠ []

instance (groups : List String) (decl : ClassDecl) : Decidable (Enters groups decl) :=
  inferInstanceAs (Decidable (_ ∨ _))

theorem gains_tableAfter {collector : Collector} {decl : ClassDecl}
    (indexed : collector.table.Indexed) (taken : collector.tableAfter decl = .ok after) :
    Gains collector.table after decl.name (Enters collector.groups decl)
      ((chosenOf collector.groups decl).map Property.name) := by
  unfold tableAfter tableFor at taken
  split at taken
  · next noGroups =>
      have entered := ClassTable.indexed_enter indexed decl.name
      have gained := gains_foldlM_putProperty entered taken
      have enters : Enters collector.groups decl := Or.inl (List.isEmpty_iff.mp noGroups)
      refine ⟨gained.indexed, fun name => ?_, fun name fieldName => ?_⟩
      · rw [gained.classes, ClassTable.mem_classNames_enter indexed]
        tauto
      · rw [gained.fields, ClassTable.hasField_enter indexed]
        rfl
  · next someGroups =>
      have gained := gains_foldlM_putProperty indexed taken
      have enters : Enters collector.groups decl ↔ chosenOf collector.groups decl ≠ [] :=
        or_iff_right fun none => someGroups (List.isEmpty_iff.mpr none)
      refine ⟨gained.indexed, fun name => ?_, gained.fields⟩
      rw [gained.classes, enters]
      rfl

end Gains

/-- The classes and fields of a table to which classes were added: those it had, and the
chosen ones of each class. -/
theorem gains_takeClasses {collector filled : Collector} {classes : List ClassDecl}
    (indexed : collector.table.Indexed) (taken : collector.takeClasses classes = .ok filled) :
    filled.table.Indexed ∧
      (∀ name, name ∈ filled.table.classNames ↔ name ∈ collector.table.classNames ∨
        ∃ decl ∈ classes, name = decl.name ∧ Enters collector.groups decl) ∧
      ∀ name fieldName, filled.table.HasField name fieldName ↔
        collector.table.HasField name fieldName ∨ ∃ decl ∈ classes, name = decl.name ∧
          fieldName ∈ (chosenOf collector.groups decl).map Property.name := by
  induction classes generalizing collector with
  | nil =>
      obtain rfl := Except.ok.inj taken
      exact ⟨indexed, by simp, by simp⟩
  | cons decl others inductionHypothesis =>
      rw [takeClasses_cons] at taken
      obtain ⟨table, first, rest⟩ := Result.bind_eq_ok_iff.mp taken
      have gained := gains_tableAfter indexed first
      let next : Collector := { collector.takeParent decl with table }
      have nextIndexed : next.table.Indexed := gained.indexed
      have nextGroups : next.groups = collector.groups := groups_takeParent collector decl
      obtain ⟨filledIndexed, classNames, fields⟩ := inductionHypothesis nextIndexed rest
      refine ⟨filledIndexed, fun name => ?_, fun name fieldName => ?_⟩
      · rw [classNames, nextGroups, gained.classes, List.exists_mem_cons_iff, or_assoc]
      · rw [fields, nextGroups, gained.fields, List.exists_mem_cons_iff, or_assoc]

section Model

variable {groups : List String} {classes : List ClassDecl} {filled : Collector}
  (taken : (forGroups groups).takeClasses classes = .ok filled)

include taken

theorem mem_classNames_forGroups (name : String) :
    name ∈ filled.table.classNames ↔
      ∃ decl ∈ classes, name = decl.name ∧ Enters groups decl := by
  have none : name ∉ (forGroups groups).table.classNames := List.not_mem_nil
  rw [(gains_takeClasses ClassTable.indexed_empty taken).2.1, or_iff_right none]
  rfl

theorem hasField_forGroups (name fieldName : String) :
    filled.table.HasField name fieldName ↔
      ∃ decl ∈ classes, name = decl.name ∧
        fieldName ∈ (chosenOf groups decl).map Property.name := by
  have indexed : (forGroups groups).table.Indexed := ClassTable.indexed_empty
  have none : ¬ (forGroups groups).table.HasField name fieldName := by
    rw [ClassTable.hasField_iff indexed]
    rintro ⟨entry, member, -⟩
    exact absurd member List.not_mem_nil
  rw [(gains_takeClasses indexed taken).2.2, or_iff_right none]
  rfl

theorem indexed_forGroups : filled.table.Indexed :=
  (gains_takeClasses ClassTable.indexed_empty taken).1

end Model

/-! ## What the merge adds -/

section Merge

variable {collector : Collector} (indexed : collector.table.Indexed)

include indexed

theorem classNames_merged : collector.merged.1.classNames = collector.table.classNames := by
  rw [ClassTable.classNames, toList_merged indexed, List.map_map]
  rfl

/-- A class of the merged table has its own fields and those of its children. -/
theorem hasField_merged (className fieldName : String) :
    collector.merged.1.HasField className fieldName ↔
      className ∈ collector.table.classNames ∧
        (collector.table.HasField className fieldName ∨
          ∃ child, child ≠ className ∧ collector.parents[child]? = some className ∧
            collector.table.HasField child fieldName) := by
  have offered : fieldName ∈ (offeredTo (collector.parents[·]?) collector.table.toList
      className).map Field.name ↔
        ∃ child, child ≠ className ∧ collector.parents[child]? = some className ∧
          collector.table.HasField child fieldName := by
    simp only [List.mem_map, mem_offeredTo, ClassTable.hasField_iff indexed]
    constructor
    · rintro ⟨field, ⟨child, member, different, hasParent, isField⟩, rfl⟩
      exact ⟨child.1, different, hasParent, child, member, rfl, List.mem_map_of_mem isField⟩
    · rintro ⟨_, different, hasParent, child, member, rfl, isField⟩
      obtain ⟨field, inFields, rfl⟩ := List.mem_map.mp isField
      exact ⟨field, ⟨child, member, different, hasParent, inFields⟩, rfl⟩
  rw [← offered, ClassTable.mem_classNames_iff indexed, ClassTable.HasField,
    ClassTable.HasField, get?_merged indexed]
  cases collector.table.get? className with
  | none => simp
  | some own => simp [mem_names_gaining]

end Merge

/-! ## More groups -/

section Wider

variable {groups more : List String} (chosen : groups ≠ []) (wider : more = [] ∨ groups ⊆ more)

include chosen wider

/-- What is chosen by some groups is chosen by more of them, or without any. -/
theorem chosenOf_subset (decl : ClassDecl) : chosenOf groups decl ⊆ chosenOf more decl := by
  intro property member
  unfold chosenOf chooses at member ⊢
  rw [List.mem_filter, Bool.or_eq_true] at member ⊢
  refine ⟨member.1, ?_⟩
  have carries := member.2.resolve_left fun none => chosen (List.isEmpty_iff.mp none)
  refine wider.imp List.isEmpty_iff.mpr fun covered => ?_
  obtain ⟨group, isOwn, isChosen⟩ := List.any_eq_true.mp carries
  rw [List.contains_iff_mem] at isChosen
  exact List.any_eq_true.mpr ⟨group, isOwn, List.contains_iff_mem.mpr (covered isChosen)⟩

theorem enters_of_enters {decl : ClassDecl} (enters : Enters groups decl) :
    Enters more decl := by
  obtain ⟨property, isChosen⟩ := List.exists_mem_of_ne_nil _ (enters.resolve_left chosen)
  exact Or.inr (List.ne_nil_of_mem (chosenOf_subset chosen wider decl isChosen))

end Wider

/-- Classes with names of their own stand in the table in the order of the model. -/
theorem classNames_forGroups {groups : List String} {classes : List ClassDecl}
    {filled : Collector} (distinct : (classes.map ClassDecl.name).Nodup)
    (taken : (forGroups groups).takeClasses classes = .ok filled) :
    filled.table.classNames = (classes.filter (Enters groups ·)).map ClassDecl.name := by
  rw [ClassTable.classNames, (toList_forGroups distinct taken).2]
  clear distinct taken
  induction classes with
  | nil => rfl
  | cons decl others inductionHypothesis =>
      have none : groups.isEmpty = true ↔ groups = [] := List.isEmpty_iff
      by_cases enters : Enters groups decl
      · have isCollected : collected? groups decl =
            some (decl.name, (chosenOf groups decl).foldl FieldTable.putProperty .empty) :=
          if_pos (enters.imp_left none.mpr)
        rw [List.filterMap_cons_some isCollected, List.filter_cons_of_pos (by simpa using enters),
          List.map_cons, List.map_cons, inductionHypothesis]
      · have notCollected : collected? groups decl = Option.none :=
          if_neg fun collected => enters (collected.imp_left none.mp)
        rw [List.filterMap_cons_none notCollected,
          List.filter_cons_of_neg (by simpa using enters), inductionHypothesis]

/-- **More groups lose nothing.** Where the properties of a model can be collected by more
groups, or without any, they can be collected by some of them. The merge then gives no
class and no field that it does not give for more groups, and classes with names of
their own come in the same order. -/
theorem merged_of_more_groups {groups more : List String} (chosen : groups ≠ [])
    (wider : more = [] ∨ groups ⊆ more) {classes : List ClassDecl} {wide : Collector}
    (taken : (forGroups more).takeClasses classes = .ok wide) :
    ∃ narrow, (forGroups groups).takeClasses classes = .ok narrow ∧
      (∀ className ∈ narrow.merged.1.classNames, className ∈ wide.merged.1.classNames) ∧
      (∀ className fieldName, narrow.merged.1.HasField className fieldName →
        wide.merged.1.HasField className fieldName) ∧
      ((classes.map ClassDecl.name).Nodup →
        narrow.merged.1.classNames.Sublist wide.merged.1.classNames) := by
  have typed := exists_takeClasses_iff.mp ⟨wide, taken⟩
  have canTake : ∃ narrow, (forGroups groups).takeClasses classes = .ok narrow :=
    exists_takeClasses_iff.mpr fun decl member property isChosen =>
      typed decl member property (chosenOf_subset chosen wider decl isChosen)
  obtain ⟨narrow, narrowTaken⟩ := canTake
  have indexed := indexed_forGroups taken
  have narrowIndexed := indexed_forGroups narrowTaken
  have classes_mono : ∀ className ∈ narrow.table.classNames,
      className ∈ wide.table.classNames := by
    intro className member
    obtain ⟨decl, isClass, isName, enters⟩ :=
      (mem_classNames_forGroups narrowTaken className).mp member
    exact (mem_classNames_forGroups taken className).mpr
      ⟨decl, isClass, isName, enters_of_enters chosen wider enters⟩
  have fields_mono : ∀ className fieldName, narrow.table.HasField className fieldName →
      wide.table.HasField className fieldName := by
    intro className fieldName hasField
    obtain ⟨decl, isClass, isName, isField⟩ :=
      (hasField_forGroups narrowTaken className fieldName).mp hasField
    exact (hasField_forGroups taken className fieldName).mpr
      ⟨decl, isClass, isName, List.map_subset _ (chosenOf_subset chosen wider decl) isField⟩
  refine ⟨narrow, narrowTaken, ?_, fun className fieldName hasField => ?_, fun distinct => ?_⟩
  · rw [classNames_merged narrowIndexed, classNames_merged indexed]
    exact classes_mono
  · rw [hasField_merged narrowIndexed] at hasField
    rw [hasField_merged indexed]
    refine ⟨classes_mono className hasField.1, hasField.2.imp (fields_mono className fieldName) ?_⟩
    -- The same classes note the same parents, whether or not they enter.
    rintro ⟨child, different, hasParent, isOffered⟩
    rw [getElem?_parents_forGroups narrowTaken] at hasParent
    refine ⟨child, different, ?_, fields_mono child fieldName isOffered⟩
    rw [getElem?_parents_forGroups taken]
    exact hasParent
  · rw [classNames_merged narrowIndexed, classNames_merged indexed,
      classNames_forGroups distinct narrowTaken, classNames_forGroups distinct taken]
    refine (List.monotone_filter_right classes ?_).map ClassDecl.name
    intro decl enters
    simp only [decide_eq_true_eq] at enters ⊢
    exact enters_of_enters chosen wider enters

private def letterModel : List ClassDecl := [
  { name := "Letter", parent := some "Document", properties := [
    { name := "text", type := some { element := .scalar "string" }, groups := ["read"] },
    { name := "draft", type := some { element := .scalar "string" }, groups := ["write"] }] },
  { name := "Document", properties := [
    { name := "title", type := some { element := .scalar "string" }, groups := ["write"] }] },
  { name := "Reply", parent := some "Letter", properties := [
    { name := "answered", type := some { element := .object "Letter" }, groups := ["read"] }] }]

/-- To write letters as well as to read them takes one more class, the parent of another
one, and loses neither a class nor the field that a letter takes over from its replies. -/
theorem merged_letterModel :
    ["read"] ≠ [] ∧ (["write", "read"] = [] ∨ ["read"] ⊆ ["write", "read"]) ∧
      ∃ wide narrow, (forGroups ["write", "read"]).takeClasses letterModel = .ok wide ∧
        (forGroups ["read"]).takeClasses letterModel = .ok narrow ∧
        narrow.merged.1.classNames = ["Letter", "Reply"] ∧
        wide.merged.1.classNames = ["Letter", "Document", "Reply"] ∧
        narrow.merged.1.classNames.Sublist wide.merged.1.classNames ∧
        narrow.merged.1.HasField "Letter" "answered" ∧
        wide.merged.1.HasField "Letter" "answered" := by
  have covered : ["write", "read"] = [] ∨ ["read"] ⊆ ["write", "read"] := Or.inr (by decide)
  have typed : ∀ decl ∈ letterModel, ∀ property ∈ chosenOf ["write", "read"] decl,
      property.type.isSome := by decide
  have canTake : ∃ wide, (forGroups ["write", "read"]).takeClasses letterModel = .ok wide :=
    exists_takeClasses_iff.mpr typed
  obtain ⟨wide, taken⟩ := canTake
  obtain ⟨narrow, narrowTaken, -, fields, inOrder⟩ :=
    merged_of_more_groups (by decide) covered taken
  have narrowNames : ((forGroups ["read"]).takeClasses letterModel).map
      (·.merged.1.classNames) = .ok ["Letter", "Reply"] := by decide +kernel
  have wideNames : ((forGroups ["write", "read"]).takeClasses letterModel).map
      (·.merged.1.classNames) = .ok ["Letter", "Document", "Reply"] := by decide +kernel
  have answered : ((forGroups ["read"]).takeClasses letterModel).map
      (fun filled => (filled.merged.1.get? "Letter").map FieldTable.names) =
        .ok (some ["text", "answered"]) := by decide +kernel
  rw [narrowTaken] at narrowNames answered
  rw [taken] at wideNames
  have hasField : narrow.merged.1.HasField "Letter" "answered" := by
    obtain ⟨found, isFound, names⟩ := Option.map_eq_some_iff.mp (Except.ok.inj answered)
    exact ⟨found, isFound, by simp [names]⟩
  exact ⟨by decide, covered, wide, narrow, taken, narrowTaken, Except.ok.inj narrowNames,
    Except.ok.inj wideNames, inOrder (by decide), hasField, fields _ _ hasField⟩

end Collector
end EntityGen
