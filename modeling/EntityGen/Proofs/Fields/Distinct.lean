import EntityGen.Proofs.Fields.Selection

/-!
Contract: collecting classes with names of their own.

Owns:
- `collected?`, what one class adds to a table, whatever came before it;
- the table that such classes fill, as the list of what each one adds;
- the parents that such classes note.

Does not own: the merge of the table.

A class of a new name changes no other class, so nothing that it adds depends on the
classes before it. Of two classes of one name, the later one would put its fields
into those of the earlier one.
-/

namespace EntityGen

open EntityGen.Model (ClassDecl DataType Property)

/-! ## What one class adds -/

/-- The fields after a property was put into them. Without a type nothing is put. -/
def FieldTable.putProperty (fields : FieldTable) (property : Property) : FieldTable :=
  match property.type with
  | none => fields
  | some type => fields.put property.name type

namespace Collector

/-- The properties of a class that a collector with these groups chooses. -/
def chosenOf (groups : List String) (decl : ClassDecl) : List Property :=
  decl.properties.filter (forGroups groups).chooses

/-- What a class adds to a table: nothing, if properties are chosen by groups and none
of its own are. -/
def collected? (groups : List String) (decl : ClassDecl) : Option (String × FieldTable) :=
  if groups.isEmpty ∨ chosenOf groups decl ≠ [] then
    some (decl.name, (chosenOf groups decl).foldl FieldTable.putProperty .empty)
  else none

theorem name_of_collected? {groups : List String} {decl : ClassDecl}
    {entry : String × FieldTable} (isCollected : collected? groups decl = some entry) :
    entry.1 = decl.name := by
  unfold collected? at isCollected
  split at isCollected
  · exact (congrArg Prod.fst (Option.some.inj isCollected)).symm
  · cases isCollected

section Listing

variable {table after : ClassTable} {className : String} {before : List (String × FieldTable)}

theorem toList_putProperty {fields : FieldTable} {property : Property}
    (indexed : table.Indexed) (new : className ∉ before.map Prod.fst)
    (listed : table.toList = before ++ [(className, fields)])
    (put : putProperty className table property = .ok after) :
    after.Indexed ∧ after.toList = before ++ [(className, fields.putProperty property)] := by
  unfold putProperty at put
  split at put
  · cases put
  · next type hasType =>
      obtain rfl := Except.ok.inj put
      have present : className ∈ table.classNames := by
        simp [ClassTable.classNames, listed]
      have entered := ClassTable.indexed_enter indexed className
      refine ⟨ClassTable.indexed_modify entered className _, ?_⟩
      rw [ClassTable.toList_modify entered, ClassTable.toList_enter indexed, if_pos present, listed,
        List.map_append, List.map_singleton]
      have others : before.map (ClassTable.changeOne className (·.put property.name type)) =
          before := by
        have same : ∀ entry ∈ before,
            ClassTable.changeOne className (·.put property.name type) entry = entry := by
          intro entry member
          have different : entry.1 ≠ className := by
            rintro rfl
            exact new (List.mem_map_of_mem member)
          rw [ClassTable.changeOne, if_neg different]
        rw [List.map_congr_left same, List.map_id']
      rw [others, ClassTable.changeOne, if_pos rfl, FieldTable.putProperty, hasType]

theorem toList_foldlM_putProperty {properties : List Property} {fields : FieldTable}
    (indexed : table.Indexed) (new : className ∉ before.map Prod.fst)
    (listed : table.toList = before ++ [(className, fields)])
    (put : properties.foldlM (putProperty className) table = .ok after) :
    after.Indexed ∧
      after.toList = before ++ [(className, properties.foldl FieldTable.putProperty fields)] := by
  induction properties generalizing table fields with
  | nil =>
      obtain rfl := Except.ok.inj put
      exact ⟨indexed, listed⟩
  | cons property others inductionHypothesis =>
      rw [List.foldlM_cons] at put
      obtain ⟨next, first, rest⟩ := Result.bind_eq_ok_iff.mp put
      obtain ⟨nextIndexed, nextListed⟩ := toList_putProperty indexed new listed first
      exact inductionHypothesis nextIndexed nextListed rest

/-- Properties can be put into a table exactly if they have types. -/
theorem exists_foldlM_putProperty_iff {properties : List Property} :
    (∃ after, properties.foldlM (putProperty className) table = .ok after) ↔
      ∀ property ∈ properties, property.type.isSome := by
  induction properties generalizing table with
  | nil => simp
  | cons property others inductionHypothesis =>
      rw [List.forall_mem_cons, List.foldlM_cons]
      cases hasType : property.type with
      | none => simp [putProperty, hasType, Bind.bind, Except.bind]
      | some type =>
          have first : putProperty className table property =
              .ok ((table.enter className).modify className (·.put property.name type)) := by
            rw [putProperty, hasType]
          rw [first, Result.ok_bind]
          simpa using inductionHypothesis

end Listing

section Taking

variable {collector : Collector} {decl : ClassDecl}

/-- A class of a new name adds what is collected of it, behind the others. -/
theorem toList_tableAfter {table : ClassTable} (indexed : collector.table.Indexed)
    (new : decl.name ∉ collector.table.classNames)
    (taken : collector.tableAfter decl = .ok table) :
    table.Indexed ∧ table.toList =
      collector.table.toList ++ (collected? collector.groups decl).toList := by
  have entered := ClassTable.indexed_enter indexed decl.name
  have listed : (collector.table.enter decl.name).toList =
      collector.table.toList ++ [(decl.name, .empty)] := by
    rw [ClassTable.toList_enter indexed, if_neg new]
  have sameChoice : decl.properties.filter collector.chooses = chosenOf collector.groups decl := rfl
  unfold tableAfter tableFor at taken
  unfold collected?
  rw [sameChoice] at taken
  by_cases all : collector.groups.isEmpty
  · rw [if_pos all] at taken
    rw [if_pos (Or.inl all)]
    exact toList_foldlM_putProperty entered new listed taken
  · rw [if_neg all] at taken
    by_cases noneChosen : chosenOf collector.groups decl = []
    · rw [noneChosen] at taken
      obtain rfl := Except.ok.inj taken
      rw [if_neg (not_or.mpr ⟨all, not_not_intro noneChosen⟩)]
      exact ⟨indexed, (List.append_nil _).symm⟩
    · rw [← foldlM_putProperty_enter _ _ noneChosen] at taken
      rw [if_pos (Or.inr noneChosen)]
      exact toList_foldlM_putProperty entered new listed taken

theorem classNames_tableAfter {table : ClassTable} (indexed : collector.table.Indexed)
    (new : decl.name ∉ collector.table.classNames)
    (taken : collector.tableAfter decl = .ok table) {name : String}
    (member : name ∈ table.classNames) : name = decl.name ∨ name ∈ collector.table.classNames := by
  rw [ClassTable.classNames, (toList_tableAfter indexed new taken).2, List.map_append,
    List.mem_append] at member
  rcases member with known | added
  · exact Or.inr known
  · obtain ⟨entry, isEntry, rfl⟩ := List.mem_map.mp added
    exact Or.inl (name_of_collected? (Option.mem_toList.mp isEntry))

/-- Classes are taken exactly if every chosen property has a type. -/
theorem exists_takeClasses_iff {classes : List ClassDecl} :
    (∃ filled, collector.takeClasses classes = .ok filled) ↔
      ∀ decl ∈ classes, ∀ property ∈ chosenOf collector.groups decl, property.type.isSome := by
  induction classes generalizing collector with
  | nil => simp [takeClasses]
  | cons decl others inductionHypothesis =>
      rw [List.forall_mem_cons, takeClasses_cons]
      simp only [Result.bind_eq_ok_iff]
      rw [exists_comm]
      simp only [exists_and_left, inductionHypothesis, groups_takeParent, exists_and_right]
      rw [tableAfter, exists_foldlM_putProperty_iff]
      rfl

/-- Classes of new names add what is collected of each, in their order. -/
theorem toList_takeClasses {classes : List ClassDecl} {filled : Collector}
    (indexed : collector.table.Indexed)
    (new : ∀ name ∈ classes.map ClassDecl.name, name ∉ collector.table.classNames)
    (distinct : (classes.map ClassDecl.name).Nodup)
    (taken : collector.takeClasses classes = .ok filled) :
    filled.table.Indexed ∧ filled.table.toList =
      collector.table.toList ++ classes.filterMap (collected? collector.groups) := by
  induction classes generalizing collector with
  | nil =>
      obtain rfl := Except.ok.inj taken
      exact ⟨indexed, (List.append_nil _).symm⟩
  | cons decl others inductionHypothesis =>
      rw [List.map_cons, List.nodup_cons] at distinct
      rw [List.map_cons, List.forall_mem_cons] at new
      rw [takeClasses_cons] at taken
      obtain ⟨table, first, rest⟩ := Result.bind_eq_ok_iff.mp taken
      obtain ⟨tableIndexed, tableListed⟩ := toList_tableAfter indexed new.1 first
      have stillNew : ∀ name ∈ others.map ClassDecl.name, name ∉ table.classNames := by
        intro name isComing member
        rcases classNames_tableAfter indexed new.1 first member with rfl | known
        · exact distinct.1 isComing
        · exact new.2 name isComing known
      let next : Collector := { collector.takeParent decl with table }
      have nextIndexed : next.table.Indexed := tableIndexed
      have nextGroups : next.groups = collector.groups := groups_takeParent collector decl
      obtain ⟨filledIndexed, filledListed⟩ :=
        inductionHypothesis nextIndexed stillNew distinct.2 rest
      refine ⟨filledIndexed, ?_⟩
      rw [filledListed, nextGroups, tableListed, List.append_assoc, List.filterMap_cons]
      cases collected? collector.groups decl <;> rfl

end Taking

/-! ## Parents -/

theorem filterMap_notedParent?_of_not_mem {classes : List ClassDecl} {className : String}
    (absent : className ∉ classes.map ClassDecl.name) :
    (classes.map CollectorCall.takeClass).filterMap (notedParent? className) = [] := by
  rw [List.filterMap_map, List.filterMap_eq_nil_iff]
  intro decl member
  have different : decl.name ≠ className := by
    intro same
    apply absent
    rw [← same]
    exact List.mem_map_of_mem member
  exact if_neg different

section Parents

variable {classes : List ClassDecl} (distinct : (classes.map ClassDecl.name).Nodup)

include distinct

/-- Of classes with names of their own, each notes its own parent. -/
theorem lastParent?_takeClass {decl : ClassDecl} (member : decl ∈ classes) :
    lastParent? (classes.map .takeClass) decl.name = decl.parent := by
  obtain ⟨earlier, later, rfl⟩ := List.append_of_mem member
  rw [List.map_append, List.map_cons, List.nodup_middle, List.nodup_cons, List.mem_append,
    not_or] at distinct
  unfold lastParent?
  rw [List.map_append, List.map_cons, List.filterMap_append, List.filterMap_cons,
    filterMap_notedParent?_of_not_mem distinct.1.1, filterMap_notedParent?_of_not_mem distinct.1.2]
  have noted : notedParent? decl.name (.takeClass decl) = decl.parent := if_pos rfl
  rw [noted]
  cases decl.parent <;> rfl

theorem lastParent?_of_perm {order : List ClassDecl} (perm : order.Perm classes)
    (className : String) :
    lastParent? (order.map .takeClass) className =
      lastParent? (classes.map .takeClass) className := by
  have names := perm.map ClassDecl.name
  by_cases isClass : className ∈ classes.map ClassDecl.name
  · obtain ⟨decl, member, rfl⟩ := List.mem_map.mp isClass
    have orderDistinct : (order.map ClassDecl.name).Nodup := names.nodup_iff.mpr distinct
    rw [lastParent?_takeClass distinct member,
      lastParent?_takeClass orderDistinct (perm.mem_iff.mpr member)]
  · have notOrdered : className ∉ order.map ClassDecl.name := fun isOrdered =>
      isClass (names.mem_iff.mp isOrdered)
    unfold lastParent?
    rw [filterMap_notedParent?_of_not_mem isClass, filterMap_notedParent?_of_not_mem notOrdered]

end Parents

/-! ## A whole model -/

/-- The classes of a filled collector, in their order. -/
theorem toList_forGroups {groups : List String} {classes : List ClassDecl} {filled : Collector}
    (distinct : (classes.map ClassDecl.name).Nodup)
    (taken : (forGroups groups).takeClasses classes = .ok filled) :
    filled.table.Indexed ∧ filled.table.toList = classes.filterMap (collected? groups) := by
  have noneYet : ∀ name ∈ classes.map ClassDecl.name,
      name ∉ (forGroups groups).table.classNames := fun name _ member =>
    absurd member List.not_mem_nil
  exact toList_takeClasses ClassTable.indexed_empty noneYet distinct taken

theorem getElem?_parents_forGroups {groups : List String} {classes : List ClassDecl}
    {filled : Collector} (taken : (forGroups groups).takeClasses classes = .ok filled)
    (className : String) :
    filled.parents[className]? = lastParent? (classes.map .takeClass) className := by
  rw [takeClasses_eq_ok taken]
  exact getElem?_parents_afterCalls groups _ className

end Collector
end EntityGen
