import EntityGen.Proofs.Fields.Merge
import EntityGen.Proofs.Result

/-!
Contract: choosing properties by group against deleting the others from the model.

Owns:
- `classesInGroups`, the part of a model that carries given groups;
- collecting classes as one fold over a table, in which a field without a type
  is the only way to fail;
- the agreement of a collector that chooses with one that takes that part.

Does not own: what the merge does with the collected fields.

The two collectors note different parents: the choosing one also notes those of
classes that never enter its table. The merge looks up parents of classes in the
table only, so the agreement is kept for these and for the classes to come.
-/

namespace EntityGen

open EntityGen.Model (ClassDecl Property)

/-- A class with those of its properties that carry one of the groups. -/
def Model.ClassDecl.inGroups (decl : ClassDecl) (groups : List String) : ClassDecl :=
  { decl with properties := decl.properties.filter (·.carriesAny groups) }

/-- A model without the properties that carry none of the groups, and then without
the classes that have no property left. -/
def classesInGroups (groups : List String) (classes : List ClassDecl) : List ClassDecl :=
  (classes.map (·.inGroups groups)).filter (!·.properties.isEmpty)

namespace ClassTable

theorem contains_enter_self (table : ClassTable) (className : String) :
    (table.enter className).contains className = true := by
  unfold enter
  split
  · assumption
  · exact Std.TreeMap.contains_insert_self

theorem enter_enter (table : ClassTable) (className : String) :
    (table.enter className).enter className = table.enter className := by
  have present := contains_enter_self table className
  generalize table.enter className = entered at present ⊢
  rw [enter, if_pos present]

theorem mem_classNames_enter {table : ClassTable} (indexed : table.Indexed)
    {className name : String} :
    name ∈ (table.enter className).classNames ↔ name = className ∨ name ∈ table.classNames := by
  unfold classNames
  rw [toList_enter indexed]
  split
  · next present =>
      refine ⟨Or.inr, ?_⟩
      rintro (rfl | member)
      · exact present
      · exact member
  · simp [or_comm]

theorem classNames_modify {table : ClassTable} (indexed : table.Indexed) (className : String)
    (change : FieldTable → FieldTable) :
    (table.modify className change).classNames = table.classNames := by
  unfold classNames
  rw [toList_modify indexed, List.map_map]
  exact List.map_congr_left fun entry _ => changeOne_fst className change entry

end ClassTable

namespace Collector

/-! ## Collecting as a fold -/

/-- The table with the field of a property put into a class. -/
def putProperty (className : String) (table : ClassTable) (property : Property) :
    Except UntypedField ClassTable :=
  match property.type with
  | none => .error ⟨className, property.name⟩
  | some type => .ok ((table.enter className).modify className (·.put property.name type))

/-- The chosen properties of a class are put into its table, and nothing else of a
collector changes. -/
theorem takeProperties_of_ok {collector : Collector} {className : String}
    {properties : List Property} {table : ClassTable}
    (put : (properties.filter collector.chooses).foldlM (putProperty className) collector.table =
      .ok table) :
    collector.takeProperties className properties = (.ok (), { collector with table }) := by
  induction properties generalizing collector with
  | nil =>
      obtain rfl := Except.ok.inj put
      rfl
  | cons property others inductionHypothesis =>
      unfold takeProperties
      cases isChosen : collector.chooses property with
      | false =>
          rw [List.filter_cons_of_neg (by simp [isChosen])] at put
          exact inductionHypothesis put
      | true =>
          rw [List.filter_cons_of_pos isChosen, List.foldlM_cons] at put
          obtain ⟨next, first, rest⟩ := Result.bind_eq_ok_iff.mp put
          unfold putProperty at first
          cases hasType : property.type with
          | none => simp [hasType] at first
          | some type =>
              simp only [hasType, Except.ok.injEq] at first
              subst next
              exact @inductionHypothesis { collector with table := _ } rest

theorem takeProperties_of_error {collector : Collector} {className : String}
    {properties : List Property} {untyped : UntypedField}
    (put : (properties.filter collector.chooses).foldlM (putProperty className) collector.table =
      .error untyped) :
    (collector.takeProperties className properties).1 = .error untyped := by
  induction properties generalizing collector with
  | nil => cases put
  | cons property others inductionHypothesis =>
      unfold takeProperties
      cases isChosen : collector.chooses property with
      | false =>
          rw [List.filter_cons_of_neg (by simp [isChosen])] at put
          exact inductionHypothesis put
      | true =>
          rw [List.filter_cons_of_pos isChosen, List.foldlM_cons] at put
          unfold takeField
          cases hasType : property.type with
          | none =>
              simp only [putProperty, hasType] at put
              have same : UntypedField.mk className property.name = untyped := Except.error.inj put
              rw [if_pos rfl, ← same]
          | some type =>
              simp only [putProperty, hasType] at put
              rw [if_pos rfl]
              exact @inductionHypothesis { collector with table := _ } put

/-- The table from which the properties of a class are taken. -/
def tableFor (collector : Collector) (className : String) : ClassTable :=
  if collector.groups.isEmpty then collector.table.enter className else collector.table

/-- The table of a collector after a class, or the first chosen property without a
type. -/
def tableAfter (collector : Collector) (decl : ClassDecl) : Except UntypedField ClassTable :=
  (decl.properties.filter collector.chooses).foldlM (putProperty decl.name)
    (collector.tableFor decl.name)

@[simp] theorem groups_takeParent (collector : Collector) (decl : ClassDecl) :
    (collector.takeParent decl).groups = collector.groups := by
  unfold takeParent
  split <;> rfl

@[simp] theorem table_takeParent (collector : Collector) (decl : ClassDecl) :
    (collector.takeParent decl).table = collector.table := by
  unfold takeParent
  split <;> rfl

theorem takeName_eq (collector : Collector) (decl : ClassDecl) :
    collector.takeName decl = { collector with table := collector.tableFor decl.name } := by
  unfold takeName tableFor
  split <;> rfl

/-- Taking a class notes its parent and replaces the table. -/
theorem takeClasses_cons (collector : Collector) (decl : ClassDecl) (others : List ClassDecl) :
    collector.takeClasses (decl :: others) =
      collector.tableAfter decl >>= fun table =>
        ({ collector.takeParent decl with table }).takeClasses others := by
  have sameChoice : ((collector.takeParent decl).takeName decl).chooses = collector.chooses := by
    funext property
    rw [takeName_eq, chooses, groups_takeParent, chooses]
  have sameTable :
      ((collector.takeParent decl).takeName decl).table = collector.tableFor decl.name := by
    simp only [takeName_eq, tableFor, groups_takeParent, table_takeParent]
  rw [takeClasses, takeClass, tableAfter, ← sameChoice, ← sameTable]
  cases put : (decl.properties.filter _).foldlM (putProperty decl.name)
      ((collector.takeParent decl).takeName decl).table with
  | error untyped =>
      have failed := takeProperties_of_error put
      generalize ((collector.takeParent decl).takeName decl).takeProperties decl.name
        decl.properties = outcome at failed
      obtain ⟨result, stopped⟩ := outcome
      subst failed
      rfl
  | ok table =>
      rw [takeProperties_of_ok put, takeName_eq]
      rfl

/-! ## Choosing and deleting -/

theorem foldlM_putProperty_enter (className : String) (table : ClassTable)
    {properties : List Property} (nonempty : properties ≠ []) :
    properties.foldlM (putProperty className) (table.enter className) =
      properties.foldlM (putProperty className) table := by
  obtain ⟨first, others, rfl⟩ := List.exists_cons_of_ne_nil nonempty
  rw [List.foldlM_cons, List.foldlM_cons]
  unfold putProperty
  rw [ClassTable.enter_enter]

/-- What is known of a table after properties of one class were put into it. -/
structure Extends (before after : ClassTable) (className : String) : Prop where
  indexed : after.Indexed
  names : ∀ name ∈ after.classNames, name = className ∨ name ∈ before.classNames

theorem extends_foldlM_putProperty {className : String} {properties : List Property}
    {before after : ClassTable} (indexed : before.Indexed)
    (put : properties.foldlM (putProperty className) before = .ok after) :
    Extends before after className := by
  induction properties generalizing before with
  | nil =>
      obtain rfl := Except.ok.inj put
      exact ⟨indexed, fun _ => Or.inr⟩
  | cons property others inductionHypothesis =>
      rw [List.foldlM_cons] at put
      obtain ⟨next, first, rest⟩ := Result.bind_eq_ok_iff.mp put
      unfold putProperty at first
      split at first
      · cases first
      · next type _ =>
          have entered := ClassTable.indexed_enter indexed className
          obtain rfl := Except.ok.inj first
          have later := inductionHypothesis
            (ClassTable.indexed_modify entered className _) rest
          refine ⟨later.indexed, fun name member => ?_⟩
          rcases later.names name member with isClass | known
          · exact Or.inl isClass
          · rw [ClassTable.classNames_modify entered,
              ClassTable.mem_classNames_enter indexed] at known
            exact known

theorem extends_tableAfter {collector : Collector} {decl : ClassDecl} {after : ClassTable}
    (indexed : collector.table.Indexed) (taken : collector.tableAfter decl = .ok after) :
    Extends collector.table after decl.name := by
  unfold tableAfter tableFor at taken
  split at taken
  · have extended := extends_foldlM_putProperty (ClassTable.indexed_enter indexed decl.name) taken
    refine ⟨extended.indexed, fun name member => ?_⟩
    rcases extended.names name member with isClass | entered
    · exact Or.inl isClass
    · exact (ClassTable.mem_classNames_enter indexed).mp entered
  · exact extends_foldlM_putProperty indexed taken

/-- Every class in the table of a collector was there before, or was taken. -/
theorem mem_classNames_takeClasses {collector filled : Collector} {classes : List ClassDecl}
    (indexed : collector.table.Indexed) (taken : collector.takeClasses classes = .ok filled) :
    filled.table.Indexed ∧ ∀ name ∈ filled.table.classNames,
      name ∈ collector.table.classNames ∨ name ∈ classes.map ClassDecl.name := by
  induction classes generalizing collector with
  | nil =>
      obtain rfl := Except.ok.inj taken
      exact ⟨indexed, fun _ => Or.inl⟩
  | cons decl others inductionHypothesis =>
      rw [takeClasses_cons] at taken
      obtain ⟨table, tableTaken, taken⟩ := Result.bind_eq_ok_iff.mp taken
      have extended := extends_tableAfter indexed tableTaken
      obtain ⟨filledIndexed, known⟩ := inductionHypothesis extended.indexed taken
      refine ⟨filledIndexed, fun name member => ?_⟩
      rcases known name member with inTable | isOther
      · rcases extended.names name inTable with rfl | before
        · exact Or.inr (List.mem_cons_self ..)
        · exact Or.inl before
      · exact Or.inr (List.mem_cons_of_mem _ isOther)

/-- A collector that chooses by groups and one that takes everything, with the same
classes in their tables. `coming` are the names of classes still to be taken. -/
structure Agree (groups : List String) (coming : List String) (choosing plain : Collector) :
    Prop where
  choosingGroups : choosing.groups = groups
  plainGroups : plain.groups = []
  sameTable : choosing.table = plain.table
  indexed : plain.table.Indexed
  fresh : ∀ name ∈ coming, name ∉ plain.table.classNames
  sameParents : ∀ name, name ∈ plain.table.classNames ∨ name ∈ coming →
    choosing.parents[name]? = plain.parents[name]?

namespace Agree

variable {groups coming : List String} {choosing plain : Collector}

/-- The merge sees no difference. -/
theorem merged_eq (agree : Agree groups coming choosing plain) :
    choosing.merged = plain.merged := by
  unfold merged
  rw [agree.sameTable]
  apply List.foldl_ext
  intro state child isChild
  unfold mergeChild
  rw [agree.sameParents child.1 (Or.inl (List.mem_map_of_mem isChild))]

theorem tableAfter_choosing (agree : Agree groups coming choosing plain)
    (chosen : groups ≠ []) (decl : ClassDecl) :
    choosing.tableAfter decl =
      (decl.inGroups groups).properties.foldlM (putProperty decl.name) plain.table := by
  have choice : choosing.chooses = (·.carriesAny groups) := by
    funext property
    simp [chooses, agree.choosingGroups, chosen]
  have start : choosing.tableFor decl.name = plain.table := by
    simp [tableFor, agree.choosingGroups, chosen, agree.sameTable]
  rw [tableAfter, choice, start]
  rfl

theorem tableAfter_plain (agree : Agree groups coming choosing plain) {decl : ClassDecl}
    (nonempty : decl.properties ≠ []) :
    plain.tableAfter decl = decl.properties.foldlM (putProperty decl.name) plain.table := by
  have choice : plain.chooses = fun _ => true := by
    funext property
    simp [chooses, agree.plainGroups]
  have start : plain.tableFor decl.name = plain.table.enter decl.name := by
    simp [tableFor, agree.plainGroups]
  rw [tableAfter, choice, start, List.filter_true, foldlM_putProperty_enter decl.name _ nonempty]

/-- A class without chosen properties only has its parent noted. -/
theorem skip {decl : ClassDecl} (agree : Agree groups (decl.name :: coming) choosing plain)
    (new : decl.name ∉ coming) :
    Agree groups coming { choosing.takeParent decl with table := plain.table } plain where
  choosingGroups := (groups_takeParent choosing decl).trans agree.choosingGroups
  plainGroups := agree.plainGroups
  sameTable := rfl
  indexed := agree.indexed
  fresh := fun name isComing => agree.fresh name (List.mem_cons_of_mem _ isComing)
  sameParents := by
    intro name known
    have other : decl.name ≠ name := by
      rintro rfl
      exact known.elim (agree.fresh decl.name (List.mem_cons_self ..)) new
    rw [getElem?_parents_takeParent, if_neg other, Option.none_or]
    exact agree.sameParents name (known.imp_right (List.mem_cons_of_mem _))

/-- A class that both collectors take leaves them with the same table. -/
theorem take {decl : ClassDecl} (agree : Agree groups (decl.name :: coming) choosing plain)
    (new : decl.name ∉ coming) {table : ClassTable}
    (extended : Extends plain.table table decl.name) :
    Agree groups coming { choosing.takeParent decl with table }
      { plain.takeParent (decl.inGroups groups) with table } where
  choosingGroups := (groups_takeParent choosing decl).trans agree.choosingGroups
  plainGroups := (groups_takeParent plain _).trans agree.plainGroups
  sameTable := rfl
  indexed := extended.indexed
  fresh := by
    intro name isComing member
    rcases extended.names name member with rfl | known
    · exact new isComing
    · exact agree.fresh name (List.mem_cons_of_mem _ isComing) known
  sameParents := by
    intro name known
    have before : name ∈ plain.table.classNames ∨ name ∈ decl.name :: coming := by
      rcases known with member | isComing
      · rcases extended.names name member with rfl | isOld
        · exact Or.inr (List.mem_cons_self ..)
        · exact Or.inl isOld
      · exact Or.inr (List.mem_cons_of_mem _ isComing)
    rw [getElem?_parents_takeParent, getElem?_parents_takeParent, agree.sameParents name before]
    rfl

end Agree

/-- Agreeing collectors take the rest of a model and its part with the same
outcome. -/
theorem takeClasses_classesInGroups {groups : List String} (chosen : groups ≠ [])
    {classes : List ClassDecl} (distinct : (classes.map ClassDecl.name).Nodup)
    {choosing plain : Collector}
    (agree : Agree groups (classes.map ClassDecl.name) choosing plain) :
    (choosing.takeClasses classes).map merged =
      (plain.takeClasses (classesInGroups groups classes)).map merged := by
  induction classes generalizing choosing plain with
  | nil => exact congrArg Except.ok agree.merged_eq
  | cons decl others inductionHypothesis =>
      rw [List.map_cons, List.nodup_cons] at distinct
      obtain ⟨new, othersDistinct⟩ := distinct
      unfold classesInGroups at inductionHypothesis ⊢
      rw [takeClasses_cons, agree.tableAfter_choosing chosen, List.map_cons]
      by_cases left : (decl.inGroups groups).properties = []
      · rw [left, List.filter_cons_of_neg (by simp [left])]
        exact inductionHypothesis othersDistinct (agree.skip new)
      · rw [List.filter_cons_of_pos (by simpa using left), takeClasses_cons,
          agree.tableAfter_plain left]
        change _ = (List.foldlM (putProperty decl.name) _ _ >>= _).map merged
        cases put : (decl.inGroups groups).properties.foldlM (putProperty decl.name)
            plain.table with
        | error untyped => rfl
        | ok table =>
            have extended := extends_foldlM_putProperty agree.indexed put
            exact inductionHypothesis othersDistinct (agree.take new extended)

/-- **Choosing by groups is deleting the rest.** For classes with names of their
own, collecting by groups and merging has the same outcome as collecting without
groups from the part of the model that carries them: the same table with the same
absent parents, or the same property without a type. -/
theorem merged_classesInGroups {groups : List String} (chosen : groups ≠ [])
    {classes : List ClassDecl} (distinct : (classes.map ClassDecl.name).Nodup) :
    ((forGroups groups).takeClasses classes).map merged =
      ((forGroups []).takeClasses (classesInGroups groups classes)).map merged := by
  apply takeClasses_classesInGroups chosen distinct
  exact {
    choosingGroups := rfl
    plainGroups := rfl
    sameTable := rfl
    indexed := ClassTable.indexed_empty
    fresh := fun name _ member => absurd member List.not_mem_nil
    sameParents := fun name _ => rfl }

private def orderModel : List ClassDecl := [
  { name := "Order", parent := some "Document", properties := [
    { name := "id", type := some { element := .scalar "int" }, groups := ["read"] },
    { name := "note", type := some { element := .scalar "string" }, groups := ["write"] }] },
  { name := "Log", parent := some "Order", properties := [{ name := "line" }] },
  { name := "Document", properties := [
    { name := "title", type := some { element := .scalar "string" },
      groups := ["read", "write"] }] }]

/-- Of three classes, the two with a property to be read make up the table, and the
parent among them takes over a field. -/
theorem merged_orderModel :
    ["read"] ≠ [] ∧ (orderModel.map ClassDecl.name).Nodup ∧
      ((forGroups ["read"]).takeClasses orderModel).map merged =
        ((forGroups []).takeClasses (classesInGroups ["read"] orderModel)).map merged ∧
      ((forGroups ["read"]).takeClasses orderModel).map (·.merged.1.toList) = .ok [
        ("Order", ⟨[⟨"id", { element := .scalar "int" }⟩]⟩),
        ("Document", ⟨[⟨"title", { element := .scalar "string" }⟩,
          ⟨"id", { element := .scalar "int" }⟩]⟩)] := by
  have distinct : (orderModel.map ClassDecl.name).Nodup := by decide
  exact ⟨by decide, distinct, merged_classesInGroups (by decide) distinct, by decide +kernel⟩

end Collector
end EntityGen
