import EntityGen.Proofs.Fields.Selection

/-!
Contract: models and tables whose types are changed one by one.

Owns:
- a change of types, carried to properties, classes and tables;
- that collecting and merging commute with it.

Does not own: which changes of types there are, and what becomes of types in a file.

Types are carried along: names alone decide where a field goes, and only whether a
property has a type, not which one, decides whether it is a field. So a model can be
changed before it is collected, or its tables afterwards.
-/

namespace EntityGen

open EntityGen.Model (ClassDecl DataType Property)

/-! ## Changed types -/

section Definitions

variable (change : DataType → DataType)

def Model.Property.mapType (property : Property) : Property :=
  { property with type := property.type.map change }

def Model.ClassDecl.mapTypes (decl : ClassDecl) : ClassDecl :=
  { decl with properties := decl.properties.map (·.mapType change) }

def Field.mapType (field : Field) : Field :=
  { field with type := change field.type }

def FieldTable.mapTypes (fields : FieldTable) : FieldTable :=
  ⟨fields.entries.map (·.mapType change)⟩

/-- A class of a table with the types of its fields changed. -/
def mapFields (entry : String × FieldTable) : String × FieldTable :=
  (entry.1, entry.2.mapTypes change)

def ClassTable.mapTypes (table : ClassTable) : ClassTable :=
  { table with classes := table.classes.map (mapFields change) }

def Collector.mapTypes (collector : Collector) : Collector :=
  { collector with table := collector.table.mapTypes change }

end Definitions

variable {change : DataType → DataType}

/-! ## Tables -/

theorem FieldTable.mapTypes_put (fields : FieldTable) (name : String) (type : DataType) :
    (fields.put name type).mapTypes change = (fields.mapTypes change).put name (change type) := by
  have placed := Named.map_place (fun field => (rfl : (field.mapType change).name = field.name))
    ⟨name, type⟩ fields.entries
  exact congrArg FieldTable.mk placed

theorem FieldTable.mapTypes_absorb (fields other : FieldTable) :
    (fields.absorb other).mapTypes change =
      (fields.mapTypes change).absorb (other.mapTypes change) := by
  have sameNames : (fields.mapTypes change).names = fields.names := by
    unfold names mapTypes
    rw [List.map_map]
    rfl
  have gained := Named.map_firstUses
    (fun field => (rfl : (field.mapType change).name = field.name)) fields.names other.entries
  rw [absorb_eq, absorb_eq, sameNames]
  unfold mapTypes at gained ⊢
  rw [List.map_append, gained]

namespace ClassTable

theorem toList_mapTypes (table : ClassTable) :
    (table.mapTypes change).toList = table.toList.map (mapFields change) :=
  Array.toList_map

theorem mapTypes_enter (table : ClassTable) (className : String) :
    (table.enter className).mapTypes change = (table.mapTypes change).enter className := by
  have sameNames : (table.mapTypes change).contains className = table.contains className := rfl
  unfold enter
  rw [sameNames]
  split
  · rfl
  · unfold mapTypes
    rw [Array.map_push, Array.size_map]
    rfl

private theorem map_modify {α β : Type} {view : α → β} {before : α → α} {after : β → β}
    (commutes : ∀ item, view (before item) = after (view item)) (items : Array α)
    (position : Nat) :
    (items.modify position before).map view = (items.map view).modify position after := by
  apply Array.ext_getElem?
  intro other
  simp only [Array.getElem?_map, Array.getElem?_modify]
  split
  · cases items[other]? with
    | none => rfl
    | some item => exact congrArg some (commutes item)
  · rfl

/-- Fields can be changed in one way before or after their types are in another one. -/
theorem mapTypes_modify (table : ClassTable) (className : String)
    (before after : FieldTable → FieldTable)
    (commutes : ∀ fields, (before fields).mapTypes change = after (fields.mapTypes change)) :
    (table.modify className before).mapTypes change =
      (table.mapTypes change).modify className after := by
  have samePosition : (table.mapTypes change).position? className = table.position? className :=
    rfl
  unfold modify
  rw [samePosition]
  split
  · rfl
  · next position _ =>
      have changed : (table.classes.modify position fun entry => (entry.1, before entry.2)).map
          (mapFields change) =
          (table.classes.map (mapFields change)).modify position fun entry =>
            (entry.1, after entry.2) :=
        map_modify (fun entry => congrArg (Prod.mk entry.1) (commutes entry.2)) table.classes
          position
      unfold mapTypes
      rw [changed]

end ClassTable

/-! ## Collecting -/

namespace Collector

theorem mapTypes_forGroups (groups : List String) :
    (forGroups groups).mapTypes change = forGroups groups := by
  have noClasses : Array.map (mapFields change) #[] = #[] := Array.map_empty
  rw [mapTypes, ClassTable.mapTypes]
  exact congrArg (Collector.mk groups · {}) (congrArg (ClassTable.mk · {}) noClasses)

theorem mapTypes_putProperty (className : String) (table : ClassTable) (property : Property) :
    putProperty className (table.mapTypes change) (property.mapType change) =
      (putProperty className table property).map (·.mapTypes change) := by
  unfold putProperty Property.mapType
  cases property.type with
  | none => rfl
  | some type =>
      have put := ClassTable.mapTypes_modify (table.enter className) className
        (·.put property.name type) (·.put property.name (change type))
        (fun fields => fields.mapTypes_put property.name type)
      rw [ClassTable.mapTypes_enter] at put
      exact congrArg Except.ok put.symm

theorem mapTypes_foldlM_putProperty (className : String) (properties : List Property)
    (table : ClassTable) :
    (properties.map (·.mapType change)).foldlM (putProperty className) (table.mapTypes change) =
      (properties.foldlM (putProperty className) table).map (·.mapTypes change) := by
  induction properties generalizing table with
  | nil => rfl
  | cons property others inductionHypothesis =>
      rw [List.map_cons, List.foldlM_cons, List.foldlM_cons, mapTypes_putProperty]
      cases putProperty className table property with
      | error untyped => rfl
      | ok next => exact inductionHypothesis next

theorem mapTypes_tableAfter (collector : Collector) (decl : ClassDecl) :
    (collector.mapTypes change).tableAfter (decl.mapTypes change) =
      (collector.tableAfter decl).map (·.mapTypes change) := by
  have sameChoice : (collector.mapTypes change).chooses ∘ (·.mapType change) =
      collector.chooses := rfl
  have start : (collector.mapTypes change).tableFor decl.name =
      (collector.tableFor decl.name).mapTypes change := by
    unfold tableFor
    rw [apply_ite (ClassTable.mapTypes change), ClassTable.mapTypes_enter]
    rfl
  unfold tableAfter
  rw [← mapTypes_foldlM_putProperty, ← start, ← sameChoice, ← List.filter_map]
  rfl

theorem mapTypes_takeParent (collector : Collector) (decl : ClassDecl) (table : ClassTable) :
    { (collector.mapTypes change).takeParent (decl.mapTypes change) with
        table := table.mapTypes change } =
      ({ collector.takeParent decl with table } : Collector).mapTypes change := by
  have sameParent : (decl.mapTypes change).parent = decl.parent := rfl
  unfold takeParent
  rw [sameParent]
  cases decl.parent <;> rfl

/-- A model with changed types fills a collector with changed types, or has the same
untyped field. -/
theorem mapTypes_takeClasses (collector : Collector) (classes : List ClassDecl) :
    (collector.mapTypes change).takeClasses (classes.map (·.mapTypes change)) =
      (collector.takeClasses classes).map (·.mapTypes change) := by
  induction classes generalizing collector with
  | nil => rfl
  | cons decl others inductionHypothesis =>
      rw [List.map_cons, takeClasses_cons, takeClasses_cons, mapTypes_tableAfter]
      cases collector.tableAfter decl with
      | error untyped => rfl
      | ok table =>
          show takeClasses _ _ = Except.map _ (takeClasses _ _)
          rw [mapTypes_takeParent]
          exact inductionHypothesis _

/-! ## Merging -/

theorem mapTypes_mergeChild (parents : Std.TreeMap String String) (table : ClassTable)
    (absent : List AbsentParent) (child : String × FieldTable) :
    mergeChild parents (table.mapTypes change, absent) (mapFields change child) =
      ((mergeChild parents (table, absent) child).1.mapTypes change,
        (mergeChild parents (table, absent) child).2) := by
  unfold mergeChild
  have sameName : (mapFields change child).1 = child.1 := rfl
  rw [sameName]
  cases parents[child.1]? with
  | none => rfl
  | some parent =>
      have sameNames : (table.mapTypes change).contains parent = table.contains parent := rfl
      dsimp only
      rw [sameNames]
      split
      · rfl
      · split
        · rfl
        · have absorbed := ClassTable.mapTypes_modify table parent
            (·.absorb child.2) (·.absorb (child.2.mapTypes change))
            (fun fields => fields.mapTypes_absorb child.2)
          rw [absorbed]
          rfl

theorem mapTypes_merged (collector : Collector) :
    (collector.mapTypes change).merged =
      (collector.merged.1.mapTypes change, collector.merged.2) := by
  have fromAny : ∀ (children : List (String × FieldTable)) (state : ClassTable × List AbsentParent),
      (children.map (mapFields change)).foldl (mergeChild collector.parents)
          (state.1.mapTypes change, state.2) =
        ((children.foldl (mergeChild collector.parents) state).1.mapTypes change,
          (children.foldl (mergeChild collector.parents) state).2) := by
    intro children
    induction children with
    | nil => exact fun _ => rfl
    | cons child others inductionHypothesis =>
        intro state
        rw [List.map_cons, List.foldl_cons, List.foldl_cons, mapTypes_mergeChild]
        exact inductionHypothesis _
  have children : (collector.table.mapTypes change).toList =
      collector.table.toList.map (mapFields change) := collector.table.toList_mapTypes
  unfold merged
  show List.foldl (mergeChild collector.parents) (collector.table.mapTypes change, [])
    (collector.table.mapTypes change).toList = _
  rw [children]
  exact fromAny _ (collector.table, [])

end Collector

end EntityGen
