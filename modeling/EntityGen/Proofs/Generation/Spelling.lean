import EntityGen.Proofs.Fields.Parents
import EntityGen.Proofs.Generation.Outcome
import EntityGen.Proofs.TypeScript.Spelling

/-!
Contract: runs over models whose references are respelled.

Owns:
- plans and outputs of tables with changed types;
- the merged tables of respelled models;
- which respelled models lead to the same outcome.

Does not own: what becomes of a reference in a text.

A reference in the type of a property is compared by its reduced name, so its spelling
never counts. A parent is looked up as it is written. So a respelled parent makes no
difference only if the class has nothing to give to it in either spelling.
-/

namespace EntityGen

open EntityGen.Model (ClassDecl DataType Property)

/-! ## Changed types in a plan -/

def PlannedFile.mapTypes (change : DataType → DataType) (file : PlannedFile) : PlannedFile :=
  { file with fields := file.fields.mapTypes change }

/-- The table of a group with the types of its fields changed. -/
def mapGroup (change : DataType → DataType) (entry : String × ClassTable) : String × ClassTable :=
  (entry.1, entry.2.mapTypes change)

section Plan

variable {change : DataType → DataType} {config : Config}

theorem planFrom_mapTypes (folder : FilePath) (earlier : List PlannedFile)
    (entries : List (String × FieldTable)) :
    config.planFrom folder (earlier.map (·.mapTypes change)) (entries.map (mapFields change)) =
      (config.planFrom folder earlier entries).map (·.map (·.mapTypes change)) := by
  induction entries generalizing earlier with
  | nil => rfl
  | cons entry others inductionHypothesis =>
      obtain ⟨className, fields⟩ := entry
      have sameOwner : (earlier.map (·.mapTypes change)).find?
          (·.path.sameAs (config.destinationBelow folder className)) =
          (earlier.find? (·.path.sameAs (config.destinationBelow folder className))).map
            (·.mapTypes change) := List.find?_map ..
      rw [List.map_cons, mapFields, Config.planFrom, Config.planFrom]
      simp only [sameOwner]
      cases earlier.find? (·.path.sameAs (config.destinationBelow folder className)) with
      | some owner => rfl
      | none =>
          have rest := inductionHypothesis
            (earlier ++ [⟨className, fields, config.destinationBelow folder className⟩])
          rw [List.map_append] at rest
          exact rest

variable (keepsText : ∀ className fields, TypeScript.render config.naming className
  (fields.mapTypes change) = TypeScript.render config.naming className fields)

include keepsText

/-- A change of types that no text shows has no effect on the outputs of a table. -/
theorem outputs_plan_mapTypes (folder : FilePath) (table : ClassTable) :
    (config.plan folder (table.mapTypes change)).map config.outputs =
      (config.plan folder table).map config.outputs := by
  have sameOutputs : ∀ planned : List PlannedFile,
      config.outputs (planned.map (·.mapTypes change)) = config.outputs planned := by
    intro planned
    unfold Config.outputs
    rw [List.map_map]
    apply List.map_congr_left
    intro file _
    exact congrArg (Prod.mk file.path) (keepsText file.className file.fields)
  have changed : config.planFrom folder [] (table.toList.map (mapFields change)) =
      (config.planFrom folder [] table.toList).map (·.map (·.mapTypes change)) :=
    planFrom_mapTypes folder [] table.toList
  rw [Config.plan, ClassTable.toList_mapTypes, changed, Config.plan]
  cases config.planFrom folder [] table.toList with
  | error cause => rfl
  | ok planned => exact congrArg Except.ok (sameOutputs planned)

theorem outputs_planGroups_mapTypes (tables : List (String × ClassTable)) :
    (config.planGroups (tables.map (mapGroup change))).map config.outputs =
      (config.planGroups tables).map config.outputs := by
  rw [outputs_planGroups, outputs_planGroups, List.mapM_map]
  congr 2
  funext entry
  exact @outputs_plan_mapTypes change (config.forGroup entry.1) keepsText _ entry.2

end Plan

/-! ## Merged tables -/

theorem mergedTable_mapTypes (change : DataType → DataType) (config : Config)
    (classes : List ClassDecl) :
    config.mergedTable (classes.map (·.mapTypes change)) =
      (config.mergedTable classes).map (·.mapTypes change) := by
  have taken := @Collector.mapTypes_takeClasses change (.forGroups config.groups) classes
  rw [Collector.mapTypes_forGroups] at taken
  unfold Config.mergedTable collectFields
  rw [taken]
  cases (Collector.forGroups config.groups).takeClasses classes with
  | error untyped => rfl
  | ok collector => exact congrArg (Except.ok ·.1) collector.mapTypes_merged

theorem mergedTable_alike (config : Config) {classes others : List ClassDecl}
    (same : List.Forall₂ (ClassDecl.Alike (classes.map ClassDecl.name)) classes others) :
    config.mergedTable classes = config.mergedTable others := by
  have wrapped : ∀ taken : Except UntypedField Collector,
      (taken.mapError GenerationError.ofUntypedField).map (·.merged.1) =
        (taken.map (·.merged.1)).mapError GenerationError.ofUntypedField := by
    intro taken
    cases taken <;> rfl
  unfold Config.mergedTable collectFields
  rw [wrapped, wrapped, Collector.merged_forGroups_alike same config.groups]

/-! ## Respelled models -/

/-- Both forms of a class have the same parent, or parents to which it gives nothing. -/
def Model.ClassDecl.KeepsParent (declared : List String) (written respelled : ClassDecl) : Prop :=
  Option.Rel (SameParent declared respelled.name) written.parent respelled.parent

/-- A model against one in which separators were added to references, but to no parent
that takes over fields with them or without them. -/
def RespelledModel (classes respelled : List ClassDecl) : Prop :=
  List.Forall₂ (fun decl other => decl.Respelled other ∧
    decl.KeepsParent (classes.map ClassDecl.name) other) classes respelled

namespace RespelledModel

variable {classes respelled : List ClassDecl}

theorem groupsOfClasses_eq (same : RespelledModel classes respelled) :
    groupsOfClasses classes = groupsOfClasses respelled := by
  have ofModels := List.rel_flatMap same fun _ _ sameDecl =>
    List.rel_flatMap sameDecl.1.properties fun _ _ sameProperty =>
      List.forall₂_eq_eq_eq ▸ sameProperty.groups
  rwa [List.forall₂_eq_eq_eq] at ofModels

/-- The merged tables differ only in the spelling of references. -/
theorem mergedTable_trimmed (same : RespelledModel classes respelled) (config : Config) :
    (config.mergedTable classes).map (·.mapTypes DataType.trimmed) =
      (config.mergedTable respelled).map (·.mapTypes DataType.trimmed) := by
  rw [← mergedTable_mapTypes, ← mergedTable_mapTypes]
  apply mergedTable_alike
  rw [List.forall₂_map_left_iff, List.forall₂_map_right_iff, List.map_map]
  exact same.imp fun decl other both =>
    { name := both.1.name
      properties := both.1.properties_eq
      parent := both.2 }

theorem mergedTables_trimmed (same : RespelledModel classes respelled) (config : Config) :
    (config.mergedTables classes).map (·.map (mapGroup DataType.trimmed)) =
      (config.mergedTables respelled).map (·.map (mapGroup DataType.trimmed)) := by
  have sameGroups : config.chosenGroups classes = config.chosenGroups respelled := by
    rw [Config.chosenGroups, Config.chosenGroups, same.groupsOfClasses_eq]
  have ofGroup : ∀ group,
      (((config.forGroup group).mergedTable classes).map (group, ·)).map
          (mapGroup DataType.trimmed) =
        (((config.forGroup group).mergedTable respelled).map (group, ·)).map
          (mapGroup DataType.trimmed) := by
    intro group
    have merged := congrArg (Except.map (group, ·))
      (same.mergedTable_trimmed (config.forGroup group))
    rw [Result.map_map, Result.map_map] at merged ⊢
    exact merged
  rw [mergedTables_eq_mapM, mergedTables_eq_mapM, Result.map_mapM, Result.map_mapM, sameGroups]
  simp only [ofGroup]

theorem plannedOutputs_eq (same : RespelledModel classes respelled) (config : Config)
    (tree : FileTree) :
    config.plannedOutputs (.given respelled) tree = config.plannedOutputs (.given classes) tree := by
  have keepsText := TypeScript.render_mapTypes_trimmed config.naming
  unfold Config.plannedOutputs Config.plannedFiles
  cases config.groupLayout with
  | together =>
      show (config.mergedTable respelled >>= _).map _ = (config.mergedTable classes >>= _).map _
      rw [Result.map_bind, Result.map_bind]
      apply Result.bind_eq_of_map_eq (same.mergedTable_trimmed config).symm
      intro left right sameTable
      rw [← outputs_plan_mapTypes keepsText, sameTable, outputs_plan_mapTypes keepsText]
  | apart =>
      show (config.mergedTables respelled >>= _).map _ = (config.mergedTables classes >>= _).map _
      rw [Result.map_bind, Result.map_bind]
      apply Result.bind_eq_of_map_eq (same.mergedTables_trimmed config).symm
      intro left right sameTables
      rw [← outputs_planGroups_mapTypes keepsText, sameTables,
        outputs_planGroups_mapTypes keepsText]

end RespelledModel

/-- **When the spelling of references changes nothing.** Separators can be added at the
start of any class to which a property refers, and of any parent that is neither with
them nor without them another declared class. Then a run has the same outcome, for every
configuration and every session: the same report or the same cause of failure, and the
same files with the same texts. -/
theorem Config.run_respelled (config : Config) {classes respelled : List ClassDecl}
    (same : RespelledModel classes respelled) (session : Session) :
    (config.run (.given respelled) session).outcome =
      (config.run (.given classes) session).outcome :=
  outcome_run_congr (same.plannedOutputs_eq config session.tree)

private def plainConfig : Config :=
  { outputFolder := .ofString "out"
    naming := {}
    groups := []
    groupLayout := .together }

private def person (parent : String) : ClassDecl := { name := "Person", parent := some parent }

private def order (buyer : String) : ClassDecl :=
  { name := "Shop\\Order"
    parent := some "Person"
    properties := [⟨"buyer", some { element := .object buyer }, []⟩] }

private def shopModel : List ClassDecl := [person "Base", order "Person"]

private def respelledShop : List ClassDecl := [person "\\Base", order "\\\\Person"]

/-- Separators are added to a parent that is not in the model, and to a class that is. -/
theorem shop_respelled :
    RespelledModel shopModel respelledShop ∧
      (plainConfig.run (.given respelledShop) {}).outcome =
        (plainConfig.run (.given shopModel) {}).outcome ∧
      (plainConfig.run (.given respelledShop) {}).2.tree.files ["out", "shop", "order.ts"] =
        some (.text ("import \x7b Person \x7d from '../person';\n\n" ++
          "export class Order \x7b\n  public buyer: Person;\n\x7d\n")) := by
  have baseAdded : Respelled "Base" "\\Base" := ⟨1, by decide⟩
  have buyerAdded : Respelled "Person" "\\\\Person" := ⟨2, by decide⟩
  have samePerson : (person "Base").Respelled (person "\\Base") := ⟨rfl, .some baseAdded, .nil⟩
  have sameOrder : (order "Person").Respelled (order "\\\\Person") :=
    ⟨rfl, .some ⟨0, rfl⟩, .cons ⟨rfl, .some ⟨.object buyerAdded, rfl, rfl⟩, rfl⟩ .nil⟩
  have idle : SameParent (shopModel.map ClassDecl.name) "Person" "Base" "\\Base" :=
    .inr ⟨.inl (by decide), .inl (by decide)⟩
  have same : RespelledModel shopModel respelledShop :=
    .cons ⟨samePerson, .some idle⟩ (.cons ⟨sameOrder, .some (.inl rfl)⟩ .nil)
  exact ⟨same, plainConfig.run_respelled same {}, by decide +kernel⟩

private def dog (parent : String) : ClassDecl :=
  { name := "Dog"
    parent := some parent
    properties := [⟨"good", some { element := .scalar "bool" }, []⟩] }

private def animals (parent : String) : List ClassDecl := [{ name := "Animal" }, dog parent]

/-- With a separator added to the parent of a class, the file of the parent lacks the fields
of the class, and the run ends just as well. -/
theorem respelled_parent_lacks_fields :
    List.Forall₂ ClassDecl.Respelled (animals "Animal") (animals "\\Animal") ∧
      (plainConfig.run (.given (animals "Animal")) {}).2.tree.files ["out", "animal.ts"] =
        some (.text "export class Animal \x7b\n  public good: boolean;\n\x7d\n") ∧
      (plainConfig.run (.given (animals "\\Animal")) {}).2.tree.files ["out", "animal.ts"] =
        some (.text "export class Animal \x7b\n\x7d\n") ∧
      (plainConfig.run (.given (animals "\\Animal")) {}).outcome ≠
        (plainConfig.run (.given (animals "Animal")) {}).outcome := by
  have animalAdded : Respelled "Animal" "\\Animal" := ⟨1, by decide⟩
  have plain : (plainConfig.run (.given (animals "Animal")) {}).2.tree.files ["out", "animal.ts"] =
      some (.text "export class Animal \x7b\n  public good: boolean;\n\x7d\n") := by
    decide +kernel
  have lacking : (plainConfig.run (.given (animals "\\Animal")) {}).2.tree.files
      ["out", "animal.ts"] = some (.text "export class Animal \x7b\n\x7d\n") := by
    decide +kernel
  have sameDog : (dog "Animal").Respelled (dog "\\Animal") :=
    ⟨rfl, .some animalAdded, .cons ⟨rfl, .some ⟨.scalar "bool", rfl, rfl⟩, rfl⟩ .nil⟩
  refine ⟨.cons ⟨rfl, .none, .nil⟩ (.cons sameDog .nil), plain, lacking, fun same => ?_⟩
  have sameTree : (plainConfig.run (.given (animals "\\Animal")) {}).2.tree =
      (plainConfig.run (.given (animals "Animal")) {}).2.tree :=
    congrArg (fun outcome => outcome.2.2) same
  rw [sameTree, plain] at lacking
  exact absurd lacking (by decide)

end EntityGen
