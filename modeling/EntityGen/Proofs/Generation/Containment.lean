import EntityGen.Proofs.Fields.Selection
import EntityGen.Proofs.Generation.Again
import EntityGen.Proofs.Generation.Group
import EntityGen.Proofs.Generation.Plan
import EntityGen.Proofs.Naming.Confined

/-!
Contract: which files of a run lie below the folder that they are meant for.

Owns:
- destinations below any folder, for any class name;
- the folders of groups, for any tag;
- the paths in the report of a run, class by class.

Does not own: paths as such, and whether two files share one.

Neither a class name nor a tag is checked before it becomes part of a path. So most of
them lead to a file below the output folder, and the laws here say exactly which ones do
not.
-/

namespace EntityGen

open EntityGen.Model (ClassDecl)

/-- A tag with nothing behind its first slash that would be a step of a path. -/
def FlatTag (group : String) : Prop :=
  ∀ piece ∈ (FilePath.ofString group).pieces.tail, piece = "" ∨ piece = "."

instance (group : String) : Decidable (FlatTag group) := by
  unfold FlatTag
  infer_instance

namespace Config

variable {config : Config}

/-! ## Destinations -/

theorem forall_liesBelow_destinationBelow_iff (config : Config) (className : String) :
    (∀ folder : FilePath, folder.LiesBelow (config.destinationBelow folder className)) ↔
      config.naming.Confined className := by
  have written : (config.naming.file className).pieces ≠ [] := FilePath.pieces_ofParts_ne_nil _
  have long : 2 ≤ TypeScript.fileExtension.length := by decide
  rw [← NamingPolicy.inward_file_iff, ← FilePath.forall_liesBelow_join_iff written]
  exact forall_congr' fun folder => FilePath.liesBelow_withExtension_iff long

/-! ## Folders of groups -/

/-- The folder of a group is a child of the output folder exactly if its tag is flat. -/
theorem isChildOf_groupFolder_iff (config : Config) (group : String) :
    config.outputFolder.IsChildOf (config.groupFolder group) ↔ FlatTag group := by
  have starts : (groupFolderStart ++ group).toList = 'w' :: 's' :: '_' :: group.toList := by
    rw [String.toList_append]
    rfl
  obtain ⟨first, others, cut⟩ :=
    List.exists_cons_of_ne_nil (Text.pieces_ne_nil '/' group.toList)
  have isName : FilePath.IsName (String.ofList ('w' :: 's' :: '_' :: first)) :=
    FilePath.isName_of_head String.toList_ofList (by decide)
  have written : FilePath.ofString (groupFolderStart ++ group) =
      ⟨String.ofList ('w' :: 's' :: '_' :: first) :: others.map String.ofList⟩ := by
    simp [FilePath.ofString, starts, Text.pieces, cut]
  have behind : (FilePath.ofString group).pieces.tail = others.map String.ofList := by
    simp [FilePath.ofString, cut]
  rw [groupFolder, written, FilePath.isChildOf_join_name_iff _ isName, FlatTag, behind]

/-! ## Paths of a report -/

/-- The folders below which a run puts its files: the output folder, or the folder of each
chosen group. -/
def foldersFor (config : Config) (classes : List ClassDecl) : List FilePath :=
  match config.groupLayout with
  | .together => [config.outputFolder]
  | .apart => (config.chosenGroups classes).map config.groupFolder

theorem exists_class_of_mergedTable {classes : List ClassDecl} {table : ClassTable}
    (merged : config.mergedTable classes = .ok table) {entry : String × FieldTable}
    (member : entry ∈ table.toList) : ∃ decl ∈ classes, decl.name = entry.1 := by
  obtain ⟨collector, collected, rfl⟩ := Result.map_eq_ok_iff.mp merged
  obtain ⟨indexed, known⟩ := Collector.mem_classNames_takeClasses ClassTable.indexed_empty
    (Result.mapError_eq_ok_iff.mp collected)
  rw [Collector.toList_merged indexed] at member
  obtain ⟨own, isOwn, rfl⟩ := List.mem_map.mp member
  rcases known own.1 (List.mem_map_of_mem isOwn) with atStart | taken
  · exact absurd atStart List.not_mem_nil
  · exact List.mem_map.mp taken

theorem exists_destination_of_plannedFiles {source : ModelSource} {tree : FileTree}
    {planned : List PlannedFile} (isPlanned : config.plannedFiles source tree = .ok planned) :
    ∃ classes, source.read tree = .ok classes ∧ ∀ file ∈ planned,
      ∃ decl ∈ classes, ∃ folder ∈ config.foldersFor classes,
        file.path = config.destinationBelow folder decl.name := by
  unfold plannedFiles at isPlanned
  unfold foldersFor
  cases layout : config.groupLayout with
  | together =>
      rw [layout] at isPlanned
      obtain ⟨table, read, isPlan⟩ := Result.bind_eq_ok_iff.mp isPlanned
      obtain ⟨classes, classesRead, merged⟩ := Result.bind_eq_ok_iff.mp read
      obtain ⟨rfl, -⟩ := plan_eq_ok_iff.mp isPlan
      refine ⟨classes, classesRead, fun file member => ?_⟩
      obtain ⟨entry, isEntry, rfl⟩ := List.mem_map.mp member
      obtain ⟨decl, isDecl, named⟩ := exists_class_of_mergedTable merged isEntry
      exact ⟨decl, isDecl, config.outputFolder, List.mem_cons_self .., by rw [named]; rfl⟩
  | apart =>
      rw [layout] at isPlanned
      obtain ⟨tables, read, isPlan⟩ := Result.bind_eq_ok_iff.mp isPlanned
      obtain ⟨classes, classesRead, merged⟩ := Result.bind_eq_ok_iff.mp read
      obtain ⟨rfl, -⟩ := planGroups_eq_ok_iff.mp isPlan
      rw [mergedTables_eq_mapM] at merged
      refine ⟨classes, classesRead, fun file member => ?_⟩
      obtain ⟨ofGroup, isTable, inGroup⟩ := List.mem_flatMap.mp member
      obtain ⟨entry, isEntry, rfl⟩ := List.mem_map.mp inGroup
      obtain ⟨group, isChosen, mergedGroup⟩ := Result.exists_of_mem_mapM merged isTable
      obtain ⟨table, mergedTable, rfl⟩ := Result.map_eq_ok_iff.mp mergedGroup
      obtain ⟨decl, isDecl, named⟩ := exists_class_of_mergedTable mergedTable isEntry
      exact ⟨decl, isDecl, _, List.mem_map_of_mem isChosen, by rw [named]; rfl⟩

/-- **Which files stay below their folder.** The destination of a class lies below
whatever folder it is put into exactly if the class is confined, and the folder of a group
is a child of the output folder exactly if its tag is flat. Each path in the report of a
run that ends well is the destination of a class of the model below the output folder, or
below the folder of a chosen group; so it lies below this folder if the class is
confined. -/
theorem run_stays_below (config : Config) :
    (∀ className,
      (∀ folder : FilePath, folder.LiesBelow (config.destinationBelow folder className)) ↔
        config.naming.Confined className) ∧
    (∀ group, config.outputFolder.IsChildOf (config.groupFolder group) ↔ FlatTag group) ∧
    ∀ source session report after, config.run source session = (.ok report, after) →
      ∃ classes, source.read session.tree = .ok classes ∧ ∀ path ∈ report.files,
        ∃ decl ∈ classes, ∃ folder ∈ config.foldersFor classes,
          path = config.destinationBelow folder decl.name ∧
            (config.naming.Confined decl.name → folder.LiesBelow path) := by
  refine ⟨config.forall_liesBelow_destinationBelow_iff, config.isChildOf_groupFolder_iff, ?_⟩
  intro source session report after finished
  obtain ⟨planned, read, isPlanned, -, wrote⟩ := exists_write_of_run finished
  obtain ⟨classes, classesRead, eachPath⟩ := exists_destination_of_plannedFiles isPlanned
  refine ⟨classes, classesRead, fun path member => ?_⟩
  rw [(write_leaves wrote).1] at member
  obtain ⟨file, isFile, rfl⟩ := List.mem_map.mp member
  obtain ⟨decl, isDecl, folder, isFolder, isPath⟩ := eachPath file isFile
  refine ⟨decl, isDecl, folder, isFolder, isPath, fun confined => ?_⟩
  rw [isPath]
  exact (config.forall_liesBelow_destinationBelow_iff decl.name).mpr confined folder

private def shopConfig : Config :=
  { outputFolder := .ofString "./entity"
    naming := { baseNamespace := some "App" }
    groups := ["api"]
    groupLayout := .apart }

private def shopOrder : ClassDecl :=
  { name := "App\\Shop\\Order"
    properties := [⟨"id", some { element := .scalar "int" }, ["api"]⟩] }

private def shopReport : Report :=
  ⟨[.ofString "./entity/ws_api/shop/order.ts"]⟩

/-- An order is written below the folder of its group, a child of the output folder. -/
theorem order_lies_below :
    ∃ after, shopConfig.run (.given [shopOrder]) {} = (.ok shopReport, after) ∧
      shopConfig.naming.Confined shopOrder.name ∧
      shopConfig.outputFolder.IsChildOf (shopConfig.groupFolder "api") ∧
      ∀ path ∈ shopReport.files, (shopConfig.groupFolder "api").LiesBelow path := by
  have result : (shopConfig.run (.given [shopOrder]) {}).1 = .ok shopReport := by decide +kernel
  have finished : shopConfig.run (.given [shopOrder]) {} =
      (.ok shopReport, (shopConfig.run (.given [shopOrder]) {}).2) := by rw [← result]
  have confined : shopConfig.naming.Confined shopOrder.name := by decide +kernel
  obtain ⟨-, isChild, ofRun⟩ := shopConfig.run_stays_below
  refine ⟨_, finished, confined, (isChild "api").mpr (by decide +kernel), fun path member => ?_⟩
  obtain ⟨classes, read, eachPath⟩ := ofRun _ _ _ _ finished
  obtain rfl : [shopOrder] = classes := Except.ok.inj read
  obtain ⟨decl, isDecl, folder, isFolder, -, below⟩ := eachPath path member
  obtain rfl := List.mem_singleton.mp isDecl
  obtain rfl : folder = shopConfig.groupFolder "api" := List.mem_singleton.mp isFolder
  exact below confined

private def strayConfig : Config :=
  { outputFolder := .ofString "out", naming := {}, groups := [], groupLayout := .together }

private def strayClass : ClassDecl := { name := "..\\Stray" }

/-- A class whose name starts with two dots is written beside the output folder, and the
run ends well. -/
theorem dots_lead_out_of_folder :
    ∃ after, strayConfig.run (.given [strayClass]) {} =
        (.ok ⟨[.ofString "out/../stray.ts"]⟩, after) ∧
      ¬ strayConfig.outputFolder.LiesBelow (.ofString "out/../stray.ts") ∧
      after.tree.files ["stray.ts"] = some (.text "export class Stray \x7b\n\x7d\n") := by
  have result : (strayConfig.run (.given [strayClass]) {}).1 =
      .ok ⟨[.ofString "out/../stray.ts"]⟩ := by decide +kernel
  refine ⟨(strayConfig.run (.given [strayClass]) {}).2, by rw [← result], ?_, by decide +kernel⟩
  rintro ⟨further, continues, -, neverUp, -⟩
  have ofFolder : strayConfig.outputFolder.components = [.name "out"] := by decide +kernel
  have ofPath : (FilePath.ofString "out/../stray.ts").components =
      [.name "out", .parent, .name "stray.ts"] := by decide +kernel
  rw [ofFolder, ofPath, List.singleton_append] at continues
  obtain rfl := (List.cons.inj continues).2
  simp at neverUp

end Config
end EntityGen
