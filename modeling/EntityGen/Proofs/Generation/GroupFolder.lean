import EntityGen.Proofs.Generation.Group
import EntityGen.Proofs.Generation.Plan

/-!
Contract: when the files of several groups stay apart.

Owns:
- the tables of groups, each group with one table;
- the files of groups as names below the output folder;
- runs for groups whose tags are names.

Does not own: what the files say, and runs for one folder.

A plan compares the destinations of one group only, and the folder of a group is
whatever its tag spells as a path. Two groups stay apart where their tags contain
no slash; a tag with slashes can lead into the folder of another group.
-/

namespace EntityGen

open EntityGen.Model (ClassDecl Property)

namespace Config

variable {config : Config} {tables : List (String × ClassTable)}

/-! ## Tables of groups -/

/-- Every group has one table. -/
theorem nodup_groups_of_mergedTables {classes : List ClassDecl}
    (merged : config.mergedTables classes = .ok tables) : (tables.map Prod.fst).Nodup := by
  rw [mergedTables_eq_mapM, Result.mapM_eq_ok_iff] at merged
  have groups : config.chosenGroups classes = tables.map Prod.fst := by
    rw [← List.forall₂_eq_eq_eq, List.forall₂_map_right_iff]
    refine merged.imp fun group entry isEntry => ?_
    obtain ⟨table, -, rfl⟩ := Result.map_eq_ok_iff.mp isEntry
    rfl
  rw [← groups]
  exact nodup_firstOccurrences _ _

theorem indexed_of_mergedTables {classes : List ClassDecl}
    (merged : config.mergedTables classes = .ok tables) :
    ∀ entry ∈ tables, entry.2.Indexed := by
  intro entry member
  rw [mergedTables_eq_mapM] at merged
  obtain ⟨group, -, isEntry⟩ := Result.exists_of_mem_mapM merged member
  obtain ⟨table, ofGroup, rfl⟩ := Result.map_eq_ok_iff.mp isEntry
  obtain ⟨collector, collected, rfl⟩ := Result.map_eq_ok_iff.mp ofGroup
  have filled := Collector.takeClasses_eq_ok (Result.mapError_eq_ok_iff.mp collected)
  have indexed : collector.table.Indexed := by
    rw [filled]
    exact Collector.indexed_afterCalls _ _
  exact Collector.indexed_merged indexed

/-! ## Files of groups -/

/-- Groups whose tags are names, with classes that can be stored. -/
structure Placeable (config : Config) (tables : List (String × ClassTable)) : Prop where
  tag : ∀ entry ∈ tables, '/' ∉ entry.1.toList
  storable : ∀ entry ∈ tables, ∀ listed ∈ entry.2.toList, config.naming.Storable listed.1

/-- The names of all files of groups, in the order of the plan. -/
def namesOfGroups (config : Config) (tables : List (String × ClassTable)) :
    List (List String) :=
  tables.flatMap fun entry => entry.2.toList.map fun listed =>
    config.namesInGroup entry.1 listed.1

theorem isName_of_mem_namesOfGroups (placeable : config.Placeable tables) :
    ∀ names ∈ config.namesOfGroups tables,
      names ≠ [] ∧ ∀ name ∈ names, FilePath.IsName name := by
  intro names member
  obtain ⟨entry, isEntry, inEntry⟩ := List.mem_flatMap.mp member
  obtain ⟨listed, isListed, rfl⟩ := List.mem_map.mp inEntry
  exact ⟨List.cons_ne_nil _ _,
    isName_of_mem_namesInGroup (placeable.storable entry isEntry listed isListed)⟩

theorem map_path_plannedOfGroups (placeable : config.Placeable tables) :
    (config.plannedOfGroups tables).map (·.path) =
      (config.namesOfGroups tables).map fun names => config.outputFolder.join ⟨names⟩ := by
  rw [plannedOfGroups, namesOfGroups, List.map_flatMap, List.map_flatMap]
  apply List.flatMap_congr
  intro entry isEntry
  rw [List.map_map, List.map_map]
  apply List.map_congr_left
  intro listed isListed
  exact destinationBelow_groupFolder (placeable.tag entry isEntry)
    (placeable.storable entry isEntry listed isListed)

theorem nodup_namesOfGroups (placeable : config.Placeable tables)
    (distinct : (tables.map Prod.fst).Nodup)
    (planned : ∀ entry ∈ tables, ∃ own,
      config.plan (config.groupFolder entry.1) entry.2 = .ok own) :
    (config.namesOfGroups tables).Nodup := by
  rw [namesOfGroups, List.nodup_flatMap]
  constructor
  · -- Within a group, the plan has compared the destinations.
    intro entry isEntry
    obtain ⟨own, isPlanned⟩ := planned entry isEntry
    obtain ⟨rfl, ownDestinations⟩ := plan_eq_ok_iff.mp isPlanned
    apply List.Nodup.of_map fun names => (config.outputFolder.join ⟨names⟩).components
    rw [OwnDestinations, List.map_map] at ownDestinations
    rw [List.map_map]
    convert ownDestinations using 1
    apply List.map_congr_left
    intro listed isListed
    have place := destinationBelow_groupFolder (placeable.tag entry isEntry)
      (placeable.storable entry isEntry listed isListed)
    exact congrArg FilePath.components place.symm
  · -- Between groups, the names differ in the folder of the group, which comes first.
    rw [List.Nodup, List.pairwise_map] at distinct
    refine distinct.imp fun {left right} different => ?_
    intro names inLeft inRight
    obtain ⟨listedLeft, -, rfl⟩ := List.mem_map.mp inLeft
    obtain ⟨listedRight, -, same⟩ := List.mem_map.mp inRight
    have sameFolder := (List.cons.inj same).1
    exact different ((String.append_right_inj groupFolderStart).mp sameFolder).symm

theorem nodup_components_plannedOfGroups (placeable : config.Placeable tables)
    (distinct : (config.namesOfGroups tables).Nodup) :
    (((config.plannedOfGroups tables).map (·.path)).map FilePath.components).Nodup := by
  rw [map_path_plannedOfGroups placeable, List.map_map]
  apply List.Nodup.map_on _ distinct
  intro left isLeft right isRight same
  obtain ⟨leftNonempty, leftNames⟩ := isName_of_mem_namesOfGroups placeable left isLeft
  obtain ⟨rightNonempty, rightNames⟩ := isName_of_mem_namesOfGroups placeable right isRight
  rw [Function.comp_apply, Function.comp_apply,
    FilePath.components_join _ leftNonempty leftNames,
    FilePath.components_join _ rightNonempty rightNames] at same
  have sameNames := List.append_cancel_left same
  exact List.map_injective_iff.mpr (fun _ _ => Component.name.inj) sameNames

theorem nodup_locations_plannedOfGroups (placeable : config.Placeable tables)
    (distinct : (config.namesOfGroups tables).Nodup) (current : Location) :
    ((config.plannedOfGroups tables).map (·.path.locationFrom current)).Nodup := by
  have paths : (config.plannedOfGroups tables).map (·.path.locationFrom current) =
      ((config.plannedOfGroups tables).map (·.path)).map (·.locationFrom current) := by
    rw [List.map_map]
    rfl
  rw [paths, map_path_plannedOfGroups placeable, List.map_map]
  apply List.Nodup.map_on _ distinct
  intro left isLeft right isRight same
  obtain ⟨leftNonempty, leftNames⟩ := isName_of_mem_namesOfGroups placeable left isLeft
  obtain ⟨rightNonempty, rightNames⟩ := isName_of_mem_namesOfGroups placeable right isRight
  rw [Function.comp_apply, Function.comp_apply,
    FilePath.locationFrom_join _ leftNonempty leftNames,
    FilePath.locationFrom_join _ rightNonempty rightNames] at same
  exact List.append_cancel_left same

/-! ## Runs -/

theorem exists_plan_of_run_apart (apart : config.groupLayout = .apart) {source : ModelSource}
    {session after : Session} {report : Report}
    (read : (config.readTables source session).1 = .ok tables)
    (finished : config.run source session = (.ok report, after)) :
    ∃ classes planned, config.mergedTables classes = .ok tables ∧
      config.planGroups tables = .ok planned ∧ report.files = planned.map (·.path) ∧
        after.tree.files =
          config.afterWriting session.tree.current planned session.tree.files := by
  have isPlan : config.plannedFiles source session.tree =
      source.read session.tree >>= config.mergedTables >>= config.planGroups := by
    rw [plannedFiles, apart]
  have tablesRead := leavesTree_readTables config source session
  have leaves := runLeaves_andThen tablesRead isPlan
    fun tables cause shared => stopsAt_of_planGroups shared
  have inTwoParts := run_eq config source session
  rw [apart, finished] at inTwoParts
  change (Except.ok report, after) = Step.andThen (config.readTables source session) _
    at inTwoParts
  rw [← inTwoParts] at leaves
  obtain ⟨-, planned, isPlanned, files, left⟩ := leaves
  rw [tablesRead.fst_eq] at read
  obtain ⟨classes, -, merged⟩ := Result.bind_eq_ok_iff.mp read
  rw [isPlan, read] at isPlanned
  exact ⟨classes, planned, merged, isPlanned, files, left⟩

/-- **Where groups keep their files apart.** If a run for several groups ends well,
no tag contains a slash and every class can be stored, then no two paths of the
report lead to one place, and each group has, for each class of its table, the text
of that class from that table at the destination below the folder of the group. -/
theorem run_apart_keeps_groups_apart (apart : config.groupLayout = .apart)
    {source : ModelSource} {session after : Session} {report : Report}
    (read : (config.readTables source session).1 = .ok tables)
    (finished : config.run source session = (.ok report, after))
    (placeable : config.Placeable tables) :
    (report.files.map FilePath.components).Nodup ∧
      ∀ entry ∈ tables, ∀ className text, config.render? entry.2 className = some text →
        after.tree.files
            ((config.destinationBelow (config.groupFolder entry.1) className).locationFrom
              session.tree.current) =
          some (.text text) := by
  obtain ⟨classes, planned, merged, isPlanned, files, left⟩ :=
    exists_plan_of_run_apart apart read finished
  obtain ⟨rfl, groupsPlanned⟩ := planGroups_eq_ok_iff.mp isPlanned
  have distinct := nodup_namesOfGroups placeable (nodup_groups_of_mergedTables merged)
    groupsPlanned
  refine ⟨?_, ?_⟩
  · rw [files]
    exact nodup_components_plannedOfGroups placeable distinct
  · intro entry isEntry className text rendered
    obtain ⟨fields, found, rfl⟩ := Option.map_eq_some_iff.mp rendered
    have indexed := indexed_of_mergedTables merged entry isEntry
    have isListed := (ClassTable.get?_eq_some_iff indexed className fields).mp found
    have member : config.plannedFile (config.groupFolder entry.1) (className, fields) ∈
        config.plannedOfGroups tables :=
      List.mem_flatMap.mpr ⟨entry, isEntry, List.mem_map_of_mem isListed⟩
    have locations := nodup_locations_plannedOfGroups placeable distinct session.tree.current
    have written := afterWriting_of_mem config session.tree.files locations member
    rw [left]
    exact written

/-! ### One tag below another -/

private def twoGroups (inner : String) : Config :=
  { outputFolder := .ofString "out"
    naming := {}
    groups := ["a", inner]
    groupLayout := .apart }

private def firstClass : ClassDecl :=
  { name := "B\\X", properties := [⟨"one", some { element := .scalar "int" }, ["a"]⟩] }

private def secondClass (inner : String) : ClassDecl :=
  { name := "X", properties := [⟨"two", some { element := .scalar "string" }, [inner]⟩] }

private def twoClasses (inner : String) : ModelSource :=
  .given [firstClass, secondClass inner]

private def twoTables (inner : String) : List (String × ClassTable) :=
  (((twoGroups inner).readTables (twoClasses inner) {}).1.toOption).getD []

private def twoFiles (inner : String) : Report :=
  ⟨[((twoGroups inner).destinationBelow ((twoGroups inner).groupFolder "a") "B\\X"),
    ((twoGroups inner).destinationBelow ((twoGroups inner).groupFolder inner) "X")]⟩

private theorem twoTables_read (inner : String)
    (readable : ((twoGroups inner).readTables (twoClasses inner) {}).1.isOk = true) :
    ((twoGroups inner).readTables (twoClasses inner) {}).1 = .ok (twoTables inner) := by
  unfold twoTables
  cases outcome : ((twoGroups inner).readTables (twoClasses inner) {}).1 with
  | error cause =>
      rw [outcome] at readable
      cases readable
  | ok tables => rfl

private theorem twoGroups_run (inner : String)
    (result : ((twoGroups inner).run (twoClasses inner) {}).1 = .ok (twoFiles inner)) :
    (twoGroups inner).run (twoClasses inner) {} =
      (.ok (twoFiles inner), ((twoGroups inner).run (twoClasses inner) {}).2) := by
  rw [← result]

/-- Groups `a` and `b` keep their files apart. -/
theorem flat_tags_keep_apart :
    (twoGroups "b").groupLayout = .apart ∧
      ∃ tables report after,
        ((twoGroups "b").readTables (twoClasses "b") {}).1 = .ok tables ∧
        (twoGroups "b").run (twoClasses "b") {} = (.ok report, after) ∧
        (twoGroups "b").Placeable tables ∧
        (report.files.map FilePath.components).Nodup ∧
        ∀ entry ∈ tables, ∀ className text,
          (twoGroups "b").render? entry.2 className = some text →
            after.tree.files
                (((twoGroups "b").destinationBelow ((twoGroups "b").groupFolder entry.1)
                  className).locationFrom ({} : Session).tree.current) =
              some (.text text) := by
  have read := twoTables_read "b" (by decide +kernel)
  have finished := twoGroups_run "b" (by decide +kernel)
  have placeable : (twoGroups "b").Placeable (twoTables "b") :=
    ⟨by decide +kernel, by decide +kernel⟩
  exact ⟨rfl, _, _, _, read, finished, placeable,
    run_apart_keeps_groups_apart rfl read finished placeable⟩

/-- The file of `X` in group `a/b` takes the place of the file of `B\X` in group
`a`, and the run ends well. -/
theorem nested_tag_overwrites :
    ∃ tables report after,
      ((twoGroups "a/b").readTables (twoClasses "a/b") {}).1 = .ok tables ∧
      (twoGroups "a/b").run (twoClasses "a/b") {} = (.ok report, after) ∧
      report.files.map FilePath.toString = ["out/ws_a/b/x.ts", "out/ws_a/b/x.ts"] ∧
      ¬ (report.files.map FilePath.components).Nodup ∧
      ∃ entry ∈ tables,
        (twoGroups "a/b").render? entry.2 "B\\X" =
          some "export class X \x7b\n  public one: number;\n\x7d\n" ∧
        after.tree.files
            (((twoGroups "a/b").destinationBelow ((twoGroups "a/b").groupFolder entry.1)
              "B\\X").locationFrom ({} : Session).tree.current) =
          some (.text "export class X \x7b\n  public two: string;\n\x7d\n") := by
  have read := twoTables_read "a/b" (by decide +kernel)
  have finished := twoGroups_run "a/b" (by decide +kernel)
  exact ⟨_, _, _, read, finished, by decide +kernel, by decide +kernel, by decide +kernel⟩

end Config
end EntityGen
