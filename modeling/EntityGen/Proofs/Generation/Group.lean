import EntityGen.Proofs.Fields.Selection
import EntityGen.Proofs.Generation.Plan
import EntityGen.Proofs.Generation.Run

/-!
Contract: a run for several groups against runs for one group each.

Owns:
- `Config.forGroup`, the choices of a run for one group alone;
- the chosen groups as the distinct groups of a list;
- reading and planning several groups as the same steps for each group;
- properties without a group, which such a run never looks at.

Does not own: whether files of different groups stay apart.

Reading stops at the first group that fails, and all reading comes before any
planning. So the two phases are compared one by one: a run for several groups is
not one run after the other.
-/

namespace EntityGen

open EntityGen.Model (ClassDecl Property)

/-- The choices of a run for one group alone: the same names, below the folder of
the group. -/
def Config.forGroup (config : Config) (group : String) : Config :=
  { config with
    outputFolder := config.groupFolder group
    groups := [group]
    groupLayout := .together }

/-- The destinations and texts of planned files. -/
def Config.outputs (config : Config) (planned : List PlannedFile) : List (FilePath × String) :=
  planned.map fun file => (file.path, file.text config.naming)

/-- A class without the properties that are in no group. -/
def Model.ClassDecl.tagged (decl : ClassDecl) : ClassDecl :=
  { decl with properties := decl.properties.filter (!·.groups.isEmpty) }

/-! ## Chosen groups -/

theorem firstOccurrences_eq_eraseDups (seen items : List String) :
    firstOccurrences seen items = (items.filter (!seen.contains ·)).eraseDups := by
  induction items generalizing seen with
  | nil => rfl
  | cons first others inductionHypothesis =>
      rw [firstOccurrences]
      split
      · next known =>
          rw [List.filter_cons_of_neg (by simpa using known)]
          exact inductionHypothesis seen
      · next new =>
          rw [List.filter_cons_of_pos (by simpa using new), List.eraseDups_cons,
            List.filter_filter, inductionHypothesis]
          congr 2
          apply List.filter_congr
          intro other _
          rw [List.contains_cons, Bool.not_or]

theorem chosenGroups_eq (config : Config) (classes : List ClassDecl) :
    config.chosenGroups classes =
      (if config.groups.isEmpty then groupsOfClasses classes else config.groups).eraseDups := by
  rw [Config.chosenGroups, firstOccurrences_eq_eraseDups]
  simp

theorem mem_firstOccurrences {seen items : List String} {item : String} :
    item ∈ firstOccurrences seen items ↔ item ∈ items ∧ item ∉ seen := by
  rw [firstOccurrences_eq_eraseDups, List.mem_eraseDups, List.mem_filter]
  simp

theorem nodup_firstOccurrences (seen items : List String) :
    (firstOccurrences seen items).Nodup := by
  induction items generalizing seen with
  | nil => exact List.nodup_nil
  | cons first others inductionHypothesis =>
      rw [firstOccurrences]
      split
      · exact inductionHypothesis seen
      · rw [List.nodup_cons]
        refine ⟨fun again => ?_, inductionHypothesis (first :: seen)⟩
        exact (mem_firstOccurrences.mp again).2 (List.mem_cons_self ..)

/-! ## Reading -/

theorem collectEach_eq_mapM (classes : List ClassDecl) (groups : List String) :
    collectEach classes groups =
      groups.mapM fun group => (collectFields classes [group]).map (group, ·) := by
  induction groups with
  | nil => rfl
  | cons group others inductionHypothesis =>
      rw [collectEach, List.mapM_cons, inductionHypothesis]
      cases collectFields classes [group] with
      | error cause => rfl
      | ok collector => rfl

theorem mergedTables_eq_mapM (config : Config) (classes : List ClassDecl) :
    config.mergedTables classes =
      (config.chosenGroups classes).mapM fun group =>
        ((config.forGroup group).mergedTable classes).map (group, ·) := by
  rw [Config.mergedTables, collectEach_eq_mapM]
  induction config.chosenGroups classes with
  | nil => rfl
  | cons group others inductionHypothesis =>
      rw [List.mapM_cons, List.mapM_cons, ← inductionHypothesis, Config.mergedTable]
      change _ = ((collectFields classes [group]).map _).map _ >>= _
      cases collectFields classes [group] with
      | error cause => rfl
      | ok collector =>
          generalize others.mapM (m := Except GenerationError) _ = rest
          cases rest with
          | error cause => rfl
          | ok collectors => rfl

theorem LeavesTree.fst_eq {α : Type} {expected : Except GenerationError α} {before : FileTree}
    {stage : Stage} {step : Step α} (leaves : LeavesTree expected before stage step) :
    step.1 = expected := by
  cases leaves with
  | failed isExpected => exact isExpected.symm
  | passed isExpected => exact isExpected.symm

theorem readTable_given (config : Config) (classes : List ClassDecl) (session : Session) :
    (config.readTable (.given classes) session).1 = config.mergedTable classes :=
  (leavesTree_readTable config (.given classes) session).fst_eq

theorem readTables_given (config : Config) (classes : List ClassDecl) (session : Session) :
    (config.readTables (.given classes) session).1 = config.mergedTables classes :=
  (leavesTree_readTables config (.given classes) session).fst_eq

theorem readTables_eq_ok_iff (config : Config) (classes : List ClassDecl) (session : Session)
    {tables : List (String × ClassTable)} :
    (config.readTables (.given classes) session).1 = .ok tables ↔
      List.Forall₂ (fun group entry => entry.1 = group ∧
          ((config.forGroup group).readTable (.given classes) session).1 = .ok entry.2)
        (config.chosenGroups classes) tables := by
  have forOne : ∀ (group : String) (entry : String × ClassTable),
      ((config.forGroup group).mergedTable classes).map (group, ·) = .ok entry ↔
        entry.1 = group ∧ (config.forGroup group).mergedTable classes = .ok entry.2 := by
    intro group entry
    rw [Result.map_eq_ok_iff]
    constructor
    · rintro ⟨table, merged, rfl⟩
      exact ⟨rfl, merged⟩
    · rintro ⟨rfl, merged⟩
      exact ⟨entry.2, merged, rfl⟩
  simp only [readTables_given, readTable_given, mergedTables_eq_mapM, Result.mapM_eq_ok_iff,
    forOne]

/-- The first group that fails alone is the one that fails among all. -/
theorem readTables_eq_error_iff (config : Config) (classes : List ClassDecl) (session : Session)
    {cause : GenerationError} :
    (config.readTables (.given classes) session).1 = .error cause ↔
      ∃ before group after, config.chosenGroups classes = before ++ group :: after ∧
        (∀ earlier ∈ before, ∃ table,
          ((config.forGroup earlier).readTable (.given classes) session).1 = .ok table) ∧
        ((config.forGroup group).readTable (.given classes) session).1 = .error cause := by
  rw [readTables_given, mergedTables_eq_mapM, Result.mapM_eq_error_iff]
  simp only [readTable_given, Result.map_eq_ok_iff, Result.map_eq_error_iff]
  refine exists_congr fun before => exists_congr fun group => exists_congr fun after => ?_
  refine and_congr_right fun _ => and_congr_left fun _ => ?_
  refine forall₂_congr fun earlier _ => ?_
  constructor
  · rintro ⟨entry, table, read, -⟩
    exact ⟨table, read⟩
  · rintro ⟨table, read⟩
    exact ⟨(earlier, table), table, read, rfl⟩

/-! ## Planning -/

/-- Only the naming of a configuration counts for the plan below a folder. -/
theorem planFrom_eq_of_naming (left right : Config) (same : left.naming = right.naming)
    (folder : FilePath) (earlier : List PlannedFile) (entries : List (String × FieldTable)) :
    left.planFrom folder earlier entries = right.planFrom folder earlier entries := by
  have sameDestination : left.destinationBelow folder = right.destinationBelow folder := by
    funext className
    rw [Config.destinationBelow, same, Config.destinationBelow]
  induction entries generalizing earlier with
  | nil => rfl
  | cons entry others inductionHypothesis =>
      simp only [Config.planFrom, sameDestination, inductionHypothesis]

theorem plan_forGroup (config : Config) (group : String) (table : ClassTable) :
    (config.forGroup group).plan (config.forGroup group).outputFolder table =
      config.plan (config.groupFolder group) table :=
  planFrom_eq_of_naming (config.forGroup group) config rfl _ _ _

theorem outputs_planGroups (config : Config) (tables : List (String × ClassTable)) :
    (config.planGroups tables).map config.outputs =
      (tables.mapM fun entry =>
        ((config.forGroup entry.1).plan (config.forGroup entry.1).outputFolder entry.2).map
          (config.forGroup entry.1).outputs).map List.flatten := by
  have outputsOfAll : ∀ parts : List (List PlannedFile),
      config.outputs parts.flatten = (parts.map config.outputs).flatten :=
    fun parts => List.map_flatten
  simp only [plan_forGroup]
  rw [Config.planGroups_eq_mapM, Result.map_map, funext outputsOfAll, ← Result.map_map,
    Result.map_mapM]
  rfl

/-- What is planned for several groups is what is planned for each group alone, one
after the other. -/
theorem outputs_planGroups_eq_ok_iff (config : Config) {tables : List (String × ClassTable)}
    {outputs : List (FilePath × String)} :
    (config.planGroups tables).map config.outputs = .ok outputs ↔
      ∃ parts, List.Forall₂ (fun entry part =>
          ((config.forGroup entry.1).plan (config.forGroup entry.1).outputFolder entry.2).map
            (config.forGroup entry.1).outputs = .ok part) tables parts ∧
        parts.flatten = outputs := by
  rw [outputs_planGroups, Result.map_eq_ok_iff]
  simp only [Result.mapM_eq_ok_iff]

/-! ## Properties without a group -/

theorem groupsOfClasses_tagged (classes : List ClassDecl) :
    groupsOfClasses (classes.map ClassDecl.tagged) = groupsOfClasses classes := by
  have ofProperties : ∀ properties : List Property,
      (properties.filter (!·.groups.isEmpty)).flatMap (·.groups) =
        properties.flatMap (·.groups) := by
    intro properties
    induction properties with
    | nil => rfl
    | cons property others inductionHypothesis =>
        cases untagged : property.groups.isEmpty with
        | true =>
            rw [List.filter_cons_of_neg (by simp [untagged]), List.flatMap_cons,
              List.isEmpty_iff.mp untagged, List.nil_append]
            exact inductionHypothesis
        | false =>
            rw [List.filter_cons_of_pos (by simp [untagged]), List.flatMap_cons,
              List.flatMap_cons, inductionHypothesis]
  unfold groupsOfClasses
  rw [List.flatMap_map]
  congr 1
  funext decl
  exact ofProperties decl.properties

/-- A collector that chooses by groups passes over properties without one. -/
theorem takeClasses_tagged {collector : Collector} (grouped : collector.groups ≠ [])
    (classes : List ClassDecl) :
    collector.takeClasses (classes.map ClassDecl.tagged) = collector.takeClasses classes := by
  induction classes generalizing collector with
  | nil => rfl
  | cons decl others inductionHypothesis =>
      have isTagged : ∀ property, collector.chooses property = true →
          property.groups.isEmpty = false := by
        intro property isChosen
        have carries : property.carriesAny collector.groups = true := by
          simpa [Collector.chooses, grouped] using isChosen
        obtain ⟨group, isGroup, -⟩ := List.any_eq_true.mp carries
        exact List.isEmpty_eq_false_iff.mpr (List.ne_nil_of_mem isGroup)
      have sameTable : collector.tableAfter decl.tagged = collector.tableAfter decl := by
        unfold Collector.tableAfter ClassDecl.tagged
        rw [List.filter_filter]
        congr 1
        apply List.filter_congr
        intro property _
        cases isChosen : collector.chooses property with
        | false => rfl
        | true => rw [isTagged property isChosen]; rfl
      rw [List.map_cons, Collector.takeClasses_cons, Collector.takeClasses_cons, sameTable]
      congr 1
      funext table
      exact inductionHypothesis
        ((Collector.groups_takeParent collector decl).symm ▸ grouped)

theorem collectEach_tagged (classes : List ClassDecl) (groups : List String) :
    collectEach (classes.map ClassDecl.tagged) groups = collectEach classes groups := by
  have forOne : ∀ group, collectFields (classes.map ClassDecl.tagged) [group] =
      collectFields classes [group] := by
    intro group
    unfold collectFields
    rw [takeClasses_tagged (List.cons_ne_nil group [])]
  simp only [collectEach_eq_mapM, forOne]

theorem readTables_tagged (config : Config) (classes : List ClassDecl) (session : Session) :
    config.readTables (.given (classes.map ClassDecl.tagged)) session =
      config.readTables (.given classes) session := by
  have sameChoice : config.chosenGroups (classes.map ClassDecl.tagged) =
      config.chosenGroups classes := by
    unfold Config.chosenGroups
    rw [groupsOfClasses_tagged]
  simp only [Config.readTables, readClasses, ModelSource.classes, List.length_map, sameChoice,
    collectEach_tagged]

theorem run_apart_tagged (config : Config) (classes : List ClassDecl) (session : Session) :
    { config with groupLayout := .apart }.run (.given (classes.map ClassDecl.tagged)) session =
      { config with groupLayout := .apart }.run (.given classes) session := by
  simp only [Config.run, readTables_tagged]

/-! ## Runs -/

/-- **A run for several groups reads and plans as the runs for each of them.** The
groups are the configured ones, or without any all groups of the model in order,
each at its first place. Their tables are read exactly if the run for each group
alone reads its table, and are these; the first group that fails alone gives the
cause of the failure. What is planned for the tables is what is planned for each of
them alone, one after the other. A property without a group makes no difference,
whether it has a type or not. -/
theorem Config.apart_agrees_with_forGroup (config : Config) (classes : List ClassDecl)
    (session : Session) :
    config.chosenGroups classes =
        (if config.groups.isEmpty then
            classes.flatMap fun decl => decl.properties.flatMap (·.groups)
          else config.groups).eraseDups ∧
      (∀ tables, (config.readTables (.given classes) session).1 = .ok tables ↔
        List.Forall₂ (fun group entry => entry.1 = group ∧
            ((config.forGroup group).readTable (.given classes) session).1 = .ok entry.2)
          (config.chosenGroups classes) tables) ∧
      (∀ cause, (config.readTables (.given classes) session).1 = .error cause ↔
        ∃ before group after, config.chosenGroups classes = before ++ group :: after ∧
          (∀ earlier ∈ before, ∃ table,
            ((config.forGroup earlier).readTable (.given classes) session).1 = .ok table) ∧
          ((config.forGroup group).readTable (.given classes) session).1 = .error cause) ∧
      (∀ tables outputs, (config.planGroups tables).map config.outputs = .ok outputs ↔
        ∃ parts, List.Forall₂ (fun entry part =>
            ((config.forGroup entry.1).plan (config.forGroup entry.1).outputFolder entry.2).map
              (config.forGroup entry.1).outputs = .ok part) tables parts ∧
          parts.flatten = outputs) ∧
      config.readTables (.given (classes.map ClassDecl.tagged)) session =
        config.readTables (.given classes) session ∧
      { config with groupLayout := .apart }.run (.given (classes.map ClassDecl.tagged)) session =
        { config with groupLayout := .apart }.run (.given classes) session :=
  ⟨chosenGroups_eq config classes, fun _ => readTables_eq_ok_iff config classes session,
    fun _ => readTables_eq_error_iff config classes session,
    fun _ _ => outputs_planGroups_eq_ok_iff config, readTables_tagged config classes session,
    run_apart_tagged config classes session⟩

end EntityGen
