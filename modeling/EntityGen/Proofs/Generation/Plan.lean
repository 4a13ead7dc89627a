import EntityGen.Generation.Plan
import EntityGen.Proofs.Naming.Policy
import EntityGen.Proofs.Result
import Mathlib.Data.List.Nodup

/-!
Contract: when there is a plan, and what it holds.

Owns:
- the planned file of a class;
- plans as the planned files of all classes, in order and with destinations of
  their own;
- the folder of a group and the destination of a storable class, name by name.

Does not own: writing the files.
-/

namespace EntityGen.Config

variable {config : Config} {folder : FilePath}

/-! ## Plans -/

/-- The planned file of a class of a table. -/
def plannedFile (config : Config) (folder : FilePath) (entry : String × FieldTable) :
    PlannedFile :=
  ⟨entry.1, entry.2, config.destinationBelow folder entry.1⟩

/-- Whether no two files have the same destination. -/
def OwnDestinations (planned : List PlannedFile) : Prop :=
  (planned.map (·.path.components)).Nodup

theorem ownDestinations_concat {earlier : List PlannedFile} {planned : PlannedFile}
    (own : OwnDestinations earlier)
    (free : earlier.find? (·.path.sameAs planned.path) = none) :
    OwnDestinations (earlier ++ [planned]) := by
  rw [OwnDestinations, List.map_append, List.nodup_append]
  refine ⟨own, List.nodup_singleton _, ?_⟩
  intro components member last isLast same
  obtain ⟨other, isEarlier, rfl⟩ := List.mem_map.mp member
  obtain rfl := List.mem_singleton.mp isLast
  exact List.find?_eq_none.mp free other isEarlier (FilePath.sameAs_iff.mpr same)

theorem OwnDestinations.eq_of_sameAs {planned : List PlannedFile} (own : OwnDestinations planned)
    {left right : PlannedFile} (isLeft : left ∈ planned) (isRight : right ∈ planned)
    (shared : left.path.sameAs right.path = true) : left = right :=
  List.inj_on_of_nodup_map own isLeft isRight (FilePath.sameAs_iff.mp shared)

theorem not_ownDestinations_of_shared {earlier later : List PlannedFile}
    {planned owner : PlannedFile} (isEarlier : owner ∈ earlier)
    (shared : owner.path.sameAs planned.path = true) :
    ¬ OwnDestinations (earlier ++ planned :: later) := by
  intro own
  rw [OwnDestinations, List.map_append, List.nodup_append] at own
  exact own.2.2 _ (List.mem_map_of_mem isEarlier) _ (List.mem_cons_self ..)
    (FilePath.sameAs_iff.mp shared)

theorem planFrom_eq_ok_iff {earlier planned : List PlannedFile}
    {entries : List (String × FieldTable)} (own : OwnDestinations earlier) :
    config.planFrom folder earlier entries = .ok planned ↔
      planned = earlier ++ entries.map (config.plannedFile folder) ∧ OwnDestinations planned := by
  induction entries generalizing earlier with
  | nil =>
      rw [planFrom, List.map_nil, List.append_nil, Except.ok.injEq]
      constructor
      · rintro rfl
        exact ⟨rfl, own⟩
      · exact fun equal => equal.1.symm
  | cons entry others inductionHypothesis =>
      rw [planFrom]
      cases found : earlier.find?
          (·.path.sameAs (config.destinationBelow folder entry.1)) with
      | some owner =>
          constructor
          · intro impossible
            cases impossible
          · rintro ⟨rfl, ownAll⟩
            have shared : owner.path.sameAs (config.destinationBelow folder entry.1) = true := by
              simpa using List.find?_some found
            have takenTwice : ¬ OwnDestinations
                (earlier ++ (entry :: others).map (config.plannedFile folder)) :=
              not_ownDestinations_of_shared (List.mem_of_find?_eq_some found) shared
            exact absurd ownAll takenTwice
      | none =>
          have ownLonger : OwnDestinations (earlier ++ [config.plannedFile folder entry]) :=
            ownDestinations_concat own found
          have rest := inductionHypothesis ownLonger
          rw [List.append_assoc, List.singleton_append] at rest
          exact rest

/-- A table has a plan exactly if its classes have destinations of their own, and
the plan then holds each class in order. -/
theorem plan_eq_ok_iff {table : ClassTable} {planned : List PlannedFile} :
    config.plan folder table = .ok planned ↔
      planned = table.toList.map (config.plannedFile folder) ∧ OwnDestinations planned := by
  have none : OwnDestinations [] := List.nodup_nil
  rw [plan, planFrom_eq_ok_iff none, List.nil_append]

theorem exists_plan_iff {folder : FilePath} {table : ClassTable} :
    (∃ planned, config.plan folder table = .ok planned) ↔
      OwnDestinations (table.toList.map (config.plannedFile folder)) := by
  simp only [plan_eq_ok_iff, exists_eq_left]

/-- No two classes of a planned table share a destination. -/
theorem eq_of_sameAs {table : ClassTable} {planned : List PlannedFile}
    (isPlanned : config.plan folder table = .ok planned) {left right : String × FieldTable}
    (isLeft : left ∈ table.toList) (isRight : right ∈ table.toList)
    (shared : (config.destinationBelow folder left.1).sameAs
      (config.destinationBelow folder right.1) = true) : left = right := by
  obtain ⟨rfl, own⟩ := plan_eq_ok_iff.mp isPlanned
  rw [OwnDestinations, List.map_map] at own
  exact List.inj_on_of_nodup_map own isLeft isRight (FilePath.sameAs_iff.mp shared)

/-- The planned files of groups, each below the folder of its group. -/
def plannedOfGroups (config : Config) (tables : List (String × ClassTable)) :
    List PlannedFile :=
  tables.flatMap fun entry => entry.2.toList.map (config.plannedFile (config.groupFolder entry.1))

/-- Groups have a plan exactly if each of them has, and the plan then holds the
classes of each in order. -/
theorem planGroups_eq_ok_iff {tables : List (String × ClassTable)} {planned : List PlannedFile} :
    config.planGroups tables = .ok planned ↔
      planned = config.plannedOfGroups tables ∧
        ∀ entry ∈ tables, ∃ own, config.plan (config.groupFolder entry.1) entry.2 = .ok own := by
  induction tables generalizing planned with
  | nil =>
      rw [planGroups, Except.ok.injEq]
      constructor
      · rintro rfl
        exact ⟨rfl, fun entry member => absurd member List.not_mem_nil⟩
      · exact fun both => both.1.symm
  | cons first others inductionHypothesis =>
      rw [planGroups, Result.bind_eq_ok_iff, List.forall_mem_cons]
      constructor
      · rintro ⟨own, ofFirst, afterFirst⟩
        obtain ⟨rest, ofOthers, isPlanned⟩ := Result.bind_eq_ok_iff.mp afterFirst
        obtain ⟨rfl, othersPlanned⟩ := inductionHypothesis.mp ofOthers
        obtain ⟨rfl, -⟩ := plan_eq_ok_iff.mp ofFirst
        obtain rfl := Except.ok.inj isPlanned
        exact ⟨rfl, ⟨_, ofFirst⟩, othersPlanned⟩
      · rintro ⟨rfl, ⟨own, ofFirst⟩, othersPlanned⟩
        have ofOthers := inductionHypothesis.mpr ⟨rfl, othersPlanned⟩
        refine ⟨own, ofFirst, ?_⟩
        obtain ⟨rfl, -⟩ := plan_eq_ok_iff.mp ofFirst
        rw [ofOthers]
        rfl

theorem planGroups_eq_mapM (config : Config) (tables : List (String × ClassTable)) :
    config.planGroups tables =
      (tables.mapM fun entry => config.plan (config.groupFolder entry.1) entry.2).map
        List.flatten := by
  induction tables with
  | nil => rfl
  | cons entry others inductionHypothesis =>
      rw [List.mapM_cons, planGroups, inductionHypothesis]
      cases config.plan (config.groupFolder entry.1) entry.2 with
      | error cause => rfl
      | ok own =>
          generalize others.mapM (m := Except GenerationError) _ = rest
          cases rest <;> rfl

theorem exists_plan_of_planGroups {tables : List (String × ClassTable)}
    {planned : List PlannedFile} (isPlanned : config.planGroups tables = .ok planned)
    {group : String} {table : ClassTable} (member : (group, table) ∈ tables) :
    ∃ own, config.plan (config.groupFolder group) table = .ok own :=
  (planGroups_eq_ok_iff.mp isPlanned).2 (group, table) member

/-! ## Destinations -/

theorem groupFolder_eq {group : String} (free : '/' ∉ group.toList) :
    config.groupFolder group = config.outputFolder.join ⟨[groupFolderStart ++ group]⟩ := by
  rw [groupFolder, FilePath.ofString_of_not_mem]
  rw [String.toList_append, List.mem_append]
  exact not_or.mpr ⟨by decide, free⟩

theorem isName_groupFolder (group : String) : FilePath.IsName (groupFolderStart ++ group) := by
  have starts : (groupFolderStart ++ group).toList = 'w' :: 's' :: '_' :: group.toList := by
    rw [String.toList_append]
    rfl
  exact FilePath.isName_of_head starts (by decide)

/-- The names of a file below the output folder, from the segments of its class. The
last one takes the extension in place of its own one. -/
def namesOfFile (segments : List String) : List String :=
  segments.dropLast ++
    [(FilePath.splitName (segments.getLast?.getD "")).1 ++ "." ++ TypeScript.fileExtension]

theorem namesOfFile_ne_nil (segments : List String) : namesOfFile segments ≠ [] :=
  List.append_ne_nil_of_right_ne_nil _ (List.cons_ne_nil _ _)

theorem namesOfFile_concat (folders : List String) (name : String) :
    namesOfFile (folders ++ [name]) =
      folders ++ [(FilePath.splitName name).1 ++ "." ++ TypeScript.fileExtension] := by
  simp [namesOfFile]

theorem isName_of_mem_namesOfFile {segments : List String}
    (areNames : ∀ segment ∈ segments, FilePath.IsName segment) :
    ∀ name ∈ namesOfFile segments, FilePath.IsName name := by
  intro name member
  rcases List.mem_append.mp member with inFolders | isLast
  · exact areNames name (List.dropLast_subset segments inFolders)
  · obtain rfl := List.mem_singleton.mp isLast
    apply FilePath.isName_of_length
    have extension : TypeScript.fileExtension.length = 2 := rfl
    have dot : ".".length = 1 := rfl
    rw [String.length_append, String.length_append, extension, dot]
    omega

/-- The destination of a storable class lies below the folder, along its names. -/
theorem destinationBelow_eq (folder : FilePath) {className : String}
    (storable : config.naming.Storable className) :
    config.destinationBelow folder className =
      folder.join ⟨namesOfFile (config.naming.fileSegments className)⟩ := by
  have areNames := NamingPolicy.isName_fileSegment storable
  have nonempty := NamingPolicy.fileSegments_ne_nil storable
  rw [destinationBelow, NamingPolicy.file_eq storable, FilePath.join_names folder nonempty areNames,
    FilePath.join_names folder (namesOfFile_ne_nil _) (isName_of_mem_namesOfFile areNames)]
  rcases List.eq_nil_or_concat' (config.naming.fileSegments className) with
    none | ⟨folders, name, split⟩
  · exact absurd none nonempty
  · rw [split] at areNames ⊢
    have isName := areNames name (by simp)
    rw [← List.append_assoc, FilePath.withExtension_concat _ isName, namesOfFile_concat,
      List.append_assoc]

/-- The destination of a plain class lies below its folder segments, under the
last segment with the extension. -/
theorem exists_components_destinationBelow (folder : FilePath) {className : String}
    (plain : config.naming.Plain className) :
    ∃ folders name, config.naming.fileSegments className = folders ++ [name] ∧
      (config.destinationBelow folder className).components =
        folder.components ++ folders.map Component.name ++
          [.name (name ++ "." ++ TypeScript.fileExtension)] := by
  have areNames := NamingPolicy.isName_fileSegment plain.storable
  have free := NamingPolicy.dot_not_mem_fileSegment plain
  rcases List.eq_nil_or_concat' (config.naming.fileSegments className) with
    none | ⟨folders, name, split⟩
  · exact absurd none (NamingPolicy.fileSegments_ne_nil plain.storable)
  · have names : namesOfFile (config.naming.fileSegments className) =
        folders ++ [name ++ "." ++ TypeScript.fileExtension] := by
      have unsplit := FilePath.splitName_of_not_mem (free name (by simp [split]))
      rw [split, namesOfFile_concat, unsplit]
    refine ⟨folders, name, split, ?_⟩
    rw [destinationBelow_eq folder plain.storable,
      FilePath.components_join folder (namesOfFile_ne_nil _) (isName_of_mem_namesOfFile areNames),
      names, List.map_append, List.map_singleton, List.append_assoc]

/-- The names below the output folder that lead to the file of a class in a group. -/
def namesInGroup (config : Config) (group className : String) : List String :=
  (groupFolderStart ++ group) :: namesOfFile (config.naming.fileSegments className)

theorem isName_of_mem_namesInGroup {group className : String}
    (storable : config.naming.Storable className) :
    ∀ name ∈ config.namesInGroup group className, FilePath.IsName name := by
  rw [namesInGroup, List.forall_mem_cons]
  exact ⟨isName_groupFolder group,
    isName_of_mem_namesOfFile (NamingPolicy.isName_fileSegment storable)⟩

/-- Below the folder of a group without a slash, the destination of a storable
class lies below the output folder, under the group and its own names. -/
theorem destinationBelow_groupFolder {group className : String} (free : '/' ∉ group.toList)
    (storable : config.naming.Storable className) :
    config.destinationBelow (config.groupFolder group) className =
      config.outputFolder.join ⟨config.namesInGroup group className⟩ := by
  have areNames := isName_of_mem_namesOfFile (NamingPolicy.isName_fileSegment storable)
  rw [destinationBelow_eq _ storable, groupFolder_eq free,
    FilePath.join_names_append _ (List.cons_ne_nil _ _) (namesOfFile_ne_nil _)
      (by simpa using isName_groupFolder group) areNames,
    List.singleton_append, namesInGroup]

end EntityGen.Config
