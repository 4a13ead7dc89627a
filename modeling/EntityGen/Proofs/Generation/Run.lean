import EntityGen.Generation.Session
import EntityGen.Proofs.File.Access
import EntityGen.Proofs.Result

/-!
Contract: what a run leaves behind, whether it ends well or fails.

Owns:
- the files that a run plans, as a function of its configuration, its source and
  the tree it starts from;
- which causes stop a run before anything is written, and at which stage;
- the regular files after some or all planned files were written.

Does not own: whether destinations differ, and what the texts say.

All reading, merging and planning comes before the first directory is made. A run
is therefore cut in two: a part that keeps the tree, and `write`.
-/

namespace EntityGen

open EntityGen.Model (ClassDecl)

/-! ## What a run plans -/

/-- The classes of a source, or the cause for which a run has none. -/
def ModelSource.read (source : ModelSource) (tree : FileTree) :
    Except GenerationError (List ClassDecl) :=
  (source.classes tree).1.mapError .model

namespace Config

/-- The merged table of classes. -/
def mergedTable (config : Config) (classes : List ClassDecl) :
    Except GenerationError ClassTable :=
  (collectFields classes config.groups).map (·.merged.1)

/-- The merged tables of classes, one for each group. -/
def mergedTables (config : Config) (classes : List ClassDecl) :
    Except GenerationError (List (String × ClassTable)) :=
  (collectEach classes (config.chosenGroups classes)).map
    (·.map fun entry => (mergeGroup entry.1 entry.2).1)

/-- The files that a run plans, or the cause for which it plans none. -/
def plannedFiles (config : Config) (source : ModelSource) (tree : FileTree) :
    Except GenerationError (List PlannedFile) :=
  match config.groupLayout with
  | .together => source.read tree >>= config.mergedTable >>= config.plan config.outputFolder
  | .apart => source.read tree >>= config.mergedTables >>= config.planGroups

end Config

/-! ## A run in two parts -/

/-- A step followed by another one, unless it fails. -/
def Step.andThen {α β : Type} (step : Step α) (next : α → Session → Step β) : Step β :=
  match step with
  | (.error cause, stopped) => (.error cause, stopped)
  | (.ok value, reached) => next value reached

/-- Writes what is planned. A plan that failed stops the run where it is. -/
def Config.writePlan (config : Config) (plan : Except GenerationError (List PlannedFile))
    (session : Session) : Step Report :=
  match plan with
  | .error cause => (.error cause, session)
  | .ok planned => config.write planned session

theorem Config.run_eq (config : Config) (source : ModelSource) (session : Session) :
    config.run source session =
      match config.groupLayout with
      | .together =>
        Step.andThen (config.readTable source session) fun table read =>
          config.writePlan (config.plan config.outputFolder table) read
      | .apart =>
        Step.andThen (config.readTables source session) fun tables read =>
          config.writePlan (config.planGroups tables) read := by
  unfold run
  cases config.groupLayout with
  | together => rcases config.readTable source session with ⟨cause | table, read⟩ <;> rfl
  | apart => rcases config.readTables source session with ⟨cause | tables, read⟩ <;> rfl

/-! ## Stopping before anything is written -/

/-- A cause that stops a run before anything is written, with the stage at which
it does. -/
inductive StopsAt : GenerationError → Stage → Prop
  | model {cause : Model.ModelError} : StopsAt (.model cause) .reading
  | untypedField {className fieldName : String} :
      StopsAt (.untypedField className fieldName) .reading
  | sharedDestination {path : FilePath} {first second : String} :
      StopsAt (.sharedDestination path first second) .merging

theorem stopsAt_of_collectFields {classes : List ClassDecl} {groups : List String}
    {cause : GenerationError} (failed : collectFields classes groups = .error cause) :
    StopsAt cause .reading := by
  obtain ⟨untyped, -, rfl⟩ := Result.mapError_eq_error_iff.mp failed
  exact .untypedField

theorem stopsAt_of_collectEach {classes : List ClassDecl} {groups : List String}
    {cause : GenerationError} (failed : collectEach classes groups = .error cause) :
    StopsAt cause .reading := by
  induction groups with
  | nil => cases failed
  | cons group others inductionHypothesis =>
      rw [collectEach] at failed
      rcases Result.bind_eq_error_iff.mp failed with ofFirst | ⟨collector, -, afterFirst⟩
      · exact stopsAt_of_collectFields ofFirst
      · rcases Result.bind_eq_error_iff.mp afterFirst with ofOthers | ⟨rest, -, none⟩
        · exact inductionHypothesis ofOthers
        · cases none

theorem stopsAt_of_planFrom {config : Config} {folder : FilePath} {earlier : List PlannedFile}
    {entries : List (String × FieldTable)} {cause : GenerationError}
    (failed : config.planFrom folder earlier entries = .error cause) :
    StopsAt cause .merging := by
  induction entries generalizing earlier with
  | nil => cases failed
  | cons entry others inductionHypothesis =>
      rw [Config.planFrom] at failed
      split at failed
      · obtain rfl := Except.error.inj failed
        exact .sharedDestination
      · exact inductionHypothesis failed

theorem stopsAt_of_planGroups {config : Config} {tables : List (String × ClassTable)}
    {cause : GenerationError} (failed : config.planGroups tables = .error cause) :
    StopsAt cause .merging := by
  induction tables with
  | nil => cases failed
  | cons first others inductionHypothesis =>
      rw [Config.planGroups] at failed
      rcases Result.bind_eq_error_iff.mp failed with ofFirst | ⟨own, -, afterFirst⟩
      · exact stopsAt_of_planFrom ofFirst
      · rcases Result.bind_eq_error_iff.mp afterFirst with ofOthers | ⟨rest, -, none⟩
        · exact inductionHypothesis ofOthers
        · cases none

/-! ## Reading and merging -/

/-- A step that reads the tree and leaves it as it is: the step fails for a cause
that stops a run, or returns the expected value at a given stage. -/
inductive LeavesTree {α : Type} (expected : Except GenerationError α) (before : FileTree)
    (stage : Stage) : Step α → Prop
  | failed {cause : GenerationError} {stopped : Session} :
      expected = .error cause → StopsAt cause stopped.stage → stopped.tree = before →
        LeavesTree expected before stage (.error cause, stopped)
  | passed {value : α} {reached : Session} :
      expected = .ok value → reached.stage = stage → reached.tree = before →
        LeavesTree expected before stage (.ok value, reached)

theorem leavesTree_readClasses (source : ModelSource) (session : Session) :
    LeavesTree (source.read session.tree) session.tree .reading
      (readClasses source session) := by
  unfold readClasses ModelSource.read
  obtain ⟨result, notes⟩ := source.classes session.tree
  cases result with
  | error cause => exact .failed rfl .model rfl
  | ok classes => exact .passed rfl rfl rfl

theorem leavesTree_readTable (config : Config) (source : ModelSource) (session : Session) :
    LeavesTree (source.read session.tree >>= config.mergedTable) session.tree .merging
      (config.readTable source session) := by
  unfold Config.readTable
  have classesRead := leavesTree_readClasses source session
  generalize readClasses source session = step at classesRead ⊢
  cases classesRead with
  | failed expected stops same =>
      rw [expected]
      exact .failed rfl stops same
  | @passed classes read expected stage same =>
      rw [expected]
      change LeavesTree (config.mergedTable classes) _ _ _
      unfold Config.mergedTable
      dsimp only
      cases collected : collectFields classes config.groups with
      | error cause => exact .failed rfl (stage ▸ stopsAt_of_collectFields collected) same
      | ok collector => exact .passed rfl rfl same

theorem leavesTree_readTables (config : Config) (source : ModelSource) (session : Session) :
    LeavesTree (source.read session.tree >>= config.mergedTables) session.tree .merging
      (config.readTables source session) := by
  unfold Config.readTables
  have classesRead := leavesTree_readClasses source session
  generalize readClasses source session = step at classesRead ⊢
  cases classesRead with
  | failed expected stops same =>
      rw [expected]
      exact .failed rfl stops same
  | @passed classes read expected stage same =>
      rw [expected]
      change LeavesTree (config.mergedTables classes) _ _ _
      unfold Config.mergedTables
      dsimp only
      cases collected : collectEach classes (config.chosenGroups classes) with
      | error cause => exact .failed rfl (stage ▸ stopsAt_of_collectEach collected) same
      | ok collectors =>
          refine .passed ?_ rfl same
          rw [List.map_map]
          rfl

/-! ## Writing -/

theorem unwritable_of_makeFolderOf {tree reached : FileTree} {path : FilePath}
    {cause : GenerationError} (failed : Output.makeFolderOf tree path = (.error cause, reached)) :
    ∃ folder fault, cause = .unwritable folder fault := by
  unfold Output.makeFolderOf at failed
  split at failed
  · cases failed
  · next folder _ =>
      split at failed
      · cases failed
      · obtain ⟨fault, -, rfl⟩ := Result.mapError_eq_error_iff.mp (Prod.mk.inj failed).1
        exact ⟨folder, fault, rfl⟩

theorem onlyDirectoriesAdded_makeFolderOf (tree : FileTree) (path : FilePath) :
    FileTree.OnlyDirectoriesAdded tree (Output.makeFolderOf tree path).2 := by
  unfold Output.makeFolderOf
  split
  · exact .refl tree
  · split
    · exact .refl tree
    · exact tree.onlyDirectoriesAdded_makeDirectoryTree _

/-- A text that cannot be saved leaves all regular files as they are. -/
theorem saveText_error {tree reached : FileTree} {path : FilePath} {text : String}
    {cause : GenerationError} (failed : Output.saveText tree path text = (.error cause, reached)) :
    (∃ place fault, cause = .unwritable place fault) ∧ reached.files = tree.files := by
  have folderMade := onlyDirectoriesAdded_makeFolderOf tree path
  unfold Output.saveText at failed
  split at failed
  · next fault stopped folderFailed =>
      obtain ⟨isCause, rfl⟩ := Prod.mk.inj failed
      obtain rfl := Except.error.inj isCause
      rw [folderFailed] at folderMade
      exact ⟨unwritable_of_makeFolderOf folderFailed, folderMade.files⟩
  · next made folderOk =>
      rw [folderOk] at folderMade
      split at failed
      · cases failed
      · obtain ⟨isCause, rfl⟩ := Prod.mk.inj failed
        exact ⟨⟨_, _, (Except.error.inj isCause).symm⟩, folderMade.files⟩

/-- A saved text lies at the location of its path. -/
theorem saveText_ok {tree reached : FileTree} {path : FilePath} {text : String}
    (saved : Output.saveText tree path text = (.ok (), reached)) :
    reached.files = tree.files.write (path.locationFrom tree.current) text ∧
      reached.current = tree.current := by
  have folderMade := onlyDirectoriesAdded_makeFolderOf tree path
  unfold Output.saveText at saved
  split at saved
  · cases saved
  · next made folderOk =>
      rw [folderOk] at folderMade
      split at saved
      · next written wrote =>
          obtain ⟨-, rfl⟩ := Prod.mk.inj saved
          obtain ⟨files, current⟩ := FileTree.files_writeText wrote
          rw [folderMade.files, folderMade.current] at files
          exact ⟨files, current.trans folderMade.current⟩
      · cases saved

/-- The regular files after planned files were written in order, where relative
paths start in `current`. -/
def Config.afterWriting (config : Config) (current : Location) (planned : List PlannedFile)
    (files : FileTree.Files) : FileTree.Files :=
  planned.foldl
    (fun written file => written.write (file.path.locationFrom current) (file.text config.naming))
    files

section AfterWriting

variable (config : Config) {current : Location} {planned : List PlannedFile}

theorem afterWriting_of_not_mem {location : Location} (files : FileTree.Files)
    (untouched : location ∉ planned.map (·.path.locationFrom current)) :
    config.afterWriting current planned files location = files location := by
  induction planned generalizing files with
  | nil => rfl
  | cons first others inductionHypothesis =>
      rw [List.map_cons, List.mem_cons, not_or] at untouched
      rw [Config.afterWriting, List.foldl_cons]
      have kept := inductionHypothesis
        (files.write (first.path.locationFrom current) (first.text config.naming)) untouched.2
      rw [Config.afterWriting] at kept
      rw [kept, FileTree.Files.write, if_neg untouched.1]

/-- Where no two planned files go to one location, each of them holds its own text
at the end. -/
theorem afterWriting_of_mem (files : FileTree.Files)
    (distinct : (planned.map (·.path.locationFrom current)).Nodup) {file : PlannedFile}
    (member : file ∈ planned) :
    config.afterWriting current planned files (file.path.locationFrom current) =
      some (.text (file.text config.naming)) := by
  induction planned generalizing files with
  | nil => exact absurd member List.not_mem_nil
  | cons first others inductionHypothesis =>
      rw [List.map_cons, List.nodup_cons] at distinct
      rcases List.mem_cons.mp member with rfl | inOthers
      · have kept := afterWriting_of_not_mem config
          (files.write (file.path.locationFrom current) (file.text config.naming)) distinct.1
        rw [FileTree.Files.write, if_pos rfl] at kept
        exact kept
      · exact inductionHypothesis _ distinct.2 inOthers

end AfterWriting

theorem writeFiles_error {config : Config} {planned : List PlannedFile}
    {session stopped : Session} {cause : GenerationError}
    (failed : config.writeFiles planned session = (.error cause, stopped)) :
    (∃ place fault, cause = .unwritable place fault) ∧ stopped.stage = session.stage ∧
      ∃ count ≤ planned.length, stopped.tree.files =
        config.afterWriting session.tree.current (planned.take count) session.tree.files := by
  induction planned generalizing session with
  | nil => cases failed
  | cons first others inductionHypothesis =>
      rw [Config.writeFiles] at failed
      split at failed
      · next fault tree firstFailed =>
          obtain ⟨isCause, rfl⟩ := Prod.mk.inj failed
          obtain rfl := Except.error.inj isCause
          obtain ⟨isFault, kept⟩ := saveText_error firstFailed
          -- The file that fails is not among those counted.
          exact ⟨isFault, rfl, 0, Nat.zero_le _, kept⟩
      · next tree firstSaved =>
          obtain ⟨files, current⟩ := saveText_ok firstSaved
          obtain ⟨isFault, stage, count, bound, left⟩ := inductionHypothesis failed
          refine ⟨isFault, stage, count + 1, Nat.succ_le_succ bound, ?_⟩
          rw [left, List.take_succ_cons, Config.afterWriting, Config.afterWriting,
            List.foldl_cons, ← files, ← current]
          rfl

theorem writeFiles_ok {config : Config} {planned : List PlannedFile} {session after : Session}
    (written : config.writeFiles planned session = (.ok (), after)) :
    after.tree.files =
      config.afterWriting session.tree.current planned session.tree.files := by
  induction planned generalizing session with
  | nil =>
      obtain ⟨-, rfl⟩ := Prod.mk.inj written
      rfl
  | cons first others inductionHypothesis =>
      rw [Config.writeFiles] at written
      split at written
      · cases written
      · next tree firstSaved =>
          obtain ⟨files, current⟩ := saveText_ok firstSaved
          rw [inductionHypothesis written, Config.afterWriting, Config.afterWriting,
            List.foldl_cons, ← files, ← current]
          rfl

/-! ## Runs -/

/-- What a run may leave behind, by its result. A failure to write leaves some of
the planned files, a good end all of them; any other failure leaves the tree as it
was. -/
def Config.RunLeaves (config : Config) (source : ModelSource) (before : FileTree) :
    Step Report → Prop
  | (.error (.unwritable _ _), after) =>
      after.stage = .writing ∧
        ∃ planned, config.plannedFiles source before = .ok planned ∧
          ∃ count ≤ planned.length, after.tree.files =
            config.afterWriting before.current (planned.take count) before.files
  | (.error cause, after) =>
      config.plannedFiles source before = .error cause ∧ StopsAt cause after.stage ∧
        after.tree = before
  | (.ok report, after) =>
      after.stage = .done ∧
        ∃ planned, config.plannedFiles source before = .ok planned ∧
          report.files = planned.map (·.path) ∧
            after.tree.files = config.afterWriting before.current planned before.files

theorem runLeaves_of_stopsAt {config : Config} {source : ModelSource} {before : FileTree}
    {cause : GenerationError} {stopped : Session}
    (planless : config.plannedFiles source before = .error cause)
    (stops : StopsAt cause stopped.stage) (same : stopped.tree = before) :
    config.RunLeaves source before (.error cause, stopped) := by
  generalize stage : stopped.stage = reached at stops
  cases stops with
  | model => exact ⟨planless, stage ▸ .model, same⟩
  | untypedField => exact ⟨planless, stage ▸ .untypedField, same⟩
  | sharedDestination => exact ⟨planless, stage ▸ .sharedDestination, same⟩

theorem runLeaves_write {config : Config} {source : ModelSource} {planned : List PlannedFile}
    {session : Session} (isPlanned : config.plannedFiles source session.tree = .ok planned) :
    config.RunLeaves source session.tree (config.write planned session) := by
  have rootMade := session.tree.onlyDirectoriesAdded_makeDirectoryTree config.outputFolder
  unfold Config.write
  dsimp only [Session.atStage]
  rcases root : session.tree.makeDirectoryTree config.outputFolder with ⟨⟨cause⟩ | ⟨⟩, tree⟩
  · rw [root] at rootMade
    exact ⟨rfl, planned, isPlanned, 0, Nat.zero_le _, rootMade.files⟩
  · rw [root] at rootMade
    dsimp only
    rcases result : config.writeFiles planned { session with stage := .writing, tree } with
      ⟨⟨cause⟩ | ⟨⟩, after⟩
    · obtain ⟨⟨place, fault, rfl⟩, stage, count, bound, left⟩ := writeFiles_error result
      rw [rootMade.files, rootMade.current] at left
      exact ⟨stage, planned, isPlanned, count, bound, left⟩
    · have left := writeFiles_ok result
      rw [rootMade.files, rootMade.current] at left
      exact ⟨rfl, planned, isPlanned, rfl, left⟩

theorem runLeaves_writePlan {config : Config} {source : ModelSource} {read : Session}
    {plan : Except GenerationError (List PlannedFile)}
    (isPlan : config.plannedFiles source read.tree = plan)
    (stops : ∀ cause, plan = .error cause → StopsAt cause read.stage) :
    config.RunLeaves source read.tree (config.writePlan plan read) := by
  cases plan with
  | error cause => exact runLeaves_of_stopsAt isPlan (stops cause rfl) rfl
  | ok planned => exact runLeaves_write isPlan

/-- Tables that are read and then planned make up a run, whatever they are. -/
theorem runLeaves_andThen {α : Type} {config : Config} {source : ModelSource}
    {before : FileTree} {tables : Except GenerationError α} {step : Step α}
    {plan : α → Except GenerationError (List PlannedFile)}
    (read : LeavesTree tables before .merging step)
    (isPlan : config.plannedFiles source before = tables >>= plan)
    (stops : ∀ value cause, plan value = .error cause → StopsAt cause .merging) :
    config.RunLeaves source before
      (Step.andThen step fun value session => config.writePlan (plan value) session) := by
  cases read with
  | failed expected stopsAt same =>
      rw [expected] at isPlan
      exact runLeaves_of_stopsAt isPlan stopsAt same
  | @passed value read expected stage same =>
      rw [expected, ← same] at isPlan
      subst before
      exact runLeaves_writePlan isPlan fun cause failed => stage ▸ stops value cause failed

/-- **What a run leaves behind.** A run that fails for another reason than writing
leaves the tree as it was, at the stage at which its cause stops it: reading for a
faulty model and for a field without a type, merging for a destination that two
classes share, in whichever group they do. A run that fails to write leaves the
regular files as they are after some first part of the plan was written in order,
and a run that ends well leaves them as after all of it. -/
theorem Config.run_leaves (config : Config) (source : ModelSource) (session : Session) :
    config.RunLeaves source session.tree (config.run source session) := by
  rw [run_eq]
  cases layout : config.groupLayout with
  | together =>
      have isPlan : config.plannedFiles source session.tree =
          source.read session.tree >>= config.mergedTable >>=
            config.plan config.outputFolder := by
        rw [plannedFiles, layout]
      exact runLeaves_andThen (leavesTree_readTable config source session) isPlan
        fun table cause shared => stopsAt_of_planFrom shared
  | apart =>
      have isPlan : config.plannedFiles source session.tree =
          source.read session.tree >>= config.mergedTables >>= config.planGroups := by
        rw [plannedFiles, layout]
      exact runLeaves_andThen (leavesTree_readTables config source session) isPlan
        fun tables cause shared => stopsAt_of_planGroups shared

end EntityGen
