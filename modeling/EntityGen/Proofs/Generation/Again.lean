import EntityGen.Proofs.File.Growth
import EntityGen.Proofs.Generation.Run

/-!
Contract: planned files that are written once more.

Owns:
- the steps of writing as growth of the tree;
- written files, to which their paths lead;
- the same steps over what they left behind.

Does not own: which files are planned, and whether a second run plans the same.

The trees between the two ends of a run all grow into the last one. Each step that
is done again finds the directories it made, and a file where it wrote one.
-/

namespace EntityGen

open FileTree (Grows)

/-! ## Saving a text -/

section Saving

variable {tree reached later : FileTree} {path : FilePath} {text : String}

theorem saveText_eq_ok_iff :
    Output.saveText tree path text = (.ok (), reached) ↔
      ∃ between, Output.makeFolderOf tree path = (.ok (), between) ∧
        between.writeText path text = .ok reached := by
  unfold Output.saveText
  rcases Output.makeFolderOf tree path with ⟨cause | _, between⟩
  · simp
  · simp only [Prod.mk.injEq, true_and, exists_eq_left']
    cases between.writeText path text <;> simp

theorem grows_makeFolderOf (made : Output.makeFolderOf tree path = (.ok (), reached)) :
    Grows tree reached := by
  have added := onlyDirectoriesAdded_makeFolderOf tree path
  rw [made] at added
  exact added.grows

theorem grows_saveText (saved : Output.saveText tree path text = (.ok (), reached)) :
    Grows tree reached := by
  obtain ⟨between, made, wrote⟩ := saveText_eq_ok_iff.mp saved
  exact (grows_makeFolderOf made).trans (FileTree.grows_writeText wrote)

theorem follow_of_saveText (saved : Output.saveText tree path text = (.ok (), reached))
    (grown : Grows reached later) :
    later.follow path = .ok (path.locationFrom tree.current) := by
  obtain ⟨between, made, wrote⟩ := saveText_eq_ok_iff.mp saved
  have followed := (FileTree.writeText_eq_ok_iff.mp wrote).2.1
  rw [← (grows_makeFolderOf made).locationFrom]
  exact ((FileTree.grows_writeText wrote).trans grown).follow followed

end Saving

/-! ## Writing files -/

section Files

variable {config : Config} {planned : List PlannedFile} {session after later : Session}

theorem writeFiles_cons_eq_ok_iff {first : PlannedFile} {others : List PlannedFile} :
    config.writeFiles (first :: others) session = (.ok (), after) ↔
      ∃ tree, Output.saveText session.tree first.path (first.text config.naming) =
          (.ok (), tree) ∧
        config.writeFiles others
          ({ session with tree }.noting [.fileWritten first.path first.className]) =
            (.ok (), after) := by
  rw [Config.writeFiles]
  rcases Output.saveText session.tree first.path (first.text config.naming) with
    ⟨cause | _, tree⟩
  · simp
  · simp

theorem grows_writeFiles (written : config.writeFiles planned session = (.ok (), after)) :
    Grows session.tree after.tree := by
  induction planned generalizing session with
  | nil =>
      obtain ⟨-, rfl⟩ := Prod.mk.inj written
      exact Grows.refl _
  | cons first others inductionHypothesis =>
      obtain ⟨tree, saved, rest⟩ := writeFiles_cons_eq_ok_iff.mp written
      exact (grows_saveText saved).trans (inductionHypothesis rest)

/-- The path of a written file leads to it. -/
theorem follow_of_writeFiles (written : config.writeFiles planned session = (.ok (), after))
    {file : PlannedFile} (member : file ∈ planned) :
    after.tree.follow file.path = .ok (file.path.locationFrom session.tree.current) := by
  induction planned generalizing session with
  | nil => exact absurd member List.not_mem_nil
  | cons first others inductionHypothesis =>
      obtain ⟨tree, saved, rest⟩ := writeFiles_cons_eq_ok_iff.mp written
      rcases List.mem_cons.mp member with rfl | inOthers
      · exact follow_of_saveText saved (grows_writeFiles rest)
      · rw [← (grows_saveText saved).locationFrom]
        exact inductionHypothesis rest inOthers

end Files

/-! ## What is left after writing -/

theorem write_eq_ok_iff {config : Config} {planned : List PlannedFile}
    {session after : Session} {report : Report} :
    config.write planned session = (.ok report, after) ↔
      ∃ tree written,
        session.tree.makeDirectoryTree config.outputFolder = (.ok (), tree) ∧
        config.writeFiles planned { session with stage := .writing, tree } = (.ok (), written) ∧
        report = ⟨planned.map (·.path)⟩ ∧
        after = (written.atStage .done).noting
          [.runFinished planned.length config.outputFolder] := by
  unfold Config.write
  dsimp only [Session.atStage]
  rcases session.tree.makeDirectoryTree config.outputFolder with ⟨cause | _, tree⟩
  · simp
  · dsimp only
    rcases made : config.writeFiles planned { session with stage := .writing, tree } with
      ⟨cause | _, written⟩
    · simp [made]
    · simp [made, eq_comm]

/-- A plan that was written lies in the tree, and the paths of its files lead there. -/
theorem write_leaves {config : Config} {planned : List PlannedFile} {session after : Session}
    {report : Report} (wrote : config.write planned session = (.ok report, after)) :
    report.files = planned.map (·.path) ∧
      after.tree.files =
        config.afterWriting session.tree.current planned session.tree.files ∧
      ∀ file ∈ planned,
        after.tree.follow file.path = .ok (file.path.locationFrom session.tree.current) := by
  obtain ⟨tree, written, made, wroteFiles, rfl, rfl⟩ := write_eq_ok_iff.mp wrote
  have rootMade := session.tree.onlyDirectoriesAdded_makeDirectoryTree config.outputFolder
  rw [made] at rootMade
  have left := writeFiles_ok wroteFiles
  rw [rootMade.files, rootMade.current] at left
  refine ⟨rfl, left, fun file member => ?_⟩
  rw [← rootMade.current]
  exact follow_of_writeFiles wroteFiles member

theorem andThen_writePlan {α : Type} {config : Config} {before : FileTree}
    {tables : Except GenerationError α} {step : Step α}
    {plan : α → Except GenerationError (List PlannedFile)} {planned : List PlannedFile}
    (leaves : LeavesTree tables before .merging step) (isPlanned : tables >>= plan = .ok planned) :
    ∃ read, read.tree = before ∧
      Step.andThen step (fun value session => config.writePlan (plan value) session) =
        config.write planned read := by
  obtain ⟨value, isValue, isPlan⟩ := Result.bind_eq_ok_iff.mp isPlanned
  cases leaves with
  | failed expected =>
      rw [expected] at isValue
      cases isValue
  | @passed found reached expected _ same =>
      obtain rfl := Except.ok.inj (expected.symm.trans isValue)
      refine ⟨reached, same, ?_⟩
      show config.writePlan (plan found) reached = _
      rw [isPlan]
      rfl

/-- A run that plans files writes them, over the tree that it was given. -/
theorem exists_run_eq_write {config : Config} {source : ModelSource} {session : Session}
    {planned : List PlannedFile}
    (isPlanned : config.plannedFiles source session.tree = .ok planned) :
    ∃ read, read.tree = session.tree ∧
      config.run source session = config.write planned read := by
  rw [Config.run_eq]
  unfold Config.plannedFiles at isPlanned
  cases layout : config.groupLayout with
  | together =>
      rw [layout] at isPlanned
      exact andThen_writePlan (leavesTree_readTable config source session) isPlanned
  | apart =>
      rw [layout] at isPlanned
      exact andThen_writePlan (leavesTree_readTables config source session) isPlanned

/-- Tables that were read and planned, where the plan was then written. -/
theorem exists_write_of_andThen {α : Type} {config : Config} {before : FileTree}
    {tables : Except GenerationError α} {step : Step α}
    {plan : α → Except GenerationError (List PlannedFile)} {report : Report} {after : Session}
    (leaves : LeavesTree tables before .merging step)
    (finished : Step.andThen step (fun value session => config.writePlan (plan value) session) =
      (.ok report, after)) :
    ∃ planned read, tables >>= plan = .ok planned ∧ read.tree = before ∧
      config.write planned read = (.ok report, after) := by
  cases leaves with
  | failed => cases finished
  | @passed value reached expected _ same =>
      change config.writePlan (plan value) reached = (.ok report, after) at finished
      cases isPlan : plan value with
      | error cause =>
          rw [isPlan] at finished
          cases finished
      | ok planned =>
          rw [isPlan] at finished
          exact ⟨planned, reached, Result.bind_eq_ok_iff.mpr ⟨value, expected, isPlan⟩, same,
            finished⟩

/-- A run that ends well has written a plan. -/
theorem exists_write_of_run {config : Config} {source : ModelSource} {session after : Session}
    {report : Report} (finished : config.run source session = (.ok report, after)) :
    ∃ planned read, config.plannedFiles source session.tree = .ok planned ∧
      read.tree = session.tree ∧ config.write planned read = (.ok report, after) := by
  rw [Config.run_eq] at finished
  unfold Config.plannedFiles
  cases layout : config.groupLayout with
  | together =>
      rw [layout] at finished
      exact exists_write_of_andThen (leavesTree_readTable config source session) finished
  | apart =>
      rw [layout] at finished
      exact exists_write_of_andThen (leavesTree_readTables config source session) finished

end EntityGen
