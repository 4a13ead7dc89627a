import EntityGen.Proofs.Generation.Again
import EntityGen.Proofs.Generation.Group

/-!
Contract: what of a run can be seen afterwards, apart from its notes.

Owns:
- the outcome of a step;
- the paths and texts that a run is to write;
- that these alone decide the outcome of the run.

Does not own: which models have the same paths and texts.

Reading and merging leave the tree as it was, and a planned file is only ever asked for its
path and its text. So two runs over one tree are told apart by their outputs or not at all.
-/

namespace EntityGen

open EntityGen.Model (ClassDecl)

/-- The result of a step, the stage it has reached and the files it has left. -/
def Step.outcome {α : Type} (step : Step α) : Except GenerationError α × Stage × FileTree :=
  (step.1, step.2.stage, step.2.tree)

/-- The paths and texts that a run is to write, or the cause for which there are none. -/
def Config.plannedOutputs (config : Config) (source : ModelSource) (tree : FileTree) :
    Except GenerationError (List (FilePath × String)) :=
  (config.plannedFiles source tree).map config.outputs

variable {config : Config}

/-! ## Writing -/

section Writing

variable {left right : List PlannedFile} {session other : Session}

theorem outcome_writeFiles_congr
    (same : config.outputs left = config.outputs right)
    (sameStage : session.stage = other.stage) (sameTree : session.tree = other.tree) :
    (config.writeFiles left session).outcome = (config.writeFiles right other).outcome := by
  induction left generalizing right session other with
  | nil =>
      obtain rfl := List.map_eq_nil_iff.mp same.symm
      exact congrArg (Prod.mk _) (congrArg₂ Prod.mk sameStage sameTree)
  | cons first others inductionHypothesis =>
      cases right with
      | nil => cases same
      | cons firstOther moreOthers =>
          obtain ⟨sameOutput, sameOthers⟩ := List.cons.inj same
          obtain ⟨samePath, sameText⟩ := Prod.mk.inj sameOutput
          rw [Config.writeFiles, Config.writeFiles, samePath, sameText, sameTree]
          rcases Output.saveText other.tree firstOther.path (firstOther.text config.naming) with
            ⟨cause | _, tree⟩
          · exact congrArg (Prod.mk _) (congrArg (Prod.mk · tree) sameStage)
          · exact inductionHypothesis sameOthers sameStage rfl

theorem outcome_write_congr
    (same : config.outputs left = config.outputs right)
    (sameTree : session.tree = other.tree) :
    (config.write left session).outcome = (config.write right other).outcome := by
  have samePaths : left.map (·.path) = right.map (·.path) := by
    have firsts := congrArg (List.map Prod.fst) same
    rwa [Config.outputs, Config.outputs, List.map_map, List.map_map] at firsts
  unfold Config.write
  dsimp only [Session.atStage]
  rw [sameTree]
  rcases other.tree.makeDirectoryTree config.outputFolder with ⟨cause | _, tree⟩
  · rfl
  · have sameFiles := @outcome_writeFiles_congr config left right
      { session with stage := .writing, tree } { other with stage := .writing, tree } same rfl rfl
    dsimp only
    generalize config.writeFiles left _ = leftStep at sameFiles ⊢
    generalize config.writeFiles right _ = rightStep at sameFiles ⊢
    obtain ⟨leftResult, leftAfter⟩ := leftStep
    obtain ⟨rightResult, rightAfter⟩ := rightStep
    obtain ⟨sameResult, sameAfter⟩ := Prod.mk.inj sameFiles
    obtain rfl : leftResult = rightResult := sameResult
    cases leftResult with
    | error cause => exact congrArg (Prod.mk _) sameAfter
    | ok _ =>
        have sameReached : leftAfter.tree = rightAfter.tree := (Prod.mk.inj sameAfter).2
        rw [samePaths]
        exact congrArg (fun tree => (Except.ok _, Stage.done, tree)) sameReached

end Writing

/-! ## Runs -/

theorem StopsAt.stage_eq {cause : GenerationError} {stage other : Stage}
    (stops : StopsAt cause stage) (stopsOther : StopsAt cause other) : stage = other := by
  cases stops <;> cases stopsOther <;> rfl

theorem andThen_writePlan_error {α : Type} {before : FileTree}
    {tables : Except GenerationError α} {step : Step α}
    {plan : α → Except GenerationError (List PlannedFile)} {cause : GenerationError}
    (leaves : LeavesTree tables before .merging step)
    (stops : ∀ value fault, plan value = .error fault → StopsAt fault .merging)
    (planless : tables >>= plan = .error cause) :
    ∃ stopped, StopsAt cause stopped.stage ∧ stopped.tree = before ∧
      Step.andThen step (fun value session => config.writePlan (plan value) session) =
        (.error cause, stopped) := by
  cases leaves with
  | @failed earlier stopped expected stopsThere same =>
      rw [expected] at planless
      obtain rfl : earlier = cause := Except.error.inj planless
      exact ⟨stopped, stopsThere, same, rfl⟩
  | @passed found reached expected stage same =>
      rw [expected] at planless
      replace planless : plan found = .error cause := planless
      refine ⟨reached, stage ▸ stops found cause planless, same, ?_⟩
      show config.writePlan (plan found) reached = _
      rw [planless]
      rfl

/-- A run that cannot plan its files stops for the same cause, and leaves the tree as it
was. -/
theorem exists_run_eq_error {source : ModelSource} {session : Session} {cause : GenerationError}
    (planless : config.plannedFiles source session.tree = .error cause) :
    ∃ stopped, StopsAt cause stopped.stage ∧ stopped.tree = session.tree ∧
      config.run source session = (.error cause, stopped) := by
  rw [Config.run_eq]
  unfold Config.plannedFiles at planless
  cases layout : config.groupLayout with
  | together =>
      rw [layout] at planless
      exact andThen_writePlan_error (leavesTree_readTable config source session)
        (fun _ _ => stopsAt_of_planFrom) planless
  | apart =>
      rw [layout] at planless
      exact andThen_writePlan_error (leavesTree_readTables config source session)
        (fun _ _ => stopsAt_of_planGroups) planless

/-- **Outputs decide the outcome.** Two runs over the same tree that are to write the same
texts to the same paths, or neither can for the same cause, have the same outcome. -/
theorem outcome_run_congr {source other : ModelSource} {session : Session}
    (same : config.plannedOutputs source session.tree =
      config.plannedOutputs other session.tree) :
    (config.run source session).outcome = (config.run other session).outcome := by
  unfold Config.plannedOutputs at same
  cases planned : config.plannedFiles source session.tree with
  | error cause =>
      rw [planned] at same
      have plannedOther := Result.map_eq_error_iff.mp same.symm
      obtain ⟨stopped, stops, sameTree, isRun⟩ := exists_run_eq_error planned
      obtain ⟨stoppedOther, stopsOther, sameTreeOther, isRunOther⟩ :=
        exists_run_eq_error plannedOther
      have sameStage := stops.stage_eq stopsOther
      have bothKept := sameTree.trans sameTreeOther.symm
      rw [isRun, isRunOther]
      exact congrArg (Prod.mk _) (congrArg₂ Prod.mk sameStage bothKept)
  | ok files =>
      rw [planned] at same
      obtain ⟨filesOther, plannedOther, sameOutputs⟩ := Result.map_eq_ok_iff.mp same.symm
      obtain ⟨read, readTree, isRun⟩ := exists_run_eq_write planned
      obtain ⟨readOther, readTreeOther, isRunOther⟩ := exists_run_eq_write plannedOther
      rw [isRun, isRunOther]
      exact outcome_write_congr sameOutputs.symm (readTree.trans readTreeOther.symm)

end EntityGen
