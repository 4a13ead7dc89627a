import EntityGen.Proofs.Generation.History
import EntityGen.Proofs.Generation.Plan

/-!
Contract: which collision is reported, for one table and for the tables of groups.

Owns:
- `FirstShared`, the cause that names the first file whose destination was taken;
- that a plan is refused with this cause and no other;
- which refusal is reported for several groups.

Does not own: which class names lead to one destination.

A plan compares every file with the files planned before it, and these have destinations
of their own at every step. So no more than one of them is in the way, and the file that is
refused is the first one that has no destination of its own.
-/

namespace EntityGen.Config

variable {config : Config}

/-! ## The first shared destination -/

/-- The cause for which files have no plan. It names the first file with the destination of
an earlier one, and the one earlier file that has it. -/
def FirstShared (files : List PlannedFile) (cause : GenerationError) : Prop :=
  ∃ before late after owner, files = before ++ late :: after ∧ OwnDestinations before ∧
    (∀ other, other ∈ before ∧ other.path.sameAs late.path = true ↔ other = owner) ∧
    cause = .sharedDestination late.path owner.className late.className

theorem FirstShared.not_ownDestinations {files : List PlannedFile} {cause : GenerationError}
    (shared : FirstShared files cause) : ¬ OwnDestinations files := by
  obtain ⟨before, late, after, owner, rfl, -, owns, -⟩ := shared
  obtain ⟨isEarlier, same⟩ := (owns owner).mpr rfl
  exact not_ownDestinations_of_shared isEarlier same

/-- Files with destinations of their own end before a file that shares one. -/
private theorem length_le_of_own {before after front rest : List PlannedFile}
    {late owner : PlannedFile} (sameFiles : front ++ rest = before ++ late :: after)
    (isEarlier : owner ∈ before) (same : owner.path.sameAs late.path = true)
    (own : OwnDestinations front) : front.length ≤ before.length := by
  by_contra longer
  have upToLate : before ++ [late] <+: front ++ rest := ⟨after, by simp [sameFiles]⟩
  have atMostFront : (before ++ [late]).length ≤ front.length := by
    rw [List.length_append, List.length_singleton]
    omega
  obtain ⟨others, rfl⟩ :=
    List.prefix_of_prefix_length_le upToLate (List.prefix_append front rest) atMostFront
  rw [List.append_assoc, List.singleton_append] at own
  exact not_ownDestinations_of_shared isEarlier same own

/-- Files have one such cause. -/
theorem FirstShared.cause_eq {files : List PlannedFile} {cause other : GenerationError}
    (left : FirstShared files cause) (right : FirstShared files other) : cause = other := by
  obtain ⟨before, late, after, owner, rfl, own, owns, rfl⟩ := left
  obtain ⟨front, second, rest, holder, sameFiles, frontOwn, holds, rfl⟩ := right
  obtain ⟨isEarlier, same⟩ := (owns owner).mpr rfl
  obtain ⟨isHolder, sameHolder⟩ := (holds holder).mpr rfl
  have sameLength : before.length = front.length :=
    Nat.le_antisymm (length_le_of_own sameFiles isHolder sameHolder own)
      (length_le_of_own sameFiles.symm isEarlier same frontOwn)
  obtain ⟨rfl, tail⟩ := List.append_inj sameFiles sameLength
  obtain ⟨rfl, -⟩ := List.cons.inj tail
  obtain rfl := (holds owner).mp ⟨isEarlier, same⟩
  rfl

/-! ## Plans -/

theorem firstShared_of_planFrom {folder : FilePath} {earlier : List PlannedFile}
    {entries : List (String × FieldTable)} {cause : GenerationError}
    (own : OwnDestinations earlier)
    (refused : config.planFrom folder earlier entries = .error cause) :
    FirstShared (earlier ++ entries.map (config.plannedFile folder)) cause := by
  induction entries generalizing earlier with
  | nil => cases refused
  | cons entry others inductionHypothesis =>
      rw [planFrom] at refused
      cases found : earlier.find?
          (·.path.sameAs (config.destinationBelow folder entry.1)) with
      | some owner =>
          rw [found] at refused
          obtain rfl := Except.error.inj refused
          have isEarlier := List.mem_of_find?_eq_some found
          have same : owner.path.sameAs (config.destinationBelow folder entry.1) = true := by
            simpa using List.find?_some found
          refine ⟨earlier, config.plannedFile folder entry, _, owner, rfl, own, ?_, rfl⟩
          intro other
          constructor
          · rintro ⟨isOther, sameOther⟩
            apply own.eq_of_sameAs isOther isEarlier
            rw [FilePath.sameAs_iff] at same sameOther ⊢
            exact sameOther.trans same.symm
          · rintro rfl
            exact ⟨isEarlier, same⟩
      | none =>
          rw [found] at refused
          have ownLonger : OwnDestinations (earlier ++ [config.plannedFile folder entry]) :=
            ownDestinations_concat own found
          have shared := inductionHypothesis ownLonger refused
          rwa [List.append_assoc, List.singleton_append] at shared

/-- A table has no plan exactly for the cause that its first shared destination gives. -/
theorem plan_eq_error_iff {folder : FilePath} {table : ClassTable} {cause : GenerationError} :
    config.plan folder table = .error cause ↔
      FirstShared (table.toList.map (config.plannedFile folder)) cause := by
  have sound : ∀ {found}, config.plan folder table = .error found →
      FirstShared (table.toList.map (config.plannedFile folder)) found :=
    firstShared_of_planFrom List.nodup_nil
  refine ⟨sound, fun shared => ?_⟩
  cases isPlan : config.plan folder table with
  | error found => rw [(sound isPlan).cause_eq shared]
  | ok planned =>
      obtain ⟨rfl, own⟩ := plan_eq_ok_iff.mp isPlan
      exact absurd own shared.not_ownDestinations

/-! ## Plans of groups -/

/-- The cause for which groups have no plan. It is the one of the first group whose files
have none. -/
def FirstSharedOfGroups (config : Config) (tables : List (String × ClassTable))
    (cause : GenerationError) : Prop :=
  ∃ before group table after, tables = before ++ (group, table) :: after ∧
    (∀ earlier ∈ before, OwnDestinations
      (earlier.2.toList.map (config.plannedFile (config.groupFolder earlier.1)))) ∧
    FirstShared (table.toList.map (config.plannedFile (config.groupFolder group))) cause

theorem planGroups_eq_error_iff {tables : List (String × ClassTable)} {cause : GenerationError} :
    config.planGroups tables = .error cause ↔ config.FirstSharedOfGroups tables cause := by
  rw [planGroups_eq_mapM, Result.map_eq_error_iff, Result.mapM_eq_error_iff]
  simp only [FirstSharedOfGroups, exists_plan_iff, plan_eq_error_iff, Prod.exists]

/-! ## Writing -/

/-- **A plan is refused for the first destination that was taken.** A table has a plan exactly
if its classes have destinations of their own, and the plan then holds every class once, in
order, with its fields and its destination. Otherwise the cause names the first class whose
destination was taken, after the one earlier class that has it. Writing a table fails for this
cause before it changes anything, or else writes the plan. Writing the tables of groups does
the same, for the cause of the first group that has one. -/
theorem plan_refuses_first_shared (config : Config) :
    (∀ folder table planned, config.plan folder table = .ok planned ↔
      planned = table.toList.map (config.plannedFile folder) ∧ OwnDestinations planned) ∧
    (∀ folder table cause, config.plan folder table = .error cause ↔
      FirstShared (table.toList.map (config.plannedFile folder)) cause) ∧
    (∀ table session,
      let files := table.toList.map (config.plannedFile config.outputFolder)
      OwnDestinations files ∧
          config.writeTable table session = config.write files session ∨
        ∃ cause, FirstShared files cause ∧
          config.writeTable table session = (.error cause, session)) ∧
    ∀ tables session,
      (∀ entry ∈ tables, OwnDestinations
            (entry.2.toList.map (config.plannedFile (config.groupFolder entry.1)))) ∧
          config.writeTables tables session =
            config.write (config.plannedOfGroups tables) session ∨
        ∃ cause, config.FirstSharedOfGroups tables cause ∧
          config.writeTables tables session = (.error cause, session) := by
  refine ⟨fun _ _ _ => plan_eq_ok_iff, fun _ _ _ => plan_eq_error_iff, ?_, ?_⟩
  · intro table session
    rw [writeTable_eq]
    cases isPlan : config.plan config.outputFolder table with
    | error cause => exact Or.inr ⟨cause, plan_eq_error_iff.mp isPlan, rfl⟩
    | ok planned =>
        obtain ⟨rfl, own⟩ := plan_eq_ok_iff.mp isPlan
        exact Or.inl ⟨own, rfl⟩
  · intro tables session
    rw [writeTables_eq]
    cases isPlan : config.planGroups tables with
    | error cause => exact Or.inr ⟨cause, planGroups_eq_error_iff.mp isPlan, rfl⟩
    | ok planned =>
        obtain ⟨rfl, allPlanned⟩ := planGroups_eq_ok_iff.mp isPlan
        exact Or.inl ⟨fun entry isEntry => exists_plan_iff.mp (allPlanned entry isEntry), rfl⟩

/-- Of three classes with one destination the first two are named. -/
example :
    let config : Config :=
      { outputFolder := .ofString "out", naming := {}, groups := [], groupLayout := .together }
    let table := ["UserAPI", "Order", "UserApi", "user_api"].foldl ClassTable.enter .empty
    (config.writeTable table {}).1 =
      .error (.sharedDestination (.ofString "out/user_api.ts") "UserAPI" "UserApi") := by
  decide +kernel

end EntityGen.Config
