import EntityGen.Proofs.Generation.Run

/-!
Contract: what the stage of a session tells after any calls.

Owns:
- `SessionCall`, the calls on one session, and the events that they leave behind;
- histories, in which the files may change between any two calls;
- which events move the stage, and the stage after a history.

Does not own: what the calls read and write.

A reading call sets the stage before it can fail, and so does a call that writes. Only a
table that is refused for a destination is refused before the stage is set, and leaves it
as it was. After a run this is the stage of merging, but a table can be written by itself.
-/

namespace EntityGen

open EntityGen.Model (ClassDecl)

/-- One call on a session. -/
inductive SessionCall where
  | run (source : ModelSource)
  | readTable (source : ModelSource)
  | readTables (source : ModelSource)
  | writeTable (table : ClassTable)
  | writeTables (tables : List (String × ClassTable))
  | render (table : ClassTable) (className : String)
  | destination (className : String)
  | groupFolder (group : String)

/-- What a call has answered. -/
inductive SessionEvent where
  | ran (result : Except GenerationError Report)
  | readOne (result : Except GenerationError ClassTable)
  | readEach (result : Except GenerationError (List (String × ClassTable)))
  | wrote (result : Except GenerationError Report)
  | rendered (text : Option String)
  | located (path : FilePath)

namespace SessionEvent

/-- The event is the end of a run, of a reading or of a writing. -/
def tells : SessionEvent → Bool
  | rendered _ | located _ => false
  | _ => true

/-- All files were written. -/
def finishes : SessionEvent → Bool
  | ran (.ok _) | wrote (.ok _) => true
  | _ => false

/-- Tables were refused because two classes share a destination. -/
def refuses : SessionEvent → Bool
  | wrote (.error (.sharedDestination _ _ _)) => true
  | _ => false

/-- The event has moved the stage. -/
def moves (event : SessionEvent) : Bool := event.tells && !event.refuses

end SessionEvent

/-! ## Histories -/

namespace Config

/-- A call on a session, with its event and the session after it. -/
def perform (config : Config) (session : Session) : SessionCall → SessionEvent × Session
  | .run source => (config.run source session).map .ran id
  | .readTable source => (config.readTable source session).map .readOne id
  | .readTables source => (config.readTables source session).map .readEach id
  | .writeTable table => (config.writeTable table session).map .wrote id
  | .writeTables tables => (config.writeTables tables session).map .wrote id
  | .render table className => (.rendered (config.render? table className), session)
  | .destination className => (.located (config.destination className), session)
  | .groupFolder group => (.located (config.groupFolder group), session)

/-- One more call in a history, with the files that it finds. -/
def continueHistory (config : Config) (history : List SessionEvent × Session)
    (visit : FileTree × SessionCall) : List SessionEvent × Session :=
  let (event, after) := config.perform { history.2 with tree := visit.1 } visit.2
  (history.1 ++ [event], after)

/-- The events of calls on a new session, and the session after them. -/
def history (config : Config) (visits : List (FileTree × SessionCall)) :
    List SessionEvent × Session :=
  visits.foldl config.continueHistory ([], {})

end Config

/-! ## One call -/

theorem StopsAt.stage_ne_done {cause : GenerationError} {stage : Stage}
    (stops : StopsAt cause stage) : stage ≠ .done := by
  cases stops <;> simp

/-- How the writing of a plan ends: with all files, with a plan that is refused, or at a file
that cannot be written. -/
inductive WriteEnds (before : Session) : Step Report → Prop
  | finished {report : Report} {after : Session} :
      after.stage = .done → WriteEnds before (.ok report, after)
  | refused {path : FilePath} {first second : String} :
      WriteEnds before (.error (.sharedDestination path first second), before)
  | failed {place : FilePath} {fault : FileError} {after : Session} :
      after.stage = .writing → WriteEnds before (.error (.unwritable place fault), after)

variable {config : Config}

theorem writeEnds_write (planned : List PlannedFile) (session : Session) :
    WriteEnds session (config.write planned session) := by
  unfold Config.write
  dsimp only [Session.atStage]
  rcases session.tree.makeDirectoryTree config.outputFolder with ⟨cause | _, tree⟩
  · exact .failed rfl
  · dsimp only
    rcases result : config.writeFiles planned { session with stage := .writing, tree } with
      ⟨cause | _, after⟩
    · obtain ⟨⟨place, fault, rfl⟩, stage, -⟩ := writeFiles_error result
      exact .failed stage
    · exact .finished rfl

theorem writeEnds_writePlan {plan : Except GenerationError (List PlannedFile)}
    (stops : ∀ cause, plan = .error cause → StopsAt cause .merging) (session : Session) :
    WriteEnds session (config.writePlan plan session) := by
  cases plan with
  | error cause =>
      cases stops cause rfl
      exact .refused
  | ok planned => exact writeEnds_write planned session

theorem writeTable_eq (table : ClassTable) (session : Session) :
    config.writeTable table session =
      config.writePlan (config.plan config.outputFolder table) session := by
  unfold Config.writeTable Config.writePlan
  rfl

theorem writeTables_eq (tables : List (String × ClassTable)) (session : Session) :
    config.writeTables tables session = config.writePlan (config.planGroups tables) session := by
  unfold Config.writeTables Config.writePlan
  rfl

/-- A step that only reads never ends with all files written. -/
theorem LeavesTree.stage_ne_done {α : Type} {expected : Except GenerationError α}
    {before : FileTree} {step : Step α} (leaves : LeavesTree expected before .merging step) :
    step.2.stage ≠ .done := by
  cases leaves with
  | failed _ stops _ => exact stops.stage_ne_done
  | passed _ stage _ => simp [stage]

theorem stage_andThen_eq_done_iff {α : Type} {expected : Except GenerationError α}
    {before : FileTree} {step : Step α} {plan : α → Except GenerationError (List PlannedFile)}
    (leaves : LeavesTree expected before .merging step)
    (stops : ∀ value cause, plan value = .error cause → StopsAt cause .merging) :
    let run := Step.andThen step fun value session => config.writePlan (plan value) session
    run.2.stage = .done ↔ (SessionEvent.ran run.1).finishes = true := by
  cases leaves with
  | failed _ stopsThere _ =>
      simpa [Step.andThen, SessionEvent.finishes] using stopsThere.stage_ne_done
  | @passed value reached _ stage _ =>
      have ends : WriteEnds reached (config.writePlan (plan value) reached) :=
        writeEnds_writePlan (stops value) reached
      show (config.writePlan (plan value) reached).2.stage = .done ↔ _
      dsimp only [Step.andThen]
      generalize config.writePlan (plan value) reached = step at ends
      cases ends with
      | finished isDone => simp [isDone, SessionEvent.finishes]
      | refused => simp [stage, SessionEvent.finishes]
      | failed isWriting => simp [isWriting, SessionEvent.finishes]

theorem stage_run_eq_done_iff (source : ModelSource) (session : Session) :
    (config.run source session).2.stage = .done ↔
      (SessionEvent.ran (config.run source session).1).finishes = true := by
  rw [Config.run_eq]
  cases config.groupLayout with
  | together =>
      exact stage_andThen_eq_done_iff (leavesTree_readTable config source session)
        fun _ _ => stopsAt_of_planFrom
  | apart =>
      exact stage_andThen_eq_done_iff (leavesTree_readTables config source session)
        fun _ _ => stopsAt_of_planGroups

/-- What one event says about the stage after it: an event that moves the stage says whether
all files were written, and any other one says that it is as before. -/
def SessionEvent.Explains (before after : Stage) (event : SessionEvent) : Prop :=
  (event.moves = true → (after = .done ↔ event.finishes = true)) ∧
    (event.moves = false → after = before)

theorem WriteEnds.explains {before : Session} {step : Step Report}
    (ends : WriteEnds before step) :
    (SessionEvent.wrote step.1).Explains before.stage step.2.stage := by
  cases ends with
  | finished isDone =>
      exact ⟨fun _ => by simp [isDone, SessionEvent.finishes], nofun⟩
  | refused => exact ⟨nofun, fun _ => rfl⟩
  | failed isWriting =>
      exact ⟨fun _ => by simp [isWriting, SessionEvent.finishes], nofun⟩

theorem explains_perform (session : Session) (call : SessionCall) :
    (config.perform session call).1.Explains session.stage
      (config.perform session call).2.stage := by
  cases call with
  | run source =>
      exact ⟨fun _ => stage_run_eq_done_iff source session, nofun⟩
  | readTable source =>
      have notDone := (leavesTree_readTable config source session).stage_ne_done
      exact ⟨fun _ => by simpa [Config.perform, SessionEvent.finishes] using notDone,
        nofun⟩
  | readTables source =>
      have notDone := (leavesTree_readTables config source session).stage_ne_done
      exact ⟨fun _ => by simpa [Config.perform, SessionEvent.finishes] using notDone,
        nofun⟩
  | writeTable table =>
      rw [Config.perform, writeTable_eq]
      exact (writeEnds_writePlan (fun _ => stopsAt_of_planFrom) session).explains
  | writeTables tables =>
      rw [Config.perform, writeTables_eq]
      exact (writeEnds_writePlan (fun _ => stopsAt_of_planGroups) session).explains
  | render table className => exact ⟨nofun, fun _ => rfl⟩
  | destination className => exact ⟨nofun, fun _ => rfl⟩
  | groupFolder group => exact ⟨nofun, fun _ => rfl⟩

/-! ## All calls -/

/-- The latest event of a kind says that all files were written. -/
def LatestFinishes (kind : SessionEvent → Bool) (events : List SessionEvent) : Prop :=
  ∃ event ∈ (events.filter kind).getLast?, event.finishes = true

instance (kind : SessionEvent → Bool) (events : List SessionEvent) :
    Decidable (LatestFinishes kind events) :=
  inferInstanceAs (Decidable (∃ event ∈ (events.filter kind).getLast?, event.finishes = true))

theorem latestFinishes_concat (kind : SessionEvent → Bool) (events : List SessionEvent)
    (event : SessionEvent) :
    LatestFinishes kind (events ++ [event]) ↔
      if kind event then event.finishes = true else LatestFinishes kind events := by
  unfold LatestFinishes
  rw [List.filter_append]
  by_cases isKind : kind event = true
  · rw [List.filter_cons_of_pos isKind, List.filter_nil, List.getLast?_concat, if_pos isKind]
    simp
  · rw [List.filter_cons_of_neg isKind, List.filter_nil, List.append_nil, if_neg isKind]

theorem stage_history (config : Config) (visits : List (FileTree × SessionCall)) :
    (config.history visits).2.stage = .done ↔
      LatestFinishes SessionEvent.moves (config.history visits).1 := by
  induction visits using List.reverseRecOn with
  | nil => simp [Config.history, LatestFinishes]
  | append_singleton earlier visit inductionHypothesis =>
      have next : config.history (earlier ++ [visit]) =
          config.continueHistory (config.history earlier) visit := List.foldl_concat ..
      rw [next]
      generalize config.history earlier = before at inductionHypothesis ⊢
      obtain ⟨moving, still⟩ :=
        @explains_perform config { before.2 with tree := visit.1 } visit.2
      unfold Config.continueHistory
      dsimp only at moving still ⊢
      rw [latestFinishes_concat]
      split
      · next moves => exact moving moves
      · next stays =>
          rw [still (by simpa using stays)]
          exact inductionHypothesis

/-- Where the last event of a kind is of a narrower kind, this one is the last of the narrower
kind. -/
theorem latestFinishes_of_last {kind narrower : SessionEvent → Bool}
    {events : List SessionEvent}
    (last : ∀ event ∈ (events.filter kind).getLast?, narrower event = true) :
    LatestFinishes (fun event => kind event && narrower event) events ↔
      LatestFinishes kind events := by
  unfold LatestFinishes
  have both : events.filter (fun event => kind event && narrower event) =
      (events.filter kind).filter narrower := by
    simp [List.filter_filter, Bool.and_comm]
  rw [both]
  cases atEnd : (events.filter kind).getLast? with
  | none =>
      rw [List.getLast?_eq_none_iff.mp atEnd]
      simp
  | some event =>
      obtain ⟨front, isKind⟩ := List.getLast?_eq_some_iff.mp atEnd
      rw [isKind, List.filter_append, List.filter_cons_of_pos (last event atEnd), List.filter_nil,
        List.getLast?_concat]

/-- **What the stage tells.** Whatever calls were made on a session and whatever files they
found, the stage tells that all files were written exactly if the latest run, reading or
writing that was not refused for a shared destination did so. Where the latest of all of
them was not a writing that was refused in this way, the stage therefore speaks of it. -/
theorem stage_after_any_calls (config : Config) (visits : List (FileTree × SessionCall)) :
    let (events, session) := config.history visits
    (session.stage = .done ↔ LatestFinishes SessionEvent.moves events) ∧
      ((∀ event ∈ (events.filter SessionEvent.tells).getLast?, event.refuses = false) →
        (session.stage = .done ↔ LatestFinishes SessionEvent.tells events)) := by
  have law := stage_history config visits
  refine ⟨law, fun notRefused => law.trans (latestFinishes_of_last ?_)⟩
  intro event isLast
  rw [notRefused event isLast, Bool.not_false]

private def refusingConfig : Config :=
  { outputFolder := .ofString "out", naming := {}, groups := [], groupLayout := .together }

private def sharingClasses : List ClassDecl := [{ name := "OrderItem" }, { name := "order_item" }]

private def sharingTable : ClassTable :=
  (ClassTable.empty.enter "OrderItem").enter "order_item"

/-- A table of two classes that share a destination is read, then a run ends well, and then
the table is refused: the stage still tells that all files were written. -/
theorem stage_is_done_after_refusal :
    (refusingConfig.readTable (.given sharingClasses) {}).1.map (·.toList) =
        .ok sharingTable.toList ∧
      let (events, session) := refusingConfig.history [
        ({}, .readTable (.given sharingClasses)), ({}, .run (.given [])),
        ({}, .writeTable sharingTable)]
      events.map SessionEvent.tells = [true, true, true] ∧
        events.map SessionEvent.finishes = [false, true, false] ∧
        ¬ (session.stage = .done ↔ LatestFinishes SessionEvent.tells events) := by
  decide +kernel

end EntityGen
