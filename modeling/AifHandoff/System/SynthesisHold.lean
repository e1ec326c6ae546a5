import AifHandoff.Data.SynthesisReadiness

/-!
The hold on a synthesis task beside the operator's pause.

Both use the `paused` column. A batch refresh pauses its synthesis task while the batch is
not ready and labels it `synthesis_not_ready:`; once the batch is ready, the refresh
clears `paused` when it finds that label, or no `blockedReason` at all.
-/

namespace AifHandoff.System

open Data Transition

variable {δ : Type}

/-- The tables, and the tasks that the operator has paused and not resumed since. -/
structure HoldState (δ : Type) where
  db : RoadmapStore δ
  operatorPaused : List TaskId := []

inductive HoldOp (δ : Type) where
  | roadmap (op : RoadmapOp δ)
  | refresh (batchId : String) (now : Nat)
  /-- What `holdSynthesisTask` writes to the task, after the artifact. -/
  | hold (taskId : TaskId) (reason : String) (fromStatus : TaskStatus) (now : Nat)
  | pause (taskId : TaskId) (now : Nat)
  | resume (taskId : TaskId) (now : Nat)

/-- A write to one task. -/
def writeTask (db : RoadmapStore δ) (taskId : TaskId) (patch : TaskFieldsPatch) : RoadmapStore δ :=
  { db with tasks := updateWhereId db.tasks taskId (setTaskFields · patch) }

def holdPatch (reason : String) (fromStatus : TaskStatus) (now : Nat) : TaskFieldsPatch where
  paused := some true
  blockedReason := some (some reason)
  blockedFromStatus := some (some fromStatus)
  updatedAt := some now

/-- `updateTask` with the one field, as the operator's request sends it. -/
def pausedPatch (paused : Bool) (now : Nat) : TaskFieldsPatch where
  paused := some paused
  updatedAt := some now

section System

variable [ValidationDetails δ]

def execHold (s : HoldState δ) : HoldOp δ → HoldState δ
  | .roadmap op => { s with db := execRoadmap s.db op }
  | .refresh batchId now => { s with db := (refreshRoadmapBatchSummary s.db batchId now).1 }
  | .hold taskId reason fromStatus now =>
    { s with db := writeTask s.db taskId (holdPatch reason fromStatus now) }
  | .pause taskId now =>
    { db := writeTask s.db taskId (pausedPatch true now)
      operatorPaused := taskId :: s.operatorPaused }
  | .resume taskId now =>
    { db := writeTask s.db taskId (pausedPatch false now)
      operatorPaused := s.operatorPaused.filter (· ≠ taskId) }

/-- Whatever the step releases was resumed by it, or held as not ready and not paused by
the operator. -/
def ReleasesOnlyHolds (s : HoldState δ) (op : HoldOp δ) : Prop :=
  ∀ id row row', findTaskById s.db.tasks id = some row →
    findTaskById (execHold s op).db.tasks id = some row' →
    row.paused = true → row'.paused = false →
      (∃ now, op = .resume id now) ∨
        (isSynthesisHoldReason row.blockedReason = true ∧ id ∉ s.operatorPaused)

/-- A task that the operator paused is paused. -/
def OperatorPausesStand (s : HoldState δ) : Prop :=
  ∀ id ∈ s.operatorPaused, ∀ row, findTaskById s.db.tasks id = some row → row.paused = true

def RespectsOperator (s : HoldState δ) (op : HoldOp δ) : Prop :=
  ReleasesOnlyHolds s op ∧ OperatorPausesStand (execHold s op)

/-- The tables and the batch that the refresh of a step works on. -/
def refreshedBy (s : HoldState δ) : HoldOp δ → Option (RoadmapStore δ × String)
  | .roadmap (.createBatch input now randomUUID) =>
    if input.artifacts.any (isUnsafeRoadmapArtifactPath ·.artifactPath) then none
    else some (insertRoadmapBatch s.db input now randomUUID, randomUUID 0)
  | .roadmap (.updateArtifact input now randomUUID) =>
    (findRoadmapBatchArtifactByTaskId s.db input.taskId).bind fun artifact =>
      if lacksJustification artifact input then none
      else some (recordAttempt s.db artifact input now randomUUID, artifact.batchId)
  | .refresh batchId _ => some (s.db, batchId)
  | .hold _ _ _ _ | .pause _ _ | .resume _ _ => none

/-- The synthesis task of a batch that is ready. -/
def readyTask (db : RoadmapStore δ) (batchId : String) : Option TaskId :=
  (findRoadmapBatch db batchId).bind fun batch =>
    if roadmapSynthesisReady db (listRoadmapBatchArtifacts db batchId) then batch.synthesisTaskId
    else none

/-- The task is paused without a reason, or by the operator on top of a hold. -/
def isOperatorHeld (s : HoldState δ) (row : TaskRow) : Bool :=
  row.paused && (row.blockedReason.isNone ||
    (isSynthesisHoldReason row.blockedReason && s.operatorPaused.contains row.id))

/-- The refresh of the step, if there is one, does not find the batch ready while the
operator holds its synthesis task. -/
def releaseOk (s : HoldState δ) (op : HoldOp δ) : Bool :=
  (refreshedBy s op).all fun refreshed => (readyTask refreshed.1 refreshed.2).all fun taskId =>
    (findTaskById s.db.tasks taskId).all (!isOperatorHeld s ·)

end System

/-! ### One refresh -/

section Refresh

variable [ValidationDetails δ] {now : Nat}

theorem id_refreshSynthesisTaskRow (ready : Bool) (row : TaskRow) :
    (refreshSynthesisTaskRow ready now row).id = row.id := by
  cases ready <;> rfl

/-- What a refresh writes to a task: it releases the synthesis task of a ready batch, and
no other. -/
theorem findTaskById_refresh (db : RoadmapStore δ) (batchId : String) (now : Nat) (id : TaskId) :
    ∃ write : TaskRow → TaskRow,
      findTaskById (refreshRoadmapBatchSummary db batchId now).1.tasks id =
        (findTaskById db.tasks id).map write ∧
      (if readyTask db batchId = some id then write = refreshSynthesisTaskRow true now
        else (write = fun row => row) ∨ write = refreshSynthesisTaskRow false now) := by
  cases found : findRoadmapBatch db batchId with
  | none =>
    refine ⟨fun row => row, ?_, ?_⟩
    · simp [refreshRoadmapBatchSummary, found]
    · simp [readyTask, found]
  | some batch =>
    cases task : batch.synthesisTaskId with
    | none =>
      refine ⟨fun row => row, ?_, ?_⟩
      · simp [refreshRoadmapBatchSummary, found, task]
      · simp [readyTask, found, task]
    | some taskId =>
      have written : findTaskById (refreshRoadmapBatchSummary db batchId now).1.tasks id =
          (findTaskById db.tasks id).map fun row => if id = taskId then refreshSynthesisTaskRow
            (roadmapSynthesisReady db (listRoadmapBatchArtifacts db batchId)) now row
              else row := by
        simp only [refreshRoadmapBatchSummary, found, task]
        exact findTaskById_updateWhereId (id_refreshSynthesisTaskRow _)
      refine ⟨_, written, ?_⟩
      by_cases same : id = taskId
      · subst same
        cases ready : roadmapSynthesisReady db (listRoadmapBatchArtifacts db batchId) <;>
          simp [readyTask, found, task, ready]
      · have other : readyTask db batchId ≠ some id := by
          intro readyId
          simp only [readyTask, found, Option.bind_some, task] at readyId
          split at readyId
          · exact same (Option.some.inj readyId).symm
          · cases readyId
        simp [other, same]

theorem paused_refresh_ready (row : TaskRow) :
    (refreshSynthesisTaskRow true now row).paused =
      (row.paused && !(row.blockedReason.isNone || isSynthesisHoldReason row.blockedReason)) := by
  simp only [refreshSynthesisTaskRow, if_true, TaskRow.set_paused, Option.getD_some]
  split
  next label => simp [label]
  next other => simp [Bool.eq_false_iff.mpr other]

theorem paused_refresh_unready (row : TaskRow) :
    (refreshSynthesisTaskRow false now row).paused = true := rfl

end Refresh

/-! ### One step -/

section Steps

variable [ValidationDetails δ] {s : HoldState δ} {op : HoldOp δ}

/-- A step with a refresh does nothing else to the tasks. -/
theorem execHold_of_refreshed {db : RoadmapStore δ} {batchId : String}
    (refreshes : refreshedBy s op = some (db, batchId)) :
    db.tasks = s.db.tasks ∧ (execHold s op).operatorPaused = s.operatorPaused ∧
      ∃ now, (execHold s op).db = (refreshRoadmapBatchSummary db batchId now).1 := by
  cases op with
  | roadmap op =>
    cases op with
    | createBatch input now randomUUID =>
      simp only [refreshedBy] at refreshes
      split at refreshes
      · cases refreshes
      next safe =>
        cases refreshes
        refine ⟨rfl, rfl, now, ?_⟩
        simp only [execHold]
        rw [execRoadmap_createBatch, if_neg safe]
    | updateArtifact input now randomUUID =>
      obtain ⟨artifact, found, refreshes⟩ := Option.bind_eq_some_iff.mp refreshes
      split at refreshes
      · cases refreshes
      next justified =>
        cases refreshes
        refine ⟨rfl, rfl, now, ?_⟩
        simp [execHold, execRoadmap, updateRoadmapBatchArtifactState, found, justified]
  | refresh batchId now =>
    cases refreshes
    exact ⟨rfl, rfl, now, rfl⟩
  | hold taskId reason fromStatus now => cases refreshes
  | pause taskId now => cases refreshes
  | resume taskId now => cases refreshes

theorem execHold_of_not_refreshed {op : RoadmapOp δ} (none_ : refreshedBy s (.roadmap op) = none) :
    execHold s (.roadmap op) = s := by
  cases op with
  | createBatch input now randomUUID =>
    simp only [refreshedBy] at none_
    split at none_
    next isUnsafe =>
      simp only [execHold]
      rw [execRoadmap_createBatch, if_pos isUnsafe]
    next => cases none_
  | updateArtifact input now randomUUID =>
    rcases updateArtifact_cases s.db input now randomUUID with
      ⟨same, -⟩ | ⟨artifact, found, justified, -⟩
    · simp only [execHold, same]
    · simp [refreshedBy, found, justified] at none_

omit [ValidationDetails δ] in
theorem findTaskById_writeTask {db : RoadmapStore δ} {taskId id : TaskId} {patch : TaskFieldsPatch} :
    findTaskById (writeTask db taskId patch).tasks id =
      (findTaskById db.tasks id).map fun row =>
        if id = taskId then setTaskFields row patch else row :=
  findTaskById_updateWhereId fun _ => rfl

theorem setTaskFields_paused {row : TaskRow} {patch : TaskFieldsPatch}
    (pauses : patch.paused = some true) : (setTaskFields row patch).paused = true := by
  simp only [setTaskFields, normalizeOperatorInputHoldPatch]
  split <;> simp [pauses]

theorem stands_of_refreshed {db : RoadmapStore δ} {batchId : String}
    (refreshes : refreshedBy s op = some (db, batchId)) (stand : OperatorPausesStand s)
    (releases : ReleasesOnlyHolds s op) : OperatorPausesStand (execHold s op) := by
  obtain ⟨tasks, kept, now, done⟩ := execHold_of_refreshed refreshes
  intro id held row' found'
  rw [kept] at held
  obtain ⟨write, written, -⟩ := findTaskById_refresh db batchId now id
  rw [done, written, tasks] at found'
  obtain ⟨row, found, same⟩ := Option.map_eq_some_iff.mp found'
  cases paused : row'.paused with
  | true => rfl
  | false =>
    have after : findTaskById (execHold s op).db.tasks id = some row' := by
      rw [done, written, tasks, found, Option.map_some, same]
    rcases releases id row row' found after (stand id held row found) paused with
      ⟨_, rfl⟩ | ⟨-, notHeld⟩
    · cases refreshes
    · exact absurd held notHeld

theorem releasesOnlyHolds_of_refreshed {db : RoadmapStore δ} {batchId : String}
    (refreshes : refreshedBy s op = some (db, batchId)) :
    ReleasesOnlyHolds s op ↔ releaseOk s op = true := by
  obtain ⟨tasks, kept, now, done⟩ := execHold_of_refreshed refreshes
  have ok : releaseOk s op = true ↔ ∀ id, readyTask db batchId = some id →
      ∀ row, findTaskById s.db.tasks id = some row → isOperatorHeld s row = false := by
    simp [releaseOk, refreshes, Option.all_eq_true]
  rw [ok]
  constructor
  · intro releases id ready row found
    obtain ⟨write, written, released⟩ := findTaskById_refresh db batchId now id
    rw [if_pos ready] at released
    have after : findTaskById (execHold s op).db.tasks id =
        some (refreshSynthesisTaskRow true now row) := by
      rw [done, written, tasks, found, released]
      rfl
    by_contra operatorHeld
    simp only [isOperatorHeld, Bool.not_eq_false, Bool.and_eq_true, Bool.or_eq_true] at operatorHeld
    obtain ⟨paused, label⟩ := operatorHeld
    have cleared : (refreshSynthesisTaskRow true now row).paused = false := by
      rcases label with none_ | ⟨hold, -⟩
      · simp [paused_refresh_ready, none_]
      · simp [paused_refresh_ready, hold]
    rcases releases id row _ found after paused cleared with ⟨_, rfl⟩ | ⟨hold, notPaused⟩
    · cases refreshes
    · rcases label with none_ | ⟨-, operatorPaused⟩
      · rw [Option.isNone_iff_eq_none.mp none_] at hold
        cases hold
      · rw [(findTaskById_some found).2, List.contains_iff_mem] at operatorPaused
        exact notPaused operatorPaused
  · intro harmless id row row' found found' paused released
    right
    obtain ⟨write, written, cases_⟩ := findTaskById_refresh db batchId now id
    rw [done, written, tasks, found, Option.map_some, Option.some.injEq] at found'
    subst found'
    by_cases ready : readyTask db batchId = some id
    · rw [if_pos ready] at cases_
      rw [cases_, paused_refresh_ready, paused] at released
      have free := harmless id ready row found
      simp only [isOperatorHeld, paused, (findTaskById_some found).2, Bool.true_and,
        Bool.or_eq_false_iff, Bool.and_eq_false_iff] at free
      obtain ⟨labelled, free⟩ := free
      have hold : isSynthesisHoldReason row.blockedReason = true := by
        simpa [labelled] using released
      refine ⟨hold, fun operatorPaused => ?_⟩
      rcases free with notHold | notPaused
      · rw [hold] at notHold
        cases notHold
      · rw [List.contains_iff_mem.mpr operatorPaused] at notPaused
        cases notPaused
    · rw [if_neg ready] at cases_
      rcases cases_ with rfl | rfl
      · rw [paused] at released
        cases released
      · rw [paused_refresh_unready] at released
        cases released

theorem respects_of_pausing {taskId : TaskId} {patch : TaskFieldsPatch}
    (stand : OperatorPausesStand s) (writes : (execHold s op).db = writeTask s.db taskId patch)
    (pauses : patch.paused = some true)
    (held : ∀ id ∈ (execHold s op).operatorPaused, id = taskId ∨ id ∈ s.operatorPaused) :
    RespectsOperator s op := by
  constructor
  · intro id row row' found found' paused released
    rw [writes, findTaskById_writeTask, found, Option.map_some, Option.some.injEq] at found'
    subst found'
    split at released
    · rw [setTaskFields_paused pauses] at released
      cases released
    · rw [paused] at released
      cases released
  · intro id held' row' found'
    rw [writes, findTaskById_writeTask] at found'
    obtain ⟨row, found, rfl⟩ := Option.map_eq_some_iff.mp found'
    by_cases same : id = taskId
    · rw [if_pos same]
      exact setTaskFields_paused pauses
    · rw [if_neg same]
      exact stand id ((held id held').resolve_left same) row found

theorem respects_resume {taskId : TaskId} {now : Nat} (stand : OperatorPausesStand s) :
    RespectsOperator s (.resume taskId now) := by
  constructor
  · intro id row row' found found' paused released
    simp only [execHold] at found'
    rw [findTaskById_writeTask, found, Option.map_some, Option.some.injEq] at found'
    subst found'
    by_cases same : id = taskId
    · exact .inl ⟨now, by rw [same]⟩
    · rw [if_neg same, paused] at released
      cases released
  · intro id held row' found'
    simp only [execHold, List.mem_filter, decide_eq_true_eq] at held
    simp only [execHold] at found'
    rw [findTaskById_writeTask] at found'
    obtain ⟨row, found, rfl⟩ := Option.map_eq_some_iff.mp found'
    rw [if_neg held.2]
    exact stand id held.1 row found

/-- A step respects the operator exactly when its refresh does not release what the
operator holds. -/
theorem respectsOperator_iff (stand : OperatorPausesStand s) :
    RespectsOperator s op ↔ releaseOk s op = true := by
  cases refreshes : refreshedBy s op with
  | some refreshed =>
    rw [← releasesOnlyHolds_of_refreshed refreshes]
    exact ⟨fun respects => respects.1,
      fun releases => ⟨releases, stands_of_refreshed refreshes stand releases⟩⟩
  | none =>
    have ok : releaseOk s op = true := by simp [releaseOk, refreshes]
    simp only [ok, iff_true]
    cases op with
    | roadmap op =>
      rw [RespectsOperator, ReleasesOnlyHolds, execHold_of_not_refreshed refreshes]
      refine ⟨fun id row row' found found' paused released => ?_, stand⟩
      rw [Option.some.inj (found.symm.trans found'), released] at paused
      cases paused
    | refresh batchId now => cases refreshes
    | hold taskId reason fromStatus now =>
      exact respects_of_pausing stand rfl rfl fun id held => .inr held
    | pause taskId now =>
      exact respects_of_pausing stand rfl rfl fun id held => List.mem_cons.mp held
    | resume taskId now => exact respects_resume stand

end Steps

/-! ### Runs -/

section Runs

variable [ValidationDetails δ]

/-- A run respects the operator exactly when no refresh of it releases a task that the
operator holds. -/
theorem respected_along_iff (db : RoadmapStore δ) (ops : List (HoldOp δ)) :
    Along RespectsOperator execHold { db } ops ↔
      Along (fun s op => releaseOk s op = true) execHold { db } ops := by
  have start : OperatorPausesStand ({ db } : HoldState δ) := by
    intro id held
    cases held
  generalize ({ db } : HoldState δ) = s at start
  induction ops generalizing s with
  | nil => exact Iff.rfl
  | cons op ops ih =>
    constructor
    · rintro ⟨respects, rest⟩
      exact ⟨(respectsOperator_iff start).mp respects, (ih _ respects.2).mp rest⟩
    · rintro ⟨harmless, rest⟩
      have respects := (respectsOperator_iff start).mpr harmless
      exact ⟨respects, (ih _ respects.2).mpr rest⟩

end Runs

/-- A ready batch whose synthesis task is in the backlog. -/
def releasedBatch : RoadmapStore NoDetails :=
  { closedBatch .sourceInconclusive with
    tasks := [{ id := "synthesis", projectId := "project", updatedAt := 0 }] }

/-- The operator pauses a released synthesis task, and the next refresh resumes it. -/
theorem paused_task_released :
    ¬ ∀ (db : RoadmapStore NoDetails) (ops : List (HoldOp NoDetails)),
      Along RespectsOperator execHold { db } ops := by
  intro respected
  have refresh := (respected releasedBatch [.pause "synthesis" 2, .refresh "batch" 3]).2.1
  exact absurd ((releasesOnlyHolds_of_refreshed rfl).mp refresh.1) (by decide)

end AifHandoff.System
