import AifHandoff.Data.Claims
import AifHandoff.Data.RoadmapRuns
import AifHandoff.Data.RollupTable

/-!
The operations of the data layer that a container's status depends on, with the rollups
they refresh (`setTaskFields`, `claimBacklogTaskForAdvance`,
`blockTaskForRuntimeGateIfEligible`, `deleteTask`, `createRoadmapBatchContract` and
`updateRoadmapBatchArtifactState` of `data/index.ts`).

`createTask` and `updateTask` are those of `AifHandoff.Data.Hierarchy`; the roadmap
functions add the refresh of the synthesis task's ancestors to those of
`AifHandoff.Data.RoadmapArtifacts`. Comments of a task are left out.
-/

namespace AifHandoff.Data

variable {δ : Type} [ValidationDetails δ]

/-- What the rollups read of the roadmap tables. -/
def viewOf (db : RoadmapStore δ) : RollupView where
  releaseReady taskId :=
    (findRoadmapBatchArtifactByTaskId db taskId).any (roadmapReportArtifactReleaseReady db)
  auditBatches :=
    (db.batches.filter (·.taskIntent == .audit)).map fun batch =>
      (batch.projectId, batch.synthesisTaskId)

def rollupContext (db : RoadmapStore δ) (now : Nat) : RollupContext := ⟨viewOf db, now⟩

/-- `refreshAncestorRollups` on the tables. -/
def refreshAncestors (db : RoadmapStore δ) (taskId : TaskId) (now : Nat) : RoadmapStore δ :=
  { db with tasks := refreshAncestorRollups (rollupContext db now) db.tasks taskId }

/-! ### Single tasks -/

/-- `setTaskFields` by id. -/
def setTaskFieldsById (db : RoadmapStore δ) (id : TaskId) (patch : TaskFieldsPatch) (now : Nat) :
    RoadmapStore δ :=
  refreshAncestors { db with tasks := updateWhereId db.tasks id (setTaskFields · patch) } id now

/-- The condition of the advance, and what it writes. -/
def isAdvanceable (taskId : TaskId) (row : TaskRow) : Bool :=
  row.id == taskId && row.status == .backlog && row.hierarchyRole != .container && !row.paused

def advancePatch (targetStatus : TaskStatus) (now : Nat) : TaskFieldsPatch where
  status := some targetStatus
  scheduledAt := some none
  blockedReason := some none
  blockedFromStatus := some none
  retryAfter := some none
  retryCount := some 0
  reworkRequested := some false
  reviewIterationCount := some 0
  manualReviewRequired := some false
  autoReviewState := some none
  lastHeartbeatAt := some (some now)
  updatedAt := some now

/-- The tables, and whether the task was advanced. -/
def claimBacklogTaskForAdvance (db : RoadmapStore δ) (localeCompare : String → String → Int)
    (taskId : TaskId) (targetStatus : TaskStatus) (now : Nat) : RoadmapStore δ × Bool :=
  if (findTaskById db.tasks taskId).isNone ||
      !auditRoadmapTaskDependenciesReleaseReady db localeCompare taskId then (db, false)
  else
    let written := { db with
      tasks := updateWhere db.tasks (isAdvanceable taskId) (advancePatch targetStatus now) }
    if changesRows db.tasks (isAdvanceable taskId) then (refreshAncestors written taskId now, true)
    else (written, false)

/-- `blockTaskForRuntimeGateIfEligible` with its refresh. -/
def blockForRuntimeGate (db : RoadmapStore δ) (input : RuntimeGateBlock) (now : Nat) :
    RoadmapStore δ × Bool :=
  let (tasks, changed) := blockTaskForRuntimeGateIfEligible db.tasks input now
  let written := { db with tasks }
  if changed then (refreshAncestors written input.taskId now, true) else (written, false)

/-! ### Batches -/

/-- `refreshRoadmapBatchSummary` with its refresh. -/
def refreshRoadmapBatch (db : RoadmapStore δ) (batchId : String) (now : Nat) : RoadmapStore δ :=
  let refreshed := (refreshRoadmapBatchSummary db batchId now).1
  match (findRoadmapBatch db batchId).bind (·.synthesisTaskId) with
  | none => refreshed
  | some taskId => refreshAncestors refreshed taskId now

/-- `createRoadmapBatchContract` with its refreshes. -/
def createBatch (db : RoadmapStore δ) (input : CreateRoadmapBatchContractInput) (now : Nat)
    (randomUUID : Nat → String) : Except String (RoadmapStore δ) :=
  match createRoadmapBatchContract db input now randomUUID with
  | .error error => .error error
  | .ok _ =>
    let refreshed := refreshRoadmapBatch (insertRoadmapBatch db input now randomUUID)
      (randomUUID 0) now
    match input.synthesisTaskId with
    | none => .ok refreshed
    | some taskId => .ok (refreshAncestors refreshed taskId now)

/-- `updateRoadmapBatchArtifactState` with its refresh. -/
def updateArtifact (db : RoadmapStore δ) (input : RoadmapArtifactStateInput δ) (now : Nat)
    (randomUUID : String) : Except String (RoadmapStore δ) :=
  match updateRoadmapBatchArtifactState db input now randomUUID with
  | .error error => .error error
  | .ok _ =>
    match findRoadmapBatchArtifactByTaskId db input.taskId with
    | none => .ok db
    | some artifact => .ok (refreshRoadmapBatch
        (recordAttempt db artifact input now randomUUID) artifact.batchId now)

/-! ### Deleting a task -/

section Delete

variable (db : RoadmapStore δ) (id : TaskId)

/-- The batches that hold an artifact of the task or name it. -/
def linkedBatchIds : List String :=
  (((db.artifacts.filter (·.taskId == id)).map (·.batchId)) ++
    ((db.batches.filter fun batch =>
      batch.synthesisTaskId == some id || batch.createdTaskIds.contains id).map (·.id))).eraseDups

/-- The batch is dropped with the task: nothing of it is left. -/
def dropsBatch (batch : RoadmapBatchRow) : Bool :=
  (linkedBatchIds db id).contains batch.id &&
    !(db.artifacts.any fun artifact => artifact.taskId != id && artifact.batchId == batch.id) &&
    (batch.createdTaskIds.filter (· ≠ id)).isEmpty

def forgetTask (now : Nat) (batch : RoadmapBatchRow) : RoadmapBatchRow :=
  if (linkedBatchIds db id).contains batch.id then
    { batch with
      createdTaskIds := batch.createdTaskIds.filter (· ≠ id)
      synthesisTaskId := batch.synthesisTaskId.filter (· ≠ id)
      updatedAt := now }
  else batch

/-- The transaction of a deletion. -/
def removeTask (now : Nat) : RoadmapStore δ where
  tasks := db.tasks.filter (·.id ≠ id)
  batches := (db.batches.filter (!dropsBatch db id ·)).map (forgetTask db id now)
  artifacts := db.artifacts.filter (·.taskId ≠ id)
  attempts := db.attempts.filter (·.taskId ≠ id)

/-- The batches that outlive the deletion. -/
def batchesToRefresh : List String :=
  (linkedBatchIds db id).filter fun batchId =>
    db.batches.any fun batch => batch.id == batchId && !dropsBatch db id batch

def deleteTask (allowAttachedChild : Bool) (now : Nat) : Except String (RoadmapStore δ) :=
  match findTaskById db.tasks id with
  | none => .ok db
  | some existing =>
    if 0 < directChildCount db.tasks id then .error "Cannot delete a task that has child tasks"
    else if !allowAttachedChild && ((parentLink existing).bind (findTaskById db.tasks)).any
        (fun parent => parent.status ≠ .done && parent.status ≠ .verified) then
      .error "Cannot delete an attached child while its parent is open"
    else
      let refreshed := (batchesToRefresh db id).foldl (refreshRoadmapBatch · · now)
        (removeTask db id now)
      .ok { refreshed with
        tasks := refreshRollupsForParents (rollupContext refreshed now) refreshed.tasks
          [existing.parentTaskId] }

end Delete

/-! ### The system -/

inductive RollupOp (δ : Type) where
  | createTask (agentMaxReviewIterations : Nat) (id : TaskId) (input : CreateTaskInput) (now : Nat)
  | updateTask (id : TaskId) (fields : TaskFieldsUpdate) (now : Nat)
  | deleteTask (id : TaskId) (allowAttachedChild : Bool) (now : Nat)
  | setTaskFields (id : TaskId) (patch : TaskFieldsPatch) (now : Nat)
  | claimBacklogTaskForAdvance (localeCompare : String → String → Int) (taskId : TaskId)
      (targetStatus : TaskStatus) (now : Nat)
  | blockTaskForRuntimeGate (input : RuntimeGateBlock) (now : Nat)
  | createBatch (input : CreateRoadmapBatchContractInput) (now : Nat) (randomUUID : Nat → String)
  | updateArtifact (input : RoadmapArtifactStateInput δ) (now : Nat) (randomUUID : String)

/-- The tables after a call, unless it throws. -/
def callRollup (db : RoadmapStore δ) : RollupOp δ → Except String (RoadmapStore δ)
  | .createTask agentMaxReviewIterations id input now =>
    (createTask (rollupContext db now) agentMaxReviewIterations id input db.tasks).map
      fun tasks => { db with tasks }
  | .updateTask id fields now =>
    (updateTask (rollupContext db now) id fields db.tasks).map fun tasks => { db with tasks }
  | .deleteTask id allowAttachedChild now => deleteTask db id allowAttachedChild now
  | .setTaskFields id patch now => .ok (setTaskFieldsById db id patch now)
  | .claimBacklogTaskForAdvance localeCompare taskId targetStatus now =>
    .ok (claimBacklogTaskForAdvance db localeCompare taskId targetStatus now).1
  | .blockTaskForRuntimeGate input now => .ok (blockForRuntimeGate db input now).1
  | .createBatch input now randomUUID => createBatch db input now randomUUID
  | .updateArtifact input now randomUUID => updateArtifact db input now randomUUID

/-- The ids a call draws are new; the id of a task is not the empty text. -/
def DrawsFresh (db : RoadmapStore δ) : RollupOp δ → Prop
  | .createTask _ id _ _ => id ≠ ""
  | .createBatch input now randomUUID => FreshIds db (.createBatch input now randomUUID)
  | .updateArtifact input now randomUUID => FreshIds db (.updateArtifact input now randomUUID)
  | _ => True

instance (db : RoadmapStore δ) : (op : RollupOp δ) → Decidable (DrawsFresh db op)
  | .createTask _ id _ _ => inferInstanceAs (Decidable (id ≠ ""))
  | .createBatch input now randomUUID =>
    inferInstanceAs (Decidable (FreshIds db (.createBatch input now randomUUID)))
  | .updateArtifact input now randomUUID =>
    inferInstanceAs (Decidable (FreshIds db (.updateArtifact input now randomUUID)))
  | .updateTask _ _ _ | .deleteTask _ _ _ | .setTaskFields _ _ _
  | .claimBacklogTaskForAdvance _ _ _ _ | .blockTaskForRuntimeGate _ _ =>
    inferInstanceAs (Decidable True)

/-- Successful calls from empty tables. -/
def rollupSystem : Transition.System (RoadmapStore δ) (RollupOp δ) where
  init db := db = {}
  step db op db' := DrawsFresh db op ∧ callRollup db op = .ok db'

end AifHandoff.Data
