import AifHandoff.Data.TaskTable
import Mathlib.Data.List.Sort

/-!
Task claims in the database (`findCoordinatorTaskCandidates`, `claimTask`,
`blockTaskForRuntimeGateIfEligible`, `renewTaskClaim`, `releaseTaskClaim`,
`releaseStaleTaskClaims` of `data/index.ts`).

Each function is one statement: a condition on the rows and a patch. A null
`lockedUntil` compares with nothing.
-/

namespace AifHandoff.Data

/-- `stageFilter`. -/
def stageFilter (stage : CoordinatorStage) (row : TaskRow) : Bool :=
  match stage with
  | .requirementsAnalyst => row.status == .requirementsAnalysis
  | .researcher => row.status == .research
  | .designer => row.status == .design
  | .qa => row.status == .qa
  | .implementer => row.status == .implementing || (row.status == .planReady && row.autoMode)
  | .planChecker => row.status == .planReady && row.autoMode
  | .planner => row.status == .planning
  | .reviewer => row.status == .review

/-- `lockedBy IS NULL OR lockedUntil <= now`. -/
def isUnlocked (now : Nat) (row : TaskRow) : Bool :=
  row.lockedBy.isNone || row.lockedUntil.any (· ≤ now)

/-- The condition of the candidate query. -/
def isCandidate (stage : CoordinatorStage) (now : Nat) (row : TaskRow) : Bool :=
  stageFilter stage row && row.hierarchyRole != .container && !row.paused && isUnlocked now row

/-- `orderBy(asc(position), asc(createdAt))`. -/
def queueOrder (a b : TaskRow) : Prop :=
  a.position < b.position ∨ (a.position = b.position ∧ a.createdAt ≤ b.createdAt)

instance : DecidableRel queueOrder := fun a b =>
  inferInstanceAs (Decidable (a.position < b.position ∨ _))

def findCoordinatorTaskCandidates (store : TaskStore) (stage : CoordinatorStage) (limit : Nat)
    (now : Nat) : List TaskRow :=
  ((store.filter (isCandidate stage now)).insertionSort queueOrder).take limit

/-- The condition of a claim. -/
def isClaimable (taskId : TaskId) (now : Nat) (row : TaskRow) : Bool :=
  row.id == taskId && row.hierarchyRole != .container && isUnlocked now row

def claimPatch (coordinatorId : String) (lockDurationMs : Nat) (lockStage : CoordinatorStage)
    (now : Nat) : TaskFieldsPatch where
  lockedBy := some (some coordinatorId)
  lockedUntil := some (some (now + lockDurationMs))
  coordinatorId := some (some coordinatorId)
  lockStage := some (some lockStage)
  lastHeartbeatAt := some (some now)
  updatedAt := some now

/-- The table after the claim, and whether it succeeded. -/
def claimTask (store : TaskStore) (taskId : TaskId) (coordinatorId : String)
    (lockDurationMs : Nat) (lockStage : CoordinatorStage) (now : Nat) : TaskStore × Bool :=
  (updateWhere store (isClaimable taskId now)
      (claimPatch coordinatorId lockDurationMs lockStage now),
    changesRows store (isClaimable taskId now))

/-- A runtime gate block, with what the caller expects of the row. -/
structure RuntimeGateBlock where
  taskId : TaskId
  expectedProjectId : Option String
  expectedStatus : TaskStatus
  expectedAutoMode : Option Bool
  blockedFromStatus : TaskStatus
  blockedReason : String
  retryAfter : Option Nat
  retryCount : Nat

/-- The condition of `blockTaskForRuntimeGateIfEligible`. Unlike a claim it asks again
for the status, and that the task is not paused. -/
def isGateEligible (input : RuntimeGateBlock) (now : Nat) (row : TaskRow) : Bool :=
  row.id == input.taskId && row.status == input.expectedStatus &&
    row.hierarchyRole != .container && !row.paused && isUnlocked now row &&
    input.expectedProjectId.all (row.projectId == ·) &&
    input.expectedAutoMode.all (row.autoMode == ·)

def blockTaskForRuntimeGateIfEligible (store : TaskStore) (input : RuntimeGateBlock) (now : Nat) :
    TaskStore × Bool :=
  (updateWhere store (isGateEligible input now)
      { status := some .blockedExternal
        blockedFromStatus := some (some input.blockedFromStatus)
        blockedReason := some (some input.blockedReason)
        retryAfter := some input.retryAfter
        retryCount := some input.retryCount
        updatedAt := some now },
    changesRows store (isGateEligible input now))

/-- `id = taskId AND lockedBy = coordinatorId`. -/
def isOwned (taskId : TaskId) (coordinatorId : String) (row : TaskRow) : Bool :=
  row.id == taskId && row.lockedBy == some coordinatorId

def renewTaskClaim (store : TaskStore) (taskId : TaskId) (coordinatorId : String)
    (lockDurationMs : Nat) (now : Nat) : TaskStore :=
  updateWhere store (isOwned taskId coordinatorId)
    { lockedUntil := some (some (now + lockDurationMs))
      lastHeartbeatAt := some (some now)
      updatedAt := some now }

def releasePatch (now : Nat) : TaskFieldsPatch where
  lockedBy := some none
  lockedUntil := some none
  coordinatorId := some none
  lockStage := some none
  updatedAt := some now

/-- The table after the release, and whether it changed one. -/
def releaseTaskClaim (store : TaskStore) (taskId : TaskId) (coordinatorId : String)
    (now : Nat) : TaskStore × Bool :=
  (updateWhere store (isOwned taskId coordinatorId) (releasePatch now),
    changesRows store (isOwned taskId coordinatorId))

/-- `now` minus five minutes, on instants that may precede the first five. -/
def isBeforeHeartbeatDeadline (now at_ : Nat) : Bool := at_ + 5 * 60 * 1000 ≤ now

/-- The condition of the stale sweep: the lock has expired, or the task is in
progress and has seen neither a write nor a heartbeat for five minutes. -/
def isStaleClaim (now : Nat) (row : TaskRow) : Bool :=
  row.lockedBy.isSome &&
    (row.lockedUntil.any (· ≤ now) ||
      (inProgressStatuses.contains row.status && isBeforeHeartbeatDeadline now row.updatedAt &&
        (row.lastHeartbeatAt.isNone || row.lastHeartbeatAt.any (isBeforeHeartbeatDeadline now))))

def releaseStaleTaskClaims (store : TaskStore) (now : Nat) : TaskStore :=
  updateWhere store (isStaleClaim now) (releasePatch now)

section Results

variable {store : TaskStore} {taskId : TaskId} {now : Nat}

theorem claimTask_iff (nodup : (store.map (·.id)).Nodup) (coordinatorId : String)
    (lockDurationMs : Nat) (lockStage : CoordinatorStage) :
    (claimTask store taskId coordinatorId lockDurationMs lockStage now).2 = true ↔
      ∃ row, findTaskById store taskId = some row ∧ row.hierarchyRole ≠ .container ∧
        isUnlocked now row = true := by
  rw [claimTask, changesRows_iff taskId nodup (by simp +contextual [isClaimable])]
  constructor
  · rintro ⟨row, found, claimable⟩
    refine ⟨row, found, ?_⟩
    simpa [isClaimable, (findTaskById_some found).2] using claimable
  · rintro ⟨row, found, executable, unlocked⟩
    exact ⟨row, found, by simp [isClaimable, (findTaskById_some found).2, executable, unlocked]⟩

end Results

end AifHandoff.Data
