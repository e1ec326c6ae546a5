import Mathlib.Tactic.Simps.Basic

/-!
The `tasks` table: its enumerations, one stored row, and the patch of a partial
update.

A row holds the columns that some modelled function reads or writes, under the
schema's names and with the schema's defaults. Time stamps are milliseconds: the
code compares ISO strings of one fixed format, whose order is the order of the
instants. `position` and `hierarchyPosition` are read as sort keys only.

A `TaskFieldsPatch` is a `Partial` row: `none` is a column the patch does not
mention, and for a nullable column `some none` writes null.
-/

namespace AifHandoff

inductive TaskStatus where
  | backlog | requirementsAnalysis | needsInput | research | design | planning | planReady
  | implementing | review | qa | blockedExternal | done | verified
deriving DecidableEq, Repr

/-- The stored spelling. -/
def TaskStatus.text : TaskStatus → String
  | .backlog => "backlog"
  | .requirementsAnalysis => "requirements_analysis"
  | .needsInput => "needs_input"
  | .research => "research"
  | .design => "design"
  | .planning => "planning"
  | .planReady => "plan_ready"
  | .implementing => "implementing"
  | .review => "review"
  | .qa => "qa"
  | .blockedExternal => "blocked_external"
  | .done => "done"
  | .verified => "verified"

/-- The statuses in which a coordinator stage may be running. -/
def inProgressStatuses : List TaskStatus :=
  [.requirementsAnalysis, .research, .design, .planning, .implementing, .review, .qa]

inductive TaskIntent where
  | general | audit | feature | fix | spike | docs | tests
deriving DecidableEq, Repr

inductive TaskHierarchyRole where
  | executable | container
deriving DecidableEq, Repr

inductive TaskParentCloseoutPolicy where
  | allChildrenDone | allChildrenVerified | synthesisChildVerified
deriving DecidableEq, Repr

inductive CoordinatorStage where
  | requirementsAnalyst | researcher | designer | planner | planChecker | implementer
  | reviewer | qa
deriving DecidableEq, Repr

abbrev TaskId := String

/-- One row of `tasks`. -/
structure TaskRow where
  id : TaskId
  projectId : String
  autoMode : Bool := true
  taskIntent : TaskIntent := .general
  isFix : Bool := false
  status : TaskStatus := .backlog
  position : Int := 1000
  parentTaskId : Option TaskId := none
  rootTaskId : Option TaskId := none
  hierarchyDepth : Int := 0
  hierarchyRole : TaskHierarchyRole := .executable
  hierarchyPosition : Int := 1000
  parentCloseoutPolicy : Option TaskParentCloseoutPolicy := none
  plan : Option String := none
  implementationLog : Option String := none
  reviewComments : Option String := none
  blockedReason : Option String := none
  blockedFromStatus : Option TaskStatus := none
  retryAfter : Option Nat := none
  retryCount : Nat := 0
  reworkRequested : Bool := false
  reviewIterationCount : Nat := 0
  maxReviewIterations : Nat := 100
  manualReviewRequired : Bool := false
  autoReviewState : Option String := none
  paused : Bool := false
  lastHeartbeatAt : Option Nat := none
  sessionId : Option String := none
  lockedBy : Option String := none
  lockedUntil : Option Nat := none
  lockStage : Option CoordinatorStage := none
  coordinatorId : Option String := none
  scheduledAt : Option Nat := none
  branchName : Option String := none
  worktreePath : Option String := none
  createdAt : Nat := 0
  updatedAt : Nat := 0
deriving DecidableEq, Repr

/-- A partial row, as passed to an update. -/
structure TaskFieldsPatch where
  autoMode : Option Bool := none
  taskIntent : Option TaskIntent := none
  isFix : Option Bool := none
  status : Option TaskStatus := none
  position : Option Int := none
  parentTaskId : Option (Option TaskId) := none
  rootTaskId : Option (Option TaskId) := none
  hierarchyDepth : Option Int := none
  hierarchyRole : Option TaskHierarchyRole := none
  hierarchyPosition : Option Int := none
  parentCloseoutPolicy : Option (Option TaskParentCloseoutPolicy) := none
  plan : Option (Option String) := none
  implementationLog : Option (Option String) := none
  reviewComments : Option (Option String) := none
  blockedReason : Option (Option String) := none
  blockedFromStatus : Option (Option TaskStatus) := none
  retryAfter : Option (Option Nat) := none
  retryCount : Option Nat := none
  reworkRequested : Option Bool := none
  reviewIterationCount : Option Nat := none
  maxReviewIterations : Option Nat := none
  manualReviewRequired : Option Bool := none
  autoReviewState : Option (Option String) := none
  paused : Option Bool := none
  lastHeartbeatAt : Option (Option Nat) := none
  sessionId : Option (Option String) := none
  lockedBy : Option (Option String) := none
  lockedUntil : Option (Option Nat) := none
  lockStage : Option (Option CoordinatorStage) := none
  coordinatorId : Option (Option String) := none
  scheduledAt : Option (Option Nat) := none
  branchName : Option (Option String) := none
  worktreePath : Option (Option String) := none
  updatedAt : Option Nat := none
deriving DecidableEq, Repr

/-- `update(tasks).set(patch)` on one row. -/
@[simps]
def TaskRow.set (row : TaskRow) (patch : TaskFieldsPatch) : TaskRow where
  id := row.id
  projectId := row.projectId
  autoMode := patch.autoMode.getD row.autoMode
  taskIntent := patch.taskIntent.getD row.taskIntent
  isFix := patch.isFix.getD row.isFix
  status := patch.status.getD row.status
  position := patch.position.getD row.position
  parentTaskId := patch.parentTaskId.getD row.parentTaskId
  rootTaskId := patch.rootTaskId.getD row.rootTaskId
  hierarchyDepth := patch.hierarchyDepth.getD row.hierarchyDepth
  hierarchyRole := patch.hierarchyRole.getD row.hierarchyRole
  hierarchyPosition := patch.hierarchyPosition.getD row.hierarchyPosition
  parentCloseoutPolicy := patch.parentCloseoutPolicy.getD row.parentCloseoutPolicy
  plan := patch.plan.getD row.plan
  implementationLog := patch.implementationLog.getD row.implementationLog
  reviewComments := patch.reviewComments.getD row.reviewComments
  blockedReason := patch.blockedReason.getD row.blockedReason
  blockedFromStatus := patch.blockedFromStatus.getD row.blockedFromStatus
  retryAfter := patch.retryAfter.getD row.retryAfter
  retryCount := patch.retryCount.getD row.retryCount
  reworkRequested := patch.reworkRequested.getD row.reworkRequested
  reviewIterationCount := patch.reviewIterationCount.getD row.reviewIterationCount
  maxReviewIterations := patch.maxReviewIterations.getD row.maxReviewIterations
  manualReviewRequired := patch.manualReviewRequired.getD row.manualReviewRequired
  autoReviewState := patch.autoReviewState.getD row.autoReviewState
  paused := patch.paused.getD row.paused
  lastHeartbeatAt := patch.lastHeartbeatAt.getD row.lastHeartbeatAt
  sessionId := patch.sessionId.getD row.sessionId
  lockedBy := patch.lockedBy.getD row.lockedBy
  lockedUntil := patch.lockedUntil.getD row.lockedUntil
  lockStage := patch.lockStage.getD row.lockStage
  coordinatorId := patch.coordinatorId.getD row.coordinatorId
  scheduledAt := patch.scheduledAt.getD row.scheduledAt
  branchName := patch.branchName.getD row.branchName
  worktreePath := patch.worktreePath.getD row.worktreePath
  createdAt := row.createdAt
  updatedAt := patch.updatedAt.getD row.updatedAt

end AifHandoff
