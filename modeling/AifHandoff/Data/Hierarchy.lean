import AifHandoff.Data.Rollup
import AifHandoff.Data.TaskTable
import Mathlib.Data.List.Sort

/-!
The task hierarchy: `createTask` and `updateTask` over the whole `tasks` table
(`packages/data/src/index.ts`).

A task stores its parent; its depth and its root are cached beside the link. A new
task computes them from its parent. A move computes them for the moved task and
shifts those of its descendants (`applyDescendantHierarchyShift`). Both promote the
parent to a container and refresh the rollups above.

Loops over parent and child links
take their bound from the size of the table, which no chain of links in a forest
exceeds.
-/

namespace AifHandoff.Data

def maxTaskHierarchyDepth : Int := 2

def defaultHierarchyPosition : Int := 1000

/-- The order of siblings. -/
def siblingOrder (a b : TaskRow) : Prop :=
  a.hierarchyPosition < b.hierarchyPosition ∨ (a.hierarchyPosition = b.hierarchyPosition ∧
    (a.position < b.position ∨ (a.position = b.position ∧ a.createdAt ≤ b.createdAt)))

instance : DecidableRel siblingOrder := fun _ _ => inferInstanceAs (Decidable (_ ∨ _))

def directChildrenOf (store : TaskStore) (taskId : TaskId) : List TaskRow :=
  (store.filter (·.parentTaskId == some taskId)).insertionSort siblingOrder

def directChildCount (store : TaskStore) (taskId : TaskId) : Nat :=
  (store.filter (·.parentTaskId == some taskId)).length

def computeNextHierarchyPosition (store : TaskStore) (parentTaskId : TaskId) : Int :=
  match (directChildrenOf store parentTaskId).map (·.hierarchyPosition) with
  | [] => defaultHierarchyPosition
  | first :: rest => rest.foldl max first + 100

/-- The queue of `collectDescendantRows`. -/
def collectFrom (store : TaskStore) : Nat → List TaskRow → List TaskRow
  | 0, _ => []
  | _ + 1, [] => []
  | bound + 1, child :: queue => child :: collectFrom store bound (queue ++ directChildrenOf store child.id)

def collectDescendantRows (store : TaskStore) (taskId : TaskId) : List TaskRow :=
  collectFrom store (store.length * (store.length + 1)) (directChildrenOf store taskId)

/-- The parent link as the code tests it: null and the empty text are no link. -/
def parentLink (row : TaskRow) : Option TaskId := row.parentTaskId.filter (· ≠ "")

/-- The loop of `isTaskDescendant`. -/
def reachesAncestor (store : TaskStore) (ancestorId : TaskId) : Nat → Option TaskRow → Bool
  | 0, _ => false
  | bound + 1, cursor =>
    match cursor.bind parentLink with
    | none => false
    | some parentId =>
      parentId = ancestorId || reachesAncestor store ancestorId bound (findTaskById store parentId)

def isTaskDescendant (store : TaskStore) (candidateId ancestorId : TaskId) : Bool :=
  reachesAncestor store ancestorId (store.length + 2) (findTaskById store candidateId)

/-! ### Rollups -/

/-- What the rollups of one call read outside the table, and the clock. -/
structure RollupContext where
  view : RollupView := {}
  now : Nat

def refreshParentRollupOf (context : RollupContext) (store : TaskStore) (parentId : TaskId) :
    TaskStore :=
  updateWhereId store parentId
    (refreshParentRollup context.view (directChildrenOf store parentId) context.now)

/-- The loop of `refreshAncestorRollups`; the visited set bounds it. -/
def refreshAncestorsFrom (context : RollupContext) :
    Nat → TaskStore → List TaskId → Option TaskRow → TaskStore
  | 0, store, _, _ => store
  | bound + 1, store, visited, cursor =>
    match cursor.bind parentLink with
    | none => store
    | some parentId =>
      if parentId ∈ visited then store
      else
        let refreshed := refreshParentRollupOf context store parentId
        refreshAncestorsFrom context bound refreshed (parentId :: visited)
          (findTaskById refreshed parentId)

def refreshAncestorRollups (context : RollupContext) (store : TaskStore) (taskId : TaskId) :
    TaskStore :=
  refreshAncestorsFrom context (store.length + 1) store [] (findTaskById store taskId)

def refreshRollupsForParents (context : RollupContext) (store : TaskStore)
    (parentIds : List (Option TaskId)) : TaskStore :=
  ((parentIds.reduceOption.filter (· ≠ "")).eraseDups).foldl
    (fun store parentId =>
      refreshAncestorRollups context (refreshParentRollupOf context store parentId) parentId)
    store

def promoteToContainer (context : RollupContext) (store : TaskStore) (parentTaskId : TaskId) :
    TaskStore :=
  updateWhereId store parentTaskId (promoteParentToContainer context.now)

def promoteIfLinked (context : RollupContext) (store : TaskStore) (parentTaskId : Option TaskId) :
    TaskStore :=
  match parentTaskId.filter (· ≠ "") with
  | some parentTaskId => promoteToContainer context store parentTaskId
  | none => store

/-! ### Creating a task -/

structure CreateTaskInput where
  projectId : String
  autoMode : Option Bool := none
  taskIntent : Option TaskIntent := none
  isFix : Option Bool := none
  maxReviewIterations : Option Nat := none
  paused : Option Bool := none
  scheduledAt : Option Nat := none
  position : Option Int := none
  parentTaskId : Option TaskId := none
  hierarchyRole : Option TaskHierarchyRole := none
  parentCloseoutPolicy : Option TaskParentCloseoutPolicy := none

/-- The hierarchy columns of a new row. -/
structure TaskHierarchy where
  parentTaskId : Option TaskId
  rootTaskId : Option TaskId
  hierarchyDepth : Int
  hierarchyRole : TaskHierarchyRole
  hierarchyPosition : Int
  parentCloseoutPolicy : Option TaskParentCloseoutPolicy

def hierarchyDepthError : String := "Task hierarchy depth cannot exceed 2"

def closeoutPolicyError : String := "parentCloseoutPolicy requires hierarchyRole=container"

def closeoutPolicyFor (role : TaskHierarchyRole) (policy : Option TaskParentCloseoutPolicy) :
    Option TaskParentCloseoutPolicy :=
  if role = .container then some (policy.getD .allChildrenVerified) else none

def resolveCreateHierarchy (store : TaskStore) (input : CreateTaskInput) :
    Except String TaskHierarchy :=
  let role := input.hierarchyRole.getD .executable
  let requestedPolicy := input.parentCloseoutPolicy
  match input.parentTaskId.filter (· ≠ "") with
  | some parentTaskId =>
    match findTaskById store parentTaskId with
    | none => .error ("Parent task not found: " ++ parentTaskId)
    | some parent =>
      if parent.projectId ≠ input.projectId then
        .error "Parent task must belong to the same project"
      else if maxTaskHierarchyDepth < parent.hierarchyDepth + 1 then .error hierarchyDepthError
      else if role ≠ .container && requestedPolicy.isSome then .error closeoutPolicyError
      else .ok {
        parentTaskId := some parent.id
        rootTaskId := some (parent.rootTaskId.getD parent.id)
        hierarchyDepth := parent.hierarchyDepth + 1
        hierarchyRole := role
        hierarchyPosition := computeNextHierarchyPosition store parent.id
        parentCloseoutPolicy := closeoutPolicyFor role requestedPolicy }
  | none =>
    if role ≠ .container && requestedPolicy.isSome then .error closeoutPolicyError
    else .ok {
      parentTaskId := none
      rootTaskId := none
      hierarchyDepth := 0
      hierarchyRole := role
      hierarchyPosition := defaultHierarchyPosition
      parentCloseoutPolicy := closeoutPolicyFor role requestedPolicy }

def resolvePersistedTaskIntent (taskIntent : Option TaskIntent) (isFix : Option Bool) :
    TaskIntent :=
  if isFix = some true then .fix else taskIntent.getD .general

/-- The default position: in front of the backlog. -/
def nextBacklogPosition (store : TaskStore) : Int :=
  match (store.filter (·.status = .backlog)).map (·.position) with
  | [] => 1000 - 100
  | first :: rest => rest.foldl min first - 100

/-- The inserted row. `agentMaxReviewIterations` is the environment's default. -/
def newTaskRow (store : TaskStore) (input : CreateTaskInput) (hierarchy : TaskHierarchy)
    (id : TaskId) (agentMaxReviewIterations now : Nat) : TaskRow :=
  let taskIntent := resolvePersistedTaskIntent input.taskIntent input.isFix
  { id
    projectId := input.projectId
    autoMode := input.autoMode.getD true
    parentTaskId := hierarchy.parentTaskId
    rootTaskId := hierarchy.rootTaskId
    hierarchyDepth := hierarchy.hierarchyDepth
    hierarchyRole := hierarchy.hierarchyRole
    hierarchyPosition := hierarchy.hierarchyPosition
    parentCloseoutPolicy := hierarchy.parentCloseoutPolicy
    taskIntent
    isFix := taskIntent = .fix
    maxReviewIterations := input.maxReviewIterations.getD agentMaxReviewIterations
    paused := input.paused.getD false
    scheduledAt := input.scheduledAt
    status := .backlog
    position := input.position.getD (nextBacklogPosition store)
    lastHeartbeatAt := some now
    createdAt := now
    updatedAt := now }

/-- `createTask` with the id it drew; the primary key refuses an id in use. -/
def createTask (context : RollupContext) (agentMaxReviewIterations : Nat) (id : TaskId)
    (input : CreateTaskInput) (store : TaskStore) : Except String TaskStore :=
  match resolveCreateHierarchy store input with
  | .error error => .error error
  | .ok hierarchy =>
    if (findTaskById store id).isSome then .error "UNIQUE constraint failed: tasks.id"
    else
      let row := newTaskRow store input hierarchy id agentMaxReviewIterations context.now
      let inserted := store ++ [row]
      match hierarchy.parentTaskId with
      | none => .ok inserted
      | some parentTaskId =>
        let promoted := promoteToContainer context inserted parentTaskId
        .ok (refreshRollupsForParents context promoted [some parentTaskId])

/-! ### Updating a task -/

/-- The fields an update may mention; a caller cannot set the depth, the root, the
project or the status. -/
structure TaskFieldsUpdate where
  autoMode : Option Bool := none
  taskIntent : Option TaskIntent := none
  isFix : Option Bool := none
  implementationLog : Option (Option String) := none
  reviewComments : Option (Option String) := none
  blockedReason : Option (Option String) := none
  blockedFromStatus : Option (Option TaskStatus) := none
  retryAfter : Option (Option Nat) := none
  retryCount : Option Nat := none
  reworkRequested : Option Bool := none
  reviewIterationCount : Option Nat := none
  maxReviewIterations : Option Nat := none
  manualReviewRequired : Option Bool := none
  autoReviewState : Option (Option String) := none
  paused : Option Bool := none
  lastHeartbeatAt : Option (Option Nat) := none
  position : Option Int := none
  scheduledAt : Option (Option Nat) := none
  worktreePath : Option (Option String) := none
  parentTaskId : Option (Option TaskId) := none
  hierarchyRole : Option TaskHierarchyRole := none
  parentCloseoutPolicy : Option (Option TaskParentCloseoutPolicy) := none

/-- The answer of `resolveUpdateHierarchy`. -/
structure HierarchyUpdate where
  patch : TaskFieldsPatch
  oldParentTaskId : Option TaskId
  newParentTaskId : Option TaskId
  depthDelta : Int

/-- Where a move puts a task. -/
structure MoveTarget where
  parentTaskId : Option TaskId
  rootTaskId : Option TaskId
  hierarchyDepth : Int
  hierarchyPosition : Int

/-- The parent half of `resolveUpdateHierarchy`. -/
def resolveMove (store : TaskStore) (existing : TaskRow) (next : Option TaskId) :
    Except String MoveTarget :=
  if next = some existing.id then .error "A task cannot be its own parent"
  else match next.filter (· ≠ "") with
    | none => .ok ⟨next, none, 0, defaultHierarchyPosition⟩
    | some parentId =>
      match findTaskById store parentId with
      | none => .error ("Parent task not found: " ++ parentId)
      | some parent =>
        if parent.projectId ≠ existing.projectId then
          .error "Parent task must belong to the same project"
        else if isTaskDescendant store parent.id existing.id then
          .error "Task hierarchy cannot contain cycles"
        else .ok {
          parentTaskId := next
          rootTaskId := some (parent.rootTaskId.getD parent.id)
          hierarchyDepth := parent.hierarchyDepth + 1
          hierarchyPosition :=
            if next = existing.parentTaskId then existing.hierarchyPosition
            else computeNextHierarchyPosition store parentId }

/-- The depth of the moved task and of all its descendants stays in bounds. -/
def moveFits (store : TaskStore) (existing : TaskRow) (target : MoveTarget) : Bool :=
  target.hierarchyDepth ≤ maxTaskHierarchyDepth &&
    (collectDescendantRows store existing.id).all fun descendant =>
      descendant.hierarchyDepth + (target.hierarchyDepth - existing.hierarchyDepth) ≤
        maxTaskHierarchyDepth

/-- The parent columns of the patch. -/
def movePatch (target : MoveTarget) : TaskFieldsPatch :=
  { parentTaskId := some target.parentTaskId
    rootTaskId := some target.rootTaskId
    hierarchyDepth := some target.hierarchyDepth
    hierarchyPosition := some target.hierarchyPosition }

/-- The role half of `resolveUpdateHierarchy`, over the patch of the parent half. -/
def resolveRole (store : TaskStore) (existing : TaskRow) (fields : TaskFieldsUpdate)
    (patch : TaskFieldsPatch) : Except String TaskFieldsPatch :=
  let nextRole := fields.hierarchyRole.getD existing.hierarchyRole
  let nextPolicy := fields.parentCloseoutPolicy.getD existing.parentCloseoutPolicy
  if nextRole = .executable && 0 < directChildCount store existing.id then
    .error "Tasks with children must remain hierarchyRole=container"
  else if nextRole ≠ .container && nextPolicy.isSome then .error closeoutPolicyError
  else .ok { patch with
    hierarchyRole := fields.hierarchyRole
    parentCloseoutPolicy :=
      if fields.parentCloseoutPolicy.isSome || fields.hierarchyRole.isSome then
        some (closeoutPolicyFor nextRole nextPolicy)
      else none }

def resolveUpdateHierarchy (store : TaskStore) (existing : TaskRow) (fields : TaskFieldsUpdate) :
    Except String HierarchyUpdate :=
  match fields.parentTaskId with
  | none =>
    match resolveRole store existing fields {} with
    | .error error => .error error
    | .ok patch => .ok ⟨patch, existing.parentTaskId, existing.parentTaskId, 0⟩
  | some next =>
    match resolveMove store existing next with
    | .error error => .error error
    | .ok target =>
      if moveFits store existing target then
        match resolveRole store existing fields (movePatch target) with
        | .error error => .error error
        | .ok patch => .ok ⟨patch, existing.parentTaskId, next,
            target.hierarchyDepth - existing.hierarchyDepth⟩
      else .error hierarchyDepthError

/-- The intent an update writes. -/
def normalizedIntent (existing : TaskRow) (fields : TaskFieldsUpdate) : Option TaskIntent :=
  match fields.taskIntent, fields.isFix with
  | some taskIntent, isFix => some (resolvePersistedTaskIntent (some taskIntent) isFix)
  | none, some true => some .fix
  | none, some false =>
    some (if existing.taskIntent = .fix then .general else existing.taskIntent)
  | none, none => none

/-- The patch of `updateTask`: the plain fields, then the hierarchy, then the intent. -/
def updateTaskPatch (existing : TaskRow) (fields : TaskFieldsUpdate) (hierarchy : TaskFieldsPatch)
    (now : Nat) : TaskFieldsPatch :=
  let intent := normalizedIntent existing fields
  { hierarchy with
    autoMode := fields.autoMode
    taskIntent := intent
    isFix := intent.map fun intent => intent = .fix
    implementationLog := fields.implementationLog
    reviewComments := fields.reviewComments
    blockedReason := fields.blockedReason
    blockedFromStatus := fields.blockedFromStatus
    retryAfter := fields.retryAfter
    retryCount := fields.retryCount
    reworkRequested := fields.reworkRequested
    reviewIterationCount := fields.reviewIterationCount
    maxReviewIterations := fields.maxReviewIterations
    manualReviewRequired := fields.manualReviewRequired
    autoReviewState := fields.autoReviewState
    paused := fields.paused
    lastHeartbeatAt := fields.lastHeartbeatAt
    position := fields.position
    scheduledAt := fields.scheduledAt
    worktreePath := fields.worktreePath
    updatedAt := some now }

def shiftPatch (rootTaskId : TaskId) (depthDelta : Int) (descendant : TaskRow) (now : Nat) :
    TaskFieldsPatch :=
  { rootTaskId := some (some rootTaskId)
    hierarchyDepth := some (descendant.hierarchyDepth + depthDelta)
    updatedAt := some now }

def applyDescendantHierarchyShift (store : TaskStore) (taskId rootTaskId : TaskId)
    (depthDelta : Int) (now : Nat) : TaskStore :=
  if depthDelta = 0 then store
  else (collectDescendantRows store taskId).foldl
    (fun store descendant => updateWhereId store descendant.id
      (·.set (shiftPatch rootTaskId depthDelta descendant now)))
    store

/-- `updateTask`; an unknown id changes nothing. -/
def updateTask (context : RollupContext) (id : TaskId) (fields : TaskFieldsUpdate)
    (store : TaskStore) : Except String TaskStore :=
  match findTaskById store id with
  | none => .ok store
  | some existing =>
    match resolveUpdateHierarchy store existing fields with
    | .error error => .error error
    | .ok hierarchy =>
      let written := updateWhereId store id
        (setTaskFields · (updateTaskPatch existing fields hierarchy.patch context.now))
      let promoted := promoteIfLinked context written hierarchy.newParentTaskId
      let shifted :=
        if hierarchy.patch.rootTaskId.isSome || hierarchy.patch.hierarchyDepth.isSome then
          applyDescendantHierarchyShift promoted id
            ((hierarchy.patch.rootTaskId.getD none).getD id) hierarchy.depthDelta context.now
        else promoted
      let refreshed := refreshRollupsForParents context shifted
        [hierarchy.oldParentTaskId, hierarchy.newParentTaskId]
      .ok (refreshAncestorRollups context refreshed id)

end AifHandoff.Data
