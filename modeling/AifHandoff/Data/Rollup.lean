import AifHandoff.Data.TaskFields

/-!
The container rollup (`refreshParentRollup` in `packages/data`).

A container's status is derived from its direct children. What the derivation
asks of the audit tables is passed in: `releaseReady` says whether a child has a
report artifact that is release-ready, and `auditBatches` lists the project and
the synthesis task of every audit batch.
-/

namespace AifHandoff.Data

open AifHandoff.Text

/-- What the rollup reads outside the `tasks` table. -/
structure RollupView where
  releaseReady : TaskId → Bool := fun _ => false
  auditBatches : List (String × Option TaskId) := []

def activeChildStatuses : List TaskStatus :=
  [.requirementsAnalysis, .needsInput, .research, .design, .planning, .planReady, .implementing,
    .review, .qa]

/-- `effectiveCloseoutPolicy`; the stored role is never null. -/
def effectiveCloseoutPolicy (row : TaskRow) : Option TaskParentCloseoutPolicy :=
  if row.hierarchyRole = .container then
    some (row.parentCloseoutPolicy.getD .allChildrenVerified)
  else none

def childBlocksHierarchyRollup (view : RollupView) (child : TaskRow) : Bool :=
  if child.status ≠ .blockedExternal && !child.manualReviewRequired then false
  else if child.taskIntent ≠ .audit then true
  else !view.releaseReady child.id

def findAuthoritativeSynthesisChild (view : RollupView) (parent : TaskRow)
    (children : List TaskRow) : Option TaskRow :=
  if effectiveCloseoutPolicy parent ≠ some .synthesisChildVerified then none
  else if children.isEmpty || parent.taskIntent ≠ .audit then none
  else
    let synthesisIds := view.auditBatches.filterMap fun (projectId, synthesisTaskId) =>
      if projectId = parent.projectId then
        synthesisTaskId.filter fun id => children.any (·.id == id)
      else none
    match synthesisIds with
    | [id] => children.find? (·.id == id)
    | _ => none

def computeParentRollupStatus (view : RollupView) (parent : TaskRow) (children : List TaskRow) :
    TaskStatus :=
  if children.isEmpty then (if parent.status = .verified then .verified else .backlog)
  else if children.any (childBlocksHierarchyRollup view) then .blockedExternal
  else if children.any (·.status ∈ activeChildStatuses) then .implementing
  else match (effectiveCloseoutPolicy parent).getD .allChildrenVerified with
    | .allChildrenDone =>
      if children.all fun child => child.status = .done || child.status = .verified then .done
      else .backlog
    | .allChildrenVerified =>
      if children.all (·.status = .verified) then .done else .backlog
    | .synthesisChildVerified =>
      if ((findAuthoritativeSynthesisChild view parent children).map (·.status)) = some .verified
      then .done else .backlog

def genericHierarchyRollupBlockedReason : String := "hierarchy_rollup: child task is blocked"

def implementationRuntimeExhaustedReasonPrefix : String :=
  "implementation_runtime_exhausted_requires_split:"

def implementationRuntimeExhaustedRollupReason : String :=
  "hierarchy_rollup: child blocked by implementation_runtime_exhausted_requires_split"

def computeParentRollupBlockedReason (view : RollupView) (children : List TaskRow) : String :=
  if (children.filter (childBlocksHierarchyRollup view)).any fun child =>
      child.blockedReason.any (startsWith · implementationRuntimeExhaustedReasonPrefix) then
    implementationRuntimeExhaustedRollupReason
  else genericHierarchyRollupBlockedReason

/-- An absent or empty reason, or one an earlier rollup wrote. -/
def shouldUpdateHierarchyRollupBlockedReason (currentReason : Option String) : Bool :=
  currentReason.all fun reason => reason.isEmpty || startsWith reason "hierarchy_rollup:"

/-- The patch `refreshParentRollup` writes. -/
def parentRollupPatch (view : RollupView) (parent : TaskRow) (children : List TaskRow)
    (now : Nat) : TaskFieldsPatch :=
  let nextStatus := computeParentRollupStatus view parent children
  let patch : TaskFieldsPatch := {
    status := some nextStatus
    parentCloseoutPolicy := some (effectiveCloseoutPolicy parent)
    updatedAt := some now }
  if nextStatus ≠ .blockedExternal then
    { patch with
      blockedReason := some none
      blockedFromStatus := some none
      retryAfter := some none
      manualReviewRequired := some false }
  else if shouldUpdateHierarchyRollupBlockedReason parent.blockedReason then
    { patch with
      blockedReason := some (some (computeParentRollupBlockedReason view children))
      blockedFromStatus := some (some parent.status)
      retryAfter := some none }
  else patch

/-- `refreshParentRollup` on the parent's row, with its direct children. -/
def refreshParentRollup (view : RollupView) (children : List TaskRow) (now : Nat)
    (parent : TaskRow) : TaskRow :=
  if parent.hierarchyRole ≠ .container || parent.status = .verified then parent
  else parent.set (parentRollupPatch view parent children now)

/-- `promoteParentToContainer` on the parent's row. -/
def promoteParentToContainer (now : Nat) (parent : TaskRow) : TaskRow :=
  if parent.hierarchyRole = .container && parent.parentCloseoutPolicy.isSome then parent
  else parent.set {
    hierarchyRole := some .container
    parentCloseoutPolicy := some (some (parent.parentCloseoutPolicy.getD .allChildrenVerified))
    updatedAt := some now }

/-- The refresh of `parent` finds a container, not verified, with a blocking child. -/
def refreshesRollupBlock (view : RollupView) (children : List TaskRow) (parent : TaskRow) : Bool :=
  parent.hierarchyRole = .container && parent.status ≠ .verified &&
    children.any (childBlocksHierarchyRollup view)

/-! ### What a refresh writes -/

variable (view : RollupView) (children : List TaskRow) (now : Nat) (parent : TaskRow)

theorem computeParentRollupStatus_blocked_iff :
    computeParentRollupStatus view parent children = .blockedExternal ↔
      children.any (childBlocksHierarchyRollup view) = true := by
  unfold computeParentRollupStatus
  by_cases empty : children.isEmpty
  · rw [if_pos empty]
    have none : children = [] := List.isEmpty_iff.mp empty
    subst none
    split <;> simp
  rw [if_neg empty]
  by_cases blocked : children.any (childBlocksHierarchyRollup view) = true
  · rw [if_pos blocked]
    exact ⟨fun _ => blocked, fun _ => rfl⟩
  · rw [if_neg blocked]
    constructor
    · intro derived
      repeat' split at derived
      all_goals cases derived
    · intro contra
      exact absurd contra blocked

/-- A refresh either leaves the row alone, clears the block with the status, or
moves the container to `blocked_external`; in the last case it records the status
it found, and only when the reason is absent or its own. -/
theorem refreshParentRollup_cases :
    refreshParentRollup view children now parent = parent ∨
    ((refreshParentRollup view children now parent).status ≠ .blockedExternal ∧
      (refreshParentRollup view children now parent).blockedFromStatus = none) ∨
    ((refreshParentRollup view children now parent).status = .blockedExternal ∧
      refreshesRollupBlock view children parent = true ∧
      shouldUpdateHierarchyRollupBlockedReason parent.blockedReason = true ∧
      (refreshParentRollup view children now parent).blockedFromStatus = some parent.status) ∨
    ((refreshParentRollup view children now parent).status = .blockedExternal ∧
      refreshesRollupBlock view children parent = true ∧
      shouldUpdateHierarchyRollupBlockedReason parent.blockedReason = false ∧
      (refreshParentRollup view children now parent).blockedFromStatus =
        parent.blockedFromStatus) := by
  unfold refreshParentRollup refreshesRollupBlock
  by_cases skips : parent.hierarchyRole ≠ .container ∨ parent.status = .verified
  · exact .inl (if_pos (by simpa using skips))
  obtain ⟨container, open_⟩ : parent.hierarchyRole = .container ∧ parent.status ≠ .verified := by
    simpa using skips
  right
  rw [if_neg (by simpa using skips)]
  unfold parentRollupPatch
  by_cases blocked : computeParentRollupStatus view parent children = .blockedExternal
  · have any := (computeParentRollupStatus_blocked_iff view children parent).mp blocked
    right
    cases owned : shouldUpdateHierarchyRollupBlockedReason parent.blockedReason with
    | true => left; simp [blocked, any, container, open_]
    | false => right; simp [blocked, any, container, open_]
  · left
    simp [blocked]

end AifHandoff.Data
