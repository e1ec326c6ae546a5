import AifHandoff.Lib.Regex
import AifHandoff.Shared.AuditContract
import AifHandoff.Shared.StateMachine
import AifHandoff.Data.TaskFields
import Mathlib.Data.List.Lex

/-!
Human events of one task (`packages/api/src/services/taskEvents.ts`).

`handleTaskEvent` runs its guards in order — container, audit dependencies,
configuration governance — and then one of four handlers. Two of the guards write
the row before they refuse. An `EventEnv` carries the answers of the world
outside the row: the project's configuration, git, the plan file, the evidence
evaluation, comments and the clock.

A handler returns its response and the row it leaves. Artifact tables are not part
of the row; what an artifact update does to the task itself is the refresh of the
batch's synthesis task (`touchArtifact`).
-/

namespace AifHandoff.Api

open AifHandoff.Text AifHandoff.Data AifHandoff.StateMachine

/-! ### The outside world -/

inductive ConfigReasonCode where
  | projectConfigParseFailed | projectConfigRootNotObject | projectConfigSectionNotObject
  | projectConfigInvalidPathValue | projectConfigInvalidBoolean | projectConfigInvalidEnum
  | projectConfigInvalidLanguageTag | projectConfigSecretLikeKey | runtimeProfileMissing
  | runtimeProfileDisabled | runtimeProfileScopeMismatch | runtimeProfileSecretLikeHeaderKey
  | runtimeProfileSecretLikeOptionKey | taskRuntimeSecretLikeOptionKey | taskRuntimeProfileMissing
  | taskRuntimeProfileDisabled | taskRuntimeProfileScopeMismatch | effectiveRuntimeProfileMissing
  | mcpSecretLikeKey
deriving DecidableEq, Repr

def ConfigReasonCode.text : ConfigReasonCode → String
  | .projectConfigParseFailed => "PROJECT_CONFIG_PARSE_FAILED"
  | .projectConfigRootNotObject => "PROJECT_CONFIG_ROOT_NOT_OBJECT"
  | .projectConfigSectionNotObject => "PROJECT_CONFIG_SECTION_NOT_OBJECT"
  | .projectConfigInvalidPathValue => "PROJECT_CONFIG_INVALID_PATH_VALUE"
  | .projectConfigInvalidBoolean => "PROJECT_CONFIG_INVALID_BOOLEAN"
  | .projectConfigInvalidEnum => "PROJECT_CONFIG_INVALID_ENUM"
  | .projectConfigInvalidLanguageTag => "PROJECT_CONFIG_INVALID_LANGUAGE_TAG"
  | .projectConfigSecretLikeKey => "PROJECT_CONFIG_SECRET_LIKE_KEY"
  | .runtimeProfileMissing => "RUNTIME_PROFILE_MISSING"
  | .runtimeProfileDisabled => "RUNTIME_PROFILE_DISABLED"
  | .runtimeProfileScopeMismatch => "RUNTIME_PROFILE_SCOPE_MISMATCH"
  | .runtimeProfileSecretLikeHeaderKey => "RUNTIME_PROFILE_SECRET_LIKE_HEADER_KEY"
  | .runtimeProfileSecretLikeOptionKey => "RUNTIME_PROFILE_SECRET_LIKE_OPTION_KEY"
  | .taskRuntimeSecretLikeOptionKey => "TASK_RUNTIME_SECRET_LIKE_OPTION_KEY"
  | .taskRuntimeProfileMissing => "TASK_RUNTIME_PROFILE_MISSING"
  | .taskRuntimeProfileDisabled => "TASK_RUNTIME_PROFILE_DISABLED"
  | .taskRuntimeProfileScopeMismatch => "TASK_RUNTIME_PROFILE_SCOPE_MISMATCH"
  | .effectiveRuntimeProfileMissing => "EFFECTIVE_RUNTIME_PROFILE_MISSING"
  | .mcpSecretLikeKey => "MCP_SECRET_LIKE_KEY"

/-- The answer of `findSequentialBranchDependencyBlocker`. -/
inductive SequentialBranchDependencyBlocker where
  | missingBaseBranch (baseBranch nextTaskId : String)
  | missingBranchDependency (taskId branchName nextTaskId : String)
  | unintegratedBranchDependency (taskId branchName baseBranch nextTaskId : String)
deriving DecidableEq, Repr

def SequentialBranchDependencyBlocker.message : SequentialBranchDependencyBlocker → String
  | .missingBaseBranch baseBranch nextTaskId =>
    "sequential_branch_dependency_blocked:" ++
      (" base branch " ++ baseBranch ++ " is missing; cannot prove prior task branches are " ++
        "integrated before starting " ++ nextTaskId ++ ".")
  | .missingBranchDependency taskId branchName nextTaskId =>
    "sequential_branch_dependency_blocked:" ++
      (" prior task " ++ taskId ++ " completed on missing branch " ++ branchName ++
        "; cannot start " ++ nextTaskId ++
        " until the branch is restored or the task is explicitly reconciled.")
  | .unintegratedBranchDependency taskId branchName baseBranch nextTaskId =>
    "sequential_branch_dependency_blocked:" ++
      (" prior task " ++ taskId ++ " completed on branch " ++ branchName ++
        ", but that branch is not merged into base " ++ baseBranch ++
        "; merge or reconcile it before starting " ++ nextTaskId ++ ".")

structure HumanComment where
  message : String
  createdAt : Nat
deriving DecidableEq, Repr

/-- What a handler asks of the world outside the row. -/
structure EventEnv where
  now : Nat
  requirementsIntakeEnabled : Bool := false
  requirementsQaEnabled : Bool := false
  projectFound : Bool := true
  configWorkBlockers : Option (List ConfigReasonCode) := some []
  taskRuntimeOverrideBlockers : List ConfigReasonCode := []
  auditDependenciesReleaseReady : Bool := true
  branchDependencyBlocker : Option SequentialBranchDependencyBlocker := none
  latestHumanComment : Option HumanComment := none
  auditArtifact : Option AuditArtifactRole := none
  /-- The task is its batch's synthesis task, with the batch's readiness. -/
  synthesisOfBatch : Option Bool := none
  restoreBranchError : Option String := none
  ensureFeatureBranch : Except String (Option String) := .ok none
  branchDriftError : Option String := none
  completionEvidence : CompletionEvidence := {}
  satisfiedContainerParentCloseout : Bool := false
  freshAcceptedQaAndAcceptance : Bool := true
  planFile : Option String := none
  normalizedPlan : String := ""
  planQuality : Option PlanQualityFailure := none
  /-- The updated plan of a fast fix, when one looks like a full plan. -/
  fastFixPlan : Option String := none

structure EventHandlerInput where
  event : TaskEvent
  deletePlanFile : Bool := false
  manualExceptionJustification : String := ""

inductive BroadcastType where
  | taskMoved | taskUpdated
deriving DecidableEq, Repr

inductive EventHandlerResult where
  | failed (status : Nat) (error : String)
  | ok (broadcastType : BroadcastType)
deriving DecidableEq, Repr

def EventHandlerResult.isOk : EventHandlerResult → Bool
  | .ok _ => true
  | .failed _ _ => false

/-! ### Guards -/

def runtimeStartingEvents : List TaskEvent :=
  [.startAi, .acceptExistingPlan, .startImplementation, .requestReplanning, .fastFix,
    .retryFromBlocked]

def isOperatorCancelledTask (task : TaskRow) : Bool :=
  task.status = .blockedExternal && task.blockedReason.any (startsWith · "operator_cancelled:")

def isOperatorInputHold (task : TaskRow) : Bool :=
  task.status = .blockedExternal &&
    task.blockedReason.any fun reason =>
      startsWith reason "operator_input_required:" || startsWith reason "operator_cancelled:"

def hasFreshOperatorInputAnswer (env : EventEnv) (task : TaskRow) : Bool :=
  env.latestHumanComment.any fun comment =>
    !(trim comment.message).isEmpty && task.updatedAt < comment.createdAt

/-- The sorted distinct reason codes of all blockers. -/
def configReasonCodes (blockers : List ConfigReasonCode) : List String :=
  (blockers.dedup.map (·.text)).insertionSort fun a b => a.toList ≤ b.toList

def configGovernanceMessage (blockers : List ConfigReasonCode) : String :=
  "config_governance_blocked:" ++ join "," (configReasonCodes blockers)

/-- The blockers `checkConfigGovernanceBlocker` finds, when it looks at all. -/
def configGovernanceBlockers (env : EventEnv) (event : TaskEvent) : List ConfigReasonCode :=
  if event ∉ runtimeStartingEvents then []
  else match env.configWorkBlockers with
    | none => []
    | some blockers => blockers ++ env.taskRuntimeOverrideBlockers

def checkConfigGovernanceBlocker (env : EventEnv) (task : TaskRow) (event : TaskEvent) :
    Option (EventHandlerResult × TaskRow) :=
  let allBlockers := configGovernanceBlockers env event
  if allBlockers.isEmpty then none
  else
    let message := configGovernanceMessage allBlockers
    let blocked := setTaskFields task {
      status := some .blockedExternal
      blockedFromStatus := some (some task.status)
      blockedReason := some (some message)
      retryAfter := some none
      retryCount := some task.retryCount
      lastHeartbeatAt := some (some env.now)
      updatedAt := some env.now }
    some (.failed 409 message, appendTaskActivityLog blocked env.now)

def restoreTaskBranchForMutation (env : EventEnv) (task : TaskRow) : Option EventHandlerResult :=
  if task.branchName.isNone || task.isFix then none
  else env.restoreBranchError.map (.failed 409 ·)

def assertTaskBranchPostRun (env : EventEnv) (task : TaskRow) : Option EventHandlerResult :=
  if task.branchName.isNone || task.isFix then none
  else env.branchDriftError.map (.failed 409 ·)

def blockTaskForSequentialBranchDependency (env : EventEnv) (task : TaskRow) (reason : String) :
    EventHandlerResult × TaskRow :=
  let blocked := setTaskFields task {
    status := some .blockedExternal
    blockedReason := some (some reason)
    blockedFromStatus := some (some task.status)
    retryAfter := some none
    retryCount := some task.retryCount
    reworkRequested := some false
    reviewIterationCount := some task.reviewIterationCount
    manualReviewRequired := some true
    paused := some true
    lastHeartbeatAt := some (some env.now)
    updatedAt := some env.now }
  (.ok .taskMoved, appendTaskActivityLog blocked env.now)

/-- `branchDependencyBlocker` is the answer for a project that enforces sequential
branches; fix tasks and tasks of unknown projects are not asked. -/
def checkSequentialBranchDependencyBeforeRuntimeStart (env : EventEnv) (task : TaskRow) :
    Option (EventHandlerResult × TaskRow) :=
  if task.isFix || !env.projectFound then none
  else env.branchDependencyBlocker.map fun blocker =>
    blockTaskForSequentialBranchDependency env task blocker.message

/-- A line of the review's blocking section that is no artefact of a malformed
review contract. -/
def isNonContractBlockerLine (line : String) : Bool :=
  let normalized := toLowerCase line
  normalized ≠ "- none" &&
    Regex.test (.cat [.startAnchor, .lit "-", .some1 .space, .lit "[", .some1 (.noneOf "]"),
      .lit "]", .some1 .space, .set Char.isAlpha,
      .many (.set fun c => Regex.isWordChar c || c == '-'), .some1 .space, .lit "|"]) line &&
    !includes normalized "review_gate" &&
    !includes normalized "structured-review-contract" &&
    !includes normalized "structured review contract" &&
    !includes normalized "reviewer returned inconclusive or malformed output"

/-- `/## Blocking Findings\b([\s\S]*?)(?:\n## |\s*$)/i`. -/
def blockingFindingsSection (reviewComments : String) : String :=
  let pattern : Regex := .cat [.litI "## Blocking Findings", .wordBoundary,
    .capture 1 (.star false (.set fun _ => true)),
    .anyOf [.lit "\n## ", .cat [.many .space, .endAnchor]]]
  ((Regex.exec pattern reviewComments).map (·.group 1)).getD ""

def hasNonContractMalformedReviewBlocker (task : TaskRow) : Bool :=
  let reason := loweredReason task
  if !includes reason "malformed_review_output_fallback" &&
      !includes reason "malformed_structured_review_contract" then false
  else
    -- Trimming drops the `\r` that splitting on `\n` alone leaves behind.
    ((split (blockingFindingsSection (task.reviewComments.getD "")) '\n').map trim
      |>.filter (startsWith · "- ")).any isNonContractBlockerLine

/-- `updateRoadmapBatchArtifactState` as the task's own row sees it. -/
def touchArtifact (env : EventEnv) (row : TaskRow) : TaskRow :=
  match env.synthesisOfBatch with
  | some synthesisReady => refreshSynthesisTaskRow synthesisReady env.now row
  | none => row

/-! ### Handlers -/

def handleManualException (env : EventEnv) (input : EventHandlerInput) (task : TaskRow) :
    EventHandlerResult × TaskRow :=
  let justification := trim input.manualExceptionJustification
  if justification.isEmpty then
    (.failed 400 "manual_exception requires a non-empty justification", task)
  else if env.auditArtifact.isNone then
    (.failed 409 "manual_exception requires an audit artifact", task)
  else if task.status ≠ .blockedExternal && !task.manualReviewRequired then
    (.failed 409 "manual_exception is only allowed for blocked or manual-review audit artifacts",
      task)
  else
    let row := setTaskFields (touchArtifact env task) {
      status := some .blockedExternal
      blockedReason := some (some ("manual_exception: " ++ justification))
      blockedFromStatus := some (some (task.blockedFromStatus.getD task.status))
      retryAfter := some none
      retryCount := some task.retryCount
      reworkRequested := some false
      manualReviewRequired := some true
      lastHeartbeatAt := some (some env.now)
      updatedAt := some env.now }
    (.ok .taskMoved, appendTaskActivityLog row env.now)

structure CompletionBlockOptions where
  blockedFromStatus : Option TaskStatus := none
  allowAuditRework : Bool := false

def boundedReviewIterationLimit (value : Nat) : Nat := min value 10

def shouldReturnToRework (env : EventEnv) (task : TaskRow) (options : CompletionBlockOptions) :
    Bool :=
  let result := env.completionEvidence
  let recoverable := isRecoverableAuditFailureFamily result.failureFamily
  env.auditArtifact.isSome && options.allowAuditRework && recoverable &&
    task.reviewIterationCount < boundedReviewIterationLimit task.maxReviewIterations &&
    !(recoverable && result.repeatedAuditFailure)

/-- A repeated failure of an audit artifact blocks instead of returning to rework. -/
def repeatedFailureMustBlock (env : EventEnv) : Bool :=
  env.auditArtifact.isSome &&
    isRecoverableAuditFailureFamily env.completionEvidence.failureFamily &&
    env.completionEvidence.repeatedAuditFailure

def auditReworkLimitReached (env : EventEnv) (task : TaskRow) (options : CompletionBlockOptions) :
    Bool :=
  env.auditArtifact.isSome && options.allowAuditRework &&
    isRecoverableAuditFailureFamily env.completionEvidence.failureFamily &&
    !shouldReturnToRework env task options

def reworkBlockedReason (env : EventEnv) (blockedReason : String) : String :=
  if repeatedFailureMustBlock env then
    blockedReason ++ " Manual review required: same failure fingerprint failed closed."
  else blockedReason

def terminalBlockedReason (env : EventEnv) (task : TaskRow) (options : CompletionBlockOptions) :
    String :=
  let blockedReason := formatTaskCompletionBlockedReason env.completionEvidence
    (shouldReturnToRework env task options)
  if env.auditArtifact.isNone then blockedReason
  else env.completionEvidence.failureFamily.text ++ ": " ++
    (if repeatedFailureMustBlock env then reworkBlockedReason env blockedReason
    else if auditReworkLimitReached env task options then
      blockedReason ++ " Manual review required: audit evidence guard failed after " ++
        toString task.reviewIterationCount ++ "/" ++
        toString (boundedReviewIterationLimit task.maxReviewIterations) ++ " review iterations."
    else reworkBlockedReason env blockedReason)

/-- The row a failed evidence guard leaves, as a return to rework or as a block. -/
def blockTaskForCompletionEvidence (env : EventEnv) (task : TaskRow)
    (options : CompletionBlockOptions) : EventHandlerResult × TaskRow :=
  let result := env.completionEvidence
  let stored := if env.auditArtifact.isSome then touchArtifact env task else task
  if shouldReturnToRework env task options then
    let blockedReason := reworkBlockedReason env (formatTaskCompletionBlockedReason result true)
    let row := setTaskFields stored {
      status := some .implementing
      blockedReason := some (some (result.failureFamily.text ++ ": " ++ blockedReason))
      blockedFromStatus := some (some (options.blockedFromStatus.getD .done))
      retryAfter := some none
      retryCount := some task.retryCount
      reworkRequested := some true
      manualReviewRequired := some false
      lastHeartbeatAt := some (some env.now)
      updatedAt := some env.now }
    (.ok .taskMoved, appendTaskActivityLog row env.now)
  else
    let row := setTaskFields stored {
      status := some .blockedExternal
      blockedReason := some (some (terminalBlockedReason env task options))
      blockedFromStatus := some (some (options.blockedFromStatus.getD .done))
      retryAfter := some none
      retryCount := some task.retryCount
      manualReviewRequired := some (repeatedFailureMustBlock env ||
        auditReworkLimitReached env task options ||
        result.issues.any (·.code = "manual_review_required"))
      lastHeartbeatAt := some (some env.now)
      updatedAt := some env.now }
    (.ok .taskMoved, appendTaskActivityLog row env.now)

def handleFastFix (env : EventEnv) (task : TaskRow) : EventHandlerResult × TaskRow :=
  if task.status ≠ .planReady then (.failed 409 "fast_fix is only allowed from plan_ready", task)
  else if task.autoMode then (.failed 409 "fast_fix is not needed when autoMode=true", task)
  else if env.latestHumanComment.isNone then
    (.failed 409 "fast_fix requires a human comment with requested fix", task)
  else if !env.projectFound then (.failed 404 "Project not found for task", task)
  else match restoreTaskBranchForMutation env task with
    | some error => (error, task)
    | none =>
      if (trim (task.plan.getD "")).isEmpty then
        (.failed 409 "fast_fix requires an existing plan on the task", task)
      else match env.fastFixPlan with
        | none =>
          (.failed 500
            "Fast fix result omitted existing plan content. Plan was left unchanged.", task)
        | some updatedPlan =>
          match assertTaskBranchPostRun env task with
          | some error => (error, task)
          | none =>
            let persisted := task.set { plan := some (some updatedPlan),
                                        updatedAt := some env.now }
            (.ok .taskUpdated, setTaskFields persisted
              { reworkRequested := some false, updatedAt := some env.now })

/-- Guards of `start_implementation`: the branch, then the evidence. -/
def checkStartImplementation (env : EventEnv) (task : TaskRow) :
    Option (EventHandlerResult × TaskRow) :=
  if !env.projectFound then some (.failed 404 "Project not found for task", task)
  else if (restoreTaskBranchForMutation env task).isSome || !env.completionEvidence.ok then
    some (blockTaskForCompletionEvidence env task { blockedFromStatus := some task.status })
  else none

/-- Guards of `approve_done`, and the row after the artifact was accepted. -/
def checkApproveDone (env : EventEnv) (task : TaskRow) :
    Except (EventHandlerResult × TaskRow) TaskRow :=
  if !env.projectFound then .error (.failed 404 "Project not found for task", task)
  else if !env.satisfiedContainerParentCloseout && env.requirementsIntakeEnabled &&
      env.requirementsQaEnabled && !env.freshAcceptedQaAndAcceptance then
    .error (.failed 409 "approve_done requires fresh accepted QA and acceptance artifacts", task)
  else if env.satisfiedContainerParentCloseout then .ok task
  else if (restoreTaskBranchForMutation env task).isSome || !env.completionEvidence.ok then
    .error (blockTaskForCompletionEvidence env task { allowAuditRework := true })
  else .ok (if env.auditArtifact.isSome then touchArtifact env task else task)

/-- The retries that `handleRegularTransition` recognises by the block's text. -/
structure RetryKinds where
  operatorInput : Bool
  malformedReviewOutput : Bool
  malformedReviewProductRework : Bool
  malformedReviewRework : Bool
  noSubstantiveRework : Bool
  stalledReworkLoop : Bool

def retryKinds (task : TaskRow) (event : TaskEvent) : RetryKinds :=
  let isRetry := event = .retryFromBlocked
  let reviewCommentsLower := (task.reviewComments.map toLowerCase).getD ""
  let malformedReviewOutput := isRetry && task.blockedFromStatus = some .review &&
    (includes (loweredReason task) "malformed_review_output_fallback" ||
      includes (loweredReason task) "malformed_structured_review_contract")
  { operatorInput := isRetry && isOperatorInputHold task
    malformedReviewOutput
    malformedReviewProductRework :=
      malformedReviewOutput && hasNonContractMalformedReviewBlocker task
    malformedReviewRework := isRetry && task.blockedFromStatus = some .implementing &&
      task.reworkRequested &&
      task.implementationLog.any (includes · "Stopped after a repeated") &&
      includes reviewCommentsLower "manual_review_required |" &&
      includes reviewCommentsLower "reviewer returned inconclusive or malformed output"
    noSubstantiveRework := isRetry && task.blockedFromStatus = some .implementing &&
      includes (loweredReason task) "no_substantive_rework_delta"
    stalledReworkLoop := isRetry && task.blockedFromStatus = some .review &&
      includes (loweredReason task) "stalled_rework_loop" }

/-- The transition patch with the overrides of the recognised retries. -/
def regularTransitionPatch (task : TaskRow) (kinds : RetryKinds) (patch : TaskFieldsPatch)
    (now : Nat) : TaskFieldsPatch :=
  let patch := if kinds.operatorInput then { patch with paused := some false } else patch
  let patch :=
    if kinds.malformedReviewOutput && !kinds.malformedReviewProductRework then
      { patch with reviewComments := some none }
    else patch
  let patch :=
    if kinds.malformedReviewProductRework then
      { patch with
        status := some .implementing
        reworkRequested := some true
        reviewComments := some task.reviewComments }
    else patch
  let patch :=
    if kinds.malformedReviewRework || kinds.noSubstantiveRework || kinds.stalledReworkLoop then
      { patch with
        reviewComments := some none
        autoReviewState := some none
        reworkRequested := some false }
    else patch
  { patch with lastHeartbeatAt := some (some now), updatedAt := some now }

/-- The options `handleTaskEvent` passes to the transition table. -/
def transitionOptions (env : EventEnv) (task : TaskRow) (event : TaskEvent) :
    TaskTransitionOptions where
  requirementsIntakeEnabled := env.requirementsIntakeEnabled
  allowOperatorInputRetry := (retryKinds task event).operatorInput

/-- The event-specific guards after the table accepted, and the row they leave. -/
def checkRegularGuards (env : EventEnv) (input : EventHandlerInput) (task : TaskRow) :
    Except (EventHandlerResult × TaskRow) TaskRow :=
  match (if input.event ∈ runtimeStartingEvents then
      checkSequentialBranchDependencyBeforeRuntimeStart env task else none) with
  | some blocked => .error blocked
  | none =>
    match input.event with
    | .startImplementation =>
      match checkStartImplementation env task with
      | some blocked => .error blocked
      | none => .ok task
    | .approveDone => checkApproveDone env task
    | _ => .ok task

/-- Removing the plan file, which needs the task's branch. -/
def checkDeletePlanFile (env : EventEnv) (input : EventHandlerInput) (task : TaskRow) :
    Option EventHandlerResult :=
  if (input.event = .approveDone || input.event = .startAi) && input.deletePlanFile then
    if !env.projectFound then some (.failed 404 "Project not found for task")
    else restoreTaskBranchForMutation env task
  else none

def handleRegularTransition (env : EventEnv) (input : EventHandlerInput) (task : TaskRow) :
    EventHandlerResult × TaskRow :=
  let kinds := retryKinds task input.event
  if input.event ≠ .cancelTask && isOperatorCancelledTask task && !kinds.operatorInput then
    (.failed 409 "operator_cancelled tasks require operator triage before any further event", task)
  else if kinds.operatorInput && !hasFreshOperatorInputAnswer env task then
    (.failed 409 ("operator_input_required tasks need a newer human answer comment before " ++
      "retry_from_blocked can resume"), task)
  else match applyHumanTaskEvent task input.event (transitionOptions env task input.event) with
    | .error error => (.failed 409 error, task)
    | .ok patch =>
      match checkRegularGuards env input task with
      | .error blocked => blocked
      | .ok stored =>
        match checkDeletePlanFile env input task with
        | some error => (error, stored)
        | none =>
          -- `request_changes` marks a report artifact for rework.
          let stored :=
            if input.event = .requestChanges && env.auditArtifact = some .report then
              touchArtifact env stored
            else stored
          let row := setTaskFields stored (regularTransitionPatch task kinds patch env.now)
          let logs := input.event = .cancelTask || kinds.malformedReviewProductRework
          (.ok .taskMoved, if logs then appendTaskActivityLog row env.now else row)

def acceptExistingPlanBlockedReason (failure : PlanQualityFailure) : String :=
  formatTaskPlanQualityBlockedReason failure ++
    " Operator next step: edit the plan file and retry accept_existing_plan."

/-- The branch an accepted plan is bound to: the task's own, restored, or a new
feature branch; fix tasks keep none. -/
def bindPlanBranch (env : EventEnv) (task : TaskRow) : Except EventHandlerResult (Option String) :=
  if task.isFix then .ok task.branchName
  else match task.branchName with
    | some branchName =>
      match restoreTaskBranchForMutation env task with
      | some error => .error error
      | none => .ok (some branchName)
    | none =>
      match env.ensureFeatureBranch with
      | .ok branchName => .ok branchName
      | .error error => .error (.failed 409 error)

def handleAcceptExistingPlan (env : EventEnv) (task : TaskRow) : EventHandlerResult × TaskRow :=
  if task.status ≠ .backlog then
    (.failed 409 "accept_existing_plan is only allowed from backlog", task)
  else if !env.projectFound then (.failed 404 "Project not found for task", task)
  else match checkSequentialBranchDependencyBeforeRuntimeStart env task with
    | some blocked => blocked
    | none =>
      match bindPlanBranch env task with
      | .error error => (error, task)
      | .ok boundBranchName =>
        match env.planFile with
        | none => (.failed 404 "Plan file not found on disk", task)
        | some filePlan =>
          if (trim filePlan).isEmpty then (.failed 409 "Plan file is empty", task)
          else match env.planQuality with
            | some failure =>
              let blockedReason := acceptExistingPlanBlockedReason failure
              let row := setTaskFields task {
                status := some .blockedExternal
                blockedReason := some (some blockedReason)
                blockedFromStatus := some (some task.status)
                retryAfter := some none
                retryCount := some task.retryCount
                reworkRequested := some false
                reviewIterationCount := some task.reviewIterationCount
                manualReviewRequired := some true
                branchName := some boundBranchName
                lastHeartbeatAt := some (some env.now)
                updatedAt := some env.now }
              (.failed 409 blockedReason, appendTaskActivityLog row env.now)
            | none =>
              let persisted := task.set { plan := some (some env.normalizedPlan),
                                          updatedAt := some env.now }
              (.ok .taskMoved, setTaskFields persisted {
                status := some .planReady
                blockedReason := some none
                blockedFromStatus := some none
                retryAfter := some none
                retryCount := some 0
                reworkRequested := some false
                reviewIterationCount := some 0
                manualReviewRequired := some false
                autoReviewState := some none
                branchName := some boundBranchName
                lastHeartbeatAt := some (some env.now)
                updatedAt := some env.now })

/-- The guards of `handleTaskEvent` that refuse without a write. -/
def refusesRuntimeStart (env : EventEnv) (task : TaskRow) (event : TaskEvent) :
    Option EventHandlerResult :=
  if task.hierarchyRole = .container && event ∈ runtimeStartingEvents then
    some (.failed 409
      "Container tasks are coordination surfaces and cannot start runtime execution")
  else if task.taskIntent = .audit && event ∈ runtimeStartingEvents &&
      !env.auditDependenciesReleaseReady then
    some (.failed 409 ("audit_child_dependency_not_ready: predecessor report artifacts must be " ++
      "trusted valid or accepted terminal before this audit task can start"))
  else none

/-- `handleTaskEvent` on a stored row. -/
def handleTaskEvent (env : EventEnv) (input : EventHandlerInput) (task : TaskRow) :
    EventHandlerResult × TaskRow :=
  if input.event = .manualException then handleManualException env input task
  else match refusesRuntimeStart env task input.event with
    | some error => (error, task)
    | none =>
      match checkConfigGovernanceBlocker env task input.event with
      | some blocked => blocked
      | none =>
        match input.event with
        | .fastFix => handleFastFix env task
        | .acceptExistingPlan => handleAcceptExistingPlan env task
        | _ => handleRegularTransition env input task

end AifHandoff.Api
