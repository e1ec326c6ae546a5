import AifHandoff.Agent.StageProgram

/-!
One run of a stage (`processOneTask`, `agent/coordinator.ts`).

`processOneTask` is the whole run as a stage program: the guards before the runner,
the start, the runner, the handoff of what it left, and the recovery of what it threw.
The runner is any program of unguarded writes; what it throws carries the answers that
the recovery handlers ask of the error.

Of what can throw inside the run, the runner and the review gate are modelled.
-/

namespace AifHandoff.Agent.Stage

open Data StateMachine Text

/-! ### What a runner throws -/

/-- `RuntimeErrorCategory`. -/
inductive RuntimeErrorCategory where
  | rateLimit | auth | timeout | permission | stream | transport | modelNotFound
  | contextLength | contentFilter | unknown
deriving DecidableEq, Repr

/-- `mapSafeRuntimeErrorReason(error).reason`. -/
def safeRuntimeErrorReason : RuntimeErrorCategory → String
  | .rateLimit => "Runtime usage limit reached."
  | .auth => "Runtime authentication failed."
  | .timeout => "Runtime request timed out."
  | .permission => "Runtime permissions blocked this task."
  | .stream => "Runtime stream failed."
  | .transport => "Provider temporarily unavailable."
  | .modelNotFound => "Configured model was not found for the selected runtime."
  | .contextLength => "Request exceeded the model context limit."
  | .contentFilter => "Request blocked by provider content policy."
  | .unknown => "Runtime request failed."

def RuntimeErrorCategory.text : RuntimeErrorCategory → String
  | .rateLimit => "rate_limit"
  | .auth => "auth"
  | .timeout => "timeout"
  | .permission => "permission"
  | .stream => "stream"
  | .transport => "transport"
  | .modelNotFound => "model_not_found"
  | .contextLength => "context_length"
  | .contentFilter => "content_filter"
  | .unknown => "unknown"

/-- `buildUserSafeExternalReason`; an error without a category is a capability error. -/
def userSafeExternalReason : Option RuntimeErrorCategory → String
  | none => "Runtime capability check failed. Check the configured runtime profile for this stage."
  | some .rateLimit =>
    "Runtime usage limit reached. Task auto-paused until the retry window."
  | some .auth => "Runtime authentication failed. Check the configured runtime profile."
  | some .permission =>
    "Runtime permissions blocked this task. Check the configured runtime profile or " ++
      "approval mode."
  | some .timeout => "Runtime request timed out. Task will retry automatically."
  | some .stream => "Runtime stream failed. Task will retry automatically."
  | some _ => "Runtime request failed. Task will retry automatically."

/-- Why `classifyStageError` blocks a task. -/
inductive BlockedCause where
  | repeatedToolLoop (byImplementer : Bool) (details : String)
  | implementationRuntimeExhausted (category status : String)
  | branchIsolation (kind message : String)
  | runtimeCapability
  | stageNotCapable (noImplementationProfile : Bool)
  | operatorInput (auth : Bool)
  | nonRetryable (category : RuntimeErrorCategory)
  | inspectionBudget
  | external (category : Option RuntimeErrorCategory)
  | unexpected
deriving DecidableEq, Repr

def implementationRuntimeExhaustedReason (category status : String) : String :=
  "implementation_runtime_exhausted_requires_split: implementer runtime exhausted (category=" ++
    (category ++ "; status=" ++ status ++ "). Split scope, prepare a continuation package, " ++
      "or choose an explicit supported recovery path before retry.")

def BlockedCause.reason (stageLabel : String) : BlockedCause → String
  | .repeatedToolLoop true details => "implementation_tool_loop: " ++ details
  | .repeatedToolLoop false details => "repeated_tool_loop: " ++ details
  | .implementationRuntimeExhausted category status =>
    implementationRuntimeExhaustedReason category status
  | .branchIsolation kind message =>
    "Branch isolation failure (" ++ (kind ++ "): " ++ message)
  | .runtimeCapability =>
    "Runtime capability check failed. Check the configured runtime profile for this stage."
  | .stageNotCapable true =>
    "runtime_stage_not_capable: No implementation-capable runtime profile is configured. " ++
      ("Select a runtime profile explicitly declared capable for tool-using implementation " ++
        "or pass a local Qwen implementation canary before retry.")
  | .stageNotCapable false =>
    "runtime_stage_not_capable: Selected runtime profile is not capable for " ++
      (stageLabel ++ ". Choose a stage-capable runtime profile or update the profile " ++
        "capability contract before retry.")
  | .operatorInput true =>
    "operator_input_required: Runtime authentication failed. " ++
      "Refresh or select a valid runtime profile or login state before retry."
  | .operatorInput false =>
    "operator_input_required: Runtime permissions blocked this task. " ++
      "Grant the required runtime access or update the approval/sandbox policy before retry."
  | .nonRetryable category =>
    safeRuntimeErrorReason category ++ " Manual action required before retry."
  | .inspectionBudget =>
    "repository_inspection_budget_exhausted: Repository inspection budget was exhausted and " ++
      ("compact finalization did not produce a trusted result. AIF will not retry with full " ++
        "repository context or a larger fallback profile automatically.")
  | .external category => userSafeExternalReason category
  | .unexpected =>
    "Unexpected " ++ (stageLabel ++ " stage failure. Operator action required before retry.")

/-- External and unexpected failures count as a retry. -/
def BlockedCause.countsRetry : BlockedCause → Bool
  | .external _ => true
  | .unexpected => true
  | _ => false

inductive ErrorRecovery where
  | fastRetry
  | blockedExternal (cause : BlockedCause) (retryAfter : Option Nat)
  | revert
deriving DecidableEq, Repr

inductive RecoveryKind where
  | repositoryInspectionBudgetExhaustion | contextFallback | transientRuntimeFallback
  | auditReportTimeout | auditReportTransient | postWriteAuditArtifactFailure
deriving DecidableEq, Repr

structure FallbackProfile where
  name : String
  id : String
deriving DecidableEq, Repr

/-- An error, with what the handlers read from it and look up for it. -/
structure StageError where
  /-- The `TaskPlanQualityError` among its causes. -/
  planQuality : Option PlanQualityFailure := none
  /-- The message after `synthesis_not_ready:`. -/
  synthesisNotReady : Option String := none
  /-- `findRuntimeExecutionError(err)?.category`. -/
  runtimeCategory : Option RuntimeErrorCategory := none
  /-- The provider named a reset or a retry time. -/
  hasRetryTime : Bool := false
  repositoryInspectionBudgetExhausted : Bool := false
  /-- Category and status of an exhausted implementation runtime. -/
  implementationRuntimeExhaustion : Option (String × String) := none
  recoveryPackSuffix : String := ""
  /-- A recovery of this kind has been tried with the same inputs. -/
  noDelta : RecoveryKind → Bool := fun _ => false
  blockedReasonFamily : String := ""
  repeatedToolLoop : Bool := false
  fallback : Option FallbackProfile := none
  contextFailedProfiles : String := "none"
  /-- The report is readable where the runner left it. -/
  auditArtifactWritten : Bool := false
  artifactPath : String := ""
  recovery : ErrorRecovery := .blockedExternal .unexpected none
  /-- The failed profile is known. -/
  attributed : Bool := false
  contextFallback : Bool := false
  activityQueued : Bool := false

/-! ### The review gate -/

inductive HandoffReason where
  | newBlockersAfterRework | malformedReviewOutputFallback | malformedStructuredReviewContract
  | riskyReviewWithoutSubstantiveEvidence | maxIterations | stalledReworkLoop
deriving DecidableEq, Repr

def HandoffReason.text : HandoffReason → String
  | .newBlockersAfterRework => "new_blockers_after_rework"
  | .malformedReviewOutputFallback => "malformed_review_output_fallback"
  | .malformedStructuredReviewContract => "malformed_structured_review_contract"
  | .riskyReviewWithoutSubstantiveEvidence => "risky_review_without_substantive_evidence"
  | .maxIterations => "max_iterations"
  | .stalledReworkLoop => "stalled_rework_loop"

inductive ReviewGateStatus where
  | accepted | reworkRequested | reviewRetryRequested
  | manualReviewRequired (handoffReason : HandoffReason) | operatorInputRequired
deriving DecidableEq, Repr

structure ReviewGateOutcome where
  status : ReviewGateStatus
  currentIteration : Nat
  autoReviewState : Option String := none
  /-- `formatAutoReviewFindingsForBlockedReason(findings)`. -/
  findings : String := "none"
  /-- The first finding, redacted and without a prefix of its own. -/
  operatorInput : Option String := none
  /-- The gate asked for the same before, without override. -/
  repeatedFailure : Bool := false

/-- What the rework has changed since the review asked for it. -/
inductive ReworkDelta where
  | substantive
  | sameWorktree (digest : String)
  | sameArtifact (artifactPath sha : String)
deriving DecidableEq, Repr

/-- `StageEnv` with what the run asks after the runner. -/
structure RunEnv extends StageEnv where
  reworkCompletionEvidenceSatisfied : Bool := false
  contextFallbackAfterRun : Bool := false
  activityQueuedAfterRun : Bool := false
  skipReview : Bool := false
  specializedReviewerFanout : Bool := false
  implementationManifestMissing : Bool := false
  reviewGate : TaskRow → Except StageError (Option ReviewGateOutcome) := fun _ => .ok none
  reworkDelta : TaskRow → ReworkDelta := fun _ => .substantive
  reworkDetails : String := ""
  freshAcceptedTaskQaArtifact : Bool := true
  acceptancePackError : Option String := none
  /-- A registry-derived plan for the synthesis task. -/
  deterministicPlan : Option String := none

/-- The runner's writes pass no guard. -/
def RunnerCall : StageCall → Prop
  | .updateTaskStatus _ _ => False
  | .setTaskFields _ => True
  | .refreshRoadmapBatchSummary => True

/-- A stage runner; it returns what it throws. -/
structure StageRunner where
  program : StageProgram (Option StageError)
  unguarded : program.Calls RunnerCall

def stageLabel : CoordinatorStage → String
  | .requirementsAnalyst => "requirements-analyst"
  | .researcher => "researcher"
  | .designer => "designer"
  | .planner => "planner"
  | .planChecker => "plan-checker"
  | .implementer => "implementer"
  | .reviewer => "reviewer"
  | .qa => "qa"

variable (env : RunEnv) (task : TaskRow) (stage : StatusTransition)

def clearContextFallbackForTask (present : Bool) : StageProgram Unit := do
  let _ ← findTaskById
  if present then setTaskFields fun now => { updatedAt := some now } else pure ()

def flushActivityQueue (queued : Bool) : StageProgram Unit :=
  if queued then appendTaskActivityLog else pure ()

/-- A block of the task with its line in the log. -/
def blockTask (task : TaskRow) (fromStatus : TaskStatus) (reason : String)
    (extra : TaskFieldsPatch) : StageProgram Unit := do
  updateTaskStatus .blockedExternal
    { extra with
      blockedReason := some (some reason)
      blockedFromStatus := some (some fromStatus)
      retryAfter := some none
      retryCount := extra.retryCount <|> some task.retryCount }
  appendTaskActivityLog

/-! ### Recovery -/

section Recovery

variable (error : StageError)

def failClosedRuntimeRecoveryNoDelta (latestTask : TaskRow) (reason : String)
    (manualReviewRequired : Bool) : StageProgram Bool := do
  blockTask latestTask stage.inProgress ("runtime_recovery_no_delta_fail_closed:" ++ reason)
    { reworkRequested := some false, manualReviewRequired := some manualReviewRequired }
  -- The guardrail event is logged too.
  appendTaskActivityLog
  return true

/-- An immediate retry of the stage, with another profile or a smaller scope. -/
def retryImmediately (latestTask : TaskRow) (reason : String) : StageProgram Bool := do
  updateTaskStatus stage.inProgress
    { blockedReason := some (some reason)
      blockedFromStatus := some none
      retryAfter := some none
      retryCount := some (latestTask.retryCount + 1)
      paused := some false
      reworkRequested := some false
      manualReviewRequired := some false }
  appendTaskActivityLog
  return true

def handleRepositoryInspectionBudgetExhaustion : StageProgram Bool :=
  if !error.repositoryInspectionBudgetExhausted then return false
  else do
    let latestTask ← findTaskById
    let blockedReason :=
      "manual_review_required: repository_inspection_budget_exhausted; " ++
        ("repository inspection budget was exhausted and compact finalization did not produce " ++
          "a trusted report. AIF will not retry with a full repository context or a larger " ++
          "fallback profile for this audit card.")
    if error.noDelta .repositoryInspectionBudgetExhaustion then
      failClosedRuntimeRecoveryNoDelta stage latestTask "repository_inspection_budget_exhaustion"
        true
    else do
      if ← terminalizeRoadmapSourceReportAsInconclusive env.toStageEnv latestTask stage.inProgress
          "repository_inspection_budget_exhausted" blockedReason latestTask.reviewIterationCount
          latestTask.autoReviewState then
        return true
      blockTask latestTask stage.inProgress blockedReason
        { reworkRequested := some false, manualReviewRequired := some true }
      return true

/-- The block that asks the operator for a larger profile. -/
def blockForContextLength (latestTask : TaskRow) (advice : String) : StageProgram Bool := do
  blockTask latestTask stage.inProgress
    ("operator_input_required: Request exceeded the model context limit. " ++
      (advice ++ ", or split/reduce the task scope before retry. Context-failed profiles: " ++
        error.contextFailedProfiles ++ "."))
    { reworkRequested := some false, manualReviewRequired := some false }
  return true

def handleContextLengthRecovery : StageProgram Bool :=
  let label := stageLabel stage.label
  if error.runtimeCategory ≠ some .contextLength then return false
  else if error.repositoryInspectionBudgetExhausted then return false
  else do
    let latestTask ← findTaskById
    if !env.runtimeAutoFallbackEnabled then
      blockForContextLength stage error latestTask
        ("Runtime auto fallback is disabled; select a larger compatible runtime profile for " ++
          label)
    else match error.fallback with
      | some fallback =>
        if error.noDelta .contextFallback then
          failClosedRuntimeRecoveryNoDelta stage latestTask "context_length" false
        else
          retryImmediately stage latestTask
            ("Runtime context limit recovery: " ++ (label ++
              " exceeded the selected model context; retrying immediately with fallback " ++
              "runtime profile " ++ fallback.name ++ " (" ++ fallback.id ++ ")."))
      | none =>
        blockForContextLength stage error latestTask
          ("Select a larger compatible runtime profile for " ++ label)

/-- The provider named no time, and the run may choose another profile. -/
def mayRecoverRuntime : Bool := !error.hasRetryTime && env.runtimeAutoFallbackEnabled

def handleTransientRuntimeFallbackRecovery : StageProgram Bool :=
  let category := error.runtimeCategory.getD .unknown
  if !([RuntimeErrorCategory.transport, .stream, .timeout].contains category) then return false
  else if error.repositoryInspectionBudgetExhausted then return false
  else if !mayRecoverRuntime env error then return false
  else do
    let latestTask ← findTaskById
    match error.fallback with
    | none => return false
    | some fallback =>
      if error.noDelta .transientRuntimeFallback then
        failClosedRuntimeRecoveryNoDelta stage latestTask error.blockedReasonFamily
          (latestTask.taskIntent = .audit &&
            (error.repeatedToolLoop || env.artifactRole = some .report))
      else
        retryImmediately stage latestTask
          ("Runtime transient " ++ (category.text ++ " recovery: " ++ stageLabel stage.label ++
            " failed on the selected runtime profile; retrying immediately with fallback " ++
            "runtime profile " ++ fallback.name ++ " (" ++ fallback.id ++ ")."))

/-- The bounded retry of an audit report; at most three. -/
def retryAuditReport (kind : RecoveryKind) (family reason : String) : StageProgram Bool :=
  if env.artifactRole ≠ some .report then return false
  else do
    let latestTask ← findTaskById
    if 3 < latestTask.retryCount + 1 then return false
    else if error.noDelta kind then
      failClosedRuntimeRecoveryNoDelta stage latestTask family true
    else
      retryImmediately stage latestTask ("Runtime audit report " ++ (reason ++
        error.artifactPath ++
        "; retrying immediately with bounded source-audit scope and evidence budget."))

def handleAuditReportTimeoutRecovery : StageProgram Bool :=
  if error.runtimeCategory ≠ some .timeout then return false
  else if error.repositoryInspectionBudgetExhausted then return false
  else if !mayRecoverRuntime env error then return false
  else
    retryAuditReport env stage error .auditReportTimeout "audit_report_timeout"
      ("timeout recovery: " ++ stageLabel stage.label ++ " timed out while producing ")

/-- Unlike the timeout recovery it does not ask about an exhausted inspection budget. -/
def handleAuditReportTransientRecovery : StageProgram Bool :=
  let category := error.runtimeCategory.getD .unknown
  if !([RuntimeErrorCategory.transport, .stream].contains category) then return false
  else if !mayRecoverRuntime env error then return false
  else
    retryAuditReport env stage error .auditReportTransient error.blockedReasonFamily
      ("transient " ++ category.text ++ " recovery: " ++ stageLabel stage.label ++
        " failed while producing ")

def recoverWrittenAuditArtifactAfterRuntimeFailure : StageProgram Bool :=
  let category := error.runtimeCategory.getD .unknown
  if stage.label ≠ .implementer then return false
  else if !([RuntimeErrorCategory.timeout, .contextLength, .transport, .stream].contains category)
    then return false
  else if error.hasRetryTime then return false
  else do
    let latestTask ← findTaskById
    if env.artifactRole ≠ some .report || !error.auditArtifactWritten then return false
    else if !(env.completionEvidence .afterWrite latestTask).ok &&
        error.noDelta .postWriteAuditArtifactFailure then
      failClosedRuntimeRecoveryNoDelta stage latestTask "post_write_audit_artifact_failure" true
    else do
      let blocked ← blockTaskForCompletionEvidenceIfNeeded env.toStageEnv
        { site := .afterWrite
          extra := { blockedReason := some (some ("runtime_" ++ category.text ++
            "_after_audit_artifact_write: model transport failed after writing an audit " ++
            "report; coordinator used deterministic validation before retrying.")) } }
        latestTask stage.inProgress
      if blocked then
        appendTaskActivityLog
        return true
      else return false

end Recovery

/-! ### Plan quality -/

section PlanQuality

def recoverSynthesisPlanQualityFailure : StageProgram Bool :=
  if !env.synthesisPlanQualityRecovery then return false
  else if env.artifactRole ≠ some .synthesis then return false
  else if !env.synthesisReady then return false
  else match env.deterministicPlan with
    | none => return false
    | some plan => do
      setTaskFields fun now => { plan := some (some plan), updatedAt := some now }
      updateTaskStatus .implementing
        { blockedReason := some none
          blockedFromStatus := some none
          retryAfter := some none
          retryCount := some 0
          reworkRequested := some false
          manualReviewRequired := some false }
      appendTaskActivityLog
      return true

def planQualityStrictness (attempt : Nat) : String :=
  if attempt = 1 then
    "Replan with concrete task-specific steps, required artifact paths, and diagnostic-only " ++
      "constraints where applicable."
  else
    "Repeated plan-quality failure: produce a stricter plan with a valid manifest when " ++
      "required, explicit scope boundaries, testable acceptance criteria, concrete verification " ++
      "commands, and no intent drift."

def planQualityBlockedReason (failure : PlanQualityFailure) : String :=
  formatTaskPlanQualityBlockedReason failure ++ (" Retry limit reached (" ++
    toString env.planQualityMaxRetries ++ "). Operator next step: edit the task prompt or plan " ++
    "constraints, then retry from blocked.")

def handlePlanQualityFailure (failure : PlanQualityFailure) : StageProgram Unit := do
  let latestTask ← findTaskById
  let nextRetryCount := latestTask.retryCount + 1
  if nextRetryCount ≤ env.planQualityMaxRetries then do
    updateTaskStatus .planning
      { blockedReason := some (some ("Plan quality guard replan " ++ toString nextRetryCount ++
          "/" ++ toString env.planQualityMaxRetries ++ ": " ++
          formatTaskPlanQualityBlockedReason failure ++ " " ++
          planQualityStrictness nextRetryCount))
        blockedFromStatus := some (some stage.inProgress)
        retryAfter := some none
        retryCount := some nextRetryCount }
    appendTaskActivityLog
    appendTaskActivityLog
  else do
    let recovered ← recoverSynthesisPlanQualityFailure env
    if recovered then return ()
    else do
      appendTaskActivityLog
      let terminalized ← terminalizeRoadmapSourceReportAsInconclusive env.toStageEnv latestTask
        stage.inProgress "plan_quality_exhausted" (planQualityBlockedReason env failure)
        latestTask.reviewIterationCount none
      if terminalized then return ()
      else
        blockTask latestTask stage.inProgress (planQualityBlockedReason env failure)
          { retryCount := some nextRetryCount, manualReviewRequired := some true }

end PlanQuality

/-! ### What the runner threw -/

/-- An exhausted implementation runtime is blocked before any fallback. -/
def blockExhaustedImplementation (error : StageError) (category status : String) :
    StageProgram Bool := do
  let latestTask ← findTaskById
  clearContextFallbackForTask error.contextFallback
  updateTaskStatus .blockedExternal
    { blockedReason := some (some (implementationRuntimeExhaustedReason category status ++
        error.recoveryPackSuffix))
      blockedFromStatus := some (some stage.inProgress)
      retryAfter := some none
      retryCount := some latestTask.retryCount }
  appendTaskActivityLog
  appendTaskActivityLog
  return true

def handleImplementationRuntimeExhaustion (error : StageError) : StageProgram Bool :=
  match error.implementationRuntimeExhaustion with
  | some (category, status) =>
    if stage.label = .implementer then blockExhaustedImplementation stage error category status
    else return false
  | none => return false

def holdSynthesisAfterError (error : StageError) : StageProgram Bool :=
  match error.synthesisNotReady with
  | some detail =>
    if stage.label = .implementer then do
      let _ ← findTaskById
      holdSynthesisTask env.toStageEnv ("synthesis_not_ready:" ++ detail) stage.inProgress
    else return false
  | none => return false

/-- What is left after the recovery handlers. -/
def applyErrorRecovery (error : StageError) : StageProgram Unit :=
  match error.recovery with
  | .fastRetry =>
    updateTaskStatus stage.inProgress
      { blockedReason := some none
        blockedFromStatus := some none
        retryAfter := some none }
  | .blockedExternal cause retryAfter => do
    updateTaskStatus .blockedExternal
      { blockedReason := some (some (cause.reason (stageLabel stage.label)))
        blockedFromStatus := some (some stage.inProgress)
        retryAfter := some retryAfter
        retryCount := some (if cause.countsRetry then task.retryCount + 1 else task.retryCount) }
    flushActivityQueue error.attributed
  | .revert => updateTaskStatus stage.inProgress

/-- The handlers in their order; each says whether it took the error. -/
def recoverRuntime (error : StageError) : StageProgram Unit := do
  if ← holdSynthesisAfterError env stage error then return ()
  if ← handleImplementationRuntimeExhaustion stage error then return ()
  if ← recoverWrittenAuditArtifactAfterRuntimeFailure env stage error then return ()
  if ← handleRepositoryInspectionBudgetExhaustion env stage error then return ()
  if ← handleContextLengthRecovery env stage error then return ()
  if ← handleAuditReportTimeoutRecovery env stage error then return ()
  if ← handleTransientRuntimeFallbackRecovery env stage error then return ()
  if ← handleAuditReportTransientRecovery env stage error then return ()
  clearContextFallbackForTask (error.contextFallback && error.runtimeCategory ≠ some .contextLength)
  applyErrorRecovery task stage error

/-- The planning stages look for a plan quality error among the causes. -/
def planQualityError (error : StageError) : Option PlanQualityFailure :=
  if stage.label = .planner || stage.label = .planChecker then error.planQuality else none

/-- The catch branch; it asks for a cancellation once, before any handler. -/
def recover (error : StageError) : StageProgram Bool := do
  let cancelledTask ← findTaskById
  if isOperatorCancelledTask cancelledTask then
    flushActivityQueue error.activityQueued
    return false
  else match planQualityError stage error with
    | some failure =>
      handlePlanQualityFailure env stage failure
      flushActivityQueue error.activityQueued
      return false
    | none =>
      recoverRuntime env task stage error
      flushActivityQueue error.activityQueued
      return false

/-! ### What the runner left -/

def isPlannerTerminalBlockedTask (latestTask : TaskRow) : Bool :=
  latestTask.status == .blockedExternal &&
    latestTask.blockedReason.any fun reason =>
      startsWith reason "split_required:" || startsWith reason "split_required_conflict:" ||
        startsWith reason "planner_decision_blocked:"

def isImplementerInternalManifestReworkState (latestTask : TaskRow) : Bool :=
  latestTask.status == .implementing && latestTask.reworkRequested &&
    !latestTask.manualReviewRequired &&
    latestTask.blockedReason.any (startsWith · "implementation_manifest_invalid:") &&
    env.implementationManifestMissing

def isPlanQualityRetryState (latestTask : TaskRow) : Bool :=
  latestTask.blockedFromStatus = some .planReady &&
    latestTask.blockedReason.any (startsWith · "Plan quality guard")

def taskRequiresDevelopmentReviewHandoff (latestTask : TaskRow) : Bool :=
  latestTask.isFix || [TaskIntent.feature, .fix, .docs, .tests].contains latestTask.taskIntent

def runnerMayUpdateTaskStatus : Bool :=
  [CoordinatorStage.requirementsAnalyst, .researcher, .designer, .qa].contains stage.label

/-- Done, or QA where it is required. -/
def doneStatus : TaskStatus :=
  if requirementsQaEnabled env.toCoordinatorEnv then .qa else .done

def finishSkippedReview (latestTask : TaskRow) : StageProgram Bool := do
  if ← blockTaskForCompletionEvidenceIfNeeded env.toStageEnv { site := .skipReview } latestTask
      stage.inProgress then
    return false
  updateTaskStatus (doneStatus env) cleanStateReset
  return true

/-- `blockTaskForStalledAutoReview`, for a loop that has stalled. -/
def blockTaskForStalledAutoReview (latestTask : TaskRow) (outcome : ReviewGateOutcome) :
    StageProgram Bool := do
  let blockedReason := "manual_review_required: stalled_rework_loop after " ++
    (toString outcome.currentIteration ++ "/" ++ toString env.autoReviewStallThreshold ++
      " same-blocker reviews; unresolved blockers: " ++ outcome.findings)
  if ← terminalizeRoadmapSourceReportAsInconclusive env.toStageEnv latestTask stage.inProgress
      "stalled_rework_loop" blockedReason outcome.currentIteration outcome.autoReviewState then
    return true
  blockTask latestTask stage.inProgress blockedReason
    { reworkRequested := some false
      reviewIterationCount := some outcome.currentIteration
      manualReviewRequired := some true
      autoReviewState := some outcome.autoReviewState }
  return true

def buildManualAutoReviewBlockedReason (handoffReason : HandoffReason)
    (outcome : ReviewGateOutcome) : String :=
  "manual_review_required: " ++ (handoffReason.text ++
    "; closure evidence gap for unresolved blockers: " ++ outcome.findings)

def handOffManualReview (handoffReason : HandoffReason) (outcome : ReviewGateOutcome) :
    StageProgram Bool := do
  let latestTask ← findTaskById
  let manualBlockedReason := buildManualAutoReviewBlockedReason handoffReason outcome
  if handoffReason = .stalledReworkLoop then
    let _ ← blockTaskForStalledAutoReview env stage latestTask outcome
    return false
  else
    if ← blockTaskForCompletionEvidenceIfNeeded env.toStageEnv
        { site := .manualReview
          requireManualReview := true
          preventAuditRework := handoffReason != .malformedReviewOutputFallback &&
            handoffReason != .malformedStructuredReviewContract
          extra := {
            blockedReason := some (some manualBlockedReason)
            reworkRequested := some false
            reviewIterationCount := some outcome.currentIteration
            autoReviewState := some outcome.autoReviewState } }
        latestTask stage.inProgress then
      return false
    updateTaskStatus .blockedExternal
      { blockedReason := some (some manualBlockedReason)
        blockedFromStatus := some (some stage.inProgress)
        retryAfter := some none
        retryCount := some 0
        reworkRequested := some false
        reviewIterationCount := some outcome.currentIteration
        manualReviewRequired := some true
        autoReviewState := some outcome.autoReviewState }
    return false

/-- A rework or another review, unless the gate has asked for the same before. -/
def handOffRework (outcome : ReviewGateOutcome) (status : TaskStatus) (reworkRequested : Bool)
    (again : String) : StageProgram Bool :=
  if outcome.repeatedFailure then do
    blockTaskForSameFailureFingerprint task stage.inProgress
      ("review_gate_rework: Auto review gate requested " ++ (again ++
        " again. Manual review required: same failure fingerprint failed closed."))
      { reviewIterationCount := some outcome.currentIteration
        autoReviewState := some outcome.autoReviewState }
    return false
  else do
    updateTaskStatus status
      { blockedReason := some none
        blockedFromStatus := some none
        retryAfter := some none
        retryCount := some 0
        reworkRequested := some reworkRequested
        reviewIterationCount := some outcome.currentIteration
        manualReviewRequired := some false
        autoReviewState := some outcome.autoReviewState }
    appendTaskActivityLog
    return true

def handOffAccepted (outcome : ReviewGateOutcome) : StageProgram Bool := do
  let latestTask ← findTaskById
  if ← blockTaskForCompletionEvidenceIfNeeded env.toStageEnv
      { site := .accepted
        extra := {
          reviewIterationCount := some outcome.currentIteration
          autoReviewState := some outcome.autoReviewState } }
      latestTask stage.inProgress then
    return false
  updateTaskStatus (doneStatus env)
    (if doneStatus env = .qa then
      { cleanStateReset with
        reviewIterationCount := some outcome.currentIteration
        autoReviewState := some outcome.autoReviewState }
    else cleanStateReset)
  return true

def handOffReview (outcome : ReviewGateOutcome) : StageProgram Bool :=
  match outcome.status with
  | .manualReviewRequired handoffReason => handOffManualReview env stage handoffReason outcome
  | .operatorInputRequired => do
    blockTask task stage.inProgress
      ("operator_input_required: " ++
        outcome.operatorInput.getD "Provide the missing operator input requested by review.")
      { retryCount := some 0
        reworkRequested := some false
        reviewIterationCount := some outcome.currentIteration
        manualReviewRequired := some false
        autoReviewState := some outcome.autoReviewState }
    return false
  | .reworkRequested => handOffRework task stage outcome .implementing true "the same changes"
  | .reviewRetryRequested =>
    handOffRework task stage outcome .review false "the same reviewer retry"
  | .accepted => handOffAccepted env stage outcome

/-- `blockTaskForNoSubstantiveReworkDeltaIfNeeded`, after a rework. -/
def blockTaskForNoSubstantiveReworkDeltaIfNeeded (latestTask : TaskRow) : StageProgram Bool :=
  let blocked (subject : String) : StageProgram Bool := do
    blockTask latestTask stage.inProgress
      ("manual_review_required: no_substantive_rework_delta for " ++
        (subject ++ env.reworkDetails))
      { reworkRequested := some false
        reviewIterationCount := some latestTask.reviewIterationCount
        manualReviewRequired := some true
        autoReviewState := some latestTask.autoReviewState }
    return true
  if stage.label ≠ .implementer || !task.reworkRequested then return false
  else match env.reworkDelta latestTask with
    | .substantive => return false
    | .sameWorktree digest =>
      blocked ("task worktree; changed files digest unchanged (" ++ digest ++ ")")
    | .sameArtifact artifactPath sha => do
      let subject := artifactPath ++ "; artifact content sha unchanged (" ++ sha ++ ")"
      if ← terminalizeRoadmapSourceReportAsInconclusive env.toStageEnv latestTask
          stage.inProgress "no_substantive_rework_delta"
          ("manual_review_required: no_substantive_rework_delta for " ++
            (subject ++ env.reworkDetails))
          latestTask.reviewIterationCount latestTask.autoReviewState then
        return true
      blocked subject

/-- The gates in front of `done`; the task they have read, or the result of the run. -/
def passDoneGates (latestTask : TaskRow) : StageProgram (Except Bool TaskRow) :=
  let qaEnabled := requirementsQaEnabled env.toCoordinatorEnv
  if stage.onSuccess ≠ .done then return .ok latestTask
  else do
    let latestTask ← findTaskById
    if qaEnabled && stage.label ≠ .qa then
      routeTaskToQaGate latestTask
      return .error true
    else if qaEnabled && !env.freshAcceptedTaskQaArtifact then
      blockTaskForQaDoneGate latestTask stage.inProgress
        "A fresh accepted QA artifact is required before done."
      return .error false
    else
      if ← blockTaskForCompletionEvidenceIfNeeded env.toStageEnv { site := .done } latestTask
          stage.inProgress then
        return .error false
      match env.acceptancePackError with
      | some reason =>
        if qaEnabled then
          blockTaskForQaDoneGate latestTask stage.inProgress reason
          return .error false
        else return .ok latestTask
      | none => return .ok latestTask

def passReviewHandoff (latestTask : TaskRow) : StageProgram (Except Bool TaskRow) :=
  if stage.label = .implementer && stage.onSuccess = .review &&
      taskRequiresDevelopmentReviewHandoff latestTask then do
    let latestTask ← findTaskById
    if ← blockTaskForCompletionEvidenceIfNeeded env.toStageEnv { site := .reviewHandoff }
        latestTask stage.inProgress then
      return .error false
    return .ok latestTask
  else return .ok latestTask

def successReset (latestTask : TaskRow) : TaskFieldsPatch :=
  let reset : TaskFieldsPatch :=
    { cleanStateReset with
      reviewIterationCount := some
        (if stage.label = .implementer || stage.label = .qa then latestTask.reviewIterationCount
        else 0)
      autoReviewState := some
        (if (stage.label = .implementer && task.reworkRequested) || stage.label = .qa then
          latestTask.autoReviewState
        else none) }
  if stage.label = .planner && isPlanQualityRetryState latestTask then
    { reset with
      retryCount := some latestTask.retryCount
      blockedFromStatus := some latestTask.blockedFromStatus
      blockedReason := some latestTask.blockedReason }
  else reset

/-- The handoff of a stage that has done its work. -/
def finishStage (latestTask : TaskRow) : StageProgram Bool := do
  if ← blockTaskForNoSubstantiveReworkDeltaIfNeeded env task stage latestTask then return false
  match ← passDoneGates env stage latestTask with
  | .error ended => return ended
  | .ok latestTask =>
    match ← passReviewHandoff env stage latestTask with
    | .error ended => return ended
    | .ok latestTask =>
      updateTaskStatus stage.onSuccess (successReset task stage latestTask)
      return true

/-- The review gate, which may throw, and the handoff after it. -/
def handOffReviewStage (latestTask : TaskRow) : StageProgram Bool := do
  let seen ← findTaskById
  match env.reviewGate seen with
  | .error error => recover env task stage error
  | .ok none => finishStage env task stage latestTask
  | .ok (some outcome) => handOffReview env task stage outcome

/-- What becomes of a task whose runner has returned. -/
def handOff : StageProgram Bool := do
  clearContextFallbackForTask env.contextFallbackAfterRun
  flushActivityQueue env.activityQueuedAfterRun
  let latestTask ← findTaskById
  if isOperatorCancelledTask latestTask then return false
  else if latestTask.status = .needsInput && stage.inProgress ≠ .needsInput then return true
  else if stage.label = .planner && isPlannerTerminalBlockedTask latestTask then return false
  else if runnerMayUpdateTaskStatus stage && latestTask.status ≠ stage.inProgress then
    return latestTask.status = .needsInput || latestTask.status = .blockedExternal
  else if stage.label = .implementer && latestTask.status = .blockedExternal then return false
  else if stage.label = .implementer &&
      isImplementerInternalManifestReworkState env latestTask then
    appendTaskActivityLog
    return false
  else if stage.label = .implementer && env.skipReview && !env.specializedReviewerFanout then
    finishSkippedReview env stage latestTask
  else if stage.label = .reviewer then handOffReviewStage env task stage latestTask
  else finishStage env task stage latestTask

/-! ### The run -/

/-- The stage that a planner is sent back to. -/
def prePlanningStage : Option TaskStatus :=
  if stage.label ≠ .planner then none
  else if env.requirementsIntakeEnabled && !env.hasCurrentRequirementsSnapshotOrWaiver then
    some .requirementsAnalysis
  else if researchDesignStagesEnabled env.toCoordinatorEnv then
    env.stageArtifactIssue.map fun issue => if issue = .design then .design else .research
  else none

/-- Rework whose evidence holds already goes back to review. -/
def skipRedundantRework : StageProgram Bool :=
  if task.reworkRequested && env.reworkCompletionEvidenceSatisfied then do
    updateTaskStatus .review
      { cleanStateReset with reviewIterationCount := some task.reviewIterationCount }
    appendTaskActivityLog
    return true
  else return false

/-- The guards of an implementer; the result of a run that they end. -/
def implementerGuards : StageProgram (Option Bool) :=
  if stage.label ≠ .implementer then return none
  else do
    if ← holdSynthesisIfNotReady env.toStageEnv task then return some false
    if ← skipRedundantRework env task then return some true
    if ← blockTaskForCompletionEvidenceIfNeeded env.toStageEnv
        { site := .preImplementation, extra := { manualReviewRequired := some false } } task
        task.status then
      return some false
    return none

/-- The start of the stage, its runner, and what follows. -/
def runStage (runner : StageRunner) : StageProgram Bool := do
  updateTaskStatus stage.inProgress
  match ← runner.program with
  | some error => recover env task stage error
  | none => handOff env task stage

def processOneTask (runner : StageRunner) : StageProgram Bool :=
  if !env.projectFound then return false
  else if !env.projectInitialized then return false
  else match prePlanningStage env stage with
    | some targetStatus => do
      returnTaskToPrePlanningStage task targetStatus
      return false
    | none => do
      match ← implementerGuards env task stage with
      | some ended => return ended
      | none => runStage env task stage runner

end AifHandoff.Agent.Stage
