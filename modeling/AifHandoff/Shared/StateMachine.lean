import AifHandoff.Lib.Text
import AifHandoff.Shared.Schema

/-!
The human transition table of a task (`packages/shared/src/stateMachine.ts`).

`applyHumanTaskEvent` either rejects an event with a message or returns the patch
that the API writes. The `isRetryable*` predicates read prefixes and infixes of
the lower-cased `blockedReason`, so a block can be retried or not depending on
the text its writer chose.
-/

namespace AifHandoff.StateMachine

open AifHandoff.Text

inductive TaskEvent where
  | startAi | acceptExistingPlan | requestRequirementsReanalysis | approveRequirements
  | startImplementation | requestReplanning | fastFix | approveDone | requestChanges
  | manualException | cancelTask | retryFromBlocked
deriving DecidableEq, Repr

structure TaskTransitionOptions where
  requirementsIntakeEnabled : Bool := false
  allowOperatorInputRetry : Bool := false

/-- Default reset values applied when transitioning out of blocked/retry states. -/
def cleanStateReset : TaskFieldsPatch where
  blockedReason := some none
  blockedFromStatus := some none
  retryAfter := some none
  retryCount := some 0
  reworkRequested := some false
  reviewIterationCount := some 0
  manualReviewRequired := some false
  autoReviewState := some none
  scheduledAt := some none
  paused := some false

/-- `task.blockedReason?.toLowerCase() ?? ""`. -/
def loweredReason (task : TaskRow) : String := (task.blockedReason.map toLowerCase).getD ""

def isManualReviewBlockedTask (task : TaskRow) : Bool :=
  let reason := loweredReason task
  task.manualReviewRequired ||
    includes reason "manual-review" ||
    includes reason "manual_review_required" ||
    includes reason "manual review required" ||
    includes reason "manual_exception" ||
    includes reason "manual-exception"

def isRetryablePlanQualityBlock (task : TaskRow) : Bool :=
  task.blockedFromStatus = some .planning && startsWith (loweredReason task) "plan quality guard"

def isRetryableMalformedReviewOutputBlock (task : TaskRow) : Bool :=
  task.blockedFromStatus = some .review &&
    (includes (loweredReason task) "malformed_review_output_fallback" ||
      includes (loweredReason task) "malformed_structured_review_contract")

def isRetryableNoSubstantiveReworkBlock (task : TaskRow) : Bool :=
  task.blockedFromStatus = some .implementing &&
    includes (loweredReason task) "no_substantive_rework_delta"

def isRetryableStalledReworkLoopBlock (task : TaskRow) : Bool :=
  task.blockedFromStatus = some .review && includes (loweredReason task) "stalled_rework_loop"

def isRetryableQaSchemaFallbackBlock (task : TaskRow) : Bool :=
  task.blockedFromStatus = some .qa &&
    startsWith (loweredReason task) "qa_stage_blocked:" &&
    includes (loweredReason task) "qa output failed schema validation"

def isRetryableSequentialBranchDependencyBlock (task : TaskRow) : Bool :=
  startsWith (loweredReason task) "sequential_branch_dependency_blocked:"

def isRetryableOperatorInputHold (task : TaskRow) : Bool :=
  startsWith (loweredReason task) "operator_input_required:" ||
    startsWith (loweredReason task) "operator_cancelled:"

/-- The condition under which `retry_from_blocked` refuses a manual review block. -/
def refusesManualReviewRetry (task : TaskRow) (options : TaskTransitionOptions) : Bool :=
  isManualReviewBlockedTask task &&
    !isRetryablePlanQualityBlock task &&
    !isRetryableMalformedReviewOutputBlock task &&
    !isRetryableNoSubstantiveReworkBlock task &&
    !isRetryableStalledReworkLoopBlock task &&
    !isRetryableQaSchemaFallbackBlock task &&
    !isRetryableSequentialBranchDependencyBlock task &&
    !(options.allowOperatorInputRetry && isRetryableOperatorInputHold task)

/-- The patch of `cancel_task`. -/
def cancelPatch (task : TaskRow) : TaskFieldsPatch :=
  { cleanStateReset with
    status := some .blockedExternal
    blockedReason := some (some
      ("operator_cancelled: task cancelled by operator from " ++ task.status.text))
    blockedFromStatus := some (some task.status)
    manualReviewRequired := some true
    paused := some true }

def applyHumanTaskEvent (task : TaskRow) (event : TaskEvent)
    (options : TaskTransitionOptions := {}) : Except String TaskFieldsPatch :=
  match event with
  | .startAi =>
    if task.status ≠ .backlog then .error "start_ai is only allowed from backlog"
    else .ok { cleanStateReset with
      status := some (if options.requirementsIntakeEnabled then .requirementsAnalysis
        else .planning) }
  | .requestRequirementsReanalysis =>
    if !options.requirementsIntakeEnabled then
      .error "request_requirements_reanalysis requires requirements intake to be enabled"
    else if task.status ∉ [.backlog, .planning, .planReady, .done] then
      .error ("request_requirements_reanalysis is only allowed from backlog, planning, " ++
        "plan_ready, or done")
    else .ok { cleanStateReset with status := some .requirementsAnalysis }
  | .approveRequirements =>
    if task.status ≠ .requirementsAnalysis then
      .error "approve_requirements is only allowed from requirements_analysis"
    else .ok { cleanStateReset with status := some .planning }
  | .acceptExistingPlan =>
    if task.status ≠ .backlog then .error "accept_existing_plan is only allowed from backlog"
    else .ok { cleanStateReset with status := some .planReady }
  | .startImplementation =>
    if task.status ≠ .planReady then .error "start_implementation is only allowed from plan_ready"
    else if task.autoMode then .error "start_implementation is not needed when autoMode=true"
    else .ok { cleanStateReset with status := some .implementing }
  | .requestReplanning =>
    if task.status ≠ .planReady then .error "request_replanning is only allowed from plan_ready"
    else .ok { cleanStateReset with status := some .planning }
  | .fastFix =>
    if task.status ≠ .planReady then .error "fast_fix is only allowed from plan_ready"
    else .ok { cleanStateReset with status := some .planReady }
  | .approveDone =>
    if task.status ≠ .done then .error "approve_done is only allowed from done"
    else .ok { cleanStateReset with status := some .verified }
  | .requestChanges =>
    if task.status ≠ .done then .error "request_changes is only allowed from done"
    else .ok { cleanStateReset with status := some .implementing, reworkRequested := some true }
  | .manualException => .error "manual_exception is handled by the audit artifact service"
  | .cancelTask =>
    if task.status = .done ∨ task.status = .verified then
      .error "cancel_task is not allowed from terminal task status"
    else .ok (cancelPatch task)
  | .retryFromBlocked =>
    if task.status ≠ .blockedExternal then
      .error "retry_from_blocked is only allowed from blocked_external"
    else match task.blockedFromStatus with
      | none => .error "blockedFromStatus is missing for retry_from_blocked"
      | some resume =>
        if refusesManualReviewRetry task options then
          .error "retry_from_blocked is not allowed for manual review blocks"
        else .ok { cleanStateReset with
          status := some resume
          reworkRequested := some task.reworkRequested }

/-! ### What the table accepts -/

variable {task : TaskRow} {event : TaskEvent} {options : TaskTransitionOptions}
  {patch : TaskFieldsPatch}

/-- What a retry asks: a blocked task, a resume target, and a block that is not a
closed manual review. -/
theorem retry_accepted_iff :
    applyHumanTaskEvent task .retryFromBlocked options = .ok patch ↔
      ∃ resume, task.status = .blockedExternal ∧ task.blockedFromStatus = some resume ∧
        refusesManualReviewRetry task options = false ∧
        patch = { cleanStateReset with
          status := some resume
          reworkRequested := some task.reworkRequested } := by
  simp only [applyHumanTaskEvent]
  by_cases blocked : task.status = .blockedExternal
  · cases from? : task.blockedFromStatus with
    | none => simp [blocked]
    | some resume =>
      cases refused : refusesManualReviewRetry task options with
      | true => simp [blocked]
      | false => simp [blocked, eq_comm]
  · simp [blocked]

/-- Every event the table accepts other than a cancellation clears the block; all
but a retry lead to a status of their own, from a task that is not blocked. -/
theorem accepted_clears (accepted : applyHumanTaskEvent task event options = .ok patch)
    (notCancel : event ≠ .cancelTask) :
    patch.blockedReason = some none ∧ patch.blockedFromStatus = some none ∧
      patch.manualReviewRequired = some false ∧ patch.paused = some false ∧
      ∃ status, patch.status = some status ∧
        (event = .retryFromBlocked ∨
          (task.status ≠ .blockedExternal ∧ status ≠ .blockedExternal)) := by
  cases event
  case cancelTask => exact absurd rfl notCancel
  case retryFromBlocked =>
    obtain ⟨resume, -, -, -, rfl⟩ := retry_accepted_iff.mp accepted
    exact ⟨rfl, rfl, rfl, rfl, resume, rfl, .inl rfl⟩
  case startAi =>
    simp only [applyHumanTaskEvent] at accepted
    split at accepted
    · cases accepted
    · rename_i backlog
      cases accepted
      refine ⟨rfl, rfl, rfl, rfl, _, rfl, .inr ⟨by simp_all, ?_⟩⟩
      split <;> simp
  all_goals
    simp only [applyHumanTaskEvent] at accepted
    repeat' split at accepted
    all_goals cases accepted
    all_goals refine ⟨rfl, rfl, rfl, rfl, _, rfl, .inr ⟨?_, by simp⟩⟩
    all_goals intro blocked
    all_goals simp_all

end AifHandoff.StateMachine
