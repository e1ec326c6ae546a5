import AifHandoff.Agent.Coordinator
import AifHandoff.Lib.Program
import AifHandoff.Shared.AuditContract
import AifHandoff.Shared.StateMachine

/-!
The coordinator's writes to the task it runs, as programs of database calls
(`agent/coordinator.ts`).

A stage program reads the stored row and calls three kinds of writers: the guarded
`updateTaskStatus`, the unguarded `setTaskFields`, and the batch refresh behind
`updateRoadmapBatchArtifactState`, which reaches the row of a synthesis task. What the
program learns from elsewhere — artifacts, evidence, the review — is its environment.
The columns of the runtime limit and of the runtime options are left out, and so are
the calls that write nothing else.

Here are the writers and the blocks that several branches of `processOneTask` share.
-/

namespace AifHandoff.Agent.Stage

open Data StateMachine Text

/-! ### Calls -/

inductive StageCall where
  | updateTaskStatus (status : TaskStatus) (extra : TaskFieldsPatch)
  /-- The patch takes its time stamps from the clock. -/
  | setTaskFields (patch : Nat → TaskFieldsPatch)
  | refreshRoadmapBatchSummary

abbrev StageProgram := Program TaskRow StageCall

def findTaskById : StageProgram TaskRow := .read .ret

def updateTaskStatus (status : TaskStatus) (extra : TaskFieldsPatch := {}) : StageProgram Unit :=
  .call (.updateTaskStatus status extra) (.ret ())

def setTaskFields (patch : Nat → TaskFieldsPatch) : StageProgram Unit :=
  .call (.setTaskFields patch) (.ret ())

/-- The log text is read before it is written back. -/
def appendTaskActivityLog : StageProgram Unit := do
  let _ ← findTaskById
  setTaskFields fun now => { lastHeartbeatAt := some (some now), updatedAt := some now }

/-- The status write asks for a cancellation. -/
def cancelsTask (status : TaskStatus) (extra : TaskFieldsPatch) : Bool :=
  status == .blockedExternal && isOperatorCancelledReason (extra.blockedReason.getD none)

theorem skipsStatusUpdate_eq (row : TaskRow) (status : TaskStatus) (extra : TaskFieldsPatch) :
    skipsStatusUpdate row status extra =
      (isOperatorCancelledTask row && !cancelsTask status extra) := by
  simp [skipsStatusUpdate, cancelsTask, Bool.not_and, bne]

/-- The patch leaves a cancelled task, which is paused, cancelled and paused. -/
def keepsCancellation (patch : TaskFieldsPatch) : Bool :=
  patch.status.isNone && patch.blockedReason.isNone && patch.paused != some false

/-- What `holdSynthesisTask` writes. -/
def synthesisHoldPatch (reason : String) (fromStatus : TaskStatus) (now : Nat) :
    TaskFieldsPatch where
  paused := some true
  blockedReason := some (some reason)
  blockedFromStatus := some (some fromStatus)
  updatedAt := some now

/-- A call of the coordinator's own code. -/
def CoordinatorCall : StageCall → Prop
  | .updateTaskStatus status extra => cancelsTask status extra = false
  | .setTaskFields patch =>
    (∀ now, keepsCancellation (patch now) = true) ∨
      ∃ reason fromStatus, patch = synthesisHoldPatch reason fromStatus
  | .refreshRoadmapBatchSummary => True

section Calls

variable {α : Type} {p : StageProgram α}

/-- A program of the coordinator's own calls. -/
abbrev Coordinates (p : StageProgram α) : Prop := p.Calls CoordinatorCall

theorem findTaskById_calls : Coordinates findTaskById := fun _ => trivial

theorem appendTaskActivityLog_calls : Coordinates appendTaskActivityLog :=
  fun _ => ⟨.inl fun _ => rfl, trivial⟩

/-- A status other than `blocked_external` is no cancellation. -/
theorem updateTaskStatus_calls {status : TaskStatus} {extra : TaskFieldsPatch}
    (other : status ≠ .blockedExternal) : Coordinates (updateTaskStatus status extra) := by
  refine ⟨?_, trivial⟩
  simp [CoordinatorCall, cancelsTask, other]

/-- The reason is no cancellation. -/
def Uncancelled (reason : String) : Prop := startsWith reason "operator_cancelled:" = false

/-- Neither text opens with the other, so the reason opens otherwise. -/
theorem uncancelled_append {p s : String} (left : ¬ p.toList <+: "operator_cancelled:".toList)
    (right : ¬ "operator_cancelled:".toList <+: p.toList) : Uncancelled (p ++ s) :=
  not_startsWith_of_startsWith _ (startsWith_append p s) left right

theorem block_calls {status : TaskStatus} {extra : TaskFieldsPatch} {reason : String}
    (written : extra.blockedReason = some (some reason)) (other : Uncancelled reason) :
    Coordinates (updateTaskStatus status extra) := by
  refine ⟨?_, trivial⟩
  rw [Uncancelled] at other
  simp [CoordinatorCall, cancelsTask, isOperatorCancelledReason, written, other]

/-- A status write and a line of the log. -/
theorem logged_calls {write : StageProgram Unit} (writes : Coordinates write)
    (later : Coordinates p) : Coordinates (do write; appendTaskActivityLog; p) :=
  .bind writes fun _ => .bind appendTaskActivityLog_calls fun _ => later

end Calls

/-! ### The environment -/

/-- Where `processOneTask` evaluates completion evidence. -/
inductive EvidenceSite where
  | preImplementation | skipReview | manualReview | accepted | done | reviewHandoff | afterWrite
deriving DecidableEq, Repr

/-- The verdict of an evaluation, as the coordinator uses it. -/
structure StageEvidence extends CompletionEvidence where
  /-- Codes that send an implementation back to rework. -/
  implementationIssueCodes : List String := []
  /-- The implementation failed with the same fingerprint before, without override. -/
  repeatedImplementationFailure : Bool := false
  untrustedArtifactCleanup : Bool := false
deriving DecidableEq, Repr

/-- What `processOneTask` learns from outside the task row. -/
structure StageEnv extends CoordinatorEnv where
  projectFound : Bool := true
  projectInitialized : Bool := true
  hasCurrentRequirementsSnapshotOrWaiver : Bool := true
  /-- The pre-planning stage whose artifact is not accepted. -/
  stageArtifactIssue : Option TaskStatus := none
  /-- The role of the task's roadmap artifact. -/
  artifactRole : Option AuditArtifactRole := none
  /-- The task is its batch's synthesis task. -/
  synthesisOfBatch : Bool := false
  synthesisReady : Bool := true
  validArtifacts : Nat := 0
  totalArtifacts : Nat := 0
  completionEvidence : EvidenceSite → TaskRow → StageEvidence := fun _ _ => {}
  implementationEvidenceMaxRework : Nat := 2
  planQualityMaxRetries : Nat := 2
  autoReviewStallThreshold : Nat := 3
  synthesisPlanQualityRecovery : Bool := false
  runtimeAutoFallbackEnabled : Bool := false

variable (env : StageEnv)

/-- The refresh that ends every artifact update reaches the batch's synthesis task. -/
def updateRoadmapBatchArtifactState : StageProgram Unit :=
  if env.synthesisOfBatch then .call .refreshRoadmapBatchSummary (.ret ()) else pure ()

theorem updateRoadmapBatchArtifactState_calls :
    Coordinates (updateRoadmapBatchArtifactState env) := by
  unfold updateRoadmapBatchArtifactState
  exact .ite (fun _ => ⟨trivial, trivial⟩) fun _ => .pure ()

/-! ### Synthesis hold -/

def holdSynthesisTask (reason : String) (fromStatus : TaskStatus) : StageProgram Bool :=
  if env.artifactRole ≠ some .synthesis then return false
  else do
    updateRoadmapBatchArtifactState env
    setTaskFields (synthesisHoldPatch reason fromStatus)
    appendTaskActivityLog
    return true

def holdSynthesisIfNotReady (task : TaskRow) : StageProgram Bool :=
  if env.artifactRole ≠ some .synthesis then return false
  else if env.synthesisReady then return false
  else
    holdSynthesisTask env
      ("synthesis_not_ready: waiting for validated audit batch artifacts (" ++
        toString env.validArtifacts ++ "/" ++ toString env.totalArtifacts ++ " valid)")
      task.status

theorem holdSynthesisTask_calls (reason : String) (fromStatus : TaskStatus) :
    Coordinates (holdSynthesisTask env reason fromStatus) := by
  refine .ite (fun _ => .pure false) fun _ => ?_
  refine .bind (updateRoadmapBatchArtifactState_calls env) fun _ => ?_
  have hold : Coordinates (setTaskFields (synthesisHoldPatch reason fromStatus)) :=
    ⟨.inr ⟨reason, fromStatus, rfl⟩, trivial⟩
  exact logged_calls hold (.pure true)

theorem holdSynthesisIfNotReady_calls (task : TaskRow) :
    Coordinates (holdSynthesisIfNotReady env task) := by
  refine .ite (fun _ => .pure false) fun _ => .ite (fun _ => .pure false) fun _ => ?_
  exact holdSynthesisTask_calls env _ _

/-! ### Blocks and returns -/

def returnTaskToPrePlanningStage (task : TaskRow) (targetStatus : TaskStatus) :
    StageProgram Unit := do
  updateTaskStatus targetStatus
    { blockedReason := some none
      blockedFromStatus := some none
      retryAfter := some none
      retryCount := some task.retryCount
      manualReviewRequired := some false }
  appendTaskActivityLog

def routeTaskToQaGate (task : TaskRow) : StageProgram Unit := do
  updateTaskStatus .qa
    { cleanStateReset with
      reviewIterationCount := some task.reviewIterationCount
      autoReviewState := some task.autoReviewState }
  appendTaskActivityLog

def blockTaskForQaDoneGate (task : TaskRow) (fromStatus : TaskStatus) (reason : String) :
    StageProgram Unit := do
  updateTaskStatus .blockedExternal
    { blockedReason := some (some ("qa_done_gate_blocked: " ++ reason))
      blockedFromStatus := some (some fromStatus)
      retryAfter := some none
      retryCount := some task.retryCount
      reworkRequested := some false
      manualReviewRequired := some true
      autoReviewState := some task.autoReviewState }
  appendTaskActivityLog

/-- `[reason, extra].filter(Boolean).join("; ")` of a reason that is not empty. -/
def joinReasons (reason : String) (extra : Option String) : String :=
  if extra.getD "" = "" then reason else reason ++ "; " ++ extra.getD ""

def blockTaskForSameFailureFingerprint (task : TaskRow) (fromStatus : TaskStatus)
    (blockedReason : String) (extra : TaskFieldsPatch) : StageProgram Unit := do
  updateTaskStatus .blockedExternal
    { extra with
      blockedReason := some (some (joinReasons blockedReason (extra.blockedReason.getD none)))
      blockedFromStatus := extra.blockedFromStatus <|> some (some fromStatus)
      retryAfter := extra.retryAfter <|> some none
      retryCount := extra.retryCount <|> some task.retryCount
      reworkRequested := some false
      manualReviewRequired := some true }
  appendTaskActivityLog
  -- The guardrail event is logged too.
  appendTaskActivityLog

/-- `terminalizeRoadmapSourceReportAsInconclusive`, with the reason that it is given or
that it prefixes itself. -/
def terminalizeRoadmapSourceReportAsInconclusive (task : TaskRow) (fromStatus : TaskStatus)
    (reason blockedReason : String) (reviewIterationCount : Nat)
    (autoReviewState : Option String) : StageProgram Bool :=
  if env.artifactRole ≠ some .report then return false
  else do
    updateRoadmapBatchArtifactState env
    updateTaskStatus .blockedExternal
      { cleanStateReset with
        blockedReason := some (some
          (if startsWith blockedReason "manual_review_required:" then blockedReason
          else "manual_review_required: " ++ (reason ++ "; " ++ blockedReason)))
        blockedFromStatus := some (some fromStatus)
        retryCount := some task.retryCount
        reworkRequested := some false
        reviewIterationCount := some reviewIterationCount
        manualReviewRequired := some true
        autoReviewState := some autoReviewState }
    appendTaskActivityLog
    return true

theorem returnTaskToPrePlanningStage_calls (task : TaskRow) {targetStatus : TaskStatus}
    (other : targetStatus ≠ .blockedExternal) :
    Coordinates (returnTaskToPrePlanningStage task targetStatus) :=
  .bind (updateTaskStatus_calls other) fun _ => appendTaskActivityLog_calls

theorem routeTaskToQaGate_calls (task : TaskRow) : Coordinates (routeTaskToQaGate task) :=
  .bind (updateTaskStatus_calls (by simp)) fun _ => appendTaskActivityLog_calls

theorem blockTaskForQaDoneGate_calls (task : TaskRow) (fromStatus : TaskStatus)
    (reason : String) : Coordinates (blockTaskForQaDoneGate task fromStatus reason) :=
  .bind (block_calls rfl (uncancelled_append (by decide) (by decide))) fun _ =>
    appendTaskActivityLog_calls

theorem joinReasons_eq (p s : String) (extra : Option String) :
    ∃ rest, joinReasons (p ++ s) extra = p ++ rest := by
  unfold joinReasons
  split
  · exact ⟨s, rfl⟩
  · exact ⟨s ++ ("; " ++ extra.getD ""), by simp only [String.append_assoc]⟩

theorem joinReasons_uncancelled {p s : String} (extra : Option String)
    (left : ¬ p.toList <+: "operator_cancelled:".toList)
    (right : ¬ "operator_cancelled:".toList <+: p.toList) :
    Uncancelled (joinReasons (p ++ s) extra) := by
  obtain ⟨rest, joined⟩ := joinReasons_eq p s extra
  rw [joined]
  exact uncancelled_append left right

theorem blockTaskForSameFailureFingerprint_calls (task : TaskRow) (fromStatus : TaskStatus)
    {blockedReason : String} (extra : TaskFieldsPatch)
    (other : Uncancelled (joinReasons blockedReason (extra.blockedReason.getD none))) :
    Coordinates (blockTaskForSameFailureFingerprint task fromStatus blockedReason extra) :=
  logged_calls (block_calls rfl other) appendTaskActivityLog_calls

theorem manualReason_uncancelled {reason : String}
    (opens : startsWith reason "manual_review_required:" = true) : Uncancelled reason :=
  not_startsWith_of_startsWith _ opens (by decide) (by decide)

theorem terminalizeRoadmapSourceReportAsInconclusive_calls (task : TaskRow)
    (fromStatus : TaskStatus) (reason blockedReason : String) (reviewIterationCount : Nat)
    (autoReviewState : Option String) :
    Coordinates (terminalizeRoadmapSourceReportAsInconclusive env task fromStatus reason
      blockedReason reviewIterationCount autoReviewState) := by
  refine .ite (fun _ => .pure false) fun _ => ?_
  refine .bind (updateRoadmapBatchArtifactState_calls env) fun _ => ?_
  refine logged_calls (block_calls rfl ?_) (.pure true)
  split
  next own => exact manualReason_uncancelled own
  next => exact uncancelled_append (by decide) (by decide)

/-! ### The completion guard -/

def boundedReviewIterationLimit (value : Nat) : Nat := min value 10

def auditEvidenceRepairIssueCodes (result : StageEvidence) : List String :=
  (result.issues.map (·.code)).filter fun code =>
    ["insufficient_report_evidence", "low_quality_report_evidence", "missing_report_manifest",
      "invalid_report_manifest", "unsupported_report_manifest_version",
      "missing_report_manifest_fields", "missing_audit_evidence_ref"].contains code ||
    startsWith code "manifest_" || startsWith code "audit_evidence_"

/-- The arguments of the guard beside the task and the status it comes from. -/
structure CompletionGuard where
  site : EvidenceSite
  requireManualReview : Bool := false
  preventAuditRework : Bool := false
  extra : TaskFieldsPatch := {}

section CompletionGuard

variable (guard : CompletionGuard) (task : TaskRow) (result : StageEvidence)

/-- `manualReviewRequired` is masked before the implementation. -/
def taskForEvidence : TaskRow :=
  if guard.site = .preImplementation then { task with manualReviewRequired := false } else task

def auditReviewIteration : Nat :=
  guard.extra.reviewIterationCount.getD task.reviewIterationCount

def recoverableAuditArtifactFailure : Bool :=
  env.artifactRole.isSome && guard.site != .preImplementation &&
    isRecoverableAuditFailureFamily result.failureFamily

def repeatedFailureMustBlock : Bool :=
  recoverableAuditArtifactFailure env guard result && result.repeatedAuditFailure

def shouldReturnToRework : Bool :=
  !guard.preventAuditRework && recoverableAuditArtifactFailure env guard result &&
    auditReviewIteration guard task < boundedReviewIterationLimit task.maxReviewIterations &&
    !repeatedFailureMustBlock env guard result

def auditReworkLimitReached : Bool :=
  recoverableAuditArtifactFailure env guard result &&
    boundedReviewIterationLimit task.maxReviewIterations ≤ auditReviewIteration guard task

def completionBlockedReason : String :=
  let baseBlockedReason := formatTaskCompletionBlockedReason result.toCompletionEvidence
    (shouldReturnToRework env guard task result)
  let repairIssueCodes := auditEvidenceRepairIssueCodes result
  let actionableBlockedReason :=
    if shouldReturnToRework env guard task result && 2 ≤ auditReviewIteration guard task &&
        !repairIssueCodes.isEmpty then
      "audit_evidence_repair_required (" ++
        (join ", " repairIssueCodes ++ "): " ++ baseBlockedReason)
    else baseBlockedReason
  if auditReworkLimitReached env guard task result then
    baseBlockedReason ++ " Manual review required: audit evidence guard failed after " ++
      toString (auditReviewIteration guard task) ++ "/" ++
      toString (boundedReviewIterationLimit task.maxReviewIterations) ++ " review iterations."
  else if repeatedFailureMustBlock env guard result then
    actionableBlockedReason ++ " Manual review required: same failure fingerprint failed closed."
  else actionableBlockedReason

def finalBlockedReason : String :=
  let blockedReason := completionBlockedReason env guard task result
  joinReasons
    (if env.artifactRole.isSome then result.failureFamily.text ++ (": " ++ blockedReason)
    else blockedReason)
    (guard.extra.blockedReason.getD none)

def returnAuditTaskToRework (fromStatus : TaskStatus) : StageProgram Bool := do
  updateRoadmapBatchArtifactState env
  updateTaskStatus .implementing
    { guard.extra with
      blockedFromStatus := guard.extra.blockedFromStatus <|> some (some fromStatus)
      retryAfter := guard.extra.retryAfter <|> some none
      retryCount := guard.extra.retryCount <|> some task.retryCount
      blockedReason := some (some (joinReasons
        (result.failureFamily.text ++ (": " ++ completionBlockedReason env guard task result))
        (guard.extra.blockedReason.getD none)))
      reworkRequested := some true
      manualReviewRequired := some false }
  appendTaskActivityLog
  appendTaskActivityLog
  return true

/-- Only an implementation on its way to review goes back to rework. -/
def mayReturnImplementationEvidence : Bool :=
  guard.site = .reviewHandoff && !result.implementationIssueCodes.isEmpty &&
    task.retryCount + 1 ≤
      min (boundedReviewIterationLimit task.maxReviewIterations) env.implementationEvidenceMaxRework

def returnImplementationEvidenceToReworkIfPossible (fromStatus : TaskStatus) :
    StageProgram Bool :=
  let nextIteration := task.retryCount + 1
  let maxIterations :=
    min (boundedReviewIterationLimit task.maxReviewIterations) env.implementationEvidenceMaxRework
  let feedback := formatTaskCompletionBlockedReason result.toCompletionEvidence false
  if !mayReturnImplementationEvidence env guard task result then return false
  else if result.repeatedImplementationFailure then do
    blockTaskForSameFailureFingerprint task fromStatus
      ("implementation_manifest_invalid: " ++ (feedback ++
        " Manual review required: same failure fingerprint failed closed."))
      { reviewIterationCount := some task.reviewIterationCount }
    return true
  else do
    updateTaskStatus .implementing
      { blockedReason := some (some ("Implementation evidence guard rework " ++
          toString nextIteration ++ "/" ++ toString maxIterations ++ ": " ++ feedback))
        blockedFromStatus := some none
        retryAfter := some none
        retryCount := some nextIteration
        reworkRequested := some true
        reviewIterationCount := some task.reviewIterationCount
        manualReviewRequired := some false }
    appendTaskActivityLog
    appendTaskActivityLog
    return true

/-- The block that ends the guard. -/
def blockForCompletionEvidence (fromStatus : TaskStatus) : StageProgram Bool := do
  updateTaskStatus .blockedExternal
    { guard.extra with
      blockedReason := some (some (finalBlockedReason env guard task result))
      blockedFromStatus := guard.extra.blockedFromStatus <|> some (some fromStatus)
      retryAfter := guard.extra.retryAfter <|> some none
      retryCount := guard.extra.retryCount <|> some task.retryCount
      manualReviewRequired := some (guard.requireManualReview ||
        repeatedFailureMustBlock env guard result ||
        auditReworkLimitReached env guard task result ||
        result.issues.any fun issue =>
          issue.code = "manual_review_required" || issue.code = "missing_implementation_manifest") }
  appendTaskActivityLog
  -- A fingerprint that failed closed is logged, with its guardrail event.
  if repeatedFailureMustBlock env guard result then
    appendTaskActivityLog
    appendTaskActivityLog
  return true

/-- The artifact of a task that the guard blocks. -/
def blockArtifact : StageProgram Unit :=
  if env.artifactRole.isNone then pure ()
  else do
    updateRoadmapBatchArtifactState env
    if result.untrustedArtifactCleanup then appendTaskActivityLog else pure ()

/-- The artifact of a task that passes. -/
def acceptArtifact : StageProgram Unit :=
  if env.artifactRole.isSome && guard.site != .preImplementation then
    updateRoadmapBatchArtifactState env
  else pure ()

def blockTaskForCompletionEvidenceIfNeeded (fromStatus : TaskStatus) : StageProgram Bool :=
  let result := env.completionEvidence guard.site (taskForEvidence guard task)
  if result.ok then do
    acceptArtifact env guard
    return false
  else do
    if ← returnImplementationEvidenceToReworkIfPossible env guard task result fromStatus then
      return true
    if shouldReturnToRework env guard task result then
      returnAuditTaskToRework env guard task result fromStatus
    else
      blockArtifact env result
      blockForCompletionEvidence env guard task result fromStatus

theorem failureFamily_uncancelled (family : AuditFailureFamily) :
    ¬ family.text.toList <+: "operator_cancelled:".toList ∧
      ¬ "operator_cancelled:".toList <+: family.text.toList := by
  cases family <;> decide

theorem formatTaskCompletionBlockedReason_eq (verdict : CompletionEvidence) (suppress : Bool) :
    ∃ rest, formatTaskCompletionBlockedReason verdict suppress =
      "Completion evidence guard (" ++ rest := by
  unfold formatTaskCompletionBlockedReason
  simp only [String.append_assoc]
  exact ⟨_, rfl⟩

theorem completionBlockedReason_of_noArtifact (noArtifact : env.artifactRole.isSome = false) :
    completionBlockedReason env guard task result =
      formatTaskCompletionBlockedReason result.toCompletionEvidence false := by
  have unrecoverable : recoverableAuditArtifactFailure env guard result = false := by
    simp [recoverableAuditArtifactFailure, noArtifact]
  simp [completionBlockedReason, auditReworkLimitReached, repeatedFailureMustBlock,
    shouldReturnToRework, unrecoverable]

theorem finalBlockedReason_uncancelled :
    Uncancelled (finalBlockedReason env guard task result) := by
  unfold finalBlockedReason
  cases artifact : env.artifactRole.isSome with
  | true =>
    obtain ⟨left, right⟩ := failureFamily_uncancelled result.failureFamily
    exact joinReasons_uncancelled _ left right
  | false =>
    obtain ⟨rest, opens⟩ :=
      formatTaskCompletionBlockedReason_eq result.toCompletionEvidence false
    simp only [Bool.false_eq_true, if_false,
      completionBlockedReason_of_noArtifact env guard task result artifact, opens]
    exact joinReasons_uncancelled _ (by decide) (by decide)

theorem returnAuditTaskToRework_calls (fromStatus : TaskStatus) :
    Coordinates (returnAuditTaskToRework env guard task result fromStatus) := by
  refine .bind (updateRoadmapBatchArtifactState_calls env) fun _ => ?_
  refine logged_calls (updateTaskStatus_calls (by simp)) ?_
  exact .bind appendTaskActivityLog_calls fun _ => .pure true

theorem returnImplementationEvidenceToReworkIfPossible_calls (fromStatus : TaskStatus) :
    Coordinates
      (returnImplementationEvidenceToReworkIfPossible env guard task result fromStatus) := by
  refine .ite (fun _ => .pure false) fun _ => .ite (fun _ => ?_) fun _ => ?_
  · refine .bind (blockTaskForSameFailureFingerprint_calls _ _ _ ?_) fun _ => .pure true
    exact joinReasons_uncancelled _ (by decide) (by decide)
  · refine logged_calls (updateTaskStatus_calls (by simp)) ?_
    exact .bind appendTaskActivityLog_calls fun _ => .pure true

theorem blockForCompletionEvidence_calls (fromStatus : TaskStatus) :
    Coordinates (blockForCompletionEvidence env guard task result fromStatus) := by
  refine logged_calls
    (block_calls rfl (finalBlockedReason_uncancelled env guard task result)) ?_
  refine .ite (fun _ => ?_) fun _ => ?_
  · refine .bind appendTaskActivityLog_calls fun _ => ?_
    exact .bind appendTaskActivityLog_calls fun _ => .pure true
  · exact .pure true

theorem blockArtifact_calls : Coordinates (blockArtifact env result) := by
  refine .ite (fun _ => .pure ()) fun _ => ?_
  refine .bind (updateRoadmapBatchArtifactState_calls env) fun _ => ?_
  exact .ite (fun _ => appendTaskActivityLog_calls) fun _ => .pure ()

theorem blockTaskForCompletionEvidenceIfNeeded_calls (fromStatus : TaskStatus) :
    Coordinates (blockTaskForCompletionEvidenceIfNeeded env guard task fromStatus) := by
  refine .ite (fun _ => ?_) fun _ => ?_
  · refine .bind ?_ fun _ => .pure false
    exact .ite (fun _ => updateRoadmapBatchArtifactState_calls env) fun _ => .pure ()
  · refine .bind (returnImplementationEvidenceToReworkIfPossible_calls env guard task _ _)
      fun returned => .ite (fun _ => .pure true) fun _ => .ite (fun _ => ?_) fun _ => ?_
    · exact returnAuditTaskToRework_calls env guard task _ fromStatus
    · refine .bind (blockArtifact_calls env _) fun _ => ?_
      exact blockForCompletionEvidence_calls env guard task _ fromStatus

end CompletionGuard

end AifHandoff.Agent.Stage
