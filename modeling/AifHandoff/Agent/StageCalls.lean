import AifHandoff.Agent.ProcessTask

/-!
The calls of a run.

Whatever the world answers, the code of `processOneTask` never asks for a
cancellation, and its one unguarded write that relabels a task is the synthesis hold.
There is a lemma for every function of the run, in the order of the source.
-/

namespace AifHandoff.Agent.Stage

open Data StateMachine Text

variable (env : RunEnv) (task : TaskRow) {stage : StatusTransition}

/-- No stage runs or ends in `blocked_external`. -/
structure RunsUnblocked (stage : StatusTransition) : Prop where
  inProgress : stage.inProgress ≠ .blockedExternal
  onSuccess : stage.onSuccess ≠ .blockedExternal

theorem runsUnblocked_of_mem {config : CoordinatorEnv} (inside : stage ∈ activePipeline config) :
    RunsUnblocked stage := by
  have source : ∀ other ∈ pipeline, RunsUnblocked other := by
    intro other among
    simp only [pipeline, List.mem_cons, List.not_mem_nil, or_false] at among
    rcases among with rfl | rfl | rfl | rfl | rfl | rfl | rfl | rfl <;> exact ⟨by simp, by simp⟩
  simp only [activePipeline, List.mem_map, List.mem_filter] at inside
  obtain ⟨other, ⟨among, -⟩, rfl⟩ := inside
  obtain ⟨inProgress, onSuccess⟩ := source other among
  split
  · exact ⟨inProgress, by dsimp only; split <;> simp⟩
  · split
    · exact ⟨inProgress, by dsimp only; split <;> simp⟩
    · exact ⟨inProgress, onSuccess⟩

theorem clearContextFallbackForTask_calls (present : Bool) :
    Coordinates (clearContextFallbackForTask present) := by
  refine .bind findTaskById_calls fun _ => .ite (fun _ => ?_) fun _ => .pure ()
  exact ⟨.inl fun _ => rfl, trivial⟩

theorem flushActivityQueue_calls (queued : Bool) : Coordinates (flushActivityQueue queued) :=
  .ite (fun _ => appendTaskActivityLog_calls) fun _ => .pure ()

theorem blockTask_calls (fromStatus : TaskStatus) {reason : String} (extra : TaskFieldsPatch)
    (other : Uncancelled reason) : Coordinates (blockTask task fromStatus reason extra) :=
  .bind (block_calls rfl other) fun _ => appendTaskActivityLog_calls

theorem uncancelled_of_head {c : Char} {cs : List Char} (other : c ≠ 'o') :
    Uncancelled (String.ofList (c :: cs)) := by
  simp [Uncancelled, startsWith, List.isPrefixOf, Ne.symm other]

theorem uncancelled_append_of_head {c : Char} {cs : List Char} {s : String} (other : c ≠ 'o') :
    Uncancelled (String.ofList (c :: cs) ++ s) := by
  simp [Uncancelled, startsWith, List.isPrefixOf, Ne.symm other]

theorem safeReason_uncancelled (category : RuntimeErrorCategory) :
    Uncancelled (safeRuntimeErrorReason category ++ " Manual action required before retry.") := by
  cases category <;> exact uncancelled_append_of_head (by decide)

theorem userSafeExternalReason_uncancelled (category : Option RuntimeErrorCategory) :
    Uncancelled (userSafeExternalReason category) := by
  rcases category with _ | category
  · exact uncancelled_of_head (by decide)
  · cases category with
    | permission => exact uncancelled_append_of_head (by decide)
    | _ => exact uncancelled_of_head (by decide)

theorem reason_uncancelled (label : String) (cause : BlockedCause) :
    Uncancelled (cause.reason label) := by
  cases cause with
  | repeatedToolLoop byImplementer details =>
    cases byImplementer <;> exact uncancelled_append_of_head (by decide)
  | stageNotCapable noProfile => cases noProfile <;> exact uncancelled_append_of_head (by decide)
  | operatorInput auth => cases auth <;> exact uncancelled_append (by decide) (by decide)
  | nonRetryable category => exact safeReason_uncancelled category
  | external category => exact userSafeExternalReason_uncancelled category
  | runtimeCapability => exact userSafeExternalReason_uncancelled none
  | _ => exact uncancelled_append_of_head (by decide)
section Recovery

variable (error : StageError)

theorem failClosedRuntimeRecoveryNoDelta_calls (reason : String) (manualReviewRequired : Bool) :
    Coordinates (failClosedRuntimeRecoveryNoDelta stage task reason manualReviewRequired) := by
  refine .bind (blockTask_calls task _ _ (uncancelled_append_of_head (by decide))) fun _ => ?_
  exact .bind appendTaskActivityLog_calls fun _ => .pure true

theorem retryImmediately_calls (unblocked : RunsUnblocked stage) (reason : String) :
    Coordinates (retryImmediately stage task reason) :=
  logged_calls (updateTaskStatus_calls unblocked.inProgress) (.pure true)

theorem handleRepositoryInspectionBudgetExhaustion_calls :
    Coordinates (handleRepositoryInspectionBudgetExhaustion env stage error) := by
  refine .ite (fun _ => .pure false) fun _ => .bind findTaskById_calls fun latestTask => ?_
  refine .ite (fun _ => failClosedRuntimeRecoveryNoDelta_calls latestTask _ _) fun _ => ?_
  refine .bind (terminalizeRoadmapSourceReportAsInconclusive_calls _ _ _ _ _ _ _) fun handled =>
    .ite (fun _ => .pure true) fun _ => ?_
  exact .bind (blockTask_calls latestTask _ _ (uncancelled_append_of_head (by decide)))
    fun _ => .pure true

theorem blockForContextLength_calls (advice : String) :
    Coordinates (blockForContextLength stage error task advice) :=
  .bind (blockTask_calls task _ _ (uncancelled_append (by decide) (by decide))) fun _ => .pure true

theorem handleContextLengthRecovery_calls (unblocked : RunsUnblocked stage) :
    Coordinates (handleContextLengthRecovery env stage error) := by
  refine .ite (fun _ => .pure false) fun _ => .ite (fun _ => .pure false) fun _ =>
    .bind findTaskById_calls fun latestTask => ?_
  refine .ite (fun _ => blockForContextLength_calls latestTask error _) fun _ => ?_
  cases error.fallback with
  | none => exact blockForContextLength_calls latestTask error _
  | some fallback =>
    exact .ite (fun _ => failClosedRuntimeRecoveryNoDelta_calls latestTask _ _) fun _ =>
      retryImmediately_calls latestTask unblocked _

theorem handleTransientRuntimeFallbackRecovery_calls (unblocked : RunsUnblocked stage) :
    Coordinates (handleTransientRuntimeFallbackRecovery env stage error) := by
  refine .ite (fun _ => .pure false) fun _ => .ite (fun _ => .pure false) fun _ =>
    .ite (fun _ => .pure false) fun _ => .bind findTaskById_calls fun latestTask => ?_
  cases error.fallback with
  | none => exact .pure false
  | some fallback =>
    exact .ite (fun _ => failClosedRuntimeRecoveryNoDelta_calls latestTask _ _) fun _ =>
      retryImmediately_calls latestTask unblocked _

theorem retryAuditReport_calls (unblocked : RunsUnblocked stage) (kind : RecoveryKind)
    (family reason : String) :
    Coordinates (retryAuditReport env stage error kind family reason) := by
  refine .ite (fun _ => .pure false) fun _ => .bind findTaskById_calls fun latestTask => ?_
  exact .ite (fun _ => .pure false) fun _ =>
    .ite (fun _ => failClosedRuntimeRecoveryNoDelta_calls latestTask _ _) fun _ =>
      retryImmediately_calls latestTask unblocked _

theorem handleAuditReportTimeoutRecovery_calls (unblocked : RunsUnblocked stage) :
    Coordinates (handleAuditReportTimeoutRecovery env stage error) :=
  .ite (fun _ => .pure false) fun _ => .ite (fun _ => .pure false) fun _ =>
    .ite (fun _ => .pure false) fun _ => retryAuditReport_calls env error unblocked _ _ _

theorem handleAuditReportTransientRecovery_calls (unblocked : RunsUnblocked stage) :
    Coordinates (handleAuditReportTransientRecovery env stage error) :=
  .ite (fun _ => .pure false) fun _ => .ite (fun _ => .pure false) fun _ =>
    retryAuditReport_calls env error unblocked _ _ _

theorem recoverWrittenAuditArtifactAfterRuntimeFailure_calls :
    Coordinates (recoverWrittenAuditArtifactAfterRuntimeFailure env stage error) := by
  refine .ite (fun _ => .pure false) fun _ => .ite (fun _ => .pure false) fun _ =>
    .ite (fun _ => .pure false) fun _ => .bind findTaskById_calls fun latestTask => ?_
  refine .ite (fun _ => .pure false) fun _ =>
    .ite (fun _ => failClosedRuntimeRecoveryNoDelta_calls latestTask _ _) fun _ => ?_
  refine .bind (blockTaskForCompletionEvidenceIfNeeded_calls _ _ _ _) fun blocked =>
    .ite (fun _ => ?_) fun _ => .pure false
  exact .bind appendTaskActivityLog_calls fun _ => .pure true

theorem exhaustedReason_uncancelled (category status suffix : String) :
    Uncancelled (implementationRuntimeExhaustedReason category status ++ suffix) := by
  unfold implementationRuntimeExhaustedReason
  rw [String.append_assoc]
  exact uncancelled_append_of_head (by decide)

theorem blockExhaustedImplementation_calls (category status : String) :
    Coordinates (blockExhaustedImplementation stage error category status) := by
  refine .bind findTaskById_calls fun latestTask => ?_
  refine .bind (clearContextFallbackForTask_calls _) fun _ => ?_
  refine logged_calls (block_calls rfl (exhaustedReason_uncancelled _ _ _)) ?_
  exact .bind appendTaskActivityLog_calls fun _ => .pure true

theorem handleImplementationRuntimeExhaustion_calls :
    Coordinates (handleImplementationRuntimeExhaustion stage error) := by
  unfold handleImplementationRuntimeExhaustion
  rcases error.implementationRuntimeExhaustion with _ | ⟨category, status⟩
  · exact .pure false
  · exact .ite (fun _ => blockExhaustedImplementation_calls error category status) fun _ =>
      .pure false

theorem holdSynthesisAfterError_calls : Coordinates (holdSynthesisAfterError env stage error) := by
  unfold holdSynthesisAfterError
  cases error.synthesisNotReady with
  | none => exact .pure false
  | some detail =>
    exact .ite (fun _ => .bind findTaskById_calls fun _ => holdSynthesisTask_calls _ _ _) fun _ =>
      .pure false

theorem applyErrorRecovery_calls (unblocked : RunsUnblocked stage) :
    Coordinates (applyErrorRecovery task stage error) := by
  unfold applyErrorRecovery
  cases error.recovery with
  | fastRetry => exact updateTaskStatus_calls unblocked.inProgress
  | blockedExternal cause retryAfter =>
    exact .bind (block_calls rfl (reason_uncancelled _ cause)) fun _ =>
      flushActivityQueue_calls _
  | revert => exact updateTaskStatus_calls unblocked.inProgress

theorem recoverRuntime_calls (unblocked : RunsUnblocked stage) :
    Coordinates (recoverRuntime env task stage error) := by
  refine .bind (holdSynthesisAfterError_calls env error) fun _ => .ite (fun _ => .pure ()) fun _ => ?_
  refine .bind (handleImplementationRuntimeExhaustion_calls error) fun _ =>
    .ite (fun _ => .pure ()) fun _ => ?_
  refine .bind (recoverWrittenAuditArtifactAfterRuntimeFailure_calls env error) fun _ =>
    .ite (fun _ => .pure ()) fun _ => ?_
  refine .bind (handleRepositoryInspectionBudgetExhaustion_calls env error) fun _ =>
    .ite (fun _ => .pure ()) fun _ => ?_
  refine .bind (handleContextLengthRecovery_calls env error unblocked) fun _ =>
    .ite (fun _ => .pure ()) fun _ => ?_
  refine .bind (handleAuditReportTimeoutRecovery_calls env error unblocked) fun _ =>
    .ite (fun _ => .pure ()) fun _ => ?_
  refine .bind (handleTransientRuntimeFallbackRecovery_calls env error unblocked) fun _ =>
    .ite (fun _ => .pure ()) fun _ => ?_
  refine .bind (handleAuditReportTransientRecovery_calls env error unblocked) fun _ =>
    .ite (fun _ => .pure ()) fun _ => ?_
  refine .bind (clearContextFallbackForTask_calls _) fun _ => ?_
  exact applyErrorRecovery_calls task error unblocked

theorem recoverSynthesisPlanQualityFailure_calls :
    Coordinates (recoverSynthesisPlanQualityFailure env) := by
  refine .ite (fun _ => .pure false) fun _ => .ite (fun _ => .pure false) fun _ =>
    .ite (fun _ => .pure false) fun _ => ?_
  cases env.deterministicPlan with
  | none => exact .pure false
  | some plan =>
    refine .bind (And.intro (.inl fun _ => rfl) trivial) fun _ => ?_
    exact logged_calls (updateTaskStatus_calls (by simp)) (.pure true)

theorem formatTaskPlanQualityBlockedReason_eq (failure : PlanQualityFailure) :
    ∃ rest, formatTaskPlanQualityBlockedReason failure = "Plan quality guard (" ++ rest := by
  unfold formatTaskPlanQualityBlockedReason
  rw [String.append_assoc, String.append_assoc]
  exact ⟨_, rfl⟩

theorem planQualityBlockedReason_uncancelled (failure : PlanQualityFailure) :
    Uncancelled (planQualityBlockedReason env failure) := by
  obtain ⟨rest, opens⟩ := formatTaskPlanQualityBlockedReason_eq failure
  rw [planQualityBlockedReason, opens, String.append_assoc]
  exact uncancelled_append_of_head (by decide)

theorem handlePlanQualityFailure_calls (failure : PlanQualityFailure) :
    Coordinates (handlePlanQualityFailure env stage failure) := by
  refine .bind findTaskById_calls fun latestTask => .ite (fun _ => ?_) fun _ => ?_
  · exact logged_calls (updateTaskStatus_calls (by simp)) appendTaskActivityLog_calls
  · refine .bind (recoverSynthesisPlanQualityFailure_calls env) fun recovered =>
      .ite (fun _ => .pure ()) fun _ => .bind appendTaskActivityLog_calls fun _ => ?_
    refine .bind (terminalizeRoadmapSourceReportAsInconclusive_calls _ _ _ _ _ _ _)
      fun terminalized => .ite (fun _ => .pure ()) fun _ => ?_
    exact blockTask_calls latestTask _ _ (planQualityBlockedReason_uncancelled env failure)

theorem recover_calls (unblocked : RunsUnblocked stage) :
    Coordinates (recover env task stage error) := by
  refine .bind findTaskById_calls fun cancelledTask => .ite (fun _ => ?_) fun _ => ?_
  · exact .bind (flushActivityQueue_calls _) fun _ => .pure false
  · cases planQualityError stage error with
    | some failure =>
      refine .bind (handlePlanQualityFailure_calls env failure) fun _ => ?_
      exact .bind (flushActivityQueue_calls _) fun _ => .pure false
    | none =>
      refine .bind (recoverRuntime_calls env task error unblocked) fun _ => ?_
      exact .bind (flushActivityQueue_calls _) fun _ => .pure false

end Recovery

/-! ### What the runner left -/

theorem doneStatus_ne : doneStatus env ≠ .blockedExternal := by
  unfold doneStatus
  split <;> simp

theorem finishSkippedReview_calls : Coordinates (finishSkippedReview env stage task) := by
  refine .bind (blockTaskForCompletionEvidenceIfNeeded_calls _ _ _ _) fun _ =>
    .ite (fun _ => .pure false) fun _ => ?_
  exact .bind (updateTaskStatus_calls (doneStatus_ne env)) fun _ => .pure true

theorem blockTaskForStalledAutoReview_calls (outcome : ReviewGateOutcome) :
    Coordinates (blockTaskForStalledAutoReview env stage task outcome) := by
  refine .bind (terminalizeRoadmapSourceReportAsInconclusive_calls _ _ _ _ _ _ _) fun _ =>
    .ite (fun _ => .pure true) fun _ => ?_
  exact .bind (blockTask_calls task _ _ (uncancelled_append_of_head (by decide))) fun _ =>
    .pure true

theorem handOffManualReview_calls (handoffReason : HandoffReason) (outcome : ReviewGateOutcome) :
    Coordinates (handOffManualReview env stage handoffReason outcome) := by
  refine .bind findTaskById_calls fun latestTask => .ite (fun _ => ?_) fun _ => ?_
  · exact .bind (blockTaskForStalledAutoReview_calls env latestTask outcome) fun _ => .pure false
  · refine .bind (blockTaskForCompletionEvidenceIfNeeded_calls _ _ _ _) fun _ =>
      .ite (fun _ => .pure false) fun _ => ?_
    refine .bind (block_calls rfl ?_) fun _ => .pure false
    exact uncancelled_append_of_head (by decide)

theorem handOffRework_calls (outcome : ReviewGateOutcome) {status : TaskStatus}
    (unblocked : status ≠ .blockedExternal) (reworkRequested : Bool) (again : String) :
    Coordinates (handOffRework task stage outcome status reworkRequested again) := by
  refine .ite (fun _ => ?_) fun _ => ?_
  · refine .bind (blockTaskForSameFailureFingerprint_calls _ _ _ ?_) fun _ => .pure false
    exact joinReasons_uncancelled _ (by decide) (by decide)
  · exact logged_calls (updateTaskStatus_calls unblocked) (.pure true)

theorem handOffAccepted_calls (outcome : ReviewGateOutcome) :
    Coordinates (handOffAccepted env stage outcome) := by
  refine .bind findTaskById_calls fun latestTask => ?_
  refine .bind (blockTaskForCompletionEvidenceIfNeeded_calls _ _ _ _) fun _ =>
    .ite (fun _ => .pure false) fun _ => ?_
  exact .bind (updateTaskStatus_calls (doneStatus_ne env)) fun _ => .pure true

theorem handOffReview_calls (outcome : ReviewGateOutcome) :
    Coordinates (handOffReview env task stage outcome) := by
  unfold handOffReview
  cases outcome.status with
  | manualReviewRequired handoffReason => exact handOffManualReview_calls env handoffReason outcome
  | operatorInputRequired =>
    exact .bind (blockTask_calls task _ _ (uncancelled_append (by decide) (by decide))) fun _ =>
      .pure false
  | reworkRequested => exact handOffRework_calls task outcome (by simp) true _
  | reviewRetryRequested => exact handOffRework_calls task outcome (by simp) false _
  | accepted => exact handOffAccepted_calls env outcome

theorem blockTaskForNoSubstantiveReworkDeltaIfNeeded_calls (latestTask : TaskRow) :
    Coordinates (blockTaskForNoSubstantiveReworkDeltaIfNeeded env task stage latestTask) := by
  refine .ite (fun _ => .pure false) fun _ => ?_
  cases env.reworkDelta latestTask with
  | substantive => exact .pure false
  | sameWorktree digest =>
    exact .bind (blockTask_calls _ _ _ (uncancelled_append_of_head (by decide))) fun _ =>
      .pure true
  | sameArtifact artifactPath sha =>
    refine .bind (terminalizeRoadmapSourceReportAsInconclusive_calls _ _ _ _ _ _ _) fun _ =>
      .ite (fun _ => .pure true) fun _ => ?_
    exact .bind (blockTask_calls _ _ _ (uncancelled_append_of_head (by decide))) fun _ =>
      .pure true

theorem passDoneGates_calls (latestTask : TaskRow) :
    Coordinates (passDoneGates env stage latestTask) := by
  refine .ite (fun _ => .pure _) fun _ => .bind findTaskById_calls fun latestTask => ?_
  refine .ite (fun _ => ?_) fun _ => .ite (fun _ => ?_) fun _ => ?_
  · exact .bind (routeTaskToQaGate_calls latestTask) fun _ => .pure _
  · exact .bind (blockTaskForQaDoneGate_calls latestTask _ _) fun _ => .pure _
  · refine .bind (blockTaskForCompletionEvidenceIfNeeded_calls _ _ _ _) fun _ =>
      .ite (fun _ => .pure _) fun _ => ?_
    cases env.acceptancePackError with
    | none => exact .pure _
    | some reason =>
      exact .ite (fun _ => .bind (blockTaskForQaDoneGate_calls latestTask _ _) fun _ => .pure _)
        fun _ => .pure _

theorem passReviewHandoff_calls (latestTask : TaskRow) :
    Coordinates (passReviewHandoff env stage latestTask) := by
  refine .ite (fun _ => .bind findTaskById_calls fun latestTask => ?_) fun _ => .pure _
  exact .bind (blockTaskForCompletionEvidenceIfNeeded_calls _ _ _ _) fun _ =>
    .ite (fun _ => .pure _) fun _ => .pure _

theorem finishStage_calls (unblocked : RunsUnblocked stage) (latestTask : TaskRow) :
    Coordinates (finishStage env task stage latestTask) := by
  refine .bind (blockTaskForNoSubstantiveReworkDeltaIfNeeded_calls env task latestTask) fun _ =>
    .ite (fun _ => .pure false) fun _ => ?_
  refine .bind (passDoneGates_calls env latestTask) fun passed => ?_
  rcases passed with ended | latestTask
  · exact .pure ended
  refine .bind (passReviewHandoff_calls env latestTask) fun passed => ?_
  rcases passed with ended | latestTask
  · exact .pure ended
  exact .bind (updateTaskStatus_calls unblocked.onSuccess) fun _ => .pure true

theorem handOffReviewStage_calls (unblocked : RunsUnblocked stage) (latestTask : TaskRow) :
    Coordinates (handOffReviewStage env task stage latestTask) := by
  refine .bind findTaskById_calls fun seen => ?_
  rcases env.reviewGate seen with error | _ | outcome
  · exact recover_calls env task error unblocked
  · exact finishStage_calls env task unblocked latestTask
  · exact handOffReview_calls env task outcome

theorem handOff_calls (unblocked : RunsUnblocked stage) :
    Coordinates (handOff env task stage) := by
  refine .bind (clearContextFallbackForTask_calls _) fun _ => ?_
  refine .bind (flushActivityQueue_calls _) fun _ => .bind findTaskById_calls fun latestTask => ?_
  refine .ite (fun _ => .pure _) fun _ => .ite (fun _ => .pure _) fun _ =>
    .ite (fun _ => .pure _) fun _ => .ite (fun _ => .pure _) fun _ =>
    .ite (fun _ => .pure _) fun _ => .ite (fun _ => ?_) fun _ => ?_
  · exact .bind appendTaskActivityLog_calls fun _ => .pure _
  · exact .ite (fun _ => finishSkippedReview_calls env latestTask) fun _ =>
      .ite (fun _ => handOffReviewStage_calls env task unblocked latestTask) fun _ =>
        finishStage_calls env task unblocked latestTask

/-! ### The run -/

theorem skipRedundantRework_calls : Coordinates (skipRedundantRework env task) := by
  refine .ite (fun _ => ?_) fun _ => .pure false
  exact logged_calls (updateTaskStatus_calls (by simp)) (.pure true)

theorem implementerGuards_calls : Coordinates (implementerGuards env task stage) := by
  refine .ite (fun _ => .pure _) fun _ => ?_
  refine .bind (holdSynthesisIfNotReady_calls _ task) fun _ => .ite (fun _ => .pure _) fun _ => ?_
  refine .bind (skipRedundantRework_calls env task) fun _ => .ite (fun _ => .pure _) fun _ => ?_
  exact .bind (blockTaskForCompletionEvidenceIfNeeded_calls _ _ _ _) fun _ =>
    .ite (fun _ => .pure _) fun _ => .pure _

theorem prePlanningStage_ne {targetStatus : TaskStatus}
    (target : prePlanningStage env stage = some targetStatus) :
    targetStatus ≠ .blockedExternal := by
  unfold prePlanningStage at target
  split at target
  · cases target
  split at target
  · cases target
    simp
  split at target
  · obtain ⟨issue, -, rfl⟩ := Option.map_eq_some_iff.mp target
    split <;> simp
  · cases target

theorem processOneTask_calls {P : StageCall → Prop} (coordinator : ∀ c, CoordinatorCall c → P c)
    {runner : StageRunner} (runs : runner.program.Calls P)
    (inside : stage ∈ activePipeline env.toCoordinatorEnv) :
    (processOneTask env task stage runner).Calls P := by
  have unblocked := runsUnblocked_of_mem inside
  refine .ite (fun _ => .pure _) fun _ => .ite (fun _ => .pure _) fun _ => ?_
  cases target : prePlanningStage env stage with
  | some targetStatus =>
    refine .mono coordinator (.bind ?_ fun _ => .pure _)
    exact returnTaskToPrePlanningStage_calls task (prePlanningStage_ne env target)
  | none =>
    refine .bind (.mono coordinator (implementerGuards_calls env task)) fun guarded => ?_
    rcases guarded with _ | ended
    · refine .bind (.mono coordinator (updateTaskStatus_calls unblocked.inProgress)) fun _ =>
        .bind runs fun thrown => .mono coordinator ?_
      rcases thrown with _ | error
      · exact handOff_calls env task unblocked
      · exact recover_calls env task error unblocked
    · exact .pure ended

end AifHandoff.Agent.Stage
