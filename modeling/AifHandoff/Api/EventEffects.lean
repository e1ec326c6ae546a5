import AifHandoff.Api.TaskEvents

/-!
What a human event can do to the block of a task.

`BlockView` is the part of a row that decides whether and how a task is blocked.
`EventEffect` lists, with their guards, all the ways `handleTaskEvent` can leave
it, and `handleTaskEvent_effect` is the inversion lemma: later results split on
its cases and never unfold a handler.
-/

namespace AifHandoff.Api

open AifHandoff.Text AifHandoff.Data AifHandoff.StateMachine

/-- The columns that make up a block, with the role that no event changes. -/
structure BlockView where
  hierarchyRole : TaskHierarchyRole
  status : TaskStatus
  blockedReason : Option String
  blockedFromStatus : Option TaskStatus
  manualReviewRequired : Bool
deriving DecidableEq, Repr

def blockView (row : TaskRow) : BlockView :=
  ⟨row.hierarchyRole, row.status, row.blockedReason, row.blockedFromStatus,
    row.manualReviewRequired⟩

/-- The configuration guard is reached and finds blockers. -/
def configGovernanceBlocks (env : EventEnv) (task : TaskRow) (event : TaskEvent) : Bool :=
  (refusesRuntimeStart env task event).isNone && !(configGovernanceBlockers env event).isEmpty

/-- The sequential branch guard is asked and blocks. -/
def branchDependencyBlocks (env : EventEnv) (task : TaskRow) : Bool :=
  (checkSequentialBranchDependencyBeforeRuntimeStart env task).isSome

/-- The event reaches the sequential branch guard, which blocks. -/
def sequentialBranchBlocks (env : EventEnv) (input : EventHandlerInput) (task : TaskRow) : Bool :=
  input.event ∈ runtimeStartingEvents && (refusesRuntimeStart env task input.event).isNone &&
    (configGovernanceBlockers env input.event).isEmpty &&
    (!(retryKinds task input.event).operatorInput || hasFreshOperatorInputAnswer env task) &&
    (applyHumanTaskEvent task input.event (transitionOptions env task input.event)).isOk &&
    branchDependencyBlocks env task

/-- `accept_existing_plan` reaches the plan quality guard, which fails. -/
def planQualityBlocks (env : EventEnv) (input : EventHandlerInput) (task : TaskRow) : Bool :=
  input.event = .acceptExistingPlan && (refusesRuntimeStart env task input.event).isNone &&
    (configGovernanceBlockers env input.event).isEmpty &&
    task.status = .backlog && env.projectFound && !branchDependencyBlocks env task &&
    (bindPlanBranch env task).isOk && env.planFile.any (fun plan => !(trim plan).isEmpty) &&
    env.planQuality.isSome

theorem status_of_planQualityBlocks {env : EventEnv} {input : EventHandlerInput} {task : TaskRow}
    (blocks : planQualityBlocks env input task = true) : task.status = .backlog := by
  simp only [planQualityBlocks, Bool.and_eq_true, decide_eq_true_eq] at blocks
  exact blocks.1.1.1.1.1.2

/-- The reasons the evidence guard writes. -/
def IsEvidenceReason (reason : String) : Prop :=
  (∃ rest, reason = "Completion evidence guard (" ++ rest) ∨
    ∃ (family : AuditFailureFamily) (rest : String), reason = family.text ++ rest

/-- The ways a human event can leave the block of a task. -/
inductive EventEffect (env : EventEnv) (input : EventHandlerInput) (task : TaskRow) :
    BlockView → Prop where
  /-- Nothing but, through a batch refresh, the reason is rewritten. -/
  | kept (reason : Option String) :
      (task.status = .blockedExternal → reason = task.blockedReason) →
      EventEffect env input task { blockView task with blockedReason := reason }
  /-- A blocked task is cleared by an accepted retry only. -/
  | cleared (status : TaskStatus) :
      (task.status = .blockedExternal → task.blockedFromStatus = some status ∨
        (task.blockedFromStatus = some .review ∧ status = .implementing)) →
      (task.status = .blockedExternal → refusesManualReviewRetry task
        (transitionOptions env task .retryFromBlocked) = false) →
      (task.status ≠ .blockedExternal → status ≠ .blockedExternal) →
      EventEffect env input task ⟨task.hierarchyRole, status, none, none, false⟩
  | cancelled : input.event = .cancelTask → task.status ≠ .done → task.status ≠ .verified →
      EventEffect env input task ⟨task.hierarchyRole, .blockedExternal,
        some ("operator_cancelled: task cancelled by operator from " ++ task.status.text),
        some task.status, true⟩
  | configBlocked : configGovernanceBlocks env task input.event = true →
      EventEffect env input task ⟨task.hierarchyRole, .blockedExternal,
        some (configGovernanceMessage (configGovernanceBlockers env input.event)),
        some task.status, task.manualReviewRequired⟩
  | branchBlocked (blocker : SequentialBranchDependencyBlocker) :
      sequentialBranchBlocks env input task = true →
      EventEffect env input task
        ⟨task.hierarchyRole, .blockedExternal, some blocker.message, some task.status, true⟩
  | planQualityBlocked (failure : PlanQualityFailure) :
      planQualityBlocks env input task = true →
      EventEffect env input task ⟨task.hierarchyRole, .blockedExternal,
        some (acceptExistingPlanBlockedReason failure), some task.status, true⟩
  | manualException (justification : String) : input.event = .manualException →
      EventEffect env input task ⟨task.hierarchyRole, .blockedExternal,
        some ("manual_exception: " ++ justification),
        some (task.blockedFromStatus.getD task.status), true⟩
  | evidenceBlocked (reason : String) (manual : Bool) :
      IsEvidenceReason reason → task.status = .planReady ∨ task.status = .done →
      EventEffect env input task
        ⟨task.hierarchyRole, .blockedExternal, some reason, some task.status, manual⟩
  | evidenceRework (reason : String) : task.status = .done →
      EventEffect env input task
        ⟨task.hierarchyRole, .implementing, some reason, some .done, false⟩

/-! ### Writing through the normalisation -/

/-- The literal prefixes of the reasons the API writes; none is an operator hold. -/
theorem isOperatorInputRequiredReason_append {p s : String}
    (left : ¬ p.toList <+: "operator_input_required:".toList)
    (right : ¬ "operator_input_required:".toList <+: p.toList) :
    isOperatorInputRequiredReason (some (p ++ s)) = false :=
  not_startsWith_of_startsWith _ (startsWith_append p s) left right

/-- A write whose reason is no operator hold leaves exactly the patched block. -/
theorem blockView_setTaskFields {row : TaskRow} {patch : TaskFieldsPatch}
    (reason : isOperatorInputRequiredReason (patch.blockedReason.getD row.blockedReason) = false) :
    blockView (setTaskFields row patch) =
      ⟨patch.hierarchyRole.getD row.hierarchyRole, patch.status.getD row.status,
        patch.blockedReason.getD row.blockedReason,
        patch.blockedFromStatus.getD row.blockedFromStatus,
        patch.manualReviewRequired.getD row.manualReviewRequired⟩ := by
  rw [setTaskFields_of_reason row patch reason]
  rfl

theorem blockView_appendTaskActivityLog {row : TaskRow} {now : Nat}
    (reason : isOperatorInputRequiredReason row.blockedReason = false) :
    blockView (appendTaskActivityLog row now) = blockView row := by
  rw [appendTaskActivityLog_eq reason]
  rfl

/-- A block written with a reason that is no operator hold, and then logged. -/
theorem blockView_setTaskFields_logged {row : TaskRow} {patch : TaskFieldsPatch} {now : Nat}
    {reason : String} (written : patch.blockedReason = some (some reason))
    (noHold : isOperatorInputRequiredReason (some reason) = false) :
    blockView (appendTaskActivityLog (setTaskFields row patch) now) =
      ⟨patch.hierarchyRole.getD row.hierarchyRole, patch.status.getD row.status, some reason,
        patch.blockedFromStatus.getD row.blockedFromStatus,
        patch.manualReviewRequired.getD row.manualReviewRequired⟩ := by
  rw [setTaskFields_logged written noHold, blockView, TaskRow.set_blockedReason, written]
  rfl

theorem branchMessage_noHold (blocker : SequentialBranchDependencyBlocker) :
    isOperatorInputRequiredReason (some blocker.message) = false := by
  cases blocker <;> exact isOperatorInputRequiredReason_append (by decide) (by decide)

theorem branchMessage_prefix (blocker : SequentialBranchDependencyBlocker) :
    ∃ rest, blocker.message = "sequential_branch_dependency_blocked:" ++ rest := by
  cases blocker <;> exact ⟨_, rfl⟩

theorem evidenceReason_noHold {reason : String} (evidence : IsEvidenceReason reason) :
    isOperatorInputRequiredReason (some reason) = false := by
  rcases evidence with ⟨rest, rfl⟩ | ⟨family, rest, rfl⟩
  · exact isOperatorInputRequiredReason_append (by decide) (by decide)
  · cases family <;> exact isOperatorInputRequiredReason_append (by decide) (by decide)

theorem formatTaskCompletionBlockedReason_evidence (result : CompletionEvidence)
    (suppress : Bool) : IsEvidenceReason (formatTaskCompletionBlockedReason result suppress) := by
  left
  unfold formatTaskCompletionBlockedReason
  simp only [String.append_assoc]
  exact ⟨_, rfl⟩

theorem terminalBlockedReason_evidence (env : EventEnv) (task : TaskRow)
    (options : CompletionBlockOptions) :
    IsEvidenceReason (terminalBlockedReason env task options) := by
  unfold terminalBlockedReason
  simp only []
  split
  · exact formatTaskCompletionBlockedReason_evidence _ _
  · right
    rw [String.append_assoc]
    exact ⟨_, _, rfl⟩

/-! ### One handler at a time -/

section Handlers

variable {env : EventEnv} {input : EventHandlerInput} {task : TaskRow}

theorem EventEffect.same : EventEffect env input task (blockView task) :=
  .kept task.blockedReason fun _ => rfl

@[simp] theorem touchArtifact_status : (touchArtifact env task).status = task.status := by
  unfold touchArtifact; split <;> simp

@[simp] theorem touchArtifact_hierarchyRole :
    (touchArtifact env task).hierarchyRole = task.hierarchyRole := by
  unfold touchArtifact; split <;> simp

@[simp] theorem touchArtifact_blockedFromStatus :
    (touchArtifact env task).blockedFromStatus = task.blockedFromStatus := by
  unfold touchArtifact; split <;> simp

@[simp] theorem touchArtifact_manualReviewRequired :
    (touchArtifact env task).manualReviewRequired = task.manualReviewRequired := by
  unfold touchArtifact refreshSynthesisTaskRow
  split
  · split <;> rfl
  · rfl

theorem blockView_touchArtifact :
    blockView (touchArtifact env task) =
      { blockView task with blockedReason := (touchArtifact env task).blockedReason } := by
  simp [blockView]

theorem checkConfigGovernanceBlocker_eq_none :
    checkConfigGovernanceBlocker env task input.event = none ↔
      (configGovernanceBlockers env input.event).isEmpty = true := by
  unfold checkConfigGovernanceBlocker
  simp only []
  split <;> simp_all

theorem checkConfigGovernanceBlocker_effect {result : EventHandlerResult} {row : TaskRow}
    (passes : refusesRuntimeStart env task input.event = none)
    (found : checkConfigGovernanceBlocker env task input.event = some (result, row)) :
    EventEffect env input task (blockView row) := by
  unfold checkConfigGovernanceBlocker at found
  simp only [] at found
  split at found
  · cases found
  · rename_i blocks
    cases found
    rw [blockView_setTaskFields_logged rfl
      (isOperatorInputRequiredReason_append (by decide) (by decide))]
    exact .configBlocked (by simpa [configGovernanceBlocks, passes] using blocks)

/-- The event passed the guards that precede its handler, and the table. -/
structure Passed (env : EventEnv) (input : EventHandlerInput) (task : TaskRow) : Prop where
  starts : refusesRuntimeStart env task input.event = none
  config : (configGovernanceBlockers env input.event).isEmpty = true
  answered : (!(retryKinds task input.event).operatorInput ||
    hasFreshOperatorInputAnswer env task) = true
  accepted : ∃ patch, applyHumanTaskEvent task input.event
    (transitionOptions env task input.event) = .ok patch

theorem checkSequentialBranchDependency_effect {result : EventHandlerResult} {row : TaskRow}
    (found : checkSequentialBranchDependencyBeforeRuntimeStart env task = some (result, row))
    (passed : Passed env input task) (starts : input.event ∈ runtimeStartingEvents) :
    EventEffect env input task (blockView row) := by
  obtain ⟨patch, accepted⟩ := passed.accepted
  have blocks : sequentialBranchBlocks env input task = true := by
    simp [sequentialBranchBlocks, branchDependencyBlocks, found, starts, passed.starts,
      passed.config, accepted, Except.isOk, Except.toBool]
    simpa using passed.answered
  unfold checkSequentialBranchDependencyBeforeRuntimeStart at found
  split at found
  · cases found
  · obtain ⟨blocker, -, written⟩ := Option.map_eq_some_iff.mp found
    cases written
    rw [blockView_setTaskFields_logged rfl (branchMessage_noHold blocker)]
    exact .branchBlocked blocker blocks

theorem handleManualException_effect (event : input.event = .manualException) :
    EventEffect env input task (blockView (handleManualException env input task).2) := by
  unfold handleManualException
  simp only []
  split_ifs
  · exact .same
  · exact .same
  · exact .same
  · rw [blockView_setTaskFields_logged rfl
      (isOperatorInputRequiredReason_append (by decide) (by decide))]
    simp only [Option.getD_none, touchArtifact_hierarchyRole]
    exact .manualException _ event

theorem blockTaskForCompletionEvidence_effect {options : CompletionBlockOptions}
    (caller : (task.status = .planReady ∧ options = { blockedFromStatus := some .planReady }) ∨
      (task.status = .done ∧ options = { allowAuditRework := true })) :
    EventEffect env input task (blockView (blockTaskForCompletionEvidence env task options).2) := by
  unfold blockTaskForCompletionEvidence
  simp only []
  have role : (if env.auditArtifact.isSome = true then touchArtifact env task
      else task).hierarchyRole = task.hierarchyRole := by
    split <;> simp
  split
  · rename_i returns
    have evidence : IsEvidenceReason (env.completionEvidence.failureFamily.text ++ ": " ++
        reworkBlockedReason env (formatTaskCompletionBlockedReason env.completionEvidence true)) :=
      .inr ⟨_, _, String.append_assoc ..⟩
    rw [blockView_setTaskFields_logged rfl (evidenceReason_noHold evidence)]
    rcases caller with ⟨-, rfl⟩ | ⟨done, rfl⟩
    · simp [shouldReturnToRework] at returns
    · simp only [Option.getD_none, role]
      exact .evidenceRework _ done
  · have evidence := terminalBlockedReason_evidence env task options
    rw [blockView_setTaskFields_logged rfl (evidenceReason_noHold evidence)]
    have resume : options.blockedFromStatus.getD .done = task.status := by
      rcases caller with ⟨planReady, rfl⟩ | ⟨done, rfl⟩
      · exact planReady.symm
      · exact done.symm
    simp only [Option.getD_none, role, resume]
    exact .evidenceBlocked _ _ evidence (caller.imp And.left And.left)

theorem blockView_fastFixWrite {plan : String} {now : Nat} (planReady : task.status = .planReady) :
    blockView (setTaskFields (task.set { plan := some (some plan), updatedAt := some now })
      { reworkRequested := some false, updatedAt := some now }) = blockView task := by
  simp [setTaskFields, normalizeOperatorInputHoldPatch, blockView, planReady]

theorem handleFastFix_effect :
    EventEffect env input task (blockView (handleFastFix env task).2) := by
  unfold handleFastFix
  by_cases planReady : task.status = .planReady
  · rw [if_neg (not_not_intro planReady)]
    split
    · exact .same
    split
    · exact .same
    split
    · exact .same
    split
    · exact .same
    split
    · exact .same
    split
    · exact .same
    split
    · exact .same
    simp only [blockView_fastFixWrite planReady]
    exact .same
  · rw [if_pos planReady]
    exact .same

theorem acceptExistingPlanBlockedReason_noHold (failure : PlanQualityFailure) :
    isOperatorInputRequiredReason (some (acceptExistingPlanBlockedReason failure)) = false := by
  unfold acceptExistingPlanBlockedReason formatTaskPlanQualityBlockedReason
  simp only [String.append_assoc]
  exact isOperatorInputRequiredReason_append (by decide) (by decide)

theorem retryKinds_of_ne (task : TaskRow) {event : TaskEvent} (notRetry : event ≠ .retryFromBlocked) :
    retryKinds task event = ⟨false, false, false, false, false, false⟩ := by
  simp [retryKinds, notRetry]

theorem handleAcceptExistingPlan_effect (event : input.event = .acceptExistingPlan)
    (starts : refusesRuntimeStart env task input.event = none)
    (config : (configGovernanceBlockers env input.event).isEmpty = true) :
    EventEffect env input task (blockView (handleAcceptExistingPlan env task).2) := by
  unfold handleAcceptExistingPlan
  by_cases backlog : task.status = .backlog
  · rw [if_neg (not_not_intro backlog)]
    split
    · exact .same
    rename_i project
    split
    · rename_i blocked found
      have answered : (retryKinds task input.event).operatorInput = false := by
        rw [retryKinds_of_ne task (by rw [event]; decide)]
      have accepted : ∃ patch, applyHumanTaskEvent task input.event
          (transitionOptions env task input.event) = .ok patch := by
        simp [event, applyHumanTaskEvent, backlog]
      exact checkSequentialBranchDependency_effect found
        ⟨starts, config, by simp [answered], accepted⟩ (by simp [event, runtimeStartingEvents])
    rename_i unblocked
    split
    · exact .same
    rename_i boundBranchName bound
    split
    · exact .same
    rename_i filePlan onDisk
    split
    · exact .same
    rename_i nonempty
    split
    · rename_i failure bad
      rw [blockView_setTaskFields_logged rfl (acceptExistingPlanBlockedReason_noHold failure)]
      refine .planQualityBlocked failure ?_
      simp_all [planQualityBlocks, branchDependencyBlocks, Except.isOk, Except.toBool]
    · rw [blockView_setTaskFields rfl]
      exact .cleared .planReady (by simp [backlog]) (by simp [backlog]) (by simp)
  · rw [if_pos backlog]
    exact .same

/-! ### The regular transition -/

theorem accepted_hierarchyRole {options : TaskTransitionOptions} {patch : TaskFieldsPatch}
    (accepted : applyHumanTaskEvent task input.event options = .ok patch) :
    patch.hierarchyRole = none := by
  cases event : input.event <;> rw [event] at accepted <;>
    simp only [applyHumanTaskEvent] at accepted
  all_goals
    repeat' split at accepted
    all_goals cases accepted
    all_goals rfl

theorem regularTransitionPatch_block (task : TaskRow) (kinds : RetryKinds) (patch : TaskFieldsPatch) (now : Nat) :
    (regularTransitionPatch task kinds patch now).hierarchyRole = patch.hierarchyRole ∧
      (regularTransitionPatch task kinds patch now).blockedReason = patch.blockedReason ∧
      (regularTransitionPatch task kinds patch now).blockedFromStatus = patch.blockedFromStatus ∧
      (regularTransitionPatch task kinds patch now).manualReviewRequired =
        patch.manualReviewRequired ∧
      (regularTransitionPatch task kinds patch now).status =
        if kinds.malformedReviewProductRework then some .implementing else patch.status := by
  unfold regularTransitionPatch
  simp only []
  split_ifs <;> exact ⟨rfl, rfl, rfl, rfl, rfl⟩

theorem checkRegularGuards_ok {stored : TaskRow}
    (passed : checkRegularGuards env input task = .ok stored) :
    stored = task ∨ (stored = touchArtifact env task ∧ input.event = .approveDone) := by
  unfold checkRegularGuards at passed
  split at passed
  · cases passed
  split at passed
  · split at passed <;> cases passed
    exact .inl rfl
  · rename_i event
    unfold checkApproveDone at passed
    split_ifs at passed <;> cases passed
    · exact .inl rfl
    · exact .inr ⟨rfl, event⟩
    · exact .inl rfl
  · cases passed
    exact .inl rfl

theorem checkRegularGuards_effect {result : EventHandlerResult} {row : TaskRow}
    (passed : Passed env input task)
    (blocked : checkRegularGuards env input task = .error (result, row)) :
    EventEffect env input task (blockView row) := by
  unfold checkRegularGuards at blocked
  split at blocked
  · rename_i answer found
    cases blocked
    split at found
    · rename_i starts
      exact checkSequentialBranchDependency_effect found passed starts
    · cases found
  split at blocked
  · rename_i event
    obtain ⟨patch, accepted⟩ := passed.accepted
    have planReady : task.status = .planReady := by
      rw [event] at accepted
      by_contra other
      simp [applyHumanTaskEvent, other] at accepted
    split at blocked
    · rename_i answer found
      cases blocked
      unfold checkStartImplementation at found
      split_ifs at found with missing guard
      · cases found; exact .same
      · have written := congrArg Prod.snd (Option.some.inj found)
        rw [← show _ = row from written, planReady]
        exact blockTaskForCompletionEvidence_effect (.inl ⟨planReady, rfl⟩)
    · cases blocked
  · rename_i event
    obtain ⟨patch, accepted⟩ := passed.accepted
    have done : task.status = .done := by
      rw [event] at accepted
      by_contra other
      simp [applyHumanTaskEvent, other] at accepted
    unfold checkApproveDone at blocked
    split_ifs at blocked with missing fresh closeout guard
    · cases blocked; exact .same
    · cases blocked; exact .same
    · have written := congrArg Prod.snd (Except.error.inj blocked)
      rw [← show _ = row from written]
      exact blockTaskForCompletionEvidence_effect (.inr ⟨done, rfl⟩)
  · cases blocked

theorem blockView_logged {row : TaskRow} {now : Nat} (logs : Bool)
    (noHold : isOperatorInputRequiredReason (blockView row).blockedReason = false) :
    blockView (if logs then appendTaskActivityLog row now else row) = blockView row := by
  cases logs
  · rfl
  · exact blockView_appendTaskActivityLog noHold

/-- The block a cancellation leaves. -/
def cancelView (task : TaskRow) : BlockView :=
  ⟨task.hierarchyRole, .blockedExternal,
    some ("operator_cancelled: task cancelled by operator from " ++ task.status.text),
    some task.status, true⟩

theorem cancelReason_noHold (task : TaskRow) :
    isOperatorInputRequiredReason (cancelView task).blockedReason = false :=
  isOperatorInputRequiredReason_append (by decide) (by decide)

theorem cancelWrite_view {stored : TaskRow} (sameRole : stored.hierarchyRole = task.hierarchyRole)
    (cancel : input.event = .cancelTask) (now : Nat) (logs : Bool) :
    let row := setTaskFields stored
      (regularTransitionPatch task (retryKinds task input.event) (cancelPatch task) now)
    blockView (if logs then appendTaskActivityLog row now else row) = cancelView task := by
  intro row
  obtain ⟨role, reason, from?, manual, status⟩ := regularTransitionPatch_block task
    (retryKinds task input.event) (cancelPatch task) now
  have view : blockView row = cancelView task := by
    rw [blockView_setTaskFields (by rw [reason]; exact cancelReason_noHold task), role, reason,
      from?, manual, status, retryKinds_of_ne task (by rw [cancel]; decide), cancelView, ← sameRole]
    rfl
  rw [blockView_logged logs (by rw [view]; exact cancelReason_noHold task), view]

theorem clearWrite_view {stored : TaskRow} {patch : TaskFieldsPatch} {next : TaskStatus}
    (sameRole : stored.hierarchyRole = task.hierarchyRole)
    (accepted : applyHumanTaskEvent task input.event
      (transitionOptions env task input.event) = .ok patch)
    (notCancel : input.event ≠ .cancelTask) (toNext : patch.status = some next) (now : Nat)
    (logs : Bool) :
    let kinds := retryKinds task input.event
    let row := setTaskFields stored (regularTransitionPatch task kinds patch now)
    blockView (if logs then appendTaskActivityLog row now else row) =
      ⟨task.hierarchyRole, if kinds.malformedReviewProductRework then .implementing else next,
        none, none, false⟩ := by
  intro kinds row
  obtain ⟨role, reason, from?, manual, status⟩ := regularTransitionPatch_block task
    kinds patch now
  obtain ⟨clearReason, clearFrom, clearManual, -, -⟩ := accepted_clears accepted notCancel
  have view : blockView row = ⟨task.hierarchyRole,
      if kinds.malformedReviewProductRework then .implementing else next, none, none, false⟩ := by
    rw [blockView_setTaskFields (by rw [reason, clearReason]; rfl), role, reason, from?, manual,
      status, clearReason, clearFrom, clearManual, toNext, accepted_hierarchyRole accepted,
      ← sameRole]
    split <;> rfl
  rw [blockView_logged logs (by rw [view]; rfl), view]

theorem accepted_cancel {options : TaskTransitionOptions} {patch : TaskFieldsPatch}
    (accepted : applyHumanTaskEvent task .cancelTask options = .ok patch) :
    task.status ≠ .done ∧ task.status ≠ .verified ∧ patch = cancelPatch task := by
  simp only [applyHumanTaskEvent] at accepted
  split at accepted
  · cases accepted
  · rename_i terminal
    obtain ⟨notDone, notVerified⟩ := not_or.mp terminal
    exact ⟨notDone, notVerified, (Except.ok.inj accepted).symm⟩

/-- The final write of an accepted event. -/
theorem regularWrite_effect {stored : TaskRow} {patch : TaskFieldsPatch}
    (sameRole : stored.hierarchyRole = task.hierarchyRole)
    (accepted : applyHumanTaskEvent task input.event
      (transitionOptions env task input.event) = .ok patch) (logs : Bool) :
    let row := setTaskFields stored
      (regularTransitionPatch task (retryKinds task input.event) patch env.now)
    EventEffect env input task
      (blockView (if logs then appendTaskActivityLog row env.now else row)) := by
  intro row
  by_cases cancel : input.event = .cancelTask
  · obtain ⟨notDone, notVerified, rfl⟩ := accepted_cancel (cancel ▸ accepted)
    rw [cancelWrite_view sameRole cancel]
    exact .cancelled cancel notDone notVerified
  · obtain ⟨-, -, -, -, next, toNext, retry | ⟨notBlocked, open_⟩⟩ := accepted_clears accepted cancel
    · rw [clearWrite_view sameRole accepted cancel toNext]
      rw [retry] at accepted ⊢
      obtain ⟨resume, blocked, from?, allowed, rfl⟩ := retry_accepted_iff.mp accepted
      cases toNext
      refine .cleared _ (fun _ => ?_) (fun _ => allowed) (absurd blocked)
      split
      · rename_i product
        right
        refine ⟨?_, rfl⟩
        simp only [retryKinds, Bool.and_eq_true, decide_eq_true_eq] at product
        exact product.1.1.2
      · exact .inl from?
    · rw [clearWrite_view sameRole accepted cancel toNext]
      refine .cleared _ (absurd · notBlocked) (absurd · notBlocked) fun _ => ?_
      split
      · simp
      · exact open_

theorem handleRegularTransition_effect
    (starts : refusesRuntimeStart env task input.event = none)
    (config : (configGovernanceBlockers env input.event).isEmpty = true) :
    EventEffect env input task (blockView (handleRegularTransition env input task).2) := by
  unfold handleRegularTransition
  simp only []
  split
  · exact .same
  split
  · exact .same
  rename_i unanswered
  split
  · exact .same
  rename_i patch accepted
  split
  · rename_i blocked found
    have answered : (!(retryKinds task input.event).operatorInput ||
        hasFreshOperatorInputAnswer env task) = true := by
      cases hold : (retryKinds task input.event).operatorInput <;> simp_all
    exact checkRegularGuards_effect ⟨starts, config, answered, _, accepted⟩ found
  rename_i stored passed
  have sameRole : stored.hierarchyRole = task.hierarchyRole := by
    rcases checkRegularGuards_ok passed with rfl | ⟨rfl, -⟩
    · rfl
    · exact touchArtifact_hierarchyRole
  split
  · rcases checkRegularGuards_ok passed with rfl | ⟨rfl, event⟩
    · exact .same
    · simp only [blockView_touchArtifact]
      refine .kept _ fun blocked => ?_
      simp [event, applyHumanTaskEvent, blocked] at accepted
  · refine regularWrite_effect ?_ accepted _
    split
    · rw [touchArtifact_hierarchyRole, sameRole]
    · exact sameRole

/-- **Inversion of a human event**: every way it can leave the block of a task. -/
theorem handleTaskEvent_effect (env : EventEnv) (input : EventHandlerInput) (task : TaskRow) :
    EventEffect env input task (blockView (handleTaskEvent env input task).2) := by
  unfold handleTaskEvent
  split
  · rename_i event
    exact handleManualException_effect event
  split
  · exact .same
  rename_i passes
  split
  · rename_i blocked found
    exact checkConfigGovernanceBlocker_effect passes found
  rename_i sound
  have config := checkConfigGovernanceBlocker_eq_none.mp sound
  split
  · exact handleFastFix_effect
  · rename_i event
    exact handleAcceptExistingPlan_effect event passes config
  · exact handleRegularTransition_effect passes config

/-! ### Events on a blocked task -/

/-- The guard against cancelled tasks lets every retry through; its own answer
check decides. -/
theorem handleTaskEvent_retry (retry : input.event = .retryFromBlocked)
    (passed : Passed env input task) :
    (handleTaskEvent env input task).2 = (handleRegularTransition env input task).2 ∧
      ((input.event ≠ .cancelTask && isOperatorCancelledTask task &&
        !(retryKinds task input.event).operatorInput) = false) ∧
      (((retryKinds task input.event).operatorInput &&
        !hasFreshOperatorInputAnswer env task) = false) := by
  refine ⟨?_, ?_, ?_⟩
  · have config : checkConfigGovernanceBlocker env task input.event = none :=
      checkConfigGovernanceBlocker_eq_none.mpr passed.config
    unfold handleTaskEvent
    rw [if_neg (by rw [retry]; decide), passed.starts]
    simp only [config]
    rw [retry]
  · simp only [retry, retryKinds, isOperatorInputHold, isOperatorCancelledTask]
    cases task.blockedReason with
    | none => simp
    | some reason =>
      simp
      intro blocked cancelled
      exact ⟨blocked, fun _ => cancelled⟩
  · have answered := passed.answered
    cases hold : (retryKinds task input.event).operatorInput <;> simp_all

/-- A retry that passes its guards and the branch guard clears the block and goes
to the resume target, or back to implementing. -/
theorem handleTaskEvent_retry_clears (retry : input.event = .retryFromBlocked)
    (passed : Passed env input task) (unblocked : branchDependencyBlocks env task = false) :
    ∃ resume, task.blockedFromStatus = some resume ∧
      blockView (handleTaskEvent env input task).2 = ⟨task.hierarchyRole,
        if (retryKinds task input.event).malformedReviewProductRework then .implementing
        else resume, none, none, false⟩ := by
  obtain ⟨handled, notCancelled, answered⟩ := handleTaskEvent_retry retry passed
  obtain ⟨patch, accepted⟩ := passed.accepted
  obtain ⟨resume, -, from?, -, written⟩ := retry_accepted_iff.mp (retry ▸ accepted)
  have guards : checkRegularGuards env input task = .ok task := by
    have none : checkSequentialBranchDependencyBeforeRuntimeStart env task = none := by
      simpa [branchDependencyBlocks] using unblocked
    simp [checkRegularGuards, retry, runtimeStartingEvents, none]
  have planFile : checkDeletePlanFile env input task = none := by
    simp [checkDeletePlanFile, retry]
  have toNext : patch.status = some resume := by rw [written]
  refine ⟨resume, from?, ?_⟩
  rw [handled]
  unfold handleRegularTransition
  simp only [notCancelled, answered, accepted, guards, planFile, Bool.false_eq_true, ↓reduceIte]
  have notCancel : input.event ≠ .cancelTask := by
    rw [retry]
    decide
  refine clearWrite_view ?_ accepted notCancel toNext env.now _
  simp [retry]

end Handlers

end AifHandoff.Api
