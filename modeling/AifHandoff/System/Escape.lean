import AifHandoff.System.ResumeTarget

/-!
Ways out of a block.

A human event can block a task in four ways: the configuration guard, the branch
guard, the plan quality guard and a cancellation. A block is escapable when some
further events, at which those guards pass, leave `blocked_external`.

The way out is a retry, and `EscapableBlock` lists the blocks it accepts. A run
stays within them as long as it does not block a task that is blocked already, does
not cancel a container, does not let the configuration guard block a task that is
flagged for manual review, and does not fail the plan quality guard.
-/

namespace AifHandoff.System

open AifHandoff.Text AifHandoff.Data AifHandoff.StateMachine AifHandoff.Api
open AifHandoff.Transition

/-- A human event with the answers it meets. -/
abbrev HumanStep := EventEnv × EventHandlerInput

def humanStep (row : TaskRow) (step : HumanStep) : TaskRow :=
  (handleTaskEvent step.1 step.2 row).2

/-- Human events on a task that the pipeline handed over in any status but a block. -/
def humanSystem : System TaskRow HumanStep := .ofFun (·.status ≠ .blockedExternal) humanStep

/-- The configuration, branch and plan quality checks pass; the audit dependency
guard answers `auditReady`. -/
structure ChecksPass (auditReady : Bool) (env : EventEnv) : Prop where
  config : env.configWorkBlockers = some []
  taskConfig : env.taskRuntimeOverrideBlockers = []
  branch : env.branchDependencyBlocker = none
  planQuality : env.planQuality = none
  audit : env.auditDependenciesReleaseReady = auditReady

/-- Some events, at which the checks pass, take the task out of its block. -/
def Escapable (auditReady : Bool) (row : TaskRow) : Prop :=
  ∃ steps : List HumanStep, (∀ step ∈ steps, ChecksPass auditReady step.1) ∧
    (steps.foldl humanStep row).status ≠ .blockedExternal

/-- The reasons of the four guards, by their first words. -/
def eventBlockReasons : List String :=
  ["config_governance_blocked:", "sequential_branch_dependency_blocked:", "operator_cancelled:",
    "Plan quality guard"]

/-- The task is blocked, with the reason of one of the four guards. -/
def blockedByEvent (row : TaskRow) : Bool :=
  row.status = .blockedExternal &&
    row.blockedReason.any fun reason => eventBlockReasons.any (startsWith reason ·)

/-- The blocks a retry takes a task out of. -/
inductive EscapableBlock : BlockView → Prop where
  | cancelled (role : TaskHierarchyRole) (status : TaskStatus) : role ≠ .container →
      status ≠ .blockedExternal →
      EscapableBlock ⟨role, .blockedExternal,
        some ("operator_cancelled: task cancelled by operator from " ++ status.text),
        some status, true⟩
  | config (role : TaskHierarchyRole) (blockers : List ConfigReasonCode) (status : TaskStatus) :
      role ≠ .container → status ≠ .blockedExternal →
      EscapableBlock ⟨role, .blockedExternal, some (configGovernanceMessage blockers),
        some status, false⟩
  | branch (role : TaskHierarchyRole) (blocker : SequentialBranchDependencyBlocker)
      (status : TaskStatus) : role ≠ .container → status ≠ .blockedExternal →
      EscapableBlock ⟨role, .blockedExternal, some blocker.message, some status, true⟩

/-- The cancellation takes effect on a container. -/
def cancelsContainer (input : EventHandlerInput) (task : TaskRow) : Bool :=
  input.event = .cancelTask && task.hierarchyRole = .container &&
    task.status ≠ .done && task.status ≠ .verified

/-- The events that leave a way out. -/
structure LeavesWayOut (row : TaskRow) (step : HumanStep) : Prop where
  notAgain : reblocks step.1 step.2 row = false
  notContainer : cancelsContainer step.2 row = false
  notFlagged : configGovernanceBlocks step.1 row step.2.event = true →
    row.manualReviewRequired = false
  planQuality : planQualityBlocks step.1 step.2 row = false

/-! ### The table accepts a retry -/

section Retry

variable {row : TaskRow}

theorem forall_mem_ofList {P : Char → Prop} {cs : List Char} (all : ∀ c ∈ cs, P c) :
    ∀ c ∈ (String.ofList cs).toList, P c := by
  rwa [String.toList_ofList]

theorem configGovernanceMessage_lacks (blockers : List ConfigReasonCode) {c : Char}
    (letter : c = 'w' ∨ c = 'x') : c ∉ (toLowerCase (configGovernanceMessage blockers)).toList := by
  rw [mem_toLowerCase]
  rintro ⟨d, inMessage, lowers⟩
  unfold configGovernanceMessage at inMessage
  rw [String.toList_append, List.mem_append] at inMessage
  rcases inMessage with inPrefix | inCodes
  · have clear : ∀ d ∈ "config_governance_blocked:".toList,
        'w' ∉ lowerChar d ∧ 'x' ∉ lowerChar d := forall_mem_ofList (by decide)
    rcases letter with rfl | rfl
    · exact (clear d inPrefix).1 lowers
    · exact (clear d inPrefix).2 lowers
  · rcases mem_join inCodes with inSep | ⟨text, among, inText⟩
    · have clear : ∀ d ∈ ",".toList, 'w' ∉ lowerChar d ∧ 'x' ∉ lowerChar d := by decide
      rcases letter with rfl | rfl
      · exact (clear d inSep).1 lowers
      · exact (clear d inSep).2 lowers
    · obtain ⟨code, -, rfl⟩ : ∃ code ∈ blockers.dedup, code.text = text := by
        simpa [configReasonCodes] using among
      have clear : ∀ d ∈ code.text.toList, 'w' ∉ lowerChar d ∧ 'x' ∉ lowerChar d := by
        cases code <;> exact forall_mem_ofList (by decide)
      rcases letter with rfl | rfl
      · exact (clear d inText).1 lowers
      · exact (clear d inText).2 lowers

theorem config_retryable {blockers : List ConfigReasonCode} (options : TaskTransitionOptions)
    (reason : row.blockedReason = some (configGovernanceMessage blockers))
    (unflagged : row.manualReviewRequired = false) :
    refusesManualReviewRetry row options = false := by
  have lowered : loweredReason row = toLowerCase (configGovernanceMessage blockers) := by
    simp [loweredReason, reason]
  have noW (p : String) (inPattern : 'w' ∈ p.toList) : includes (loweredReason row) p = false :=
    not_includes_of_char 'w' inPattern
      (lowered ▸ configGovernanceMessage_lacks blockers (.inl rfl))
  have noX (p : String) (inPattern : 'x' ∈ p.toList) : includes (loweredReason row) p = false :=
    not_includes_of_char 'x' inPattern
      (lowered ▸ configGovernanceMessage_lacks blockers (.inr rfl))
  have noReview : isManualReviewBlockedTask row = false := by
    simp only [isManualReviewBlockedTask, unflagged, noW "manual-review" (by decide),
      noW "manual_review_required" (by decide), noW "manual review required" (by decide),
      noX "manual_exception" (by decide), noX "manual-exception" (by decide), Bool.or_self]
  simp [refusesManualReviewRetry, noReview]

theorem branch_retryable {blocker : SequentialBranchDependencyBlocker}
    (options : TaskTransitionOptions) (reason : row.blockedReason = some blocker.message) :
    refusesManualReviewRetry row options = false := by
  obtain ⟨rest, message⟩ := branchMessage_prefix blocker
  have retryable : isRetryableSequentialBranchDependencyBlock row = true := by
    simp only [isRetryableSequentialBranchDependencyBlock, loweredReason, reason, message,
      Option.map_some, Option.getD_some]
    exact startsWith_toLowerCase (by decide)
  simp [refusesManualReviewRetry, retryable]

theorem cancelReason_append (status : TaskStatus) :
    "operator_cancelled: task cancelled by operator from " ++ status.text =
      "operator_cancelled:" ++ (" task cancelled by operator from " ++ status.text) := by
  rw [← String.append_assoc]
  rfl

theorem cancelled_retryable {status : TaskStatus} {options : TaskTransitionOptions}
    (reason : row.blockedReason =
      some ("operator_cancelled: task cancelled by operator from " ++ status.text))
    (allowed : options.allowOperatorInputRetry = true) :
    refusesManualReviewRetry row options = false := by
  have hold : isRetryableOperatorInputHold row = true := by
    simp only [isRetryableOperatorInputHold, loweredReason, reason, cancelReason_append,
      Option.map_some, Option.getD_some, Bool.or_eq_true]
    exact .inr (startsWith_toLowerCase (by decide))
  simp [refusesManualReviewRetry, allowed, hold]

theorem cancelled_operatorInput {status : TaskStatus} {event : TaskEvent}
    (retry : event = .retryFromBlocked) (blocked : row.status = .blockedExternal)
    (reason : row.blockedReason =
      some ("operator_cancelled: task cancelled by operator from " ++ status.text)) :
    (retryKinds row event).operatorInput = true := by
  have starts : startsWith ("operator_cancelled: task cancelled by operator from " ++ status.text)
      "operator_cancelled:" = true := by
    rw [cancelReason_append]
    exact startsWith_append _ _
  simp [retryKinds, retry, isOperatorInputHold, blocked, reason, starts]

theorem EscapableBlock.retryable (env : EventEnv) (block : EscapableBlock (blockView row)) :
    row.hierarchyRole ≠ .container ∧ row.status = .blockedExternal ∧
      (∃ resume, row.blockedFromStatus = some resume ∧ resume ≠ .blockedExternal) ∧
      refusesManualReviewRetry row (transitionOptions env row .retryFromBlocked) = false := by
  generalize shown : blockView row = view at block
  have role : row.hierarchyRole = view.hierarchyRole := congrArg BlockView.hierarchyRole shown
  have status : row.status = view.status := congrArg BlockView.status shown
  have reason : row.blockedReason = view.blockedReason := congrArg BlockView.blockedReason shown
  have from? : row.blockedFromStatus = view.blockedFromStatus :=
    congrArg BlockView.blockedFromStatus shown
  have flag : row.manualReviewRequired = view.manualReviewRequired :=
    congrArg BlockView.manualReviewRequired shown
  cases block with
  | cancelled _ _ notContainer open_ =>
    refine ⟨role ▸ notContainer, status, ⟨_, from?, open_⟩, cancelled_retryable reason ?_⟩
    exact cancelled_operatorInput rfl status reason
  | config _ _ _ notContainer open_ =>
    exact ⟨role ▸ notContainer, status, ⟨_, from?, open_⟩, config_retryable _ reason flag⟩
  | branch _ _ _ notContainer open_ =>
    exact ⟨role ▸ notContainer, status, ⟨_, from?, open_⟩, branch_retryable _ reason⟩

end Retry

/-! ### One retry is enough -/

/-- The world of a retry: the checks pass and the operator has just answered. -/
def answeredEnv (auditReady : Bool) (row : TaskRow) : EventEnv :=
  { now := row.updatedAt + 1
    auditDependenciesReleaseReady := auditReady
    latestHumanComment := some ⟨"resume", row.updatedAt + 1⟩ }

theorem answeredEnv_checksPass (auditReady : Bool) (row : TaskRow) :
    ChecksPass auditReady (answeredEnv auditReady row) :=
  ⟨rfl, rfl, rfl, rfl, rfl⟩

/-- A retry takes a task out of an escapable block; an audit task needs its
predecessors ready. -/
theorem escapable_of_block {auditReady : Bool} {row : TaskRow}
    (block : EscapableBlock (blockView row)) (audit : row.taskIntent = .audit → auditReady = true) :
    Escapable auditReady row := by
  let env := answeredEnv auditReady row
  let input : EventHandlerInput := { event := .retryFromBlocked }
  obtain ⟨notContainer, blocked, ⟨resume, from?, open_⟩, allowed⟩ := block.retryable env
  have passed : Passed env input row := by
    refine ⟨?_, ?_, ?_, ?_⟩
    · unfold refusesRuntimeStart
      rw [if_neg (by simp [notContainer]), if_neg]
      intro refused
      simp only [Bool.and_eq_true, decide_eq_true_eq, Bool.not_eq_true'] at refused
      have ready := audit refused.1.1
      exact absurd (refused.2.symm.trans ready) (by decide)
    · rfl
    · have nonempty : (trim "resume").isEmpty = false := by decide
      have fresh : hasFreshOperatorInputAnswer env row = true := by
        have newer : row.updatedAt < row.updatedAt + 1 := Nat.lt_succ_self _
        simp only [hasFreshOperatorInputAnswer, env, answeredEnv, Option.any_some, nonempty, newer,
          decide_true, Bool.not_false, Bool.and_self]
      rw [fresh, Bool.or_true]
    · exact ⟨_, retry_accepted_iff.mpr ⟨resume, blocked, from?, allowed, rfl⟩⟩
  have unblocked : branchDependencyBlocks env row = false := by
    simp [branchDependencyBlocks, checkSequentialBranchDependencyBeforeRuntimeStart, env,
      answeredEnv]
  obtain ⟨target, target?, view⟩ := handleTaskEvent_retry_clears rfl passed unblocked
  have left : (handleTaskEvent env input row).2.status =
      if (retryKinds row input.event).malformedReviewProductRework then .implementing
      else target := congrArg BlockView.status view
  refine ⟨[(env, input)], by simpa using answeredEnv_checksPass auditReady row, ?_⟩
  show (handleTaskEvent env input row).2.status ≠ .blockedExternal
  rw [left]
  split
  · simp
  · rw [from?] at target?
    cases target?
    exact open_

/-! ### Admitted runs -/

/-- Every block by a human event is escapable. -/
def BlocksEscapable (row : TaskRow) : Prop :=
  blockedByEvent row = true → EscapableBlock (blockView row)

theorem blocksEscapable_of_open {row : TaskRow} (open_ : row.status ≠ .blockedExternal) :
    BlocksEscapable row := by
  intro blocked
  simp [blockedByEvent, open_] at blocked

theorem not_blockedByEvent {row : TaskRow} {p reason : String}
    (written : row.blockedReason = some reason) (starts : startsWith reason p = true)
    (apart : ∀ q ∈ eventBlockReasons, ¬ p.toList <+: q.toList ∧ ¬ q.toList <+: p.toList) :
    blockedByEvent row = false := by
  have none : eventBlockReasons.any (startsWith reason ·) = false := by
    rw [List.any_eq_false]
    intro q listed
    rw [Bool.not_eq_true]
    exact not_startsWith_of_startsWith q starts (apart q listed).1 (apart q listed).2
  simp [blockedByEvent, written, none]

theorem not_blockedByEvent_of_evidence {row : TaskRow} {reason : String}
    (written : row.blockedReason = some reason) (evidence : IsEvidenceReason reason) :
    blockedByEvent row = false := by
  rcases evidence with ⟨rest, rfl⟩ | ⟨family, rest, rfl⟩
  · exact not_blockedByEvent written (startsWith_append _ _) (by decide)
  · refine not_blockedByEvent written (startsWith_append _ _) ?_
    cases family <;> decide

/-- The step lemma: an admitted event keeps the blocks escapable. -/
theorem step_keeps_escapable {row : TaskRow} {step : HumanStep} (inv : BlocksEscapable row)
    (ok : LeavesWayOut row step) : BlocksEscapable (humanStep row step) := by
  obtain ⟨env, input⟩ := step
  obtain ⟨notAgain, notContainer, notFlagged, planQuality⟩ := ok
  have open_ (writes : input.event = .cancelTask ∨
      configGovernanceBlocks env row input.event = true ∨
      sequentialBranchBlocks env input row = true) : row.status ≠ .blockedExternal := by
    intro blocked
    rcases writes with writes | writes | writes <;> simp [reblocks, blocked, writes] at notAgain
  -- An event that starts the runtime got past the container guard.
  have executable (starts : input.event ∈ runtimeStartingEvents)
      (passes : (refusesRuntimeStart env row input.event).isNone = true) :
      row.hierarchyRole ≠ .container := by
    intro container
    simp [refusesRuntimeStart, container, starts] at passes
  unfold BlocksEscapable humanStep
  generalize shown : blockView (handleTaskEvent env input row).2 = view
  have effect := shown ▸ handleTaskEvent_effect env input row
  have status : (handleTaskEvent env input row).2.status = view.status :=
    congrArg BlockView.status shown
  have reason : (handleTaskEvent env input row).2.blockedReason = view.blockedReason :=
    congrArg BlockView.blockedReason shown
  intro blocked
  cases effect with
  | kept text same =>
    have was : row.status = .blockedExternal := by
      have held := (Bool.and_eq_true _ _).mp blocked
      exact status.symm.trans (of_decide_eq_true held.1)
    have text? := same was
    subst text?
    refine inv ?_
    unfold blockedByEvent at blocked ⊢
    rwa [status, reason] at blocked
  | cleared =>
    simp [blockedByEvent, reason] at blocked
  | cancelled cancel notDone notVerified =>
    refine .cancelled _ _ ?_ (open_ (.inl cancel))
    intro container
    simp [cancelsContainer, cancel, container, notDone, notVerified] at notContainer
  | configBlocked blocks =>
    rw [notFlagged blocks]
    refine .config _ _ _ ?_ (open_ (.inr (.inl blocks)))
    have found := (Bool.and_eq_true _ _).mp blocks
    refine executable ?_ found.1
    by_contra notStarting
    simp [configGovernanceBlockers, notStarting] at found
  | branchBlocked blocker blocks =>
    have found := blocks
    simp only [sequentialBranchBlocks, Bool.and_eq_true, decide_eq_true_eq] at found
    exact .branch _ blocker _ (executable found.1.1.1.1.1 found.1.1.1.1.2)
      (open_ (.inr (.inr blocks)))
  | planQualityBlocked failure blocks =>
    rw [planQuality] at blocks
    cases blocks
  | manualException =>
    rw [not_blockedByEvent reason (startsWith_append _ _) (by decide)] at blocked
    cases blocked
  | evidenceBlocked text manual evidence =>
    rw [not_blockedByEvent_of_evidence reason evidence] at blocked
    cases blocked
  | evidenceRework =>
    simp [blockedByEvent, status] at blocked

/-- **Escape**: in a run of human events that leave a way out, every block by one of
the four guards can be left, an audit task's once its predecessors are ready. -/
theorem escapable_of_reaches {row : TaskRow} {auditReady : Bool}
    (reached : Reaches humanSystem LeavesWayOut row) (blocked : blockedByEvent row = true)
    (audit : row.taskIntent = .audit → auditReady = true) : Escapable auditReady row := by
  have inv : BlocksEscapable row := by
    refine reached.invariant (fun start => blocksEscapable_of_open) ?_
    rintro s step s' kept admitted rfl
    exact step_keeps_escapable kept admitted
  exact escapable_of_block (inv blocked) audit

/-! ### No way out -/

/-- The block has no resume target, resumes into a block, or is a manual review of
a backlog task, which no retry recognises. -/
structure Stuck (row : TaskRow) : Prop where
  blocked : row.status = .blockedExternal
  noTarget : row.blockedFromStatus = none ∨ row.blockedFromStatus = some .blockedExternal ∨
    (row.blockedFromStatus = some .backlog ∧ row.manualReviewRequired = true ∧
      isRetryableSequentialBranchDependencyBlock row = false ∧
      isRetryableOperatorInputHold row = false)

theorem backlog_refused {row : TaskRow} {options : TaskTransitionOptions}
    (from? : row.blockedFromStatus = some .backlog) (manual : row.manualReviewRequired = true)
    (noBranch : isRetryableSequentialBranchDependencyBlock row = false)
    (noHold : isRetryableOperatorInputHold row = false) :
    refusesManualReviewRetry row options = true := by
  simp [refusesManualReviewRetry, isManualReviewBlockedTask, manual, noBranch, noHold,
    isRetryablePlanQualityBlock, isRetryableMalformedReviewOutputBlock,
    isRetryableNoSubstantiveReworkBlock, isRetryableStalledReworkLoopBlock,
    isRetryableQaSchemaFallbackBlock, from?]

theorem manualException_not_retryable {row : TaskRow} {justification : String}
    (reason : row.blockedReason = some ("manual_exception: " ++ justification)) :
    isRetryableSequentialBranchDependencyBlock row = false ∧
      isRetryableOperatorInputHold row = false := by
  have starts : startsWith (loweredReason row) "manual_exception: " = true := by
    simp only [loweredReason, reason, Option.map_some, Option.getD_some]
    exact startsWith_toLowerCase (by decide)
  have noBranch := not_startsWith_of_startsWith "sequential_branch_dependency_blocked:" starts
    (by decide) (by decide)
  have noInput := not_startsWith_of_startsWith "operator_input_required:" starts (by decide) (by decide)
  have noCancel := not_startsWith_of_startsWith "operator_cancelled:" starts (by decide) (by decide)
  exact ⟨noBranch, by simp [isRetryableOperatorInputHold, noInput, noCancel]⟩

/-- While the checks pass, no human event frees a stuck task. -/
theorem stuck_step {auditReady : Bool} {row : TaskRow} {step : HumanStep} (stuck : Stuck row)
    (pass : ChecksPass auditReady step.1) : Stuck (humanStep row step) := by
  obtain ⟨env, input⟩ := step
  obtain ⟨blocked, noTarget⟩ := stuck
  have noConfig : configGovernanceBlockers env input.event = [] := by
    have sound : env.configWorkBlockers = some [] := pass.config
    have taskSound : env.taskRuntimeOverrideBlockers = [] := pass.taskConfig
    simp [configGovernanceBlockers, sound, taskSound]
  have noBranchGuard : branchDependencyBlocks env row = false := by
    have none : env.branchDependencyBlocker = none := pass.branch
    simp [branchDependencyBlocks, checkSequentialBranchDependencyBeforeRuntimeStart, none]
  unfold humanStep
  generalize shown : blockView (handleTaskEvent env input row).2 = view
  have effect := shown ▸ handleTaskEvent_effect env input row
  have status : (handleTaskEvent env input row).2.status = view.status :=
    congrArg BlockView.status shown
  have reason : (handleTaskEvent env input row).2.blockedReason = view.blockedReason :=
    congrArg BlockView.blockedReason shown
  have from? : (handleTaskEvent env input row).2.blockedFromStatus = view.blockedFromStatus :=
    congrArg BlockView.blockedFromStatus shown
  have manual : (handleTaskEvent env input row).2.manualReviewRequired =
      view.manualReviewRequired := congrArg BlockView.manualReviewRequired shown
  cases effect with
  | kept text same =>
    have lowered : loweredReason (handleTaskEvent env input row).2 = loweredReason row := by
      simp only [loweredReason, reason, same blocked]
    refine ⟨status.trans blocked, ?_⟩
    simp only [isRetryableSequentialBranchDependencyBlock, isRetryableOperatorInputHold,
      lowered, from?, manual]
    exact noTarget
  | cleared next target allowed =>
    refine ⟨status.trans ?_, .inl from?⟩
    rcases noTarget with none | own | ⟨backlog, flagged, noBranch, noHold⟩
    · simp [none] at target
      exact absurd blocked target
    · simpa [own, eq_comm] using target blocked
    · rw [backlog_refused backlog flagged noBranch noHold] at allowed
      exact absurd (allowed blocked) (by decide)
  | cancelled => exact ⟨status, .inr (.inl (by rw [from?, blocked]))⟩
  | configBlocked blocks => simp [configGovernanceBlocks, noConfig] at blocks
  | branchBlocked _ blocks => simp [sequentialBranchBlocks, noBranchGuard] at blocks
  | planQualityBlocked _ blocks =>
    exact absurd (status_of_planQualityBlocks blocks) (by simp [blocked])
  | manualException =>
    refine ⟨status, ?_⟩
    rcases noTarget with none | own | ⟨backlog, -, -, -⟩
    · simp [from?, none, blocked]
    · simp [from?, own]
    · obtain ⟨noBranch, noHold⟩ := manualException_not_retryable reason
      exact .inr (.inr ⟨by simp [from?, backlog], manual, noBranch, noHold⟩)
  | evidenceBlocked _ _ _ open_ => simp [blocked] at open_
  | evidenceRework _ done => simp [blocked] at done

theorem not_escapable_of_stuck {auditReady : Bool} {row : TaskRow} (stuck : Stuck row) :
    ¬ Escapable auditReady row := by
  rintro ⟨steps, pass, left⟩
  induction steps generalizing row with
  | nil => exact left stuck.blocked
  | cons step rest ih =>
    exact ih (stuck_step stuck (pass step (List.mem_cons_self ..)))
      (fun later among => pass later (List.mem_cons_of_mem step among)) left

/-- A plan on disk that fails the quality guard. -/
def poorPlan : EventEnv :=
  { now := 1
    planFile := some "plan"
    planQuality := some { categories := ["placeholder"], details := "The plan is a stub." } }

/-- A backlog task whose plan fails the quality guard is blocked for good: the
block is a manual review that no retry recognises, although its message asks the
operator to retry. -/
theorem planQualityBlock_stuck :
    ∃ row, Reachable humanSystem row ∧ blockedByEvent row = true ∧ row.taskIntent ≠ .audit ∧
      ∀ auditReady, ¬ Escapable auditReady row := by
  let step : HumanStep := (poorPlan, { event := .acceptExistingPlan })
  have start : Reachable humanSystem backlogTask :=
    .init (show backlogTask.status ≠ .blockedExternal by decide)
  obtain ⟨byEvent, noAudit, blocked, noTarget⟩ :
      let row := humanStep backlogTask step
      blockedByEvent row = true ∧ row.taskIntent ≠ .audit ∧ row.status = .blockedExternal ∧
        row.blockedFromStatus = some .backlog ∧ row.manualReviewRequired = true ∧
        isRetryableSequentialBranchDependencyBlock row = false ∧
        isRetryableOperatorInputHold row = false := by decide +kernel
  exact ⟨humanStep backlogTask step, .step start trivial rfl, byEvent, noAudit,
    fun auditReady => not_escapable_of_stuck ⟨blocked, .inr (.inr noTarget)⟩⟩

/-- An admitted run: a cancelled backlog task can be retried. -/
theorem escapable_of_cancelled :
    Escapable true (humanStep backlogTask ({ now := 1 }, { event := .cancelTask })) := by
  have start : Reaches humanSystem LeavesWayOut backlogTask :=
    .init (show backlogTask.status ≠ .blockedExternal by decide)
  refine escapable_of_reaches (.step start ?_ rfl) (by decide) (fun _ => rfl)
  exact ⟨by decide, by decide, fun _ => rfl, by decide⟩

end AifHandoff.System
