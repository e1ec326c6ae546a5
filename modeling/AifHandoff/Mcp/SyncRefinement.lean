import AifHandoff.Api.EventEffects
import AifHandoff.Mcp.SyncStatus

/-!
The status sync against the workflow events of the API.

A sync is translated to a human event and consults the same table as `handleTaskEvent`, without the
guards that stand around the table there.
-/

namespace AifHandoff.Mcp

open Text Data StateMachine Api

/-! ### What a sync should do -/

/-- Both rows hold the same workflow state, up to a paused flag that the sync was given. -/
structure SameOutcome (args : SyncStatusArgs) (synced handled : TaskRow) : Prop where
  status : synced.status = handled.status
  blockedReason : synced.blockedReason = handled.blockedReason
  blockedFromStatus : synced.blockedFromStatus = handled.blockedFromStatus
  retryAfter : synced.retryAfter = handled.retryAfter
  retryCount : synced.retryCount = handled.retryCount
  paused : args.paused = none → synced.paused = handled.paused

/-- The event succeeds on the task and leaves what the sync left. -/
structure RefinesEvent (env : EventEnv) (args : SyncStatusArgs) (event : TaskEvent)
    (task synced : TaskRow) : Prop where
  succeeds : (handleTaskEvent env { event } task).1.isOk = true
  same : SameOutcome args synced (handleTaskEvent env { event } task).2

/-! ### What the API asks -/

/-- The guards of `start_implementation`. -/
structure ImplementationMayStart (env : EventEnv) (task : TaskRow) : Prop where
  project : env.projectFound = true
  branch : restoreTaskBranchForMutation env task = none
  evidence : env.completionEvidence.ok = true

/-- The guards of `accept_existing_plan`. -/
structure PlanAcceptable (env : EventEnv) (task : TaskRow) : Prop where
  project : env.projectFound = true
  branch : ∃ branchName, bindPlanBranch env task = .ok branchName
  planFile : ∃ filePlan, env.planFile = some filePlan ∧ (trim filePlan).isEmpty = false
  quality : env.planQuality = none

/-- What the API asks before it lets the event pass, and where its row is that of the sync. -/
structure AdmittedByApi (env : EventEnv) (args : SyncStatusArgs) (event : TaskEvent)
    (task : TaskRow) : Prop where
  executable : task.hierarchyRole ≠ .container
  dependencies : task.taskIntent = .audit → env.auditDependenciesReleaseReady = true
  configuration : ∀ blockers, env.configWorkBlockers = some blockers →
    blockers = [] ∧ env.taskRuntimeOverrideBlockers = []
  branch : task.isFix = false → env.projectFound = true → env.branchDependencyBlocker = none
  intake : event = .startAi → env.requirementsIntakeEnabled = false
  implementation : event = .startImplementation → ImplementationMayStart env task
  plan : event = .acceptExistingPlan →
    PlanAcceptable env task ∧ (args.paused = none → task.paused = false)
  answer : event = .retryFromBlocked → isOperatorInputHold task = true →
    hasFreshOperatorInputAnswer env task = true
  rework : (retryKinds task event).malformedReviewProductRework = false

/-! ### Patches that clear a task -/

/-- The patch leads to a status and clears everything else. -/
structure ClearsTo (status : TaskStatus) (patch : TaskFieldsPatch) : Prop where
  status : patch.status = some status
  blockedReason : patch.blockedReason = some none
  blockedFromStatus : patch.blockedFromStatus = some none
  retryAfter : patch.retryAfter = some none
  retryCount : patch.retryCount = some 0
  paused : patch.paused = some false

section Step

variable {task : TaskRow} {newStatus : TaskStatus} {event : TaskEvent} {patch : TaskFieldsPatch}
  {env : EventEnv} {args : SyncStatusArgs} {row : SyncedTask}

theorem SyncStep.clears (step : SyncStep task newStatus event patch) : ClearsTo newStatus patch := by
  cases step <;> exact ⟨rfl, rfl, rfl, rfl, rfl, rfl⟩

theorem SyncStep.starts (step : SyncStep task newStatus event patch) :
    event ∈ runtimeStartingEvents := by
  cases step <;> decide

theorem SyncStep.notBlocked (step : SyncStep task newStatus event patch)
    (moves : task.status ≠ newStatus) : newStatus ≠ .blockedExternal := by
  cases step with
  | retryFromBlocked resume blocked _ _ =>
    rintro rfl
    exact moves blocked
  | startAi _ | acceptExistingPlan _ | startImplementation _ _ | requestReplanning _ => decide

/-- The table accepts the event on the way through the API too. -/
theorem SyncStep.table (step : SyncStep task newStatus event patch) (env : EventEnv) :
    ∃ written, applyHumanTaskEvent task event (transitionOptions env task event) = .ok written ∧
      ClearsTo (if event = .startAi ∧ env.requirementsIntakeEnabled = true then
        .requirementsAnalysis else newStatus) written := by
  cases step with
  | startAi backlog =>
    refine ⟨_, by simp only [applyHumanTaskEvent, backlog]; rfl, ?_⟩
    cases intake : env.requirementsIntakeEnabled <;>
      exact ⟨by simp [transitionOptions, intake], rfl, rfl, rfl, rfl, rfl⟩
  | acceptExistingPlan backlog =>
    refine ⟨_, by simp only [applyHumanTaskEvent, backlog]; rfl, ?_⟩
    exact ⟨by simp, rfl, rfl, rfl, rfl, rfl⟩
  | startImplementation ready manual =>
    refine ⟨_, by simp only [applyHumanTaskEvent, ready, manual]; rfl, ?_⟩
    exact ⟨by simp, rfl, rfl, rfl, rfl, rfl⟩
  | requestReplanning ready =>
    refine ⟨_, by simp only [applyHumanTaskEvent, ready]; rfl, ?_⟩
    exact ⟨by simp, rfl, rfl, rfl, rfl, rfl⟩
  | retryFromBlocked resume blocked from? allowed =>
    -- an option can only open the table further
    have open_ : refusesManualReviewRetry task
        (transitionOptions env task .retryFromBlocked) = false := by
      unfold refusesManualReviewRetry at *
      simp_all
    refine ⟨_, retry_accepted_iff.mpr ⟨newStatus, blocked, from?, open_, rfl⟩, ?_⟩
    exact ⟨by simp, rfl, rfl, rfl, rfl, rfl⟩

theorem ClearsTo.written (clears : ClearsTo newStatus patch) (task : TaskRow) :
    (setTaskFields task patch).status = newStatus ∧
      (setTaskFields task patch).blockedReason = none ∧
      (setTaskFields task patch).blockedFromStatus = none ∧
      (setTaskFields task patch).retryAfter = none ∧
      (setTaskFields task patch).retryCount = 0 ∧
      (setTaskFields task patch).paused = false := by
  have plain : setTaskFields task patch = task.set patch :=
    setTaskFields_of_reason task patch (by rw [clears.blockedReason]; rfl)
  rw [plain]
  exact ⟨by simp [clears.status], by simp [clears.blockedReason],
    by simp [clears.blockedFromStatus], by simp [clears.retryAfter], by simp [clears.retryCount],
    by simp [clears.paused]⟩

theorem applySync_written (clears : ClearsTo newStatus patch) (now : Nat) :
    (applySync args now patch row).task.status = newStatus ∧
      (applySync args now patch row).task.blockedReason = none ∧
      (applySync args now patch row).task.blockedFromStatus = none ∧
      (applySync args now patch row).task.retryAfter = none ∧
      (applySync args now patch row).task.retryCount = 0 ∧
      (applySync args now patch row).task.paused = args.paused.getD false := by
  obtain ⟨status, reason, from?, retryAfter, retryCount, paused⟩ := clears.written row.task
  have touched : setTaskFields (setTaskFields row.task patch) {} = setTaskFields row.task patch :=
    setTaskFields_of_reason _ _ (by rw [Option.getD_none, reason]; rfl)
  unfold applySync touchLastSyncedAt SyncedTask.setTaskFields
  cases given : args.paused with
  | none =>
    dsimp only
    rw [touched]
    exact ⟨status, reason, from?, retryAfter, retryCount, paused⟩
  | some flag =>
    dsimp only
    rw [touched, setTaskFields_of_reason _ _ (by rw [Option.getD_none, reason]; rfl)]
    exact ⟨status, reason, from?, retryAfter, retryCount, rfl⟩

theorem sameOutcome_iff (clears : ClearsTo newStatus patch) (now : Nat) (handled : TaskRow) :
    SameOutcome args (applySync args now patch row).task handled ↔
      handled.status = newStatus ∧ handled.blockedReason = none ∧
        handled.blockedFromStatus = none ∧ handled.retryAfter = none ∧ handled.retryCount = 0 ∧
        (args.paused = none → handled.paused = false) := by
  obtain ⟨status, reason, from?, retryAfter, retryCount, paused⟩ :=
    @applySync_written newStatus patch args row clears now
  constructor
  · intro same
    refine ⟨same.status ▸ status, same.blockedReason ▸ reason, same.blockedFromStatus ▸ from?,
      same.retryAfter ▸ retryAfter, same.retryCount ▸ retryCount, fun none_ => ?_⟩
    rw [← same.paused none_, paused, none_]
    rfl
  · rintro ⟨status', reason', from', retryAfter', retryCount', paused'⟩
    refine ⟨status.trans status'.symm, reason.trans reason'.symm, from?.trans from'.symm,
      retryAfter.trans retryAfter'.symm, retryCount.trans retryCount'.symm, fun none_ => ?_⟩
    rw [paused, none_, paused' none_]
    rfl

/-! ### The guards, one at a time -/

theorem refusesRuntimeStart_eq_none_iff (starts : event ∈ runtimeStartingEvents) :
    refusesRuntimeStart env task event = none ↔
      task.hierarchyRole ≠ .container ∧
        (task.taskIntent = .audit → env.auditDependenciesReleaseReady = true) := by
  unfold refusesRuntimeStart
  by_cases container : task.hierarchyRole = .container
  · simp [container, starts]
  by_cases audit : task.taskIntent = .audit
  · cases ready : env.auditDependenciesReleaseReady <;> simp [container, starts, audit]
  · simp [container, audit]

theorem configGovernanceBlockers_isEmpty_iff (starts : event ∈ runtimeStartingEvents) :
    (configGovernanceBlockers env event).isEmpty = true ↔
      ∀ blockers, env.configWorkBlockers = some blockers →
        blockers = [] ∧ env.taskRuntimeOverrideBlockers = [] := by
  unfold configGovernanceBlockers
  rw [if_neg (not_not_intro starts)]
  cases env.configWorkBlockers with
  | none => simp
  | some blockers => simp

theorem branchDependency_eq_none_iff :
    checkSequentialBranchDependencyBeforeRuntimeStart env task = none ↔
      (task.isFix = false → env.projectFound = true → env.branchDependencyBlocker = none) := by
  unfold checkSequentialBranchDependencyBeforeRuntimeStart
  cases task.isFix <;> cases env.projectFound <;> simp

theorem branchDependency_blocks {result : EventHandlerResult} {blocked : TaskRow}
    (found : checkSequentialBranchDependencyBeforeRuntimeStart env task =
      some (result, blocked)) : blocked.status = .blockedExternal := by
  unfold checkSequentialBranchDependencyBeforeRuntimeStart at found
  split at found
  · cases found
  · obtain ⟨blocker, _, written⟩ := Option.map_eq_some_iff.mp found
    cases written
    simp [appendTaskActivityLog]

theorem checkStartImplementation_eq_none_iff :
    checkStartImplementation env task = none ↔ ImplementationMayStart env task := by
  unfold checkStartImplementation
  constructor
  · intro none_
    split_ifs at none_ with missing failed
    simp only [Bool.or_eq_true, not_or, Bool.not_eq_true, Option.isSome_eq_false_iff,
      Option.isNone_iff_eq_none, Bool.not_eq_eq_eq_not, Bool.not_true] at missing failed
    exact ⟨by simpa using missing, failed.1, by simpa using failed.2⟩
  · rintro ⟨project, branch, evidence⟩
    simp [project, branch, evidence]

theorem checkStartImplementation_blocks {result : EventHandlerResult} {blocked : TaskRow}
    (found : checkStartImplementation env task = some (result, blocked)) :
    result.isOk = false ∨ blocked.status = .blockedExternal := by
  unfold checkStartImplementation at found
  split_ifs at found
  · cases found
    exact .inl rfl
  · have noRework : shouldReturnToRework env task { blockedFromStatus := some task.status } =
        false := by
      simp [shouldReturnToRework]
    have written := Option.some.inj found
    unfold blockTaskForCompletionEvidence at written
    simp only [noRework, Bool.false_eq_true, ↓reduceIte] at written
    cases written
    refine .inr ?_
    simp [appendTaskActivityLog]

theorem restoreTaskBranch_fails {error : EventHandlerResult}
    (found : restoreTaskBranchForMutation env task = some error) : error.isOk = false := by
  unfold restoreTaskBranchForMutation at found
  split at found
  · cases found
  · obtain ⟨message, _, rfl⟩ := Option.map_eq_some_iff.mp found
    rfl

theorem bindPlanBranch_fails {error : EventHandlerResult}
    (found : bindPlanBranch env task = .error error) : error.isOk = false := by
  unfold bindPlanBranch at found
  split at found
  · cases found
  split at found
  · split at found
    · rename_i restore
      cases found
      exact restoreTaskBranch_fails restore
    · cases found
  · split at found
    · cases found
    · cases found
      rfl

/-! ### The handlers -/

/-- The plan of the task is accepted, with the state of the sync. -/
theorem handleAcceptExistingPlan_refines_iff (clears : ClearsTo .planReady patch)
    (backlog : row.task.status = .backlog) (now : Nat) :
    (handleAcceptExistingPlan env row.task).1.isOk = true ∧
        SameOutcome args (applySync args now patch row).task
          (handleAcceptExistingPlan env row.task).2 ↔
      checkSequentialBranchDependencyBeforeRuntimeStart env row.task = none ∧
        PlanAcceptable env row.task ∧ (args.paused = none → row.task.paused = false) := by
  rw [sameOutcome_iff clears]
  unfold handleAcceptExistingPlan
  rw [if_neg (not_not_intro backlog)]
  cases project : env.projectFound with
  | false =>
    refine iff_of_false (fun both => ?_) fun both => ?_
    · cases both.1
    · rw [both.2.1.project] at project
      cases project
  | true =>
  cases branch : checkSequentialBranchDependencyBeforeRuntimeStart env row.task with
  | some blocked =>
    refine iff_of_false (fun both => ?_) fun both => ?_
    · obtain ⟨result, blocked⟩ := blocked
      have status : blocked.status = .planReady := both.2.1
      rw [branchDependency_blocks branch] at status
      cases status
    · cases both.1
  | none =>
  cases bound : bindPlanBranch env row.task with
  | error error =>
    refine iff_of_false (fun both => ?_) fun both => ?_
    · have succeeds : error.isOk = true := both.1
      rw [bindPlanBranch_fails bound] at succeeds
      cases succeeds
    · obtain ⟨branchName, isBound⟩ := both.2.1.branch
      rw [isBound] at bound
      cases bound
  | ok branchName =>
  cases file : env.planFile with
  | none =>
    refine iff_of_false (fun both => ?_) fun both => ?_
    · cases both.1
    · obtain ⟨filePlan, found, _⟩ := both.2.1.planFile
      rw [found] at file
      cases file
  | some filePlan =>
  cases blank : (trim filePlan).isEmpty with
  | true =>
    refine iff_of_false (fun both => ?_) fun both => ?_
    · simp only [blank] at both
      cases both.1
    · obtain ⟨found, isFile, filled⟩ := both.2.1.planFile
      rw [isFile] at file
      cases file
      rw [blank] at filled
      cases filled
  | false =>
  cases quality : env.planQuality with
  | some failure =>
    refine iff_of_false (fun both => ?_) fun both => ?_
    · simp only [blank] at both
      cases both.1
    · have none_ := both.2.1.quality
      rw [quality] at none_
      cases none_
  | none =>
    simp only [blank]
    rw [setTaskFields_of_reason _ _ rfl]
    constructor
    · rintro ⟨_, _, _, _, _, _, paused⟩
      exact ⟨trivial, ⟨project, ⟨branchName, bound⟩, ⟨filePlan, file, blank⟩, quality⟩, paused⟩
    · rintro ⟨_, _, paused⟩
      exact ⟨rfl, rfl, rfl, rfl, rfl, rfl, paused⟩

/-- The event of a step that does not accept a plan, behind the guards that stop it. -/
theorem checkRegularGuards_of_step (env : EventEnv)
    (step : SyncStep task newStatus event patch)
    (notPlan : event ≠ .acceptExistingPlan) :
    (checkSequentialBranchDependencyBeforeRuntimeStart env task = none ∧
        (event = .startImplementation → ImplementationMayStart env task) ∧
        checkRegularGuards env { event } task = .ok task) ∨
      ¬(checkSequentialBranchDependencyBeforeRuntimeStart env task = none ∧
        (event = .startImplementation → ImplementationMayStart env task)) ∧
        ∃ result blocked, checkRegularGuards env { event } task = .error (result, blocked) ∧
          (result.isOk = false ∨ blocked.status = .blockedExternal) := by
  unfold checkRegularGuards
  dsimp only
  rw [if_pos step.starts]
  cases branch : checkSequentialBranchDependencyBeforeRuntimeStart env task with
  | some blocked =>
    obtain ⟨result, blocked⟩ := blocked
    exact .inr ⟨fun both => absurd both.1 (by simp), result, blocked, rfl,
      .inr (branchDependency_blocks branch)⟩
  | none =>
    cases step with
    | startImplementation ready manual =>
      cases start : checkStartImplementation env task with
      | none => exact .inl ⟨rfl, fun _ => checkStartImplementation_eq_none_iff.mp start, rfl⟩
      | some blocked =>
        obtain ⟨result, blocked⟩ := blocked
        refine .inr ⟨fun both => ?_, result, blocked, rfl, checkStartImplementation_blocks start⟩
        rw [checkStartImplementation_eq_none_iff.mpr (both.2 rfl)] at start
        cases start
    | acceptExistingPlan _ => exact absurd rfl notPlan
    | startAi _ => exact .inl ⟨rfl, by simp, rfl⟩
    | requestReplanning _ => exact .inl ⟨rfl, by simp, rfl⟩
    | retryFromBlocked _ _ _ _ => exact .inl ⟨rfl, by simp, rfl⟩

theorem SyncStep.notCancelled (step : SyncStep task newStatus event patch) :
    (event ≠ .cancelTask && isOperatorCancelledTask task &&
      !(retryKinds task event).operatorInput) = false := by
  cases step with
  | startAi other | acceptExistingPlan other | startImplementation other _
  | requestReplanning other => simp [isOperatorCancelledTask, other]
  | retryFromBlocked resume blocked from? allowed =>
    simp only [retryKinds, isOperatorInputHold, isOperatorCancelledTask]
    cases task.blockedReason with
    | none => simp
    | some reason =>
      simp only [Option.any_some, ne_eq, reduceCtorEq, not_false_eq_true, decide_true,
        Bool.true_and]
      cases startsWith reason "operator_cancelled:" <;> simp

theorem answered_iff (event : TaskEvent) :
    ((retryKinds task event).operatorInput && !hasFreshOperatorInputAnswer env task) = false ↔
      (event = .retryFromBlocked → isOperatorInputHold task = true →
        hasFreshOperatorInputAnswer env task = true) := by
  by_cases retry : event = .retryFromBlocked
  · cases hold : isOperatorInputHold task <;> simp [retryKinds, retry, hold]
  · simp [retryKinds, retry]

theorem ClearsTo.regular (clears : ClearsTo newStatus patch) (kinds : RetryKinds) (now : Nat) :
    ClearsTo (if kinds.malformedReviewProductRework then .implementing else newStatus)
      (regularTransitionPatch task kinds patch now) := by
  unfold regularTransitionPatch
  constructor
  · simp only [apply_ite TaskFieldsPatch.status, clears.status, ite_self, apply_ite some]
  · simp only [apply_ite TaskFieldsPatch.blockedReason, clears.blockedReason, ite_self]
  · simp only [apply_ite TaskFieldsPatch.blockedFromStatus, clears.blockedFromStatus, ite_self]
  · simp only [apply_ite TaskFieldsPatch.retryAfter, clears.retryAfter, ite_self]
  · simp only [apply_ite TaskFieldsPatch.retryCount, clears.retryCount, ite_self]
  · simp only [apply_ite TaskFieldsPatch.paused, clears.paused, ite_self]

/-- The event leads to the status of the sync: no requirements come first, and no rework. -/
theorem SyncStep.arrives_iff (step : SyncStep task newStatus event patch) :
    (if (retryKinds task event).malformedReviewProductRework then .implementing
      else if event = .startAi ∧ env.requirementsIntakeEnabled = true then .requirementsAnalysis
      else newStatus) = newStatus ↔
      (event = .startAi → env.requirementsIntakeEnabled = false) ∧
        (retryKinds task event).malformedReviewProductRework = false := by
  cases product : (retryKinds task event).malformedReviewProductRework with
  | true =>
    -- such a retry resumes a review
    simp only [retryKinds, Bool.and_eq_true, decide_eq_true_eq] at product
    cases step with
    | retryFromBlocked resume blocked from? allowed =>
      rw [product.1.1.2] at from?
      cases from?
      simp
    | startAi _ | acceptExistingPlan _ | startImplementation _ _ | requestReplanning _ =>
      simp at product
  | false =>
    cases step with
    | startAi _ => cases env.requirementsIntakeEnabled <;> simp
    | acceptExistingPlan _ | startImplementation _ _ | requestReplanning _
    | retryFromBlocked _ _ _ _ => simp

/-- What a regular transition leaves when no guard stops it. -/
theorem handleRegularTransition_of_step (step : SyncStep task newStatus event patch)
    (notPlan : event ≠ .acceptExistingPlan)
    (answered : ((retryKinds task event).operatorInput &&
      !hasFreshOperatorInputAnswer env task) = false)
    (guards : checkRegularGuards env { event } task = .ok task) :
    ∃ written logs, ClearsTo
        (if (retryKinds task event).malformedReviewProductRework then .implementing
          else if event = .startAi ∧ env.requirementsIntakeEnabled = true then
            .requirementsAnalysis
          else newStatus) written ∧
      handleRegularTransition env { event } task = (.ok .taskMoved,
        if logs = true then appendTaskActivityLog (setTaskFields task written) env.now
        else setTaskFields task written) := by
  obtain ⟨written, accepted, clears⟩ := step.table env
  have planFile : checkDeletePlanFile env { event } task = none := by
    simp [checkDeletePlanFile]
  have notChanges : (decide (event = .requestChanges) &&
      decide (env.auditArtifact = some .report)) = false := by
    cases step <;> simp
  refine ⟨regularTransitionPatch task (retryKinds task event) written env.now,
    event = .cancelTask || (retryKinds task event).malformedReviewProductRework,
    clears.regular (retryKinds task event) env.now, ?_⟩
  unfold handleRegularTransition
  dsimp only
  rw [step.notCancelled, answered, accepted]
  dsimp only
  rw [guards]
  dsimp only
  rw [planFile]
  dsimp only
  rw [notChanges]
  rfl

/-- The event is handled, with the state of the sync. -/
theorem handleRegularTransition_refines_iff (step : SyncStep row.task newStatus event patch)
    (moves : row.task.status ≠ newStatus) (notPlan : event ≠ .acceptExistingPlan) (now : Nat) :
    (handleRegularTransition env { event } row.task).1.isOk = true ∧
        SameOutcome args (applySync args now patch row).task
          (handleRegularTransition env { event } row.task).2 ↔
      checkSequentialBranchDependencyBeforeRuntimeStart env row.task = none ∧
        (event = .startAi → env.requirementsIntakeEnabled = false) ∧
        (event = .startImplementation → ImplementationMayStart env row.task) ∧
        (event = .retryFromBlocked → isOperatorInputHold row.task = true →
          hasFreshOperatorInputAnswer env row.task = true) ∧
        (retryKinds row.task event).malformedReviewProductRework = false := by
  rw [sameOutcome_iff step.clears, ← answered_iff event]
  cases unanswered : (retryKinds row.task event).operatorInput &&
      !hasFreshOperatorInputAnswer env row.task with
  | true =>
    refine iff_of_false (fun both => ?_) fun all => ?_
    · have refused : (handleRegularTransition env { event } row.task).1.isOk = false := by
        unfold handleRegularTransition
        dsimp only
        rw [step.notCancelled, unanswered]
        rfl
      rw [refused] at both
      cases both.1
    · cases all.2.2.2.1
  | false =>
  rcases checkRegularGuards_of_step env step notPlan with
    ⟨branch, implementation, guards⟩ | ⟨stopped, result, blocked, guards, stops⟩
  · obtain ⟨written, logs, clears, handled⟩ :=
      handleRegularTransition_of_step step notPlan unanswered guards
    obtain ⟨status, reason, from?, retryAfter, retryCount, paused⟩ := clears.written row.task
    have noHold : isOperatorInputRequiredReason (setTaskFields row.task written).blockedReason =
        false := by
      rw [reason]
      rfl
    have leaves : (handleRegularTransition env { event } row.task).2.status =
          (if (retryKinds row.task event).malformedReviewProductRework then .implementing
            else if event = .startAi ∧ env.requirementsIntakeEnabled = true then
              .requirementsAnalysis
            else newStatus) ∧
        (handleRegularTransition env { event } row.task).2.blockedReason = none ∧
        (handleRegularTransition env { event } row.task).2.blockedFromStatus = none ∧
        (handleRegularTransition env { event } row.task).2.retryAfter = none ∧
        (handleRegularTransition env { event } row.task).2.retryCount = 0 ∧
        (handleRegularTransition env { event } row.task).2.paused = false := by
      rw [handled]
      cases logs
      · exact ⟨status, reason, from?, retryAfter, retryCount, paused⟩
      · rw [if_pos rfl, appendTaskActivityLog_eq noHold]
        exact ⟨status, reason, from?, retryAfter, retryCount, paused⟩
    obtain ⟨status, reason, from?, retryAfter, retryCount, paused⟩ := leaves
    rw [status, step.arrives_iff]
    constructor
    · rintro ⟨_, ⟨intake, rework⟩, _⟩
      exact ⟨branch, intake, implementation, rfl, rework⟩
    · rintro ⟨_, intake, _, _, rework⟩
      refine ⟨?_, ⟨intake, rework⟩, reason, from?, retryAfter, retryCount, fun _ => paused⟩
      rw [handled]
      rfl
  · obtain ⟨written, accepted, _⟩ := step.table env
    have handled : handleRegularTransition env { event } row.task = (result, blocked) := by
      unfold handleRegularTransition
      dsimp only
      rw [step.notCancelled, unanswered, accepted]
      dsimp only
      rw [guards]
      rfl
    rw [handled]
    refine iff_of_false (fun both => ?_) fun all => stopped ⟨all.1, all.2.2.1⟩
    rcases stops with failed | isBlocked
    · rw [failed] at both
      cases both.1
    · exact step.notBlocked moves (both.2.1.symm.trans isBlocked)

/-! ### The sync and the event -/

theorem handleTaskEvent_of_step (step : SyncStep task newStatus event patch)
    (passes : refusesRuntimeStart env task event = none)
    (config : (configGovernanceBlockers env event).isEmpty = true) :
    handleTaskEvent env { event } task =
      if event = .acceptExistingPlan then handleAcceptExistingPlan env task
      else handleRegularTransition env { event } task := by
  have noBlocker : checkConfigGovernanceBlocker env task event = none := by
    unfold checkConfigGovernanceBlocker
    dsimp only
    rw [if_pos config]
  unfold handleTaskEvent
  dsimp only
  cases step <;> (rw [if_neg (by decide), passes]; dsimp only; rw [noBlocker]; rfl)

theorem refinesEvent_iff {synced : TaskRow} {answer : EventHandlerResult × TaskRow}
    (handled : handleTaskEvent env { event } task = answer) :
    RefinesEvent env args event task synced ↔
      answer.1.isOk = true ∧ SameOutcome args synced answer.2 := by
  subst handled
  exact ⟨fun ⟨ok, same⟩ => ⟨ok, same⟩, fun ⟨ok, same⟩ => ⟨ok, same⟩⟩

/-- A sync that passes its own checks refines the event exactly when the API would admit it. -/
theorem decided_refines_iff (step : SyncStep row.task newStatus event patch)
    (moves : row.task.status ≠ newStatus) (now : Nat) :
    RefinesEvent env args event row.task (applySync args now patch row).task ↔
      AdmittedByApi env args event row.task := by
  have notException : event ≠ .manualException := by cases step <;> decide
  by_cases passes : refusesRuntimeStart env row.task event = none
  case neg =>
    obtain ⟨answer, refused⟩ := Option.ne_none_iff_exists'.mp passes
    refine iff_of_false (fun refines => ?_) fun admitted => ?_
    · have succeeds := refines.succeeds
      unfold handleTaskEvent at succeeds
      dsimp only at succeeds
      rw [if_neg notException, refused] at succeeds
      unfold refusesRuntimeStart at refused
      split_ifs at refused <;> cases refused <;> cases succeeds
    · exact passes ((refusesRuntimeStart_eq_none_iff step.starts).mpr
        ⟨admitted.executable, admitted.dependencies⟩)
  by_cases config : (configGovernanceBlockers env event).isEmpty = true
  case neg =>
    refine iff_of_false (fun refines => ?_) fun admitted => ?_
    · have succeeds := refines.succeeds
      unfold handleTaskEvent checkConfigGovernanceBlocker at succeeds
      dsimp only at succeeds
      rw [if_neg notException, passes, if_neg config] at succeeds
      cases succeeds
    · exact config ((configGovernanceBlockers_isEmpty_iff step.starts).mpr admitted.configuration)
  obtain ⟨executable, dependencies⟩ := (refusesRuntimeStart_eq_none_iff step.starts).mp passes
  have configuration := (configGovernanceBlockers_isEmpty_iff step.starts).mp config
  have handled := handleTaskEvent_of_step step passes config
  by_cases isPlan : event = .acceptExistingPlan
  · rw [if_pos isPlan] at handled
    rw [refinesEvent_iff handled]
    cases step with
    | acceptExistingPlan backlog =>
      rw [handleAcceptExistingPlan_refines_iff ⟨rfl, rfl, rfl, rfl, rfl, rfl⟩ backlog,
        branchDependency_eq_none_iff]
      constructor
      · rintro ⟨branch, acceptable, paused⟩
        exact ⟨executable, dependencies, configuration, branch, by simp, by simp,
          fun _ => ⟨acceptable, paused⟩, by simp, by simp [retryKinds]⟩
      · intro admitted
        exact ⟨admitted.branch, admitted.plan rfl⟩
    | startAi _ | startImplementation _ _ | requestReplanning _ | retryFromBlocked _ _ _ _ =>
      cases isPlan
  · rw [if_neg isPlan] at handled
    rw [refinesEvent_iff handled, handleRegularTransition_refines_iff step moves isPlan,
      branchDependency_eq_none_iff]
    constructor
    · rintro ⟨branch, intake, implementation, answer, rework⟩
      exact ⟨executable, dependencies, configuration, branch, intake, implementation,
        fun is => absurd is isPlan, answer, rework⟩
    · intro admitted
      exact ⟨admitted.branch, admitted.intake, admitted.implementation, admitted.answer,
        admitted.rework⟩

end Step

/-- An applied sync refines the event it was translated to, and no sync enters or leaves a terminal
status. -/
structure SyncRefines (env : EventEnv) (args : SyncStatusArgs) (row : SyncedTask)
    (result : Except SyncError SyncAnswer × Option SyncedTask) : Prop where
  refines : SyncApplied result → ∃ event synced,
    resolveSyncEvent row.task.status args.newStatus row.task.blockedFromStatus = some event ∧
      result.2 = some synced ∧ RefinesEvent env args event row.task synced.task
  terminal : ∀ synced, result.2 = some synced → ∀ status, isTerminalStatus status = true →
    (synced.task.status = status ↔ row.task.status = status)

/-- A sync refines the workflow of the API exactly when, if it is applied at all, the API would admit
the event it was translated to. -/
theorem sync_refines_iff (env : EventEnv) (withinRate : Bool) (now : Nat) (args : SyncStatusArgs)
    (row : SyncedTask) :
    SyncRefines env args row (handoffSyncStatus withinRate now args (some row)) ↔
      (SyncApplied (handoffSyncStatus withinRate now args (some row)) →
        ∀ event, resolveSyncEvent row.task.status args.newStatus row.task.blockedFromStatus =
          some event → AdmittedByApi env args event row.task) := by
  rcases handoffSyncStatus_cases withinRate now args row with
    ⟨unapplied, kept⟩ | ⟨event, patch, resolution, accepted, written⟩
  · refine iff_of_true ⟨fun applied => absurd applied unapplied, fun synced stored => ?_⟩
      fun applied => absurd applied unapplied
    rw [kept] at stored
    cases stored
    exact fun _ _ => Iff.rfl
  obtain ⟨open_, openTarget, moves, _, resolved, step⟩ := decideSync_cases accepted
  constructor
  · intro whole applied other isOther
    obtain ⟨event', synced, resolved', stored, refines⟩ := whole.refines applied
    rw [written] at stored
    cases stored
    rw [resolved'] at isOther
    cases isOther
    rw [resolved] at resolved'
    cases resolved'
    exact (decided_refines_iff step moves now).mp refines
  · intro admitted
    constructor
    · intro applied
      exact ⟨event, _, resolved, written,
        (decided_refines_iff step moves now).mpr (admitted applied event resolved)⟩
    · intro synced stored status terminal
      rw [written] at stored
      cases stored
      rw [(applySync_written step.clears now).1]
      refine iff_of_false ?_ ?_
      · rintro rfl
        rw [openTarget] at terminal
        cases terminal
      · rintro rfl
        rw [open_] at terminal
        cases terminal

/-- A task in the backlog, without a plan file. -/
def plannedTask : SyncedTask := { task := { id := "task", projectId := "project", updatedAt := 5 } }

/-- A request to take the task for planned. -/
def planReadySync : SyncStatusArgs where
  taskId := "task"
  newStatus := .planReady
  sourceTimestamp := some 9
  direction := .aifToHandoff

/-- The sync accepts a plan that is not there; the API asks for its file. -/
theorem sync_accepts_missing_plan :
    ¬SyncRefines { now := 10 } planReadySync plannedTask
      (handoffSyncStatus true 10 planReadySync (some plannedTask)) := by
  intro whole
  have applied : SyncApplied (handoffSyncStatus true 10 planReadySync (some plannedTask)) :=
    ⟨_, rfl, rfl⟩
  obtain ⟨event, synced, resolved, _, refines⟩ := whole.refines applied
  have isEvent : resolveSyncEvent plannedTask.task.status planReadySync.newStatus
      plannedTask.task.blockedFromStatus = some .acceptExistingPlan := by decide
  rw [isEvent] at resolved
  cases resolved
  have fails : (handleTaskEvent { now := 10 } { event := .acceptExistingPlan }
      plannedTask.task).1.isOk = false := by decide
  rw [refines.succeeds] at fails
  cases fails

end AifHandoff.Mcp
