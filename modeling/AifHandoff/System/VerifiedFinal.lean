import AifHandoff.System.ResumeTarget

/-!
Verified is final, over the life of a task.

Human events with whatever answers of the world, the watchdog, promotions and the container rollup
meet a verified task. Two of them move it on: the configuration guard, which writes the row before
the transition table is asked, and a manual exception to a task still flagged for manual review.
-/

namespace AifHandoff.System

open Data Agent Api Transition

section Events

variable {env : EventEnv} {input : EventHandlerInput} {task : TaskRow}

theorem applyHumanTaskEvent_verified (event : StateMachine.TaskEvent)
    (options : StateMachine.TaskTransitionOptions) (verified : task.status = .verified) :
    ∃ error, StateMachine.applyHumanTaskEvent task event options = .error error := by
  unfold StateMachine.applyHumanTaskEvent
  rw [verified]
  cases event
  case requestRequirementsReanalysis =>
    cases options.requirementsIntakeEnabled <;> exact ⟨_, rfl⟩
  all_goals exact ⟨_, rfl⟩

/-- `manual_exception` passes its own checks. -/
def manualExceptionApplies (env : EventEnv) (input : EventHandlerInput) (task : TaskRow) : Bool :=
  !(Text.trim input.manualExceptionJustification).isEmpty && env.auditArtifact.isSome &&
    (task.status = .blockedExternal || task.manualReviewRequired)

/-- When an event leaves a verified task verified. -/
theorem verified_event_iff (verified : task.status = .verified) :
    (handleTaskEvent env input task).2.status = .verified ↔
      if input.event = .manualException then manualExceptionApplies env input task = false
      else configGovernanceBlocks env task input.event = false := by
  split
  next event =>
    unfold handleTaskEvent handleManualException manualExceptionApplies
    rw [if_pos event]
    simp only [verified]
    split_ifs with empty missing unflagged
    · simp [verified, empty]
    · simp [verified, missing]
    · simp_all
    · simp_all [appendTaskActivityLog]
  next notException =>
    obtain ⟨error, rejected⟩ := applyHumanTaskEvent_verified input.event
      (transitionOptions env task input.event) verified
    cases blocks : configGovernanceBlocks env task input.event with
    | false =>
      obtain ⟨-, kept⟩ := handleTaskEvent_rejected notException rejected blocks
      rw [kept]
      exact iff_of_true verified rfl
    | true =>
      rw [handleTaskEvent_configBlocked notException blocks]
      exact iff_of_false (by simp) (by simp)

end Events

/-- The steps that leave a verified task verified. -/
def LeavesVerified (row : TaskRow) : TaskOp → Prop
  | .event env input =>
    if input.event = .manualException then manualExceptionApplies env input row = false
    else configGovernanceBlocks env row input.event = false
  | .releaseDueBlocked _ | .recoverStale _ _ | .promoteToContainer _ | .refreshRollup _ _ _ => True

theorem verified_exec_iff {row : TaskRow} (verified : row.status = .verified) (op : TaskOp) :
    (exec row op).status = .verified ↔ LeavesVerified row op := by
  cases op with
  | event env input => exact verified_event_iff verified
  | releaseDueBlocked now =>
    have notDue : isDueBlockedExternal now row = false := by simp [isDueBlockedExternal, verified]
    rw [exec, releaseDueBlockedTask_of_not_due notDue]
    exact iff_of_true verified trivial
  | recoverStale env now =>
    rcases recoverStaleInProgressTask_cases env now row with same | ⟨-, -, running⟩
    · rw [exec, same]
      exact iff_of_true verified trivial
    · rw [verified] at running
      exact absurd running (by decide)
  | promoteToContainer now =>
    refine iff_of_true ?_ trivial
    rw [exec, promoteParentToContainer]
    split <;> exact verified
  | refreshRollup view children now =>
    refine iff_of_true ?_ trivial
    rw [exec, refreshParentRollup, if_pos (by simp [verified])]
    exact verified

/-- **Verified is final** in exactly the runs in which no event meets a blocker of the configuration
and no manual exception applies. -/
theorem verified_final_iff {row : TaskRow} (verified : row.status = .verified)
    (ops : List TaskOp) : Along (fun row op => (exec row op).status = .verified) exec row ops ↔
      Along LeavesVerified exec row ops := by
  induction ops generalizing row with
  | nil => exact Iff.rfl
  | cons op ops ih =>
    exact (and_congr_right fun kept => ih kept).trans
      (and_congr_left' (verified_exec_iff verified op))

/-- A verified task that is cancelled, found by the watchdog and asked to start stays verified. -/
theorem verified_final_cancelled :
    Along (fun row op => (exec row op).status = .verified) exec verifiedTask
      [.event { now := 1 } { event := .cancelTask }, .releaseDueBlocked 2, .recoverStale {} 3,
        .event { now := 4 } { event := .startAi }] :=
  (verified_final_iff rfl _).mpr
    ⟨by unfold LeavesVerified; decide, trivial, trivial, by unfold LeavesVerified; decide, trivial⟩

end AifHandoff.System
