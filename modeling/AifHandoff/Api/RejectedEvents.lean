import AifHandoff.Api.EventEffects

/-!
Rejected events and the configuration guard.

The transition table decides whether an event is allowed, but `handleTaskEvent`
consults it last: the configuration guard runs first and writes the row it
refuses. So an event the table rejects is inert exactly when that guard does not
fire, or when it rewrites the block that is already there.
-/

namespace AifHandoff.Api

open AifHandoff.Text AifHandoff.Data AifHandoff.StateMachine

/-- The event was refused and the block of the row is exactly as it was. -/
structure Inert (task : TaskRow) (answer : EventHandlerResult × TaskRow) : Prop where
  refused : answer.1.isOk = false
  status : answer.2.status = task.status
  blockedReason : answer.2.blockedReason = task.blockedReason
  blockedFromStatus : answer.2.blockedFromStatus = task.blockedFromStatus
  retryAfter : answer.2.retryAfter = task.retryAfter
  paused : answer.2.paused = task.paused

/-- The row already carries the block the configuration guard is about to write. -/
def alreadyConfigBlocked (env : EventEnv) (task : TaskRow) (event : TaskEvent) : Bool :=
  task.status = .blockedExternal && task.blockedFromStatus = some .blockedExternal &&
    task.blockedReason = some (configGovernanceMessage (configGovernanceBlockers env event)) &&
    task.retryAfter.isNone

section Rejected

variable {env : EventEnv} {input : EventHandlerInput} {task : TaskRow} {error : String}

theorem refusesRuntimeStart_refused {event : TaskEvent} {answer : EventHandlerResult}
    (refused : refusesRuntimeStart env task event = some answer) : answer.isOk = false := by
  unfold refusesRuntimeStart at refused
  split_ifs at refused <;> cases refused <;> rfl

theorem handleFastFix_rejected (event : input.event = .fastFix)
    (rejected : applyHumanTaskEvent task input.event (transitionOptions env task input.event) =
      .error error) :
    (handleFastFix env task).1.isOk = false ∧ (handleFastFix env task).2 = task := by
  have notReady : task.status ≠ .planReady := by
    intro ready
    simp [event, applyHumanTaskEvent, ready] at rejected
  unfold handleFastFix
  rw [if_pos notReady]
  exact ⟨rfl, rfl⟩

theorem handleAcceptExistingPlan_rejected (event : input.event = .acceptExistingPlan)
    (rejected : applyHumanTaskEvent task input.event (transitionOptions env task input.event) =
      .error error) :
    (handleAcceptExistingPlan env task).1.isOk = false ∧
      (handleAcceptExistingPlan env task).2 = task := by
  have notBacklog : task.status ≠ .backlog := by
    intro backlog
    simp [event, applyHumanTaskEvent, backlog] at rejected
  unfold handleAcceptExistingPlan
  rw [if_pos notBacklog]
  exact ⟨rfl, rfl⟩

theorem handleRegularTransition_rejected
    (rejected : applyHumanTaskEvent task input.event (transitionOptions env task input.event) =
      .error error) :
    (handleRegularTransition env input task).1.isOk = false ∧
      (handleRegularTransition env input task).2 = task := by
  unfold handleRegularTransition
  simp only [rejected]
  split
  · exact ⟨rfl, rfl⟩
  split
  · exact ⟨rfl, rfl⟩
  · exact ⟨rfl, rfl⟩

theorem handleTaskEvent_rejected (notException : input.event ≠ .manualException)
    (rejected : applyHumanTaskEvent task input.event (transitionOptions env task input.event) =
      .error error)
    (unblocked : configGovernanceBlocks env task input.event = false) :
    (handleTaskEvent env input task).1.isOk = false ∧ (handleTaskEvent env input task).2 = task := by
  unfold handleTaskEvent
  rw [if_neg notException]
  cases guard : refusesRuntimeStart env task input.event with
  | some answer => exact ⟨refusesRuntimeStart_refused guard, rfl⟩
  | none =>
    have noBlockers : checkConfigGovernanceBlocker env task input.event = none := by
      rw [checkConfigGovernanceBlocker_eq_none]
      simpa [configGovernanceBlocks, guard] using unblocked
    simp only [noBlockers]
    split
    · rename_i event
      exact handleFastFix_rejected event rejected
    · rename_i event
      exact handleAcceptExistingPlan_rejected event rejected
    · exact handleRegularTransition_rejected rejected

theorem handleTaskEvent_configBlocked (notException : input.event ≠ .manualException)
    (blocks : configGovernanceBlocks env task input.event = true) :
    let message := configGovernanceMessage (configGovernanceBlockers env input.event)
    handleTaskEvent env input task = (.failed 409 message,
      { task with
        status := .blockedExternal
        blockedFromStatus := some task.status
        blockedReason := some message
        retryAfter := none
        lastHeartbeatAt := some env.now
        updatedAt := env.now }) := by
  intro message
  obtain ⟨passes, found⟩ : refusesRuntimeStart env task input.event = none ∧
      (configGovernanceBlockers env input.event).isEmpty = false := by
    simpa [configGovernanceBlocks] using blocks
  have noHold : isOperatorInputRequiredReason (some message) = false :=
    isOperatorInputRequiredReason_append (by decide) (by decide)
  unfold handleTaskEvent
  rw [if_neg notException, passes]
  simp only [checkConfigGovernanceBlocker, found, Bool.false_eq_true, ↓reduceIte]
  rw [setTaskFields_logged rfl noHold]
  rfl

/-- **A rejected event is inert exactly when the configuration guard does not
write**: it does not fire, or the row already carries its block. A verified task
stays verified exactly when it does not fire. -/
theorem rejected_inert_iff (env : EventEnv) (input : EventHandlerInput) (task : TaskRow)
    {error : String} (notException : input.event ≠ .manualException)
    (rejected : applyHumanTaskEvent task input.event (transitionOptions env task input.event) =
      .error error) :
    (Inert task (handleTaskEvent env input task) ↔
      (configGovernanceBlocks env task input.event = true →
        alreadyConfigBlocked env task input.event = true)) ∧
    (task.status = .verified →
      ((handleTaskEvent env input task).2.status = .verified ↔
        configGovernanceBlocks env task input.event = false)) := by
  cases blocks : configGovernanceBlocks env task input.event with
  | false =>
    obtain ⟨refused, kept⟩ := handleTaskEvent_rejected notException rejected blocks
    constructor
    · constructor
      · intro _ absurd
        cases absurd
      · intro _
        exact ⟨refused, by rw [kept], by rw [kept], by rw [kept], by rw [kept], by rw [kept]⟩
    · intro verified
      rw [kept]
      exact ⟨fun _ => rfl, fun _ => verified⟩
  | true =>
    have written := handleTaskEvent_configBlocked notException blocks
    constructor
    · rw [written]
      constructor
      · intro inert _
        have status := inert.status
        have reason := inert.blockedReason
        have from? := inert.blockedFromStatus
        have retry := inert.retryAfter
        simp only at status reason from? retry
        simp [alreadyConfigBlocked, ← status, ← reason, ← retry, ← from?]
      · intro already
        obtain ⟨⟨⟨status, from?⟩, reason⟩, retry⟩ : ((task.status = .blockedExternal ∧
            task.blockedFromStatus = some .blockedExternal) ∧ task.blockedReason =
            some (configGovernanceMessage (configGovernanceBlockers env input.event))) ∧
            task.retryAfter = none := by
          simpa [alreadyConfigBlocked] using already rfl
        exact ⟨rfl, status.symm, reason.symm, by rw [from?, ← status], retry.symm, rfl⟩
    · intro _
      rw [written]
      simp

end Rejected

/-- A verified task. -/
def verifiedTask : TaskRow := { id := "task", projectId := "project", status := .verified }

/-- A project whose configuration file does not parse. -/
def unparsableConfig : EventEnv :=
  { now := 5, configWorkBlockers := some [.projectConfigParseFailed] }

/-- The table rejects `start_ai` on a verified task; the configuration guard moves
the task out of verified all the same. -/
theorem verified_startAi_not_inert :
    applyHumanTaskEvent verifiedTask .startAi (transitionOptions unparsableConfig verifiedTask .startAi) =
      .error "start_ai is only allowed from backlog" ∧
    (handleTaskEvent unparsableConfig { event := .startAi } verifiedTask).2.status =
      .blockedExternal ∧
    ¬ Inert verifiedTask (handleTaskEvent unparsableConfig { event := .startAi } verifiedTask) := by
  have moved : (handleTaskEvent unparsableConfig { event := .startAi } verifiedTask).2.status =
      .blockedExternal := by decide
  refine ⟨rfl, moved, fun inert => ?_⟩
  have status := inert.status
  rw [moved] at status
  cases status

/-- The equivalence at `start_ai` on a verified task, with a sound configuration
and with one that does not parse. -/
theorem rejected_inert_iff_startAi :
    Inert verifiedTask (handleTaskEvent { now := 5 } { event := .startAi } verifiedTask) ∧
    ¬ Inert verifiedTask (handleTaskEvent unparsableConfig { event := .startAi } verifiedTask) := by
  constructor
  · refine (rejected_inert_iff { now := 5 } { event := .startAi } verifiedTask (by decide)
      rfl).1.mpr fun blocks => ?_
    revert blocks
    decide
  · intro inert
    have already := (rejected_inert_iff unparsableConfig { event := .startAi } verifiedTask
      (by decide) rfl).1.mp inert (by decide)
    revert already
    decide

end AifHandoff.Api
