import AifHandoff.Data.TaskFields

/-!
The task watchdog (`packages/agent/src/taskWatchdog.ts`).

Both loops list their candidates and then write one row after the other, each on
its own; a row that the query does not list is left as it is. The activity log
is flushed later, in a write of its own.
-/

namespace AifHandoff.Agent

open AifHandoff.Data

/-- The settings of the environment, before the code bounds them. -/
structure WatchdogEnv where
  agentStageStaleTimeoutMs : Nat := 90 * 60 * 1000
  agentStageStaleMaxRetry : Nat := 3

def staleTimeoutMs (env : WatchdogEnv) : Nat := max env.agentStageStaleTimeoutMs 60000

def staleMaxRetry (env : WatchdogEnv) : Nat := max env.agentStageStaleMaxRetry 1

def getDeterministicBackoffMinutes (retryCount : Nat) : Nat :=
  let sequence := [5, 10, 15, 30, 60]
  sequence.getD (min retryCount (sequence.length - 1)) 60

/-- A row of `listDueBlockedExternalTasks`. -/
def isDueBlockedExternal (now : Nat) (task : TaskRow) : Bool :=
  task.status = .blockedExternal && task.hierarchyRole ≠ .container && !task.paused &&
    task.retryAfter.any (· ≤ now) && task.blockedFromStatus.isSome

/-- A row of `listStaleInProgressTasks`: in progress and not locked by a live claim. -/
def isInProgressUnlocked (now : Nat) (task : TaskRow) : Bool :=
  task.status ∈ inProgressStatuses && task.hierarchyRole ≠ .container && !task.paused &&
    (task.lockedBy.isNone || task.lockedUntil.any (· ≤ now))

/-- The release of one row by `releaseDueBlockedTasks`. -/
def releaseDueBlockedTask (now : Nat) (task : TaskRow) : TaskRow :=
  if isDueBlockedExternal now task then
    match task.blockedFromStatus with
    | none => task
    | some restoreTo => setTaskFields task {
        status := some restoreTo
        blockedReason := some none
        blockedFromStatus := some none
        retryAfter := some none
        retryCount := some task.retryCount
        paused := some false
        manualReviewRequired := some false
        lastHeartbeatAt := some (some now)
        updatedAt := some now }
  else task

/-- The later of the heartbeat and the last update. -/
def staleReferenceMs (task : TaskRow) : Nat :=
  match task.lastHeartbeatAt with
  | some heartbeat => max heartbeat task.updatedAt
  | none => task.updatedAt

def isStale (env : WatchdogEnv) (now : Nat) (task : TaskRow) : Bool :=
  staleReferenceMs task + staleTimeoutMs env ≤ now

/-- The recovery of one row by `recoverStaleInProgressTasks`. -/
def recoverStaleInProgressTask (env : WatchdogEnv) (now : Nat) (task : TaskRow) : TaskRow :=
  if isInProgressUnlocked now task && isStale env now task then
    let resumeStatus := task.status
    let ageMinutes := (now - staleReferenceMs task) / 60000
    let reasonBase :=
      "Watchdog: task stale in " ++ task.status.text ++ " for " ++ toString ageMinutes ++ "m"
    if staleMaxRetry env ≤ task.retryCount then
      setTaskFields task {
        status := some .blockedExternal
        blockedReason := some (some
          (reasonBase ++ "; auto-retry limit reached (" ++ toString (staleMaxRetry env) ++ ")"))
        blockedFromStatus := some (some resumeStatus)
        retryAfter := some none
        lastHeartbeatAt := some (some now)
        updatedAt := some now }
    else
      setTaskFields task {
        status := some .blockedExternal
        blockedReason := some (some (reasonBase ++ "; auto-recover scheduled"))
        blockedFromStatus := some (some resumeStatus)
        retryAfter := some (some
          (now + getDeterministicBackoffMinutes task.retryCount * 60000))
        retryCount := some (task.retryCount + 1)
        lastHeartbeatAt := some (some now)
        updatedAt := some now }
  else task

section Columns

variable {env : WatchdogEnv} {now : Nat} {task : TaskRow}

theorem releaseDueBlockedTask_status {restoreTo : TaskStatus}
    (due : isDueBlockedExternal now task = true) (from? : task.blockedFromStatus = some restoreTo) :
    (releaseDueBlockedTask now task).status = restoreTo ∧
      (releaseDueBlockedTask now task).blockedFromStatus = none := by
  unfold releaseDueBlockedTask
  rw [if_pos due, from?]
  simp

theorem releaseDueBlockedTask_of_not_due (notDue : isDueBlockedExternal now task = false) :
    releaseDueBlockedTask now task = task := by
  unfold releaseDueBlockedTask
  rw [if_neg (by simp [notDue])]

/-- A recovery leaves the row alone or blocks it, from an in-progress status that
becomes the resume target. -/
theorem recoverStaleInProgressTask_cases (env : WatchdogEnv) (now : Nat) (task : TaskRow) :
    recoverStaleInProgressTask env now task = task ∨
    ((recoverStaleInProgressTask env now task).status = .blockedExternal ∧
      (recoverStaleInProgressTask env now task).blockedFromStatus = some task.status ∧
      task.status ∈ inProgressStatuses) := by
  unfold recoverStaleInProgressTask
  by_cases listed : (isInProgressUnlocked now task && isStale env now task) = true
  · right
    rw [if_pos listed]
    have running : task.status ∈ inProgressStatuses := by
      simp only [isInProgressUnlocked, Bool.and_eq_true, decide_eq_true_eq] at listed
      exact listed.1.1.1.1
    simp only []
    split <;> exact ⟨by simp, by simp, running⟩
  · left
    rw [if_neg listed]

end Columns

end AifHandoff.Agent
