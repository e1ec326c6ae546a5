import AifHandoff.Shared.StateMachine
import AifHandoff.Data.TaskFields

/-!
The status sync of the MCP server (`packages/mcp/src/tools/syncStatus.ts`).

A sync names a status and the time at which its source took it. It is decided on the row as it was
read (`decideSync`); an accepted sync then writes the patch of the event it was translated to, the
time of the sync and, where it is given, the paused flag, each by an update of its own.

Times are instants in milliseconds; a text that names no instant is `none`.
-/

namespace AifHandoff.Mcp

open Text Data StateMachine

/-! ### Conflicts -/

inductive ConflictWinner where
  | source | target
deriving DecidableEq, Repr

/-- `ConflictResolution` of the field `status`. -/
structure ConflictResolution where
  applied : Bool
  conflict : Bool
  winner : ConflictWinner
  sourceTimestamp : Option Int
  targetTimestamp : Nat
deriving DecidableEq, Repr

def resolveConflict (sourceTimestamp : Option Int) (targetTimestamp : Nat) : ConflictResolution :=
  let lost : ConflictResolution :=
    { applied := false, conflict := true, winner := .target, sourceTimestamp, targetTimestamp }
  match sourceTimestamp with
  | none => lost
  | some sourceTime =>
    if sourceTime ≤ 0 then lost
    else if (targetTimestamp : Int) ≤ sourceTime then
      { applied := true, conflict := false, winner := .source, sourceTimestamp, targetTimestamp }
    else lost

theorem resolveConflict_eq_false {sourceTimestamp : Option Int} {targetTimestamp : Nat}
    (wins : (resolveConflict sourceTimestamp targetTimestamp).conflict = false) :
    ∃ sourceTime, sourceTimestamp = some sourceTime ∧ (targetTimestamp : Int) ≤ sourceTime := by
  unfold resolveConflict at wins
  cases sourceTimestamp with
  | none => cases wins
  | some sourceTime =>
    refine ⟨sourceTime, rfl, ?_⟩
    dsimp only at wins
    split at wins
    · cases wins
    split at wins
    · assumption
    · cases wins

/-! ### Requests and answers -/

inductive SyncDirection where
  | aifToHandoff | handoffToAif
deriving DecidableEq, Repr

structure SyncStatusArgs where
  taskId : TaskId
  newStatus : TaskStatus
  sourceTimestamp : Option Int
  direction : SyncDirection
  paused : Option Bool := none
deriving DecidableEq, Repr

/-- A stored task with the time of its last sync. -/
structure SyncedTask where
  task : TaskRow
  lastSyncedAt : Option Nat := none
deriving DecidableEq, Repr

structure SyncAnswer where
  applied : Bool
  conflict : Bool
  reason : Option String := none
  conflictResolution : Option ConflictResolution := none
  task : TaskRow
  lastSyncedAt : Option Nat
deriving DecidableEq, Repr

/-- The errors of a request, by their text and the fields they name. -/
inductive SyncError where
  | rateLimited
  | validation (message : String) (fieldErrors : List (String × List String))
deriving DecidableEq, Repr

def SyncError.message : SyncError → String
  | .rateLimited =>
    "Rate limit exceeded for tool: handoff_sync_status. Please wait before retrying."
  | .validation message _ => message

def taskNotFound (taskId : TaskId) : SyncError :=
  .validation ("Task not found: " ++ taskId) [("taskId", ["Task does not exist"])]

def invalidSourceTimestamp : SyncError :=
  .validation "Invalid sourceTimestamp"
    [("sourceTimestamp", ["Expected a valid ISO-8601 timestamp after the Unix epoch"])]

def isTerminalStatus (status : TaskStatus) : Bool := status = .done || status = .verified

/-! ### The decision -/

def resolveSyncEvent (currentStatus requestedStatus : TaskStatus)
    (blockedFromStatus : Option TaskStatus) : Option TaskEvent :=
  if currentStatus = .backlog && requestedStatus = .planning then some .startAi
  else if currentStatus = .backlog && requestedStatus = .planReady then some .acceptExistingPlan
  else if currentStatus = .planReady && requestedStatus = .implementing then
    some .startImplementation
  else if currentStatus = .planReady && requestedStatus = .planning then some .requestReplanning
  else if currentStatus = .blockedExternal && blockedFromStatus = some requestedStatus then
    some .retryFromBlocked
  else none

/-- What a sync does after its checks. -/
inductive SyncDecision where
  | refused (answer : SyncAnswer)
  | accepted (event : TaskEvent) (patch : TaskFieldsPatch) (resolution : ConflictResolution)

/-- The answer that leaves the task as it is. -/
def unapplied (row : SyncedTask) (conflict : Bool) (reason : Option String)
    (conflictResolution : Option ConflictResolution) : SyncDecision :=
  .refused { applied := false, conflict, reason, conflictResolution, task := row.task
             lastSyncedAt := row.lastSyncedAt }

/-- The checks on the row that was read. -/
def decideSync (args : SyncStatusArgs) (row : SyncedTask) : SyncDecision :=
  let status := row.task.status
  if isTerminalStatus status then
    unapplied row false (some ("Task is in terminal status '" ++ status.text ++
      "'. Use human events (request_changes, approve_done) to transition.")) none
  else if isTerminalStatus args.newStatus then
    unapplied row false (some ("Sync cannot set terminal status '" ++ args.newStatus.text ++
      "'. Use workflow review/completion events instead.")) none
  else if status = args.newStatus then unapplied row false none none
  else match resolveSyncEvent status args.newStatus row.task.blockedFromStatus with
    | none => unapplied row false (some ("Unsupported sync transition '" ++ status.text ++
        "' -> '" ++ args.newStatus.text ++ "'.")) none
    | some event =>
      let resolution := resolveConflict args.sourceTimestamp row.task.updatedAt
      if resolution.conflict then unapplied row true none (some resolution)
      else match applyHumanTaskEvent row.task event with
        | .error error => unapplied row false (some error) none
        | .ok patch => .accepted event patch resolution

def assertValidSourceTimestamp (sourceTimestamp : Option Int) : Bool := sourceTimestamp.any (0 < ·)

/-! ### The writes -/

/-- `touchLastSyncedAt`. -/
def touchLastSyncedAt (now : Nat) (row : SyncedTask) : SyncedTask where
  task := setTaskFields row.task {}
  lastSyncedAt := some now

def SyncedTask.setTaskFields (row : SyncedTask) (patch : TaskFieldsPatch) : SyncedTask :=
  { row with task := Data.setTaskFields row.task patch }

/-- The updates of an accepted sync that no other writer comes between. -/
def applySync (args : SyncStatusArgs) (now : Nat) (patch : TaskFieldsPatch) (row : SyncedTask) :
    SyncedTask :=
  let row := touchLastSyncedAt now (row.setTaskFields patch)
  match args.paused with
  | some paused => row.setTaskFields { paused := some paused }
  | none => row

/-- `handoff_sync_status` on the stored task, if there is one. -/
def handoffSyncStatus (withinRate : Bool) (now : Nat) (args : SyncStatusArgs)
    (stored : Option SyncedTask) : Except SyncError SyncAnswer × Option SyncedTask :=
  if !withinRate then (.error .rateLimited, stored)
  else match stored with
    | none => (.error (taskNotFound args.taskId), none)
    | some row =>
      if !assertValidSourceTimestamp args.sourceTimestamp then
        (.error invalidSourceTimestamp, some row)
      else match decideSync args row with
        | .refused answer => (.ok answer, some row)
        | .accepted _ patch resolution =>
          let updatedRow := applySync args now patch row
          (.ok { applied := true, conflict := false, conflictResolution := some resolution
                 task := updatedRow.task, lastSyncedAt := updatedRow.lastSyncedAt },
            some updatedRow)

/-- The sync was applied. -/
def SyncApplied (result : Except SyncError SyncAnswer × Option SyncedTask) : Prop :=
  ∃ answer, result.1 = .ok answer ∧ answer.applied = true

/-! ### What an accepted sync has passed -/

section Decision

variable {args : SyncStatusArgs} {row : SyncedTask} {event : TaskEvent} {patch : TaskFieldsPatch}
  {resolution : ConflictResolution}

/-- The events a sync is translated to, each with its statuses. -/
inductive SyncStep (task : TaskRow) : TaskStatus → TaskEvent → TaskFieldsPatch → Prop where
  | startAi : task.status = .backlog →
      SyncStep task .planning .startAi { cleanStateReset with status := some .planning }
  | acceptExistingPlan : task.status = .backlog →
      SyncStep task .planReady .acceptExistingPlan
        { cleanStateReset with status := some .planReady }
  | startImplementation : task.status = .planReady → task.autoMode = false →
      SyncStep task .implementing .startImplementation
        { cleanStateReset with status := some .implementing }
  | requestReplanning : task.status = .planReady →
      SyncStep task .planning .requestReplanning { cleanStateReset with status := some .planning }
  | retryFromBlocked (resume : TaskStatus) : task.status = .blockedExternal →
      task.blockedFromStatus = some resume → refusesManualReviewRetry task {} = false →
      SyncStep task resume .retryFromBlocked
        { cleanStateReset with
          status := some resume
          reworkRequested := some task.reworkRequested }

theorem decideSync_cases (accepted : decideSync args row = .accepted event patch resolution) :
    isTerminalStatus row.task.status = false ∧ isTerminalStatus args.newStatus = false ∧
      row.task.status ≠ args.newStatus ∧
      (resolveConflict args.sourceTimestamp row.task.updatedAt).conflict = false ∧
      resolveSyncEvent row.task.status args.newStatus row.task.blockedFromStatus = some event ∧
      SyncStep row.task args.newStatus event patch := by
  unfold decideSync at accepted
  dsimp only at accepted
  split at accepted
  · cases accepted
  rename_i open_
  split at accepted
  · cases accepted
  rename_i openTarget
  split at accepted
  · cases accepted
  rename_i other
  split at accepted
  · cases accepted
  rename_i resolved isEvent
  split at accepted
  · cases accepted
  rename_i wins
  split at accepted
  · cases accepted
  rename_i written table
  cases accepted
  refine ⟨by simpa using open_, by simpa using openTarget, other, by simpa using wins, isEvent, ?_⟩
  unfold resolveSyncEvent at isEvent
  split_ifs at isEvent with start accept implement replan retry
  all_goals cases isEvent
  · simp only [Bool.and_eq_true, decide_eq_true_eq] at start
    simp only [applyHumanTaskEvent, start.1] at table
    cases table
    rw [start.2]
    exact .startAi start.1
  · simp only [Bool.and_eq_true, decide_eq_true_eq] at accept
    simp only [applyHumanTaskEvent, accept.1] at table
    cases table
    rw [accept.2]
    exact .acceptExistingPlan accept.1
  · simp only [Bool.and_eq_true, decide_eq_true_eq] at implement
    cases auto : row.task.autoMode with
    | true =>
      simp only [applyHumanTaskEvent, implement.1, auto] at table
      cases table
    | false =>
      simp only [applyHumanTaskEvent, implement.1, auto] at table
      cases table
      rw [implement.2]
      exact .startImplementation implement.1 auto
  · simp only [Bool.and_eq_true, decide_eq_true_eq] at replan
    simp only [applyHumanTaskEvent, replan.1] at table
    cases table
    rw [replan.2]
    exact .requestReplanning replan.1
  · simp only [Bool.and_eq_true, decide_eq_true_eq] at retry
    obtain ⟨resume, blocked, from?, allowed, rfl⟩ := retry_accepted_iff.mp table
    rw [retry.2] at from?
    cases from?
    exact .retryFromBlocked _ blocked retry.2 allowed

theorem decideSync_refused {answer : SyncAnswer} (refused : decideSync args row = .refused answer) :
    answer.applied = false := by
  unfold decideSync unapplied at refused
  dsimp only at refused
  split at refused
  · cases refused
    rfl
  split at refused
  · cases refused
    rfl
  split at refused
  · cases refused
    rfl
  split at refused
  · cases refused
    rfl
  split at refused
  · cases refused
    rfl
  split at refused
  · cases refused
    rfl
  · cases refused

/-- A sync either leaves the task or is accepted, and then applied. -/
theorem handoffSyncStatus_cases (withinRate : Bool) (now : Nat) (args : SyncStatusArgs)
    (row : SyncedTask) :
    (¬SyncApplied (handoffSyncStatus withinRate now args (some row)) ∧
        (handoffSyncStatus withinRate now args (some row)).2 = some row) ∨
      ∃ event patch resolution, decideSync args row = .accepted event patch resolution ∧
        (handoffSyncStatus withinRate now args (some row)).2 =
          some (applySync args now patch row) := by
  unfold handoffSyncStatus
  dsimp only
  split
  · refine .inl ⟨?_, rfl⟩
    rintro ⟨answer, ended, _⟩
    cases ended
  split
  · refine .inl ⟨?_, rfl⟩
    rintro ⟨answer, ended, _⟩
    cases ended
  cases decided : decideSync args row with
  | refused answer =>
    refine .inl ⟨?_, rfl⟩
    rintro ⟨answer', ended, applied⟩
    cases ended
    rw [decideSync_refused decided] at applied
    cases applied
  | accepted event patch resolution => exact .inr ⟨event, patch, resolution, rfl, rfl⟩

end Decision

end AifHandoff.Mcp
