import AifHandoff.Lib.Transition
import AifHandoff.Mcp.SyncStatus

/-!
Status syncs of one task, with no other writer between them
(`packages/mcp/src/tools/syncStatus.ts`).

A sync follows the task forward: out of a block, from the backlog into planning, from a plan into
the implementation. No way leads back, so a run of syncs comes to rest.
-/

namespace AifHandoff.Mcp

open Transition Data StateMachine

/-- How many syncs can still change a task in the status. -/
def syncRank : TaskStatus → Nat
  | .blockedExternal => 3
  | .backlog => 2
  | .planReady => 1
  | _ => 0

/-- A call of the tool: whether it is within the rate, when it comes, and its arguments. -/
structure SyncCall where
  withinRate : Bool
  now : Nat
  args : SyncStatusArgs

/-- The stored task behind a call. -/
def afterCall (row : SyncedTask) (call : SyncCall) : SyncedTask :=
  ((handoffSyncStatus call.withinRate call.now call.args (some row)).2).getD row

section Calls

variable {row : SyncedTask} {event : TaskEvent} {patch : TaskFieldsPatch}

theorem status_applySync (args : SyncStatusArgs) (now : Nat) {target : TaskStatus}
    (step : SyncStep row.task target event patch) :
    (applySync args now patch row).task.status = target := by
  have written : patch.status = some target := by cases step <;> rfl
  unfold applySync SyncedTask.setTaskFields touchLastSyncedAt
  cases args.paused <;> simp [written]

theorem syncRank_of_step {target : TaskStatus} (step : SyncStep row.task target event patch)
    (other : row.task.status ≠ target) : syncRank target < syncRank row.task.status := by
  cases step with
  | startAi status | acceptExistingPlan status => rw [status]; decide
  | startImplementation status | requestReplanning status => rw [status]; decide
  | retryFromBlocked resume status =>
    rw [status] at other ⊢
    revert other
    cases target <;> decide

/-- A call leaves the stored task as it is or takes it down in the ranks, between open statuses. -/
theorem afterCall_cases (row : SyncedTask) (call : SyncCall) :
    afterCall row call = row ∨
      syncRank (afterCall row call).task.status < syncRank row.task.status ∧
        isTerminalStatus row.task.status = false ∧
        isTerminalStatus (afterCall row call).task.status = false := by
  unfold afterCall
  rcases handoffSyncStatus_cases call.withinRate call.now call.args row with
    ⟨-, same⟩ | ⟨event, patch, resolution, decided, written⟩
  · exact .inl (by rw [same, Option.getD_some])
  · obtain ⟨open_, openTarget, other, -, -, step⟩ := decideSync_cases decided
    rw [written, Option.getD_some, status_applySync call.args call.now step]
    exact .inr ⟨syncRank_of_step step other, open_, openTarget⟩

end Calls

/-- **Syncs come to rest**: whatever calls are made on a task that no one else writes, no more of
them change it than its status has ranks, which are three at most; and none takes it into `done` or
`verified`, or touches it there. -/
theorem syncs_come_to_rest (row : SyncedTask) (calls : List SyncCall) :
    changes afterCall row calls ≤ syncRank row.task.status ∧ changes afterCall row calls ≤ 3 ∧
      isTerminalStatus (calls.foldl afterCall row).task.status =
        isTerminalStatus row.task.status ∧
      (isTerminalStatus row.task.status = true → calls.foldl afterCall row = row) := by
  let rank (row : SyncedTask) := syncRank row.task.status
  have lowers (row call) : afterCall row call = row ∨ rank (afterCall row call) < rank row :=
    (afterCall_cases row call).imp_right And.left
  have bound : _ ≤ syncRank row.task.status := changes_add_rank_le rank lowers row calls
  have ranks : syncRank row.task.status ≤ 3 := by cases row.task.status <;> decide
  refine ⟨by omega, by omega, ?_, fun terminal => ?_⟩
  · refine List.foldlRecOn
      (motive := fun after => isTerminalStatus after.task.status = isTerminalStatus row.task.status)
      calls afterCall rfl fun before same call _ => ?_
    rw [← same]
    rcases afterCall_cases before call with kept | ⟨-, open_, kept⟩
    · rw [kept]
    · rw [open_, kept]
  · refine foldl_eq_of_rank_zero rank lowers (?_ : syncRank row.task.status = 0) calls
    generalize row.task.status = status at terminal ⊢
    revert terminal
    cases status <;> decide

end AifHandoff.Mcp
