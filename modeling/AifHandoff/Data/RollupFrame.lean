import AifHandoff.Data.RollupOps

/-!
What a write to one task leaves alone.

`setTaskFields` writes the row of a task and refreshes the rollups above it. No other row
changes, whether the links form a forest or not.
-/

namespace AifHandoff.Data

open Forest Propagation

/-- Row by row, ids and parents stay. -/
def KeepsLinks (store store' : TaskStore) : Prop :=
  ∃ write : TaskRow → TaskRow, store' = store.map write ∧
    ∀ row, (write row).id = row.id ∧ (write row).parentTaskId = row.parentTaskId

section Links

variable {store store' store'' : TaskStore} {id : TaskId} {write : TaskRow → TaskRow}

theorem KeepsLinks.refl (store : TaskStore) : KeepsLinks store store :=
  ⟨id, by simp, fun _ => ⟨rfl, rfl⟩⟩

theorem KeepsLinks.trans (first : KeepsLinks store store') (second : KeepsLinks store' store'') :
    KeepsLinks store store'' := by
  obtain ⟨write, rfl, keeps⟩ := first
  obtain ⟨write', rfl, keeps'⟩ := second
  refine ⟨write' ∘ write, by rw [List.map_map], fun row => ⟨?_, ?_⟩⟩
  · exact (keeps' (write row)).1.trans (keeps row).1
  · exact (keeps' (write row)).2.trans (keeps row).2

theorem Keeps.keepsLinks (keeps : Keeps store store') : KeepsLinks store store' := by
  obtain ⟨write, rfl, keeps⟩ := keeps
  exact ⟨write, rfl, fun row =>
    ⟨congrArg Place.id (keeps row).1, congrArg Place.parentTaskId (keeps row).1⟩⟩

theorem keepsLinks_updateWhereId (keepsId : ∀ row, (write row).id = row.id)
    (keepsParent : ∀ row, (write row).parentTaskId = row.parentTaskId) :
    KeepsLinks store (updateWhereId store id write) := by
  refine ⟨_, rfl, fun row => ?_⟩
  split
  · exact ⟨keepsId row, keepsParent row⟩
  · exact ⟨rfl, rfl⟩

theorem KeepsLinks.linkOf (keeps : KeepsLinks store store') : linkOf store' = linkOf store := by
  obtain ⟨write, rfl, keeps⟩ := keeps
  exact linkOf_map (fun row => (keeps row).1) fun row => (keeps row).2

theorem KeepsLinks.isSome (keeps : KeepsLinks store store') :
    (findTaskById store' id).isSome = (findTaskById store id).isSome := by
  obtain ⟨write, rfl, keeps⟩ := keeps
  rw [findTaskById_map fun row => (keeps row).1, Option.isSome_map]

end Links

section Refresh

variable {context : RollupContext} {store : TaskStore} {id other : TaskId}
  {parent : TaskId → Option TaskId}

theorem findTaskById_refreshParentRollupOf (apart : other ≠ id) :
    findTaskById (refreshParentRollupOf context store id) other = findTaskById store other := by
  have keepsId (row : TaskRow) : (refreshParentRollup context.view (directChildrenOf store id)
      context.now row).id = row.id := congrArg Place.id (place_refreshParentRollup _ _ _ row)
  rw [refreshParentRollupOf, findTaskById_updateWhereId keepsId]
  simp [apart]

theorem findTaskById_refreshAncestorsFrom (bound : Nat) (links : linkOf store = parent)
    (visited : List TaskId) (apart : ¬ IsAncestor parent id other) :
    findTaskById (refreshAncestorsFrom context bound store visited (findTaskById store id)) other =
      findTaskById store other := by
  induction bound generalizing store visited id with
  | zero => rfl
  | succ bound ih =>
    have link : (findTaskById store id).bind parentLink = parent id := congrFun links id
    rw [refreshAncestorsFrom, link]
    cases toParent : parent id with
    | none => rfl
    | some parentId =>
      rw [isAncestor_iff toParent, not_or] at apart
      dsimp only
      split
      · rfl
      · have kept : linkOf (refreshParentRollupOf context store parentId) = parent :=
          keeps_refreshParentRollupOf.keepsLinks.linkOf.trans links
        rw [ih kept _ apart.2, findTaskById_refreshParentRollupOf apart.1]

theorem findTaskById_refreshAncestorRollups (apart : ¬ IsAncestor (linkOf store) id other) :
    findTaskById (refreshAncestorRollups context store id) other = findTaskById store other :=
  findTaskById_refreshAncestorsFrom _ rfl _ apart

end Refresh

theorem id_setTaskFields {patch : TaskFieldsPatch} (row : TaskRow) :
    (setTaskFields row patch).id = row.id := rfl

theorem keepsLinks_write {store : TaskStore} {id : TaskId} {patch : TaskFieldsPatch}
    (parentKept : patch.parentTaskId = none) :
    KeepsLinks store (updateWhereId store id (setTaskFields · patch)) := by
  refine keepsLinks_updateWhereId id_setTaskFields fun row => ?_
  unfold setTaskFields normalizeOperatorInputHoldPatch
  dsimp only
  split <;> simp [parentKept]

section Writes

variable {δ : Type} [ValidationDetails δ] {db : RoadmapStore δ} {id other : TaskId}
  {patch : TaskFieldsPatch} {now : Nat}

theorem keepsLinks_setTaskFieldsById (parentKept : patch.parentTaskId = none) :
    KeepsLinks db.tasks (setTaskFieldsById db id patch now).tasks := by
  have refreshed : Keeps (updateWhereId db.tasks id (setTaskFields · patch))
      (setTaskFieldsById db id patch now).tasks := keeps_refreshAncestorRollups
  exact (keepsLinks_write parentKept).trans refreshed.keepsLinks

theorem findTaskById_setTaskFieldsById (parentKept : patch.parentTaskId = none)
    (apart : ¬ IsAncestor (linkOf db.tasks) id other) :
    findTaskById (setTaskFieldsById db id patch now).tasks other =
      (findTaskById db.tasks other).map fun row =>
        if other = id then setTaskFields row patch else row := by
  have frame : findTaskById (setTaskFieldsById db id patch now).tasks other =
      findTaskById (updateWhereId db.tasks id (setTaskFields · patch)) other :=
    findTaskById_refreshAncestorRollups (by rwa [(keepsLinks_write parentKept).linkOf])
  rw [frame, findTaskById_updateWhereId id_setTaskFields]

/-- The table after a log line of the task. -/
def stampTask (db : RoadmapStore δ) (taskId : TaskId) (now : Nat) : RoadmapStore δ :=
  setTaskFieldsById db taskId { lastHeartbeatAt := some (some now), updatedAt := some now } now

theorem findTaskById_stamp (apart : ¬ IsAncestor (linkOf db.tasks) id other) :
    findTaskById (stampTask db id now).tasks other =
      (findTaskById db.tasks other).map fun row =>
        if other = id then appendTaskActivityLog row now else row :=
  findTaskById_setTaskFieldsById rfl apart

theorem keepsLinks_stamp : KeepsLinks db.tasks (stampTask db id now).tasks :=
  keepsLinks_setTaskFieldsById rfl

end Writes

theorem findRoadmapBatchArtifactByTaskId_refreshRoadmapBatch {δ : Type} [ValidationDetails δ]
    (db : RoadmapStore δ) (batchId : String) (now : Nat) (taskId : TaskId) :
    findRoadmapBatchArtifactByTaskId (refreshRoadmapBatch db batchId now) taskId =
      findRoadmapBatchArtifactByTaskId (refreshRoadmapBatchSummary db batchId now).1 taskId := by
  rw [refreshRoadmapBatch]
  split
  · rfl
  · rfl

theorem appendTaskActivityLog_cases (row : TaskRow) (now : Nat) :
    appendTaskActivityLog row now = { row with lastHeartbeatAt := some now, updatedAt := now } ∨
      (isOperatorInputRequiredReason row.blockedReason = true ∧
        appendTaskActivityLog row now = { row with
          lastHeartbeatAt := some now
          updatedAt := now
          paused := true
          retryAfter := none
          manualReviewRequired := false }) := by
  unfold appendTaskActivityLog setTaskFields normalizeOperatorInputHoldPatch
  dsimp only
  split
  · rename_i hold
    rw [Bool.and_eq_true] at hold
    exact .inr ⟨hold.2, rfl⟩
  · exact .inl rfl

end AifHandoff.Data
