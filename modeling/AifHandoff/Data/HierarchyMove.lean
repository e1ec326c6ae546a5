import AifHandoff.Data.HierarchyInvariant

/-!
Moving a task within the hierarchy.

A move writes the moved row, promotes the new parent and shifts the labels of the
rows below. `Moves` says row by row what that amounts to, and `Moves.keeps` that it
keeps the invariant. `applyDescendantHierarchyShift` shifts nothing when the depth
stays the same, so the labels below are right only if the root stays as well:
`keepsDescendantRoots` admits exactly these moves.
-/

namespace AifHandoff.Data

/-! ### Moving a task -/

section Move

variable {store : TaskStore} {task row : TaskRow} {target : MoveTarget}

theorem HierarchyInv.ne_of_child {pending : Option TaskId} (inv : HierarchyInv pending store)
    (inside : row ∈ store) (inside' : task ∈ store) (below : Below store task.id row) :
    row ≠ task := by
  rintro rfl
  exact lt_irrefl _ (inv.below_depth inside inside' below)

theorem HierarchyInv.below_root {pending : Option TaskId} (inv : HierarchyInv pending store)
    (inside : row ∈ store) (inside' : task ∈ store) (below : Below store task.id row) :
    row.rootTaskId = some (task.rootTaskId.getD task.id) := by
  rcases below with toTask | ⟨child, insideC, toTask, toChild⟩
  · exact (inv.parent inside inside' toTask).2.2
  · have childRoot := (inv.parent insideC inside' toTask).2.2
    rw [(inv.parent inside insideC toChild).2.2, childRoot, Option.getD_some]

/-- Where a move leads: to the top, or under a task that is not below the moved one. -/
inductive Destination (store : TaskStore) (task : TaskRow) (target : MoveTarget) : Prop where
  | top : target.parentTaskId = none → target.hierarchyDepth = 0 → target.rootTaskId = none →
      Destination store task target
  | under (parent : TaskRow) : parent ∈ store → parent ≠ task → ¬ Below store task.id parent →
      target.parentTaskId = some parent.id → parent.projectId = task.projectId →
      target.hierarchyDepth = parent.hierarchyDepth + 1 →
      target.rootTaskId = some (parent.rootTaskId.getD parent.id) → Destination store task target

theorem resolveMove_ok {next : Option TaskId} (inv : HierarchyInv none store) (inside : task ∈ store)
    (named : next ≠ some "") (ok : resolveMove store task next = .ok target) :
    target.parentTaskId = next ∧ Destination store task target := by
  unfold resolveMove at ok
  split at ok
  · cases ok
  rename_i own
  split at ok
  · rename_i noLink
    cases ok
    have noParent : next = none := by
      cases next with
      | none => rfl
      | some parentId => simp [Option.filter, show parentId ≠ "" by simpa using named] at noLink
    exact ⟨rfl, .top noParent rfl rfl⟩
  · rename_i parentId link
    split at ok
    · cases ok
    rename_i parent found
    obtain ⟨inside', same⟩ := findTaskById_some found
    have toParent : next = some parent.id := by
      rw [same]
      exact (Option.filter_eq_some_iff.mp link).1
    split at ok
    · cases ok
    rename_i project
    split at ok
    · cases ok
    rename_i cycle
    cases ok
    refine ⟨rfl, .under parent inside' ?_ ?_ toParent (by simpa using project) rfl rfl⟩
    · rintro rfl
      exact own toParent
    · intro below
      exact cycle (isTaskDescendant_of_below inv.nodup inv.named inside' (inv.named task inside) below)

theorem moveFits_iff {pending : Option TaskId} (inv : HierarchyInv pending store)
    (inside : task ∈ store) :
    moveFits store task target = true ↔ target.hierarchyDepth ≤ 2 ∧ ∀ row ∈ store,
      Below store task.id row →
        row.hierarchyDepth + (target.hierarchyDepth - task.hierarchyDepth) ≤ 2 := by
  simp only [moveFits, Bool.and_eq_true, decide_eq_true_eq, List.all_eq_true]
  show target.hierarchyDepth ≤ 2 ∧ _ ↔ _
  constructor
  · rintro ⟨bounded, all⟩
    exact ⟨bounded, fun row inside' below =>
      all row ((mem_collectDescendantRows (inv.leaves inside)).mpr ⟨inside', below⟩)⟩
  · rintro ⟨bounded, all⟩
    refine ⟨bounded, fun row among => ?_⟩
    obtain ⟨inside', below⟩ := (mem_collectDescendantRows (inv.leaves inside)).mp among
    exact all row inside' below

/-- What a move does to the table, row by row. -/
structure Moves (store : TaskStore) (task : TaskRow) (target : MoveTarget)
    (write : TaskRow → TaskRow) : Prop where
  sameId : ∀ row, (write row).id = row.id
  sameProject : ∀ row, (write row).projectId = row.projectId
  moved : (write task).parentTaskId = target.parentTaskId ∧
    (write task).rootTaskId = target.rootTaskId ∧
    (write task).hierarchyDepth = target.hierarchyDepth
  shifted : ∀ row ∈ store, row ≠ task → Below store task.id row →
    (write row).parentTaskId = row.parentTaskId ∧
    (write row).rootTaskId = some (target.rootTaskId.getD task.id) ∧
    (write row).hierarchyDepth =
      row.hierarchyDepth + (target.hierarchyDepth - task.hierarchyDepth)
  others : ∀ row ∈ store, row ≠ task → ¬ Below store task.id row → place (write row) = place row
  closes : ∀ row ∈ store, Closes row →
    (row = task → ∃ child ∈ store, child.parentTaskId = some task.id) → Closes (write row)
  promoted : ∀ row ∈ store, target.parentTaskId = some row.id → Closes (write row)

theorem HierarchyInv.parent_of_other {pending : Option TaskId} (inv : HierarchyInv pending store)
    (inside : row ∈ store) {parent : TaskRow} (insideP : parent ∈ store) (insideT : task ∈ store)
    (toParent : row.parentTaskId = some parent.id) (notBelow : ¬ Below store task.id row) :
    parent ≠ task ∧ ¬ Below store task.id parent := by
  constructor
  · rintro rfl
    exact notBelow (.inl toParent)
  · rintro (toTask | ⟨child, insideC, toTask, toChild⟩)
    · exact notBelow (.inr ⟨parent, insideP, toTask, toParent⟩)
    · have noneDeeper := inv.leaves insideT child (mem_directChildrenOf.mpr ⟨insideC, toTask⟩) parent
        (mem_directChildrenOf.mpr ⟨insideP, toChild⟩)
      have deeper := mem_directChildrenOf.mpr ⟨inside, toParent⟩
      rw [noneDeeper] at deeper
      cases deeper

/-- A move that fits keeps the invariant. -/
theorem Moves.keeps {write : TaskRow → TaskRow} (moves : Moves store task target write)
    (inv : HierarchyInv none store) (insideT : task ∈ store)
    (destination : Destination store task target)
    (fits : moveFits store task target = true) : HierarchyInv none (store.map write) := by
  obtain ⟨bounded, fitsBelow⟩ := (moveFits_iff inv insideT).mp fits
  have targetNonneg : 0 ≤ target.hierarchyDepth := by
    cases destination with
    | top _ depth => exact depth.symm.le
    | under parent insideP _ _ _ _ depth =>
      have nonneg := (inv.placed parent insideP).nonneg
      omega
  have sameParent (row : TaskRow) (inside : row ∈ store) (other : row ≠ task) :
      (write row).parentTaskId = row.parentTaskId := by
    by_cases below : Below store task.id row
    · exact (moves.shifted row inside other below).1
    · exact congrArg Place.parentTaskId (moves.others row inside other below)
  refine ⟨?_, ?_, ?_, ?_⟩
  · simpa [Function.comp_def, moves.sameId] using inv.nodup
  · simpa [moves.sameId] using inv.named
  · intro written image
    obtain ⟨row, inside, rfl⟩ := List.mem_map.mp image
    by_cases isTask : row = task
    · subst isTask
      obtain ⟨toParent, root, depth⟩ := moves.moved
      refine ⟨depth ▸ targetNonneg, depth ▸ bounded, ?_, ?_⟩
      · intro noParent
        rw [toParent] at noParent
        cases destination with
        | top _ depth' root' => exact ⟨depth.trans depth', root.trans root'⟩
        | under parent _ _ _ under => exact absurd (under.symm.trans noParent) (by simp)
      · intro parentId toId
        rw [toParent] at toId
        cases destination with
        | top noParent => exact absurd (noParent.symm.trans toId) (by simp)
        | under parent insideP other notBelow under project depth' root' =>
          have same := moves.others parent insideP other notBelow
          refine ⟨write parent, List.mem_map_of_mem insideP, ?_, ?_, ?_, ?_⟩
          · exact (moves.sameId parent).trans (Option.some.inj (under.symm.trans toId))
          · rw [moves.sameProject, moves.sameProject, project]
          · rw [depth, depth', show (write parent).hierarchyDepth = _ from
              congrArg Place.hierarchyDepth same]
            rfl
          · rw [root, root', moves.sameId, show (write parent).rootTaskId = _ from
              congrArg Place.rootTaskId same]
            rfl
    by_cases below : Below store task.id row
    · obtain ⟨toParent, root, depth⟩ := moves.shifted row inside isTask below
      have deeper := inv.below_depth inside insideT below
      refine ⟨?_, ?_, ?_, ?_⟩
      · rw [depth]
        omega
      · rw [depth]
        exact fitsBelow row inside below
      · intro noParent
        rw [toParent] at noParent
        rcases below with toTask | ⟨child, -, -, toChild⟩
        · exact absurd (toTask.symm.trans noParent) (by simp)
        · exact absurd (toChild.symm.trans noParent) (by simp)
      · intro parentId toId
        rw [toParent] at toId
        rcases below with toTask | ⟨child, insideC, toTask, toChild⟩
        · obtain ⟨project, depth', -⟩ := inv.parent inside insideT toTask
          obtain ⟨-, root'', depth''⟩ := moves.moved
          refine ⟨write task, List.mem_map_of_mem insideT, ?_, ?_, ?_, ?_⟩
          · exact (moves.sameId task).trans (Option.some.inj (toTask.symm.trans toId))
          · rw [moves.sameProject, moves.sameProject, project]
          · rw [depth, depth'', depth']
            omega
          · rw [root, root'', moves.sameId]
        · have childBelow : Below store task.id child := .inl toTask
          obtain ⟨project, depth', -⟩ := inv.parent inside insideC toChild
          obtain ⟨-, root'', depth''⟩ := moves.shifted child insideC
            (inv.ne_of_child insideC insideT childBelow) childBelow
          refine ⟨write child, List.mem_map_of_mem insideC, ?_, ?_, ?_, ?_⟩
          · exact (moves.sameId child).trans (Option.some.inj (toChild.symm.trans toId))
          · rw [moves.sameProject, moves.sameProject, project]
          · rw [depth, depth'', depth']
            omega
          · rw [root, root'', Option.getD_some]
    · have same := moves.others row inside isTask below
      have toParent : (write row).parentTaskId = row.parentTaskId := congrArg Place.parentTaskId same
      have root : (write row).rootTaskId = row.rootTaskId := congrArg Place.rootTaskId same
      have depth : (write row).hierarchyDepth = row.hierarchyDepth :=
        congrArg Place.hierarchyDepth same
      obtain ⟨nonneg, bounded, top, link⟩ := inv.placed row inside
      refine ⟨by rwa [depth], by rwa [depth], by rw [toParent, depth, root]; exact top, ?_⟩
      intro parentId toId
      rw [toParent] at toId
      obtain ⟨parent, insideP, named, project, depth', root'⟩ := link parentId toId
      obtain ⟨other, notBelow⟩ := inv.parent_of_other inside insideP insideT (named ▸ toId) below
      have sameP := moves.others parent insideP other notBelow
      refine ⟨write parent, List.mem_map_of_mem insideP, ?_, ?_, ?_, ?_⟩
      · exact (moves.sameId parent).trans named
      · rw [moves.sameProject, moves.sameProject, project]
      · rw [depth, depth', show (write parent).hierarchyDepth = _ from
          congrArg Place.hierarchyDepth sameP]
        rfl
      · rw [root, root', moves.sameId, show (write parent).rootTaskId = _ from
          congrArg Place.rootTaskId sameP]
        rfl
  · intro written image writtenParent image' toParent _
    obtain ⟨row, inside, rfl⟩ := List.mem_map.mp image
    obtain ⟨parent, insideP, rfl⟩ := List.mem_map.mp image'
    rw [moves.sameId] at toParent
    by_cases isTask : row = task
    · subst isTask
      exact moves.promoted parent insideP (moves.moved.1.symm.trans toParent)
    · rw [sameParent row inside isTask] at toParent
      refine moves.closes parent insideP (inv.closed row inside parent insideP toParent (by simp)) ?_
      rintro rfl
      exact ⟨row, inside, toParent⟩

end Move

/-! ### Updating a task -/

section Update

variable {store : TaskStore} {task : TaskRow}

theorem place_setTaskFields (row : TaskRow) (patch : TaskFieldsPatch) :
    place (setTaskFields row patch) = place (row.set patch) := by
  unfold setTaskFields normalizeOperatorInputHoldPatch
  simp only []
  split <;> rfl

theorem closes_setTaskFields (row : TaskRow) (patch : TaskFieldsPatch) :
    Closes (setTaskFields row patch) ↔ Closes (row.set patch) := by
  unfold setTaskFields normalizeOperatorInputHoldPatch
  simp only []
  split <;> rfl

/-- An accepted role leaves the parent columns of the patch, and a task with
children stays a container. -/
theorem resolveRole_ok {fields : TaskFieldsUpdate} {patch result : TaskFieldsPatch}
    (ok : resolveRole store task fields patch = .ok result) :
    result.parentTaskId = patch.parentTaskId ∧ result.rootTaskId = patch.rootTaskId ∧
      result.hierarchyDepth = patch.hierarchyDepth ∧
      ((∃ child ∈ store, child.parentTaskId = some task.id) → Closes task →
        Closes (task.set result)) := by
  unfold resolveRole at ok
  simp only [] at ok
  split_ifs at ok with childless policy
  all_goals cases ok
  all_goals refine ⟨rfl, rfl, rfl, fun child closes => ?_⟩
  all_goals
    have container : fields.hierarchyRole.getD task.hierarchyRole = .container := by
      have count := directChildCount_pos.mpr child
      cases role : fields.hierarchyRole.getD task.hierarchyRole with
      | container => rfl
      | executable => simp [role, count] at childless
    refine ⟨container, ?_⟩
  · simp [closeoutPolicyFor, container]
  · exact closes.2

/-- The moves that lose no root: the task has no children, its depth changes, or
its root stays. The empty id is no parent. -/
def keepsDescendantRoots (store : TaskStore) (id : TaskId) (fields : TaskFieldsUpdate) : Bool :=
  match fields.parentTaskId with
  | none | some none => true
  | some (some parentId) =>
    parentId ≠ "" && match findTaskById store id, findTaskById store parentId with
      | some task, some parent =>
        directChildCount store id = 0 || parent.hierarchyDepth + 1 ≠ task.hierarchyDepth ||
          task.rootTaskId = some (parent.rootTaskId.getD parent.id)
      | _, _ => true

/-- The writes of `applyDescendantHierarchyShift` to one row. -/
def shiftRow (descendants : List TaskRow) (root : TaskId) (delta : Int) (now : Nat)
    (row : TaskRow) : TaskRow :=
  descendants.foldl (fun row d =>
    if row.id = d.id then row.set (shiftPatch root delta d now) else row) row

section Shift

variable (root : TaskId) (delta : Int) (now : Nat)

theorem shiftRow_kept (descendants : List TaskRow) (row : TaskRow) :
    (shiftRow descendants root delta now row).id = row.id ∧
      (shiftRow descendants root delta now row).projectId = row.projectId ∧
      (shiftRow descendants root delta now row).parentTaskId = row.parentTaskId ∧
      (Closes row → Closes (shiftRow descendants root delta now row)) := by
  induction descendants generalizing row with
  | nil => exact ⟨rfl, rfl, rfl, fun closes => closes⟩
  | cons first rest ih =>
    unfold shiftRow at ih ⊢
    rw [List.foldl_cons]
    split
    · exact ih (row.set (shiftPatch root delta first now))
    · exact ih row

theorem shiftRow_miss (descendants : List TaskRow) (row : TaskRow)
    (misses : ∀ d ∈ descendants, d.id ≠ row.id) :
    shiftRow descendants root delta now row = row := by
  induction descendants with
  | nil => rfl
  | cons first rest ih =>
    have missFirst : row.id ≠ first.id := (misses first (List.mem_cons_self ..)).symm
    rw [shiftRow, List.foldl_cons, if_neg missFirst]
    exact ih fun d among => misses d (List.mem_cons_of_mem first among)

/-- The labels of a descendant are rewritten. -/
theorem shiftRow_hit (descendants : List TaskRow) (row : TaskRow) {depth : Int}
    (agree : ∀ d ∈ descendants, d.id = row.id → d.hierarchyDepth = depth)
    (hit : ∃ d ∈ descendants, d.id = row.id) :
    (shiftRow descendants root delta now row).rootTaskId = some root ∧
      (shiftRow descendants root delta now row).hierarchyDepth = depth + delta := by
  induction descendants generalizing row with
  | nil =>
    obtain ⟨d, among, -⟩ := hit
    cases among
  | cons first rest ih =>
    have agreeRest : ∀ d ∈ rest, d.id = row.id → d.hierarchyDepth = depth :=
      fun d among => agree d (List.mem_cons_of_mem first among)
    have step : shiftRow (first :: rest) root delta now row = shiftRow rest root delta now
        (if row.id = first.id then row.set (shiftPatch root delta first now) else row) := rfl
    rw [step]
    by_cases hitFirst : row.id = first.id
    · rw [if_pos hitFirst]
      by_cases again : ∃ d ∈ rest, d.id = row.id
      · exact ih (row.set (shiftPatch root delta first now)) agreeRest again
      · have last := shiftRow_miss root delta now rest
          (row.set (shiftPatch root delta first now))
          fun d among same => again ⟨d, among, same⟩
        rw [last]
        refine ⟨rfl, ?_⟩
        show first.hierarchyDepth + delta = depth + delta
        rw [agree first (List.mem_cons_self ..) hitFirst.symm]
    · rw [if_neg hitFirst]
      obtain ⟨d, among, same⟩ := hit
      rcases List.mem_cons.mp among with rfl | later
      · exact absurd same.symm hitFirst
      · exact ih row agreeRest ⟨d, later, same⟩

end Shift

/-- The write of the moved row and the promotion of its parent, before the shift. -/
structure Relinks (store : TaskStore) (task : TaskRow) (target : MoveTarget)
    (write : TaskRow → TaskRow) : Prop where
  sameId : ∀ row, (write row).id = row.id
  sameProject : ∀ row, (write row).projectId = row.projectId
  moved : (write task).parentTaskId = target.parentTaskId ∧
    (write task).rootTaskId = target.rootTaskId ∧
    (write task).hierarchyDepth = target.hierarchyDepth
  others : ∀ row ∈ store, row ≠ task → place (write row) = place row
  closes : ∀ row ∈ store, Closes row →
    (row = task → ∃ child ∈ store, child.parentTaskId = some task.id) → Closes (write row)
  promoted : ∀ row ∈ store, target.parentTaskId = some row.id → Closes (write row)

variable {target : MoveTarget} {write : TaskRow → TaskRow}

theorem Relinks.sameParent (relinks : Relinks store task target write) {row : TaskRow}
    (inside : row ∈ store) (other : row ≠ task) :
    (write row).parentTaskId = row.parentTaskId :=
  congrArg Place.parentTaskId (relinks.others row inside other)

/-- The moved task hangs under no task that was below it. -/
theorem Destination.not_under_below (destination : Destination store task target)
    (inv : HierarchyInv none store) {row : TaskRow} (inside : row ∈ store)
    (under : target.parentTaskId = some row.id) : row ≠ task ∧ ¬ Below store task.id row := by
  cases destination with
  | top noParent => exact absurd (noParent.symm.trans under) (by simp)
  | under parent insideP other notBelow toParent =>
    have same := eq_of_id inv.nodup insideP inside (Option.some.inj (toParent.symm.trans under))
    exact same ▸ ⟨other, notBelow⟩

/-- Relinking the task changes nothing below it. -/
theorem Relinks.below_iff (relinks : Relinks store task target write)
    (inv : HierarchyInv none store) (insideT : task ∈ store)
    (destination : Destination store task target) {row : TaskRow} (inside : row ∈ store) :
    Below (store.map write) task.id (write row) ↔ Below store task.id row := by
  have child_iff {row : TaskRow} (inside : row ∈ store) :
      (write row).parentTaskId = some task.id ↔ row.parentTaskId = some task.id := by
    by_cases isTask : row = task
    · subst isTask
      rw [relinks.moved.1]
      constructor
      · intro under
        exact absurd rfl (destination.not_under_below inv insideT under).1
      · intro own
        exact absurd rfl (inv.ne_of_child insideT insideT (.inl own))
    · rw [relinks.sameParent inside isTask]
  by_cases isTask : row = task
  · subst isTask
    constructor
    · rintro (own | ⟨written, image, toTask, toChild⟩)
      · exact .inl ((child_iff insideT).mp own)
      · obtain ⟨child, insideC, rfl⟩ := List.mem_map.mp image
        rw [relinks.moved.1, relinks.sameId] at toChild
        exact absurd (.inl ((child_iff insideC).mp toTask))
          (destination.not_under_below inv insideC toChild).2
    · intro below
      exact absurd rfl (inv.ne_of_child insideT insideT below)
  · unfold Below
    rw [relinks.sameParent inside isTask]
    constructor
    · rintro (own | ⟨written, image, toTask, toChild⟩)
      · exact .inl own
      · obtain ⟨child, insideC, rfl⟩ := List.mem_map.mp image
        rw [relinks.sameId] at toChild
        exact .inr ⟨child, insideC, (child_iff insideC).mp toTask, toChild⟩
    · rintro (own | ⟨child, insideC, toTask, toChild⟩)
      · exact .inl own
      · refine .inr ⟨write child, List.mem_map_of_mem insideC, (child_iff insideC).mpr toTask, ?_⟩
        rw [relinks.sameId, toChild]

/-- After relinking there are still only two levels below the task. -/
theorem Relinks.leaves (relinks : Relinks store task target write)
    (inv : HierarchyInv none store) (insideT : task ∈ store)
    (destination : Destination store task target) :
    ∀ child ∈ directChildrenOf (store.map write) task.id,
      ∀ grandchild ∈ directChildrenOf (store.map write) child.id,
        directChildrenOf (store.map write) grandchild.id = [] := by
  intro child isChild grandchild isGrandchild
  rw [mem_directChildrenOf] at isChild isGrandchild
  obtain ⟨c, insideC, rfl⟩ := List.mem_map.mp isChild.1
  obtain ⟨g, insideG, rfl⟩ := List.mem_map.mp isGrandchild.1
  have belowC := (relinks.below_iff inv insideT destination insideC).mp (.inl isChild.2)
  have belowG := (relinks.below_iff inv insideT destination insideG).mp
    (.inr ⟨write c, isChild.1, isChild.2, isGrandchild.2⟩)
  have otherC := inv.ne_of_child insideC insideT belowC
  have otherG := inv.ne_of_child insideG insideT belowG
  have toTask : c.parentTaskId = some task.id :=
    (relinks.sameParent insideC otherC).symm.trans isChild.2
  have toChild : g.parentTaskId = some c.id := by
    rw [← relinks.sameParent insideG otherG, isGrandchild.2, relinks.sameId]
  rw [List.eq_nil_iff_forall_not_mem]
  intro deeper isDeeper
  rw [mem_directChildrenOf, relinks.sameId] at isDeeper
  obtain ⟨d, insideD, rfl⟩ := List.mem_map.mp isDeeper.1
  by_cases isTask : d = task
  · subst isTask
    exact (destination.not_under_below inv insideG (relinks.moved.1.symm.trans isDeeper.2)).2 belowG
  · have noneDeeper := inv.leaves insideT c (mem_directChildrenOf.mpr ⟨insideC, toTask⟩) g
      (mem_directChildrenOf.mpr ⟨insideG, toChild⟩)
    have found := mem_directChildrenOf.mpr
      ⟨insideD, (relinks.sameParent insideD isTask).symm.trans isDeeper.2⟩
    rw [noneDeeper] at found
    cases found

/-- Relinking and then shifting the descendants is a move. -/
theorem Relinks.shift (relinks : Relinks store task target write) (inv : HierarchyInv none store)
    (insideT : task ∈ store) (destination : Destination store task target) (now : Nat)
    (kept : target.hierarchyDepth = task.hierarchyDepth →
      (∃ child ∈ store, child.parentTaskId = some task.id) →
      task.rootTaskId.getD task.id = target.rootTaskId.getD task.id) :
    ∃ write', Moves store task target write' ∧
      applyDescendantHierarchyShift (store.map write) task.id (target.rootTaskId.getD task.id)
        (target.hierarchyDepth - task.hierarchyDepth) now = store.map write' := by
  by_cases same : target.hierarchyDepth - task.hierarchyDepth = 0
  · refine ⟨write, ⟨relinks.sameId, relinks.sameProject, relinks.moved, ?_, ?_, relinks.closes,
      relinks.promoted⟩, ?_⟩
    · intro row inside other below
      have placed := relinks.others row inside other
      have hasChild : ∃ child ∈ store, child.parentTaskId = some task.id := by
        rcases below with toTask | ⟨child, insideC, toTask, -⟩
        · exact ⟨row, inside, toTask⟩
        · exact ⟨child, insideC, toTask⟩
      refine ⟨congrArg Place.parentTaskId placed, ?_, ?_⟩
      · rw [show (write row).rootTaskId = row.rootTaskId from congrArg Place.rootTaskId placed,
          inv.below_root inside insideT below, kept (by omega) hasChild]
      · rw [same, show (write row).hierarchyDepth = row.hierarchyDepth from
          congrArg Place.hierarchyDepth placed]
        omega
    · exact fun row inside other _ => relinks.others row inside other
    · rw [applyDescendantHierarchyShift, if_pos same]
  · rw [applyDescendantHierarchyShift, if_neg same]
    have collected (d : TaskRow) : d ∈ collectDescendantRows (store.map write) task.id ↔
        d ∈ store.map write ∧ Below (store.map write) task.id d :=
      mem_collectDescendantRows (relinks.leaves inv insideT destination)
    -- The collected rows are the images of the rows below the task.
    have origin {d : TaskRow}
        (among : d ∈ collectDescendantRows (store.map write) task.id) :
        ∃ row ∈ store, write row = d ∧ Below store task.id row := by
      obtain ⟨image, below⟩ := (collected _).mp among
      obtain ⟨row, inside, rfl⟩ := List.mem_map.mp image
      exact ⟨row, inside, rfl, (relinks.below_iff inv insideT destination inside).mp below⟩
    have agree {row : TaskRow} (inside : row ∈ store) :
        ∀ d ∈ collectDescendantRows (store.map write) task.id, d.id = (write row).id →
          d.hierarchyDepth = row.hierarchyDepth := by
      intro d among sameId
      obtain ⟨row', inside', rfl, below⟩ := origin among
      rw [relinks.sameId, relinks.sameId] at sameId
      have sameRow := eq_of_id inv.nodup inside' inside sameId
      subst sameRow
      have other := inv.ne_of_child inside' insideT below
      exact congrArg Place.hierarchyDepth (relinks.others row' inside' other)
    have hit {row : TaskRow} (inside : row ∈ store) :
        (∃ d ∈ collectDescendantRows (store.map write) task.id, d.id = (write row).id) ↔
          Below store task.id row := by
      constructor
      · rintro ⟨d, among, sameId⟩
        obtain ⟨row', inside', rfl, below⟩ := origin among
        rw [relinks.sameId, relinks.sameId] at sameId
        exact eq_of_id inv.nodup inside' inside sameId ▸ below
      · intro below
        exact ⟨write row, (collected _).mpr ⟨List.mem_map_of_mem inside,
          (relinks.below_iff inv insideT destination inside).mpr below⟩, rfl⟩
    generalize collectDescendantRows (store.map write) task.id = descendants at origin agree hit ⊢
    have miss {row : TaskRow} (inside : row ∈ store) (notBelow : ¬ Below store task.id row) :
        shiftRow descendants (target.rootTaskId.getD task.id)
          (target.hierarchyDepth - task.hierarchyDepth) now (write row) = write row :=
      shiftRow_miss _ _ _ descendants (write row) fun d among sameId =>
        notBelow ((hit inside).mp ⟨d, among, sameId⟩)
    have kept' (row : TaskRow) := shiftRow_kept (target.rootTaskId.getD task.id)
      (target.hierarchyDepth - task.hierarchyDepth) now descendants (write row)
    have taskNotBelow : ¬ Below store task.id task := fun below =>
      inv.ne_of_child insideT insideT below rfl
    refine ⟨fun row => shiftRow descendants (target.rootTaskId.getD task.id)
      (target.hierarchyDepth - task.hierarchyDepth) now (write row), ⟨?_, ?_, ?_, ?_, ?_, ?_, ?_⟩, ?_⟩
    · exact fun row => (kept' row).1.trans (relinks.sameId row)
    · exact fun row => (kept' row).2.1.trans (relinks.sameProject row)
    · rw [miss insideT taskNotBelow]
      exact relinks.moved
    · intro row inside other below
      obtain ⟨rooted, deepened⟩ := shiftRow_hit (target.rootTaskId.getD task.id)
        (target.hierarchyDepth - task.hierarchyDepth) now descendants (write row) (agree inside)
        ((hit inside).mpr below)
      exact ⟨(kept' row).2.2.1.trans (relinks.sameParent inside other), rooted, deepened⟩
    · intro row inside other notBelow
      rw [miss inside notBelow]
      exact relinks.others row inside other
    · exact fun row inside closes child => (kept' row).2.2.2 (relinks.closes row inside closes child)
    · exact fun row inside under => (kept' row).2.2.2 (relinks.promoted row inside under)
    · rw [foldl_updateWhereId, List.map_map]
      rfl

/-- The write of the moved row and the promotion of its new parent. -/
theorem relinks_of_update (context : RollupContext) {fields : TaskFieldsUpdate}
    {patch : TaskFieldsPatch} (inv : HierarchyInv none store) (insideT : task ∈ store)
    (destination : Destination store task target)
    (ok : resolveRole store task fields (movePatch target) = .ok patch) :
    ∃ write, Relinks store task target write ∧
      promoteIfLinked context (updateWhereId store task.id
        (setTaskFields · (updateTaskPatch task fields patch context.now))) target.parentTaskId =
        store.map write := by
  obtain ⟨toParent, root, depth, closes⟩ := resolveRole_ok ok
  let written := fun row : TaskRow => if row.id = task.id then
    setTaskFields row (updateTaskPatch task fields patch context.now) else row
  have writtenPlace (row : TaskRow) : (written row).id = row.id ∧
      (written row).projectId = row.projectId ∧ (row ≠ task → row ∈ store → written row = row) := by
    by_cases isTask : row.id = task.id
    · simp only [written, if_pos isTask]
      have same := place_setTaskFields row (updateTaskPatch task fields patch context.now)
      exact ⟨congrArg Place.id same, congrArg Place.projectId same,
        fun other inside => absurd (eq_of_id inv.nodup inside insideT isTask) other⟩
    · simp only [written, if_neg isTask]
      exact ⟨trivial, trivial, fun _ _ => trivial⟩
  have writtenTask : place (written task) = ⟨task.id, task.projectId, target.parentTaskId,
      target.rootTaskId, target.hierarchyDepth⟩ := by
    simp only [written, if_true]
    rw [place_setTaskFields]
    simp [place, updateTaskPatch, toParent, root, depth, movePatch]
  have writtenCloses (row : TaskRow) (inside : row ∈ store) (was : Closes row)
      (child : row = task → ∃ child ∈ store, child.parentTaskId = some task.id) :
      Closes (written row) := by
    by_cases isTask : row = task
    · subst isTask
      simp only [written, if_true]
      exact (closes_setTaskFields _ _).mpr (closes (child rfl) was)
    · rwa [(writtenPlace row).2.2 isTask inside]
  have base : updateWhereId store task.id
      (setTaskFields · (updateTaskPatch task fields patch context.now)) = store.map written := rfl
  unfold promoteIfLinked
  cases link : target.parentTaskId.filter (· ≠ "") with
  | none =>
    have noParent : ∀ row ∈ store, target.parentTaskId ≠ some row.id := by
      intro row inside under
      rw [under] at link
      simp [Option.filter, inv.named row inside] at link
    refine ⟨written, ⟨fun row => (writtenPlace row).1, fun row => (writtenPlace row).2.1,
      ⟨congrArg Place.parentTaskId writtenTask, congrArg Place.rootTaskId writtenTask,
        congrArg Place.hierarchyDepth writtenTask⟩, ?_, writtenCloses, ?_⟩, base⟩
    · intro row inside other
      rw [(writtenPlace row).2.2 other inside]
    · intro row inside under
      exact absurd under (noParent row inside)
  | some parentId =>
    have under : target.parentTaskId = some parentId := (Option.filter_eq_some_iff.mp link).1
    let promote := fun row : TaskRow =>
      if row.id = parentId then promoteParentToContainer context.now row else row
    have promotePlace (row : TaskRow) : place (promote row) = place row := by
      by_cases isParent : row.id = parentId
      · simp only [promote, if_pos isParent]
        exact place_promoteParentToContainer _ _
      · simp only [promote, if_neg isParent]
    have promoteCloses (row : TaskRow) (was : Closes row) : Closes (promote row) := by
      by_cases isParent : row.id = parentId
      · simp only [promote, if_pos isParent]
        exact closes_promoteParentToContainer _ _
      · simpa only [promote, if_neg isParent] using was
    refine ⟨promote ∘ written, ⟨?_, ?_, ?_, ?_, ?_, ?_⟩, ?_⟩
    · exact fun row => (congrArg Place.id (promotePlace _)).trans (writtenPlace row).1
    · exact fun row => (congrArg Place.projectId (promotePlace _)).trans (writtenPlace row).2.1
    · have same := (promotePlace (written task)).trans writtenTask
      exact ⟨congrArg Place.parentTaskId same, congrArg Place.rootTaskId same,
        congrArg Place.hierarchyDepth same⟩
    · intro row inside other
      rw [Function.comp_apply, promotePlace, (writtenPlace row).2.2 other inside]
    · exact fun row inside was child => promoteCloses _ (writtenCloses row inside was child)
    · intro row inside toRow
      have isParent : (written row).id = parentId :=
        (writtenPlace row).1.trans (Option.some.inj (toRow.symm.trans under))
      simp only [Function.comp_apply, promote, if_pos isParent]
      exact closes_promoteParentToContainer _ _
    · simp only [promoteToContainer, updateWhereId, List.map_map]
      rfl

/-- An update that does not move the task keeps the invariant. -/
theorem role_update_keeps (context : RollupContext) {fields : TaskFieldsUpdate}
    {patch : TaskFieldsPatch} (inv : HierarchyInv none store) (insideT : task ∈ store)
    (ok : resolveRole store task fields {} = .ok patch) :
    HierarchyInv none (updateWhereId store task.id
      (setTaskFields · (updateTaskPatch task fields patch context.now))) := by
  obtain ⟨toParent, root, depth, closes⟩ := resolveRole_ok ok
  let written := fun row : TaskRow => if row.id = task.id then
    setTaskFields row (updateTaskPatch task fields patch context.now) else row
  have samePlace (row : TaskRow) : place (written row) = place row := by
    by_cases isTask : row.id = task.id
    · simp only [written, if_pos isTask]
      rw [place_setTaskFields]
      simp [place, updateTaskPatch, toParent, root, depth]
    · simp only [written, if_neg isTask]
  have same {row : TaskRow} (inside : row ∈ store) (other : row ≠ task) : written row = row :=
    if_neg fun sameId => other (eq_of_id inv.nodup inside insideT sameId)
  -- The task stays where it is.
  let target : MoveTarget :=
    ⟨task.parentTaskId, task.rootTaskId, task.hierarchyDepth, task.hierarchyPosition⟩
  have destination : Destination store task target := by
    cases under : task.parentTaskId with
    | none =>
      obtain ⟨depth, root⟩ := (inv.placed task insideT).top under
      exact .top under depth root
    | some parentId =>
      obtain ⟨parent, insideP, named, project, depth, root⟩ :=
        (inv.placed task insideT).link parentId under
      have above : parent.hierarchyDepth < task.hierarchyDepth := by omega
      refine .under parent insideP ?_ ?_ (under.trans (congrArg some named.symm)) project depth root
      · rintro rfl
        exact lt_irrefl _ above
      · exact fun below => lt_asymm above (inv.below_depth insideP insideT below)
  have moves : Moves store task target written := by
    refine ⟨fun row => congrArg Place.id (samePlace row),
      fun row => congrArg Place.projectId (samePlace row), ?_, ?_, ?_, ?_, ?_⟩
    · exact ⟨congrArg Place.parentTaskId (samePlace task), congrArg Place.rootTaskId (samePlace task),
        congrArg Place.hierarchyDepth (samePlace task)⟩
    · intro row inside other below
      rw [same inside other]
      refine ⟨rfl, inv.below_root inside insideT below, ?_⟩
      simp [target]
    · exact fun row _ _ _ => samePlace row
    · intro row inside was child
      by_cases isTask : row = task
      · subst isTask
        simp only [written, if_true]
        exact (closes_setTaskFields _ _).mpr (closes (child rfl) was)
      · rwa [same inside isTask]
    · intro row inside under
      have other := (destination.not_under_below inv inside under).1
      rw [same inside other]
      exact inv.closed task insideT row inside under (by simp)
  have fits : moveFits store task target = true := by
    rw [moveFits_iff inv insideT]
    refine ⟨(inv.placed task insideT).bounded, fun row inside _ => ?_⟩
    have bounded := (inv.placed row inside).bounded
    show row.hierarchyDepth + (task.hierarchyDepth - task.hierarchyDepth) ≤ 2
    omega
  exact moves.keeps inv insideT destination fits

/-- The step lemma of `updateTask`. -/
theorem updateTask_keeps {context : RollupContext} {id : TaskId} {fields : TaskFieldsUpdate}
    {store' : TaskStore} (inv : HierarchyInv none store)
    (keepsRoots : keepsDescendantRoots store id fields = true)
    (ok : updateTask context id fields store = .ok store') : HierarchyInv none store' := by
  unfold updateTask at ok
  split at ok
  · cases ok
    exact inv
  rename_i task found
  obtain ⟨insideT, rfl⟩ := findTaskById_some found
  split at ok
  · cases ok
  rename_i hierarchy resolved
  cases ok
  refine HierarchyInv.keeps ?_
    ((keeps_refreshRollupsForParents _).trans keeps_refreshAncestorRollups)
  unfold resolveUpdateHierarchy at resolved
  cases move : fields.parentTaskId with
  | none =>
    rw [move] at resolved
    simp only [] at resolved
    split at resolved
    · cases resolved
    rename_i patch role
    cases resolved
    obtain ⟨-, root, depth, -⟩ := resolveRole_ok role
    have written := role_update_keeps context inv insideT role
    simp only [root, depth, Option.isSome_none, Bool.or_self, Bool.false_eq_true, ↓reduceIte]
    exact written.keeps keeps_promoteIfLinked
  | some next =>
    rw [move] at resolved
    simp only [] at resolved
    split at resolved
    · cases resolved
    rename_i target moved
    split at resolved
    swap
    · cases resolved
    rename_i fits
    split at resolved
    · cases resolved
    rename_i patch role
    cases resolved
    have named : next ≠ some "" := by
      rintro rfl
      simp [keepsDescendantRoots, move] at keepsRoots
    obtain ⟨toNext, destination⟩ := resolveMove_ok inv insideT named moved
    obtain ⟨write, relinks, relinked⟩ := relinks_of_update context inv insideT destination role
    obtain ⟨-, root, depth, -⟩ := resolveRole_ok role
    have kept : target.hierarchyDepth = task.hierarchyDepth →
        (∃ child ∈ store, child.parentTaskId = some task.id) →
        task.rootTaskId.getD task.id = target.rootTaskId.getD task.id := by
      intro sameDepth child
      cases destination with
      | top _ top root' =>
        have noRoot : task.rootTaskId = none := by
          cases under : task.parentTaskId with
          | none => exact ((inv.placed task insideT).top under).2
          | some parentId =>
            obtain ⟨parent, insideP, -, -, depth', -⟩ :=
              (inv.placed task insideT).link parentId under
            have nonneg := (inv.placed parent insideP).nonneg
            omega
        rw [noRoot, root']
      | under parent insideP _ _ under _ depth' root' =>
        have count := directChildCount_pos.mpr child
        have toParent : next = some parent.id := toNext.symm.trans under
        have rooted : task.rootTaskId = some (parent.rootTaskId.getD parent.id) := by
          simp only [keepsDescendantRoots, move, toParent, found,
            findTaskById_of_mem inv.nodup insideP, Bool.and_eq_true, Bool.or_eq_true,
            decide_eq_true_eq] at keepsRoots
          rcases keepsRoots.2 with (none | deeper) | rooted
          · omega
          · omega
          · exact rooted
        rw [rooted, root']
    obtain ⟨write', moves, shifted⟩ := relinks.shift inv insideT destination context.now kept
    simp only [root, depth, movePatch, Option.isSome_some, Bool.or_self, ↓reduceIte,
      Option.getD_some]
    rw [← toNext, relinked, shifted]
    exact moves.keeps inv insideT destination fits

end Update

end AifHandoff.Data
