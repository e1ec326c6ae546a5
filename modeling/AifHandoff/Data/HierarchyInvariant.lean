import AifHandoff.Data.HierarchyTable

/-!
The representation invariant of the task hierarchy, and new tasks.

`HierarchyInv` is local: it compares each row with the row of its parent. Writes
that keep every place and every container keep it (`HierarchyInv.keeps`), promoting
the pending parent completes it (`HierarchyInv.promote`), and in such a table only
three levels exist (`HierarchyInv.leaves`).
-/

namespace AifHandoff.Data

/-- The row agrees with the row of its parent. -/
structure Placed (store : TaskStore) (row : TaskRow) : Prop where
  nonneg : 0 ≤ row.hierarchyDepth
  bounded : row.hierarchyDepth ≤ 2
  top : row.parentTaskId = none → row.hierarchyDepth = 0 ∧ row.rootTaskId = none
  link : ∀ parentId, row.parentTaskId = some parentId → ∃ parent ∈ store,
    parent.id = parentId ∧ parent.projectId = row.projectId ∧
      row.hierarchyDepth = parent.hierarchyDepth + 1 ∧
      row.rootTaskId = some (parent.rootTaskId.getD parent.id)

/-- The invariant; the parent named by `pending` is yet to be promoted. -/
structure HierarchyInv (pending : Option TaskId) (store : TaskStore) : Prop where
  nodup : (store.map (·.id)).Nodup
  named : ∀ row ∈ store, row.id ≠ ""
  placed : ∀ row ∈ store, Placed store row
  closed : ∀ row ∈ store, ∀ parent ∈ store, row.parentTaskId = some parent.id →
    some parent.id ≠ pending → Closes parent

section Invariant

variable {store store' : TaskStore} {pending : Option TaskId} {row : TaskRow} {id : TaskId}

/-- The invariant only reads places and containers. -/
theorem HierarchyInv.keeps (inv : HierarchyInv pending store) (keeps : Keeps store store') :
    HierarchyInv pending store' := by
  obtain ⟨write, rfl, keeps⟩ := keeps
  have sameId (row : TaskRow) : (write row).id = row.id := congrArg Place.id (keeps row).1
  have sameProject (row : TaskRow) : (write row).projectId = row.projectId :=
    congrArg Place.projectId (keeps row).1
  have sameParent (row : TaskRow) : (write row).parentTaskId = row.parentTaskId :=
    congrArg Place.parentTaskId (keeps row).1
  have sameRoot (row : TaskRow) : (write row).rootTaskId = row.rootTaskId :=
    congrArg Place.rootTaskId (keeps row).1
  have sameDepth (row : TaskRow) : (write row).hierarchyDepth = row.hierarchyDepth :=
    congrArg Place.hierarchyDepth (keeps row).1
  refine ⟨?_, ?_, ?_, ?_⟩
  · simpa [Function.comp_def, sameId] using inv.nodup
  · simpa [sameId] using inv.named
  · intro written image
    obtain ⟨row, inside, rfl⟩ := List.mem_map.mp image
    obtain ⟨nonneg, bounded, top, link⟩ := inv.placed row inside
    refine ⟨by rwa [sameDepth], by rwa [sameDepth], ?_, ?_⟩
    · rw [sameParent, sameDepth, sameRoot]
      exact top
    · intro parentId toParent
      rw [sameParent] at toParent
      obtain ⟨parent, inside', named, project, depth, root⟩ := link parentId toParent
      refine ⟨write parent, List.mem_map_of_mem inside', ?_⟩
      rw [sameId, sameProject, sameProject, sameDepth, sameDepth, sameRoot, sameRoot]
      exact ⟨named, project, depth, root⟩
  · intro written image writtenParent image' toParent awaited
    obtain ⟨row, inside, rfl⟩ := List.mem_map.mp image
    obtain ⟨parent, inside', rfl⟩ := List.mem_map.mp image'
    rw [sameParent, sameId] at toParent
    rw [sameId] at awaited
    exact (keeps parent).2 (inv.closed row inside parent inside' toParent awaited)

theorem HierarchyInv.promote {context : RollupContext} (inv : HierarchyInv (some id) store) :
    HierarchyInv none (promoteToContainer context store id) := by
  have promoted : Keeps store (promoteToContainer context store id) := keeps_promoteToContainer
  obtain ⟨nodup, named, placed, -⟩ := inv.keeps promoted
  refine ⟨nodup, named, placed, ?_⟩
  intro written image writtenParent image' toParent _
  obtain ⟨row, inside, rfl⟩ := List.mem_map.mp image
  obtain ⟨parent, inside', rfl⟩ := List.mem_map.mp image'
  by_cases isPending : parent.id = id
  · simp only [isPending, ↓reduceIte]
    exact closes_promoteParentToContainer _ _
  · simp only [isPending, ↓reduceIte] at toParent ⊢
    refine inv.closed row inside parent inside' ?_ (by simpa using isPending)
    split at toParent
    · exact (congrArg Place.parentTaskId (place_promoteParentToContainer context.now row)).symm.trans
        toParent
    · exact toParent

/-- The parent of a row is in the table, one level up. -/
theorem HierarchyInv.parent (inv : HierarchyInv pending store) (inside : row ∈ store)
    {parent : TaskRow} (inside' : parent ∈ store) (toParent : row.parentTaskId = some parent.id) :
    parent.projectId = row.projectId ∧ row.hierarchyDepth = parent.hierarchyDepth + 1 ∧
      row.rootTaskId = some (parent.rootTaskId.getD parent.id) := by
  obtain ⟨other, inside'', same, facts⟩ := (inv.placed row inside).link _ toParent
  rw [eq_of_id inv.nodup inside'' inside' same] at facts
  exact facts

/-- A row below a task lies deeper. -/
theorem HierarchyInv.below_depth (inv : HierarchyInv pending store) {task : TaskRow}
    (inside : row ∈ store) (inside' : task ∈ store) (below : Below store task.id row) :
    task.hierarchyDepth < row.hierarchyDepth := by
  rcases below with toTask | ⟨child, insideC, toTask, toChild⟩
  · have step := (inv.parent inside inside' toTask).2.1
    omega
  · have first := (inv.parent insideC inside' toTask).2.1
    have second := (inv.parent inside insideC toChild).2.1
    omega

/-- Three levels are all there are: no grandchild has children. -/
theorem HierarchyInv.leaves (inv : HierarchyInv pending store) (inside : row ∈ store) :
    ∀ child ∈ directChildrenOf store row.id, ∀ grandchild ∈ directChildrenOf store child.id,
      directChildrenOf store grandchild.id = [] := by
  intro child isChild grandchild isGrandchild
  rw [mem_directChildrenOf] at isChild isGrandchild
  rw [List.eq_nil_iff_forall_not_mem]
  intro deeper isDeeper
  rw [mem_directChildrenOf] at isDeeper
  have one := (inv.parent isChild.1 inside isChild.2).2.1
  have two := (inv.parent isGrandchild.1 isChild.1 isGrandchild.2).2.1
  have three := (inv.parent isDeeper.1 isGrandchild.1 isDeeper.2).2.1
  have nonneg := (inv.placed row inside).nonneg
  have bounded := (inv.placed deeper isDeeper.1).bounded
  omega

end Invariant

/-! ### Creating a task -/

section Create

variable {store : TaskStore} {input : CreateTaskInput} {hierarchy : TaskHierarchy}

/-- What an accepted hierarchy of a new task says. -/
theorem resolveCreateHierarchy_ok (ok : resolveCreateHierarchy store input = .ok hierarchy) :
    (hierarchy.parentTaskId = none ∧ hierarchy.hierarchyDepth = 0 ∧ hierarchy.rootTaskId = none) ∨
    ∃ parent ∈ store, hierarchy.parentTaskId = some parent.id ∧
      parent.projectId = input.projectId ∧
      hierarchy.hierarchyDepth = parent.hierarchyDepth + 1 ∧ hierarchy.hierarchyDepth ≤ 2 ∧
      hierarchy.rootTaskId = some (parent.rootTaskId.getD parent.id) := by
  unfold resolveCreateHierarchy at ok
  simp only [] at ok
  split at ok
  · split at ok
    · cases ok
    rename_i parent found
    split_ifs at ok with project depth policy
    cases ok
    right
    refine ⟨parent, (findTaskById_some found).1, rfl, by simpa using project, rfl, ?_, rfl⟩
    simpa [maxTaskHierarchyDepth] using depth
  · split_ifs at ok
    cases ok
    exact .inl ⟨rfl, rfl, rfl⟩

/-- Inserting the new row keeps the invariant but for the promotion of its parent. -/
theorem insert_keeps {id : TaskId} (reviewIterations now : Nat) (inv : HierarchyInv none store)
    (ok : resolveCreateHierarchy store input = .ok hierarchy) (named : id ≠ "")
    (fresh : findTaskById store id = none) :
    HierarchyInv hierarchy.parentTaskId
      (store ++ [newTaskRow store input hierarchy id reviewIterations now]) := by
  have unused : ∀ row ∈ store, row.id ≠ id := by
    simpa [findTaskById] using fresh
  have resolved := resolveCreateHierarchy_ok ok
  refine ⟨?_, ?_, ?_, ?_⟩
  · rw [List.map_append, List.nodup_append]
    refine ⟨inv.nodup, by simp, ?_⟩
    intro used listed other isNew
    obtain ⟨row, inside, rfl⟩ := List.mem_map.mp listed
    simp only [List.map_cons, List.map_nil, List.mem_singleton] at isNew
    rw [isNew]
    exact unused row inside
  · intro row inside
    rcases List.mem_append.mp inside with old | new
    · exact inv.named row old
    · rw [List.mem_singleton.mp new]
      exact named
  · intro row inside
    rcases List.mem_append.mp inside with old | new
    · obtain ⟨nonneg, bounded, top, link⟩ := inv.placed row old
      refine ⟨nonneg, bounded, top, fun parentId toParent => ?_⟩
      obtain ⟨parent, inside', facts⟩ := link parentId toParent
      exact ⟨parent, List.mem_append_left _ inside', facts⟩
    · rw [List.mem_singleton.mp new]
      rcases resolved with ⟨noParent, depth, root⟩ | ⟨parent, inside', toParent, project, depth,
        bounded, root⟩
      · refine ⟨?_, ?_, fun _ => ⟨depth, root⟩, fun parentId toParent => ?_⟩
        · exact depth.symm.le
        · exact depth.le.trans (by decide)
        · exact absurd (noParent.symm.trans toParent) (by simp)
      · have nonneg := (inv.placed parent inside').nonneg
        refine ⟨?_, bounded, fun noParent => ?_, fun parentId toId => ?_⟩
        · show 0 ≤ hierarchy.hierarchyDepth
          omega
        · exact absurd (toParent.symm.trans noParent) (by simp)
        · have same := Option.some.inj (toParent.symm.trans toId)
          exact ⟨parent, List.mem_append_left _ inside', same, project, depth, root⟩
  · intro row inside parent inside' toParent awaited
    have oldParent : parent ∈ store := by
      rcases List.mem_append.mp inside' with old | new
      · exact old
      -- No row names the fresh id as its parent.
      · have isNew : parent.id = id := by
          rw [List.mem_singleton.mp new]
          rfl
        rw [isNew] at toParent
        rcases List.mem_append.mp inside with old | new'
        · obtain ⟨other, inside'', same, -⟩ := (inv.placed row old).link _ toParent
          exact absurd same (unused other inside'')
        · rw [List.mem_singleton.mp new'] at toParent
          rcases resolved with ⟨noParent, -⟩ | ⟨other, inside'', toOther, -⟩
          · exact absurd (noParent.symm.trans toParent) (by simp)
          · exact absurd (Option.some.inj (toOther.symm.trans toParent)) (unused other inside'')
    rcases List.mem_append.mp inside with old | new
    · exact inv.closed row old parent oldParent toParent (by simp)
    · rw [List.mem_singleton.mp new] at toParent
      exact absurd toParent.symm awaited

theorem createTask_keeps {context : RollupContext} {reviewIterations : Nat} {id : TaskId}
    {store' : TaskStore} (inv : HierarchyInv none store) (named : id ≠ "")
    (ok : createTask context reviewIterations id input store = .ok store') :
    HierarchyInv none store' := by
  unfold createTask at ok
  split at ok
  · cases ok
  rename_i hierarchy resolved
  split_ifs at ok with used
  have fresh : findTaskById store id = none := by simpa using used
  have inserted := insert_keeps reviewIterations context.now inv resolved named fresh
  simp only [] at ok
  split at ok
  · rename_i noParent
    cases ok
    rwa [noParent] at inserted
  · rename_i parentId toParent
    cases ok
    rw [toParent] at inserted
    exact inserted.promote.keeps (keeps_refreshRollupsForParents _)

end Create

end AifHandoff.Data
