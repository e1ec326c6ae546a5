import AifHandoff.Lib.Propagation
import AifHandoff.Data.HierarchyTable
import Mathlib.Data.List.ReduceOption

/-!
Which containers of the table carry the status that their children derive, and what
refreshes and other writes leave of that.

`RolledUp` is about one task. A refresh of a container makes it right for the container
and puts it at risk for the container's parent only, so that the loops over the ancestors
are climbs in the sense of `AifHandoff.Lib.Propagation`.
-/

namespace AifHandoff.Data

open Forest Propagation

/-- The parent links of a table; the empty text is no link. -/
def linkOf (store : TaskStore) (id : TaskId) : Option TaskId :=
  (findTaskById store id).bind parentLink

/-- The row is no open container with children, or has the status they derive. -/
def isRolledUp (view : RollupView) (store : TaskStore) (row : TaskRow) : Bool :=
  row.hierarchyRole != .container || row.status == .verified ||
    (directChildrenOf store row.id).isEmpty ||
    row.status == computeParentRollupStatus view row (directChildrenOf store row.id)

def RolledUp (view : RollupView) (store : TaskStore) (id : TaskId) : Prop :=
  ∀ row, findTaskById store id = some row → isRolledUp view store row = true

/-- Links lead from row to row and never round. -/
structure Linked (store : TaskStore) : Prop where
  nodup : (store.map (·.id)).Nodup
  named : ∀ row ∈ store, row.id ≠ ""
  parents : ∀ row ∈ store, ∀ parentId, parentLink row = some parentId →
    ∃ parent ∈ store, parent.id = parentId
  acyclic : Acyclic (linkOf store)

section Links

variable {store store' : TaskStore} {row : TaskRow} {id parentId : TaskId}

theorem linkOf_of_mem (nodup : (store.map (·.id)).Nodup) (inside : row ∈ store) :
    linkOf store row.id = parentLink row := by
  rw [linkOf, findTaskById_of_mem nodup inside, Option.bind_some]

theorem linkOf_some (link : linkOf store id = some parentId) :
    ∃ row ∈ store, row.id = id ∧ parentLink row = some parentId := by
  obtain ⟨row, found, toParent⟩ := Option.bind_eq_some_iff.mp link
  obtain ⟨inside, same⟩ := findTaskById_some found
  exact ⟨row, inside, same, toParent⟩

theorem parentLink_some (link : parentLink row = some parentId) :
    row.parentTaskId = some parentId ∧ parentId ≠ "" := by
  simpa [parentLink, Option.filter_eq_some_iff] using link

theorem Linked.parent_mem (linked : Linked store) (link : linkOf store id = some parentId) :
    parentId ∈ store.map (·.id) := by
  obtain ⟨row, inside, -, toParent⟩ := linkOf_some link
  obtain ⟨parent, inside', same⟩ := linked.parents row inside parentId toParent
  exact List.mem_map.mpr ⟨parent, inside', same⟩

/-- No chain of links is longer than the table. -/
theorem Linked.length_le (linked : Linked store) {n : Nat} {ancestor : TaskId}
    (above : Above (linkOf store) id n ancestor) : n ≤ store.length := by
  have bound : n ≤ (store.map (·.id)).length :=
    linked.acyclic.length_le (fun _ _ link => linked.parent_mem link) above
  rwa [List.length_map] at bound

/-- A task is not a child of itself. -/
theorem Linked.not_own_child (linked : Linked store) (id : TaskId) : linkOf store id ≠ some id :=
  fun link => linked.acyclic id 0 (.link link (.self id))

/-- The children of a named task are the rows that link to it. -/
theorem mem_directChildrenOf_link (named : id ≠ "") :
    row ∈ directChildrenOf store id ↔ row ∈ store ∧ parentLink row = some id := by
  rw [mem_directChildrenOf]
  refine and_congr_right fun _ => ⟨fun toId => parentLink_of_some toId named, fun link => ?_⟩
  exact (parentLink_some link).1

end Links

/-! ### Writes -/

/-- The columns a rollup reads, and those that order siblings. -/
structure RollupColumns where
  id : TaskId
  projectId : String
  parentTaskId : Option TaskId
  status : TaskStatus
  manualReviewRequired : Bool
  taskIntent : TaskIntent
  hierarchyRole : TaskHierarchyRole
  parentCloseoutPolicy : Option TaskParentCloseoutPolicy
  hierarchyPosition : Int
  position : Int
  createdAt : Nat
deriving DecidableEq, Repr

def rollupColumns (row : TaskRow) : RollupColumns :=
  ⟨row.id, row.projectId, row.parentTaskId, row.status, row.manualReviewRequired, row.taskIntent,
    row.hierarchyRole, row.parentCloseoutPolicy, row.hierarchyPosition, row.position,
    row.createdAt⟩

section Writes

variable {view view' : RollupView} {store store' : TaskStore} {write : TaskRow → TaskRow}
  {parent parent' row : TaskRow} {id : TaskId} {children : List TaskRow}

theorem effectiveCloseoutPolicy_columns (same : rollupColumns parent' = rollupColumns parent) :
    effectiveCloseoutPolicy parent' = effectiveCloseoutPolicy parent := by
  simp only [rollupColumns, RollupColumns.mk.injEq] at same
  simp only [effectiveCloseoutPolicy, same]

section Columns

variable (same : ∀ row, rollupColumns (write row) = rollupColumns row)

include same

theorem childBlocksHierarchyRollup_columns :
    childBlocksHierarchyRollup view ∘ write = childBlocksHierarchyRollup view := by
  funext row
  have columns := same row
  simp only [rollupColumns, RollupColumns.mk.injEq] at columns
  obtain ⟨id, -, -, status, manual, intent, -⟩ := columns
  simp only [Function.comp, childBlocksHierarchyRollup, id, status, manual, intent]

theorem findAuthoritativeSynthesisChild_columns
    (sameParent : rollupColumns parent' = rollupColumns parent) :
    findAuthoritativeSynthesisChild view parent' (children.map write) =
      (findAuthoritativeSynthesisChild view parent children).map write := by
  have sameId : ∀ other, ((fun row : TaskRow => row.id == other) ∘ write) = (·.id == other) := by
    intro other
    funext row
    exact congrArg (·.id == other) (same row)
  have policy := effectiveCloseoutPolicy_columns sameParent
  simp only [rollupColumns, RollupColumns.mk.injEq] at sameParent
  obtain ⟨-, project, -, -, -, intent, -⟩ := sameParent
  unfold findAuthoritativeSynthesisChild
  rw [policy, intent, project]
  simp only [List.any_map, List.isEmpty_map, sameId]
  split
  · rfl
  split
  · rfl
  split
  · rw [List.find?_map, sameId]
  · rfl

theorem computeParentRollupStatus_columns
    (sameParent : rollupColumns parent' = rollupColumns parent) :
    computeParentRollupStatus view parent' (children.map write) =
      computeParentRollupStatus view parent children := by
  have status (row : TaskRow) : (write row).status = row.status :=
    congrArg RollupColumns.status (same row)
  have sameStatus : parent'.status = parent.status := congrArg RollupColumns.status sameParent
  unfold computeParentRollupStatus
  rw [findAuthoritativeSynthesisChild_columns same sameParent,
    effectiveCloseoutPolicy_columns sameParent, sameStatus]
  simp only [List.isEmpty_map, List.any_map, List.all_map, Option.map_map,
    childBlocksHierarchyRollup_columns same, Function.comp_def, status]

theorem directChildrenOf_map : directChildrenOf (store.map write) id =
    (directChildrenOf store id).map write := by
  have sameLink : ((fun row : TaskRow => row.parentTaskId == some id) ∘ write) =
      (·.parentTaskId == some id) := by
    funext row
    exact congrArg (·.parentTaskId == some id) (same row)
  unfold directChildrenOf
  rw [List.filter_map, sameLink]
  symm
  apply List.map_insertionSort
  intro a _ b _
  have columnsA := same a
  have columnsB := same b
  simp only [rollupColumns, RollupColumns.mk.injEq] at columnsA columnsB
  simp only [siblingOrder, columnsA, columnsB]

theorem RolledUp.map (rolled : RolledUp view store id) : RolledUp view (store.map write) id := by
  intro row' found'
  have sameId (row : TaskRow) : (write row).id = row.id := congrArg RollupColumns.id (same row)
  rw [findTaskById_map sameId] at found'
  obtain ⟨row, found, rfl⟩ := Option.map_eq_some_iff.mp found'
  have before := rolled row found
  have derived : computeParentRollupStatus view (write row)
      ((directChildrenOf store row.id).map write) =
        computeParentRollupStatus view row (directChildrenOf store row.id) :=
    computeParentRollupStatus_columns same (same row)
  have columns := same row
  simp only [rollupColumns, RollupColumns.mk.injEq] at columns
  simp only [isRolledUp, sameId, directChildrenOf_map same, List.isEmpty_map, derived,
    columns] at before ⊢
  exact before

end Columns

/-- A task whose row and children stay keeps what it has, as long as the view derives
the same from them. -/
theorem RolledUp.of_same (rolled : RolledUp view store id)
    (row : ∀ row, findTaskById store' id = some row → findTaskById store id = some row)
    (children : directChildrenOf store' id = directChildrenOf store id)
    (derived : ∀ row, findTaskById store id = some row →
      computeParentRollupStatus view' row (directChildrenOf store id) =
        computeParentRollupStatus view row (directChildrenOf store id)) :
    RolledUp view' store' id := by
  intro row' found'
  have found := row row' found'
  have before := rolled row' found
  have sameId := (findTaskById_some found).2
  unfold isRolledUp at before ⊢
  rw [sameId] at before ⊢
  rw [children, derived row' found]
  exact before

/-- A single-row write that keeps the id. -/
theorem directChildrenOf_updateWhereId_of_ne {other : TaskId} (named : other ≠ "")
    (before : ∀ row ∈ store, row.id = id → parentLink row ≠ some other)
    (after : ∀ row ∈ store, row.id = id → parentLink (write row) ≠ some other) :
    directChildrenOf (updateWhereId store id write) other = directChildrenOf store other := by
  have isLink (row : TaskRow) : (row.parentTaskId == some other) =
      (parentLink row == some other) := by
    rw [Bool.eq_iff_iff, beq_iff_eq, beq_iff_eq]
    exact ⟨fun toOther => parentLink_of_some toOther named, fun link => (parentLink_some link).1⟩
  unfold directChildrenOf updateWhereId
  congr 1
  simp only [isLink]
  induction store with
  | nil => rfl
  | cons row store ih =>
    have rest := ih (fun row inside => before row (List.mem_cons_of_mem _ inside))
      (fun row inside => after row (List.mem_cons_of_mem _ inside))
    rw [List.map_cons, List.filter_cons, List.filter_cons, rest]
    by_cases same : row.id = id
    · have no := before row (List.mem_cons_self ..) same
      have no' := after row (List.mem_cons_self ..) same
      simp [same, no, no']
    · simp [same]

end Writes

/-! ### Refreshes -/

/-- The links of the table are these. -/
structure HasLinks (parent : TaskId → Option TaskId) (store : TaskStore) : Prop where
  nodup : (store.map (·.id)).Nodup
  named : ∀ row ∈ store, row.id ≠ ""
  links : linkOf store = parent

section Refresh

variable {context : RollupContext} {store : TaskStore} {id y : TaskId}
  {parent : TaskId → Option TaskId}

theorem place_refreshParentRollup (view : RollupView) (children : List TaskRow) (now : Nat)
    (row : TaskRow) : place (refreshParentRollup view children now row) = place row :=
  (refreshParentRollup_keeps view children now row).1

section Map

variable {write : TaskRow → TaskRow} (keepsId : ∀ row, (write row).id = row.id)
  (keepsParent : ∀ row, (write row).parentTaskId = row.parentTaskId)

include keepsId keepsParent

/-- A map that keeps ids and parents keeps the links. -/
theorem linkOf_map : linkOf (store.map write) = linkOf store := by
  funext id
  rw [linkOf, linkOf, findTaskById_map keepsId]
  cases findTaskById store id with
  | none => rfl
  | some row => exact congrArg (·.filter (· ≠ "")) (keepsParent row)

theorem Linked.map (linked : Linked store) : Linked (store.map write) := by
  refine ⟨?_, ?_, ?_, ?_⟩
  · simpa [Function.comp_def, keepsId] using linked.nodup
  · simpa [keepsId] using linked.named
  · intro row' image parentId link
    obtain ⟨row, inside, rfl⟩ := List.mem_map.mp image
    rw [parentLink, keepsParent] at link
    obtain ⟨parent, inside', named⟩ := linked.parents row inside parentId link
    exact ⟨write parent, List.mem_map_of_mem inside', by rw [keepsId, named]⟩
  · rw [linkOf_map keepsId keepsParent]
    exact linked.acyclic

end Map

theorem Keeps.linked {store' : TaskStore} (keeps : Keeps store store') (linked : Linked store) :
    Linked store' ∧ linkOf store' = linkOf store := by
  obtain ⟨write, rfl, keeps⟩ := keeps
  have sameId (row : TaskRow) : (write row).id = row.id := congrArg Place.id (keeps row).1
  have sameParent (row : TaskRow) : (write row).parentTaskId = row.parentTaskId :=
    congrArg Place.parentTaskId (keeps row).1
  exact ⟨linked.map sameId sameParent, linkOf_map sameId sameParent⟩

/-- The derived status of a container with children reads of its own row only the policy,
the intent and the project. -/
theorem computeParentRollupStatus_parent {view : RollupView} {children : List TaskRow}
    {row row' : TaskRow} (nonempty : children ≠ [])
    (policy : effectiveCloseoutPolicy row' = effectiveCloseoutPolicy row)
    (intent : row'.taskIntent = row.taskIntent) (project : row'.projectId = row.projectId) :
    computeParentRollupStatus view row' children = computeParentRollupStatus view row children := by
  have some_ : children.isEmpty = false := by simpa using nonempty
  have authoritative : findAuthoritativeSynthesisChild view row' children =
      findAuthoritativeSynthesisChild view row children := by
    simp only [findAuthoritativeSynthesisChild, policy, intent, project]
  unfold computeParentRollupStatus
  rw [some_, if_neg Bool.false_ne_true, if_neg Bool.false_ne_true, authoritative, policy]

/-- A refreshed container has the status that its children derive. -/
theorem refreshParentRollup_derived (view : RollupView) (children : List TaskRow) (now : Nat)
    (row : TaskRow) (refreshed : TaskRow)
    (done : refreshParentRollup view children now row = refreshed) :
    refreshed.hierarchyRole ≠ .container ∨ refreshed.status = .verified ∨ children = [] ∨
      refreshed.status = computeParentRollupStatus view refreshed children := by
  by_cases empty : children = []
  · exact .inr (.inr (.inl empty))
  unfold refreshParentRollup at done
  split at done
  next skips =>
    subst done
    rw [Bool.or_eq_true, decide_eq_true_eq, decide_eq_true_eq] at skips
    rcases skips with notContainer | verified
    · exact .inl notContainer
    · exact .inr (.inl verified)
  next open_ =>
    simp only [ne_eq, Bool.or_eq_true, decide_eq_true_eq, not_or, not_not] at open_
    right; right; right
    have written : refreshed.status = computeParentRollupStatus view row children ∧
        refreshed.taskIntent = row.taskIntent ∧ refreshed.projectId = row.projectId ∧
        effectiveCloseoutPolicy refreshed = effectiveCloseoutPolicy row := by
      subst done
      unfold parentRollupPatch
      dsimp only
      split_ifs <;> simp [effectiveCloseoutPolicy, open_.1]
    obtain ⟨status, intent, project, policy⟩ := written
    rw [status, computeParentRollupStatus_parent empty policy intent project]

/-- What a refresh of one container does to the table. -/
theorem refreshes_refreshParentRollupOf (context : RollupContext) (acyclic : Acyclic parent) :
    Refreshes parent (refreshParentRollupOf context) (RolledUp context.view) (HasLinks parent) := by
  have sameId (store : TaskStore) (x : TaskId) (row : TaskRow) : (refreshParentRollup context.view
      (directChildrenOf store x) context.now row).id = row.id :=
    congrArg Place.id (place_refreshParentRollup _ _ _ row)
  have sameLink (store : TaskStore) (x : TaskId) (row : TaskRow) :
      parentLink (refreshParentRollup context.view (directChildrenOf store x) context.now row) =
        parentLink row := by
    have sameParent : (refreshParentRollup context.view (directChildrenOf store x) context.now
        row).parentTaskId = row.parentTaskId :=
      congrArg Place.parentTaskId (place_refreshParentRollup _ _ _ row)
    rw [parentLink, parentLink, sameParent]
  have children {store : TaskStore} {x y : TaskId} (valid : HasLinks parent store) (named : y ≠ "")
      (noParent : parent x ≠ some y) :
      directChildrenOf (refreshParentRollupOf context store x) y = directChildrenOf store y := by
    have noLink : ∀ row ∈ store, row.id = x → parentLink row ≠ some y := by
      rintro row inside rfl link
      rw [← linkOf_of_mem valid.nodup inside, valid.links] at link
      exact noParent link
    refine directChildrenOf_updateWhereId_of_ne named noLink fun row inside same => ?_
    rw [sameLink]
    exact noLink row inside same
  refine ⟨?_, ?_, ?_⟩
  · rintro store x ⟨nodup, named, links⟩
    have keeps : Keeps store (refreshParentRollupOf context store x) := keeps_refreshParentRollupOf
    obtain ⟨write, done, keeps⟩ := keeps
    rw [done]
    have writtenId (row : TaskRow) : (write row).id = row.id := congrArg Place.id (keeps row).1
    have writtenParent (row : TaskRow) : (write row).parentTaskId = row.parentTaskId :=
      congrArg Place.parentTaskId (keeps row).1
    refine ⟨?_, ?_, ?_⟩
    · simpa [Function.comp_def, writtenId] using nodup
    · simpa [writtenId] using named
    · rw [linkOf_map writtenId writtenParent, links]
  · intro store x valid row' found'
    rw [refreshParentRollupOf, findTaskById_updateWhereId (sameId store x)] at found'
    obtain ⟨row, found, done⟩ := Option.map_eq_some_iff.mp found'
    rw [if_pos rfl] at done
    obtain ⟨inside, rfl⟩ := findTaskById_some found
    have named := valid.named row inside
    have ownChild : parent row.id ≠ some row.id :=
      fun link => acyclic row.id 0 (.link link (.self _))
    have derived := refreshParentRollup_derived _ _ _ row row' done
    have id' : row'.id = row.id := by rw [← done, sameId]
    unfold isRolledUp
    rw [id', children valid named ownChild]
    rcases derived with notContainer | verified | none_ | right
    · simp [notContainer]
    · simp [verified]
    · simp [none_]
    · simp [← right]
  · intro store x y valid other noParent rolled row' found'
    have kept : findTaskById (refreshParentRollupOf context store x) y = findTaskById store y := by
      rw [refreshParentRollupOf, findTaskById_updateWhereId (sameId store x)]
      simp [other]
    have found := kept.symm.trans found'
    obtain ⟨inside, same⟩ := findTaskById_some found
    have named : y ≠ "" := same ▸ valid.named row' inside
    have stays : RolledUp context.view (refreshParentRollupOf context store x) y :=
      rolled.of_same (fun row found' => kept.symm.trans found') (children valid named noParent)
        fun _ _ => rfl
    exact stays row' found'

end Refresh

/-! ### The loops -/

section Loops

variable {context : RollupContext} {store : TaskStore} {id y : TaskId}
  {parent : TaskId → Option TaskId}

theorem Linked.hasLinks (linked : Linked store) : HasLinks (linkOf store) store :=
  ⟨linked.nodup, linked.named, rfl⟩

theorem bind_parentLink (valid : HasLinks parent store) :
    (findTaskById store id).bind parentLink = parent id :=
  congrFun valid.links id

theorem refreshAncestorsFrom_eq_climb (acyclic : Acyclic parent) (bound : Nat)
    (valid : HasLinks parent store) {visited : List TaskId}
    (unvisited : ∀ x ∈ visited, ¬ IsAncestor parent id x) :
    refreshAncestorsFrom context bound store visited (findTaskById store id) =
      climb parent (refreshParentRollupOf context) bound store id := by
  induction bound generalizing store visited id with
  | zero => rfl
  | succ bound ih =>
    unfold refreshAncestorsFrom climb
    rw [bind_parentLink valid]
    cases toParent : parent id with
    | none => rfl
    | some p =>
      have new : p ∉ visited := fun again => unvisited p again ⟨0, .link toParent (.self p)⟩
      dsimp only
      rw [if_neg new]
      refine ih ((refreshes_refreshParentRollupOf context acyclic).valid valid) ?_
      intro x among ancestor
      rcases List.mem_cons.mp among with rfl | seen
      · obtain ⟨n, cycle⟩ := ancestor
        exact acyclic x n cycle
      · exact unvisited x seen ((isAncestor_iff toParent).mpr (.inr ancestor))

/-- The loop over the ancestors leaves every ancestor rolled up, and whatever was. -/
theorem rolledUp_refreshAncestorRollups (linked : Linked store)
    (known : IsAncestor (linkOf store) id y ∨ RolledUp context.view store y) :
    RolledUp context.view (refreshAncestorRollups context store id) y := by
  unfold refreshAncestorRollups
  rw [refreshAncestorsFrom_eq_climb linked.acyclic _ linked.hasLinks (by simp)]
  refine climb_correct (refreshes_refreshParentRollupOf context linked.acyclic) linked.hasLinks
    (fun n a above => ?_) known
  have bound := linked.length_le above
  omega

theorem rolledUp_refreshUp (linked : Linked store)
    (known : y = id ∨ IsAncestor (linkOf store) id y ∨ RolledUp context.view store y) :
    RolledUp context.view
      (refreshAncestorRollups context (refreshParentRollupOf context store id) id) y := by
  have refreshes := refreshes_refreshParentRollupOf context linked.acyclic
  unfold refreshAncestorRollups
  rw [refreshAncestorsFrom_eq_climb linked.acyclic _ (refreshes.valid linked.hasLinks) (by simp)]
  refine refreshUp_correct refreshes linked.hasLinks (fun n a above => ?_) known
  have bound := linked.length_le above
  have length : (refreshParentRollupOf context store id).length = store.length := by
    simp [refreshParentRollupOf, updateWhereId]
  omega

/-- The loop of `refreshRollupsForParents`, over distinct and named ids. -/
theorem rolledUp_foldl (linked : Linked store) (ids : List TaskId)
    (known : (∃ x ∈ ids, y = x ∨ IsAncestor (linkOf store) x y) ∨ RolledUp context.view store y) :
    RolledUp context.view (ids.foldl (fun store parentId =>
      refreshAncestorRollups context (refreshParentRollupOf context store parentId) parentId)
        store) y := by
  induction ids generalizing store with
  | nil =>
    rcases known with ⟨x, among, -⟩ | fine
    · cases among
    · exact fine
  | cons x ids ih =>
    have keeps : Keeps store (refreshAncestorRollups context
        (refreshParentRollupOf context store x) x) :=
      keeps_refreshParentRollupOf.trans keeps_refreshAncestorRollups
    obtain ⟨linked', links⟩ := keeps.linked linked
    rw [List.foldl_cons]
    refine ih linked' ?_
    rw [links]
    rcases known with ⟨x', among, above⟩ | fine
    · rcases List.mem_cons.mp among with rfl | later
      · rcases above with rfl | ancestor
        · exact .inr (rolledUp_refreshUp linked (.inl rfl))
        · exact .inr (rolledUp_refreshUp linked (.inr (.inl ancestor)))
      · exact .inl ⟨x', later, above⟩
    · exact .inr (rolledUp_refreshUp linked (.inr (.inr fine)))

theorem rolledUp_refreshRollupsForParents (linked : Linked store)
    (parentIds : List (Option TaskId))
    (known : (∃ x, some x ∈ parentIds ∧ x ≠ "" ∧ (y = x ∨ IsAncestor (linkOf store) x y)) ∨
      RolledUp context.view store y) :
    RolledUp context.view (refreshRollupsForParents context store parentIds) y := by
  apply rolledUp_foldl linked
  rcases known with ⟨x, listed, named, above⟩ | fine
  · refine .inl ⟨x, ?_, above⟩
    rw [List.mem_eraseDups, List.mem_filter]
    exact ⟨List.reduceOption_mem_iff.mpr listed, by simpa using named⟩
  · exact .inr fine

end Loops

end AifHandoff.Data
