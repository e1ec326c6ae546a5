import AifHandoff.Data.RollupOps
import AifHandoff.Data.HierarchyMove

/-!
What the writes to the `tasks` table leave rolled up, once the ancestors are refreshed.

The written row itself is refreshed by none of them: it has to agree with its children.
-/

namespace AifHandoff.Data

open Forest Propagation

section Single

variable {view : RollupView} {store : TaskStore} {write : TaskRow → TaskRow} {row : TaskRow}
  {id y : TaskId}

/-- A write to one row leaves the links of the others. -/
theorem linkOf_updateWhereId (keepsId : ∀ row, (write row).id = row.id) (other : TaskId) :
    linkOf (updateWhereId store id write) other =
      if other = id then (findTaskById store id).bind fun row => parentLink (write row)
      else linkOf store other := by
  rw [linkOf, findTaskById_updateWhereId keepsId]
  split
  next same => rw [same]; cases findTaskById store id <;> rfl
  next => rw [linkOf]; cases findTaskById store other <;> rfl

/-- A row may be linked anew below a row that is not below it. -/
theorem Linked.relink (linked : Linked store) (keepsId : ∀ row, (write row).id = row.id)
    (parents : ∀ row ∈ store, row.id = id → ∀ parentId, parentLink (write row) = some parentId →
      (∃ parent ∈ store, parent.id = parentId) ∧ parentId ≠ id ∧
        ¬ IsAncestor (linkOf store) parentId id) :
    Linked (updateWhereId store id write) := by
  refine ⟨?_, ?_, ?_, ?_⟩
  · rw [map_id_updateWhereId keepsId]
    exact linked.nodup
  · intro row' image
    obtain ⟨row, inside, rfl⟩ := List.mem_map.mp image
    have named := linked.named row inside
    split
    · rwa [keepsId]
    · exact named
  · intro row' image parentId link
    obtain ⟨row, inside, rfl⟩ := List.mem_map.mp image
    have known : ∃ parent ∈ store, parent.id = parentId := by
      split at link
      next same => exact (parents row inside same parentId link).1
      next => exact linked.parents row inside parentId link
    obtain ⟨parent, inside', named⟩ := known
    refine ⟨_, List.mem_map_of_mem inside', ?_⟩
    split
    · rw [keepsId, named]
    · exact named
  · refine linked.acyclic.relink id (fun other ne => ?_) fun parentId link n above => ?_
    · rw [linkOf_updateWhereId keepsId, if_neg ne]
    · rw [linkOf_updateWhereId keepsId, if_pos rfl] at link
      obtain ⟨row, found, toParent⟩ := Option.bind_eq_some_iff.mp link
      obtain ⟨inside, same⟩ := findTaskById_some found
      obtain ⟨-, other, apart⟩ := parents row inside same parentId toParent
      cases n with
      | zero =>
        cases above
        exact other rfl
      | succ n => exact apart ⟨n, above⟩

/-- What the write of a row leaves of a task that is neither it nor one of its parents. -/
theorem RolledUp.write_other (rolled : RolledUp view store y) (linked : Linked store)
    (keepsId : ∀ row, (write row).id = row.id) (other : y ≠ id)
    (before : linkOf store id ≠ some y)
    (after : linkOf (updateWhereId store id write) id ≠ some y) :
    RolledUp view (updateWhereId store id write) y := by
  intro row' found'
  have kept : findTaskById (updateWhereId store id write) y = findTaskById store y := by
    rw [findTaskById_updateWhereId keepsId]
    simp [other]
  have found := kept.symm.trans found'
  obtain ⟨inside, same⟩ := findTaskById_some found
  have named : y ≠ "" := same ▸ linked.named row' inside
  have children : directChildrenOf (updateWhereId store id write) y = directChildrenOf store y := by
    refine directChildrenOf_updateWhereId_of_ne named ?_ ?_
    · rintro row inside rfl link
      rw [← linkOf_of_mem linked.nodup inside] at link
      exact before link
    · rintro row inside rfl link
      rw [linkOf_updateWhereId keepsId, if_pos rfl, findTaskById_of_mem linked.nodup inside] at after
      exact after link
  have stays : RolledUp view (updateWhereId store id write) y :=
    rolled.of_same (fun row found' => kept.symm.trans found') children fun _ _ => rfl
  exact stays row' found'

/-- What it leaves of the row itself: what its new columns derive. -/
theorem rolledUp_write_self (linked : Linked store) (keepsId : ∀ row, (write row).id = row.id)
    (linked' : Linked (updateWhereId store id write))
    (agrees : ∀ row, findTaskById store id = some row → isRolledUp view store (write row) = true) :
    RolledUp view (updateWhereId store id write) id := by
  intro row' found'
  rw [findTaskById_updateWhereId keepsId] at found'
  obtain ⟨row, found, done⟩ := Option.map_eq_some_iff.mp found'
  rw [if_pos rfl] at done
  obtain ⟨inside, rfl⟩ := findTaskById_some found
  have children : directChildrenOf (updateWhereId store row.id write) row.id =
      directChildrenOf store row.id := by
    refine directChildrenOf_updateWhereId_of_ne (linked.named row inside) ?_ ?_
    · intro other insideO same link
      rw [← linkOf_of_mem linked.nodup insideO, same] at link
      exact linked.not_own_child _ link
    · intro other insideO same link
      have link' : linkOf (updateWhereId store row.id write) row.id = some row.id := by
        rw [linkOf_updateWhereId keepsId, if_pos rfl, ← same, findTaskById_of_mem linked.nodup insideO]
        exact link.trans (by rw [same])
      exact linked'.not_own_child _ link'
  have right := agrees row found
  rw [done] at right
  have id' : row'.id = row.id := by rw [← done, keepsId]
  unfold isRolledUp at right ⊢
  rw [id'] at right ⊢
  rw [children]
  exact right

/-- One row written, its link kept, and its ancestors refreshed. -/
theorem rolledUp_setTaskFields (context : RollupContext) (write : TaskRow → TaskRow)
    (linked : Linked store)
    (keepsId : ∀ row, (write row).id = row.id)
    (keepsLink : ∀ row ∈ store, row.id = id → parentLink (write row) = parentLink row)
    (agrees : ∀ row, findTaskById store id = some row →
      isRolledUp context.view store (write row) = true)
    (rolled : ∀ y, RolledUp context.view store y) :
    Linked (updateWhereId store id write) ∧ ∀ y, RolledUp context.view
      (refreshAncestorRollups context (updateWhereId store id write) id) y := by
  have links : linkOf (updateWhereId store id write) = linkOf store := by
    funext other
    rw [linkOf_updateWhereId keepsId]
    split
    next same =>
      rw [same, linkOf]
      cases found : findTaskById store id with
      | none => rfl
      | some row =>
        obtain ⟨inside, same⟩ := findTaskById_some found
        exact keepsLink row inside same
    next => rfl
  have linked' : Linked (updateWhereId store id write) := by
    refine linked.relink keepsId fun row inside same parentId link => ?_
    rw [keepsLink row inside same] at link
    have toParent : linkOf store id = some parentId := by
      rw [← same, linkOf_of_mem linked.nodup inside]
      exact link
    refine ⟨linked.parents row inside parentId link, ?_, ?_⟩
    · rintro rfl
      exact linked.not_own_child _ toParent
    · rintro ⟨n, above⟩
      exact linked.acyclic id (n + 1) (.link toParent above)
  refine ⟨linked', fun y => rolledUp_refreshAncestorRollups linked' ?_⟩
  by_cases ancestor : IsAncestor (linkOf (updateWhereId store id write)) id y
  · exact .inl ancestor
  · right
    by_cases self : y = id
    · rw [self]
      exact rolledUp_write_self linked keepsId linked' agrees
    · have noParent : linkOf store id ≠ some y := fun link =>
        ancestor ⟨0, .link (links ▸ link) (.self y)⟩
      exact (rolled y).write_other linked keepsId self noParent (links ▸ noParent)

end Single

/-! ### Moves -/

section Move

variable {context : RollupContext} {store store' : TaskStore} {id ancestorId : TaskId}

theorem reachesAncestor_iff (linked : Linked store) (bound : Nat) (id : TaskId) :
    reachesAncestor store ancestorId bound (findTaskById store id) = true ↔
      ∃ n < bound, Above (linkOf store) id (n + 1) ancestorId := by
  induction bound generalizing id with
  | zero => simp [reachesAncestor]
  | succ bound ih =>
    unfold reachesAncestor
    rw [bind_parentLink linked.hasLinks]
    cases toParent : linkOf store id with
    | none =>
      simp only [Bool.false_eq_true, false_iff, not_exists, not_and]
      rintro n - above
      cases above with
      | link toParent' _ => rw [toParent] at toParent'; cases toParent'
    | some parentId =>
      simp only [Bool.or_eq_true, decide_eq_true_eq, ih]
      constructor
      · rintro (rfl | ⟨n, bounded, above⟩)
        · exact ⟨0, by omega, .link toParent (.self _)⟩
        · exact ⟨n + 1, by omega, .link toParent above⟩
      · rintro ⟨n, bounded, above⟩
        cases above with
        | link toParent' rest =>
          rw [toParent] at toParent'
          cases toParent'
          cases n with
          | zero =>
            cases rest
            exact .inl rfl
          | succ n => exact .inr ⟨n, by omega, rest⟩

/-- The cycle check sees every ancestor. -/
theorem isTaskDescendant_iff (linked : Linked store) :
    isTaskDescendant store id ancestorId = true ↔ IsAncestor (linkOf store) id ancestorId := by
  unfold isTaskDescendant
  rw [reachesAncestor_iff linked]
  constructor
  · rintro ⟨n, -, above⟩
    exact ⟨n, above⟩
  · rintro ⟨n, above⟩
    have bound := linked.length_le above
    exact ⟨n, by omega, above⟩

theorem Linked.link_ok {task : TaskRow} {parentId : TaskId} (linked : Linked store)
    (inside : task ∈ store) (link : parentLink task = some parentId) :
    (∃ parent ∈ store, parent.id = parentId) ∧ parentId ≠ task.id ∧
      ¬ IsAncestor (linkOf store) parentId task.id := by
  have toParent : linkOf store task.id = some parentId := by
    rw [linkOf_of_mem linked.nodup inside]
    exact link
  refine ⟨linked.parents task inside parentId link, ?_, ?_⟩
  · rintro rfl
    exact linked.not_own_child _ toParent
  · rintro ⟨n, above⟩
    exact linked.acyclic task.id (n + 1) (.link toParent above)

/-- So does the link of an accepted move. -/
theorem resolveMove_link {task : TaskRow} {next : Option TaskId} {target : MoveTarget}
    (linked : Linked store) (ok : resolveMove store task next = .ok target) :
    target.parentTaskId = next ∧ ∀ parentId, next.filter (· ≠ "") = some parentId →
      (∃ parent ∈ store, parent.id = parentId) ∧ parentId ≠ task.id ∧
        ¬ IsAncestor (linkOf store) parentId task.id := by
  unfold resolveMove at ok
  split at ok
  · cases ok
  next notSelf =>
    split at ok
    next none_ =>
      cases ok
      refine ⟨rfl, fun parentId some_ => ?_⟩
      rw [none_] at some_
      cases some_
    next parentId some_ =>
      split at ok
      · cases ok
      next parent found =>
        split at ok
        · cases ok
        split at ok
        · cases ok
        next below =>
          cases ok
          refine ⟨rfl, fun other other' => ?_⟩
          rw [some_] at other'
          cases other'
          obtain ⟨inside, rfl⟩ := findTaskById_some found
          refine ⟨⟨parent, inside, rfl⟩, ?_, ?_⟩
          · intro same
            exact notSelf (same ▸ (Option.filter_eq_some_iff.mp some_).1)
          · rw [← isTaskDescendant_iff linked]
            exact below

/-- What a resolved update says of the new link. -/
theorem resolveUpdateHierarchy_link {task : TaskRow} {fields : TaskFieldsUpdate}
    {hierarchy : HierarchyUpdate} (linked : Linked store) (inside : task ∈ store)
    (resolved : resolveUpdateHierarchy store task fields = .ok hierarchy) :
    hierarchy.oldParentTaskId = task.parentTaskId ∧
      hierarchy.patch.parentTaskId.getD task.parentTaskId = hierarchy.newParentTaskId ∧
      ∀ parentId, hierarchy.newParentTaskId.filter (· ≠ "") = some parentId →
        (∃ parent ∈ store, parent.id = parentId) ∧ parentId ≠ task.id ∧
          ¬ IsAncestor (linkOf store) parentId task.id := by
  unfold resolveUpdateHierarchy at resolved
  split at resolved
  · split at resolved
    · cases resolved
    next patch role =>
      cases resolved
      obtain ⟨toParent, -⟩ := resolveRole_ok role
      exact ⟨rfl, by simp [toParent], fun parentId link => linked.link_ok inside link⟩
  next next _ =>
    split at resolved
    · cases resolved
    next target move =>
      split at resolved
      case isFalse => cases resolved
      split at resolved
      · cases resolved
      next patch role =>
        cases resolved
        obtain ⟨toParent, -⟩ := resolveRole_ok role
        obtain ⟨moved, link⟩ := resolveMove_link linked move
        exact ⟨rfl, by simp [toParent, movePatch, moved], link⟩

theorem rollupColumns_shift (rootTaskId : TaskId) (depthDelta : Int) (descendant : TaskRow)
    (now : Nat) (row : TaskRow) :
    rollupColumns (row.set (shiftPatch rootTaskId depthDelta descendant now)) =
      rollupColumns row := rfl

theorem applyDescendantHierarchyShift_map (store : TaskStore) (taskId rootTaskId : TaskId)
    (depthDelta : Int) (now : Nat) :
    ∃ write : TaskRow → TaskRow, (∀ row, rollupColumns (write row) = rollupColumns row) ∧
      applyDescendantHierarchyShift store taskId rootTaskId depthDelta now = store.map write := by
  unfold applyDescendantHierarchyShift
  split
  · exact ⟨id, fun _ => rfl, (List.map_id _).symm⟩
  · rw [foldl_updateWhereId]
    refine ⟨_, fun row => ?_, rfl⟩
    generalize collectDescendantRows store taskId = descendants
    induction descendants generalizing row with
    | nil => rfl
    | cons descendant descendants ih =>
      rw [List.foldl_cons, ih]
      split
      · exact rollupColumns_shift rootTaskId depthDelta descendant now row
      · rfl

theorem RolledUp.promote {view : RollupView} {y p : TaskId} (rolled : RolledUp view store y)
    (linked : Linked store) (other : y ≠ p) (noParent : linkOf store p ≠ some y) :
    RolledUp view (promoteToContainer context store p) y := by
  have keepsId (row : TaskRow) : (promoteParentToContainer context.now row).id = row.id :=
    congrArg Place.id (place_promoteParentToContainer _ row)
  have keeps : Keeps store (promoteToContainer context store p) := keeps_promoteToContainer
  exact rolled.write_other linked keepsId other noParent ((keeps.linked linked).2 ▸ noParent)

theorem RolledUp.promoteIfLinked {view : RollupView} {y : TaskId} {next : Option TaskId}
    (rolled : RolledUp view store y) (linked : Linked store)
    (apart : ∀ p, next.filter (· ≠ "") = some p → y ≠ p ∧ linkOf store p ≠ some y) :
    RolledUp view (promoteIfLinked context store next) y := by
  unfold AifHandoff.Data.promoteIfLinked
  split
  next p some_ => exact rolled.promote linked (apart p some_).1 (apart p some_).2
  next => exact rolled

/-- An update refreshes the parents it leaves and finds, and all above them. Whether the
task itself is right depends on what is written to it. -/
theorem rolledUp_updateTask {fields : TaskFieldsUpdate} (linked : Linked store)
    (ok : updateTask context id fields store = .ok store')
    (agrees : ∀ task hierarchy, findTaskById store id = some task →
      resolveUpdateHierarchy store task fields = .ok hierarchy →
      isRolledUp context.view store (setTaskFields task
        (updateTaskPatch task fields hierarchy.patch context.now)) = true)
    (rolled : ∀ y, RolledUp context.view store y) :
    Linked store' ∧ ∀ y, RolledUp context.view store' y := by
  unfold updateTask at ok
  split at ok
  · cases ok
    exact ⟨linked, rolled⟩
  next task found =>
    obtain ⟨inside, rfl⟩ := findTaskById_some found
    split at ok
    · cases ok
    next hierarchy resolved =>
      obtain ⟨oldParent, newParent, link⟩ := resolveUpdateHierarchy_link linked inside resolved
      let patch := updateTaskPatch task fields hierarchy.patch context.now
      let written := updateWhereId store task.id (setTaskFields · patch)
      let promoted := AifHandoff.Data.promoteIfLinked context written hierarchy.newParentTaskId
      let shifted :=
        if (hierarchy.patch.rootTaskId.isSome || hierarchy.patch.hierarchyDepth.isSome) = true then
          applyDescendantHierarchyShift promoted task.id
            ((hierarchy.patch.rootTaskId.getD none).getD task.id) hierarchy.depthDelta context.now
        else promoted
      have result : refreshAncestorRollups context (refreshRollupsForParents context shifted
          [hierarchy.oldParentTaskId, hierarchy.newParentTaskId]) task.id = store' :=
        Except.ok.inj ok
      have keepsId (row : TaskRow) : (setTaskFields row patch).id = row.id := rfl
      have newLink : parentLink (setTaskFields task patch) =
          hierarchy.newParentTaskId.filter (· ≠ "") := by
        have toParent : (setTaskFields task patch).parentTaskId = hierarchy.newParentTaskId :=
          (congrArg Place.parentTaskId (place_setTaskFields task patch)).trans newParent
        rw [parentLink, toParent]
      -- The links after the write, and after the rest.
      have linkedW : Linked written := by
        refine linked.relink keepsId fun row inside' same parentId toParent => ?_
        rw [eq_of_id linked.nodup inside' inside same] at toParent
        exact link parentId (newLink ▸ toParent)
      obtain ⟨linkedP, linksP⟩ := Keeps.linked keeps_promoteIfLinked linkedW
      obtain ⟨shift, columns, done⟩ : ∃ shift : TaskRow → TaskRow,
          (∀ row, rollupColumns (shift row) = rollupColumns row) ∧ shifted = promoted.map shift := by
        by_cases shifts :
            (hierarchy.patch.rootTaskId.isSome || hierarchy.patch.hierarchyDepth.isSome) = true
        · simp only [shifted, if_pos shifts]
          exact applyDescendantHierarchyShift_map _ _ _ _ _
        · simp only [shifted, if_neg shifts]
          exact ⟨fun row => row, fun _ => rfl, (List.map_id _).symm⟩
      have shiftId (row : TaskRow) : (shift row).id = row.id :=
        congrArg RollupColumns.id (columns row)
      have shiftParent (row : TaskRow) : (shift row).parentTaskId = row.parentTaskId :=
        congrArg RollupColumns.parentTaskId (columns row)
      have linkedS : Linked shifted := done ▸ linkedP.map shiftId shiftParent
      have linksS : linkOf shifted = linkOf written := by
        rw [done, linkOf_map shiftId shiftParent, linksP]
      obtain ⟨linkedR, -⟩ := Keeps.linked (keeps_refreshRollupsForParents
        [hierarchy.oldParentTaskId, hierarchy.newParentTaskId]) linkedS
      rw [← result]
      refine ⟨(keeps_refreshAncestorRollups.linked linkedR).1, fun y => ?_⟩
      refine rolledUp_refreshAncestorRollups linkedR (.inr ?_)
      apply rolledUp_refreshRollupsForParents linkedS
      -- Whatever is not refreshed was right and has not been touched.
      by_cases refreshed : ∃ x, some x ∈ [hierarchy.oldParentTaskId, hierarchy.newParentTaskId] ∧
          x ≠ "" ∧ (y = x ∨ IsAncestor (linkOf shifted) x y)
      · exact .inl refreshed
      right
      have notNew : ∀ p, hierarchy.newParentTaskId.filter (· ≠ "") = some p →
          y ≠ p ∧ linkOf written p ≠ some y := by
        intro p some_
        obtain ⟨is, named⟩ := Option.filter_eq_some_iff.mp some_
        have named' : p ≠ "" := by simpa using named
        refine ⟨fun same => refreshed ⟨p, by simp [is], named', .inl same⟩, fun toParent => ?_⟩
        exact refreshed ⟨p, by simp [is], named', .inr ⟨0, .link (linksS ▸ toParent) (.self y)⟩⟩
      have upToWrite : RolledUp context.view written y := by
        by_cases self : y = task.id
        · rw [self]
          refine rolledUp_write_self linked keepsId linkedW fun row found' => ?_
          rw [← Option.some.inj (found.symm.trans found')]
          exact agrees task hierarchy found resolved
        · refine (rolled y).write_other linked keepsId self (fun toOld => ?_) (fun toNew => ?_)
          · rw [linkOf_of_mem linked.nodup inside] at toOld
            obtain ⟨is, named⟩ := parentLink_some toOld
            exact refreshed ⟨y, by simp [oldParent, is], named, .inl rfl⟩
          · rw [linkOf_updateWhereId keepsId, if_pos rfl, found, Option.bind_some, newLink] at toNew
            exact (notNew y toNew).1 rfl
      rw [done]
      exact (upToWrite.promoteIfLinked linkedW notNew).map columns

end Move

/-! ### A row more, a row less -/

section Rows

variable {context : RollupContext} {store store' : TaskStore} {row : TaskRow} {id y : TaskId}

theorem findTaskById_concat (fresh : findTaskById store row.id = none) :
    findTaskById (store ++ [row]) y =
      if y = row.id then some row else findTaskById store y := by
  rw [findTaskById, List.find?_append, ← findTaskById]
  by_cases same : y = row.id
  · rw [if_pos same, same, fresh]
    simp
  · rw [if_neg same]
    simp [Ne.symm same]

/-- A new row may link to any row there is. -/
theorem Linked.concat (linked : Linked store) (named : row.id ≠ "")
    (fresh : findTaskById store row.id = none)
    (parents : ∀ parentId, parentLink row = some parentId → ∃ parent ∈ store, parent.id = parentId) :
    Linked (store ++ [row]) := by
  have unused : ∀ other ∈ store, other.id ≠ row.id := by
    intro other inside same
    simpa [same] using List.find?_eq_none.mp fresh other inside
  refine ⟨?_, ?_, ?_, ?_⟩
  · rw [List.map_append, List.map_singleton]
    refine List.nodup_append.mpr ⟨linked.nodup, List.nodup_singleton _, ?_⟩
    rintro other old _ new rfl
    obtain ⟨row', inside, same⟩ := List.mem_map.mp old
    exact unused row' inside (same.trans (List.mem_singleton.mp new))
  · intro other inside
    rcases List.mem_append.mp inside with old | new
    · exact linked.named other old
    · rwa [List.mem_singleton.mp new]
  · intro other inside parentId link
    have known : ∃ parent ∈ store, parent.id = parentId := by
      rcases List.mem_append.mp inside with old | new
      · exact linked.parents other old parentId link
      · rw [List.mem_singleton.mp new] at link
        exact parents parentId link
    obtain ⟨parent, inside', same⟩ := known
    exact ⟨parent, List.mem_append_left _ inside', same⟩
  · refine linked.acyclic.relink row.id (fun other ne => ?_) fun parentId link n above => ?_
    · rw [linkOf, linkOf, findTaskById_concat fresh, if_neg ne]
    · rw [linkOf, findTaskById_concat fresh, if_pos rfl] at link
      obtain ⟨parent, inside, same⟩ := parents parentId link
      cases n with
      | zero =>
        cases above
        exact unused parent inside same
      | succ n =>
        obtain ⟨z, toRow⟩ := above.exists_child
        obtain ⟨other, inside', same'⟩ := List.mem_map.mp (linked.parent_mem toRow)
        exact unused other inside' same'

/-- A new row is no concern of a task it does not link to. -/
theorem RolledUp.concat {view : RollupView} (rolled : RolledUp view store y)
    (linked : Linked store) (fresh : findTaskById store row.id = none)
    (named : row.id ≠ "") (notParent : parentLink row ≠ some y) :
    RolledUp view (store ++ [row]) y := by
  intro found found'
  rw [findTaskById_concat fresh] at found'
  split at found'
  next isNew =>
    -- Nothing links to the new row.
    subst isNew
    cases found'
    have childless : directChildrenOf (store ++ [row]) row.id = [] := by
      rw [List.eq_nil_iff_forall_not_mem]
      intro child inside
      obtain ⟨inside, link⟩ := (mem_directChildrenOf_link named).mp inside
      rcases List.mem_append.mp inside with old | new
      · obtain ⟨parent, inside', same⟩ := linked.parents child old row.id link
        simpa [same] using List.find?_eq_none.mp fresh parent inside'
      · rw [List.mem_singleton.mp new] at link
        exact notParent link
    simp [isRolledUp, childless]
  next other =>
    obtain ⟨inside, same⟩ := findTaskById_some found'
    have namedY : y ≠ "" := same ▸ linked.named found inside
    have children : directChildrenOf (store ++ [row]) y = directChildrenOf store y := by
      have noLink : row.parentTaskId ≠ some y := fun toY =>
        notParent (parentLink_of_some toY namedY)
      unfold directChildrenOf
      rw [List.filter_append]
      simp [noLink]
    have stays : RolledUp view (store ++ [row]) y := by
      refine rolled.of_same (fun row' found'' => ?_) children fun _ _ => rfl
      rwa [findTaskById_concat fresh, if_neg other] at found''
    refine stays found ?_
    rw [findTaskById_concat fresh, if_neg other]
    exact found'

/-- A new task refreshes its parent and all above it. -/
theorem rolledUp_createTask {agentMaxReviewIterations : Nat} {input : CreateTaskInput}
    (linked : Linked store) (named : id ≠ "")
    (ok : createTask context agentMaxReviewIterations id input store = .ok store')
    (rolled : ∀ y, RolledUp context.view store y) :
    Linked store' ∧ ∀ y, RolledUp context.view store' y := by
  unfold createTask at ok
  split at ok
  · cases ok
  next hierarchy resolved =>
    split at ok
    · cases ok
    next unused =>
      have fresh : findTaskById store id = none := by simpa using unused
      let row := newTaskRow store input hierarchy id agentMaxReviewIterations context.now
      have toParent : ∀ parentId, hierarchy.parentTaskId = some parentId →
          ∃ parent ∈ store, parent.id = parentId := by
        intro parentId under
        rcases resolveCreateHierarchy_ok resolved with ⟨none_, -⟩ | ⟨parent, inside, is, -⟩
        · exact absurd (none_.symm.trans under) (by simp)
        · exact ⟨parent, inside, Option.some.inj (is.symm.trans under)⟩
      have linkedI : Linked (store ++ [row]) := linked.concat named fresh fun parentId link =>
        toParent parentId (parentLink_some link).1
      have inserted (y : TaskId) (notParent : parentLink row ≠ some y) :
          RolledUp context.view (store ++ [row]) y :=
        (rolled y).concat linked fresh named notParent
      dsimp only at ok
      split at ok
      next none_ =>
        cases ok
        refine ⟨linkedI, fun y => inserted y ?_⟩
        simp [parentLink, row, newTaskRow, none_]
      next parentId under =>
        cases ok
        have keeps : Keeps (store ++ [row]) (promoteToContainer context (store ++ [row]) parentId) :=
          keeps_promoteToContainer
        obtain ⟨linkedP, linksP⟩ := keeps.linked linkedI
        obtain ⟨linkedR, -⟩ := Keeps.linked (keeps_refreshRollupsForParents [some parentId]) linkedP
        refine ⟨linkedR, fun y => rolledUp_refreshRollupsForParents linkedP _ ?_⟩
        obtain ⟨parent, inside, same⟩ := toParent parentId under
        have namedP : parentId ≠ "" := same ▸ linked.named parent inside
        by_cases refreshed : y = parentId ∨
            IsAncestor (linkOf (promoteToContainer context (store ++ [row]) parentId)) parentId y
        · exact .inl ⟨parentId, by simp, namedP, refreshed⟩
        right
        rw [not_or] at refreshed
        have isLink : parentLink row = some parentId := parentLink_of_some under namedP
        have before := inserted y fun link =>
          refreshed.1 (Option.some.inj (link.symm.trans isLink))
        refine before.promote linkedI refreshed.1 fun toY => refreshed.2 ⟨0, .link ?_ (.self y)⟩
        rw [linksP]
        exact toY

theorem Linked.remove (linked : Linked store) (childless : ∀ row ∈ store, parentLink row ≠ some id) :
    Linked (store.filter (·.id ≠ id)) := by
  refine ⟨?_, ?_, ?_, ?_⟩
  · exact linked.nodup.sublist (List.filter_sublist.map _)
  · exact fun row inside => linked.named row (List.mem_filter.mp inside).1
  · intro row inside parentId link
    have inside' := (List.mem_filter.mp inside).1
    obtain ⟨parent, insideP, same⟩ := linked.parents row inside' parentId link
    refine ⟨parent, List.mem_filter.mpr ⟨insideP, ?_⟩, same⟩
    rw [decide_eq_true_eq, same]
    rintro rfl
    exact childless row inside' link
  · refine linked.acyclic.mono fun other parentId link => ?_
    obtain ⟨row, inside, same, toParent⟩ := linkOf_some link
    rw [← same, linkOf_of_mem linked.nodup (List.mem_filter.mp inside).1]
    exact toParent

theorem RolledUp.remove {view : RollupView} (rolled : RolledUp view store y)
    (linked : Linked store) (notParent : linkOf store id ≠ some y) :
    RolledUp view (store.filter (·.id ≠ id)) y := by
  intro found found'
  obtain ⟨inside, same⟩ := findTaskById_some found'
  have inside' := (List.mem_filter.mp inside).1
  have named : y ≠ "" := same ▸ linked.named found inside'
  have children : directChildrenOf (store.filter (·.id ≠ id)) y = directChildrenOf store y := by
    unfold directChildrenOf
    rw [List.filter_filter]
    congr 1
    refine List.filter_congr fun row insideR => ?_
    rw [Bool.and_eq_left_iff_imp, beq_iff_eq, decide_eq_true_eq]
    rintro toY rfl
    rw [linkOf_of_mem linked.nodup insideR] at notParent
    exact notParent (parentLink_of_some toY named)
  have stays : RolledUp view (store.filter (·.id ≠ id)) y := by
    refine rolled.of_same (fun row found'' => ?_) children fun _ _ => rfl
    obtain ⟨insideR, sameR⟩ := findTaskById_some found''
    rw [← sameR]
    exact findTaskById_of_mem linked.nodup (List.mem_filter.mp insideR).1
  exact stays found found'

end Rows

end AifHandoff.Data
