import AifHandoff.Data.Hierarchy

/-!
Facts about the loops and writes of the hierarchy code, on a table with distinct ids.
-/

namespace AifHandoff.Data

section Lookup

variable {store : TaskStore} {row : TaskRow} {id : TaskId}

theorem mem_directChildrenOf :
    row ∈ directChildrenOf store id ↔ row ∈ store ∧ row.parentTaskId = some id := by
  simp [directChildrenOf, List.mem_insertionSort]

theorem length_directChildrenOf_le : (directChildrenOf store id).length ≤ store.length := by
  rw [directChildrenOf, List.length_insertionSort]
  exact List.length_filter_le _ _

theorem directChildCount_pos :
    0 < directChildCount store id ↔ ∃ child ∈ store, child.parentTaskId = some id := by
  simp [directChildCount, List.length_pos_iff_exists_mem]

end Lookup

/-! ### The descendants of a task -/

/-- `row` is a child or a grandchild of the task `id`. -/
def Below (store : TaskStore) (id : TaskId) (row : TaskRow) : Prop :=
  row.parentTaskId = some id ∨
    ∃ child ∈ store, child.parentTaskId = some id ∧ row.parentTaskId = some child.id

section Descendants

variable {store : TaskStore} {id : TaskId}

theorem collectFrom_leaves {bound : Nat} {queue : List TaskRow} (enough : queue.length ≤ bound)
    (leaves : ∀ row ∈ queue, directChildrenOf store row.id = []) :
    collectFrom store bound queue = queue := by
  induction queue generalizing bound with
  | nil => cases bound <;> rfl
  | cons row queue ih =>
    cases bound with
    | zero => simp at enough
    | succ bound =>
      have enough' : queue.length ≤ bound := by simpa using enough
      rw [collectFrom, leaves row (List.mem_cons_self ..), List.append_nil,
        ih enough' fun later among => leaves later (List.mem_cons_of_mem row among)]

/-- A queue over two levels is collected with the children of its first part behind. -/
theorem collectFrom_two_levels {bound : Nat} {upper lower : List TaskRow}
    (enough : upper.length + lower.length +
      (upper.flatMap fun row => directChildrenOf store row.id).length ≤ bound)
    (leaves : ∀ row ∈ lower, directChildrenOf store row.id = [])
    (below : ∀ row ∈ upper, ∀ child ∈ directChildrenOf store row.id,
      directChildrenOf store child.id = []) :
    collectFrom store bound (upper ++ lower) =
      upper ++ lower ++ upper.flatMap fun row => directChildrenOf store row.id := by
  induction upper generalizing bound lower with
  | nil =>
    rw [List.nil_append, List.flatMap_nil, List.append_nil]
    exact collectFrom_leaves (by simpa using enough) leaves
  | cons row upper ih =>
    cases bound with
    | zero => simp at enough
    | succ bound =>
      have enough' : upper.length + (lower ++ directChildrenOf store row.id).length +
          (upper.flatMap fun row => directChildrenOf store row.id).length ≤ bound := by
        simp only [List.length_cons, List.flatMap_cons, List.length_append] at enough ⊢
        omega
      have leaves' : ∀ other ∈ lower ++ directChildrenOf store row.id,
          directChildrenOf store other.id = [] := by
        intro other among
        rcases List.mem_append.mp among with old | new
        · exact leaves other old
        · exact below row (List.mem_cons_self ..) other new
      have step := ih enough' leaves'
        fun other among => below other (List.mem_cons_of_mem row among)
      rw [List.cons_append, collectFrom, List.append_assoc, step, List.flatMap_cons]
      simp [List.append_assoc]

theorem length_flatMap_le {bound : Nat} (rows : List TaskRow) (f : TaskRow → List TaskRow)
    (each : ∀ row ∈ rows, (f row).length ≤ bound) : (rows.flatMap f).length ≤ rows.length * bound := by
  induction rows with
  | nil => simp
  | cons row rows ih =>
    have first := each row (List.mem_cons_self ..)
    have rest := ih fun later among => each later (List.mem_cons_of_mem row among)
    rw [List.flatMap_cons, List.length_append, List.length_cons, Nat.add_mul, Nat.one_mul]
    omega

theorem mem_collectDescendantRows {row : TaskRow}
    (leaves : ∀ child ∈ directChildrenOf store id, ∀ grandchild ∈ directChildrenOf store child.id,
      directChildrenOf store grandchild.id = []) :
    row ∈ collectDescendantRows store id ↔ row ∈ store ∧ Below store id row := by
  have enough : (directChildrenOf store id).length + ([] : List TaskRow).length +
      ((directChildrenOf store id).flatMap fun child => directChildrenOf store child.id).length ≤
        store.length * (store.length + 1) := by
    have few : (directChildrenOf store id).length ≤ store.length := length_directChildrenOf_le
    have each := length_flatMap_le (directChildrenOf store id)
      (fun child => directChildrenOf store child.id) fun _ _ => length_directChildrenOf_le
    have product := Nat.mul_le_mul_right store.length few
    rw [List.length_nil, Nat.mul_add, Nat.mul_one]
    omega
  have collected := collectFrom_two_levels enough (by simp) leaves
  rw [List.append_nil] at collected
  rw [collectDescendantRows, collected]
  simp only [List.mem_append, List.mem_flatMap, mem_directChildrenOf]
  constructor
  · rintro (⟨inside, child⟩ | ⟨child, ⟨inside, toId⟩, inside', toChild⟩)
    · exact ⟨inside, .inl child⟩
    · exact ⟨inside', .inr ⟨child, inside, toId, toChild⟩⟩
  · rintro ⟨inside, child | ⟨child, inside', toId, toChild⟩⟩
    · exact .inl ⟨inside, child⟩
    · exact .inr ⟨child, ⟨inside', toId⟩, inside, toChild⟩

theorem parentLink_of_some {row : TaskRow} {parentId : TaskId}
    (toParent : row.parentTaskId = some parentId) (named : parentId ≠ "") :
    parentLink row = some parentId := by
  simp [parentLink, toParent, Option.filter, named]

theorem isTaskDescendant_of_below {row : TaskRow} (nodup : (store.map (·.id)).Nodup)
    (named : ∀ row ∈ store, row.id ≠ "") (inside : row ∈ store) (idNamed : id ≠ "")
    (below : Below store id row) : isTaskDescendant store row.id id = true := by
  unfold isTaskDescendant
  rw [findTaskById_of_mem nodup inside]
  rcases below with toId | ⟨child, inside', toId, toChild⟩
  · simp [reachesAncestor, parentLink_of_some toId idNamed]
  · simp only [reachesAncestor, Option.bind_some, parentLink_of_some toChild (named child inside'),
      findTaskById_of_mem nodup inside', parentLink_of_some toId idNamed, decide_true, Bool.true_or,
      Bool.or_true]

end Descendants

/-! ### Writes row by row -/

theorem foldl_updateWhereId {α : Type} (items : List α) (key : α → TaskId)
    (write : α → TaskRow → TaskRow) (store : TaskStore) :
    items.foldl (fun store item => updateWhereId store (key item) (write item)) store =
      store.map fun row => items.foldl
        (fun row item => if row.id = key item then write item row else row) row := by
  induction items generalizing store with
  | nil => simp
  | cons item items ih =>
    rw [List.foldl_cons, ih, updateWhereId, List.map_map]
    rfl

/-- The columns that place a task in the hierarchy. -/
structure Place where
  id : TaskId
  projectId : String
  parentTaskId : Option TaskId
  rootTaskId : Option TaskId
  hierarchyDepth : Int
deriving DecidableEq, Repr

def place (row : TaskRow) : Place :=
  ⟨row.id, row.projectId, row.parentTaskId, row.rootTaskId, row.hierarchyDepth⟩

/-- A container with a closeout policy. -/
def Closes (row : TaskRow) : Prop :=
  row.hierarchyRole = .container ∧ row.parentCloseoutPolicy ≠ none

/-- Row by row, places stay and containers stay containers. -/
def Keeps (store store' : TaskStore) : Prop :=
  ∃ write : TaskRow → TaskRow, store' = store.map write ∧
    ∀ row, place (write row) = place row ∧ (Closes row → Closes (write row))

section Keeping

variable {store store' store'' : TaskStore} {context : RollupContext}

theorem Keeps.refl (store : TaskStore) : Keeps store store :=
  ⟨id, by simp, fun _ => ⟨rfl, fun closes => closes⟩⟩

theorem Keeps.trans (first : Keeps store store') (second : Keeps store' store'') :
    Keeps store store'' := by
  obtain ⟨write, rfl, keeps⟩ := first
  obtain ⟨write', rfl, keeps'⟩ := second
  refine ⟨write' ∘ write, by rw [List.map_map], fun row => ⟨?_, fun closes => ?_⟩⟩
  · exact (keeps' (write row)).1.trans (keeps row).1
  · exact (keeps' (write row)).2 ((keeps row).2 closes)

theorem keeps_updateWhereId {id : TaskId} {write : TaskRow → TaskRow}
    (keeps : ∀ row, place (write row) = place row ∧ (Closes row → Closes (write row))) :
    Keeps store (updateWhereId store id write) := by
  refine ⟨_, rfl, fun row => ?_⟩
  split
  · exact keeps row
  · exact ⟨rfl, fun closes => closes⟩

theorem closes_promoteParentToContainer (now : Nat) (row : TaskRow) :
    Closes (promoteParentToContainer now row) := by
  unfold promoteParentToContainer
  split
  · rename_i already
    simp only [Bool.and_eq_true, decide_eq_true_eq] at already
    exact ⟨already.1, Option.isSome_iff_ne_none.mp already.2⟩
  · exact ⟨rfl, by simp⟩

theorem place_promoteParentToContainer (now : Nat) (row : TaskRow) :
    place (promoteParentToContainer now row) = place row := by
  unfold promoteParentToContainer
  split <;> rfl

theorem keeps_promoteToContainer {id : TaskId} :
    Keeps store (promoteToContainer context store id) :=
  keeps_updateWhereId fun row => ⟨place_promoteParentToContainer context.now row,
    fun _ => closes_promoteParentToContainer context.now row⟩

theorem keeps_promoteIfLinked {parentTaskId : Option TaskId} :
    Keeps store (promoteIfLinked context store parentTaskId) := by
  unfold promoteIfLinked
  split
  · exact keeps_promoteToContainer
  · exact .refl store

theorem refreshParentRollup_keeps (view : RollupView) (children : List TaskRow) (now : Nat)
    (row : TaskRow) : place (refreshParentRollup view children now row) = place row ∧
      (Closes row → Closes (refreshParentRollup view children now row)) := by
  unfold refreshParentRollup
  split
  · exact ⟨rfl, fun closes => closes⟩
  · have patched (patch : TaskFieldsPatch) (parent : patch.parentTaskId = none)
        (root : patch.rootTaskId = none) (depth : patch.hierarchyDepth = none)
        (role : patch.hierarchyRole = none)
        (policy : patch.parentCloseoutPolicy = some (effectiveCloseoutPolicy row)) :
        place (row.set patch) = place row ∧ (Closes row → Closes (row.set patch)) := by
      refine ⟨by simp [place, parent, root, depth], fun closes => ?_⟩
      refine ⟨by simp [role, closes.1], ?_⟩
      simp [policy, effectiveCloseoutPolicy, closes.1]
    unfold parentRollupPatch
    simp only []
    split_ifs <;> exact patched _ rfl rfl rfl rfl rfl

theorem keeps_refreshParentRollupOf {parentId : TaskId} :
    Keeps store (refreshParentRollupOf context store parentId) :=
  keeps_updateWhereId (refreshParentRollup_keeps _ _ _)

theorem keeps_refreshAncestorsFrom (bound : Nat) (visited : List TaskId) (cursor : Option TaskRow) :
    Keeps store (refreshAncestorsFrom context bound store visited cursor) := by
  induction bound generalizing store visited cursor with
  | zero => exact .refl store
  | succ bound ih =>
    unfold refreshAncestorsFrom
    split
    · exact .refl store
    · split
      · exact .refl store
      · exact keeps_refreshParentRollupOf.trans (ih _ _)

theorem keeps_refreshAncestorRollups {taskId : TaskId} :
    Keeps store (refreshAncestorRollups context store taskId) :=
  keeps_refreshAncestorsFrom _ _ _

theorem keeps_refreshRollupsForParents (parentIds : List (Option TaskId)) :
    Keeps store (refreshRollupsForParents context store parentIds) := by
  unfold refreshRollupsForParents
  generalize (parentIds.reduceOption.filter (· ≠ "")).eraseDups = ids
  induction ids generalizing store with
  | nil => exact .refl store
  | cons id ids ih =>
    exact (keeps_refreshParentRollupOf.trans keeps_refreshAncestorRollups).trans ih

end Keeping

end AifHandoff.Data
