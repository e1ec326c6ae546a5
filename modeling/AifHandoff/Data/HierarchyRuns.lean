import AifHandoff.Lib.Forest
import AifHandoff.Lib.Transition
import AifHandoff.Data.HierarchyMove

/-!
The task hierarchy over whole runs of `createTask` and `updateTask`.

What the local invariant says of the whole table comes from `AifHandoff.Lib.Forest`:
the cached columns label the parent links.
-/

namespace AifHandoff.Data

open AifHandoff.Transition AifHandoff.Forest

/-- A call of `createTask` with the id it draws, or of `updateTask`. -/
inductive HierarchyCall where
  | create (context : RollupContext) (reviewIterations : Nat) (id : TaskId)
      (input : CreateTaskInput)
  | update (context : RollupContext) (id : TaskId) (fields : TaskFieldsUpdate)

/-- Successful calls from an empty table; a drawn id is never the empty text. -/
def hierarchySystem : System TaskStore HierarchyCall where
  init store := store = []
  step
    | store, .create context reviewIterations id input, store' =>
      id ≠ "" ∧ createTask context reviewIterations id input store = .ok store'
    | store, .update context id fields, store' => updateTask context id fields store = .ok store'

/-- The calls that lose no root. -/
def losesNoRoot (store : TaskStore) : HierarchyCall → Bool
  | .create .. => true
  | .update _ id fields => keepsDescendantRoots store id fields

def LosesNoRoot (store : TaskStore) (call : HierarchyCall) : Prop := losesNoRoot store call = true

/-- The parent links of a table. -/
def parentOf (store : TaskStore) (id : TaskId) : Option TaskId :=
  (findTaskById store id).bind (·.parentTaskId)

/-- What the hierarchy columns promise about the whole table. -/
structure HierarchyOk (store : TaskStore) : Prop where
  acyclic : Acyclic (parentOf store)
  parents : ∀ task ∈ store, ∀ parentId, task.parentTaskId = some parentId →
    ∃ parent ∈ store, parent.id = parentId ∧ parent.projectId = task.projectId
  ancestors : ∀ task ∈ store, ∃ distance root, Topmost (parentOf store) task.id distance root ∧
    task.hierarchyDepth = distance ∧ distance ≤ 2 ∧
    task.rootTaskId = if task.parentTaskId = none then none else some root
  containers : ∀ task ∈ store, (∃ child ∈ store, child.parentTaskId = some task.id) →
    task.hierarchyRole = .container ∧ task.parentCloseoutPolicy ≠ none

theorem parentOf_of_mem {store : TaskStore} {task : TaskRow}
    (nodup : (store.map (·.id)).Nodup) (inside : task ∈ store) :
    parentOf store task.id = task.parentTaskId := by
  rw [parentOf, findTaskById_of_mem nodup inside, Option.bind_some]

theorem HierarchyInv.labelling {store : TaskStore} (inv : HierarchyInv none store) :
    Labelling (parentOf store) (fun id => ∃ task ∈ store, task.id = id)
      (fun id => ((findTaskById store id).map (·.hierarchyDepth)).getD 0)
      (fun id => (findTaskById store id).bind (·.rootTaskId)) := by
  refine ⟨?_, ?_, ?_, ?_⟩
  · intro x p link
    obtain ⟨task, found, toParent⟩ := Option.bind_eq_some_iff.mp link
    obtain ⟨inside, rfl⟩ := findTaskById_some found
    obtain ⟨parent, insideP, rfl, -⟩ := (inv.placed task inside).link p toParent
    exact ⟨⟨task, inside, rfl⟩, parent, insideP, rfl⟩
  · rintro x ⟨task, inside, rfl⟩
    simpa [findTaskById_of_mem inv.nodup inside] using (inv.placed task inside).nonneg
  · rintro x ⟨task, inside, rfl⟩ noParent
    rw [parentOf_of_mem inv.nodup inside] at noParent
    simpa [findTaskById_of_mem inv.nodup inside] using (inv.placed task inside).top noParent
  · intro x p link
    obtain ⟨task, found, toParent⟩ := Option.bind_eq_some_iff.mp link
    obtain ⟨inside, rfl⟩ := findTaskById_some found
    obtain ⟨parent, insideP, rfl, -, depth, root⟩ := (inv.placed task inside).link p toParent
    simp only [findTaskById_of_mem inv.nodup inside, findTaskById_of_mem inv.nodup insideP,
      Option.map_some, Option.getD_some, Option.bind_some]
    exact ⟨depth, root⟩

theorem HierarchyInv.ok {store : TaskStore} (inv : HierarchyInv none store) : HierarchyOk store := by
  refine ⟨inv.labelling.acyclic, ?_, ?_, ?_⟩
  · intro task inside parentId toParent
    obtain ⟨parent, insideP, named, project, -⟩ := (inv.placed task inside).link parentId toParent
    exact ⟨parent, insideP, named, project⟩
  · intro task inside
    obtain ⟨distance, root, topmost, depth, rooted⟩ := inv.labelling.topmost ⟨task, inside, rfl⟩
    rw [parentOf_of_mem inv.nodup inside] at rooted
    simp only [findTaskById_of_mem inv.nodup inside, Option.map_some, Option.getD_some,
      Option.bind_some] at depth rooted
    have bounded := (inv.placed task inside).bounded
    exact ⟨distance, root, topmost, depth, by omega, rooted⟩
  · rintro task inside ⟨child, insideC, toTask⟩
    exact inv.closed child insideC task inside toTask (by simp)

/-- **Hierarchy**: after any successful calls that lose no root, the parent links
form a forest within projects, depth and root describe the topmost ancestor at a
distance of at most two, and every parent is a container with a closeout policy. -/
theorem hierarchy_of_reaches {store : TaskStore} (reached : Reaches hierarchySystem LosesNoRoot store) :
    HierarchyOk store := by
  have inv : HierarchyInv none store := by
    refine reached.invariant ?_ ?_
    · rintro start rfl
      exact ⟨List.nodup_nil, by simp, by simp, by simp⟩
    · intro before call after inv admitted step
      cases call with
      | create context reviewIterations id input => exact createTask_keeps inv step.1 step.2
      | update context id fields => exact updateTask_keeps inv admitted step
  exact inv.ok

/-- The result of a call, as a step of the system. -/
def callResult (store : TaskStore) : HierarchyCall → Except String TaskStore
  | .create context reviewIterations id input =>
    if id = "" then .error "empty id" else createTask context reviewIterations id input store
  | .update context id fields => updateTask context id fields store

/-- One call on a table, which a refused call leaves as it is. -/
def runCall (store : TaskStore) (call : HierarchyCall) : TaskStore :=
  (callResult store call).toOption.getD store

theorem step_runCall {store : TaskStore} {call : HierarchyCall}
    (succeeds : (callResult store call).isOk = true) :
    hierarchySystem.step store call (runCall store call) := by
  cases result : callResult store call with
  | error error => simp [result, Except.isOk, Except.toBool] at succeeds
  | ok store' =>
    have after : runCall store call = store' := by simp [runCall, result, Except.toOption]
    rw [after]
    cases call with
    | create context reviewIterations id input =>
      simp only [callResult] at result
      split at result
      · cases result
      · rename_i named
        exact ⟨named, result⟩
    | update context id fields => exact result

/-- Two containers, a task under the first, and a task under that one. -/
def twoTrees : List HierarchyCall :=
  [.create { now := 1 } 3 "a" { projectId := "p", hierarchyRole := some .container },
    .create { now := 2 } 3 "b" { projectId := "p", hierarchyRole := some .container },
    .create { now := 3 } 3 "c" { projectId := "p", parentTaskId := some "a" },
    .create { now := 4 } 3 "d" { projectId := "p", parentTaskId := some "c" }]

/-- Moving the inner task to the other container, at the same depth. -/
def moveInner : HierarchyCall := .update { now := 5 } "c" { parentTaskId := some (some "b") }

/-- After a move between parents of the same depth a grandchild still names the old
container as its root. -/
theorem same_depth_move_stale_root :
    ∃ store, Reachable hierarchySystem store ∧
      (∃ task ∈ store, task.rootTaskId = some "a" ∧ Topmost (parentOf store) task.id 2 "b") ∧
      ¬ HierarchyOk store := by
  let calls := twoTrees ++ [moveInner]
  let store := calls.foldl runCall []
  have reached : Reachable hierarchySystem store := by
    refine reaches_runs (fun store call => (callResult store call).isOk) runCall
      (fun store call succeeds => ⟨trivial, step_runCall succeeds⟩) (.init rfl) ?_
    decide
  have stale : ∃ task ∈ store, task.id = "d" ∧ task.rootTaskId = some "a" ∧
      task.parentTaskId = some "c" := by decide
  obtain ⟨task, inside, named, root, toParent⟩ := stale
  have up : parentOf store "d" = some "c" ∧ parentOf store "c" = some "b" ∧
      parentOf store "b" = none := by decide
  have topmost : Topmost (parentOf store) task.id 2 "b" := by
    rw [named]
    exact ⟨.link up.1 (.link up.2.1 (.self "b")), up.2.2⟩
  refine ⟨store, reached, ⟨task, inside, root, topmost⟩, fun ok => ?_⟩
  obtain ⟨distance, top, topmost', -, -, rooted⟩ := ok.ancestors task inside
  obtain ⟨-, rfl⟩ := topmost.unique topmost'
  rw [root, toParent] at rooted
  revert rooted
  decide

/-- The two trees themselves, and a move that changes the depth, are in order. -/
theorem hierarchy_of_twoTrees :
    HierarchyOk ((twoTrees ++ [HierarchyCall.update { now := 5 } "d" { parentTaskId := some (some "b") }]).foldl
      runCall []) := by
  refine hierarchy_of_reaches (reaches_runs
    (fun store call => (callResult store call).isOk && losesNoRoot store call) runCall
    (fun store call checked => ?_) (.init rfl) ?_)
  · obtain ⟨succeeds, losesNo⟩ := (Bool.and_eq_true _ _).mp checked
    exact ⟨losesNo, step_runCall succeeds⟩
  · decide

end AifHandoff.Data
