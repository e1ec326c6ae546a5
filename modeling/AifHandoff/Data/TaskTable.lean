import AifHandoff.Shared.Schema
import Mathlib.Data.List.Nodup

/-!
The `tasks` table and its statements.

The table is a list of rows with distinct ids. `updateWhere` and `updateWhereId` are
the two shapes of an `update(tasks).set(..).where(..)`.
-/

namespace AifHandoff.Data

/-- The `tasks` table. -/
abbrev TaskStore := List TaskRow

def findTaskById (store : TaskStore) (id : TaskId) : Option TaskRow :=
  store.find? (·.id == id)

/-- `update(tasks).set(..).where(eq(tasks.id, id))`. -/
def updateWhereId (store : TaskStore) (id : TaskId) (write : TaskRow → TaskRow) : TaskStore :=
  store.map fun row => if row.id = id then write row else row

/-- `update(tasks).set(patch).where(condition)`. -/
def updateWhere (store : TaskStore) (condition : TaskRow → Bool) (patch : TaskFieldsPatch) :
    TaskStore :=
  store.map fun row => if condition row then row.set patch else row

/-- `result.changes > 0`. -/
def changesRows (store : TaskStore) (condition : TaskRow → Bool) : Bool := store.any condition

section Lookup

variable {store : TaskStore} {row : TaskRow} {id : TaskId}

theorem findTaskById_some (found : findTaskById store id = some row) :
    row ∈ store ∧ row.id = id := by
  refine ⟨List.mem_of_find?_eq_some found, ?_⟩
  simpa using List.find?_some found

/-- With distinct ids a row of the table is found by its id. -/
theorem findTaskById_of_mem (nodup : (store.map (·.id)).Nodup) (inside : row ∈ store) :
    findTaskById store row.id = some row := by
  cases found : findTaskById store row.id with
  | none => simpa using List.find?_eq_none.mp found row inside
  | some other =>
    obtain ⟨inside', same⟩ := findTaskById_some found
    rw [List.inj_on_of_nodup_map nodup inside' inside same]

theorem eq_of_id (nodup : (store.map (·.id)).Nodup) {row' : TaskRow} (inside : row ∈ store)
    (inside' : row' ∈ store) (same : row.id = row'.id) : row = row' :=
  List.inj_on_of_nodup_map nodup inside inside' same

end Lookup

section Statements

variable {store : TaskStore} {condition : TaskRow → Bool} {patch : TaskFieldsPatch}
  {write : TaskRow → TaskRow} {row : TaskRow} {id other : TaskId}

/-- A map over the table that keeps ids maps the row of an id. -/
theorem findTaskById_map (keepsId : ∀ row, (write row).id = row.id) :
    findTaskById (store.map write) id = (findTaskById store id).map write := by
  have same : ((fun row : TaskRow => row.id == id) ∘ write) = (·.id == id) := by
    funext row
    simp [keepsId]
  rw [findTaskById, List.find?_map, same]
  rfl

theorem findTaskById_updateWhere :
    findTaskById (updateWhere store condition patch) id =
      (findTaskById store id).map fun row => if condition row then row.set patch else row := by
  apply findTaskById_map
  intro row
  split <;> rfl

theorem map_id_updateWhere :
    (updateWhere store condition patch).map (·.id) = store.map (·.id) := by
  rw [updateWhere, List.map_map]
  apply List.map_congr_left
  intro row _
  dsimp only [Function.comp]
  split <;> rfl

theorem findTaskById_updateWhereId (keepsId : ∀ row, (write row).id = row.id) :
    findTaskById (updateWhereId store id write) other =
      (findTaskById store other).map fun row => if other = id then write row else row := by
  rw [updateWhereId, findTaskById_map (by intro row; split <;> simp [keepsId])]
  cases found : findTaskById store other with
  | none => rfl
  | some row => rw [Option.map_some, Option.map_some, (findTaskById_some found).2]

theorem map_id_updateWhereId (keepsId : ∀ row, (write row).id = row.id) :
    (updateWhereId store id write).map (·.id) = store.map (·.id) := by
  rw [updateWhereId, List.map_map]
  apply List.map_congr_left
  intro row _
  dsimp only [Function.comp]
  split
  · exact keepsId row
  · rfl

theorem exists_of_updateWhere_ne (changed : updateWhere store condition patch ≠ store) :
    ∃ row ∈ store, condition row = true := by
  by_contra none_
  apply changed
  rw [updateWhere]
  conv_rhs => rw [← List.map_id store]
  apply List.map_congr_left
  intro row inside
  exact if_neg fun holds => none_ ⟨row, inside, holds⟩

theorem changesRows_iff (id : TaskId) (nodup : (store.map (·.id)).Nodup)
    (named : ∀ row, condition row = true → row.id = id) :
    changesRows store condition = true ↔ ∃ row, findTaskById store id = some row ∧
      condition row = true := by
  rw [changesRows, List.any_eq_true]
  constructor
  · rintro ⟨row, inside, holds⟩
    exact ⟨row, named row holds ▸ findTaskById_of_mem nodup inside, holds⟩
  · rintro ⟨row, found, holds⟩
    exact ⟨row, (findTaskById_some found).1, holds⟩

end Statements

end AifHandoff.Data
