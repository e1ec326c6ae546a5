import AifHandoff.Data.BatchSummaries
import AifHandoff.Data.DataLayer
import AifHandoff.Data.RollupFrame

/-!
What a deletion leaves (`deleteTask` of `data/index.ts`).

The deletion clears the comments and the roadmap tables of the task; the questions, the
snapshots and the stage artifacts stay behind.
-/

namespace AifHandoff.Data

open StageArtifacts SplitProposals Transition

variable {δ χ : Type}

/-! ### References -/

/-- The tasks that the roadmap tables and the parent links name. -/
def roadmapReferences (db : RoadmapStore δ) : List TaskId :=
  db.artifacts.map (·.taskId) ++ db.attempts.map (·.taskId) ++
    db.batches.flatMap (·.createdTaskIds) ++ db.batches.filterMap (·.synthesisTaskId) ++
    db.tasks.filterMap (·.parentTaskId)

/-- The tasks that questions, snapshots and stage artifacts name. -/
def stageReferences (db : DataStore δ χ) : List TaskId :=
  db.questions.map (·.taskId) ++ db.snapshots.map (·.taskId) ++
    db.stages.artifacts.map (·.taskId) ++ db.stages.attempts.map (·.taskId)

/-- Every task that a row names. -/
def references (db : DataStore δ χ) : List TaskId :=
  db.comments.map (·.taskId) ++ stageReferences db ++ roadmapReferences db.roadmap

/-- No row names a task that does not exist. -/
def NoDangling (db : DataStore δ χ) : Prop := ∀ id ∈ references db, id ∈ existingTaskIds db

/-- What holds between the calls. -/
structure Whole [ValidationDetails δ] (db : DataStore δ χ) : Prop where
  noDangling : NoDangling db
  summarized : Summarized db.roadmap

/-! ### The conditions on the calls -/

/-- The tasks that a contract names. -/
def contractReferences (input : CreateRoadmapBatchContractInput) : List TaskId :=
  input.artifacts.map (·.taskId) ++ input.createdTaskIds ++ input.synthesisTaskId.toList

section Conditions

variable [ValidationDetails δ]

def namesExisting (db : RoadmapStore δ) : Creation → Prop
  | .task _ _ _ _ => True
  | .batch input _ _ => ∀ id ∈ contractReferences input, id ∈ db.tasks.map (·.id)

/-- Everything a callback creates names tasks that exist by then. -/
def NamesExisting (db : RoadmapStore δ) : List Creation → Prop
  | [] => True
  | creation :: creations => namesExisting db creation ∧
      ∀ next, create db creation = .ok next → NamesExisting next creations

/-- Rows are attached to existing tasks, and a task is deleted only without questions,
snapshots and stage artifacts. -/
def LeavesNothing (db : DataStore δ χ) : DataOp δ χ → Prop
  | .create creation => namesExisting db.roadmap creation
  | .createComment input _ _ => input.taskId ∈ existingTaskIds db
  | .approveProposal _ _ _ creations _ _ => NamesExisting db.roadmap creations
  | .deleteTask id _ _ => id ∉ stageReferences db
  | _ => True

end Conditions

/-! ### The roadmap tables and the tasks -/

/-- Tasks stay, and what is named from now on exists. -/
structure Grows (db db' : RoadmapStore δ) : Prop where
  tasks : ∀ id ∈ db.tasks.map (·.id), id ∈ db'.tasks.map (·.id)
  references : ∀ id ∈ roadmapReferences db', id ∈ roadmapReferences db ∨ id ∈ db'.tasks.map (·.id)

/-- Nothing that names a task changes. -/
structure SameReferences (db db' : RoadmapStore δ) : Prop where
  links : KeepsLinks db.tasks db'.tasks
  batches : db'.batches.map (fun batch => (batch.createdTaskIds, batch.synthesisTaskId)) =
    db.batches.map fun batch => (batch.createdTaskIds, batch.synthesisTaskId)
  artifacts : db'.artifacts = db.artifacts
  attempts : db'.attempts = db.attempts

section Relations

variable {db db' db'' : RoadmapStore δ}

theorem mem_roadmapReferences {id : TaskId} : id ∈ roadmapReferences db ↔
    (∃ artifact ∈ db.artifacts, artifact.taskId = id) ∨
    (∃ attempt ∈ db.attempts, attempt.taskId = id) ∨
    (∃ batch ∈ db.batches, id ∈ batch.createdTaskIds ∨ batch.synthesisTaskId = some id) ∨
    ∃ row ∈ db.tasks, row.parentTaskId = some id := by
  simp only [roadmapReferences, List.mem_append, List.mem_map, List.mem_flatMap,
    List.mem_filterMap]
  constructor
  · rintro ((((artifact | attempt) | ⟨batch, inside, created⟩) | ⟨batch, inside, synthesis⟩) | row)
    · exact .inl artifact
    · exact .inr (.inl attempt)
    · exact .inr (.inr (.inl ⟨batch, inside, .inl created⟩))
    · exact .inr (.inr (.inl ⟨batch, inside, .inr synthesis⟩))
    · exact .inr (.inr (.inr row))
  · rintro (artifact | attempt | ⟨batch, inside, created | synthesis⟩ | row)
    · exact .inl (.inl (.inl (.inl artifact)))
    · exact .inl (.inl (.inl (.inr attempt)))
    · exact .inl (.inl (.inr ⟨batch, inside, created⟩))
    · exact .inl (.inr ⟨batch, inside, synthesis⟩)
    · exact .inr row

theorem Grows.refl (db : RoadmapStore δ) : Grows db db := ⟨fun _ => id, fun _ => .inl⟩

theorem Grows.trans (first : Grows db db') (second : Grows db' db'') : Grows db db'' where
  tasks id known := second.tasks id (first.tasks id known)
  references id named := by
    rcases second.references id named with before | known
    · rcases first.references id before with before | known
      · exact .inl before
      · exact .inr (second.tasks id known)
    · exact .inr known

theorem KeepsLinks.ids {store store' : TaskStore} (keeps : KeepsLinks store store') :
    store'.map (·.id) = store.map (·.id) := by
  obtain ⟨write, rfl, keeps⟩ := keeps
  rw [List.map_map]
  exact List.map_congr_left fun row _ => (keeps row).1

theorem KeepsLinks.parents {store store' : TaskStore} (keeps : KeepsLinks store store') :
    store'.filterMap (·.parentTaskId) = store.filterMap (·.parentTaskId) := by
  obtain ⟨write, rfl, keeps⟩ := keeps
  rw [List.filterMap_map]
  exact List.filterMap_congr fun row _ => (keeps row).2

theorem SameReferences.trans (first : SameReferences db db') (second : SameReferences db' db'') :
    SameReferences db db'' where
  links := first.links.trans second.links
  batches := second.batches.trans first.batches
  artifacts := second.artifacts.trans first.artifacts
  attempts := second.attempts.trans first.attempts

theorem SameReferences.eq (same : SameReferences db db') :
    roadmapReferences db' = roadmapReferences db := by
  have created : db'.batches.flatMap (·.createdTaskIds) =
      db.batches.flatMap (·.createdTaskIds) := by
    have lists := congrArg (List.flatMap (·.1)) same.batches
    simpa only [List.flatMap_map] using lists
  have synthesis : db'.batches.filterMap (·.synthesisTaskId) =
      db.batches.filterMap (·.synthesisTaskId) := by
    have lists := congrArg (List.filterMap (·.2)) same.batches
    simpa only [List.filterMap_map, Function.comp_def] using lists
  rw [roadmapReferences, roadmapReferences, same.artifacts, same.attempts, created, synthesis,
    same.links.parents]

theorem SameReferences.grows (same : SameReferences db db') : Grows db db' where
  tasks id known := by
    rw [same.links.ids]
    exact known
  references id named := .inl (same.eq ▸ named)

end Relations

/-! ### Calls on the roadmap tables -/

section Calls

variable [ValidationDetails δ] {db db' : RoadmapStore δ} {now : Nat}

theorem sameReferences_refreshAncestors (db : RoadmapStore δ) (taskId : TaskId) (now : Nat) :
    SameReferences db (refreshAncestors db taskId now) where
  links := keeps_refreshAncestorRollups.keepsLinks
  batches := rfl
  artifacts := rfl
  attempts := rfl

theorem sameReferences_refreshRoadmapBatchSummary (db : RoadmapStore δ) (batchId : String)
    (now : Nat) : SameReferences db (refreshRoadmapBatchSummary db batchId now).1 where
  links := by
    obtain ⟨write, columns, tasks⟩ := tasks_refreshRoadmapBatchSummary db batchId now
    exact ⟨write, tasks, fun row => ⟨congrArg RollupColumns.id (columns row),
      congrArg RollupColumns.parentTaskId (columns row)⟩⟩
  batches := map_refreshRoadmapBatchSummary_batches db batchId now _ fun _ _ _ => rfl
  artifacts := refreshRoadmapBatchSummary_artifacts db batchId now
  attempts := refreshRoadmapBatchSummary_attempts db batchId now

theorem sameReferences_refreshRoadmapBatch (db : RoadmapStore δ) (batchId : String) (now : Nat) :
    SameReferences db (refreshRoadmapBatch db batchId now) := by
  have summary := sameReferences_refreshRoadmapBatchSummary db batchId now
  rw [refreshRoadmapBatch]
  split
  · exact summary
  · exact summary.trans (sameReferences_refreshAncestors _ _ now)

theorem sameReferences_refreshRoadmapBatches (batchIds : List String) (db : RoadmapStore δ)
    (now : Nat) : SameReferences db (batchIds.foldl (refreshRoadmapBatch · · now) db) := by
  induction batchIds generalizing db with
  | nil => exact ⟨.refl db.tasks, rfl, rfl, rfl⟩
  | cons batchId batchIds ih =>
    exact (sameReferences_refreshRoadmapBatch db batchId now).trans (ih _)

theorem grows_createTask {agentMaxReviewIterations : Nat} {id : TaskId} {input : CreateTaskInput}
    {tasks : TaskStore}
    (ok : createTask (rollupContext db now) agentMaxReviewIterations id input db.tasks =
      .ok tasks) :
    Grows db { db with tasks } := by
  unfold createTask at ok
  split at ok
  · cases ok
  next hierarchy resolved =>
    split at ok
    · cases ok
    dsimp only at ok
    let row := newTaskRow db.tasks input hierarchy id agentMaxReviewIterations now
    have parent : ∀ parentId, row.parentTaskId = some parentId →
        parentId ∈ db.tasks.map (·.id) := by
      intro parentId under
      rcases resolveCreateHierarchy_ok resolved with ⟨none_, -⟩ | ⟨parent, inside, is, -⟩
      · exact absurd (none_.symm.trans under) (by simp)
      · exact List.mem_map.mpr ⟨parent, inside, Option.some.inj (is.symm.trans under)⟩
    have inserted : Grows db { db with tasks := db.tasks ++ [row] } := by
      have more : ∀ id ∈ db.tasks.map (·.id), id ∈ (db.tasks ++ [row]).map (·.id) := by
        intro id known
        rw [List.map_append]
        exact List.mem_append_left _ known
      refine ⟨more, fun id named => ?_⟩
      rw [mem_roadmapReferences] at named ⊢
      rcases named with artifact | attempt | batch | ⟨other, inside, under⟩
      · exact .inl (.inl artifact)
      · exact .inl (.inr (.inl attempt))
      · exact .inl (.inr (.inr (.inl batch)))
      · rcases List.mem_append.mp inside with old | new
        · exact .inl (.inr (.inr (.inr ⟨other, old, under⟩)))
        · rw [List.mem_singleton.mp new] at under
          exact .inr (more id (parent id under))
    split at ok <;> cases ok
    · exact inserted
    next parentId _ =>
      have promoted : KeepsLinks (db.tasks ++ [row])
          (promoteToContainer (rollupContext db now) (db.tasks ++ [row]) parentId) :=
        keeps_promoteToContainer.keepsLinks
      have refreshed := promoted.trans (Keeps.keepsLinks
        (@keeps_refreshRollupsForParents _ (rollupContext db now) [some parentId]))
      exact inserted.trans (SameReferences.grows ⟨refreshed, rfl, rfl, rfl⟩)

theorem grows_createBatch {input : CreateRoadmapBatchContractInput} {randomUUID : Nat → String}
    (existing : ∀ id ∈ contractReferences input, id ∈ db.tasks.map (·.id))
    (ok : createBatch db input now randomUUID = .ok db') : Grows db db' := by
  have inserted : Grows db (insertRoadmapBatch db input now randomUUID) := by
    refine ⟨fun _ known => known, fun id named => ?_⟩
    rw [mem_roadmapReferences] at named ⊢
    rcases named with ⟨artifact, inside, names⟩ | attempt | ⟨batch, inside, names⟩ | row
    · rcases List.mem_append.mp inside with old | new
      · exact .inl (.inl ⟨artifact, old, names⟩)
      · obtain ⟨index, bound, rfl⟩ := mem_newRoadmapArtifacts new
        refine .inr (existing id ?_)
        rw [← names]
        exact List.mem_append_left _ (List.mem_append_left _
          (List.mem_map.mpr ⟨_, List.getElem_mem bound, rfl⟩))
    · exact .inl (.inr (.inl attempt))
    · rcases List.mem_append.mp inside with old | new
      · exact .inl (.inr (.inr (.inl ⟨batch, old, names⟩)))
      · rw [List.mem_singleton.mp new] at names
        refine .inr (existing id ?_)
        rcases names with created | synthesis
        · exact List.mem_append_left _ (List.mem_append_right _ created)
        · exact List.mem_append_right _ (Option.mem_toList.mpr synthesis)
    · exact .inl (.inr (.inr (.inr row)))
  have refreshed := inserted.trans (sameReferences_refreshRoadmapBatch
    (insertRoadmapBatch db input now randomUUID) (randomUUID 0) now).grows
  unfold createBatch at ok
  split at ok
  · cases ok
  dsimp only at ok
  split at ok <;> cases ok
  · exact refreshed
  · exact refreshed.trans (sameReferences_refreshAncestors _ _ now).grows

theorem ledgered_createBatch {input : CreateRoadmapBatchContractInput} {randomUUID : Nat → String}
    (ledgered : Ledgered db) (fresh : FreshIds db (.createBatch input now randomUUID))
    (ok : createBatch db input now randomUUID = .ok db') : Ledgered db' := by
  have inserted := ledgered_insertRoadmapBatch ledgered fresh
  have same := sameReferences_refreshRoadmapBatch
    (insertRoadmapBatch db input now randomUUID) (randomUUID 0) now
  have refreshed := inserted.congr same.artifacts same.attempts
  unfold createBatch at ok
  split at ok
  · cases ok
  dsimp only at ok
  split at ok <;> cases ok
  · exact refreshed
  · exact refreshed.congr rfl rfl

/-- An update names the task of its artifact again. -/
theorem grows_updateArtifact {input : RoadmapArtifactStateInput δ} {randomUUID : String}
    (ok : updateArtifact db input now randomUUID = .ok db') : Grows db db' := by
  unfold updateArtifact at ok
  split at ok
  · cases ok
  split at ok
  · cases ok
    exact .refl db
  next artifact found =>
    cases ok
    have inside := (findRoadmapBatchArtifactByTaskId_some found).1
    suffices recorded : Grows db (recordAttempt db artifact input now randomUUID) from
      recorded.trans (sameReferences_refreshRoadmapBatch _ artifact.batchId now).grows
    refine ⟨fun _ known => known, fun id named => .inl ?_⟩
    rw [mem_roadmapReferences] at named ⊢
    rcases named with ⟨row, insideRow, names⟩ | ⟨attempt, insideAttempt, names⟩ | batch | row
    · rcases mem_recordAttempt_artifacts insideRow with ⟨old, -⟩ | ⟨-, old, insideOld, -, rfl⟩
      · exact .inl ⟨row, old, names⟩
      · exact .inl ⟨old, insideOld, names⟩
    · rw [recordAttempt_attempts] at insideAttempt
      rcases List.mem_append.mp insideAttempt with old | new
      · exact .inr (.inl ⟨attempt, old, names⟩)
      · rw [List.mem_singleton.mp new] at names
        exact .inl ⟨artifact, inside, names⟩
    · exact .inr (.inr (.inl batch))
    · exact .inr (.inr (.inr row))

theorem ledgered_updateArtifact {input : RoadmapArtifactStateInput δ} {randomUUID : String}
    (ledgered : Ledgered db) (ok : updateArtifact db input now randomUUID = .ok db') :
    Ledgered db' := by
  unfold updateArtifact at ok
  split at ok
  · cases ok
  split at ok
  · cases ok
    exact ledgered
  next artifact found =>
    cases ok
    have inside := (findRoadmapBatchArtifactByTaskId_some found).1
    have same := sameReferences_refreshRoadmapBatch
      (recordAttempt db artifact input now randomUUID) artifact.batchId now
    exact (ledgered_recordAttempt ledgered inside input now randomUUID).congr same.artifacts
      same.attempts

omit [ValidationDetails δ] in
theorem forgetTask_names {id other : TaskId} {batch : RoadmapBatchRow}
    (names : other ∈ (forgetTask db id now batch).createdTaskIds ∨
      (forgetTask db id now batch).synthesisTaskId = some other) :
    (other ∈ batch.createdTaskIds ∨ batch.synthesisTaskId = some other) ∧
      (batch ∈ db.batches → other ≠ id) := by
  unfold forgetTask at names
  split at names
  · rcases names with created | synthesis
    · obtain ⟨listed, stays⟩ := List.mem_filter.mp created
      exact ⟨.inl listed, fun _ => of_decide_eq_true stays⟩
    · obtain ⟨is, stays⟩ := Option.filter_eq_some_iff.mp synthesis
      exact ⟨.inr is, fun _ => of_decide_eq_true stays⟩
  next unlinked =>
    refine ⟨names, ?_⟩
    rintro inside rfl
    refine unlinked (List.contains_iff_mem.mpr (List.mem_eraseDups.mpr (List.mem_append_right _
      (List.mem_map.mpr ⟨batch, List.mem_filter.mpr ⟨inside, ?_⟩, rfl⟩))))
    rw [Bool.or_eq_true, beq_iff_eq, List.contains_iff_mem]
    exact names.symm

/-- A deletion takes the task out of the table and out of everything that names it. -/
theorem deleteTask_cases {id : TaskId} {allowAttachedChild : Bool}
    (ok : deleteTask db id allowAttachedChild now = .ok db') :
    (findTaskById db.tasks id = none ∧ db' = db) ∨
      ((findTaskById db.tasks id).isSome = true ∧
        (∀ other, other ∈ db'.tasks.map (·.id) ↔ other ∈ db.tasks.map (·.id) ∧ other ≠ id) ∧
        (∀ other ∈ roadmapReferences db', other ∈ roadmapReferences db ∧ other ≠ id) ∧
        (Ledgered db → Ledgered db')) := by
  unfold deleteTask at ok
  split at ok
  next missing =>
    cases ok
    exact .inl ⟨missing, rfl⟩
  next existing found =>
    right
    split at ok
    · cases ok
    next leaf =>
      split at ok
      · cases ok
      cases ok
      have batches := sameReferences_refreshRoadmapBatches (batchesToRefresh db id)
        (removeTask db id now) now
      let refreshed := (batchesToRefresh db id).foldl (refreshRoadmapBatch · · now)
        (removeTask db id now)
      have same : SameReferences (removeTask db id now) { refreshed with
          tasks := refreshRollupsForParents (rollupContext refreshed now) refreshed.tasks
            [existing.parentTaskId] } :=
        batches.trans ⟨Keeps.keepsLinks (keeps_refreshRollupsForParents _), rfl, rfl, rfl⟩
      refine ⟨by rw [found]; rfl, fun other => ?_, fun other named => ?_, fun ledgered =>
        (ledgered_removeTask ledgered).congr same.artifacts same.attempts⟩
      · rw [same.links.ids, removeTask, List.mem_map, List.mem_map]
        constructor
        · rintro ⟨row, kept, rfl⟩
          obtain ⟨inside, stays⟩ := List.mem_filter.mp kept
          exact ⟨⟨row, inside, rfl⟩, of_decide_eq_true stays⟩
        · rintro ⟨⟨row, inside, rfl⟩, stays⟩
          exact ⟨row, List.mem_filter.mpr ⟨inside, decide_eq_true stays⟩, rfl⟩
      · rw [same.eq, mem_roadmapReferences] at named
        rw [mem_roadmapReferences]
        rcases named with ⟨artifact, kept, rfl⟩ | ⟨attempt, kept, rfl⟩ |
          ⟨batch', kept, names⟩ | ⟨row, kept, under⟩
        · obtain ⟨inside, stays⟩ := List.mem_filter.mp kept
          exact ⟨.inl ⟨artifact, inside, rfl⟩, of_decide_eq_true stays⟩
        · obtain ⟨inside, stays⟩ := List.mem_filter.mp kept
          exact ⟨.inr (.inl ⟨attempt, inside, rfl⟩), of_decide_eq_true stays⟩
        · obtain ⟨batch, stays, rfl⟩ := List.mem_map.mp kept
          have inside := (List.mem_filter.mp stays).1
          have before := forgetTask_names names
          exact ⟨.inr (.inr (.inl ⟨batch, inside, before.1⟩)), before.2 inside⟩
        · obtain ⟨inside, -⟩ := List.mem_filter.mp kept
          refine ⟨.inr (.inr (.inr ⟨row, inside, under⟩)), ?_⟩
          rintro rfl
          exact leaf (directChildCount_pos.mpr ⟨row, inside, under⟩)

theorem create_ok {creation : Creation} (ledgered : Ledgered db) (right : Summarized db)
    (fresh : DrawsFresh db creation.op) (existing : namesExisting db creation)
    (ok : create db creation = .ok db') : Grows db db' ∧ Ledgered db' ∧ Summarized db' := by
  cases creation with
  | task agentMaxReviewIterations id input now =>
    obtain ⟨tasks, done, rfl⟩ := map_eq_ok ok
    exact ⟨grows_createTask done, ledgered.congr rfl rfl,
      summarizedBut_nil.mp ((summarizedBut_nil.mpr right).congr rfl rfl rfl)⟩
  | batch input now randomUUID =>
    exact ⟨grows_createBatch existing ok, ledgered_createBatch ledgered fresh ok,
      summarized_createBatch right ok⟩

theorem createAll_ok {creations : List Creation} (ledgered : Ledgered db) (right : Summarized db)
    (fresh : CreatesFresh db creations) (existing : NamesExisting db creations)
    (ok : createAll db creations = .ok db') : Grows db db' ∧ Ledgered db' ∧ Summarized db' := by
  induction creations generalizing db with
  | nil =>
    cases ok
    exact ⟨.refl _, ledgered, right⟩
  | cons creation creations ih =>
    rw [createAll] at ok
    split at ok
    · cases ok
    next next created =>
      obtain ⟨grows, ledgered', right'⟩ :=
        create_ok ledgered right fresh.1 existing.1 created
      obtain ⟨rest, ledgered'', right''⟩ :=
        ih ledgered' right' (fresh.2 next created) (existing.2 next created) ok
      exact ⟨grows.trans rest, ledgered'', right''⟩

end Calls

/-! ### Calls on the questions -/

section Questions

variable {s after : QuestionStore} {now : Nat}

theorem parentTaskId_setTaskFields {row : TaskRow} {patch : TaskFieldsPatch}
    (parentKept : patch.parentTaskId = none) :
    (setTaskFields row patch).parentTaskId = row.parentTaskId := by
  unfold setTaskFields normalizeOperatorInputHoldPatch
  dsimp only
  split <;> simp [parentKept]

/-- What every call on the questions of a task keeps. -/
structure QuestionsKept (s after : QuestionStore) : Prop where
  id : after.task.row.id = s.task.row.id
  parent : after.task.row.parentTaskId = s.task.row.parentTaskId
  owners : ∀ row ∈ after.questions, row.taskId = s.task.row.id ∨
    ∃ before ∈ s.questions, before.taskId = row.taskId

theorem write_parentTaskId (task : RequirementTask) {patch : TaskFieldsPatch} (now : Nat)
    (parentKept : patch.parentTaskId = none) :
    (task.write patch now).row.parentTaskId = task.row.parentTaskId :=
  (parentTaskId_setTaskFields rfl).trans (parentTaskId_setTaskFields parentKept)

theorem owners_answerQuestionRow {questions : List RequirementQuestionRow}
    {answer : QuestionAnswer} {row : RequirementQuestionRow}
    (inside : row ∈ answerQuestionRow questions answer now) :
    ∃ before ∈ questions, before.taskId = row.taskId := by
  obtain ⟨before, insideBefore, rfl⟩ := List.mem_map.mp inside
  refine ⟨before, insideBefore, ?_⟩
  split <;> rfl

theorem owners_answerQuestionRows {answers : List QuestionAnswer}
    {questions : List RequirementQuestionRow} {row : RequirementQuestionRow}
    (inside : row ∈ answers.foldl (answerQuestionRow · · now) questions) :
    ∃ before ∈ questions, before.taskId = row.taskId := by
  induction answers generalizing questions with
  | nil => exact ⟨row, inside, rfl⟩
  | cons answer answers ih =>
    obtain ⟨middle, insideMiddle, sameOwner⟩ := ih inside
    obtain ⟨before, insideBefore, same⟩ := owners_answerQuestionRow insideMiddle
    exact ⟨before, insideBefore, same.trans sameOwner⟩

theorem questionsKept_create {input : CreateQuestionBatchInput} {randomUUID : Nat → String}
    {batchId : Option String}
    (ok : createTaskRequirementQuestionBatch s input now randomUUID = .ok (after, batchId)) :
    QuestionsKept s after := by
  unfold createTaskRequirementQuestionBatch at ok
  split at ok
  · cases ok
  dsimp only at ok
  split at ok
  · cases ok
    exact ⟨rfl, rfl, fun row inside => .inr ⟨row, inside, rfl⟩⟩
  split at ok
  · cases ok
  next questions inserted =>
    have owners : ∀ row ∈ questions, row.taskId = s.task.row.id ∨
        ∃ before ∈ s.questions, before.taskId = row.taskId := by
      unfold insertQuestions at inserted
      split at inserted <;> cases inserted
      intro row inside
      rcases List.mem_append.mp inside with old | new
      · exact .inr ⟨row, old, rfl⟩
      · obtain ⟨index, bound, rfl⟩ := List.mem_mapIdx.mp new
        exact .inl rfl
    cases ok
    refine ⟨?_, ?_, owners⟩
    · split <;> rfl
    · split
      · exact write_parentTaskId s.task now rfl
      · exact write_parentTaskId s.task now rfl

theorem questionsKept_call {call : QuestionCall} (ok : callQuestions s now call = .ok after) :
    QuestionsKept s after := by
  cases call with
  | create input randomUUID =>
    obtain ⟨⟨result, batchId⟩, done, rfl⟩ := map_eq_ok ok
    exact questionsKept_create done
  | answer parsers answer =>
    change answerTaskRequirementQuestion parsers s answer now = .ok after at ok
    unfold answerTaskRequirementQuestion at ok
    split at ok <;> cases ok
    exact ⟨rfl, write_parentTaskId s.task now rfl,
      fun row inside => .inr (owners_answerQuestionRow inside)⟩
  | answerBatch parsers autoResumeDefault batchId answers autoResume =>
    obtain ⟨⟨result, resumed⟩, done, rfl⟩ := map_eq_ok ok
    unfold answerTaskRequirementQuestionBatch at done
    split at done
    · cases done
    dsimp only at done
    split at done <;> cases done
    · exact ⟨rfl, write_parentTaskId s.task now rfl,
        fun row inside => .inr (owners_answerQuestionRows inside)⟩
    · exact ⟨rfl, write_parentTaskId s.task now rfl,
        fun row inside => .inr (owners_answerQuestionRows inside)⟩
  | resolveOpen reason =>
    cases ok
    refine ⟨?_, ?_, fun row inside => .inr ?_⟩
    · unfold resolveOpenRequirementQuestionsForTask
      dsimp only
      split <;> rfl
    · unfold resolveOpenRequirementQuestionsForTask
      dsimp only
      split
      · rfl
      · exact parentTaskId_setTaskFields rfl
    · obtain ⟨before, insideBefore, rfl⟩ := List.mem_map.mp inside
      refine ⟨before, insideBefore, ?_⟩
      split <;> rfl

end Questions

/-! ### All tables -/

section Tables

variable {db db' : DataStore δ χ}

theorem mem_stageReferences {id : TaskId} : id ∈ stageReferences db ↔
    (∃ question ∈ db.questions, question.taskId = id) ∨
    (∃ snapshot ∈ db.snapshots, snapshot.taskId = id) ∨
    (∃ artifact ∈ db.stages.artifacts, artifact.taskId = id) ∨
    ∃ attempt ∈ db.stages.attempts, attempt.taskId = id := by
  simp only [stageReferences, List.mem_append, List.mem_map, or_assoc]

theorem mem_references {id : TaskId} : id ∈ references db ↔
    (∃ comment ∈ db.comments, comment.taskId = id) ∨ id ∈ stageReferences db ∨
      id ∈ roadmapReferences db.roadmap := by
  simp only [references, List.mem_append, List.mem_map, or_assoc]

theorem NoDangling.step (inv : NoDangling db)
    (tasks : ∀ id ∈ existingTaskIds db, id ∈ existingTaskIds db')
    (named : ∀ id ∈ references db', id ∈ references db ∨ id ∈ existingTaskIds db') :
    NoDangling db' := by
  intro id names
  rcases named id names with before | known
  · exact tasks id (inv id before)
  · exact known

/-- A step of the roadmap tables. -/
theorem NoDangling.grows (inv : NoDangling db) (grows : Grows db.roadmap db'.roadmap)
    (comments : db'.comments = db.comments)
    (stages : ∀ id ∈ stageReferences db', id ∈ stageReferences db ∨ id ∈ existingTaskIds db') :
    NoDangling db' := by
  refine inv.step grows.tasks fun id names => ?_
  rw [mem_references] at names ⊢
  rcases names with comment | stage | roadmap
  · rw [comments] at comment
    exact .inl (.inl comment)
  · rcases stages id stage with before | known
    · exact .inl (.inr (.inl before))
    · exact .inr known
  · rcases grows.references id roadmap with before | known
    · exact .inl (.inr (.inr before))
    · exact .inr known

/-- A recording finds its task, and names no other. -/
theorem recorded_owners {taskIds : List TaskId} {input : RecordTaskStageArtifactAttemptInput}
    {draw : Draw} {tables tables' : Tables}
    (ok : recordTaskStageArtifactAttempt taskIds input draw tables = .ok tables') :
    input.taskId ∈ taskIds ∧
      (∀ row ∈ tables'.artifacts, row.taskId = input.taskId ∨
        ∃ before ∈ tables.artifacts, before.taskId = row.taskId) ∧
      ∀ row ∈ tables'.attempts, row.taskId = input.taskId ∨
        ∃ before ∈ tables.attempts, before.taskId = row.taskId := by
  have appended {row : TaskStageArtifactAttemptRow} {artifactId : String} {number : Nat}
      (inside : row ∈ tables.attempts ++ [attemptRow input draw artifactId number]) :
      row.taskId = input.taskId ∨ ∃ before ∈ tables.attempts, before.taskId = row.taskId := by
    rcases List.mem_append.mp inside with old | new
    · exact .inr ⟨row, old, rfl⟩
    · rw [List.mem_singleton.mp new]
      exact .inl rfl
  unfold recordTaskStageArtifactAttempt at ok
  split at ok
  · cases ok
  next known =>
    refine ⟨not_not.mp known, ?_⟩
    split at ok <;> cases ok
    · refine ⟨fun row inside => .inr ?_, fun row inside => appended inside⟩
      obtain ⟨before, insideBefore, rfl⟩ := List.mem_map.mp inside
      refine ⟨before, insideBefore, ?_⟩
      split <;> rfl
    · refine ⟨fun row inside => ?_, fun row inside => appended inside⟩
      rcases List.mem_append.mp inside with old | new
      · exact .inr ⟨row, old, rfl⟩
      · rw [List.mem_singleton.mp new]
        exact .inl rfl

theorem approve_called {τ : Type} {projectId proposalId nowIso : String}
    {approvedBy : Option String}
    {createTasks : TaskSplitProposal χ → τ → Except String (τ × CreatedTasks)}
    {rows rows' : List (TaskSplitProposal χ)} {tasks tasks' : τ} {approved : TaskSplitProposal χ}
    (ok : approveTaskSplitProposal projectId proposalId approvedBy createTasks nowIso rows tasks =
      .ok (rows', tasks', approved)) :
    ∃ existing created, createTasks existing tasks = .ok (tasks', created) := by
  unfold approveTaskSplitProposal at ok
  split at ok
  · cases ok
  next existing found =>
    split at ok
    · cases ok
    · cases ok
    split at ok
    · cases ok
    next written created called =>
      split at ok
      · cases ok
      dsimp only at ok
      split at ok <;> cases ok
      exact ⟨existing, created, called⟩

end Tables

/-! ### Runs -/

section Steps

variable [ValidationDetails δ] {db db' : DataStore δ χ} {now : Nat}

/-- What every call keeps. -/
structure Kept (db : DataStore δ χ) : Prop where
  whole : Whole db
  ledgered : Ledgered db.roadmap

/-- The row of a call replaces the row that it found. -/
theorem grows_writeQuestions {taskId : TaskId} {task : TaskRow} {after : QuestionStore}
    (found : findTaskById db.roadmap.tasks taskId = some task)
    (kept : QuestionsKept (questionStore db task) after) :
    Grows db.roadmap (writeQuestions db taskId after now).roadmap := by
  obtain ⟨inside, rfl⟩ := findTaskById_some found
  have sameId : after.task.row.id = task.id := kept.id
  suffices written : Grows db.roadmap { db.roadmap with
      tasks := updateWhereId db.roadmap.tasks task.id fun _ => after.task.row } from
    written.trans (sameReferences_refreshAncestors _ task.id now).grows
  constructor
  · intro id known
    obtain ⟨row, insideRow, rfl⟩ := List.mem_map.mp known
    refine List.mem_map.mpr ⟨_, List.mem_map.mpr ⟨row, insideRow, rfl⟩, ?_⟩
    split
    next same => rw [sameId, same]
    · rfl
  · intro id names
    left
    rw [mem_roadmapReferences] at names ⊢
    rcases names with artifact | attempt | batch | ⟨written, image, under⟩
    · exact .inl artifact
    · exact .inr (.inl attempt)
    · exact .inr (.inr (.inl batch))
    · obtain ⟨row, insideRow, rfl⟩ := List.mem_map.mp image
      split at under
      · exact .inr (.inr (.inr ⟨task, inside, kept.parent.symm.trans under⟩))
      · exact .inr (.inr (.inr ⟨row, insideRow, under⟩))

theorem kept_questions {taskId : TaskId} {call : QuestionCall} (kept : Kept db)
    (ok : onQuestions db taskId (callQuestions · now call) now = .ok db') : Kept db' := by
  unfold onQuestions at ok
  split at ok
  · cases ok
  next task found =>
    split at ok
    · cases ok
    next after called =>
      cases ok
      split
      · exact kept
      have asked := questionsKept_call called
      have grows : Grows db.roadmap (writeQuestions db taskId after now).roadmap :=
        grows_writeQuestions found asked
      obtain ⟨inside, rfl⟩ := findTaskById_some found
      have known : task.id ∈ existingTaskIds (writeQuestions db task.id after now) :=
        grows.tasks task.id (List.mem_map.mpr ⟨task, inside, rfl⟩)
      refine ⟨⟨kept.whole.noDangling.grows grows rfl fun id names => ?_, ?_⟩,
        kept.ledgered.congr rfl rfl⟩
      · rw [mem_stageReferences] at names ⊢
        rcases names with ⟨question, insideQ, rfl⟩ | others
        · rcases asked.owners question insideQ with owner | ⟨before, insideB, same⟩
          · exact .inr (owner ▸ known)
          · exact .inl (.inl ⟨before, insideB, same⟩)
        · exact .inl (.inr others)
      · exact summarizedBut_nil.mp
          ((summarizedBut_nil.mpr kept.whole.summarized).congr rfl rfl rfl)

theorem kept_createSnapshot {taskId : TaskId} {texts : TaskTexts} {options : SnapshotOptions}
    {snapshotId : String} {draw : Draw} (kept : Kept db)
    (ok : createCurrentRequirementsSnapshot db taskId texts options snapshotId draw now = .ok db') :
    Kept db' := by
  unfold createCurrentRequirementsSnapshot at ok
  split at ok
  · cases ok
  obtain ⟨stages, recorded, rfl⟩ := map_eq_ok ok
  obtain ⟨known, artifacts, attempts⟩ := recorded_owners recorded
  have links : KeepsLinks db.roadmap.tasks
      (updateWhereId db.roadmap.tasks taskId ({ · with updatedAt := now })) :=
    keepsLinks_updateWhereId (fun _ => rfl) fun _ => rfl
  have known' : taskId ∈ (updateWhereId db.roadmap.tasks taskId ({ · with updatedAt := now })).map
      (·.id) := by
    rw [links.ids]
    exact known
  refine ⟨⟨kept.whole.noDangling.grows (SameReferences.grows ⟨links, rfl, rfl, rfl⟩) rfl
    fun id names => ?_, ?_⟩, kept.ledgered.congr rfl rfl⟩
  · rw [mem_stageReferences] at names ⊢
    rcases names with question | ⟨snapshot, inside, rfl⟩ | ⟨artifact, inside, rfl⟩ |
      ⟨attempt, inside, rfl⟩
    · exact .inl (.inl question)
    · rcases List.mem_append.mp inside with old | new
      · exact .inl (.inr (.inl ⟨snapshot, old, rfl⟩))
      · rw [List.mem_singleton.mp new]
        exact .inr known'
    · rcases artifacts artifact inside with owner | before
      · exact .inr (owner ▸ known')
      · exact .inl (.inr (.inr (.inl before)))
    · rcases attempts attempt inside with owner | before
      · exact .inr (owner ▸ known')
      · exact .inl (.inr (.inr (.inr before)))
  · exact summarizedBut_nil.mp ((summarizedBut_nil.mpr kept.whole.summarized).congr rfl rfl rfl)

theorem kept_recordStageArtifact {input : RecordTaskStageArtifactAttemptInput} {draw : Draw}
    {stages : Tables} (kept : Kept db)
    (ok : recordTaskStageArtifactAttempt (existingTaskIds db) input draw db.stages = .ok stages) :
    Kept { db with stages } := by
  obtain ⟨known, artifacts, attempts⟩ := recorded_owners ok
  refine ⟨⟨kept.whole.noDangling.grows (.refl db.roadmap) rfl fun id names => ?_,
    kept.whole.summarized⟩, kept.ledgered⟩
  rw [mem_stageReferences] at names ⊢
  rcases names with question | snapshot | ⟨artifact, inside, rfl⟩ | ⟨attempt, inside, rfl⟩
  · exact .inl (.inl question)
  · exact .inl (.inr (.inl snapshot))
  · rcases artifacts artifact inside with owner | before
    · exact .inr (owner ▸ known)
    · exact .inl (.inr (.inr (.inl before)))
  · rcases attempts attempt inside with owner | before
    · exact .inr (owner ▸ known)
    · exact .inl (.inr (.inr (.inr before)))

theorem kept_deleteTask {id : TaskId} {allowAttachedChild : Bool} (kept : Kept db)
    (bare : id ∉ stageReferences db)
    (ok : callData db (.deleteTask id allowAttachedChild now) = .ok db') : Kept db' := by
  obtain ⟨roadmap, done, rfl⟩ := map_eq_ok ok
  have summarized := summarized_deleteTask kept.ledgered kept.whole.summarized done
  rcases deleteTask_cases done with ⟨missing, rfl⟩ | ⟨found, left_, names, ledgered⟩
  · rw [missing]
    exact kept
  · rw [if_pos found]
    refine ⟨⟨fun other named => (left_ other).mpr ?_, summarized⟩, ledgered kept.ledgered⟩
    rw [mem_references] at named
    rcases named with ⟨comment, inside, rfl⟩ | stage | roadmapNames
    · obtain ⟨inside, stays⟩ := List.mem_filter.mp inside
      exact ⟨kept.whole.noDangling _ (mem_references.mpr (.inl ⟨comment, inside, rfl⟩)),
        of_decide_eq_true stays⟩
    · refine ⟨kept.whole.noDangling other (mem_references.mpr (.inr (.inl stage))), ?_⟩
      rintro rfl
      exact bare stage
    · obtain ⟨before, stays⟩ := names other roadmapNames
      exact ⟨kept.whole.noDangling other (mem_references.mpr (.inr (.inr before))), stays⟩

theorem Kept.roadmap {roadmap : RoadmapStore δ} (kept : Kept db) (grows : Grows db.roadmap roadmap)
    (ledgered : Ledgered roadmap) (right : Summarized roadmap) : Kept { db with roadmap } :=
  ⟨⟨kept.whole.noDangling.grows grows rfl fun _ names => .inl names, right⟩, ledgered⟩

theorem Kept.comments {comments : List TaskComment} (kept : Kept db)
    (owners : ∀ comment ∈ comments, comment.taskId ∈ existingTaskIds db) :
    Kept { db with comments } := by
  refine ⟨⟨fun id named => ?_, kept.whole.summarized⟩, kept.ledgered⟩
  rw [mem_references] at named
  rcases named with ⟨comment, inside, rfl⟩ | others
  · exact owners comment inside
  · exact kept.whole.noDangling id (mem_references.mpr (.inr others))

theorem Kept.owner (kept : Kept db) {comment : TaskComment} (inside : comment ∈ db.comments) :
    comment.taskId ∈ existingTaskIds db :=
  kept.whole.noDangling _ (mem_references.mpr (.inl ⟨comment, inside, rfl⟩))

theorem kept_step {op : DataOp δ χ} (kept : Kept db) (leaves : LeavesNothing db op)
    (step : dataSystem.step db op db') : Kept db' := by
  obtain ⟨fresh, ok⟩ := step
  cases op with
  | create creation =>
    obtain ⟨roadmap, created, rfl⟩ := map_eq_ok ok
    obtain ⟨grows, ledgered, right⟩ :=
      create_ok kept.ledgered kept.whole.summarized fresh leaves created
    exact kept.roadmap grows ledgered right
  | updateArtifact input now randomUUID =>
    obtain ⟨roadmap, updated, rfl⟩ := map_eq_ok ok
    exact kept.roadmap (grows_updateArtifact updated)
      (ledgered_updateArtifact kept.ledgered updated)
      (summarized_updateArtifact kept.ledgered kept.whole.summarized updated)
  | deleteTask id allowAttachedChild now => exact kept_deleteTask kept leaves ok
  | createComment input id now =>
    cases ok
    refine kept.comments fun comment inside => ?_
    rcases List.mem_append.mp inside with old | new
    · exact kept.owner old
    · rw [List.mem_singleton.mp new]
      exact leaves
  | updateComment commentId attachments =>
    cases ok
    refine kept.comments fun comment inside => ?_
    obtain ⟨before, insideBefore, rfl⟩ := List.mem_map.mp inside
    have owner := kept.owner insideBefore
    split
    · exact owner
    · exact owner
  | deleteComment commentId =>
    cases ok
    exact kept.comments fun comment inside => kept.owner (List.mem_filter.mp inside).1
  | questions taskId call now => exact kept_questions kept ok
  | createSnapshot taskId texts options snapshotId draw now => exact kept_createSnapshot kept ok
  | recordStageArtifact input draw =>
    obtain ⟨stages, recorded, rfl⟩ := map_eq_ok ok
    exact kept_recordStageArtifact kept recorded
  | createProposal input id nowIso =>
    change createOrReusePendingTaskSplitProposal db input id nowIso = .ok db' at ok
    unfold createOrReusePendingTaskSplitProposal at ok
    split at ok
    · cases ok
      exact kept
    split at ok <;> cases ok
    exact ⟨⟨kept.whole.noDangling, kept.whole.summarized⟩, kept.ledgered⟩
  | rejectProposal projectId proposalId reason nowIso =>
    cases ok
    unfold rejectTaskSplitProposal
    split
    · exact ⟨⟨kept.whole.noDangling, kept.whole.summarized⟩, kept.ledgered⟩
    · exact kept
  | approveProposal projectId proposalId approvedBy creations created nowIso =>
    cases ok
    unfold approveProposal
    split
    · exact kept
    next proposals roadmap approved approval =>
      obtain ⟨existing, returned, called⟩ := approve_called approval
      obtain ⟨_, done, same⟩ := map_eq_ok called
      obtain rfl := (Prod.mk.inj same).1
      obtain ⟨grows, ledgered, right⟩ :=
        createAll_ok kept.ledgered kept.whole.summarized fresh leaves done
      have roadmapKept := kept.roadmap grows ledgered right
      exact ⟨⟨roadmapKept.whole.noDangling, right⟩, ledgered⟩

/-- In every run that deletes no task with questions, snapshots or stage artifacts, and
attaches rows to existing tasks only, no row names a task that does not exist and every batch
has the columns of its summary. -/
theorem whole_of_reaches (reached : Reaches dataSystem LeavesNothing db) : Whole db := by
  suffices kept : Kept db from kept.whole
  refine reached.invariant ?_ fun _ _ _ kept leaves step => kept_step kept leaves step
  rintro _ rfl
  refine ⟨⟨?_, ?_⟩, List.nodup_nil, ?_, ?_⟩
  · intro id named
    cases named
  · intro batch inside
    cases inside
  · intro artifact inside
    cases inside
  · intro attempt inside
    cases inside

end Steps

/-! ### Two runs -/

section Runs

def newTask : DataOp NoDetails Unit := .create (.task 3 "task" { projectId := "project" } 0)

def comment : DataOp NoDetails Unit :=
  .createComment { taskId := "task", author := .human, message := "Why?" } "comment" 1

def question : DataOp NoDetails Unit :=
  .questions "task" (.create { stage := .planning, questions := [{
      question := "Which database?", whyNeeded := "The schema depends on it." }] }
    fun index => if index = 0 then "batch" else "question") 1

def deletion : DataOp NoDetails Unit := .deleteTask "task" false 2

def runData (db : DataStore NoDetails Unit) (op : DataOp NoDetails Unit) :
    DataStore NoDetails Unit :=
  (callData db op).toOption.getD db

theorem step_runData {db : DataStore NoDetails Unit} {op : DataOp NoDetails Unit}
    (fresh : DrawsNew db op) (succeeds : (callData db op).toOption.isSome = true) :
    dataSystem.step db op (runData db op) := by
  refine ⟨fresh, ?_⟩
  unfold runData
  cases result : callData db op with
  | error => simp [result, Except.toOption] at succeeds
  | ok => rfl

/-- A task with a comment is deleted. -/
theorem whole_of_commented_task :
    ∃ db : DataStore NoDetails Unit, Reaches dataSystem LeavesNothing db ∧ Whole db ∧
      db.comments = [] ∧ existingTaskIds db = [] := by
  let created : DataStore NoDetails Unit := runData {} newTask
  let commented := runData created comment
  have fresh : ("task" : String) ≠ "" := by decide
  have exists_ : "task" ∈ existingTaskIds created := by decide
  have bare : "task" ∉ stageReferences commented := by decide
  have first : Reaches dataSystem LeavesNothing created :=
    .step (.init rfl) (i := newTask) trivial (step_runData fresh (by decide))
  have second : Reaches dataSystem LeavesNothing commented :=
    .step first (i := comment) exists_ (step_runData trivial (by decide))
  have third : Reaches dataSystem LeavesNothing (runData commented deletion) :=
    .step second (i := deletion) bare (step_runData trivial (by decide))
  exact ⟨_, third, whole_of_reaches third, by decide, by decide⟩

/-- A question outlives its task. -/
theorem question_of_deleted_task : ¬ ∀ db db' : DataStore NoDetails Unit, Reachable dataSystem db →
    ∀ id allowAttachedChild now,
      dataSystem.step db (.deleteTask id allowAttachedChild now) db' → Whole db' := by
  intro whole
  let created : DataStore NoDetails Unit := runData {} newTask
  let asked := runData created question
  have fresh : ("task" : String) ≠ "" := by decide
  have first : Reachable dataSystem created :=
    .step (.init rfl) (i := newTask) trivial (step_runData fresh (by decide))
  have second : Reachable dataSystem asked :=
    .step first (i := question) trivial (step_runData trivial (by decide))
  have deleted := whole asked (runData asked deletion) second "task" false 2
    (step_runData trivial (by decide))
  exact absurd (deleted.noDangling "task" (by decide)) (by decide)

end Runs

end AifHandoff.Data
