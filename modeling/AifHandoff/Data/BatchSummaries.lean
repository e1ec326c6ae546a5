import AifHandoff.Data.RollupRuns

/-!
The summary columns of the roadmap batches.

An operation changes the artifacts or the attempts of some batches and refreshes them. The
refresh writes what a summary of the batch says then, and no other batch changes.
-/

namespace AifHandoff.Data

variable {δ : Type} [ValidationDetails δ]

/-- What is stored of a summary. -/
structure SummaryColumns where
  valid : Nat
  invalid : Nat
  missing : Nat
  externalBlocked : Nat
  synthesisReady : Bool
deriving DecidableEq, Repr

def storedSummary (batch : RoadmapBatchRow) : SummaryColumns where
  valid := batch.validArtifactCount
  invalid := batch.invalidArtifactCount
  missing := batch.missingArtifactCount
  externalBlocked := batch.externalBlockedArtifactCount
  synthesisReady := batch.synthesisReady

def summaryColumns (summary : RoadmapBatchSummary) : SummaryColumns where
  valid := summary.counts.valid
  invalid := summary.counts.invalid
  missing := summary.counts.missing
  externalBlocked := summary.counts.externalBlocked
  synthesisReady := summary.synthesisReady

/-- What a summary of the batch says now. -/
def currentSummary (db : RoadmapStore δ) (batch : RoadmapBatchRow) : SummaryColumns :=
  summaryColumns (summarizeRoadmapArtifacts db batch (listRoadmapBatchArtifacts db batch.id))

/-- The columns are right, but for some batches. -/
def SummarizedBut (db : RoadmapStore δ) (stale : List String) : Prop :=
  ∀ batch ∈ db.batches, batch.id ∉ stale → storedSummary batch = currentSummary db batch

/-- Every batch has the columns of its summary. -/
def Summarized (db : RoadmapStore δ) : Prop :=
  ∀ batch ∈ db.batches, storedSummary batch = currentSummary db batch

section Refresh

variable {db db' : RoadmapStore δ}

theorem summarizedBut_nil : SummarizedBut db [] ↔ Summarized db := by
  simp [SummarizedBut, Summarized]

/-- A summary reads the artifacts of the batch and the newest attempt at each. -/
theorem currentSummary_congr {batch : RoadmapBatchRow}
    (artifacts : listRoadmapBatchArtifacts db' batch.id = listRoadmapBatchArtifacts db batch.id)
    (latest : ∀ artifact ∈ listRoadmapBatchArtifacts db batch.id,
      latestAttempt db' artifact.id = latestAttempt db artifact.id) :
    currentSummary db' batch = currentSummary db batch := by
  have ready := roadmapSynthesisReady_congr latest
  unfold currentSummary
  rw [artifacts]
  unfold summaryColumns summarizeRoadmapArtifacts
  rw [ready]

/-- The tasks are not read. -/
theorem SummarizedBut.congr {stale : List String} (right : SummarizedBut db stale)
    (batches : db'.batches = db.batches) (artifacts : db'.artifacts = db.artifacts)
    (attempts : db'.attempts = db.attempts) : SummarizedBut db' stale := by
  intro batch inside fresh
  rw [batches] at inside
  rw [currentSummary_congr (listRoadmapBatchArtifacts_congr artifacts batch.id)
    fun artifact _ => latestAttempt_congr attempts artifact.id]
  exact right batch inside fresh

theorem summarizedBut_refreshRoadmapBatchSummary {batchId : String} {stale : List String}
    {now : Nat} (right : SummarizedBut db (batchId :: stale)) :
    SummarizedBut (refreshRoadmapBatchSummary db batchId now).1 stale := by
  intro batch inside fresh
  rw [currentSummary_congr
    (listRoadmapBatchArtifacts_congr (refreshRoadmapBatchSummary_artifacts db batchId now) batch.id)
    fun artifact _ =>
      latestAttempt_congr (refreshRoadmapBatchSummary_attempts db batchId now) artifact.id]
  rw [refreshRoadmapBatchSummary_batches] at inside
  obtain ⟨row, insideRow, rfl⟩ := List.mem_map.mp inside
  by_cases same : row.id = batchId
  · subst same
    rw [if_pos rfl]
    rfl
  · rw [if_neg same] at fresh ⊢
    refine right row insideRow fun listed => ?_
    rcases List.mem_cons.mp listed with is | listed
    · exact same is
    · exact fresh listed

/-- The rollups of a refreshed batch leave the roadmap tables. -/
theorem summarizedBut_refreshRoadmapBatch {batchId : String} {stale : List String} {now : Nat}
    (right : SummarizedBut db (batchId :: stale)) :
    SummarizedBut (refreshRoadmapBatch db batchId now) stale := by
  have refreshed : SummarizedBut (refreshRoadmapBatchSummary db batchId now).1 stale :=
    summarizedBut_refreshRoadmapBatchSummary right
  rw [refreshRoadmapBatch]
  split
  · exact refreshed
  · exact refreshed.congr rfl rfl rfl

theorem summarized_refreshRoadmapBatches {batchIds : List String} {now : Nat}
    (right : SummarizedBut db batchIds) :
    Summarized (batchIds.foldl (refreshRoadmapBatch · · now) db) := by
  induction batchIds generalizing db with
  | nil => exact summarizedBut_nil.mp right
  | cons batchId batchIds ih => exact ih (summarizedBut_refreshRoadmapBatch right)

end Refresh

section Operations

variable {db db' : RoadmapStore δ} {now : Nat}

theorem summarizedBut_recordAttempt (ledgered : Ledgered db) (right : Summarized db)
    {artifact : RoadmapBatchArtifactRow δ} (inside : artifact ∈ db.artifacts)
    (input : RoadmapArtifactStateInput δ) (randomUUID : String) :
    SummarizedBut (recordAttempt db artifact input now randomUUID) [artifact.batchId] := by
  intro batch insideBatch fresh
  have other : batch.id ≠ artifact.batchId := fun same => fresh (List.mem_singleton.mpr same)
  rw [currentSummary_congr
    (listRoadmapBatchArtifacts_recordAttempt_of_ne ledgered.artifactIds inside other)
    fun row listed => latestAttempt_recordAttempt_of_ne ?_]
  · exact right batch insideBatch
  · intro same
    obtain ⟨inside', ofBatch⟩ := mem_listRoadmapBatchArtifacts.mp listed
    have sameRow := List.inj_on_of_nodup_map ledgered.artifactIds inside' inside same
    rw [sameRow] at ofBatch
    exact other ofBatch.symm

theorem summarized_updateArtifact {input : RoadmapArtifactStateInput δ} {randomUUID : String}
    (ledgered : Ledgered db) (right : Summarized db)
    (ok : updateArtifact db input now randomUUID = .ok db') : Summarized db' := by
  unfold updateArtifact at ok
  split at ok
  · cases ok
  split at ok
  · cases ok
    exact right
  next artifact found =>
    cases ok
    have inside := (findRoadmapBatchArtifactByTaskId_some found).1
    exact summarizedBut_nil.mp (summarizedBut_refreshRoadmapBatch
      (summarizedBut_recordAttempt ledgered right inside input randomUUID))

theorem summarizedBut_insertRoadmapBatch (right : Summarized db)
    (input : CreateRoadmapBatchContractInput) (randomUUID : Nat → String) :
    SummarizedBut (insertRoadmapBatch db input now randomUUID) [randomUUID 0] := by
  intro batch inside fresh
  have other : batch.id ≠ randomUUID 0 := fun same => fresh (List.mem_singleton.mpr same)
  rcases List.mem_append.mp inside with old | new
  · rw [currentSummary_congr (listRoadmapBatchArtifacts_insertRoadmapBatch_of_ne db input other)
      fun _ _ => latestAttempt_congr rfl _]
    exact right batch old
  · rw [List.mem_singleton.mp new] at other
    exact absurd rfl other

theorem summarized_createBatch {input : CreateRoadmapBatchContractInput}
    {randomUUID : Nat → String} (right : Summarized db)
    (ok : createBatch db input now randomUUID = .ok db') : Summarized db' := by
  have refreshed : SummarizedBut (refreshRoadmapBatch
      (insertRoadmapBatch db input now randomUUID) (randomUUID 0) now) [] :=
    summarizedBut_refreshRoadmapBatch (summarizedBut_insertRoadmapBatch right input randomUUID)
  unfold createBatch at ok
  split at ok
  · cases ok
  dsimp only at ok
  split at ok <;> cases ok
  · exact summarizedBut_nil.mp refreshed
  · exact summarizedBut_nil.mp (refreshed.congr rfl rfl rfl)

/-- A batch that is neither dropped nor refreshed had nothing of the deleted task. -/
theorem summarizedBut_removeTask {id : TaskId} (ledgered : Ledgered db) (right : Summarized db) :
    SummarizedBut (removeTask db id now) (batchesToRefresh db id) := by
  intro batch' inside fresh
  obtain ⟨batch, kept, rfl⟩ := List.mem_map.mp inside
  obtain ⟨insideBatch, stays⟩ := List.mem_filter.mp kept
  have sameId : (forgetTask db id now batch).id = batch.id := by
    unfold forgetTask
    split <;> rfl
  rw [sameId] at fresh
  have unlinked : batch.id ∉ linkedBatchIds db id := fun linked => fresh
    (List.mem_filter.mpr ⟨linked, List.any_eq_true.mpr ⟨batch, insideBatch, by simpa using stays⟩⟩)
  have others : ∀ artifact ∈ db.artifacts, artifact.batchId = batch.id → artifact.taskId ≠ id := by
    intro artifact insideArtifact ofBatch ofTask
    refine unlinked (List.mem_eraseDups.mpr (List.mem_append_left _ (List.mem_map.mpr
      ⟨artifact, List.mem_filter.mpr ⟨insideArtifact, beq_iff_eq.mpr ofTask⟩, ofBatch⟩)))
  have same : forgetTask db id now batch = batch :=
    if_neg fun linked => unlinked (List.contains_iff_mem.mp linked)
  rw [same, @currentSummary_congr _ _ db _ batch ?_ ?_]
  · exact right batch insideBatch
  · rw [listRoadmapBatchArtifacts, listRoadmapBatchArtifacts, removeTask, List.filter_filter]
    refine congrArg _ (List.filter_congr fun artifact insideArtifact => ?_)
    rw [Bool.and_eq_left_iff_imp, beq_iff_eq, decide_eq_true_eq]
    exact others artifact insideArtifact
  · intro artifact listed
    obtain ⟨insideArtifact, ofBatch⟩ := mem_listRoadmapBatchArtifacts.mp listed
    rw [latestAttempt_eq, latestAttempt_eq, Ledger.newest, Ledger.newest, Ledger.entriesOf,
      Ledger.entriesOf, attempts_removeTask ledgered insideArtifact
        (others artifact insideArtifact ofBatch)]

theorem summarized_deleteTask {id : TaskId} {allowAttachedChild : Bool} (ledgered : Ledgered db)
    (right : Summarized db) (ok : deleteTask db id allowAttachedChild now = .ok db') :
    Summarized db' := by
  unfold deleteTask at ok
  split at ok
  · cases ok
    exact right
  split at ok
  · cases ok
  split at ok
  · cases ok
  cases ok
  have refreshed : Summarized ((batchesToRefresh db id).foldl (refreshRoadmapBatch · · now)
      (removeTask db id now)) :=
    summarized_refreshRoadmapBatches (summarizedBut_removeTask ledgered right)
  exact summarizedBut_nil.mp ((summarizedBut_nil.mpr refreshed).congr rfl rfl rfl)

end Operations

end AifHandoff.Data
