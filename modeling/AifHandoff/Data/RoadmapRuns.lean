import AifHandoff.Data.RoadmapArtifacts
import AifHandoff.Lib.Transition

/-!
Runs of the roadmap tables.

An operation creates a batch or updates an artifact; one that throws changes nothing.
-/

namespace AifHandoff.Data

open Transition

variable {δ : Type} [ValidationDetails δ]

inductive RoadmapOp (δ : Type) where
  | createBatch (input : CreateRoadmapBatchContractInput) (now : Nat) (randomUUID : Nat → String)
  | updateArtifact (input : RoadmapArtifactStateInput δ) (now : Nat) (randomUUID : String)

/-- The contract of a batch with one report. -/
def reportContract : RoadmapOp NoDetails :=
  .createBatch
    { projectId := "project"
      roadmapAlias := "audit"
      taskIntent := .audit
      executionPolicy := "serialized_shared_checkout"
      createdTaskIds := ["report"]
      artifacts := [{ taskId := "report", role := .report, artifactPath := "docs/report.md" }] }
    0 fun index => if index = 0 then "batch" else "artifact"

def execRoadmap (db : RoadmapStore δ) : RoadmapOp δ → RoadmapStore δ
  | .createBatch input now randomUUID =>
    match createRoadmapBatchContract db input now randomUUID with
    | .ok (after, _) => after
    | .error _ => db
  | .updateArtifact input now randomUUID =>
    match updateRoadmapBatchArtifactState db input now randomUUID with
    | .ok (after, _) => after
    | .error _ => db

/-- Every id the tables hold. -/
def storedIds (db : RoadmapStore δ) : List String :=
  db.batches.map (·.id) ++ db.artifacts.map (·.id) ++
    db.artifacts.filterMap (·.attemptBoundaryId) ++ db.attempts.filterMap (·.attemptBoundaryId)

/-- The ids an operation draws are new, and distinct. -/
def FreshIds (db : RoadmapStore δ) : RoadmapOp δ → Prop
  | .createBatch input _ randomUUID =>
    (∀ i ≤ input.artifacts.length, randomUUID i ∉ storedIds db) ∧
      ∀ i ≤ input.artifacts.length, ∀ j ≤ input.artifacts.length,
        randomUUID i = randomUUID j → i = j
  | .updateArtifact _ _ randomUUID => randomUUID ∉ storedIds db

instance (db : RoadmapStore δ) : (op : RoadmapOp δ) → Decidable (FreshIds db op)
  | .createBatch input _ randomUUID =>
    inferInstanceAs (Decidable ((∀ i ≤ input.artifacts.length, randomUUID i ∉ storedIds db) ∧ _))
  | .updateArtifact _ _ randomUUID => inferInstanceAs (Decidable (randomUUID ∉ storedIds db))

/-- What holds of the tables between operations. -/
structure RoadmapStore.Consistent (db : RoadmapStore δ) : Prop where
  artifactIds : (db.artifacts.map (·.id)).Nodup
  batchIds : (db.batches.map (·.id)).Nodup
  /-- No artifact row is ahead of its attempts. -/
  numbered : ∀ artifact ∈ db.artifacts, artifact.attemptNumber ≤ maxAttemptNumber db artifact.id
  batched : ∀ artifact ∈ db.artifacts, artifact.batchId ∈ db.batches.map (·.id)
  /-- The stored flag is what a summary would say now. -/
  flagged : ∀ batch ∈ db.batches,
    batch.synthesisReady = roadmapSynthesisReady db (listRoadmapBatchArtifacts db batch.id)

section Congruence

variable {db db' : RoadmapStore δ}

omit [ValidationDetails δ] in
theorem latestAttempt_congr (attempts : db'.attempts = db.attempts) (artifactId : String) :
    latestAttempt db' artifactId = latestAttempt db artifactId := by
  rw [latestAttempt_eq, latestAttempt_eq, attempts]

omit [ValidationDetails δ] in
theorem listRoadmapBatchArtifacts_congr (artifacts : db'.artifacts = db.artifacts)
    (batchId : String) :
    listRoadmapBatchArtifacts db' batchId = listRoadmapBatchArtifacts db batchId := by
  rw [listRoadmapBatchArtifacts, listRoadmapBatchArtifacts, artifacts]

/-- Readiness reads the artifact row and the newest attempt. -/
theorem roadmapSourceArtifactReadyForSynthesis_congr {artifact : RoadmapBatchArtifactRow δ}
    (latest : latestAttempt db' artifact.id = latestAttempt db artifact.id) :
    roadmapSourceArtifactReadyForSynthesis db' artifact =
      roadmapSourceArtifactReadyForSynthesis db artifact := by
  simp only [roadmapSourceArtifactReadyForSynthesis, roadmapSourceArtifactTerminalForSynthesis,
    latest]

theorem roadmapReportArtifactReleaseReady_congr {artifact : RoadmapBatchArtifactRow δ}
    (latest : latestAttempt db' artifact.id = latestAttempt db artifact.id) :
    roadmapReportArtifactReleaseReady db' artifact =
      roadmapReportArtifactReleaseReady db artifact := by
  simp only [roadmapReportArtifactReleaseReady, latestCurrentRoadmapArtifactAttempt, latest]

theorem roadmapSynthesisReady_congr {artifacts : List (RoadmapBatchArtifactRow δ)}
    (latest : ∀ artifact ∈ artifacts,
      latestAttempt db' artifact.id = latestAttempt db artifact.id) :
    roadmapSynthesisReady db' artifacts = roadmapSynthesisReady db artifacts := by
  rw [Bool.eq_iff_iff, roadmapSynthesisReady_iff, roadmapSynthesisReady_iff]
  refine and_congr_right fun _ => forall₂_congr fun artifact inside => ?_
  rw [roadmapSourceArtifactReadyForSynthesis_congr (latest artifact inside)]

end Congruence

section Record

variable {db : RoadmapStore δ} {artifact : RoadmapBatchArtifactRow δ}
  {input : RoadmapArtifactStateInput δ} {now : Nat} {randomUUID : String}

theorem recordAttempt_attempts :
    (recordAttempt db artifact input now randomUUID).attempts =
      db.attempts ++ [recordedAttempt db artifact input now randomUUID] := rfl

/-- The attempt of an update is the newest of its artifact. -/
theorem latestAttempt_recordAttempt_self :
    latestAttempt (recordAttempt db artifact input now randomUUID) artifact.id =
      some (recordedAttempt db artifact input now randomUUID) := by
  rw [latestAttempt_eq, recordAttempt_attempts]
  exact Ledger.newest_concat_self rfl rfl

theorem latestAttempt_recordAttempt_of_ne {other : String} (ne : other ≠ artifact.id) :
    latestAttempt (recordAttempt db artifact input now randomUUID) other =
      latestAttempt db other := by
  rw [latestAttempt_eq, recordAttempt_attempts]
  exact Ledger.newest_concat_of_ne fun same => ne same.symm

theorem maxAttemptNumber_recordAttempt_self :
    maxAttemptNumber (recordAttempt db artifact input now randomUUID) artifact.id =
      maxAttemptNumber db artifact.id + 1 := by
  rw [maxAttemptNumber, recordAttempt_attempts]
  exact Ledger.largest_concat_self rfl rfl

theorem maxAttemptNumber_recordAttempt_of_ne {other : String} (ne : other ≠ artifact.id) :
    maxAttemptNumber (recordAttempt db artifact input now randomUUID) other =
      maxAttemptNumber db other := by
  rw [maxAttemptNumber, recordAttempt_attempts]
  exact Ledger.largest_concat_of_ne fun same => ne same.symm

theorem map_recordAttempt_artifacts {α : Type} (column : RoadmapBatchArtifactRow δ → α)
    (kept : ∀ row attempt, column (writeArtifact artifact input attempt now row) = column row) :
    (recordAttempt db artifact input now randomUUID).artifacts.map column =
      db.artifacts.map column := by
  simp only [recordAttempt]
  split
  · rfl
  · rw [List.map_map]
    apply List.map_congr_left
    intro row _
    dsimp only [Function.comp]
    split
    · exact kept row _
    · rfl

/-- A row after the update is an old one, or the one the update wrote. -/
theorem mem_recordAttempt_artifacts {row : RoadmapBatchArtifactRow δ}
    (inside : row ∈ (recordAttempt db artifact input now randomUUID).artifacts) :
    (row ∈ db.artifacts ∧ (row.id = artifact.id → staleBoundary artifact input = true)) ∨
      (staleBoundary artifact input = false ∧ ∃ old ∈ db.artifacts, old.id = artifact.id ∧
        row = writeArtifact artifact input (recordedAttempt db artifact input now randomUUID)
          now old) := by
  simp only [recordAttempt] at inside
  cases stale : staleBoundary artifact input with
  | true =>
    rw [stale, if_pos rfl] at inside
    exact .inl ⟨inside, fun _ => rfl⟩
  | false =>
    rw [stale, if_neg Bool.false_ne_true] at inside
    obtain ⟨old, insideOld, rfl⟩ := List.mem_map.mp inside
    by_cases same : old.id = artifact.id
    · rw [if_pos same]
      exact .inr ⟨rfl, old, insideOld, same, rfl⟩
    · rw [if_neg same]
      exact .inl ⟨insideOld, fun same' => absurd same' same⟩

omit [ValidationDetails δ] in
theorem findRoadmapBatchArtifactByTaskId_map {after : RoadmapStore δ}
    {write : RoadmapBatchArtifactRow δ → RoadmapBatchArtifactRow δ}
    (artifacts : after.artifacts = db.artifacts.map write)
    (kept : ∀ row, (write row).taskId = row.taskId ∧ (write row).createdAt = row.createdAt)
    (taskId : TaskId) : findRoadmapBatchArtifactByTaskId after taskId =
      (findRoadmapBatchArtifactByTaskId db taskId).map write := by
  have sameTask : ((fun row : RoadmapBatchArtifactRow δ => row.taskId == taskId) ∘ write) =
      (·.taskId == taskId) := by
    funext row
    simp [(kept row).1]
  unfold findRoadmapBatchArtifactByTaskId
  rw [artifacts, List.filter_map, sameTask, ← List.head?_map]
  congr 1
  symm
  apply List.map_insertionSort
  intro a _ b _
  rw [(kept a).2, (kept b).2]

/-- The artifact of a task after an update: the old row when the update was stale. -/
theorem findRoadmapBatchArtifactByTaskId_updateArtifact (now : Nat) (randomUUID : String)
    (found : findRoadmapBatchArtifactByTaskId db input.taskId = some artifact) :
    findRoadmapBatchArtifactByTaskId (refreshRoadmapBatchSummary
        (recordAttempt db artifact input now randomUUID) artifact.batchId now).1 input.taskId =
      some (if staleBoundary artifact input then artifact
        else writeArtifact artifact input (recordedAttempt db artifact input now randomUUID) now
          artifact) := by
  cases stale : staleBoundary artifact input with
  | true =>
    have kept : (refreshRoadmapBatchSummary (recordAttempt db artifact input now randomUUID)
        artifact.batchId now).1.artifacts = db.artifacts.map id := by
      simp [recordAttempt, stale]
    have same := findRoadmapBatchArtifactByTaskId_map kept (fun _ => ⟨rfl, rfl⟩) input.taskId
    rw [same, found]
    rfl
  | false =>
    have written : (refreshRoadmapBatchSummary (recordAttempt db artifact input now randomUUID)
        artifact.batchId now).1.artifacts = db.artifacts.map fun row =>
          if row.id = artifact.id then writeArtifact artifact input
            (recordedAttempt db artifact input now randomUUID) now row else row := by
      simp [recordAttempt, stale]
    rw [findRoadmapBatchArtifactByTaskId_map written (by intro row; split <;> exact ⟨rfl, rfl⟩),
      found, Option.map_some, if_pos rfl]
    rfl

/-- An update leaves the artifacts of the other batches. -/
theorem listRoadmapBatchArtifacts_recordAttempt_of_ne {batchId : String}
    (ids : (db.artifacts.map (·.id)).Nodup) (inside : artifact ∈ db.artifacts)
    (other : batchId ≠ artifact.batchId) :
    listRoadmapBatchArtifacts (recordAttempt db artifact input now randomUUID) batchId =
      listRoadmapBatchArtifacts db batchId := by
  rw [listRoadmapBatchArtifacts, listRoadmapBatchArtifacts]
  congr 1
  simp only [recordAttempt]
  split
  · rfl
  · rw [List.filter_map]
    have sameBatch : ((·.batchId == batchId) ∘ fun row : RoadmapBatchArtifactRow δ =>
        if row.id = artifact.id then writeArtifact artifact input
          (recordedAttempt db artifact input now randomUUID) now row else row) =
          (·.batchId == batchId) := by
      funext row
      dsimp only [Function.comp]
      split <;> rfl
    rw [sameBatch]
    refine (List.map_congr_left fun row listed => ?_).trans (List.map_id _)
    obtain ⟨inside', ofBatch⟩ := List.mem_filter.mp listed
    refine if_neg fun same => other ?_
    have sameRow := List.inj_on_of_nodup_map ids inside' inside same
    rw [← sameRow]
    exact (beq_iff_eq.mp ofBatch).symm

end Record

section Steps

variable {db : RoadmapStore δ}

/-- A contract is created unless one of its paths is unsafe. -/
theorem execRoadmap_createBatch (db : RoadmapStore δ) (input : CreateRoadmapBatchContractInput)
    (now : Nat) (randomUUID : Nat → String) :
    execRoadmap db (.createBatch input now randomUUID) =
      if input.artifacts.any (isUnsafeRoadmapArtifactPath ·.artifactPath) then db
      else (refreshRoadmapBatchSummary (insertRoadmapBatch db input now randomUUID) (randomUUID 0)
        now).1 := by
  simp only [execRoadmap, createRoadmapBatchContract]
  cases unsafe_ : input.artifacts.find? fun artifact =>
      isUnsafeRoadmapArtifactPath artifact.artifactPath with
  | some artifact =>
    have found := List.mem_of_find?_eq_some unsafe_
    have isUnsafe := List.find?_some unsafe_
    rw [if_pos (List.any_eq_true.mpr ⟨artifact, found, isUnsafe⟩)]
  | none =>
    have known : randomUUID 0 ∈
        (insertRoadmapBatch db input now randomUUID).batches.map (·.id) := by
      rw [insertRoadmapBatch, List.map_append]
      exact List.mem_append_right _ (List.mem_singleton_self _)
    obtain ⟨summary, created⟩ := Option.isSome_iff_exists.mp
      (isSome_refreshRoadmapBatchSummary _ _ now known)
    have safe : ¬ input.artifacts.any (isUnsafeRoadmapArtifactPath ·.artifactPath) = true := by
      rw [List.any_eq_true]
      rintro ⟨artifact, inside, isUnsafe⟩
      exact List.find?_eq_none.mp unsafe_ artifact inside isUnsafe
    rw [if_neg safe, created]

theorem createBatch_cases (db : RoadmapStore δ) (input : CreateRoadmapBatchContractInput)
    (now : Nat) (randomUUID : Nat → String) :
    execRoadmap db (.createBatch input now randomUUID) = db ∨
      execRoadmap db (.createBatch input now randomUUID) =
        (refreshRoadmapBatchSummary (insertRoadmapBatch db input now randomUUID) (randomUUID 0)
          now).1 := by
  rw [execRoadmap_createBatch]
  split
  · exact .inl rfl
  · exact .inr rfl

theorem updateArtifact_cases (db : RoadmapStore δ) (input : RoadmapArtifactStateInput δ) (now : Nat)
    (randomUUID : String) :
    (execRoadmap db (.updateArtifact input now randomUUID) = db ∧
      ∀ artifact, findRoadmapBatchArtifactByTaskId db input.taskId = some artifact →
        lacksJustification artifact input = true) ∨
    ∃ artifact, findRoadmapBatchArtifactByTaskId db input.taskId = some artifact ∧
      lacksJustification artifact input = false ∧
      execRoadmap db (.updateArtifact input now randomUUID) =
        (refreshRoadmapBatchSummary (recordAttempt db artifact input now randomUUID)
          artifact.batchId now).1 := by
  simp only [execRoadmap, updateRoadmapBatchArtifactState]
  cases found : findRoadmapBatchArtifactByTaskId db input.taskId with
  | none =>
    left
    exact ⟨rfl, by simp⟩
  | some artifact =>
    cases lacks : lacksJustification artifact input with
    | true =>
      left
      refine ⟨by simp [lacks], ?_⟩
      rintro _ ⟨⟩
      exact lacks
    | false =>
      right
      exact ⟨artifact, rfl, lacks, by simp [lacks]⟩

/-- A refresh puts the flag of its batch right. -/
theorem consistent_refresh {batchId : String} {now : Nat}
    (artifactIds : (db.artifacts.map (·.id)).Nodup) (batchIds : (db.batches.map (·.id)).Nodup)
    (numbered : ∀ artifact ∈ db.artifacts,
      artifact.attemptNumber ≤ maxAttemptNumber db artifact.id)
    (batched : ∀ artifact ∈ db.artifacts, artifact.batchId ∈ db.batches.map (·.id))
    (others : ∀ batch ∈ db.batches, batch.id ≠ batchId →
      batch.synthesisReady = roadmapSynthesisReady db (listRoadmapBatchArtifacts db batch.id)) :
    (refreshRoadmapBatchSummary db batchId now).1.Consistent := by
  have sameIds : (refreshRoadmapBatchSummary db batchId now).1.batches.map (·.id) =
      db.batches.map (·.id) :=
    map_refreshRoadmapBatchSummary_batches db batchId now (·.id) fun _ _ _ => rfl
  constructor
  · rw [refreshRoadmapBatchSummary_artifacts]
    exact artifactIds
  · rw [sameIds]
    exact batchIds
  · rw [refreshRoadmapBatchSummary_artifacts]
    intro artifact inside
    rw [maxAttemptNumber, refreshRoadmapBatchSummary_attempts]
    exact numbered artifact inside
  · rw [refreshRoadmapBatchSummary_artifacts, sameIds]
    exact batched
  · intro batch inside
    rw [roadmapSynthesisReady_congr fun _ _ =>
        latestAttempt_congr (refreshRoadmapBatchSummary_attempts db batchId now) _,
      listRoadmapBatchArtifacts_congr (refreshRoadmapBatchSummary_artifacts db batchId now)]
    rw [refreshRoadmapBatchSummary_batches] at inside
    obtain ⟨row, insideRow, rfl⟩ := List.mem_map.mp inside
    by_cases same : row.id = batchId
    · rw [if_pos same]
      exact congrArg (fun id => roadmapSynthesisReady db (listRoadmapBatchArtifacts db id))
        same.symm
    · rw [if_neg same]
      exact others row insideRow same

theorem consistent_updateArtifact (consistent : db.Consistent)
    {artifact : RoadmapBatchArtifactRow δ} (inside : artifact ∈ db.artifacts)
    (input : RoadmapArtifactStateInput δ) (now : Nat) (randomUUID : String) :
    (refreshRoadmapBatchSummary (recordAttempt db artifact input now randomUUID) artifact.batchId
      now).1.Consistent := by
  have sameIds : (recordAttempt db artifact input now randomUUID).artifacts.map (·.id) =
      db.artifacts.map (·.id) := map_recordAttempt_artifacts (·.id) fun _ _ => rfl
  apply consistent_refresh
  · rw [sameIds]
    exact consistent.artifactIds
  · exact consistent.batchIds
  · intro row inside'
    rcases mem_recordAttempt_artifacts inside' with ⟨old, -⟩ | ⟨-, old, insideOld, same, rfl⟩
    · have bound := consistent.numbered row old
      by_cases same : row.id = artifact.id
      · rw [same] at bound ⊢
        rw [maxAttemptNumber_recordAttempt_self]
        omega
      · rw [maxAttemptNumber_recordAttempt_of_ne same]
        exact bound
    · have sameId : (writeArtifact artifact input
          (recordedAttempt db artifact input now randomUUID) now old).id = artifact.id := same
      rw [sameId, maxAttemptNumber_recordAttempt_self]
      exact le_rfl
  · intro row inside'
    rcases mem_recordAttempt_artifacts inside' with ⟨old, -⟩ | ⟨-, old, insideOld, same, rfl⟩
    · exact consistent.batched row old
    · exact consistent.batched old insideOld
  · intro batch insideBatch other
    rw [listRoadmapBatchArtifacts_recordAttempt_of_ne consistent.artifactIds inside other,
      roadmapSynthesisReady_congr fun row listed => latestAttempt_recordAttempt_of_ne ?_]
    · exact consistent.flagged batch insideBatch
    · intro same
      obtain ⟨inside', ofBatch⟩ := mem_listRoadmapBatchArtifacts.mp listed
      have sameRow := List.inj_on_of_nodup_map consistent.artifactIds inside' inside same
      rw [sameRow] at ofBatch
      exact other ofBatch.symm

theorem map_id_newArtifacts (input : CreateRoadmapBatchContractInput) (now : Nat)
    (randomUUID : Nat → String) :
    (newRoadmapArtifacts input now randomUUID : List (RoadmapBatchArtifactRow δ)).map (·.id) =
      (List.range input.artifacts.length).map fun index => randomUUID (index + 1) := by
  rw [newRoadmapArtifacts]
  apply List.ext_getElem
  · simp
  · intro index _ _
    simp [newRoadmapArtifact]

theorem mem_newRoadmapArtifacts {input : CreateRoadmapBatchContractInput} {now : Nat}
    {randomUUID : Nat → String} {row : RoadmapBatchArtifactRow δ}
    (inside : row ∈ newRoadmapArtifacts input now randomUUID) :
    ∃ index, ∃ h : index < input.artifacts.length,
      row = newRoadmapArtifact now randomUUID index input.artifacts[index] := by
  obtain ⟨index, bound, rfl⟩ := List.mem_mapIdx.mp inside
  exact ⟨index, bound, rfl⟩

theorem listRoadmapBatchArtifacts_insertRoadmapBatch_of_ne (db : RoadmapStore δ)
    (input : CreateRoadmapBatchContractInput) {now : Nat} {randomUUID : Nat → String}
    {batchId : String} (other : batchId ≠ randomUUID 0) :
    listRoadmapBatchArtifacts (insertRoadmapBatch db input now randomUUID) batchId =
      listRoadmapBatchArtifacts db batchId := by
  have none_ : (newRoadmapArtifacts input now randomUUID).filter
      (fun row : RoadmapBatchArtifactRow δ => row.batchId == batchId) = [] := by
    refine List.filter_eq_nil_iff.mpr fun row inside => ?_
    obtain ⟨index, bound, rfl⟩ := mem_newRoadmapArtifacts inside
    rw [beq_iff_eq]
    exact other.symm
  rw [listRoadmapBatchArtifacts, listRoadmapBatchArtifacts, insertRoadmapBatch,
    List.filter_append, none_, List.append_nil]

theorem consistent_createBatch (consistent : db.Consistent)
    {input : CreateRoadmapBatchContractInput} {now : Nat} {randomUUID : Nat → String}
    (fresh : FreshIds db (.createBatch input now randomUUID)) :
    (refreshRoadmapBatchSummary (insertRoadmapBatch db input now randomUUID) (randomUUID 0)
      now).1.Consistent := by
  obtain ⟨unseen, distinct⟩ := fresh
  have unseenBatch : ∀ i ≤ input.artifacts.length, randomUUID i ∉ db.batches.map (·.id) := by
    intro i bound stored
    refine unseen i bound ?_
    simp only [storedIds, List.mem_append]
    exact .inl (.inl (.inl stored))
  have unseenArtifact : ∀ i ≤ input.artifacts.length, randomUUID i ∉ db.artifacts.map (·.id) := by
    intro i bound stored
    refine unseen i bound ?_
    simp only [storedIds, List.mem_append]
    exact .inl (.inl (.inr stored))
  have newRow : ∀ row : RoadmapBatchArtifactRow δ, row ∈ newRoadmapArtifacts input now randomUUID →
      row.batchId = randomUUID 0 ∧ row.attemptNumber = 0 := by
    intro row inside
    obtain ⟨index, bound, rfl⟩ := mem_newRoadmapArtifacts inside
    exact ⟨rfl, rfl⟩
  apply consistent_refresh
  · rw [insertRoadmapBatch, List.map_append, map_id_newArtifacts]
    refine List.Nodup.append consistent.artifactIds ?_ ?_
    · refine List.nodup_range.map_on fun i insideI j insideJ same => ?_
      have sameIndex := distinct (i + 1) (List.mem_range.mp insideI) (j + 1)
        (List.mem_range.mp insideJ) same
      omega
    · intro id old new
      obtain ⟨index, bound, rfl⟩ := List.mem_map.mp new
      exact unseenArtifact (index + 1) (List.mem_range.mp bound) old
  · rw [insertRoadmapBatch, List.map_append, List.map_singleton]
    simpa [newRoadmapBatch] using
      (List.nodup_concat _ _).mpr ⟨unseenBatch 0 (Nat.zero_le _), consistent.batchIds⟩
  · intro row inside
    rcases List.mem_append.mp inside with old | new
    · exact consistent.numbered row old
    · rw [(newRow row new).2]
      exact Nat.zero_le _
  · intro row inside
    rw [insertRoadmapBatch, List.map_append, List.mem_append]
    rcases List.mem_append.mp inside with old | new
    · exact .inl (consistent.batched row old)
    · right
      rw [(newRow row new).1]
      exact List.mem_singleton_self _
  · intro batch inside other
    rcases List.mem_append.mp inside with old | new
    · rw [listRoadmapBatchArtifacts_insertRoadmapBatch_of_ne db input other]
      exact consistent.flagged batch old
    · rw [List.mem_singleton.mp new] at other
      exact absurd rfl other

theorem consistent_exec (consistent : db.Consistent) {op : RoadmapOp δ} (fresh : FreshIds db op) :
    (execRoadmap db op).Consistent := by
  cases op with
  | createBatch input now randomUUID =>
    rcases createBatch_cases db input now randomUUID with same | done
    · rw [same]
      exact consistent
    · rw [done]
      exact consistent_createBatch consistent fresh
  | updateArtifact input now randomUUID =>
    rcases updateArtifact_cases db input now randomUUID with
      ⟨same, -⟩ | ⟨artifact, found, -, done⟩
    · rw [same]
      exact consistent
    · rw [done]
      exact consistent_updateArtifact consistent (findRoadmapBatchArtifactByTaskId_some found).1
        input now randomUUID

/-- Tables without roadmap rows, whatever tasks there are. -/
theorem consistent_empty (tasks : TaskStore) : ({ tasks } : RoadmapStore δ).Consistent := by
  constructor <;> simp

end Steps

/-- Runs from tables without roadmap rows. -/
def roadmapSystem : System (RoadmapStore δ) (RoadmapOp δ) :=
  .ofFun (fun db => ∃ tasks, db = { tasks }) execRoadmap

theorem consistent_of_reaches {db : RoadmapStore δ} (reached : Reaches roadmapSystem FreshIds db) :
    db.Consistent := by
  refine reached.invariant ?_ ?_
  · rintro _ ⟨tasks, rfl⟩
    exact consistent_empty tasks
  · rintro db op _ consistent fresh rfl
    exact consistent_exec consistent fresh

end AifHandoff.Data
