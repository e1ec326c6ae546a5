import AifHandoff.Data.RoadmapRuns

/-!
Attempt boundaries of audit artifacts.

A rework opens a new boundary, and an attempt that carries another boundary than the
current one is stale: it is recorded, and changes nothing else. An update takes the id of
a new boundary from its caller where the caller names one, and it always records the
attempt, which the readiness of the batch reads.
-/

namespace AifHandoff.Data

open Transition

variable {δ : Type}

/-- The tables, with every boundary id an artifact row has had, by artifact. -/
structure RoadmapHistory (δ : Type) where
  db : RoadmapStore δ
  boundaries : List (String × String) := []

/-- The current boundary ids. -/
def currentBoundaries (db : RoadmapStore δ) : List (String × String) :=
  db.artifacts.filterMap fun row => row.attemptBoundaryId.map fun id => (row.id, id)

/-- The row of the artifact has a boundary that it did not have before. -/
def InstallsNewBoundary (before : RoadmapHistory δ) (after : RoadmapStore δ)
    (artifact : RoadmapBatchArtifactRow δ) : Prop :=
  ∃ row ∈ after.artifacts, row.id = artifact.id ∧
    ∃ id, row.attemptBoundaryId = some id ∧ (artifact.id, id) ∉ before.boundaries

/-- The update carries another boundary than the current one and asks for no new one. -/
def carriesOtherBoundary (artifact : RoadmapBatchArtifactRow δ)
    (input : RoadmapArtifactStateInput δ) : Bool :=
  !input.createAttemptBoundary && input.attemptBoundaryId != artifact.attemptBoundaryId

section Discipline

variable [ValidationDetails δ] (localeCompare : String → String → Int)

def execHistory (h : RoadmapHistory δ) (op : RoadmapOp δ) : RoadmapHistory δ where
  db := execRoadmap h.db op
  boundaries := h.boundaries ++ currentBoundaries (execRoadmap h.db op)

/-- One attempt is appended; artifact rows, readiness flags and the release of every task
are as before. -/
structure OnlyAppendsAttempt (before after : RoadmapStore δ) : Prop where
  attempts : ∃ attempt, after.attempts = before.attempts ++ [attempt]
  artifacts : after.artifacts = before.artifacts
  flags : after.batches.map (fun batch => (batch.id, batch.synthesisReady)) =
    before.batches.map fun batch => (batch.id, batch.synthesisReady)
  release : ∀ taskId, auditRoadmapTaskDependenciesReleaseReady after localeCompare taskId =
    auditRoadmapTaskDependenciesReleaseReady before localeCompare taskId

/-- The boundary discipline of one operation: a boundary that is created is new, and a
stale attempt is only recorded. A call that throws writes nothing. -/
def CallDisciplined (h : RoadmapHistory δ) : RoadmapOp δ → Prop
  | .createBatch _ _ _ => True
  | .updateArtifact input now randomUUID =>
    ∀ artifact after summary,
      findRoadmapBatchArtifactByTaskId h.db input.taskId = some artifact →
      updateRoadmapBatchArtifactState h.db input now randomUUID = .ok (after, summary) →
        (input.createAttemptBoundary = true → InstallsNewBoundary h after artifact) ∧
        (carriesOtherBoundary artifact input = true →
          OnlyAppendsAttempt localeCompare h.db after)

/-- An attempt with this rework status settles the artifact, or unsettles it, while
nothing else keeps the batch from being ready. -/
def togglesSynthesis (db : RoadmapStore δ) (artifact : RoadmapBatchArtifactRow δ)
    (reworkStatus : AuditArtifactReworkStatus) : Bool :=
  let settling := settlingReworkStatus artifact.state
  artifact.role == .report && isTerminalAuditArtifactState artifact.state &&
    ((latestAttempt db artifact.id).map (·.reworkStatus) == some settling) !=
      (reworkStatus == settling) &&
    (listRoadmapBatchArtifacts db artifact.batchId).all fun other =>
      other.id == artifact.id || roadmapSourceArtifactReadyForSynthesis db other

/-- The task waits for the artifact. -/
def awaits (db : RoadmapStore δ) (taskId : TaskId) (artifact : RoadmapBatchArtifactRow δ) : Bool :=
  (awaitedReports db localeCompare taskId).any fun awaited => awaited.2.any (·.id == artifact.id)

/-- A stale attempt does no harm: there is a current boundary, the readiness of the batch
does not hang on the attempt, and no released task waits for the artifact. -/
def staleHarmless (db : RoadmapStore δ) (artifact : RoadmapBatchArtifactRow δ)
    (input : RoadmapArtifactStateInput δ) : Bool :=
  artifact.attemptBoundaryId.isSome &&
    !togglesSynthesis db artifact
      (input.reworkStatus.getD (if input.state = .valid then .accepted else .notApplicable)) &&
    db.artifacts.all fun other =>
      !(awaits localeCompare db other.taskId artifact &&
        auditRoadmapTaskDependenciesReleaseReady db localeCompare other.taskId)

/-- The condition on a step: a caller that asks for a new boundary names none the artifact
has had, and a stale attempt does no harm. -/
def boundaryOk (h : RoadmapHistory δ) : RoadmapOp δ → Bool
  | .createBatch _ _ _ => true
  | .updateArtifact input _ _ =>
    (findRoadmapBatchArtifactByTaskId h.db input.taskId).all fun artifact =>
      lacksJustification artifact input ||
        ((!input.createAttemptBoundary ||
            input.attemptBoundaryId.all fun id => !h.boundaries.contains (artifact.id, id)) &&
          (!carriesOtherBoundary artifact input ||
            staleHarmless localeCompare h.db artifact input))

end Discipline

/-! ### What a stale attempt changes -/

section Stale

variable [ValidationDetails δ] {localeCompare : String → String → Int} {db : RoadmapStore δ}
  {artifact : RoadmapBatchArtifactRow δ} {input : RoadmapArtifactStateInput δ} {now : Nat}
  {randomUUID : String}

/-- The readiness of the batch after an attempt that left the artifact rows: the reports
other than this one are as ready as before. -/
theorem roadmapSynthesisReady_iff_others (consistent : db.Consistent)
    (inside : artifact ∈ db.artifacts) (report : artifact.role = .report)
    (after : RoadmapStore δ)
    (latest : ∀ id, id ≠ artifact.id → latestAttempt after id = latestAttempt db id) :
    roadmapSynthesisReady after (listRoadmapBatchArtifacts db artifact.batchId) = true ↔
      ((listRoadmapBatchArtifacts db artifact.batchId).all fun other =>
        other.id == artifact.id || roadmapSourceArtifactReadyForSynthesis db other) = true ∧
      roadmapSourceArtifactReadyForSynthesis after artifact = true := by
  have listed : artifact ∈ listRoadmapBatchArtifacts db artifact.batchId :=
    mem_listRoadmapBatchArtifacts.mpr ⟨inside, rfl⟩
  rw [roadmapSynthesisReady_iff, List.all_eq_true]
  constructor
  · rintro ⟨-, ready⟩
    refine ⟨fun other listed' => ?_, ready artifact listed report⟩
    by_cases same : other.id = artifact.id
    · simp [same]
    · rw [← roadmapSourceArtifactReadyForSynthesis_congr (latest other.id same)]
      cases role : other.role with
      | report => simp [ready other listed' role]
      | synthesis => simp [roadmapSourceArtifactReadyForSynthesis, role]
  · rintro ⟨others, ready⟩
    refine ⟨⟨artifact, listed, report⟩, fun other listed' _ => ?_⟩
    by_cases same : other.id = artifact.id
    · rw [List.inj_on_of_nodup_map consistent.artifactIds
        (mem_listRoadmapBatchArtifacts.mp listed').1 inside same]
      exact ready
    · rw [roadmapSourceArtifactReadyForSynthesis_congr (latest other.id same)]
      simpa [same] using others other listed'

theorem ready_of_terminal (report : artifact.role = .report)
    (terminal : isTerminalAuditArtifactState artifact.state = true) :
    roadmapSourceArtifactReadyForSynthesis db artifact =
      ((latestAttempt db artifact.id).map (·.reworkStatus) ==
        some (settlingReworkStatus artifact.state)) := by
  have notValid : artifact.state ≠ .valid := by
    intro same
    rw [same] at terminal
    cases terminal
  rw [Bool.eq_iff_iff]
  simp [roadmapSourceArtifactReadyForSynthesis, roadmapArtifactCountsAsValid, notValid, report,
    roadmapSourceArtifactTerminalForSynthesis_iff, terminal]

theorem ready_of_not_terminal (db after : RoadmapStore δ)
    (live : isTerminalAuditArtifactState artifact.state = false) :
    roadmapSourceArtifactReadyForSynthesis after artifact =
      roadmapSourceArtifactReadyForSynthesis db artifact := by
  simp [roadmapSourceArtifactReadyForSynthesis, roadmapSourceArtifactTerminalForSynthesis, live]

/-- The readiness of the batch stays, unless the attempt toggles it. -/
theorem roadmapSynthesisReady_recordAttempt (consistent : db.Consistent)
    (inside : artifact ∈ db.artifacts) (input : RoadmapArtifactStateInput δ) (now : Nat)
    (randomUUID : String) :
    roadmapSynthesisReady (recordAttempt db artifact input now randomUUID)
        (listRoadmapBatchArtifacts db artifact.batchId) =
      roadmapSynthesisReady db (listRoadmapBatchArtifacts db artifact.batchId) ↔
    togglesSynthesis db artifact
      (input.reworkStatus.getD (if input.state = .valid then .accepted else .notApplicable)) =
        false := by
  by_cases report : artifact.role = .report
  · have before := roadmapSynthesisReady_iff_others consistent inside report db fun _ _ => rfl
    have after := roadmapSynthesisReady_iff_others consistent inside report
      (recordAttempt db artifact input now randomUUID)
      fun id ne => latestAttempt_recordAttempt_of_ne ne
    rw [Bool.eq_iff_iff, before, after]
    cases terminal : isTerminalAuditArtifactState artifact.state with
    | false =>
      rw [ready_of_not_terminal db (recordAttempt db artifact input now randomUUID) terminal]
      simp [togglesSynthesis, terminal]
    | true =>
      rw [ready_of_terminal report terminal, ready_of_terminal report terminal,
        latestAttempt_recordAttempt_self]
      simp only [togglesSynthesis, report, terminal, Option.map_some, recordedAttempt]
      cases (listRoadmapBatchArtifacts db artifact.batchId).all fun other =>
        other.id == artifact.id || roadmapSourceArtifactReadyForSynthesis db other
      · simp
      · have agree : ∀ p q : Bool, (q = true ↔ p = true) ↔ (p != q) = false := by decide
        simp only [true_and, Option.some_beq_some, beq_self_eq_true, Bool.and_true, Bool.true_and]
        exact agree _ _
  · have notReport : ∀ row ∈ (listRoadmapBatchArtifacts db artifact.batchId),
        row.role = .report → row.id ≠ artifact.id := by
      intro row listed role same
      have sameRow := List.inj_on_of_nodup_map consistent.artifactIds
        (mem_listRoadmapBatchArtifacts.mp listed).1 inside same
      rw [sameRow] at role
      exact report role
    have same : roadmapSynthesisReady (recordAttempt db artifact input now randomUUID)
          (listRoadmapBatchArtifacts db artifact.batchId) =
        roadmapSynthesisReady db (listRoadmapBatchArtifacts db artifact.batchId) := by
      rw [Bool.eq_iff_iff, roadmapSynthesisReady_iff, roadmapSynthesisReady_iff]
      refine and_congr_right fun _ => forall₂_congr fun row listed => ?_
      refine imp_congr_right fun role => ?_
      rw [roadmapSourceArtifactReadyForSynthesis_congr
        (latestAttempt_recordAttempt_of_ne (notReport row listed role))]
    simp [same, togglesSynthesis, report]

/-- A stale attempt is newer than the row says, so it takes the release of its artifact
away and leaves that of the others. -/
theorem roadmapReportArtifactReleaseReady_stale (consistent : db.Consistent)
    (inside : artifact ∈ db.artifacts) {row : RoadmapBatchArtifactRow δ}
    (member : row ∈ db.artifacts) :
    roadmapReportArtifactReleaseReady (recordAttempt db artifact input now randomUUID) row =
      (roadmapReportArtifactReleaseReady db row && row.id != artifact.id) := by
  by_cases same : row.id = artifact.id
  · have sameRow := List.inj_on_of_nodup_map consistent.artifactIds member inside same
    have bound := consistent.numbered artifact inside
    have newer : maxAttemptNumber db artifact.id + 1 ≠ artifact.attemptNumber := by omega
    subst sameRow
    simp [roadmapReportArtifactReleaseReady, latestCurrentRoadmapArtifactAttempt,
      latestAttempt_recordAttempt_self, recordedAttempt, newer]
  · rw [roadmapReportArtifactReleaseReady_congr (latestAttempt_recordAttempt_of_ne same)]
    simp [same]

omit [ValidationDetails δ] in
theorem mem_of_awaitedReports {taskId : TaskId} {role : AuditArtifactRole}
    {reports : List (RoadmapBatchArtifactRow δ)}
    (awaited : awaitedReports db localeCompare taskId = some (role, reports)) :
    ∀ row ∈ reports, row ∈ db.artifacts := by
  obtain ⟨candidate, -, awaited⟩ := Option.bind_eq_some_iff.mp awaited
  obtain ⟨batch, -, awaited⟩ := Option.bind_eq_some_iff.mp awaited
  have ofOrdered : ∀ row ∈ orderedReportArtifacts db localeCompare batch, row ∈ db.artifacts := by
    intro row listed
    rw [orderedReportArtifacts, List.mem_insertionSort, List.mem_filter] at listed
    exact (mem_listRoadmapBatchArtifacts.mp listed.1).1
  by_cases audit : batch.taskIntent ≠ .audit
  · rw [if_pos audit] at awaited
    cases awaited
  · rw [if_neg audit, Option.some.injEq, Prod.mk.injEq] at awaited
    obtain ⟨-, rfl⟩ := awaited
    intro row listed
    cases role' : candidate.role with
    | synthesis =>
      rw [role'] at listed
      exact ofOrdered row listed
    | report =>
      rw [role'] at listed
      exact ofOrdered row (List.mem_of_mem_take listed)

omit [ValidationDetails δ] in
/-- What a task waits for is read from the artifact rows and the contract of the batch. -/
theorem awaitedReports_congr {after : RoadmapStore δ} (artifacts : after.artifacts = db.artifacts)
    (batches : ∃ write : RoadmapBatchRow → RoadmapBatchRow, after.batches = db.batches.map write ∧
      ∀ row, (write row).id = row.id ∧ (write row).taskIntent = row.taskIntent ∧
        (write row).createdTaskIds = row.createdTaskIds) (taskId : TaskId) :
    awaitedReports after localeCompare taskId = awaitedReports db localeCompare taskId := by
  obtain ⟨write, batches, kept⟩ := batches
  have sameCandidate : findRoadmapBatchArtifactByTaskId after taskId =
      findRoadmapBatchArtifactByTaskId db taskId := by
    rw [findRoadmapBatchArtifactByTaskId, findRoadmapBatchArtifactByTaskId, artifacts]
  have sameBatch : ∀ id, findRoadmapBatch after id = (findRoadmapBatch db id).map write := by
    intro id
    rw [findRoadmapBatch, findRoadmapBatch, batches, List.find?_map]
    have sameTest : ((fun row : RoadmapBatchRow => row.id == id) ∘ write) = (·.id == id) := by
      funext row
      simp [(kept row).1]
    rw [sameTest]
  have sameOrder : ∀ batch, orderedReportArtifacts after localeCompare (write batch) =
      orderedReportArtifacts db localeCompare batch := by
    intro batch
    have sameCompare : (compareReportArtifacts localeCompare (write batch) :
        RoadmapBatchArtifactRow δ → _) = compareReportArtifacts localeCompare batch := by
      funext left right
      simp only [compareReportArtifacts, auditRoadmapBatchTaskOrder, (kept batch).2.2]
    unfold orderedReportArtifacts listRoadmapBatchArtifacts
    rw [sameCompare, artifacts, (kept batch).1]
  unfold awaitedReports
  rw [sameCandidate]
  refine Option.bind_congr fun candidate _ => ?_
  rw [sameBatch, Option.bind_map]
  refine Option.bind_congr fun batch _ => ?_
  simp only [Function.comp, sameOrder, (kept batch).2.1]

/-- The release of every task stays, exactly when no released task waits for the artifact. -/
theorem release_stale_iff (localeCompare : String → String → Int) (consistent : db.Consistent)
    (inside : artifact ∈ db.artifacts) {after : RoadmapStore δ}
    (artifacts : after.artifacts = db.artifacts)
    (attempts : after.attempts = (recordAttempt db artifact input now randomUUID).attempts)
    (batches : ∃ write : RoadmapBatchRow → RoadmapBatchRow, after.batches = db.batches.map write ∧
      ∀ row, (write row).id = row.id ∧ (write row).taskIntent = row.taskIntent ∧
        (write row).createdTaskIds = row.createdTaskIds) (taskId : TaskId) :
    auditRoadmapTaskDependenciesReleaseReady after localeCompare taskId =
        auditRoadmapTaskDependenciesReleaseReady db localeCompare taskId ↔
      (awaits localeCompare db taskId artifact &&
        auditRoadmapTaskDependenciesReleaseReady db localeCompare taskId) = false := by
  rw [auditRoadmapTaskDependenciesReleaseReady_eq, auditRoadmapTaskDependenciesReleaseReady_eq,
    awaitedReports_congr artifacts batches, awaits]
  cases awaited : awaitedReports db localeCompare taskId with
  | none => simp
  | some found =>
    obtain ⟨role, reports⟩ := found
    have released : reports.all (roadmapReportArtifactReleaseReady after) =
        (reports.all (roadmapReportArtifactReleaseReady db) &&
          !reports.any (·.id == artifact.id)) := by
      rw [Bool.eq_iff_iff, Bool.and_eq_true, Bool.not_eq_true', List.any_eq_false,
        List.all_eq_true, List.all_eq_true, ← forall₂_and]
      refine forall₂_congr fun row listed => ?_
      have member := mem_of_awaitedReports awaited row listed
      rw [roadmapReportArtifactReleaseReady_congr (latestAttempt_congr attempts row.id),
        roadmapReportArtifactReleaseReady_stale consistent inside member]
      simp
    have agree : ∀ gate all waits : Bool, (gate && (all && !waits)) = (gate && all) ↔
        (waits && (gate && all)) = false := by decide
    dsimp only [Option.all_some, Option.any_some]
    rw [released]
    exact agree _ _ _

omit [ValidationDetails δ] in
theorem awaits_of_missing {taskId : TaskId}
    (missing : ∀ other ∈ db.artifacts, other.taskId ≠ taskId) :
    awaits localeCompare db taskId artifact = false := by
  have noCandidate : findRoadmapBatchArtifactByTaskId db taskId = none := by
    cases found : findRoadmapBatchArtifactByTaskId db taskId with
    | none => rfl
    | some candidate =>
      obtain ⟨inside, same⟩ := findRoadmapBatchArtifactByTaskId_some found
      exact absurd same (missing candidate inside)
  rw [awaits, awaitedReports, noCandidate]
  rfl

theorem recordAttempt_artifacts_of_stale (stale : staleBoundary artifact input = true) :
    (recordAttempt db artifact input now randomUUID).artifacts = db.artifacts := if_pos stale

/-- The flags stay, exactly when the attempt does not toggle the readiness of the batch. -/
theorem flags_stale_iff (consistent : db.Consistent) (inside : artifact ∈ db.artifacts)
    (stale : staleBoundary artifact input = true) (now : Nat) (randomUUID : String) :
    (refreshRoadmapBatchSummary (recordAttempt db artifact input now randomUUID)
          artifact.batchId now).1.batches.map (fun batch => (batch.id, batch.synthesisReady)) =
        db.batches.map (fun batch => (batch.id, batch.synthesisReady)) ↔
      togglesSynthesis db artifact
        (input.reworkStatus.getD (if input.state = .valid then .accepted else .notApplicable)) =
          false := by
  have sameArtifacts : listRoadmapBatchArtifacts (recordAttempt db artifact input now randomUUID)
      artifact.batchId = listRoadmapBatchArtifacts db artifact.batchId :=
    listRoadmapBatchArtifacts_congr (recordAttempt_artifacts_of_stale stale) _
  rw [refreshRoadmapBatchSummary_batches, List.map_map, sameArtifacts,
    ← roadmapSynthesisReady_recordAttempt consistent inside input now randomUUID]
  have sameTable : (recordAttempt db artifact input now randomUUID).batches = db.batches := rfl
  rw [sameTable, List.map_inj_left]
  constructor
  · intro kept
    obtain ⟨batch, insideBatch, ofArtifact⟩ := List.mem_map.mp (consistent.batched artifact inside)
    have flag := consistent.flagged batch insideBatch
    have keptFlag := congrArg Prod.snd (kept batch insideBatch)
    dsimp only [Function.comp] at keptFlag
    rw [if_pos ofArtifact, flag, ofArtifact] at keptFlag
    exact keptFlag
  · intro kept batch insideBatch
    dsimp only [Function.comp]
    by_cases ofArtifact : batch.id = artifact.batchId
    · rw [if_pos ofArtifact, consistent.flagged batch insideBatch, ofArtifact, ← kept]
      exact congrArg (·, _) ofArtifact
    · rw [if_neg ofArtifact]

/-- A stale attempt is only recorded, exactly when it does no harm. -/
theorem onlyAppendsAttempt_iff (consistent : db.Consistent) (inside : artifact ∈ db.artifacts)
    (stale : staleBoundary artifact input = true) :
    OnlyAppendsAttempt localeCompare db (refreshRoadmapBatchSummary
        (recordAttempt db artifact input now randomUUID) artifact.batchId now).1 ↔
      staleHarmless localeCompare db artifact input = true := by
  have artifacts : (refreshRoadmapBatchSummary (recordAttempt db artifact input now randomUUID)
      artifact.batchId now).1.artifacts = db.artifacts := by
    rw [refreshRoadmapBatchSummary_artifacts, recordAttempt_artifacts_of_stale stale]
  have attempts := refreshRoadmapBatchSummary_attempts
    (recordAttempt db artifact input now randomUUID) artifact.batchId now
  have release := release_stale_iff localeCompare consistent inside artifacts attempts
    ⟨_, refreshRoadmapBatchSummary_batches _ _ _, fun row => by split <;> exact ⟨rfl, rfl, rfl⟩⟩
  have flags := flags_stale_iff consistent inside stale now randomUUID
  have hasBoundary : artifact.attemptBoundaryId.isSome = true := by
    simp only [staleBoundary, Bool.and_eq_true] at stale
    exact stale.1.2
  simp only [staleHarmless, hasBoundary, Bool.true_and, Bool.and_eq_true, Bool.not_eq_true',
    List.all_eq_true, ← flags]
  constructor
  · rintro ⟨-, -, flags, releases⟩
    exact ⟨flags, fun other _ => (release other.taskId).mp (releases other.taskId)⟩
  · rintro ⟨flags, harmless⟩
    refine ⟨⟨_, attempts.trans recordAttempt_attempts⟩, artifacts, flags, fun taskId => ?_⟩
    rw [release taskId]
    by_cases known : ∃ other ∈ db.artifacts, other.taskId = taskId
    · obtain ⟨other, insideOther, rfl⟩ := known
      exact harmless other insideOther
    · have missing : ∀ other ∈ db.artifacts, other.taskId ≠ taskId :=
        fun other insideOther same => known ⟨other, insideOther, same⟩
      rw [awaits_of_missing missing, Bool.false_and]

end Stale

/-! ### Runs -/

section Runs

variable [ValidationDetails δ] {localeCompare : String → String → Int} {h : RoadmapHistory δ}

/-- Every boundary an artifact has had is recorded in the attempts. -/
structure RoadmapHistory.Recorded (h : RoadmapHistory δ) : Prop where
  consistent : h.db.Consistent
  current : ∀ row ∈ h.db.artifacts, ∀ id, row.attemptBoundaryId = some id →
    ∃ attempt ∈ h.db.attempts, attempt.attemptBoundaryId = some id
  past : ∀ pair ∈ h.boundaries, ∃ attempt ∈ h.db.attempts, attempt.attemptBoundaryId = some pair.2

/-- Attempts are never deleted, and every boundary comes with one. -/
theorem recorded_boundaries (current : ∀ row ∈ h.db.artifacts, ∀ id,
      row.attemptBoundaryId = some id → ∃ attempt ∈ h.db.attempts,
        attempt.attemptBoundaryId = some id) (op : RoadmapOp δ) :
    (∃ rest, (execRoadmap h.db op).attempts = h.db.attempts ++ rest) ∧
      ∀ row ∈ (execRoadmap h.db op).artifacts, ∀ id, row.attemptBoundaryId = some id →
        ∃ attempt ∈ (execRoadmap h.db op).attempts, attempt.attemptBoundaryId = some id := by
  cases op with
  | createBatch input now randomUUID =>
    rcases createBatch_cases h.db input now randomUUID with same | done
    · rw [same]
      exact ⟨⟨[], by simp⟩, current⟩
    · rw [done, refreshRoadmapBatchSummary_attempts, refreshRoadmapBatchSummary_artifacts]
      refine ⟨⟨[], by simp [insertRoadmapBatch]⟩, fun row inside id hasId => ?_⟩
      rcases List.mem_append.mp inside with old | new
      · exact current row old id hasId
      · obtain ⟨index, bound, rfl⟩ := mem_newRoadmapArtifacts new
        cases hasId
  | updateArtifact input now randomUUID =>
    rcases updateArtifact_cases h.db input now randomUUID with
      ⟨same, -⟩ | ⟨artifact, -, -, done⟩
    · rw [same]
      exact ⟨⟨[], by simp⟩, current⟩
    · rw [done, refreshRoadmapBatchSummary_attempts, refreshRoadmapBatchSummary_artifacts]
      refine ⟨⟨_, recordAttempt_attempts⟩, fun row inside id hasId => ?_⟩
      rw [recordAttempt_attempts]
      rcases mem_recordAttempt_artifacts inside with ⟨old, -⟩ | ⟨-, old, -, -, rfl⟩
      · obtain ⟨attempt, among, same⟩ := current row old id hasId
        exact ⟨attempt, List.mem_append_left _ among, same⟩
      · exact ⟨_, List.mem_append_right _ (List.mem_singleton_self _), hasId⟩

theorem recorded_exec (recorded : h.Recorded) {op : RoadmapOp δ} (fresh : FreshIds h.db op) :
    (execHistory h op).Recorded := by
  obtain ⟨⟨rest, grown⟩, current⟩ := recorded_boundaries recorded.current op
  refine ⟨consistent_exec recorded.consistent fresh, current, fun pair inside => ?_⟩
  rcases List.mem_append.mp inside with past | new
  · obtain ⟨attempt, among, same⟩ := recorded.past pair past
    refine ⟨attempt, ?_, same⟩
    rw [execHistory, grown]
    exact List.mem_append_left _ among
  · obtain ⟨row, insideRow, hasId⟩ := List.mem_filterMap.mp new
    obtain ⟨id, hadId, rfl⟩ := Option.map_eq_some_iff.mp hasId
    exact current row insideRow id hadId

theorem not_mem_boundaries_of_fresh (recorded : h.Recorded) {randomUUID : String}
    (fresh : randomUUID ∉ storedIds h.db) (artifactId : String) :
    (artifactId, randomUUID) ∉ h.boundaries := by
  intro had
  obtain ⟨attempt, among, same⟩ := recorded.past _ had
  refine fresh ?_
  rw [storedIds, List.mem_append]
  exact .inr (List.mem_filterMap.mpr ⟨attempt, among, same⟩)

variable {artifact : RoadmapBatchArtifactRow δ} {input : RoadmapArtifactStateInput δ} {now : Nat}
  {randomUUID : String}

/-- A created boundary is new, exactly when no id is named that the artifact has had. -/
theorem installsNewBoundary_iff (recorded : h.Recorded) (inside : artifact ∈ h.db.artifacts)
    (fresh : randomUUID ∉ storedIds h.db) (creates : input.createAttemptBoundary = true) :
    InstallsNewBoundary h (refreshRoadmapBatchSummary
        (recordAttempt h.db artifact input now randomUUID) artifact.batchId now).1 artifact ↔
      (input.attemptBoundaryId.all fun id => !h.boundaries.contains (artifact.id, id)) = true := by
  have notStale : staleBoundary artifact input = false := by simp [staleBoundary, creates]
  have installed : (recordedAttempt h.db artifact input now randomUUID).attemptBoundaryId =
      some (input.attemptBoundaryId.getD randomUUID) := if_pos creates
  have newId : (artifact.id, input.attemptBoundaryId.getD randomUUID) ∉ h.boundaries ↔
      (input.attemptBoundaryId.all fun id => !h.boundaries.contains (artifact.id, id)) = true := by
    cases input.attemptBoundaryId with
    | none => simp [not_mem_boundaries_of_fresh recorded fresh]
    | some id => simp
  rw [← newId]
  constructor
  · rintro ⟨row, insideRow, same, id, hasId, unseen⟩
    rw [refreshRoadmapBatchSummary_artifacts] at insideRow
    rcases mem_recordAttempt_artifacts insideRow with ⟨-, stale⟩ | ⟨-, old, -, -, rfl⟩
    · rw [stale same] at notStale
      cases notStale
    · have sameId := installed.symm.trans hasId
      rw [Option.some.inj sameId]
      exact unseen
  · intro unseen
    refine ⟨writeArtifact artifact input (recordedAttempt h.db artifact input now randomUUID) now
      artifact, ?_, rfl, _, installed, unseen⟩
    rw [refreshRoadmapBatchSummary_artifacts, recordAttempt, notStale, if_neg Bool.false_ne_true]
    exact List.mem_map.mpr ⟨artifact, inside, if_pos rfl⟩

theorem artifacts_ne_of_not_stale (recorded : h.Recorded) (inside : artifact ∈ h.db.artifacts)
    (notStale : staleBoundary artifact input = false) :
    (recordAttempt h.db artifact input now randomUUID).artifacts ≠ h.db.artifacts := by
  intro same
  rw [recordAttempt, notStale, if_neg Bool.false_ne_true] at same
  have written : (h.db.artifacts.map fun row => if row.id = artifact.id then
      writeArtifact artifact input (recordedAttempt h.db artifact input now randomUUID) now row
        else row) = h.db.artifacts.map id := same.trans (List.map_id _).symm
  have number := congrArg (·.attemptNumber) (List.map_inj_left.mp written artifact inside)
  have bound := recorded.consistent.numbered artifact inside
  simp only [writeArtifact, recordedAttempt, if_true, id] at number
  omega

/-- A call with another boundary is only recorded, exactly when it does no harm; without a
current boundary it is not even stale. -/
theorem onlyAppendsAttempt_of_carries_iff (recorded : h.Recorded)
    (inside : artifact ∈ h.db.artifacts) (carries : carriesOtherBoundary artifact input = true) :
    OnlyAppendsAttempt localeCompare h.db (refreshRoadmapBatchSummary
        (recordAttempt h.db artifact input now randomUUID) artifact.batchId now).1 ↔
      staleHarmless localeCompare h.db artifact input = true := by
  simp only [carriesOtherBoundary, Bool.and_eq_true] at carries
  cases boundary : artifact.attemptBoundaryId.isSome with
  | true =>
    refine onlyAppendsAttempt_iff recorded.consistent inside ?_
    simp [staleBoundary, boundary, carries]
  | false =>
    have notStale : staleBoundary artifact input = false := by simp [staleBoundary, boundary]
    constructor
    · intro appends
      refine absurd appends.artifacts ?_
      rw [refreshRoadmapBatchSummary_artifacts]
      exact artifacts_ne_of_not_stale recorded inside notStale
    · intro harmless
      simp [staleHarmless, boundary] at harmless

theorem callDisciplined_of_done
    (found : findRoadmapBatchArtifactByTaskId h.db input.taskId = some artifact)
    {result : RoadmapStore δ × Option RoadmapBatchSummary}
    (done : updateRoadmapBatchArtifactState h.db input now randomUUID = .ok result) :
    CallDisciplined localeCompare h (.updateArtifact input now randomUUID) ↔
      (input.createAttemptBoundary = true → InstallsNewBoundary h result.1 artifact) ∧
        (carriesOtherBoundary artifact input = true →
          OnlyAppendsAttempt localeCompare h.db result.1) := by
  constructor
  · intro disciplined
    exact disciplined artifact result.1 result.2 found done
  · rintro holds row after summary found' done'
    obtain rfl := Option.some.inj (found.symm.trans found')
    rw [done, Except.ok.injEq] at done'
    rw [done'] at holds
    exact holds

/-- One operation keeps the discipline exactly when it meets the condition. -/
theorem callDisciplined_iff (recorded : h.Recorded) {op : RoadmapOp δ}
    (fresh : FreshIds h.db op) :
    CallDisciplined localeCompare h op ↔ boundaryOk localeCompare h op = true := by
  cases op with
  | createBatch input now randomUUID => simp [CallDisciplined, boundaryOk]
  | updateArtifact input now randomUUID =>
    cases found : findRoadmapBatchArtifactByTaskId h.db input.taskId with
    | none => simp [CallDisciplined, boundaryOk, found]
    | some artifact =>
      have inside := (findRoadmapBatchArtifactByTaskId_some found).1
      cases lacks : lacksJustification artifact input with
      | true =>
        have throws : updateRoadmapBatchArtifactState h.db input now randomUUID =
            .error "manual_exception requires a non-empty justification" := by
          simp [updateRoadmapBatchArtifactState, found, lacks]
        simp [CallDisciplined, boundaryOk, found, lacks, throws]
      | false =>
        have done : updateRoadmapBatchArtifactState h.db input now randomUUID =
            .ok (refreshRoadmapBatchSummary (recordAttempt h.db artifact input now randomUUID)
              artifact.batchId now) := by
          simp [updateRoadmapBatchArtifactState, found, lacks]
        have disciplined : CallDisciplined localeCompare h
            (.updateArtifact input now randomUUID) ↔ _ :=
          callDisciplined_of_done found done
        rw [disciplined]
        simp only [boundaryOk, found, Option.all_some, lacks, Bool.false_or,
          Bool.and_eq_true, Bool.or_eq_true, Bool.not_eq_true']
        refine and_congr ?_ ?_
        · cases creates : input.createAttemptBoundary with
          | false => simp
          | true =>
            simpa using installsNewBoundary_iff recorded inside fresh creates
        · cases carries : carriesOtherBoundary artifact input with
          | false => simp
          | true =>
            simpa using onlyAppendsAttempt_of_carries_iff recorded inside carries

theorem along_callDisciplined_iff (recorded : h.Recorded) {ops : List (RoadmapOp δ)}
    (fresh : Along (fun h op => FreshIds h.db op) execHistory h ops) :
    Along (CallDisciplined localeCompare) execHistory h ops ↔
      Along (fun h op => boundaryOk localeCompare h op = true) execHistory h ops :=
  along_congr (fun _ _ recorded fresh => recorded_exec recorded fresh)
    (fun _ _ recorded fresh => callDisciplined_iff recorded fresh) recorded fresh

theorem recorded_empty (tasks : TaskStore) : (⟨{ tasks }, []⟩ : RoadmapHistory δ).Recorded :=
  ⟨consistent_empty tasks, by simp, by simp⟩

/-- From tables without roadmap rows, every step of a run keeps the boundary discipline
exactly when every step meets the condition. -/
theorem disciplined_iff_boundaryOk (tasks : TaskStore) {ops : List (RoadmapOp δ)}
    (fresh : Along (fun h op => FreshIds h.db op) execHistory ⟨{ tasks }, []⟩ ops) :
    Along (CallDisciplined localeCompare) execHistory ⟨{ tasks }, []⟩ ops ↔
      Along (fun h op => boundaryOk localeCompare h op = true) execHistory ⟨{ tasks }, []⟩ ops :=
  along_callDisciplined_iff (recorded_empty tasks) fresh

end Runs

/-! ### Two runs -/

/-- The completion guard sends the report back to rework. -/
def requestChanges (attemptBoundaryId : Option String) (now : Nat) (randomUUID : String) :
    RoadmapOp NoDetails :=
  .updateArtifact
    { taskId := "report"
      state := .invalid
      failureFamily := some (some .invalidArtifactContent)
      reworkStatus := some .reworkRequested
      attemptBoundaryId
      createAttemptBoundary := true } now randomUUID

/-- A failed attempt under a boundary. -/
def failedAttempt (attemptBoundaryId : String) (now : Nat) (randomUUID : String) :
    RoadmapOp NoDetails :=
  .updateArtifact
    { taskId := "report"
      state := .missing
      failureFamily := some (some .missingArtifact)
      attemptBoundaryId := some attemptBoundaryId } now randomUUID

/-- Two reworks, and then an attempt of the first. -/
def reworkedTwice : List (RoadmapOp NoDetails) :=
  [reportContract, requestChanges none 1 "first", requestChanges none 2 "second",
    failedAttempt "first" 3 "unused"]

theorem disciplined_reworkedTwice :
    Along (CallDisciplined fun _ _ => 0) execHistory ⟨{}, []⟩ reworkedTwice :=
  (disciplined_iff_boundaryOk [] (by decide)).mpr (by decide)

/-- The handler names the current boundary while it asks for a new one: the update takes
its id for the new boundary, and attempts made before the rework are not stale. -/
theorem reused_boundary :
    ¬ ∀ ops : List (RoadmapOp NoDetails),
      Along (fun h op => FreshIds h.db op) execHistory ⟨{}, []⟩ ops →
        Along (CallDisciplined fun _ _ => 0) execHistory ⟨{}, []⟩ ops := by
  intro disciplined
  let ops := [reportContract, requestChanges none 1 "first",
    requestChanges (some "first") 2 "second"]
  have fresh : Along (fun h op => FreshIds h.db op) execHistory ⟨{}, []⟩ ops := by decide
  have ok := (along_callDisciplined_iff (recorded_empty []) fresh).mp (disciplined ops fresh)
  exact absurd ok (by decide)

end AifHandoff.Data
