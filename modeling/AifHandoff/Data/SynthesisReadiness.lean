import AifHandoff.Data.RoadmapRuns

/-!
The two tests for a synthesis (`summarizeRoadmapArtifacts` and
`auditRoadmapTaskDependenciesReleaseReady` of `data/index.ts`).

The summary of a batch releases the hold on its synthesis task; the dependency test lets
the queue and the API start it. Both ask the reports of the batch. The summary takes a
report that a terminal attempt rejected or missed as settled, and does not ask whether a
valid one was accepted; the dependency test does.
-/

namespace AifHandoff.Data

open Transition

variable {δ : Type} [ValidationDetails δ]

/-- The task is the synthesis of an audit batch. -/
structure IsSynthesisOf (db : RoadmapStore δ) (batch : RoadmapBatchRow) (taskId : TaskId) :
    Prop where
  inside : batch ∈ db.batches
  audit : batch.taskIntent = .audit
  task : batch.synthesisTaskId = some taskId
  artifact : ∃ candidate, findRoadmapBatchArtifactByTaskId db taskId = some candidate ∧
    candidate.batchId = batch.id ∧ candidate.role = .synthesis

/-- `summarizeRoadmapBatch`. -/
def summarizeRoadmapBatch (db : RoadmapStore δ) (batchId : String) : Option RoadmapBatchSummary :=
  (findRoadmapBatch db batchId).map fun batch =>
    summarizeRoadmapArtifacts db batch (listRoadmapBatchArtifacts db batchId)

/-- The newest attempt at the artifact is the one its row is about. -/
def isCurrent (db : RoadmapStore δ) (artifact : RoadmapBatchArtifactRow δ) : Bool :=
  (latestAttempt db artifact.id).all (·.attemptNumber == artifact.attemptNumber)

/-- The report is neither rejected nor missing, and a valid one was accepted. -/
def isAcceptable (db : RoadmapStore δ) (artifact : RoadmapBatchArtifactRow δ) : Bool :=
  artifact.state != .invalid && artifact.state != .missing &&
    (artifact.state != .valid ||
      (latestAttempt db artifact.id).map (·.reworkStatus) == some .accepted)

/-! ### Rows and their attempts -/

structure RoadmapStore.Synced (db : RoadmapStore δ) : Prop where
  consistent : db.Consistent
  numbered : ∀ attempt ∈ db.attempts, 1 ≤ attempt.attemptNumber
  current : ∀ row ∈ db.artifacts, ∀ attempt ∈ db.attempts, attempt.artifactId = row.id →
    attempt.attemptNumber = row.attemptNumber → attempt.role = row.role ∧
      attempt.state = row.state ∧ attempt.validationDetails = row.validationDetails

section Synced

variable {db : RoadmapStore δ}

theorem synced_updateArtifact (synced : db.Synced) {artifact : RoadmapBatchArtifactRow δ}
    (inside : artifact ∈ db.artifacts) (input : RoadmapArtifactStateInput δ) (now : Nat)
    (randomUUID : String) : (refreshRoadmapBatchSummary
      (recordAttempt db artifact input now randomUUID) artifact.batchId now).1.Synced := by
  have below : ∀ row : RoadmapBatchArtifactRow δ, row ∈ db.artifacts → row.id = artifact.id →
      row.attemptNumber ≤ maxAttemptNumber db artifact.id := by
    intro row member same
    rw [← same]
    exact synced.consistent.numbered row member
  refine ⟨consistent_updateArtifact synced.consistent inside input now randomUUID, ?_, ?_⟩
  · rw [refreshRoadmapBatchSummary_attempts, recordAttempt_attempts]
    intro attempt among
    rcases List.mem_append.mp among with old | new
    · exact synced.numbered attempt old
    · rw [List.mem_singleton.mp new]
      exact Nat.le_add_left 1 _
  · rw [refreshRoadmapBatchSummary_artifacts, refreshRoadmapBatchSummary_attempts,
      recordAttempt_attempts]
    intro row member attempt among ofRow number
    rcases mem_recordAttempt_artifacts member with ⟨old, -⟩ | ⟨-, old, insideOld, same, rfl⟩
    · rcases List.mem_append.mp among with oldAttempt | new
      · exact synced.current row old attempt oldAttempt ofRow number
      · -- The new attempt is ahead of a row that it did not write.
        rw [List.mem_singleton.mp new] at ofRow number
        have bound := below row old ofRow.symm
        have next : maxAttemptNumber db artifact.id + 1 = row.attemptNumber := number
        omega
    · have sameRow := List.inj_on_of_nodup_map synced.consistent.artifactIds insideOld inside same
      rcases List.mem_append.mp among with oldAttempt | new
      · have bound : attempt.attemptNumber ≤ maxAttemptNumber db artifact.id :=
          Ledger.le_largest oldAttempt (ofRow.trans same)
        have next : attempt.attemptNumber = maxAttemptNumber db artifact.id + 1 := number
        omega
      · rw [List.mem_singleton.mp new, sameRow]
        exact ⟨rfl, rfl, rfl⟩

theorem synced_createBatch (synced : db.Synced) {input : CreateRoadmapBatchContractInput}
    {now : Nat} {randomUUID : Nat → String}
    (fresh : FreshIds db (.createBatch input now randomUUID)) :
    (refreshRoadmapBatchSummary (insertRoadmapBatch db input now randomUUID) (randomUUID 0)
      now).1.Synced := by
  refine ⟨consistent_createBatch synced.consistent fresh, ?_, ?_⟩
  · rw [refreshRoadmapBatchSummary_attempts]
    exact synced.numbered
  · rw [refreshRoadmapBatchSummary_artifacts, refreshRoadmapBatchSummary_attempts]
    intro row member attempt among ofRow number
    rcases List.mem_append.mp member with old | new
    · exact synced.current row old attempt among ofRow number
    · obtain ⟨index, bound, rfl⟩ := mem_newRoadmapArtifacts new
      have positive := synced.numbered attempt among
      rw [number] at positive
      cases positive

theorem synced_of_reaches (reached : Reaches roadmapSystem FreshIds db) : db.Synced := by
  refine reached.invariant ?_ ?_
  · rintro _ ⟨tasks, rfl⟩
    exact ⟨consistent_empty tasks, by simp, by simp⟩
  · rintro db op _ synced fresh rfl
    cases op with
    | createBatch input now randomUUID =>
      rcases createBatch_cases db input now randomUUID with same | done
      · rw [same]
        exact synced
      · rw [done]
        exact synced_createBatch synced fresh
    | updateArtifact input now randomUUID =>
      rcases updateArtifact_cases db input now randomUUID with
        ⟨same, -⟩ | ⟨artifact, found, -, done⟩
      · rw [same]
        exact synced
      · rw [done]
        exact synced_updateArtifact synced (findRoadmapBatchArtifactByTaskId_some found).1 input
          now randomUUID

end Synced

/-! ### The two tests -/

section Tests

variable {db : RoadmapStore δ} {report : RoadmapBatchArtifactRow δ}

theorem attemptTrusted_of_countsAsValid {attempt : RoadmapBatchArtifactAttemptRow δ}
    (role : report.role = .report) (sameRole : attempt.role = report.role)
    (sameDetails : attempt.validationDetails = report.validationDetails)
    (valid : roadmapArtifactCountsAsValid report = true) :
    attemptTrustedForSynthesisInput attempt = true := by
  rw [role] at sameRole
  simp only [roadmapArtifactCountsAsValid, role, Bool.and_eq_true] at valid
  simp only [attemptTrustedForSynthesisInput, sameRole, sameDetails]
  exact valid.2

/-- A report that is released is current, acceptable and ready, and conversely. -/
theorem roadmapReportArtifactReleaseReady_iff (synced : db.Synced) (inside : report ∈ db.artifacts)
    (role : report.role = .report) : roadmapReportArtifactReleaseReady db report = true ↔
      isCurrent db report = true ∧ isAcceptable db report = true ∧
        roadmapSourceArtifactReadyForSynthesis db report = true := by
  cases latest : latestAttempt db report.id with
  | none =>
    have notReleased : roadmapReportArtifactReleaseReady db report = false := by
      simp [roadmapReportArtifactReleaseReady, latestCurrentRoadmapArtifactAttempt, latest]
    rw [notReleased]
    constructor
    · intro released
      cases released
    rintro ⟨-, acceptable, ready⟩
    have notValid : roadmapArtifactCountsAsValid report = false := by
      have state : report.state ≠ .valid := by
        intro valid
        simp [isAcceptable, valid, latest] at acceptable
      simp [roadmapArtifactCountsAsValid, state]
    simp [roadmapSourceArtifactReadyForSynthesis, role, notValid,
      roadmapSourceArtifactTerminalForSynthesis, latest] at ready
  | some attempt =>
    obtain ⟨among, ofReport⟩ := Ledger.newest_mem latest
    by_cases number : attempt.attemptNumber = report.attemptNumber
    · obtain ⟨sameRole, sameState, sameDetails⟩ :=
        synced.current report inside attempt among ofReport number
      have trusted := attemptTrusted_of_countsAsValid role sameRole sameDetails
      cases valid : roadmapArtifactCountsAsValid report with
      | true =>
        have state : report.state = .valid := by
          simp only [roadmapArtifactCountsAsValid, Bool.and_eq_true, beq_iff_eq] at valid
          exact valid.1
        simp [roadmapReportArtifactReleaseReady, latestCurrentRoadmapArtifactAttempt, latest,
          role, isCurrent, isAcceptable, roadmapSourceArtifactReadyForSynthesis, number,
          sameState, state, valid, trusted valid]
      | false =>
        cases state : report.state <;>
          simp [roadmapReportArtifactReleaseReady, latestCurrentRoadmapArtifactAttempt, latest,
            role, isCurrent, isAcceptable, roadmapSourceArtifactReadyForSynthesis, number,
            sameState, state, valid, roadmapSourceArtifactTerminalForSynthesis,
            isTerminalAuditArtifactState, settlingReworkStatus,
            terminalReportArtifactHasMachineReadableDisposition_eq]
    · have notReleased : roadmapReportArtifactReleaseReady db report = false := by
        simp [roadmapReportArtifactReleaseReady, latestCurrentRoadmapArtifactAttempt, latest,
          number]
      have stale : isCurrent db report = false := by simp [isCurrent, latest, number]
      simp [notReleased, stale]

/-- The dependency test of a synthesis asks for a report, and for the release of all. -/
theorem release_synthesis_iff (consistent : db.Consistent) {batch : RoadmapBatchRow}
    {taskId : TaskId} (synthesis : IsSynthesisOf db batch taskId)
    (localeCompare : String → String → Int) :
    auditRoadmapTaskDependenciesReleaseReady db localeCompare taskId = true ↔
      (∃ report ∈ listRoadmapBatchArtifacts db batch.id, report.role = .report) ∧
        ∀ report ∈ listRoadmapBatchArtifacts db batch.id, report.role = .report →
          roadmapReportArtifactReleaseReady db report = true := by
  obtain ⟨candidate, found, ofBatch, role⟩ := synthesis.artifact
  have foundBatch : findRoadmapBatch db candidate.batchId = some batch := by
    rw [ofBatch]
    exact findRoadmapBatch_of_mem consistent.batchIds synthesis.inside
  have ordered : ∀ report, report ∈ orderedReportArtifacts db localeCompare batch ↔
      report ∈ listRoadmapBatchArtifacts db batch.id ∧ report.role = .report := by
    intro report
    rw [orderedReportArtifacts, List.mem_insertionSort, List.mem_filter, beq_iff_eq]
  have awaited : awaitedReports db localeCompare taskId =
      some (.synthesis, orderedReportArtifacts db localeCompare batch) := by
    simp [awaitedReports, found, foundBatch, synthesis.audit, role]
  rw [auditRoadmapTaskDependenciesReleaseReady_eq, awaited]
  simp only [Option.all_some, beq_self_eq_true, Bool.true_and, Bool.and_eq_true,
    Bool.not_eq_true', List.isEmpty_eq_false_iff, List.all_eq_true, ordered, and_imp]
  refine and_congr_left fun _ => ⟨fun nonEmpty => ?_, ?_⟩
  · obtain ⟨report, listed⟩ := List.exists_mem_of_ne_nil _ nonEmpty
    exact ⟨report, (ordered report).mp listed⟩
  · rintro ⟨report, listed, role'⟩
    exact List.ne_nil_of_mem ((ordered report).mpr ⟨listed, role'⟩)

end Tests

/-- In every state of a run, a synthesis that may start has a ready batch; and while no
report has a stale newest attempt, it may start exactly when the batch is ready and every
report is acceptable. -/
theorem release_iff_ready {db : RoadmapStore δ} (reached : Reaches roadmapSystem FreshIds db)
    {batch : RoadmapBatchRow} {taskId : TaskId} (synthesis : IsSynthesisOf db batch taskId)
    (localeCompare : String → String → Int) :
    (auditRoadmapTaskDependenciesReleaseReady db localeCompare taskId = true →
      (summarizeRoadmapBatch db batch.id).any (·.synthesisReady) = true) ∧
    ((∀ report ∈ listRoadmapBatchArtifacts db batch.id, report.role = .report →
        isCurrent db report = true) →
      (auditRoadmapTaskDependenciesReleaseReady db localeCompare taskId = true ↔
        (summarizeRoadmapBatch db batch.id).any (·.synthesisReady) = true ∧
          ∀ report ∈ listRoadmapBatchArtifacts db batch.id, report.role = .report →
            isAcceptable db report = true)) := by
  have synced := synced_of_reaches reached
  have ready : (summarizeRoadmapBatch db batch.id).any (·.synthesisReady) =
      roadmapSynthesisReady db (listRoadmapBatchArtifacts db batch.id) := by
    rw [summarizeRoadmapBatch, findRoadmapBatch_of_mem synced.consistent.batchIds synthesis.inside]
    rfl
  have released : ∀ report ∈ listRoadmapBatchArtifacts db batch.id, report.role = .report →
      (roadmapReportArtifactReleaseReady db report = true ↔
        isCurrent db report = true ∧ isAcceptable db report = true ∧
          roadmapSourceArtifactReadyForSynthesis db report = true) := by
    intro report listed role
    exact roadmapReportArtifactReleaseReady_iff synced (mem_listRoadmapBatchArtifacts.mp listed).1
      role
  rw [ready, roadmapSynthesisReady_iff, release_synthesis_iff synced.consistent synthesis]
  constructor
  · rintro ⟨some_, all⟩
    refine ⟨some_, fun report listed role => ?_⟩
    exact ((released report listed role).mp (all report listed role)).2.2
  · intro current
    constructor
    · rintro ⟨some_, all⟩
      have each := fun report listed role => (released report listed role).mp
        (all report listed role)
      exact ⟨⟨some_, fun report listed role => (each report listed role).2.2⟩,
        fun report listed role => (each report listed role).2.1⟩
    · rintro ⟨⟨some_, all⟩, acceptable⟩
      refine ⟨some_, fun report listed role => (released report listed role).mpr ?_⟩
      exact ⟨current report listed role, acceptable report listed role, all report listed role⟩

/-! ### Two runs -/

/-- The contract of a batch with a report and a synthesis. -/
def synthesisContract : RoadmapOp NoDetails :=
  .createBatch
    { projectId := "project"
      roadmapAlias := "audit"
      taskIntent := .audit
      executionPolicy := "serialized_shared_checkout"
      createdTaskIds := ["report", "synthesis"]
      synthesisTaskId := some "synthesis"
      artifacts := [
        { taskId := "report", role := .report, artifactPath := "audit/report.md" },
        { taskId := "synthesis", role := .synthesis, artifactPath := "audit/summary.md" }] }
    0 fun index => if index = 0 then "batch" else if index = 1 then "first" else "second"

/-- The batch after its report was closed in a terminal state. -/
def closedBatch (state : AuditArtifactState) : RoadmapStore NoDetails :=
  execRoadmap (execRoadmap {} synthesisContract) (.updateArtifact
    { taskId := "report", state, reworkStatus := some .terminalInconclusive } 1 "unused")

theorem closedBatch_reached (state : AuditArtifactState) :
    Reaches roadmapSystem FreshIds (closedBatch state) := by
  have created : Reaches roadmapSystem FreshIds (execRoadmap {} synthesisContract) :=
    .step (.init ⟨[], rfl⟩) (by decide) rfl
  have fresh : FreshIds (execRoadmap {} synthesisContract) (.updateArtifact
      { taskId := "report", state, reworkStatus := some .terminalInconclusive } 1 "unused") :=
    show "unused" ∉ storedIds (execRoadmap {} synthesisContract) by decide
  exact .step created fresh rfl

theorem isSynthesisOf_closedBatch (state : AuditArtifactState) :
    ∃ batch, IsSynthesisOf (closedBatch state) batch "synthesis" ∧ batch.id = "batch" := by
  cases state <;> exact ⟨_, ⟨.head _, rfl, rfl, _, rfl, rfl, rfl⟩, rfl⟩

/-- An inconclusive report lets the synthesis start. -/
theorem inconclusive_report_released :
    auditRoadmapTaskDependenciesReleaseReady (closedBatch .sourceInconclusive) (fun _ _ => 0)
      "synthesis" = true := by
  obtain ⟨batch, synthesis, id⟩ := isSynthesisOf_closedBatch .sourceInconclusive
  have released := (release_iff_ready (closedBatch_reached _) synthesis fun _ _ => 0).2
  rw [id] at released
  exact (released (by decide)).mpr ⟨by decide, by decide⟩

/-- A rejected report makes the batch ready, and the synthesis may not start. -/
theorem rejected_report_not_released :
    ¬ ∀ (db : RoadmapStore NoDetails) (batch : RoadmapBatchRow) (taskId : TaskId),
      Reaches roadmapSystem FreshIds db → batch ∈ db.batches →
      batch.synthesisTaskId = some taskId →
        ((summarizeRoadmapBatch db batch.id).any (·.synthesisReady) = true ↔
          auditRoadmapTaskDependenciesReleaseReady db (fun _ _ => 0) taskId = true) := by
  intro agree
  obtain ⟨batch, synthesis, id⟩ := isSynthesisOf_closedBatch .invalid
  have both := agree _ batch _ (closedBatch_reached .invalid) synthesis.inside synthesis.task
  rw [id] at both
  have ready : (summarizeRoadmapBatch (closedBatch .invalid) "batch").any (·.synthesisReady) =
      true := by decide
  have refused : auditRoadmapTaskDependenciesReleaseReady (closedBatch .invalid) (fun _ _ => 0)
      "synthesis" ≠ true := by decide
  exact refused (both.mp ready)

end AifHandoff.Data
