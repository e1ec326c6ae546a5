import AifHandoff.Data.RollupKeeps

/-!
What the roadmap operations change of what rollups read.

A rollup reads the release readiness of tasks and the synthesis tasks of the audit
batches. An update decides the readiness of its own task only, a new batch that of the
tasks whose older artifact it replaces, and a refreshed summary changes nothing.
-/

namespace AifHandoff.Data

open Forest Propagation

variable {δ : Type} [ValidationDetails δ]

def isOpenContainer (row : TaskRow) : Bool :=
  row.hierarchyRole == .container && row.status != .verified

/-- The readiness of a report after an update. -/
def releasesReport (artifact : RoadmapBatchArtifactRow δ) (input : RoadmapArtifactStateInput δ) :
    Bool :=
  let reworkStatus :=
    input.reworkStatus.getD (if input.state = .valid then .accepted else .notApplicable)
  artifact.role == .report && !staleBoundary artifact input &&
    ((input.state == .valid && reworkStatus == .accepted &&
        validationDetailsHaveTrustedAuditSourceClassification
          (input.validationDetails.getD artifact.validationDetails)) ||
      ((input.state == .sourceInconclusive || input.state == .terminalInconclusive) &&
        reworkStatus == .terminalInconclusive) ||
      (input.state == .manualException && reworkStatus == .manualException))

/-! ### Views -/

section View

variable {db db' : RoadmapStore δ} {view view' : RollupView} {store : TaskStore} {y : TaskId}

/-- The synthesis task of a batch, if it is one of the children. -/
def synthesisAmong (parent : TaskRow) (children : List TaskRow) (batch : RoadmapBatchRow) :
    Option TaskId :=
  if batch.taskIntent = .audit ∧ batch.projectId = parent.projectId then
    batch.synthesisTaskId.filter fun id => children.any (·.id == id)
  else none

theorem findAuthoritativeSynthesisChild_congr {parent : TaskRow} {children : List TaskRow}
    (same : effectiveCloseoutPolicy parent = some .synthesisChildVerified →
      parent.taskIntent = .audit → db'.batches.filterMap (synthesisAmong parent children) =
        db.batches.filterMap (synthesisAmong parent children)) :
    findAuthoritativeSynthesisChild (viewOf db') parent children =
      findAuthoritativeSynthesisChild (viewOf db) parent children := by
  have listed (db : RoadmapStore δ) : (viewOf db).auditBatches.filterMap
      (fun entry : String × Option TaskId =>
        if entry.1 = parent.projectId then entry.2.filter fun id => children.any (·.id == id)
        else none) = db.batches.filterMap (synthesisAmong parent children) := by
    rw [viewOf, List.filterMap_map, List.filterMap_filter]
    refine List.filterMap_congr fun batch _ => ?_
    by_cases audit : batch.taskIntent = .audit <;> simp [synthesisAmong, audit]
  unfold findAuthoritativeSynthesisChild
  by_cases closes : effectiveCloseoutPolicy parent = some .synthesisChildVerified
  · rw [if_neg (not_not.mpr closes), if_neg (not_not.mpr closes)]
    split
    · rfl
    next some_ =>
      have audit : parent.taskIntent = .audit := by
        by_contra other
        simp [other] at some_
      have lists := (listed db').trans ((same closes audit).trans (listed db).symm)
      dsimp only
      rw [lists]
  · rw [if_pos closes, if_pos closes]

/-- A task keeps what it has when the view says the same of its children. -/
theorem RolledUp.of_view (rolled : RolledUp (viewOf db) store y) (named : ∀ row ∈ store, row.id ≠ "")
    (blocks : ∀ parent, findTaskById store y = some parent → isOpenContainer parent = true →
      ∀ child ∈ store, parentLink child = some y →
        childBlocksHierarchyRollup (viewOf db') child =
          childBlocksHierarchyRollup (viewOf db) child)
    (closes : ∀ parent, findTaskById store y = some parent → isOpenContainer parent = true →
      effectiveCloseoutPolicy parent = some .synthesisChildVerified →
      parent.taskIntent = .audit →
        db'.batches.filterMap (synthesisAmong parent (directChildrenOf store y)) =
          db.batches.filterMap (synthesisAmong parent (directChildrenOf store y))) :
    RolledUp (viewOf db') store y := by
  intro parent found
  have before := rolled parent found
  obtain ⟨inside, rfl⟩ := findTaskById_some found
  cases open_ : isOpenContainer parent with
  | false =>
    have skips : parent.hierarchyRole ≠ .container ∨ parent.status = .verified := by
      simpa [isOpenContainer, or_iff_not_imp_left] using open_
    rcases skips with notContainer | verified
    · simp [isRolledUp, notContainer]
    · simp [isRolledUp, verified]
  | true =>
    have anyBlocks : (directChildrenOf store parent.id).any
        (childBlocksHierarchyRollup (viewOf db')) =
        (directChildrenOf store parent.id).any (childBlocksHierarchyRollup (viewOf db)) := by
      rw [Bool.eq_iff_iff, List.any_eq_true, List.any_eq_true]
      refine exists_congr fun child => and_congr_right fun listed => ?_
      obtain ⟨insideC, link⟩ := (mem_directChildrenOf_link (named parent inside)).mp listed
      rw [blocks parent found open_ child insideC link]
    have authoritative := findAuthoritativeSynthesisChild_congr (closes parent found open_)
    unfold isRolledUp computeParentRollupStatus at before ⊢
    rw [anyBlocks, authoritative]
    exact before

/-- Readiness reads the artifacts and the attempts. -/
theorem releaseReady_congr {taskId : TaskId}
    (artifact : findRoadmapBatchArtifactByTaskId db' taskId =
      findRoadmapBatchArtifactByTaskId db taskId)
    (latest : ∀ artifact, findRoadmapBatchArtifactByTaskId db taskId = some artifact →
      latestAttempt db' artifact.id = latestAttempt db artifact.id) :
    (viewOf db').releaseReady taskId = (viewOf db).releaseReady taskId := by
  simp only [viewOf, artifact]
  cases found : findRoadmapBatchArtifactByTaskId db taskId with
  | none => rfl
  | some current =>
    rw [Option.any_some, Option.any_some,
      roadmapReportArtifactReleaseReady_congr (latest current found)]

/-- A refreshed summary is nothing that rollups read. -/
theorem viewOf_refresh (db : RoadmapStore δ) (batchId : String) (now : Nat) :
    viewOf (refreshRoadmapBatchSummary db batchId now).1 = viewOf db := by
  have ready : (viewOf (refreshRoadmapBatchSummary db batchId now).1).releaseReady =
      (viewOf db).releaseReady := by
    funext taskId
    refine releaseReady_congr ?_ fun artifact _ => latestAttempt_congr (by simp) _
    simp only [findRoadmapBatchArtifactByTaskId, refreshRoadmapBatchSummary_artifacts]
  have batches : (viewOf (refreshRoadmapBatchSummary db batchId now).1).auditBatches =
      (viewOf db).auditBatches := by
    simp only [viewOf, refreshRoadmapBatchSummary_batches, List.filter_map, List.map_map]
    have audit : ((fun batch : RoadmapBatchRow => batch.taskIntent == .audit) ∘ fun row =>
        if row.id = batchId then
          writeBatchSummary
            (summarizeRoadmapArtifacts db row (listRoadmapBatchArtifacts db batchId))
            (computeRoadmapBatchStatus (listRoadmapBatchArtifacts db batchId)
              (roadmapSynthesisReady db (listRoadmapBatchArtifacts db batchId))) now row
        else row) = fun batch => batch.taskIntent == .audit := by
      funext row
      dsimp only [Function.comp]
      split <;> rfl
    rw [audit]
    refine List.map_congr_left fun row _ => ?_
    dsimp only [Function.comp]
    split <;> rfl
  unfold viewOf at ready batches ⊢
  rw [RollupView.mk.injEq]
  exact ⟨ready, batches⟩

end View

/-! ### Batch refreshes -/

section Batches

variable {db : RoadmapStore δ} {y : TaskId} {now : Nat}

/-- The tasks after a refreshed summary: the synthesis task is paused or released. -/
theorem tasks_refreshRoadmapBatchSummary (db : RoadmapStore δ) (batchId : String) (now : Nat) :
    ∃ write : TaskRow → TaskRow, (∀ row, rollupColumns (write row) = rollupColumns row) ∧
      (refreshRoadmapBatchSummary db batchId now).1.tasks = db.tasks.map write := by
  have columns (ready : Bool) (row : TaskRow) :
      rollupColumns (refreshSynthesisTaskRow ready now row) = rollupColumns row := by
    cases ready <;> rfl
  unfold refreshRoadmapBatchSummary
  split
  · exact ⟨fun row => row, fun _ => rfl, (List.map_id _).symm⟩
  next batch _ =>
    dsimp only
    cases batch.synthesisTaskId with
    | none => exact ⟨fun row => row, fun _ => rfl, (List.map_id _).symm⟩
    | some taskId =>
      refine ⟨_, fun row => ?_, rfl⟩
      split
      · exact columns _ row
      · rfl

/-- What operations on the batches keep of the tables. -/
structure SameTables (db db' : RoadmapStore δ) : Prop where
  linked : Linked db.tasks → Linked db'.tasks
  links : linkOf db'.tasks = linkOf db.tasks
  artifacts : db'.artifacts = db.artifacts
  attempts : db'.attempts = db.attempts
  view : viewOf db' = viewOf db

theorem SameTables.trans {db' db'' : RoadmapStore δ} (first : SameTables db db')
    (second : SameTables db' db'') : SameTables db db'' where
  linked linked := second.linked (first.linked linked)
  links := second.links.trans first.links
  artifacts := second.artifacts.trans first.artifacts
  attempts := second.attempts.trans first.attempts
  view := second.view.trans first.view

theorem sameTables_refreshRoadmapBatchSummary (db : RoadmapStore δ) (batchId : String) (now : Nat) :
    SameTables db (refreshRoadmapBatchSummary db batchId now).1 := by
  obtain ⟨write, columns, tasks⟩ := tasks_refreshRoadmapBatchSummary db batchId now
  have keepsId (row : TaskRow) : (write row).id = row.id := congrArg RollupColumns.id (columns row)
  have keepsParent (row : TaskRow) : (write row).parentTaskId = row.parentTaskId :=
    congrArg RollupColumns.parentTaskId (columns row)
  refine ⟨fun linked => ?_, ?_, by simp, by simp, viewOf_refresh db batchId now⟩
  · rw [tasks]
    exact linked.map keepsId keepsParent
  · rw [tasks, linkOf_map keepsId keepsParent]

theorem sameTables_refreshAncestors (db : RoadmapStore δ) (linked : Linked db.tasks) (taskId : TaskId)
    (now : Nat) : SameTables db (refreshAncestors db taskId now) := by
  have keeps : Keeps db.tasks (refreshAncestors db taskId now).tasks := keeps_refreshAncestorRollups
  exact ⟨fun _ => (keeps.linked linked).1, (keeps.linked linked).2, rfl, rfl, rfl⟩

theorem rolledUp_refreshAncestors (linked : Linked db.tasks) {taskId : TaskId}
    (known : IsAncestor (linkOf db.tasks) taskId y ∨ RolledUp (viewOf db) db.tasks y) :
    RolledUp (viewOf db) (refreshAncestors db taskId now).tasks y := by
  have refreshed : RolledUp (rollupContext db now).view (refreshAncestorRollups
      (rollupContext db now) db.tasks taskId) y := rolledUp_refreshAncestorRollups linked known
  exact refreshed

theorem sameTables_refreshRoadmapBatch (linked : Linked db.tasks) (batchId : String) (now : Nat) :
    SameTables db (refreshRoadmapBatch db batchId now) := by
  have same := sameTables_refreshRoadmapBatchSummary db batchId now
  unfold refreshRoadmapBatch
  dsimp only
  split
  · exact same
  next taskId _ => exact same.trans (sameTables_refreshAncestors _ (same.linked linked) taskId now)

/-- A batch refresh refreshes what lies above its synthesis task. -/
theorem rolledUp_refreshRoadmapBatch (linked : Linked db.tasks) (batchId : String) (now : Nat)
    (known : (∃ taskId, (findRoadmapBatch db batchId).bind (·.synthesisTaskId) = some taskId ∧
      IsAncestor (linkOf db.tasks) taskId y) ∨ RolledUp (viewOf db) db.tasks y) :
    RolledUp (viewOf db) (refreshRoadmapBatch db batchId now).tasks y := by
  have same := sameTables_refreshRoadmapBatchSummary db batchId now
  obtain ⟨write, columns, tasks⟩ := tasks_refreshRoadmapBatchSummary db batchId now
  have summary (rolled : RolledUp (viewOf db) db.tasks y) :
      RolledUp (viewOf db) (refreshRoadmapBatchSummary db batchId now).1.tasks y := by
    rw [tasks]
    exact rolled.map columns
  unfold refreshRoadmapBatch
  dsimp only
  split
  next none_ =>
    rcases known with ⟨taskId, some_, -⟩ | rolled
    · rw [none_] at some_
      cases some_
    · exact summary rolled
  next taskId some_ =>
    rw [← same.view]
    apply rolledUp_refreshAncestors (same.linked linked)
    rw [same.view, same.links]
    rcases known with ⟨taskId', some', above⟩ | rolled
    · rw [some_] at some'
      cases some'
      exact .inl above
    · exact .inr (summary rolled)

end Batches

/-! ### The ledger of the artifacts -/

/-- Distinct artifacts, none ahead of its attempts, and every attempt at one of them. -/
structure Ledgered (db : RoadmapStore δ) : Prop where
  artifactIds : (db.artifacts.map (·.id)).Nodup
  numbered : ∀ artifact ∈ db.artifacts, artifact.attemptNumber ≤ maxAttemptNumber db artifact.id
  attached : ∀ attempt ∈ db.attempts, ∃ artifact ∈ db.artifacts,
    artifact.id = attempt.artifactId ∧ artifact.taskId = attempt.taskId

section Ledger

variable {db db' : RoadmapStore δ} {artifact : RoadmapBatchArtifactRow δ}
  {input : RoadmapArtifactStateInput δ} {now : Nat}

omit [ValidationDetails δ] in
theorem Ledgered.congr (ledgered : Ledgered db) (artifacts : db'.artifacts = db.artifacts)
    (attempts : db'.attempts = db.attempts) : Ledgered db' := by
  obtain ⟨artifactIds, numbered, attached⟩ := ledgered
  refine ⟨artifacts ▸ artifactIds, ?_, ?_⟩
  · rw [artifacts]
    intro artifact inside
    rw [maxAttemptNumber, attempts]
    exact numbered artifact inside
  · rw [artifacts, attempts]
    exact attached

theorem ledgered_recordAttempt (ledgered : Ledgered db) (inside : artifact ∈ db.artifacts)
    (input : RoadmapArtifactStateInput δ) (now : Nat) (randomUUID : String) :
    Ledgered (recordAttempt db artifact input now randomUUID) := by
  have ids : (recordAttempt db artifact input now randomUUID).artifacts.map
      (fun row => (row.id, row.taskId)) = db.artifacts.map fun row => (row.id, row.taskId) :=
    map_recordAttempt_artifacts _ fun _ _ => rfl
  have kept : ∀ row ∈ db.artifacts, ∃ row' ∈ (recordAttempt db artifact input now
      randomUUID).artifacts, row'.id = row.id ∧ row'.taskId = row.taskId := by
    intro row inside
    have listed : (row.id, row.taskId) ∈ db.artifacts.map fun row => (row.id, row.taskId) :=
      List.mem_map_of_mem inside
    rw [← ids] at listed
    obtain ⟨row', inside', same⟩ := List.mem_map.mp listed
    exact ⟨row', inside', (Prod.mk.inj same).1, (Prod.mk.inj same).2⟩
  refine ⟨?_, ?_, ?_⟩
  · rw [map_recordAttempt_artifacts (·.id) fun _ _ => rfl]
    exact ledgered.artifactIds
  · intro row inside'
    rcases mem_recordAttempt_artifacts inside' with ⟨old, -⟩ | ⟨-, old, insideOld, same, rfl⟩
    · have bound := ledgered.numbered row old
      by_cases same : row.id = artifact.id
      · rw [same] at bound ⊢
        rw [maxAttemptNumber_recordAttempt_self]
        omega
      · rw [maxAttemptNumber_recordAttempt_of_ne same]
        exact bound
    · have sameId : (writeArtifact artifact input
          (recordedAttempt db artifact input now randomUUID) now old).id = artifact.id := same
      rw [sameId, maxAttemptNumber_recordAttempt_self]
      exact le_rfl
  · intro attempt inside'
    rw [recordAttempt_attempts] at inside'
    rcases List.mem_append.mp inside' with old | new
    · obtain ⟨row, insideR, same⟩ := ledgered.attached attempt old
      obtain ⟨row', insideR', id, task⟩ := kept row insideR
      exact ⟨row', insideR', id.trans same.1, task.trans same.2⟩
    · rw [List.mem_singleton.mp new]
      exact kept artifact inside

/-- The artifact that an update is about, and what becomes of the others. -/
theorem findRoadmapBatchArtifactByTaskId_recordAttempt (ledgered : Ledgered db)
    (found : findRoadmapBatchArtifactByTaskId db input.taskId = some artifact) (now : Nat)
    (randomUUID : String) (taskId : TaskId) :
    findRoadmapBatchArtifactByTaskId (recordAttempt db artifact input now randomUUID) taskId =
      if taskId = input.taskId then
        some (if staleBoundary artifact input then artifact
          else writeArtifact artifact input (recordedAttempt db artifact input now randomUUID) now
            artifact)
      else findRoadmapBatchArtifactByTaskId db taskId := by
  have same : findRoadmapBatchArtifactByTaskId (refreshRoadmapBatchSummary
      (recordAttempt db artifact input now randomUUID) artifact.batchId now).1 taskId =
      findRoadmapBatchArtifactByTaskId (recordAttempt db artifact input now randomUUID) taskId := by
    simp only [findRoadmapBatchArtifactByTaskId, refreshRoadmapBatchSummary_artifacts]
  split
  next own =>
    subst own
    rw [← same]
    exact findRoadmapBatchArtifactByTaskId_updateArtifact _ _ found
  next other =>
    obtain ⟨inside, task⟩ := findRoadmapBatchArtifactByTaskId_some found
    cases stale : staleBoundary artifact input with
    | true =>
      have kept : (recordAttempt db artifact input now randomUUID).artifacts = db.artifacts := by
        simp [recordAttempt, stale]
      simp only [findRoadmapBatchArtifactByTaskId, kept]
    | false =>
      have written : (recordAttempt db artifact input now randomUUID).artifacts =
          db.artifacts.map fun row => if row.id = artifact.id then writeArtifact artifact input
            (recordedAttempt db artifact input now randomUUID) now row else row := by
        simp [recordAttempt, stale]
      rw [findRoadmapBatchArtifactByTaskId_map written
        (by intro row; split <;> exact ⟨rfl, rfl⟩)]
      cases foundOther : findRoadmapBatchArtifactByTaskId db taskId with
      | none => rfl
      | some current =>
        obtain ⟨inside', task'⟩ := findRoadmapBatchArtifactByTaskId_some foundOther
        have differs : current.id ≠ artifact.id := by
          intro sameId
          have sameRow := List.inj_on_of_nodup_map ledgered.artifactIds inside' inside sameId
          rw [sameRow, task] at task'
          exact other task'.symm
        rw [Option.map_some, if_neg differs]

theorem releaseReady_of_current {row : RoadmapBatchArtifactRow δ}
    {attempt : RoadmapBatchArtifactAttemptRow δ}
    (current : latestCurrentRoadmapArtifactAttempt db row = some attempt)
    (sameRole : attempt.role = row.role)
    (sameDetails : attempt.validationDetails = row.validationDetails) :
    roadmapReportArtifactReleaseReady db row = (row.role == .report &&
      ((row.state == .valid && attempt.reworkStatus == .accepted &&
          validationDetailsHaveTrustedAuditSourceClassification row.validationDetails) ||
        ((row.state == .sourceInconclusive || row.state == .terminalInconclusive) &&
          attempt.reworkStatus == .terminalInconclusive) ||
        (row.state == .manualException && attempt.reworkStatus == .manualException))) := by
  rw [roadmapReportArtifactReleaseReady, current, Option.any_some,
    terminalReportArtifactHasMachineReadableDisposition_eq]
  cases role : row.role with
  | synthesis => rfl
  | report =>
    rw [roadmapArtifactCountsAsValid, attemptTrustedForSynthesisInput, sameRole, role,
      sameDetails, Bool.eq_iff_iff]
    simp only [Bool.or_eq_true, Bool.and_eq_true]
    tauto

/-- The readiness of the artifact that an update is about. -/
theorem releaseReady_written (ledgered : Ledgered db) (inside : artifact ∈ db.artifacts)
    (randomUUID : String) :
    roadmapReportArtifactReleaseReady (recordAttempt db artifact input now randomUUID)
      (if staleBoundary artifact input then artifact
        else writeArtifact artifact input (recordedAttempt db artifact input now randomUUID) now
          artifact) = releasesReport artifact input := by
  have latest : latestAttempt (recordAttempt db artifact input now randomUUID) artifact.id =
      some (recordedAttempt db artifact input now randomUUID) := latestAttempt_recordAttempt_self
  cases stale : staleBoundary artifact input with
  | true =>
    -- The new attempt is ahead of the row.
    have bound := ledgered.numbered artifact inside
    have ahead : (recordedAttempt db artifact input now randomUUID).attemptNumber ≠
        artifact.attemptNumber := by
      have number : (recordedAttempt db artifact input now randomUUID).attemptNumber =
          maxAttemptNumber db artifact.id + 1 := rfl
      omega
    simp [roadmapReportArtifactReleaseReady, latestCurrentRoadmapArtifactAttempt, latest, ahead,
      releasesReport, stale]
  | false =>
    have current : latestCurrentRoadmapArtifactAttempt
        (recordAttempt db artifact input now randomUUID) (writeArtifact artifact input
          (recordedAttempt db artifact input now randomUUID) now artifact) =
        some (recordedAttempt db artifact input now randomUUID) := by
      have sameId : (writeArtifact artifact input (recordedAttempt db artifact input now
          randomUUID) now artifact).id = artifact.id := rfl
      rw [latestCurrentRoadmapArtifactAttempt, sameId, latest]
      simp [recordedAttempt, writeArtifact]
    rw [if_neg Bool.false_ne_true, releaseReady_of_current current rfl rfl]
    simp [releasesReport, stale, writeArtifact, recordedAttempt]

theorem releaseReady_recordAttempt (ledgered : Ledgered db)
    (found : findRoadmapBatchArtifactByTaskId db input.taskId = some artifact)
    (randomUUID : String) (taskId : TaskId) :
    (viewOf (recordAttempt db artifact input now randomUUID)).releaseReady taskId =
      if taskId = input.taskId then releasesReport artifact input
      else (viewOf db).releaseReady taskId := by
  obtain ⟨inside, task⟩ := findRoadmapBatchArtifactByTaskId_some found
  have artifactAfter := findRoadmapBatchArtifactByTaskId_recordAttempt ledgered found now
    randomUUID taskId
  split
  next own =>
    rw [if_pos own] at artifactAfter
    simp only [viewOf, artifactAfter, Option.any_some]
    exact releaseReady_written ledgered inside randomUUID
  next other =>
    rw [if_neg other] at artifactAfter
    refine releaseReady_congr artifactAfter fun current foundOther => ?_
    obtain ⟨inside', task'⟩ := findRoadmapBatchArtifactByTaskId_some foundOther
    refine latestAttempt_recordAttempt_of_ne fun sameId => other ?_
    have sameRow := List.inj_on_of_nodup_map ledgered.artifactIds inside' inside sameId
    rw [← task', sameRow, task]

omit [ValidationDetails δ] in
theorem latestAttempt_of_fresh (ledgered : Ledgered db) {id : String}
    (fresh : ∀ artifact ∈ db.artifacts, artifact.id ≠ id) : latestAttempt db id = none := by
  rw [latestAttempt_eq, Ledger.newest_eq_none]
  intro attempt inside same
  obtain ⟨artifact, insideA, ofArtifact, -⟩ := ledgered.attached attempt inside
  exact fresh artifact insideA (ofArtifact.trans same)

theorem ledgered_insertRoadmapBatch (ledgered : Ledgered db)
    {input : CreateRoadmapBatchContractInput} {randomUUID : Nat → String}
    (fresh : FreshIds db (.createBatch input now randomUUID)) :
    Ledgered (insertRoadmapBatch db input now randomUUID) := by
  obtain ⟨unused, distinct⟩ := fresh
  refine ⟨?_, ?_, ?_⟩
  · have ids : (insertRoadmapBatch db input now randomUUID).artifacts.map (·.id) =
        db.artifacts.map (·.id) ++
          (List.range input.artifacts.length).map fun index => randomUUID (index + 1) := by
      rw [insertRoadmapBatch, List.map_append, map_id_newArtifacts]
    rw [ids]
    refine List.nodup_append.mpr ⟨ledgered.artifactIds, ?_, ?_⟩
    · refine List.Nodup.map_on (fun i inI j inJ same => ?_) List.nodup_range
      have apart := distinct (i + 1) (List.mem_range.mp inI) (j + 1) (List.mem_range.mp inJ) same
      omega
    · rintro id old _ new rfl
      obtain ⟨index, bound, rfl⟩ := List.mem_map.mp new
      refine unused (index + 1) (List.mem_range.mp bound) ?_
      simp only [storedIds, List.mem_append]
      exact .inl (.inl (.inr old))
  · intro artifact inside
    rcases List.mem_append.mp inside with old | new
    · exact ledgered.numbered artifact old
    · obtain ⟨index, bound, rfl⟩ := mem_newRoadmapArtifacts new
      exact Nat.zero_le _
  · intro attempt inside
    obtain ⟨artifact, insideA, same⟩ := ledgered.attached attempt inside
    exact ⟨artifact, List.mem_append_left _ insideA, same⟩

instance : Std.Total fun a b : RoadmapBatchArtifactRow δ => b.createdAt ≤ a.createdAt :=
  ⟨fun _ _ => Nat.le_total _ _⟩

instance : IsTrans (RoadmapBatchArtifactRow δ) fun a b => b.createdAt ≤ a.createdAt :=
  ⟨fun _ _ _ first second => Nat.le_trans second first⟩

omit [ValidationDetails δ] in
theorem findRoadmapBatchArtifactByTaskId_youngest {taskId : TaskId}
    (found : findRoadmapBatchArtifactByTaskId db taskId = some artifact)
    {row : RoadmapBatchArtifactRow δ} (inside : row ∈ db.artifacts) (task : row.taskId = taskId) :
    row.createdAt ≤ artifact.createdAt := by
  exact Ledger.head?_insertionSort_le (fun a b : RoadmapBatchArtifactRow δ =>
    b.createdAt ≤ a.createdAt) found (List.mem_filter.mpr ⟨inside, beq_iff_eq.mpr task⟩)

/-- A new batch changes the readiness of a task only where its artifact takes the place of
an older one that was ready. -/
theorem releaseReady_insertRoadmapBatch (ledgered : Ledgered db)
    {input : CreateRoadmapBatchContractInput} {randomUUID : Nat → String}
    (fresh : FreshIds db (.createBatch input now randomUUID)) {taskId : TaskId}
    (keeps : ∀ artifact ∈ input.artifacts, artifact.taskId = taskId →
      (findRoadmapBatchArtifactByTaskId db taskId).any (fun current =>
        roadmapReportArtifactReleaseReady db current && decide (current.createdAt < now)) =
          false) :
    (viewOf (insertRoadmapBatch db input now randomUUID)).releaseReady taskId =
      (viewOf db).releaseReady taskId := by
  let later : List (RoadmapBatchArtifactRow δ) :=
    (newRoadmapArtifacts input now randomUUID).filter (·.taskId == taskId)
  have isNew : ∀ row ∈ later, row.createdAt = now ∧ latestAttempt db row.id = none ∧
      ∃ artifact ∈ input.artifacts, artifact.taskId = taskId := by
    intro row among
    obtain ⟨new, task⟩ := List.mem_filter.mp among
    obtain ⟨index, bound, rfl⟩ := mem_newRoadmapArtifacts new
    refine ⟨rfl, latestAttempt_of_fresh ledgered fun old insideO same => ?_, _,
      List.getElem_mem bound, beq_iff_eq.mp task⟩
    refine fresh.1 (index + 1) bound ?_
    simp only [storedIds, List.mem_append]
    exact .inl (.inl (.inr (List.mem_map.mpr ⟨old, insideO, same⟩)))
  have find' : findRoadmapBatchArtifactByTaskId (insertRoadmapBatch db input now randomUUID)
      taskId = ((db.artifacts.filter (·.taskId == taskId) ++ later).insertionSort
        fun a b => b.createdAt ≤ a.createdAt).head? := by
    rw [findRoadmapBatchArtifactByTaskId, insertRoadmapBatch, List.filter_append]
  have attempts (id : String) :
      latestAttempt (insertRoadmapBatch db input now randomUUID) id = latestAttempt db id :=
    latestAttempt_congr rfl id
  by_cases none_ : later = []
  · refine releaseReady_congr ?_ fun artifact _ => attempts artifact.id
    rw [find', none_, List.append_nil, findRoadmapBatchArtifactByTaskId]
  obtain ⟨row, among⟩ := List.exists_mem_of_ne_nil _ none_
  obtain ⟨age, -, listed⟩ := isNew row among
  obtain ⟨artifact, insideI, ofTask⟩ := listed
  have notReplaced := keeps artifact insideI ofTask
  -- The readiness of whatever is found is that of an old artifact, or none.
  have newNotReady : ∀ row ∈ later, roadmapReportArtifactReleaseReady
      (insertRoadmapBatch db input now randomUUID) row = false := by
    intro row among
    simp [roadmapReportArtifactReleaseReady, latestCurrentRoadmapArtifactAttempt, attempts,
      (isNew row among).2.1]
  cases found : findRoadmapBatchArtifactByTaskId db taskId with
  | none =>
    have noOld : db.artifacts.filter (·.taskId == taskId) = [] := by
      have length := List.length_insertionSort (fun a b => b.createdAt ≤ a.createdAt)
        (db.artifacts.filter (·.taskId == taskId))
      rw [List.head?_eq_none_iff.mp found] at length
      exact List.length_eq_zero_iff.mp length.symm
    simp only [viewOf, found, Option.any_none]
    cases found' : findRoadmapBatchArtifactByTaskId (insertRoadmapBatch db input now randomUUID)
        taskId with
    | none => rfl
    | some row' =>
      rw [find', noOld, List.nil_append] at found'
      have inside := (List.mem_insertionSort _).mp (List.mem_of_mem_head? found')
      rw [Option.any_some, newNotReady row' inside]
  | some current =>
    by_cases younger : now ≤ current.createdAt
    · refine releaseReady_congr ?_ fun artifact _ => attempts artifact.id
      rw [find', found]
      refine Ledger.head?_insertionSort_append (fun a b : RoadmapBatchArtifactRow δ =>
        b.createdAt ≤ a.createdAt) found fun row among => ?_
      rw [(isNew row among).1]
      exact younger
    · have notReady : roadmapReportArtifactReleaseReady db current = false := by
        simpa [found, Nat.not_le.mp younger] using notReplaced
      simp only [viewOf, found, Option.any_some, notReady]
      cases found' : findRoadmapBatchArtifactByTaskId
          (insertRoadmapBatch db input now randomUUID) taskId with
      | none => rfl
      | some row' =>
        rw [Option.any_some]
        have inside := findRoadmapBatchArtifactByTaskId_some found'
        have youngest := findRoadmapBatchArtifactByTaskId_youngest found'
          (List.mem_append_right _ (List.mem_filter.mp among).1)
          (beq_iff_eq.mp (List.mem_filter.mp among).2)
        rcases List.mem_append.mp inside.1 with old | new
        · have older := findRoadmapBatchArtifactByTaskId_youngest found old inside.2
          omega
        · exact newNotReady row' (List.mem_filter.mpr ⟨new, beq_iff_eq.mpr inside.2⟩)

end Ledger

end AifHandoff.Data
