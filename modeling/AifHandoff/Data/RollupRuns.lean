import AifHandoff.Data.RollupView

/-!
Container statuses over whole runs of the data layer.

The status of an open container is the one that its children derive, as long as every
step that changes what the derivation reads also refreshes the container. A step need
not: an artifact update refreshes the ancestors of the batch's synthesis task only, and
a write to the container itself refreshes the tasks above it.
-/

namespace AifHandoff.Data

open Forest Propagation Transition

variable {δ : Type} [ValidationDetails δ]

/-! ### The conditions on the steps -/

section Conditions

variable (db : RoadmapStore δ)

/-- The rollup of the parent asks for the release readiness of the task. -/
def readsReadiness (row : TaskRow) : Bool :=
  row.taskIntent == .audit && (row.status == .blockedExternal || row.manualReviewRequired)

/-- The parent of a task. -/
def parentRow (taskId : TaskId) : Option TaskRow :=
  ((findTaskById db.tasks taskId).bind parentLink).bind (findTaskById db.tasks)

/-- An open container reads the readiness of the task, and is not refreshed with the
synthesis task. -/
def hasUnrefreshedReader (synthesisTaskId : Option TaskId) (taskId : TaskId) : Bool :=
  (findTaskById db.tasks taskId).any readsReadiness &&
    (parentRow db taskId).any fun parent => isOpenContainer parent &&
      !(synthesisTaskId.any (isTaskDescendant db.tasks · parent.id))

/-- An open container closes through the synthesis task of the batch, and is not
refreshed with the deleted task. -/
def hasUnrefreshedCloser (deleted : TaskId) (batch : RoadmapBatchRow) : Bool :=
  batch.taskIntent == .audit && batch.synthesisTaskId.any fun synthesis => synthesis != deleted &&
    (parentRow db synthesis).any fun parent => isOpenContainer parent &&
      effectiveCloseoutPolicy parent == some .synthesisChildVerified &&
      parent.taskIntent == .audit && parent.projectId == batch.projectId &&
      !isTaskDescendant db.tasks deleted parent.id

/-- The step refreshes every container that reads what it changes, or changes nothing for
the container. -/
def refreshesReaders : RollupOp δ → Bool
  | .createTask _ _ _ _ | .claimBacklogTaskForAdvance _ _ _ _ | .blockTaskForRuntimeGate _ _ => true
  | .updateTask id fields now =>
    (findTaskById db.tasks id).all fun task =>
      (resolveUpdateHierarchy db.tasks task fields).toOption.all fun hierarchy =>
        isRolledUp (viewOf db) db.tasks
          (setTaskFields task (updateTaskPatch task fields hierarchy.patch now))
  | .setTaskFields id patch _ =>
    (findTaskById db.tasks id).all fun task =>
      parentLink (setTaskFields task patch) == parentLink task &&
        isRolledUp (viewOf db) db.tasks (setTaskFields task patch)
  | .deleteTask id _ _ =>
    db.batches.all fun batch => !dropsBatch db id batch || !hasUnrefreshedCloser db id batch
  | .createBatch input now _ =>
    input.artifacts.all fun artifact =>
      !hasUnrefreshedReader db input.synthesisTaskId artifact.taskId ||
        !(findRoadmapBatchArtifactByTaskId db artifact.taskId).any fun current =>
          roadmapReportArtifactReleaseReady db current && current.createdAt < now
  | .updateArtifact input _ _ =>
    (findRoadmapBatchArtifactByTaskId db input.taskId).all fun artifact =>
      lacksJustification artifact input ||
        !hasUnrefreshedReader db
          ((findRoadmapBatch db artifact.batchId).bind (·.synthesisTaskId)) input.taskId ||
        releasesReport artifact input == roadmapReportArtifactReleaseReady db artifact

def RefreshesReaders (op : RollupOp δ) : Prop := refreshesReaders db op = true

end Conditions

/-! ### Roadmap steps -/

/-- What every step keeps. -/
structure RollupInv (db : RoadmapStore δ) : Prop where
  linked : Linked db.tasks
  rolled : ∀ y, RolledUp (viewOf db) db.tasks y
  ledgered : Ledgered db

section Roadmap

variable {db db' : RoadmapStore δ} {y : TaskId} {now : Nat}

/-- A container that is not refreshed reads nothing that the step changes. -/
theorem rolledUp_of_readers (db db' : RoadmapStore δ) (inv : RollupInv db) {synthesisTaskId : Option TaskId}
    (notRefreshed : ∀ taskId, synthesisTaskId = some taskId →
      ¬ IsAncestor (linkOf db.tasks) taskId y)
    (ready : ∀ child, hasUnrefreshedReader db synthesisTaskId child = true →
      (viewOf db').releaseReady child = (viewOf db).releaseReady child)
    (batches : ∀ parent, findTaskById db.tasks y = some parent →
      db'.batches.filterMap (synthesisAmong parent (directChildrenOf db.tasks y)) =
        db.batches.filterMap (synthesisAmong parent (directChildrenOf db.tasks y))) :
    RolledUp (viewOf db') db.tasks y := by
  refine (inv.rolled y).of_view inv.linked.named ?_
    fun parent found _ _ _ => batches parent found
  intro parent found open_ child inside link
  obtain ⟨-, named⟩ := findTaskById_some found
  cases reads : readsReadiness child with
  | true =>
    have reader : hasUnrefreshedReader db synthesisTaskId child.id = true := by
      have toParent : parentRow db child.id = some parent := by
        rw [parentRow, findTaskById_of_mem inv.linked.nodup inside, Option.bind_some, link,
          Option.bind_some, found]
      have apart : synthesisTaskId.any (isTaskDescendant db.tasks · parent.id) = false := by
        rw [← Bool.not_eq_true, Option.any_eq_true]
        rintro ⟨taskId, some_, below⟩
        rw [named, isTaskDescendant_iff inv.linked] at below
        exact notRefreshed taskId some_ below
      simp [hasUnrefreshedReader, findTaskById_of_mem inv.linked.nodup inside, reads, toParent,
        open_, apart]
    rw [childBlocksHierarchyRollup, childBlocksHierarchyRollup, ready child.id reader]
  | false =>
    by_cases audit : child.taskIntent = .audit
    · simp only [readsReadiness, audit, beq_self_eq_true, Bool.true_and, Bool.or_eq_false_iff,
        beq_eq_false_iff_ne] at reads
      simp [childBlocksHierarchyRollup, reads]
    · simp [childBlocksHierarchyRollup, audit]

theorem RollupInv.refreshRoadmapBatch (db : RoadmapStore δ) (linked : Linked db.tasks) (ledgered : Ledgered db)
    (batchId : String) (known : ∀ y, (∃ taskId, (findRoadmapBatch db batchId).bind
        (·.synthesisTaskId) = some taskId ∧ IsAncestor (linkOf db.tasks) taskId y) ∨
      RolledUp (viewOf db) db.tasks y) :
    RollupInv (refreshRoadmapBatch db batchId now) := by
  have same := sameTables_refreshRoadmapBatch linked batchId now
  refine ⟨same.linked linked, fun y => ?_, ledgered.congr same.artifacts same.attempts⟩
  rw [same.view]
  exact rolledUp_refreshRoadmapBatch linked batchId now (known y)

theorem RollupInv.refreshAncestors (inv : RollupInv db) (taskId : TaskId) :
    RollupInv (refreshAncestors db taskId now) := by
  have same := sameTables_refreshAncestors db inv.linked taskId now
  refine ⟨same.linked inv.linked, fun y => ?_, inv.ledgered.congr same.artifacts same.attempts⟩
  rw [same.view]
  exact rolledUp_refreshAncestors inv.linked (.inr (inv.rolled y))

theorem rollupInv_updateArtifact {input : RoadmapArtifactStateInput δ} {randomUUID : String}
    (inv : RollupInv db)
    (refreshes : RefreshesReaders db (.updateArtifact input now randomUUID))
    (ok : updateArtifact db input now randomUUID = .ok db') : RollupInv db' := by
  unfold updateArtifact at ok
  split at ok
  · cases ok
  next done =>
    cases found : findRoadmapBatchArtifactByTaskId db input.taskId with
    | none =>
      rw [found] at ok
      cases ok
      exact inv
    | some artifact =>
      rw [found] at ok
      cases ok
      have justified : lacksJustification artifact input = false := by
        by_contra lacks
        simp [updateRoadmapBatchArtifactState, found, Bool.eq_true_of_not_eq_false lacks] at done
      have inside := (findRoadmapBatchArtifactByTaskId_some found).1
      refine RollupInv.refreshRoadmapBatch (recordAttempt db artifact input now randomUUID)
        inv.linked (ledgered_recordAttempt inv.ledgered inside input now randomUUID) _ fun y => ?_
      by_cases refreshed : ∃ taskId, (findRoadmapBatch db artifact.batchId).bind
          (·.synthesisTaskId) = some taskId ∧ IsAncestor (linkOf db.tasks) taskId y
      · exact .inl refreshed
      right
      refine rolledUp_of_readers db _ inv (fun taskId some_ above => refreshed ⟨taskId, some_, above⟩)
        (fun child reader => ?_) fun _ _ => rfl
      rw [releaseReady_recordAttempt inv.ledgered found]
      split
      next own =>
        subst own
        have same : releasesReport artifact input = roadmapReportArtifactReleaseReady db artifact := by
          simpa [RefreshesReaders, refreshesReaders, found, justified, reader] using refreshes
        rw [same]
        simp [viewOf, found]
      next => rfl

theorem rollupInv_createBatch {input : CreateRoadmapBatchContractInput}
    {randomUUID : Nat → String} (inv : RollupInv db)
    (refreshes : RefreshesReaders db (.createBatch input now randomUUID))
    (fresh : FreshIds db (.createBatch input now randomUUID))
    (ok : createBatch db input now randomUUID = .ok db') : RollupInv db' := by
  let inserted := insertRoadmapBatch db input now randomUUID
  have foundBatch : findRoadmapBatch inserted (randomUUID 0) =
      some (newRoadmapBatch input now randomUUID) := by
    have unused : findRoadmapBatch db (randomUUID 0) = none := by
      refine List.find?_eq_none.mpr fun batch inside => ?_
      rw [beq_iff_eq]
      intro same
      refine fresh.1 0 (Nat.zero_le _) ?_
      simp only [storedIds, List.mem_append]
      exact .inl (.inl (.inl (List.mem_map.mpr ⟨batch, inside, same⟩)))
    have isNew : ([newRoadmapBatch input now randomUUID].find? (·.id == randomUUID 0)) =
        some (newRoadmapBatch input now randomUUID) := by
      simp [newRoadmapBatch]
    rw [findRoadmapBatch] at unused
    simp only [inserted, findRoadmapBatch, insertRoadmapBatch, List.find?_append, unused, isNew,
      Option.none_or]
  have refreshed : RollupInv (refreshRoadmapBatch inserted (randomUUID 0) now) := by
    refine RollupInv.refreshRoadmapBatch inserted inv.linked
      (ledgered_insertRoadmapBatch inv.ledgered fresh) _ fun y => ?_
    rw [foundBatch, Option.bind_some]
    by_cases refreshed : ∃ taskId, input.synthesisTaskId = some taskId ∧
        IsAncestor (linkOf db.tasks) taskId y
    · exact .inl refreshed
    right
    refine rolledUp_of_readers db inserted inv (fun taskId some_ above => refreshed ⟨taskId, some_, above⟩)
      (fun child reader => ?_) fun parent found => ?_
    · refine releaseReady_insertRoadmapBatch inv.ledgered fresh fun artifact inside ofTask => ?_
      have kept := List.all_eq_true.mp refreshes artifact inside
      rw [ofTask, reader] at kept
      simpa using kept
    · -- The new batch closes a parent of its synthesis task only.
      have noneAmong : synthesisAmong parent (directChildrenOf db.tasks y)
          (newRoadmapBatch input now randomUUID) = none := by
        unfold synthesisAmong
        split
        · rw [Option.filter_eq_none_iff]
          intro taskId some_ among
          obtain ⟨child, listed, same⟩ := List.any_eq_true.mp among
          obtain ⟨insideP, named⟩ := findTaskById_some found
          have named' : y ≠ "" := named ▸ inv.linked.named parent insideP
          obtain ⟨insideC, toParent⟩ := (mem_directChildrenOf_link named').mp listed
          refine refreshed ⟨taskId, some_, 0, .link ?_ (.self y)⟩
          rw [← beq_iff_eq.mp same, linkOf_of_mem inv.linked.nodup insideC]
          exact toParent
        · rfl
      simp only [inserted, insertRoadmapBatch, List.filterMap_append, List.filterMap_cons, noneAmong,
        List.filterMap_nil, List.append_nil]
  unfold createBatch at ok
  split at ok
  · cases ok
  · dsimp only at ok
    split at ok
    · cases ok
      exact refreshed
    · cases ok
      exact refreshed.refreshAncestors _

end Roadmap

/-! ### Steps on one task -/

section Tasks

variable {db db' : RoadmapStore δ} {id y : TaskId} {now : Nat}

/-- A statement about one leaf. -/
theorem rolledUp_updateWhere {store : TaskStore} (context : RollupContext)
    {condition : TaskRow → Bool} {patch : TaskFieldsPatch} (linked : Linked store)
    (named : ∀ row, condition row = true → row.id = id)
    (leaf : ∀ row, condition row = true → row.hierarchyRole ≠ .container)
    (keepsRole : ∀ row : TaskRow, (row.set patch).hierarchyRole = row.hierarchyRole)
    (keepsParent : ∀ row : TaskRow, (row.set patch).parentTaskId = row.parentTaskId)
    (rolled : ∀ y, RolledUp context.view store y) :
    Linked (updateWhere store condition patch) ∧ ∀ y, RolledUp context.view
      (refreshAncestorRollups context (updateWhere store condition patch) id) y := by
  let write (row : TaskRow) : TaskRow := if condition row then row.set patch else row
  have byId : updateWhere store condition patch = updateWhereId store id write := by
    refine List.map_congr_left fun row _ => ?_
    by_cases holds : condition row = true
    · rw [if_pos (named row holds)]
    · simp [write, holds]
  rw [byId]
  refine rolledUp_setTaskFields context write linked (fun row => ?_) (fun row _ _ => ?_) (fun row found => ?_)
    rolled
  · simp only [write]
    split <;> rfl
  · simp only [write]
    split
    · rw [parentLink, keepsParent, parentLink]
    · rfl
  · simp only [write]
    split
    next holds =>
      have stays : (row.set patch).hierarchyRole ≠ .container := keepsRole row ▸ leaf row holds
      simp only [isRolledUp, bne_iff_ne.mpr stays, Bool.true_or]
    next => exact rolled id row found

theorem updateWhere_of_not_changes {store : TaskStore} {condition : TaskRow → Bool}
    (patch : TaskFieldsPatch) (none_ : changesRows store condition = false) :
    updateWhere store condition patch = store := by
  by_contra changed
  obtain ⟨row, inside, holds⟩ := exists_of_updateWhere_ne changed
  have some_ : changesRows store condition = true := List.any_eq_true.mpr ⟨row, inside, holds⟩
  rw [none_] at some_
  cases some_

theorem rollupInv_updateWhere (id : TaskId) (condition : TaskRow → Bool) (patch : TaskFieldsPatch)
    (now : Nat) (inv : RollupInv db) (named : ∀ row, condition row = true → row.id = id)
    (leaf : ∀ row, condition row = true → row.hierarchyRole ≠ .container)
    (keepsRole : ∀ row : TaskRow, (row.set patch).hierarchyRole = row.hierarchyRole)
    (keepsParent : ∀ row : TaskRow, (row.set patch).parentTaskId = row.parentTaskId) :
    RollupInv (if changesRows db.tasks condition then
        refreshAncestors { db with tasks := updateWhere db.tasks condition patch } id now
      else { db with tasks := updateWhere db.tasks condition patch }) := by
  cases changes : changesRows db.tasks condition with
  | true =>
    rw [if_pos rfl]
    obtain ⟨linked, rolled⟩ := rolledUp_updateWhere (rollupContext db now) inv.linked named
      leaf keepsRole keepsParent inv.rolled
    exact ⟨(Keeps.linked keeps_refreshAncestorRollups linked).1, rolled,
      inv.ledgered.congr rfl rfl⟩
  | false =>
    rw [if_neg Bool.false_ne_true, updateWhere_of_not_changes patch changes]
    exact inv

theorem rollupInv_claimBacklogTaskForAdvance {localeCompare : String → String → Int}
    {targetStatus : TaskStatus} (inv : RollupInv db) :
    RollupInv (claimBacklogTaskForAdvance db localeCompare id targetStatus now).1 := by
  unfold claimBacklogTaskForAdvance
  split
  · exact inv
  · have leaf : ∀ row, isAdvanceable id row = true →
        row.id = id ∧ row.hierarchyRole ≠ .container := by
      intro row advanceable
      simp only [isAdvanceable, Bool.and_eq_true, beq_iff_eq, bne_iff_ne] at advanceable
      exact ⟨advanceable.1.1.1, advanceable.1.2⟩
    have kept := rollupInv_updateWhere id (isAdvanceable id) (advancePatch targetStatus now) now inv
      (fun row holds => (leaf row holds).1) (fun row holds => (leaf row holds).2) (fun _ => rfl)
      fun _ => rfl
    dsimp only
    split
    next changes => rwa [if_pos changes] at kept
    next same => rwa [if_neg same] at kept

theorem rollupInv_blockForRuntimeGate {input : RuntimeGateBlock} (inv : RollupInv db) :
    RollupInv (blockForRuntimeGate db input now).1 := by
  have leaf : ∀ row, isGateEligible input now row = true →
      row.id = input.taskId ∧ row.hierarchyRole ≠ .container := by
    intro row eligible
    simp only [isGateEligible, Bool.and_eq_true, beq_iff_eq, bne_iff_ne] at eligible
    exact ⟨eligible.1.1.1.1.1.1, eligible.1.1.1.1.2⟩
  have kept := rollupInv_updateWhere input.taskId (isGateEligible input now)
    { status := some .blockedExternal
      blockedFromStatus := some (some input.blockedFromStatus)
      blockedReason := some (some input.blockedReason)
      retryAfter := some input.retryAfter
      retryCount := some input.retryCount
      updatedAt := some now } now inv (fun row holds => (leaf row holds).1)
    (fun row holds => (leaf row holds).2) (fun _ => rfl) fun _ => rfl
  unfold blockForRuntimeGate blockTaskForRuntimeGateIfEligible
  dsimp only
  split
  next changes => rwa [if_pos changes] at kept
  next same => rwa [if_neg same] at kept

theorem rollupInv_setTaskFields {patch : TaskFieldsPatch} (inv : RollupInv db)
    (refreshes : RefreshesReaders db (.setTaskFields id patch now)) :
    RollupInv (setTaskFieldsById db id patch now) := by
  have agrees : ∀ row, findTaskById db.tasks id = some row →
      parentLink (setTaskFields row patch) = parentLink row ∧
        isRolledUp (viewOf db) db.tasks (setTaskFields row patch) = true := by
    intro row found
    simpa [RefreshesReaders, refreshesReaders, found] using refreshes
  have keepsLink : ∀ row ∈ db.tasks, row.id = id →
      parentLink (setTaskFields row patch) = parentLink row := by
    rintro row inside rfl
    exact (agrees row (findTaskById_of_mem inv.linked.nodup inside)).1
  obtain ⟨linked, rolled⟩ := rolledUp_setTaskFields (rollupContext db now) (setTaskFields · patch)
    inv.linked (fun row => rfl) keepsLink (fun row found => (agrees row found).2) inv.rolled
  exact ⟨(Keeps.linked keeps_refreshAncestorRollups linked).1, rolled, inv.ledgered.congr rfl rfl⟩

theorem rollupInv_updateTask {fields : TaskFieldsUpdate} {tasks : TaskStore} (inv : RollupInv db)
    (refreshes : RefreshesReaders db (.updateTask id fields now))
    (ok : updateTask (rollupContext db now) id fields db.tasks = .ok tasks) :
    RollupInv { db with tasks } := by
  have agrees : ∀ task hierarchy, findTaskById db.tasks id = some task →
      resolveUpdateHierarchy db.tasks task fields = .ok hierarchy → isRolledUp (viewOf db) db.tasks
        (setTaskFields task (updateTaskPatch task fields hierarchy.patch now)) = true := by
    intro task hierarchy found resolved
    simpa [RefreshesReaders, refreshesReaders, found, resolved, Except.toOption] using refreshes
  obtain ⟨linked, rolled⟩ := rolledUp_updateTask inv.linked ok agrees inv.rolled
  exact ⟨linked, rolled, inv.ledgered.congr rfl rfl⟩

theorem rollupInv_createTask {agentMaxReviewIterations : Nat} {input : CreateTaskInput}
    {tasks : TaskStore} (inv : RollupInv db) (named : id ≠ "")
    (ok : createTask (rollupContext db now) agentMaxReviewIterations id input db.tasks =
      .ok tasks) : RollupInv { db with tasks } := by
  obtain ⟨linked, rolled⟩ := rolledUp_createTask inv.linked named ok inv.rolled
  exact ⟨linked, rolled, inv.ledgered.congr rfl rfl⟩

end Tasks

/-! ### Deletions -/

section Deletion

variable {db db' : RoadmapStore δ} {id y : TaskId} {now : Nat}

omit [ValidationDetails δ] in
/-- The attempts at the artifact of another task. -/
theorem attempts_removeTask (ledgered : Ledgered db) {artifact : RoadmapBatchArtifactRow δ}
    (inside : artifact ∈ db.artifacts) (other : artifact.taskId ≠ id) :
    (removeTask db id now).attempts.filter (·.artifactId == artifact.id) =
      db.attempts.filter (·.artifactId == artifact.id) := by
  rw [removeTask, List.filter_filter]
  refine List.filter_congr fun attempt among => ?_
  rw [Bool.and_eq_left_iff_imp, beq_iff_eq, decide_eq_true_eq]
  intro ofArtifact
  obtain ⟨row, insideR, sameId, sameTask⟩ := ledgered.attached attempt among
  have sameRow := List.inj_on_of_nodup_map ledgered.artifactIds insideR inside
    (sameId.trans ofArtifact)
  rw [← sameTask, sameRow]
  exact other

omit [ValidationDetails δ] in
theorem ledgered_removeTask (ledgered : Ledgered db) : Ledgered (removeTask db id now) := by
  refine ⟨?_, ?_, ?_⟩
  · exact ledgered.artifactIds.sublist (List.filter_sublist.map _)
  · intro artifact inside
    obtain ⟨inside', other⟩ := List.mem_filter.mp inside
    rw [maxAttemptNumber, Ledger.largest,
      attempts_removeTask ledgered inside' (by simpa using other)]
    exact ledgered.numbered artifact inside'
  · intro attempt inside
    obtain ⟨inside', other⟩ := List.mem_filter.mp inside
    obtain ⟨artifact, insideA, ofArtifact, ofTask⟩ := ledgered.attached attempt inside'
    refine ⟨artifact, List.mem_filter.mpr ⟨insideA, ?_⟩, ofArtifact, ofTask⟩
    rw [ofTask]
    exact other

theorem releaseReady_removeTask (ledgered : Ledgered db) {taskId : TaskId} (other : taskId ≠ id) :
    (viewOf (removeTask db id now)).releaseReady taskId = (viewOf db).releaseReady taskId := by
  refine releaseReady_congr ?_ fun artifact found => ?_
  · unfold findRoadmapBatchArtifactByTaskId removeTask
    dsimp only
    rw [List.filter_filter]
    congr 2
    refine List.filter_congr fun row _ => ?_
    rw [Bool.and_eq_left_iff_imp, beq_iff_eq, decide_eq_true_eq]
    rintro rfl
    exact other
  · obtain ⟨inside, ofTask⟩ := findRoadmapBatchArtifactByTaskId_some found
    rw [latestAttempt_eq, latestAttempt_eq, Ledger.newest, Ledger.newest, Ledger.entriesOf,
      Ledger.entriesOf, attempts_removeTask ledgered inside (ofTask ▸ other)]

omit [ValidationDetails δ] in
/-- Unless a batch is dropped, its synthesis task stays among the children. -/
theorem synthesisAmong_removeTask {parent : TaskRow} {children : List TaskRow}
    (apart : ∀ child ∈ children, child.id ≠ id)
    (kept : ∀ batch ∈ db.batches, dropsBatch db id batch = true →
      synthesisAmong parent children batch = none) :
    (removeTask db id now).batches.filterMap (synthesisAmong parent children) =
      db.batches.filterMap (synthesisAmong parent children) := by
  have forgets (batch : RoadmapBatchRow) : synthesisAmong parent children
      (forgetTask db id now batch) = synthesisAmong parent children batch := by
    unfold forgetTask
    split
    · unfold synthesisAmong
      dsimp only
      split
      · rw [Option.filter_filter]
        refine congrArg (Option.filter · batch.synthesisTaskId) ?_
        funext taskId
        rw [Bool.and_eq_right_iff_imp, List.any_eq_true, decide_eq_true_eq]
        rintro ⟨child, listed, same⟩ rfl
        exact apart child listed (beq_iff_eq.mp same)
      · rfl
    · rfl
  rw [removeTask, List.filterMap_map, List.filterMap_filter]
  refine List.filterMap_congr fun batch inside => ?_
  cases drops : dropsBatch db id batch with
  | true => simpa [drops] using (kept batch inside drops).symm
  | false => simpa [drops] using forgets batch

theorem isAncestor_remove {store : TaskStore} {x : TaskId}
    (childless : ∀ other, linkOf store other ≠ some id) (other : x ≠ id)
    (above : IsAncestor (linkOf store) x y) :
    IsAncestor (linkOf (store.filter (·.id ≠ id))) x y := by
  have links : ∀ other ≠ id, linkOf (store.filter (·.id ≠ id)) other = linkOf store other := by
    intro other ne
    rw [linkOf, linkOf, findTaskById, findTaskById, List.find?_filter]
    congr 2
    funext row
    rw [Bool.eq_iff_iff, decide_eq_true_eq, decide_eq_true_eq, beq_iff_eq]
    refine and_iff_right_of_imp ?_
    rintro rfl
    exact ne
  obtain ⟨n, above⟩ := above
  refine ⟨n, ?_⟩
  generalize n + 1 = length at above
  induction above with
  | self => exact .self _
  | @link x p _ n toParent _ ih =>
    refine .link ((links x other).trans toParent) (ih ?_)
    rintro rfl
    exact childless x toParent

theorem foldl_refreshRoadmapBatch (linked : Linked db.tasks) (batchIds : List String) (now : Nat) :
    SameTables db (batchIds.foldl (refreshRoadmapBatch · · now) db) ∧
      ∀ y, RolledUp (viewOf db) db.tasks y →
        RolledUp (viewOf db) (batchIds.foldl (refreshRoadmapBatch · · now) db).tasks y := by
  induction batchIds generalizing db with
  | nil => exact ⟨⟨id, rfl, rfl, rfl, rfl⟩, fun _ rolled => rolled⟩
  | cons batchId batchIds ih =>
    have same := sameTables_refreshRoadmapBatch linked batchId now
    obtain ⟨rest, kept⟩ := ih (same.linked linked)
    refine ⟨same.trans rest, fun y rolled => ?_⟩
    have first := rolledUp_refreshRoadmapBatch linked batchId now (.inr rolled)
    rw [List.foldl_cons, ← same.view]
    refine kept y ?_
    rw [same.view]
    exact first

theorem rollupInv_deleteTask {allowAttachedChild : Bool} (inv : RollupInv db)
    (refreshes : RefreshesReaders db (.deleteTask id allowAttachedChild now))
    (ok : deleteTask db id allowAttachedChild now = .ok db') : RollupInv db' := by
  unfold deleteTask at ok
  split at ok
  · cases ok
    exact inv
  next existing found =>
    obtain ⟨inside, named⟩ := findTaskById_some found
    have namedId : id ≠ "" := named ▸ inv.linked.named existing inside
    split at ok
    · cases ok
    next leaf =>
      split at ok
      · cases ok
      cases ok
      have childless : ∀ row ∈ db.tasks, parentLink row ≠ some id := by
        intro row insideR link
        exact leaf (directChildCount_pos.mpr ⟨row, insideR, (parentLink_some link).1⟩)
      have childless' : ∀ other, linkOf db.tasks other ≠ some id := by
        intro other link
        obtain ⟨row, insideR, -, toId⟩ := linkOf_some link
        exact childless row insideR toId
      have linkedR : Linked (removeTask db id now).tasks := inv.linked.remove childless
      -- What the deletion leaves of a task that is not above the deleted one.
      have removed : ∀ y, ¬ IsAncestor (linkOf db.tasks) id y →
          RolledUp (viewOf (removeTask db id now)) (removeTask db id now).tasks y := by
        intro y notAbove
        have rolled : RolledUp (viewOf db) (removeTask db id now).tasks y :=
          (inv.rolled y).remove inv.linked fun link => notAbove ⟨0, .link link (.self y)⟩
        refine rolled.of_view linkedR.named ?_ ?_
        · intro parent _ _ child insideC _
          have other : child.id ≠ id := by simpa using (List.mem_filter.mp insideC).2
          rw [childBlocksHierarchyRollup, childBlocksHierarchyRollup,
            releaseReady_removeTask inv.ledgered other]
        · intro parent foundP open_ closes audit
          refine synthesisAmong_removeTask (fun child listed => ?_) fun batch insideB drops => ?_
          · have insideC := (mem_directChildrenOf.mp listed).1
            simpa using (List.mem_filter.mp insideC).2
          · -- A batch that is dropped closes no container that is left unrefreshed.
            obtain ⟨insideP, namedP⟩ := findTaskById_some foundP
            have insideP' : parent ∈ db.tasks := (List.mem_filter.mp insideP).1
            have namedY : y ≠ "" := namedP ▸ inv.linked.named parent insideP'
            have notCloser : hasUnrefreshedCloser db id batch = false := by
              have all := List.all_eq_true.mp refreshes batch insideB
              simpa [drops] using all
            by_contra some_
            obtain ⟨synthesis, among⟩ := Option.ne_none_iff_exists'.mp some_
            unfold synthesisAmong at among
            split at among
            next sameBatch =>
              obtain ⟨isSynthesis, listed⟩ := Option.filter_eq_some_iff.mp among
              obtain ⟨child, listed, same⟩ := List.any_eq_true.mp listed
              obtain ⟨insideC, link⟩ := (mem_directChildrenOf_link namedY).mp listed
              obtain ⟨insideC, other⟩ := List.mem_filter.mp insideC
              have toParent : parentRow db synthesis = some parent := by
                rw [← beq_iff_eq.mp same, parentRow, findTaskById_of_mem inv.linked.nodup insideC,
                  Option.bind_some, link, Option.bind_some, ← namedP]
                exact findTaskById_of_mem inv.linked.nodup insideP'
              have apart : isTaskDescendant db.tasks id parent.id = false := by
                rw [← Bool.not_eq_true, isTaskDescendant_iff inv.linked, namedP]
                exact notAbove
              have different : synthesis ≠ id := by
                rw [← beq_iff_eq.mp same]
                simpa using other
              have closer : hasUnrefreshedCloser db id batch = true := by
                simp [hasUnrefreshedCloser, sameBatch, isSynthesis, different, toParent, open_,
                  closes, audit, apart]
              rw [notCloser] at closer
              cases closer
            next => cases among
      obtain ⟨same, kept⟩ := foldl_refreshRoadmapBatch linkedR (batchesToRefresh db id) now
      have linkedF := same.linked linkedR
      refine ⟨(Keeps.linked (keeps_refreshRollupsForParents _) linkedF).1, fun y => ?_,
        (ledgered_removeTask inv.ledgered).congr same.artifacts same.attempts⟩
      refine rolledUp_refreshRollupsForParents linkedF _ ?_
      by_cases above : IsAncestor (linkOf db.tasks) id y
      · left
        obtain ⟨n, path⟩ := above
        cases path with
        | @link _ p _ _ toParent rest =>
          have isParent := toParent
          rw [linkOf, found, Option.bind_some] at isParent
          obtain ⟨is, namedP⟩ := parentLink_some isParent
          refine ⟨p, by simp [is], namedP, ?_⟩
          have other : p ≠ id := fun self => inv.linked.not_own_child id (self ▸ toParent)
          rcases (isAncestor_iff toParent).mp ⟨n, .link toParent rest⟩ with self | ancestor
          · exact .inl self
          · right
            rw [same.links]
            exact isAncestor_remove childless' other ancestor
      · right
        have rolled := kept y (removed y above)
        rw [← same.view] at rolled
        exact rolled

end Deletion

/-! ### Runs -/

theorem map_eq_ok {ε α β : Type} {x : Except ε α} {f : α → β} {b : β} (ok : x.map f = .ok b) :
    ∃ a, x = .ok a ∧ f a = b := by
  cases x with
  | error => cases ok
  | ok a =>
    cases ok
    exact ⟨a, rfl, rfl⟩

theorem rollupInv_step {db db' : RoadmapStore δ} {op : RollupOp δ} (inv : RollupInv db)
    (refreshes : RefreshesReaders db op) (step : rollupSystem.step db op db') : RollupInv db' := by
  obtain ⟨fresh, ok⟩ := step
  cases op with
  | createTask agentMaxReviewIterations id input now =>
    obtain ⟨tasks, done, rfl⟩ := map_eq_ok ok
    exact rollupInv_createTask inv fresh done
  | updateTask id fields now =>
    obtain ⟨tasks, done, rfl⟩ := map_eq_ok ok
    exact rollupInv_updateTask inv refreshes done
  | deleteTask id allowAttachedChild now => exact rollupInv_deleteTask inv refreshes ok
  | setTaskFields id patch now =>
    cases ok
    exact rollupInv_setTaskFields inv refreshes
  | claimBacklogTaskForAdvance localeCompare taskId targetStatus now =>
    cases ok
    exact rollupInv_claimBacklogTaskForAdvance inv
  | blockTaskForRuntimeGate input now =>
    cases ok
    exact rollupInv_blockForRuntimeGate inv
  | createBatch input now randomUUID => exact rollupInv_createBatch inv refreshes fresh ok
  | updateArtifact input now randomUUID => exact rollupInv_updateArtifact inv refreshes ok

theorem rollupInv_of_reaches {db : RoadmapStore δ} (reached : Reaches rollupSystem RefreshesReaders db) :
    RollupInv db := by
  refine reached.invariant ?_ fun _ _ _ inv refreshes step => rollupInv_step inv refreshes step
  rintro _ rfl
  refine ⟨⟨List.nodup_nil, by simp, by simp, ?_⟩, ?_, List.nodup_nil, by simp, by simp⟩
  · rintro x n cycle
    cases cycle with
    | link toParent _ => cases toParent
  · rintro y row found
    cases found

/-- In every run whose steps refresh what reads them, an open container with children has
the status that they derive. -/
theorem rolledUp_of_reaches {db : RoadmapStore δ} (reached : Reaches rollupSystem RefreshesReaders db)
    {row : TaskRow} (inside : row ∈ db.tasks) (container : row.hierarchyRole = .container)
    (open_ : row.status ≠ .verified) (children : directChildrenOf db.tasks row.id ≠ []) :
    row.status = computeParentRollupStatus (viewOf db) row (directChildrenOf db.tasks row.id) := by
  have inv := rollupInv_of_reaches reached
  have rolled := inv.rolled row.id row (findTaskById_of_mem inv.linked.nodup inside)
  simpa [isRolledUp, container, open_, children] using rolled

/-! ### Two runs -/

section Runs

def runRollup (db : RoadmapStore δ) (op : RollupOp δ) : RoadmapStore δ :=
  (callRollup db op).toOption.getD db

/-- The call succeeds, with new ids. -/
def succeeds (db : RoadmapStore δ) (op : RollupOp δ) : Bool :=
  decide (DrawsFresh db op) && (callRollup db op).toOption.isSome

theorem step_runRollup {db : RoadmapStore δ} {op : RollupOp δ} (done : succeeds db op = true) :
    rollupSystem.step db op (runRollup db op) := by
  obtain ⟨fresh, some_⟩ := (Bool.and_eq_true _ _).mp done
  refine ⟨of_decide_eq_true fresh, ?_⟩
  unfold runRollup
  cases result : callRollup db op with
  | error => simp [result, Except.toOption] at some_
  | ok => rfl

/-- A container and the report task below it, with its batch; the task is blocked. -/
def blockedReport : List (RollupOp NoDetails) :=
  [.createTask 3 "container"
      { projectId := "project", taskIntent := some .audit, hierarchyRole := some .container } 0,
    .createTask 3 "report"
      { projectId := "project", taskIntent := some .audit, parentTaskId := some "container" } 1,
    .createBatch
      { projectId := "project"
        roadmapAlias := "audit"
        taskIntent := .audit
        executionPolicy := "serialized_shared_checkout"
        createdTaskIds := ["report"]
        artifacts := [{ taskId := "report", role := .report, artifactPath := "audit/report.md" }] }
      2 fun index => if index = 0 then "batch" else "artifact",
    .setTaskFields "report" { status := some .blockedExternal } 3]

/-- The report ends inconclusive, and is settled. -/
def settleReport : RollupOp NoDetails :=
  .updateArtifact
    { taskId := "report", state := .sourceInconclusive
      reworkStatus := some .terminalInconclusive } 4 "unused"

/-- The container is blocked with its child. -/
theorem rolledUp_of_blockedReport :
    ∃ row ∈ (blockedReport.foldl runRollup {}).tasks, row.status = .blockedExternal ∧
      row.status = computeParentRollupStatus (viewOf (blockedReport.foldl runRollup {})) row
        (directChildrenOf (blockedReport.foldl runRollup {}).tasks row.id) := by
  have reached : Reaches rollupSystem RefreshesReaders (blockedReport.foldl runRollup {}) := by
    refine reaches_runs (fun db op => succeeds db op && refreshesReaders db op) runRollup
      (fun db op checked => ?_) (.init rfl) (by decide)
    obtain ⟨done, refreshes⟩ := (Bool.and_eq_true _ _).mp checked
    exact ⟨refreshes, step_runRollup done⟩
  have family : ∃ row ∈ (blockedReport.foldl runRollup {}).tasks, row.status = .blockedExternal ∧
      row.hierarchyRole = .container ∧ row.status ≠ .verified ∧
      directChildrenOf (blockedReport.foldl runRollup {}).tasks row.id ≠ [] := by decide
  obtain ⟨row, inside, blocked, container, open_, children⟩ := family
  exact ⟨row, inside, blocked, rolledUp_of_reaches reached inside container open_ children⟩

/-- A settled report blocks its parent no more, and its parent stays blocked. -/
theorem released_report_leaves_parent_blocked :
    ¬ ∀ db : RoadmapStore NoDetails, Reachable rollupSystem db → ∀ row ∈ db.tasks,
      row.hierarchyRole = .container → row.status ≠ .verified →
      directChildrenOf db.tasks row.id ≠ [] →
        row.status = computeParentRollupStatus (viewOf db) row (directChildrenOf db.tasks row.id) := by
  intro rolled
  let db := (blockedReport ++ [settleReport]).foldl runRollup {}
  have reached : Reachable rollupSystem db :=
    reaches_runs succeeds runRollup (fun _ _ done => ⟨trivial, step_runRollup done⟩) (.init rfl)
      (by decide)
  have family : ∃ row ∈ db.tasks, row.hierarchyRole = .container ∧ row.status ≠ .verified ∧
      directChildrenOf db.tasks row.id ≠ [] ∧ row.status ≠ computeParentRollupStatus (viewOf db) row
        (directChildrenOf db.tasks row.id) := by decide
  obtain ⟨row, inside, container, open_, children, differs⟩ := family
  exact differs (rolled db reached row inside container open_ children)

end Runs

end AifHandoff.Data
