import AifHandoff.Api.OperatorEvidence
import AifHandoff.Data.ActivityLog
import AifHandoff.Data.RollupFrame
import AifHandoff.Data.RollupView
import AifHandoff.Data.StageArtifacts
import AifHandoff.Shared.StateMachine

/-!
Operator-verified completion (`handleOperatorVerifiedCompletion` of
`api/services/operatorVerifiedCompletion.ts`).

The operator closes a task with a commit. The request is checked against the task, the commit,
the audit evidence and the implementation manifest; a rejection is logged. The artifact of an
audit is written before the manifest is checked.

What is read from JSON columns, the audit evidence and the checks of the manifest that look at
no path are left open (`CloseoutEnv`).
-/

namespace AifHandoff.Api.OperatorCompletion

open Data Shared StateMachine StageArtifacts Forest Propagation
open Shared.CompletionEvidence (GitCommands)
open Shared.Manifest (codeUnitOrder)

/-! ### The request and its evidence -/

structure OperatorCompletionVerification where
  command : String
  outputPreview : String
  outputSha256 : String
  deriving DecidableEq

structure OperatorVerifiedCompletionInput where
  taskId : TaskId
  commitSha : String
  changedFiles : List String
  verification : List OperatorCompletionVerification
  worktreeClean : Bool
  operatorNote : Option String
  allowBlockerOverride : Bool
  blockerOverrideJustification : Option String

/-- The evidence of a task with all that is stored of it. -/
structure AcceptedEvidence extends OperatorCompletionEvidence where
  taskId : TaskId
  verification : List OperatorCompletionVerification
  dirtyUnrelatedFiles : List String
  operatorNote : Option String
  overriddenBlockers : List String
  blockerOverrideJustification : Option String
  acceptedAt : String

def isUsefulString (value : String) : Bool := !(Text.trim value).isEmpty

/-- `/^[a-f0-9]{n}$/i`. -/
def isHex (n : Nat) (value : String) : Bool :=
  value.toList.length == n && value.toList.all fun c =>
    ('0' ≤ c && c ≤ '9') || ('a' ≤ c && c ≤ 'f') || ('A' ≤ c && c ≤ 'F')

def isValidOperatorCompletionVerification (verification : OperatorCompletionVerification) : Bool :=
  isUsefulString verification.command && isUsefulString verification.outputPreview &&
    isHex 64 verification.outputSha256

theorem sortedSet_ne_nil {order : Collation String} {xs : List String} (some_ : xs ≠ []) :
    sortedSet order xs ≠ [] := by
  obtain ⟨x, inside⟩ := List.exists_mem_of_ne_nil xs some_
  exact List.ne_nil_of_mem (mem_sortedSet.mpr inside)

def coerceStringArray (order : Collation String) (values : List String) : List String :=
  sortedSet order ((values.map Text.trim).filter (!·.isEmpty))

/-- `coerceOperatorCompletionEvidence` of a request. -/
def coerceOperatorCompletionEvidence (order : Collation String)
    (input : OperatorVerifiedCompletionInput) (overriddenBlockers : List String)
    (blockerOverrideJustification : Option String) (acceptedAt : String) :
    Option AcceptedEvidence :=
  let changedFiles := ((input.changedFiles.filter isUsefulString).map
    normalizeOperatorCompletionPath).filter (!·.isEmpty)
  if declares : changedFiles ≠ [] then
    if isUsefulString input.taskId && isHex 40 input.commitSha && input.worktreeClean &&
        isUsefulString acceptedAt && changedFiles.length == input.changedFiles.length &&
        !input.verification.isEmpty &&
        input.verification.all isValidOperatorCompletionVerification then
      some {
        commitSha := Text.trim input.commitSha
        changedFiles := sortedSet order changedFiles
        declares := sortedSet_ne_nil declares
        taskId := Text.trim input.taskId
        verification := input.verification
        dirtyUnrelatedFiles := []
        operatorNote := input.operatorNote
        overriddenBlockers := coerceStringArray order overriddenBlockers
        blockerOverrideJustification := blockerOverrideJustification.map Text.trim
        acceptedAt }
    else none
  else none

/-- The value whose JSON is the fingerprint. -/
structure EvidenceFingerprint where
  blockerOverrideJustification : Option String
  changedFiles : List String
  commitSha : String
  overriddenBlockers : List String
  taskId : TaskId
  verification : List (String × String)
  deriving DecidableEq

def stableOperatorEvidenceFingerprint (casing : Text.LowerCasing) (order : Collation String)
    (evidence : AcceptedEvidence) : EvidenceFingerprint where
  blockerOverrideJustification :=
    (evidence.blockerOverrideJustification.map Text.trim).filter (!·.isEmpty)
  changedFiles := ((evidence.changedFiles.map normalizeOperatorCompletionPath).filter
    (!·.isEmpty)).mergeSort order.le
  commitSha := casing.toLowerCase evidence.commitSha
  overriddenBlockers := evidence.overriddenBlockers.mergeSort order.le
  taskId := evidence.taskId
  verification := (evidence.verification.map fun entry =>
      (Text.trim entry.command, casing.toLowerCase entry.outputSha256)).mergeSort fun left right =>
    order.le left.1 right.1 && (!order.le right.1 left.1 || order.le left.2 right.2)

/-! ### The tables and what is read beside them -/

/-- Columns of a task that no other module has. -/
structure CloseoutColumns where
  skipReview : Bool
  implementationManifestJson : Option String
  agentActivityLog : Option String

structure CloseoutStore (δ : Type) where
  db : RoadmapStore δ
  columns : TaskId → CloseoutColumns
  stage : Tables

/-- An agent guardrail event, as it is logged and recorded. -/
structure GuardrailRecord where
  line : String
  reasonCode : String
  artifactPath : Option String
  metadata : Metadata

/-- What the check of the audit evidence answers. -/
inductive AuditAnswer (δ : Type) where
  | blocked (reason : String)
  | passed (validationDetails : AcceptedEvidence → δ) (artifactSha256 : Option String)

structure CloseoutEnv (δ ν : Type) where
  platform : Manifest.Env
  casing : Text.LowerCasing
  numbers : NumberTexts ν
  now : Nat
  /-- `new Date().toISOString()`. -/
  nowIso : String
  randomUUID : String
  draw : Nat → Draw
  /-- The root of a project that exists. -/
  projectRoot : String → Option String
  git : String → GitCommands
  /-- The requirements intake and its QA are enabled. -/
  qaEnabled : Bool
  /-- The manifest counts pending items in its checklist. -/
  pendingChecklist : String → Bool
  /-- The ids and states of the findings of an auto-review state; `none` where it is no JSON. -/
  reviewFindings : String → Option (List (Option String × Option String))
  /-- The evidence in the metadata of an attempt. -/
  storedEvidence : Metadata → Option AcceptedEvidence
  auditAnswer : TaskRow → Option (RoadmapBatchArtifactRow δ) → AuditAnswer δ
  /-- The intent that the texts of a task have. -/
  textIntent : TaskRow → TaskIntent
  manifestJson : TaskRow → AcceptedEvidence → List String → String
  /-- The codes of the checks before and behind that of the scope. -/
  otherIssues : TaskRow → AcceptedEvidence → List String × List String
  guardrail : String → String → Option String → GuardrailRecord
  acceptedMetadata : AcceptedEvidence → List String → Metadata

section Closeout

variable {δ ν : Type} [ValidationDetails δ] (env : CloseoutEnv δ ν)

/-! ### Logging -/

/-- `appendTaskActivityLog`. -/
def appendLog (store : CloseoutStore δ) (taskId : TaskId) (newLines : String) :
    CloseoutStore δ :=
  { store with
    db := stampTask store.db taskId env.now
    columns := fun other =>
      if other = taskId then
        { store.columns other with
          agentActivityLog := ActivityLog.appendTaskActivityLog
            (store.columns other).agentActivityLog newLines }
      else store.columns other }

inductive OperatorVerifiedCompletionResult where
  | ok (task : TaskRow) (evidence : AcceptedEvidence) (nextStatus : TaskStatus) (idempotent : Bool)
  | rejected (status : Nat) (error : String)

/-- A result with the tables; an exception has none. -/
abbrev Outcome (δ : Type) := Except String (OperatorVerifiedCompletionResult × CloseoutStore δ)

/-- The text behind the first `reason=` that has one. -/
def reasonText : List Char → Option (List Char)
  | [] => none
  | c :: rest =>
    let found := ((c :: rest).drop 7).takeWhile fun d => d != ';' && !Text.isSpace d
    if "reason=".toList.isPrefixOf (c :: rest) && !found.isEmpty then some found
    else reasonText rest

def reasonCodeFromOperatorRejection (error : String) : String :=
  ((reasonText error.toList).map String.ofList).getD "operator_verified_completion_rejected"

def guardrailState (action : String) : TaskStageArtifactState :=
  if action = "accepted" then .accepted else if action = "rejected" then .rejected else .blocked

def guardrailInput (taskId : TaskId) (action : String) (event : GuardrailRecord) :
    RecordTaskStageArtifactAttemptInput where
  taskId
  stage := "operator_verified_completion"
  kind := "guardrail_event"
  label := some "Guardrail event"
  path := some event.artifactPath
  state := some (guardrailState action)
  outcome := some (if action = "accepted" then .supported
    else if action = "rejected" then .refuted else .blocked)
  trustLevel := some (if action = "accepted" then .weak else .untrusted)
  summary := some ("operator_verified_completion " ++ action ++ ": reason=" ++ event.reasonCode)
  metadata := some event.metadata

/-- `recordTaskStageArtifactAttempt` on the tables. -/
def recordStage (store : CloseoutStore δ) (input : RecordTaskStageArtifactAttemptInput)
    (draw : Nat) : Except String (CloseoutStore δ) :=
  (recordTaskStageArtifactAttempt (store.db.tasks.map (·.id)) input (env.draw draw)
    store.stage).map fun stage => { store with stage }

def emitOperatorVerifiedGuardrail (store : CloseoutStore δ) (taskId : TaskId)
    (action reasonCode : String) (artifactPath : Option String) (draw : Nat) :
    Except String (CloseoutStore δ) :=
  let event := env.guardrail action reasonCode artifactPath
  recordStage env (appendLog env store taskId ("[" ++ env.nowIso ++ "] " ++ event.line))
    (guardrailInput taskId action event) draw

def reject (store : CloseoutStore δ) (taskId : TaskId) (status : Nat) (error : String) :
    Outcome δ :=
  (emitOperatorVerifiedGuardrail env
    (appendLog env store taskId ("[" ++ env.nowIso ++ "] " ++ error)) taskId "rejected"
    (reasonCodeFromOperatorRejection error) none 0).map fun store =>
      (.rejected status error, store)

/-! ### The checks of the task -/

def hasPendingChecklist (columns : CloseoutColumns) : Bool :=
  (columns.implementationManifestJson.filter (!·.isEmpty)).any env.pendingChecklist

def blockingFindingStatuses : List String :=
  ["still_blocking", "new_blocker", "manual_review_required"]

def unresolvedBlockers (task : TaskRow) : List String :=
  if isManualReviewBlockedTask task then ["manual_review_required"]
  else match task.autoReviewState.filter (!·.isEmpty) with
    | none => []
    | some state =>
      match env.reviewFindings state with
      | none => ["invalid_auto_review_state"]
      | some findings =>
        (findings.filter fun finding =>
          blockingFindingStatuses.contains (finding.2.getD "")).map fun finding =>
            finding.1.getD "unknown"

def inferTaskIntent (task : TaskRow) : TaskIntent :=
  if task.isFix then .fix
  else if task.taskIntent ≠ .general then task.taskIntent
  else env.textIntent task

def isDevelopmentImplementationIntent (intent : TaskIntent) : Bool :=
  [.feature, .fix, .docs, .tests].contains intent

def nextStatusForOperatorCloseout (columns : CloseoutColumns) : TaskStatus :=
  if !columns.skipReview then .review else if env.qaEnabled then .qa else .done

/-- The codes of the issues of `validateImplementationManifest`. -/
def implementationManifestIssues (task : TaskRow) (evidence : AcceptedEvidence)
    (trustedCommittedFiles : List String) : List String :=
  let planManifest := Manifest.readAifPlanManifestSnapshot env.numbers env.platform task.plan
  let outOfScope := (Manifest.sortedUniquePaths env.platform trustedCommittedFiles).filter
    fun file => !PlanBoundaries.changedFileWithinApprovedPlan file planManifest
  let others := env.otherIssues task evidence
  others.1 ++ (if outOfScope.isEmpty then [] else ["implementation_scope_mismatch"]) ++ others.2

def formatImplementationManifestRejection (codes : List String) : String :=
  rejectedBecause ("implementation_manifest_invalid codes=" ++
    (if codes.isEmpty then "unknown" else Text.join "," codes))

/-! ### Tasks that are done -/

def newestFirst (order : Collation String) (left right : TaskStageArtifactAttempt) : Bool :=
  order.le right.createdAt left.createdAt &&
    (!order.le left.createdAt right.createdAt || right.attemptNumber ≤ left.attemptNumber)

def latestAcceptedOperatorCompletionEvidence (stage : Tables) (taskId : TaskId) :
    Option AcceptedEvidence :=
  (((listTaskStageArtifactAttempts stage taskId).filter fun attempt =>
    attempt.stage == "operator_verified_completion" && attempt.kind == "test_result" &&
      attempt.state == .accepted).mergeSort (newestFirst env.platform.localeCompare)).findSome?
        fun attempt => env.storedEvidence attempt.metadata

def coerceRetryOperatorEvidence (input : OperatorVerifiedCompletionInput)
    (acceptedEvidence : AcceptedEvidence) : Option AcceptedEvidence :=
  coerceOperatorCompletionEvidence env.platform.localeCompare input
    (if input.allowBlockerOverride then acceptedEvidence.overriddenBlockers else [])
    (if input.allowBlockerOverride then input.blockerOverrideJustification else none)
    acceptedEvidence.acceptedAt

def handleDoneTaskOperatorRetry (store : CloseoutStore δ) (input : OperatorVerifiedCompletionInput)
    (task : TaskRow) : Outcome δ :=
  match latestAcceptedOperatorCompletionEvidence env store.stage task.id with
  | none => reject env store task.id 409 (rejectedBecause "already_done")
  | some acceptedEvidence =>
    let fingerprint := stableOperatorEvidenceFingerprint env.casing env.platform.localeCompare
    if (coerceRetryOperatorEvidence env input acceptedEvidence).map fingerprint ≠
        some (fingerprint acceptedEvidence) then
      reject env store task.id 409 (rejectedBecause "already_done_evidence_mismatch")
    else .ok (.ok task acceptedEvidence task.status true, store)

/-! ### Closing a task -/

def closeoutPatch (nextStatus : TaskStatus) : TaskFieldsPatch where
  status := some nextStatus
  blockedReason := some none
  blockedFromStatus := some none
  retryAfter := some none
  retryCount := some 0
  reworkRequested := some false
  manualReviewRequired := some false
  paused := some false
  lastHeartbeatAt := some (some env.now)
  updatedAt := some env.now

/-- The manifest column and the patched row. -/
def writeCloseout (store : CloseoutStore δ) (taskId : TaskId) (nextStatus : TaskStatus)
    (manifestJson : Option String) : CloseoutStore δ :=
  { store with
    db := setTaskFieldsById store.db taskId (closeoutPatch env nextStatus) env.now
    columns := fun other =>
      if other = taskId then
        { store.columns other with implementationManifestJson := manifestJson }
      else store.columns other }

def acceptedInput (taskId : TaskId) (evidence : AcceptedEvidence)
    (trustedCommittedFiles : List String) : RecordTaskStageArtifactAttemptInput where
  taskId
  stage := "operator_verified_completion"
  kind := "test_result"
  label := some "Operator verified completion"
  state := some .accepted
  outcome := some .supported
  trustLevel := some .trusted
  summary := some ("Operator accepted " ++ toString trustedCommittedFiles.length ++
    " committed file(s).")
  metadata := some (env.acceptedMetadata evidence trustedCommittedFiles)

def acceptedLine (evidence : AcceptedEvidence) (trustedCommittedFiles blockers : List String)
    (overrideAllowed : Bool) (nextStatus : TaskStatus) : String :=
  let first := evidence.verification.head?
  "[" ++ env.nowIso ++ "] operator_verified_completion accepted: commit=" ++ evidence.commitSha ++
    "; verification=" ++ (first.map (·.command)).getD "" ++ "; outputSha=" ++
    (first.map (·.outputSha256)).getD "" ++ "; files=" ++ Text.join "," trustedCommittedFiles ++ ";" ++
    (if overrideAllowed then " blockerOverride=" ++ Text.join "," blockers ++ ";" else "") ++
    " nextStatus=" ++ nextStatus.text

/-- The blockers of a request and whether it may override them. -/
structure Override where
  blockers : List String
  allowed : Bool

/-- What follows the audit evidence: the manifest is checked, and the task closed. -/
def closeTask (store : CloseoutStore δ) (task : TaskRow) (evidence : AcceptedEvidence)
    (trustedCommittedFiles : List String) (override_ : Override) : Outcome δ :=
  let columns := store.columns task.id
  let development := isDevelopmentImplementationIntent (inferTaskIntent env task)
  let nextStatus := nextStatusForOperatorCloseout env columns
  let issues := implementationManifestIssues env task evidence trustedCommittedFiles
  if development && !issues.isEmpty then
    reject env store task.id 409 (formatImplementationManifestRejection issues)
  else
    let manifestJson := if development then
      some (env.manifestJson task evidence trustedCommittedFiles)
      else columns.implementationManifestJson
    match recordStage env (writeCloseout env store task.id nextStatus manifestJson)
        (acceptedInput env task.id evidence trustedCommittedFiles) 0 with
    | .error message => .error message
    | .ok recorded =>
      match emitOperatorVerifiedGuardrail env recorded task.id "accepted"
          "operator_verified_completion" trustedCommittedFiles.head? 1 with
      | .error message => .error message
      | .ok emitted =>
        let logged := appendLog env emitted task.id (acceptedLine env evidence
          trustedCommittedFiles override_.blockers override_.allowed nextStatus)
        match findTaskById logged.db.tasks task.id with
        | none => .ok (.rejected 404 "Task not found after closeout", logged)
        | some updated => .ok (.ok updated evidence nextStatus false, logged)

/-- What an accepted audit writes to its artifact. -/
def artifactInput (task : TaskRow) (artifact : RoadmapBatchArtifactRow δ)
    (validationDetails : δ) (artifactSha256 : Option String) (projectRoot : String) :
    RoadmapArtifactStateInput δ where
  taskId := task.id
  state := .valid
  failureFamily := some none
  reworkStatus := some .accepted
  validationDetails := some validationDetails
  contentSha := artifactSha256
  branchName := task.branchName.orElse fun _ => artifact.branchName
  worktreePath := task.worktreePath.orElse fun _ => artifact.worktreePath
  projectRoot := some projectRoot

/-- What follows the evidence of the commit: the audit evidence is checked, and the artifact
written. -/
def acceptAudit (store : CloseoutStore δ) (task : TaskRow) (projectRoot : String)
    (evidence : AcceptedEvidence) (trustedCommittedFiles : List String) (override_ : Override) :
    Outcome δ :=
  let auditArtifact := findRoadmapBatchArtifactByTaskId store.db task.id
  if task.taskIntent = .audit ∨ auditArtifact.isSome then
    match env.auditAnswer task auditArtifact with
    | .blocked reason => reject env store task.id 409 (rejectedBecause reason)
    | .passed validationDetails artifactSha256 =>
      match auditArtifact with
      | none => closeTask env store task evidence trustedCommittedFiles override_
      | some artifact =>
        match updateArtifact store.db (artifactInput task artifact (validationDetails evidence)
            artifactSha256 projectRoot) env.now env.randomUUID with
        | .error message => .error message
        | .ok db =>
          closeTask env { store with db } task evidence trustedCommittedFiles override_
  else closeTask env store task evidence trustedCommittedFiles override_

/-- The blockers of a task, and whether the request overrides them. -/
def overrideOf (input : OperatorVerifiedCompletionInput) (task : TaskRow) : Override where
  blockers := unresolvedBlockers env task
  allowed := input.allowBlockerOverride && task.taskIntent != .audit &&
    input.blockerOverrideJustification.any isUsefulString

def allowedStatuses : List TaskStatus := [.blockedExternal, .implementing, .review, .done]

def handleOperatorVerifiedCompletion (store : CloseoutStore δ)
    (input : OperatorVerifiedCompletionInput) : Outcome δ :=
  match findTaskById store.db.tasks input.taskId with
  | none => .ok (.rejected 404 "Task not found", store)
  | some task =>
    let override_ := overrideOf env input task
    if task.status ∉ allowedStatuses then
      reject env store task.id 409 (rejectedBecause "status_not_allowed")
    else if task.status = .done then handleDoneTaskOperatorRetry env store input task
    else if task.manualReviewRequired then
      reject env store task.id 409 (rejectedBecause "manual_review_required")
    else if hasPendingChecklist env (store.columns task.id) then
      reject env store task.id 409 (rejectedBecause "pending_checklist_items")
    else if !override_.blockers.isEmpty && !override_.allowed then
      reject env store task.id 409 (rejectedBecause ("unresolved_blockers blockers=" ++
        Text.join "," override_.blockers))
    else match env.projectRoot task.projectId with
      | none => .ok (.rejected 404 "Project not found", store)
      | some rootPath =>
        let projectRoot := task.worktreePath.getD rootPath
        match coerceOperatorCompletionEvidence env.platform.localeCompare
            { input with taskId := task.id }
            (if override_.allowed then override_.blockers else [])
            (if override_.allowed then input.blockerOverrideJustification else none)
            env.nowIso with
        | none => reject env store task.id 400 (rejectedBecause "invalid_operator_evidence")
        | some evidence =>
          let planManifest :=
            Manifest.readAifPlanManifestSnapshot env.numbers env.platform task.plan
          match validateGitEvidence env.casing env.platform.localeCompare (env.git projectRoot)
              evidence.toOperatorCompletionEvidence
              (planManifest.scope ++ planManifest.expectedArtifactPaths) with
          | .error error => reject env store task.id 409 error
          | .ok gitEvidence =>
            acceptAudit env store task projectRoot
              { evidence with dirtyUnrelatedFiles := gitEvidence.dirtyUnrelatedFiles }
              gitEvidence.trustedCommittedFiles override_

end Closeout

/-! ### What a rejection writes -/

/-- The row but for its stamps; a row held for an operator's input is put in the form of its
hold by every write. -/
def OnlyStamped (row row' : TaskRow) : Prop :=
  ∃ heartbeat updated,
    row' = { row with lastHeartbeatAt := heartbeat, updatedAt := updated } ∨
      (isOperatorInputRequiredReason row.blockedReason = true ∧ row' = { row with
        lastHeartbeatAt := heartbeat
        updatedAt := updated
        paused := true
        retryAfter := none
        manualReviewRequired := false })

theorem OnlyStamped.refl (row : TaskRow) : OnlyStamped row row :=
  ⟨row.lastHeartbeatAt, row.updatedAt, .inl rfl⟩

theorem OnlyStamped.trans {row row' row'' : TaskRow} (first : OnlyStamped row row')
    (second : OnlyStamped row' row'') : OnlyStamped row row'' := by
  obtain ⟨_, _, rfl | ⟨hold, rfl⟩⟩ := first
  · obtain ⟨heartbeat, updated, rfl | ⟨hold, rfl⟩⟩ := second
    · exact ⟨heartbeat, updated, .inl rfl⟩
    · exact ⟨heartbeat, updated, .inr ⟨hold, rfl⟩⟩
  · obtain ⟨heartbeat, updated, rfl | ⟨-, rfl⟩⟩ := second
    · exact ⟨heartbeat, updated, .inr ⟨hold, rfl⟩⟩
    · exact ⟨heartbeat, updated, .inr ⟨hold, rfl⟩⟩

theorem onlyStamped_append (row : TaskRow) (now : Nat) :
    OnlyStamped row (Data.appendTaskActivityLog row now) := by
  rcases appendTaskActivityLog_cases row now with stamped | ⟨hold, stamped⟩
  · exact ⟨some now, now, .inl stamped⟩
  · exact ⟨some now, now, .inr ⟨hold, stamped⟩⟩

/-- Log lines and rejected attempts are added, and nothing else is written: beside the row of
the task, the log refreshes the rollups of its ancestors as every write of a task does. -/
structure OnlyLogs {δ : Type} (taskId : TaskId) (store store' : CloseoutStore δ) : Prop where
  artifacts : store'.db.artifacts = store.db.artifacts
  attempts : store'.db.attempts = store.db.attempts
  batches : store'.db.batches = store.db.batches
  links : KeepsLinks store.db.tasks store'.db.tasks
  task : ¬ IsAncestor (linkOf store.db.tasks) taskId taskId →
    ∀ row, findTaskById store.db.tasks taskId = some row →
      ∃ row', findTaskById store'.db.tasks taskId = some row' ∧ OnlyStamped row row'
  others : ∀ other, other ≠ taskId → ¬ IsAncestor (linkOf store.db.tasks) taskId other →
    findTaskById store'.db.tasks other = findTaskById store.db.tasks other
  columns : ∀ other, store'.columns other =
    { store.columns other with agentActivityLog := (store'.columns other).agentActivityLog }
  log : ∃ added : List String, (store'.columns taskId).agentActivityLog =
    added.foldl ActivityLog.appendTaskActivityLog (store.columns taskId).agentActivityLog
  otherLogs : ∀ other, other ≠ taskId →
    (store'.columns other).agentActivityLog = (store.columns other).agentActivityLog
  stage : ∃ added, store'.stage.attempts = store.stage.attempts ++ added ∧
    ∀ attempt ∈ added, attempt.taskId = taskId ∧ attempt.state = .rejected

section Rejected

variable {δ ν : Type} {env : CloseoutEnv δ ν} {store store' store'' : CloseoutStore δ}
  {taskId : TaskId}

theorem OnlyLogs.refl (taskId : TaskId) (store : CloseoutStore δ) : OnlyLogs taskId store store where
  artifacts := rfl
  attempts := rfl
  batches := rfl
  links := .refl store.db.tasks
  task _ row found := ⟨row, found, .refl row⟩
  others _ _ _ := rfl
  columns _ := rfl
  log := ⟨[], rfl⟩
  otherLogs _ _ := rfl
  stage := ⟨[], by simp, by simp⟩

theorem OnlyLogs.trans (first : OnlyLogs taskId store store')
    (second : OnlyLogs taskId store' store'') : OnlyLogs taskId store store'' where
  artifacts := second.artifacts.trans first.artifacts
  attempts := second.attempts.trans first.attempts
  batches := second.batches.trans first.batches
  links := first.links.trans second.links
  task apart row found := by
    obtain ⟨row', found', stamped⟩ := first.task apart row found
    obtain ⟨row'', found'', stamped'⟩ := second.task (by rwa [first.links.linkOf]) row' found'
    exact ⟨row'', found'', stamped.trans stamped'⟩
  others other differs apart := by
    rw [second.others other differs (by rwa [first.links.linkOf]), first.others other differs apart]
  columns other := by
    rw [second.columns other, first.columns other]
  log := by
    obtain ⟨added, log⟩ := first.log
    obtain ⟨added', log'⟩ := second.log
    exact ⟨added ++ added', by rw [log', log, List.foldl_append]⟩
  otherLogs other differs := (second.otherLogs other differs).trans (first.otherLogs other differs)
  stage := by
    obtain ⟨added, attempts, rejected⟩ := first.stage
    obtain ⟨added', attempts', rejected'⟩ := second.stage
    refine ⟨added ++ added', by rw [attempts', attempts, List.append_assoc], ?_⟩
    intro attempt inside
    rcases List.mem_append.mp inside with early | late
    · exact rejected attempt early
    · exact rejected' attempt late

variable [ValidationDetails δ]

theorem appendLog_onlyLogs (env : CloseoutEnv δ ν) (store : CloseoutStore δ) (taskId : TaskId)
    (newLines : String) :
    OnlyLogs taskId store (appendLog env store taskId newLines) where
  artifacts := rfl
  attempts := rfl
  batches := rfl
  links := keepsLinks_stamp
  task apart row found := by
    refine ⟨Data.appendTaskActivityLog row env.now, ?_, onlyStamped_append row env.now⟩
    rw [appendLog, findTaskById_stamp apart, found, Option.map_some, if_pos rfl]
  others other differs apart := by
    rw [appendLog, findTaskById_stamp apart]
    simp [differs]
  columns other := by
    by_cases same : other = taskId
    · simp [appendLog, same]
    · simp [appendLog, same]
  log := ⟨[newLines], by simp [appendLog]⟩
  otherLogs other differs := by simp [appendLog, differs]
  stage := ⟨[], by simp [appendLog], by simp⟩

omit [ValidationDetails δ] in
/-- A recording adds one attempt and leaves the other tables. -/
theorem recordStage_ok {input : RecordTaskStageArtifactAttemptInput} {draw : Nat}
    (recorded : recordStage env store input draw = .ok store') :
    store'.db = store.db ∧ store'.columns = store.columns ∧
      ∃ artifactId attemptNumber, store'.stage.attempts =
        store.stage.attempts ++ [attemptRow input (env.draw draw) artifactId attemptNumber] := by
  rw [recordStage] at recorded
  rcases recordTaskStageArtifactAttempt_attempts (store.db.tasks.map (·.id)) input (env.draw draw)
    store.stage with ⟨-, missing⟩ | ⟨-, next, artifactId, attemptNumber, written, attempts⟩
  · rw [missing] at recorded
    cases recorded
  · rw [written] at recorded
    obtain rfl := Except.ok.inj recorded
    exact ⟨rfl, rfl, artifactId, attemptNumber, attempts⟩

/-- A rejection is returned as it is given, and only logged. -/
theorem reject_onlyLogs {status : Nat} {error : String} {result : OperatorVerifiedCompletionResult}
    (done : reject env store taskId status error = .ok (result, store')) :
    result = .rejected status error ∧ OnlyLogs taskId store store' := by
  rw [reject] at done
  cases emitted : emitOperatorVerifiedGuardrail env
      (appendLog env store taskId ("[" ++ env.nowIso ++ "] " ++ error)) taskId "rejected"
      (reasonCodeFromOperatorRejection error) none 0 with
  | error message =>
    rw [emitted] at done
    cases done
  | ok next =>
    rw [emitted] at done
    obtain ⟨rfl, rfl⟩ := Prod.mk.inj (Except.ok.inj done)
    refine ⟨rfl, ?_⟩
    rw [emitOperatorVerifiedGuardrail] at emitted
    obtain ⟨db, columns, artifactId, attemptNumber, attempts⟩ := recordStage_ok emitted
    have logged := (appendLog_onlyLogs env store taskId
      ("[" ++ env.nowIso ++ "] " ++ error)).trans (appendLog_onlyLogs env _ taskId
        ("[" ++ env.nowIso ++ "] " ++ (env.guardrail "rejected"
          (reasonCodeFromOperatorRejection error) none).line))
    obtain ⟨added, stage, rejected⟩ := logged.stage
    refine ⟨?_, ?_, ?_, ?_, ?_, ?_, ?_, ?_, ?_, ?_⟩
    · rw [db, logged.artifacts]
    · rw [db, logged.attempts]
    · rw [db, logged.batches]
    · rw [db]
      exact logged.links
    · rw [db]
      exact logged.task
    · rw [db]
      exact logged.others
    · rw [columns]
      exact logged.columns
    · rw [columns]
      exact logged.log
    · rw [columns]
      exact logged.otherLogs
    · refine ⟨added ++ [_], by rw [attempts, stage, List.append_assoc], ?_⟩
      intro attempt inside
      rcases List.mem_append.mp inside with early | late
      · exact rejected attempt early
      · rw [List.mem_singleton.mp late]
        exact ⟨rfl, rfl⟩

end Rejected

/-! ### All or nothing -/

section AllOrNothing

variable {δ ν : Type} [ValidationDetails δ] {env : CloseoutEnv δ ν}
  {store store' : CloseoutStore δ} {task : TaskRow} {evidence : AcceptedEvidence}
  {trustedCommittedFiles : List String} {override_ : Override} {projectRoot : String}
  {result : OperatorVerifiedCompletionResult}

theorem emit_db {taskId : TaskId} {action reasonCode : String} {artifactPath : Option String}
    {draw : Nat} (emitted : emitOperatorVerifiedGuardrail env store taskId action reasonCode
      artifactPath draw = .ok store') : store'.db = stampTask store.db taskId env.now := by
  rw [emitOperatorVerifiedGuardrail] at emitted
  exact (recordStage_ok emitted).1

/-- The manifest is rejected and this logged, or the task is closed and no artifact written. -/
theorem closeTask_cases (known : (findTaskById store.db.tasks task.id).isSome = true)
    (done : closeTask env store task evidence trustedCommittedFiles override_ =
      .ok (result, store')) :
    (result = .rejected 409 (formatImplementationManifestRejection
        (implementationManifestIssues env task evidence trustedCommittedFiles)) ∧
      OnlyLogs task.id store store') ∨
    ((∃ updated nextStatus, result = .ok updated evidence nextStatus false) ∧
      store'.db.artifacts = store.db.artifacts) := by
  rw [closeTask] at done
  dsimp only at done
  split at done
  · exact .inl (reject_onlyLogs done)
  right
  split at done
  · cases done
  rename_i recorded isRecorded
  split at done
  · cases done
  rename_i emitted isEmitted
  have closed := (recordStage_ok isRecorded).1
  have stamped := emit_db isEmitted
  have links : KeepsLinks store.db.tasks (stampTask emitted.db task.id env.now).tasks := by
    have written : KeepsLinks store.db.tasks recorded.db.tasks := by
      rw [closed]
      exact keepsLinks_setTaskFieldsById rfl
    have logged : KeepsLinks recorded.db.tasks emitted.db.tasks := by
      rw [stamped]
      exact keepsLinks_stamp
    exact (written.trans logged).trans keepsLinks_stamp
  have artifacts : emitted.db.artifacts = store.db.artifacts := by
    rw [stamped, stampTask, setTaskFieldsById, refreshAncestors, closed]
    rfl
  rw [appendLog] at done
  dsimp only at done
  split at done
  · rename_i missing
    rw [← links.isSome, missing] at known
    cases known
  · rename_i updated found
    obtain ⟨rfl, rfl⟩ := Prod.mk.inj (Except.ok.inj done)
    exact ⟨⟨updated, _, rfl⟩, artifacts⟩

theorem keepsLinks_updateArtifact {db db' : RoadmapStore δ} {input : RoadmapArtifactStateInput δ}
    {now : Nat} {randomUUID : String} (done : updateArtifact db input now randomUUID = .ok db') :
    KeepsLinks db.tasks db'.tasks := by
  rw [updateArtifact] at done
  split at done
  · cases done
  split at done
  · rw [Except.ok.inj done]
    exact .refl _
  · rename_i artifact _
    obtain rfl := Except.ok.inj done
    obtain ⟨write, columns, tasks⟩ := tasks_refreshRoadmapBatchSummary
      (recordAttempt db artifact input now randomUUID) artifact.batchId now
    have refreshed : KeepsLinks db.tasks (refreshRoadmapBatchSummary
        (recordAttempt db artifact input now randomUUID) artifact.batchId now).1.tasks := by
      rw [tasks]
      exact ⟨write, rfl, fun row => ⟨congrArg RollupColumns.id (columns row),
        congrArg RollupColumns.parentTaskId (columns row)⟩⟩
    rw [refreshRoadmapBatch]
    split
    · exact refreshed
    · exact refreshed.trans (Keeps.keepsLinks keeps_refreshAncestorRollups)

theorem valid_updateArtifact {db db' : RoadmapStore δ} {artifact : RoadmapBatchArtifactRow δ}
    {validationDetails : δ} {artifactSha256 : Option String} {now : Nat} {randomUUID : String}
    (found : findRoadmapBatchArtifactByTaskId db task.id = some artifact)
    (noBoundary : artifact.attemptBoundaryId = none)
    (done : updateArtifact db (artifactInput task artifact validationDetails artifactSha256
      projectRoot) now randomUUID = .ok db') :
    ∃ artifact', findRoadmapBatchArtifactByTaskId db' task.id = some artifact' ∧
      artifact'.state = .valid := by
  have current : staleBoundary artifact (artifactInput task artifact validationDetails
      artifactSha256 projectRoot) = false := by
    simp [staleBoundary, noBoundary]
  rw [updateArtifact] at done
  split at done
  · cases done
  have again : findRoadmapBatchArtifactByTaskId db (artifactInput task artifact validationDetails
      artifactSha256 projectRoot).taskId = some artifact := found
  rw [again] at done
  dsimp only at done
  obtain rfl := Except.ok.inj done
  have written := findRoadmapBatchArtifactByTaskId_updateArtifact now randomUUID again
  rw [current, if_neg Bool.false_ne_true] at written
  exact ⟨_, (findRoadmapBatchArtifactByTaskId_refreshRoadmapBatch _ _ _ _).trans written, rfl⟩

/-- The commit is accepted: the artifact is written before the manifest is checked. -/
theorem acceptAudit_cases (known : (findTaskById store.db.tasks task.id).isSome = true)
    (done : acceptAudit env store task projectRoot evidence trustedCommittedFiles override_ =
      .ok (result, store')) :
    (∃ status error, result = .rejected status error ∧ (OnlyLogs task.id store store' ∨
      (findRoadmapBatchArtifactByTaskId store.db task.id).isSome = true ∧
        error = formatImplementationManifestRejection
          (implementationManifestIssues env task evidence trustedCommittedFiles))) ∨
    ((∃ updated nextStatus, result = .ok updated evidence nextStatus false) ∧
      ∀ artifact, findRoadmapBatchArtifactByTaskId store.db task.id = some artifact →
        artifact.attemptBoundaryId = none →
          ∃ artifact', findRoadmapBatchArtifactByTaskId store'.db task.id = some artifact' ∧
            artifact'.state = .valid) := by
  rw [acceptAudit] at done
  split at done
  · split at done
    · obtain ⟨rejected, logs⟩ := reject_onlyLogs done
      exact .inl ⟨_, _, rejected, .inl logs⟩
    · split at done
      · rename_i none_
        rcases closeTask_cases known done with ⟨rejected, logs⟩ | ⟨accepted, -⟩
        · exact .inl ⟨_, _, rejected, .inl logs⟩
        · exact .inr ⟨accepted, fun artifact found => by rw [none_] at found; cases found⟩
      · rename_i artifact found
        split at done
        · cases done
        · rename_i db updated
          have known' : (findTaskById db.tasks task.id).isSome = true := by
            rwa [(keepsLinks_updateArtifact updated).isSome]
          rcases closeTask_cases known' done with ⟨rejected, -⟩ | ⟨accepted, artifacts⟩
          · exact .inl ⟨_, _, rejected, .inr ⟨by rw [found]; rfl, rfl⟩⟩
          · refine .inr ⟨accepted, fun other found' noBoundary => ?_⟩
            rw [found] at found'
            obtain rfl := Option.some.inj found'
            obtain ⟨written, isWritten, valid⟩ := valid_updateArtifact found noBoundary updated
            refine ⟨written, ?_, valid⟩
            rw [findRoadmapBatchArtifactByTaskId, artifacts]
            exact isWritten
  · rename_i notAudit
    rcases closeTask_cases known done with ⟨rejected, logs⟩ | ⟨accepted, -⟩
    · exact .inl ⟨_, _, rejected, .inl logs⟩
    · refine .inr ⟨accepted, fun artifact found => absurd (Or.inr ?_) notAudit⟩
      rw [found]
      rfl

variable (env store) (input : OperatorVerifiedCompletionInput)

/-- What a rejected and an accepted request leave of the tables. -/
structure CompletesOrLogs : Prop where
  /-- A rejection only logs, unless the manifest is rejected of a task that has an artifact. -/
  rejected : ∀ status error store', handleOperatorVerifiedCompletion env store input =
      .ok (.rejected status error, store') →
    OnlyLogs input.taskId store store' ∨
      ((findRoadmapBatchArtifactByTaskId store.db input.taskId).isSome = true ∧
        ∃ codes, error = formatImplementationManifestRejection codes)
  /-- The artifact of a task that was not done is valid, unless it has an attempt boundary. -/
  accepted : ∀ updated evidence nextStatus idempotent store',
    handleOperatorVerifiedCompletion env store input =
      .ok (.ok updated evidence nextStatus idempotent, store') →
    ∀ task, findTaskById store.db.tasks input.taskId = some task → task.status ≠ .done →
      ∀ artifact, findRoadmapBatchArtifactByTaskId store.db input.taskId = some artifact →
        artifact.attemptBoundaryId = none →
          ∃ artifact', findRoadmapBatchArtifactByTaskId store'.db input.taskId = some artifact' ∧
            artifact'.state = .valid

variable {store input}

theorem doneRetry_cases (done : handleDoneTaskOperatorRetry env store input task =
    .ok (result, store')) :
    (∃ status error, result = .rejected status error ∧ OnlyLogs task.id store store') ∨
      (∃ acceptedEvidence, result = .ok task acceptedEvidence task.status true) ∧
        store' = store := by
  rw [handleDoneTaskOperatorRetry] at done
  split at done
  · obtain ⟨rejected, logs⟩ := reject_onlyLogs done
    exact .inl ⟨_, _, rejected, logs⟩
  · dsimp only at done
    split at done
    · obtain ⟨rejected, logs⟩ := reject_onlyLogs done
      exact .inl ⟨_, _, rejected, logs⟩
    · obtain ⟨rfl, rfl⟩ := Prod.mk.inj (Except.ok.inj done)
      exact .inr ⟨⟨_, rfl⟩, rfl⟩

/-- What a request comes to: it is rejected and logged, or repeats a task that is done, or gets
as far as the audit evidence. -/
theorem handle_cases (done : handleOperatorVerifiedCompletion env store input =
    .ok (result, store')) :
    (∃ status error, result = .rejected status error ∧ OnlyLogs input.taskId store store') ∨
    (∃ task, findTaskById store.db.tasks input.taskId = some task ∧ task.status = .done ∧
      ∃ acceptedEvidence, result = .ok task acceptedEvidence task.status true) ∨
    ∃ task projectRoot evidence trustedCommittedFiles,
      findTaskById store.db.tasks input.taskId = some task ∧
      acceptAudit env store task projectRoot evidence trustedCommittedFiles
        (overrideOf env input task) = .ok (result, store') := by
  rw [handleOperatorVerifiedCompletion] at done
  split at done
  · obtain ⟨rfl, rfl⟩ := Prod.mk.inj (Except.ok.inj done)
    exact .inl ⟨_, _, rfl, .refl _ _⟩
  rename_i task found
  have named : task.id = input.taskId := (findTaskById_some found).2
  have logged {status : Nat} {error : String}
      (rejects : reject env store task.id status error = .ok (result, store')) :
      ∃ status error, result = .rejected status error ∧ OnlyLogs input.taskId store store' := by
    obtain ⟨rejected, logs⟩ := reject_onlyLogs rejects
    exact ⟨_, _, rejected, named ▸ logs⟩
  dsimp only at done
  split at done
  · exact .inl (logged done)
  split at done
  · rename_i isDone
    rcases doneRetry_cases env done with ⟨status, error, rejected, logs⟩ | ⟨repeated, -⟩
    · exact .inl ⟨status, error, rejected, named ▸ logs⟩
    · exact .inr (.inl ⟨task, found, isDone, repeated⟩)
  split at done
  · exact .inl (logged done)
  split at done
  · exact .inl (logged done)
  split at done
  · exact .inl (logged done)
  split at done
  · obtain ⟨rfl, rfl⟩ := Prod.mk.inj (Except.ok.inj done)
    exact .inl ⟨_, _, rfl, .refl _ _⟩
  split at done
  · exact .inl (logged done)
  split at done
  · exact .inl (logged done)
  · exact .inr (.inr ⟨task, _, _, _, found, done⟩)

variable (store input)

/-- A rejected request only logs, unless the manifest is rejected behind the artifact; and an
accepted one of a task that was not done leaves its artifact valid, unless that has an attempt
boundary. -/
theorem closeout_all_or_nothing : CompletesOrLogs env store input := by
  constructor
  · intro status error store' done
    rcases handle_cases env done with ⟨_, _, -, logs⟩ | ⟨_, -, -, _, accepted⟩ |
      ⟨task, _, _, _, found, audited⟩
    · exact .inl logs
    · cases accepted
    · have named : task.id = input.taskId := (findTaskById_some found).2
      rcases acceptAudit_cases (by rw [named, found]; rfl) audited with
        ⟨_, _, same, logs | ⟨hasArtifact, isManifest⟩⟩ | ⟨⟨_, _, accepted⟩, -⟩
      · exact .inl (named ▸ logs)
      · obtain ⟨-, rfl⟩ := OperatorVerifiedCompletionResult.rejected.inj same
        exact .inr ⟨named ▸ hasArtifact, _, isManifest⟩
      · cases accepted
  · intro updated evidence nextStatus idempotent store' done task found notDone artifact isArtifact
      noBoundary
    have named : task.id = input.taskId := (findTaskById_some found).2
    rcases handle_cases env done with ⟨_, _, rejected, -⟩ | ⟨other, found', isDone, -⟩ |
      ⟨other, _, _, _, found', audited⟩
    · cases rejected
    · rw [found] at found'
      obtain rfl := Option.some.inj found'
      exact absurd isDone notDone
    · rw [found] at found'
      obtain rfl := Option.some.inj found'
      rcases acceptAudit_cases (by rw [named, found]; rfl) audited with
        ⟨_, _, rejected, -⟩ | ⟨-, valid⟩
      · cases rejected
      · rw [named] at valid
        exact valid artifact isArtifact noBoundary

/-- A rejected request leaves the row of the task, the artifacts, the batches and the other tasks
as they were, and an accepted one of an audit leaves its artifact valid. -/
def AllOrNothing : Prop :=
  (∀ status error store', handleOperatorVerifiedCompletion env store input =
      .ok (.rejected status error, store') →
    (∀ id, findTaskById store'.db.tasks id = findTaskById store.db.tasks id) ∧
      findRoadmapBatchArtifactByTaskId store'.db input.taskId =
        findRoadmapBatchArtifactByTaskId store.db input.taskId ∧
      store'.db.batches = store.db.batches) ∧
  ∀ updated evidence nextStatus idempotent store', handleOperatorVerifiedCompletion env store input =
      .ok (.ok updated evidence nextStatus idempotent, store') →
    updated.taskIntent = .audit →
      ∀ artifact, findRoadmapBatchArtifactByTaskId store'.db input.taskId = some artifact →
        artifact.state = .valid

/-- The request is rejected, and leaves such tables. -/
def RejectedWith (leaves : RoadmapStore δ → Bool) : Outcome δ → Bool
  | .ok (.rejected _ _, store') => leaves store'.db
  | _ => false

/-- The request of an audit is accepted, and leaves such tables. -/
def AcceptedAuditWith (leaves : RoadmapStore δ → Bool) : Outcome δ → Bool
  | .ok (.ok updated _ _ _, store') => updated.taskIntent == .audit && leaves store'.db
  | _ => false

variable {env store input}

omit [ValidationDetails δ] in
theorem exists_of_rejectedWith {leaves : RoadmapStore δ → Bool} {outcome : Outcome δ}
    (rejected : RejectedWith leaves outcome = true) :
    ∃ status error store', outcome = .ok (.rejected status error, store') ∧
      leaves store'.db = true := by
  unfold RejectedWith at rejected
  split at rejected
  · exact ⟨_, _, _, rfl, rejected⟩
  · cases rejected

omit [ValidationDetails δ] in
theorem exists_of_acceptedAuditWith {leaves : RoadmapStore δ → Bool} {outcome : Outcome δ}
    (accepted : AcceptedAuditWith leaves outcome = true) :
    ∃ updated evidence nextStatus idempotent store',
      outcome = .ok (.ok updated evidence nextStatus idempotent, store') ∧
        updated.taskIntent = .audit ∧ leaves store'.db = true := by
  unfold AcceptedAuditWith at accepted
  split at accepted
  · rw [Bool.and_eq_true, beq_iff_eq] at accepted
    exact ⟨_, _, _, _, _, rfl, accepted⟩
  · cases accepted

end AllOrNothing

section Sample

def hexText (n : Nat) : String := String.ofList (List.replicate n 'a')

/-- One file is committed, and the tree is clean. -/
def sampleEnv (otherIssues : List String) : CloseoutEnv NoDetails Unit where
  platform := ⟨id, codeUnitOrder, String.ofList⟩
  casing := Text.simpleLowerCasing
  numbers := anyNumber
  now := 7
  nowIso := "2026-01-01T00:00:00.000Z"
  randomUUID := "u"
  draw _ := ⟨"a", "s", "2026-01-01T00:00:00.000Z"⟩
  projectRoot _ := some "/repo"
  git _ := (oneChange editedSource []).git
  qaEnabled := false
  pendingChecklist _ := false
  reviewFindings _ := some []
  storedEvidence _ := none
  auditAnswer _ _ := .passed (fun _ => .null) none
  textIntent _ := .general
  manifestJson _ _ _ := ""
  otherIssues _ _ := (otherIssues, [])
  guardrail _ _ _ := ⟨"", "", none, .obj []⟩
  acceptedMetadata _ _ := .obj []

def sampleInput : OperatorVerifiedCompletionInput where
  taskId := "t"
  commitSha := hexText 40
  changedFiles := ["src/a.ts"]
  verification := [⟨"git status", "clean", hexText 64⟩]
  worktreeClean := true
  operatorNote := none
  allowBlockerOverride := false
  blockerOverrideJustification := none

/-- An audit with an artifact. -/
def auditStore (isFix : Bool) (status : TaskStatus) (attemptBoundaryId : Option String) :
    CloseoutStore NoDetails where
  db := {
    tasks := [{ id := "t", projectId := "p", taskIntent := .audit, isFix, status }]
    artifacts := [{
      id := "a"
      batchId := "b"
      taskId := "t"
      role := .report
      artifactPath := "docs/report.md"
      validationDetails := .null
      attemptBoundaryId
      createdAt := 0
      updatedAt := 0 }] }
  columns _ := ⟨false, none, none⟩
  stage := ⟨[], []⟩

/-- A rejected request stamps the task; a manifest is rejected behind an artifact that has become
valid; and an artifact with an attempt boundary is not made valid. -/
theorem stamps_manifest_and_boundary :
    ¬ AllOrNothing (sampleEnv []) (auditStore false .backlog none) sampleInput ∧
      ¬ AllOrNothing (sampleEnv ["unsupported_verification_command"])
        (auditStore true .implementing none) sampleInput ∧
      ¬ AllOrNothing (sampleEnv []) (auditStore false .implementing (some "boundary"))
        sampleInput := by
  refine ⟨fun all => ?_, fun all => ?_, fun all => ?_⟩
  · have run : RejectedWith (fun db => (findTaskById db.tasks "t").any (·.updatedAt == 7))
        (handleOperatorVerifiedCompletion (sampleEnv []) (auditStore false .backlog none)
          sampleInput) = true := by decide
    obtain ⟨status, error, store', done, stamped⟩ := exists_of_rejectedWith run
    rw [(all.1 status error store' done).1] at stamped
    revert stamped
    decide
  · have run : RejectedWith (fun db =>
        (findRoadmapBatchArtifactByTaskId db "t").any (·.state == .valid))
        (handleOperatorVerifiedCompletion (sampleEnv ["unsupported_verification_command"])
          (auditStore true .implementing none) sampleInput) = true := by decide +kernel
    obtain ⟨status, error, store', done, valid⟩ := exists_of_rejectedWith run
    have kept := (all.1 status error store' done).2.1
    rw [sampleInput] at kept
    rw [kept] at valid
    revert valid
    decide
  · have run : AcceptedAuditWith (fun db =>
        (findRoadmapBatchArtifactByTaskId db "t").any (·.state == .expected))
        (handleOperatorVerifiedCompletion (sampleEnv [])
          (auditStore false .implementing (some "boundary")) sampleInput) = true := by
      decide +kernel
    obtain ⟨updated, evidence, nextStatus, idempotent, store', done, audit, expected⟩ :=
      exists_of_acceptedAuditWith run
    obtain ⟨artifact, found, isExpected⟩ := (Option.any_eq_true _ _).mp expected
    have valid := all.2 updated evidence nextStatus idempotent store' done audit artifact found
    rw [valid] at isExpected
    cases isExpected

end Sample

end AifHandoff.Api.OperatorCompletion
