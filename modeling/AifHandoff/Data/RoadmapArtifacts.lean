import AifHandoff.Lib.Ledger
import AifHandoff.Shared.AuditContract
import AifHandoff.Data.TaskFields
import AifHandoff.Data.TaskTable
import Mathlib.Data.List.ReduceOption

/-!
Roadmap batches, their audit artifacts and the attempts at them
(`createRoadmapBatchContract`, `updateRoadmapBatchArtifactState`,
`refreshRoadmapBatchSummary` and `auditRoadmapTaskDependenciesReleaseReady` of
`data/index.ts`).

An artifact row is the current state of an artifact; the attempts table is its
ledger. What is read from the JSON of the validation details is left open
(`ValidationDetails`), and so is `localeCompare`. Drawn ids are inputs.
-/

namespace AifHandoff.Data

open Text

/-- What the code reads from validation details; `δ` holds their parsed JSON,
null included. -/
class ValidationDetails (δ : Type) where
  /-- The value of an empty column. -/
  null : δ
  validationDetailsHaveValidAuditArtifactLifecycle : δ → Bool
  readAuditSourceClassification : δ → Option String
  hasValidAuditManifestStatus : δ → Bool
  hasTrustedAuditEvidenceDepth : δ → Bool
  /-- `readAuditCardDecision(details)?.finalStatus`. -/
  auditCardFinalStatus : δ → Option String
  readAuditSynthesisOutcomeKind : δ → Option String
  /-- `details.justification`, when it is a text. -/
  justification : δ → Option String
  collectValidationReasonCodes : δ → List String
  /-- `selectAuditArtifactFailureFamily` of a source classification, without fallback. -/
  selectAuditArtifactFailureFamily : Option String → δ → Option AuditFailureFamily
  buildAuditFailureSignature : AuditArtifactRole → Option String → Option AuditFailureFamily → δ →
    Option String

export ValidationDetails (validationDetailsHaveValidAuditArtifactLifecycle
  readAuditSourceClassification hasValidAuditManifestStatus hasTrustedAuditEvidenceDepth
  auditCardFinalStatus readAuditSynthesisOutcomeKind collectValidationReasonCodes
  selectAuditArtifactFailureFamily buildAuditFailureSignature)

/-- Validation details that are always null. -/
inductive NoDetails where
  | null

/-- What the readers answer on null. -/
instance : ValidationDetails NoDetails where
  null := .null
  validationDetailsHaveValidAuditArtifactLifecycle _ := false
  readAuditSourceClassification _ := none
  hasValidAuditManifestStatus _ := false
  hasTrustedAuditEvidenceDepth _ := false
  auditCardFinalStatus _ := none
  readAuditSynthesisOutcomeKind _ := none
  justification _ := none
  collectValidationReasonCodes _ := []
  selectAuditArtifactFailureFamily classification _ :=
    if classification = some "inventory_only_invalid" then some .invalidInventoryOnly
    else if classification = some "insufficient_substantive_evidence" then
      some .insufficientSubstantiveEvidence
    else if classification = some "source_inconclusive" then some .sourceInconclusive
    else none
  buildAuditFailureSignature role classification family _ :=
    let parts := (classification.filter (· ≠ "")).toList.map ("classification:" ++ ·) ++
      family.toList.map ("family:" ++ ·.text)
    if parts.isEmpty then none
    else some (Text.join "|" (("role:" ++
      (match role with | .report => "report" | .synthesis => "synthesis")) :: parts))

inductive RoadmapBatchStatus where
  | expected | complete | synthesisReady | externalBlocked | reworkNeeded | synthesisNotReady
deriving DecidableEq, Repr

structure RoadmapBatchRow where
  id : String
  projectId : String
  roadmapAlias : String
  taskIntent : TaskIntent
  status : RoadmapBatchStatus := .expected
  executionPolicy : String
  synthesisTaskId : Option TaskId
  expectedArtifactCount : Nat := 0
  validArtifactCount : Nat := 0
  invalidArtifactCount : Nat := 0
  missingArtifactCount : Nat := 0
  externalBlockedArtifactCount : Nat := 0
  synthesisReady : Bool := false
  failureFamily : Option AuditFailureFamily := none
  createdTaskIds : List TaskId
  createdAt : Nat
  updatedAt : Nat

structure RoadmapBatchArtifactRow (δ : Type) where
  id : String
  batchId : String
  taskId : TaskId
  role : AuditArtifactRole
  artifactPath : String
  state : AuditArtifactState := .expected
  failureFamily : Option AuditFailureFamily := none
  validationDetails : δ
  branchName : Option String := none
  worktreePath : Option String := none
  projectRoot : Option String := none
  contentSha : Option String := none
  attemptNumber : Nat := 0
  attemptBoundaryId : Option String := none
  failureSignature : Option String := none
  validatedAt : Option Nat := none
  createdAt : Nat
  updatedAt : Nat

structure RoadmapBatchArtifactAttemptRow (δ : Type) where
  artifactId : String
  batchId : String
  taskId : TaskId
  role : AuditArtifactRole
  artifactPath : String
  attemptNumber : Nat
  attemptBoundaryId : Option String
  state : AuditArtifactState
  classification : Option String
  failureFamily : Option AuditFailureFamily
  failureSignature : Option String
  contentSha : Option String
  reworkStatus : AuditArtifactReworkStatus
  validationDetails : δ
  sourceSnapshotId : Option String
  createdAt : Nat

/-- The tables the roadmap functions work on. -/
structure RoadmapStore (δ : Type) where
  tasks : TaskStore := []
  batches : List RoadmapBatchRow := []
  artifacts : List (RoadmapBatchArtifactRow δ) := []
  attempts : List (RoadmapBatchArtifactAttemptRow δ) := []

variable {δ : Type}

/-! ### Queries -/

def findRoadmapBatch (db : RoadmapStore δ) (batchId : String) : Option RoadmapBatchRow :=
  db.batches.find? (·.id == batchId)

/-- `orderBy(asc(role), asc(createdAt))`. -/
def artifactOrder (a b : RoadmapBatchArtifactRow δ) : Prop :=
  (a.role = .report ∧ b.role = .synthesis) ∨ (a.role = b.role ∧ a.createdAt ≤ b.createdAt)

instance : DecidableRel (artifactOrder (δ := δ)) := fun a b =>
  inferInstanceAs (Decidable (a.role = .report ∧ b.role = .synthesis ∨ _))

def listRoadmapBatchArtifacts (db : RoadmapStore δ) (batchId : String) :
    List (RoadmapBatchArtifactRow δ) :=
  (db.artifacts.filter (·.batchId == batchId)).insertionSort artifactOrder

/-- The youngest artifact of a task. -/
def findRoadmapBatchArtifactByTaskId (db : RoadmapStore δ) (taskId : TaskId) :
    Option (RoadmapBatchArtifactRow δ) :=
  ((db.artifacts.filter (·.taskId == taskId)).insertionSort
    fun a b => b.createdAt ≤ a.createdAt).head?

/-- The attempts at an artifact, by number. -/
def listRoadmapBatchArtifactAttempts (db : RoadmapStore δ) (artifactId : String) :
    List (RoadmapBatchArtifactAttemptRow δ) :=
  Ledger.entriesOf (·.artifactId) (·.attemptNumber) artifactId db.attempts

/-- `listRoadmapBatchArtifactAttempts(artifactId).at(-1)`. -/
def latestAttempt (db : RoadmapStore δ) (artifactId : String) :
    Option (RoadmapBatchArtifactAttemptRow δ) :=
  (listRoadmapBatchArtifactAttempts db artifactId).getLast?

/-- `max(attemptNumber)`, 0 where there is no attempt. -/
def maxAttemptNumber (db : RoadmapStore δ) (artifactId : String) : Nat :=
  Ledger.largest (·.artifactId) (·.attemptNumber) artifactId db.attempts

/-! ### Readiness -/

section Readiness

variable [ValidationDetails δ] (db : RoadmapStore δ)

def trustedAuditSourceClassifications : List String :=
  ["validated_findings_present", "validated_no_findings"]

def validationDetailsHaveTrustedAuditSourceClassification (details : δ) : Bool :=
  validationDetailsHaveValidAuditArtifactLifecycle details &&
    (readAuditSourceClassification details).any fun classification =>
      trustedAuditSourceClassifications.contains classification &&
        (classification == "validated_findings_present" ||
          (hasValidAuditManifestStatus details && hasTrustedAuditEvidenceDepth details))

/-- `readAuditCardDecision(details)?.finalStatus === "audit_inconclusive"`. -/
def isAuditInconclusive (details : δ) : Bool :=
  auditCardFinalStatus details == some "audit_inconclusive"

def attemptTrustedForSynthesisInput (attempt : RoadmapBatchArtifactAttemptRow δ) : Bool :=
  match attempt.role with
  | .report => validationDetailsHaveTrustedAuditSourceClassification attempt.validationDetails
  | .synthesis => attempt.state == .valid && attempt.failureFamily.isNone &&
      validationDetailsHaveValidAuditArtifactLifecycle attempt.validationDetails

def roadmapArtifactCountsAsValid (artifact : RoadmapBatchArtifactRow δ) : Bool :=
  artifact.state == .valid &&
    match artifact.role with
    | .synthesis =>
      validationDetailsHaveValidAuditArtifactLifecycle artifact.validationDetails &&
        !isAuditInconclusive artifact.validationDetails
    | .report =>
      validationDetailsHaveTrustedAuditSourceClassification artifact.validationDetails

/-- The rework status under which a terminal state is settled. -/
def settlingReworkStatus : AuditArtifactState → AuditArtifactReworkStatus
  | .manualException => .manualException
  | _ => .terminalInconclusive

def roadmapSourceArtifactTerminalForSynthesis (artifact : RoadmapBatchArtifactRow δ) : Bool :=
  artifact.role == .report && isTerminalAuditArtifactState artifact.state &&
    artifact.state != .externalBlocked &&
    (latestAttempt db artifact.id).map (·.reworkStatus) ==
      some (settlingReworkStatus artifact.state)

def roadmapSourceArtifactReadyForSynthesis (artifact : RoadmapBatchArtifactRow δ) : Bool :=
  artifact.role == .synthesis || roadmapArtifactCountsAsValid artifact ||
    roadmapSourceArtifactTerminalForSynthesis db artifact

/-- The `synthesisReady` of `summarizeRoadmapArtifacts`. -/
def roadmapSynthesisReady (artifacts : List (RoadmapBatchArtifactRow δ)) : Bool :=
  let nonSynthesis := artifacts.filter (·.role != .synthesis)
  !nonSynthesis.isEmpty && nonSynthesis.all (roadmapSourceArtifactReadyForSynthesis db)

def latestCurrentRoadmapArtifactAttempt (artifact : RoadmapBatchArtifactRow δ) :
    Option (RoadmapBatchArtifactAttemptRow δ) :=
  (latestAttempt db artifact.id).filter fun attempt =>
    attempt.attemptNumber == artifact.attemptNumber && attempt.state == artifact.state

def terminalReportArtifactHasMachineReadableDisposition (artifact : RoadmapBatchArtifactRow δ)
    (attempt : RoadmapBatchArtifactAttemptRow δ) : Bool :=
  let reasonCodes := List.reduceOption [some artifact.state.text,
    artifact.failureFamily.map (·.text), attempt.classification,
    attempt.failureFamily.map (·.text), some attempt.reworkStatus.text] ++
      collectValidationReasonCodes attempt.validationDetails
  !(reasonCodes.filter (!·.isEmpty)).isEmpty

def roadmapReportArtifactReleaseReady (artifact : RoadmapBatchArtifactRow δ) : Bool :=
  artifact.role == .report && (latestCurrentRoadmapArtifactAttempt db artifact).any fun attempt =>
    (artifact.state == .valid && attempt.reworkStatus == .accepted &&
      roadmapArtifactCountsAsValid artifact && attemptTrustedForSynthesisInput attempt) ||
    (terminalReportArtifactHasMachineReadableDisposition artifact attempt &&
      (((artifact.state == .sourceInconclusive || artifact.state == .terminalInconclusive) &&
          attempt.reworkStatus == .terminalInconclusive) ||
        (artifact.state == .manualException && attempt.reworkStatus == .manualException)))

/-- `auditRoadmapBatchTaskOrder(batch).get(taskId)`: a later entry of a task replaces
an earlier one. -/
def auditRoadmapBatchTaskOrder (batch : RoadmapBatchRow) (taskId : TaskId) : Option Nat :=
  (batch.createdTaskIds.zipIdx.reverse.find? (·.1 == taskId)).map (·.2)

/-- The comparator that orders the report artifacts of a batch. -/
def compareReportArtifacts (localeCompare : String → String → Int) (batch : RoadmapBatchRow)
    (left right : RoadmapBatchArtifactRow δ) : Int :=
  let byAge : Int :=
    if left.createdAt < right.createdAt then -1
    else if right.createdAt < left.createdAt then 1
    else localeCompare left.taskId right.taskId
  match auditRoadmapBatchTaskOrder batch left.taskId,
    auditRoadmapBatchTaskOrder batch right.taskId with
  | none, none => byAge
  | none, some _ => 1
  | some _, none => -1
  | some leftOrder, some rightOrder =>
    if leftOrder ≠ rightOrder then leftOrder - rightOrder else byAge

def orderedReportArtifacts (localeCompare : String → String → Int) (batch : RoadmapBatchRow) :
    List (RoadmapBatchArtifactRow δ) :=
  ((listRoadmapBatchArtifacts db batch.id).filter (·.role == .report)).insertionSort
    fun left right => compareReportArtifacts localeCompare batch left right ≤ 0

def auditRoadmapTaskDependenciesReleaseReady (localeCompare : String → String → Int)
    (taskId : TaskId) : Bool :=
  match findRoadmapBatchArtifactByTaskId db taskId with
  | none => true
  | some candidate =>
    match findRoadmapBatch db candidate.batchId with
    | none => true
    | some batch =>
      if batch.taskIntent ≠ .audit then true
      else
        let ordered := orderedReportArtifacts db localeCompare batch
        match candidate.role with
        | .synthesis =>
          !ordered.isEmpty && ordered.all (roadmapReportArtifactReleaseReady db)
        | .report =>
          match ordered.findIdx? (·.id == candidate.id) with
          | none => true
          | some index => (ordered.take index).all (roadmapReportArtifactReleaseReady db)

end Readiness

/-! ### Batch summaries -/

structure ArtifactCounts where
  expected : Nat
  valid : Nat
  invalid : Nat
  missing : Nat
  synthesisNotReady : Nat
  externalBlocked : Nat
  total : Nat
deriving DecidableEq, Repr

structure RoadmapBatchSummary where
  batchId : String
  projectId : String
  roadmapAlias : String
  taskIntent : TaskIntent
  status : RoadmapBatchStatus
  executionPolicy : String
  synthesisTaskId : Option TaskId
  synthesisReady : Bool
  failureFamily : Option AuditFailureFamily
  counts : ArtifactCounts
  message : Option String
deriving DecidableEq, Repr

section Summary

variable [ValidationDetails δ] (db : RoadmapStore δ)

def countArtifacts (artifacts : List (RoadmapBatchArtifactRow δ)) : ArtifactCounts where
  expected := artifacts.countP (·.state == .expected)
  valid := artifacts.countP roadmapArtifactCountsAsValid
  invalid := artifacts.countP (·.state == .invalid)
  missing := artifacts.countP (·.state == .missing)
  synthesisNotReady := artifacts.countP (·.state == .synthesisNotReady)
  externalBlocked := artifacts.countP (·.state == .externalBlocked)
  total := artifacts.length

/-- The failure family of the first artifact that satisfies the condition and has one. -/
def firstFailureFamily (artifacts : List (RoadmapBatchArtifactRow δ))
    (condition : RoadmapBatchArtifactRow δ → Bool) : Option AuditFailureFamily :=
  (artifacts.filter condition).findSome? (·.failureFamily)

def summarizeRoadmapArtifacts (batch : RoadmapBatchRow)
    (artifacts : List (RoadmapBatchArtifactRow δ)) : RoadmapBatchSummary :=
  let synthesisReady := roadmapSynthesisReady db artifacts
  let artifactFailureFamily :=
    if synthesisReady then
      firstFailureFamily artifacts fun artifact =>
        artifact.role == .synthesis && artifact.failureFamily != some .synthesisNotReady
    else
      (firstFailureFamily artifacts (·.failureFamily == some .externalBlocker)).orElse fun _ =>
        firstFailureFamily artifacts fun artifact =>
          !(artifact.role == .synthesis && artifact.failureFamily == some .synthesisNotReady)
  let failureFamily := artifactFailureFamily.orElse fun _ => batch.failureFamily
  { batchId := batch.id
    projectId := batch.projectId
    roadmapAlias := batch.roadmapAlias
    taskIntent := batch.taskIntent
    status := batch.status
    executionPolicy := batch.executionPolicy
    synthesisTaskId := batch.synthesisTaskId
    synthesisReady
    failureFamily
    counts := countArtifacts artifacts
    message :=
      match failureFamily with
      | some family => some ("Audit batch " ++ batch.roadmapAlias ++ ": " ++ family.text)
      | none =>
        if synthesisReady then some ("Audit batch " ++ batch.roadmapAlias ++ ": synthesis ready")
        else none }

def computeRoadmapBatchStatus (artifacts : List (RoadmapBatchArtifactRow δ))
    (synthesisReady : Bool) : RoadmapBatchStatus × Option AuditFailureFamily :=
  let synthesisArtifact := artifacts.find? (·.role == .synthesis)
  let firstFailure := firstFailureFamily artifacts fun _ => true
  if synthesisReady && synthesisArtifact.any roadmapArtifactCountsAsValid then (.complete, none)
  else if synthesisReady && synthesisArtifact.any
      (fun artifact => artifact.state == .expected || artifact.state == .synthesisNotReady) then
    (.synthesisReady, none)
  else if artifacts.any (·.failureFamily == some .externalBlocker) then
    (.externalBlocked, some .externalBlocker)
  else if artifacts.any (·.state == .terminalInconclusive) then
    (.reworkNeeded, firstFailure.getD .inconclusiveBatchEvidence)
  else if artifacts.any (·.state == .invalid) then
    (.reworkNeeded, firstFailure.getD .invalidArtifactContent)
  else if artifacts.any (·.state == .missing) then
    (.reworkNeeded, firstFailure.getD .missingArtifact)
  else if !artifacts.isEmpty && artifacts.all roadmapArtifactCountsAsValid then (.complete, none)
  else if artifacts.any (·.state == .synthesisNotReady) then
    (.synthesisNotReady, some .synthesisNotReady)
  else (.expected, none)

/-- The columns a refresh writes. -/
def writeBatchSummary (summary : RoadmapBatchSummary)
    (status : RoadmapBatchStatus × Option AuditFailureFamily) (now : Nat)
    (batch : RoadmapBatchRow) : RoadmapBatchRow :=
  { batch with
    status := status.1
    validArtifactCount := summary.counts.valid
    invalidArtifactCount := summary.counts.invalid
    missingArtifactCount := summary.counts.missing
    externalBlockedArtifactCount := summary.counts.externalBlocked
    synthesisReady := summary.synthesisReady
    failureFamily := status.2
    updatedAt := now }

def refreshRoadmapBatchSummary (batchId : String) (now : Nat) :
    RoadmapStore δ × Option RoadmapBatchSummary :=
  match findRoadmapBatch db batchId with
  | none => (db, none)
  | some batch =>
    let artifacts := listRoadmapBatchArtifacts db batchId
    let summary := summarizeRoadmapArtifacts db batch artifacts
    let status := computeRoadmapBatchStatus artifacts summary.synthesisReady
    let refreshed := { db with
      batches := db.batches.map fun row =>
        if row.id = batchId then writeBatchSummary summary status now row else row
      tasks := match batch.synthesisTaskId with
        | none => db.tasks
        | some taskId =>
          updateWhereId db.tasks taskId (refreshSynthesisTaskRow summary.synthesisReady now) }
    (refreshed, (findRoadmapBatch refreshed batchId).map fun updated =>
      summarizeRoadmapArtifacts refreshed updated artifacts)

end Summary

/-! ### Writing -/

structure RoadmapBatchArtifactInput where
  taskId : TaskId
  role : AuditArtifactRole
  artifactPath : String
  branchName : Option String := none
  worktreePath : Option String := none
  projectRoot : Option String := none
deriving DecidableEq, Repr

structure CreateRoadmapBatchContractInput where
  projectId : String
  roadmapAlias : String
  taskIntent : TaskIntent
  executionPolicy : String
  createdTaskIds : List TaskId
  synthesisTaskId : Option TaskId := none
  artifacts : List RoadmapBatchArtifactInput
deriving DecidableEq, Repr

def normalizeRoadmapArtifactPath (artifactPath : String) : String :=
  String.ofList (artifactPath.toList.map fun c => if c = '\\' then '/' else c)

/-- The condition under which `assertSafeRoadmapArtifactPath` throws; its test for a
drive letter is covered by the test for a colon. -/
def isUnsafeRoadmapArtifactPath (artifactPath : String) : Bool :=
  let trimmed := trim artifactPath
  let normalized := normalizeRoadmapArtifactPath trimmed
  trimmed.isEmpty || trimmed != artifactPath || includes normalized "\x00" ||
    includes normalized ":" || startsWith normalized "/" || normalized == "." ||
    normalized == ".." || startsWith normalized "../" || includes normalized "/../" ||
    endsWith normalized "/.." || startsWith normalized "./../" || includes normalized "/./" ||
    endsWith normalized "/."

/-- Input of `updateRoadmapBatchArtifactState`. `none` is a field that is absent; where
an absent field and a null one differ, `some none` is the null. -/
structure RoadmapArtifactStateInput (δ : Type) where
  taskId : TaskId
  state : AuditArtifactState
  failureFamily : Option (Option AuditFailureFamily) := none
  classification : Option String := none
  reworkStatus : Option AuditArtifactReworkStatus := none
  failureSignature : Option (Option String) := none
  attemptBoundaryId : Option String := none
  createAttemptBoundary : Bool := false
  sourceSnapshotId : Option String := none
  validationDetails : Option δ := none
  branchName : Option String := none
  worktreePath : Option String := none
  projectRoot : Option String := none
  contentSha : Option String := none
  validatedAt : Option Nat := none

section Writing

variable [ValidationDetails δ] (db : RoadmapStore δ)

/-- The batch row of a new contract; `randomUUID` lists the ids that are drawn. -/
def newRoadmapBatch (input : CreateRoadmapBatchContractInput) (now : Nat)
    (randomUUID : Nat → String) : RoadmapBatchRow where
  id := randomUUID 0
  projectId := input.projectId
  roadmapAlias := input.roadmapAlias
  taskIntent := input.taskIntent
  executionPolicy := input.executionPolicy
  synthesisTaskId := input.synthesisTaskId
  expectedArtifactCount := input.artifacts.length
  createdTaskIds := input.createdTaskIds
  createdAt := now
  updatedAt := now

def newRoadmapArtifact (now : Nat) (randomUUID : Nat → String) (index : Nat)
    (artifact : RoadmapBatchArtifactInput) : RoadmapBatchArtifactRow δ where
  id := randomUUID (index + 1)
  batchId := randomUUID 0
  taskId := artifact.taskId
  role := artifact.role
  artifactPath := normalizeRoadmapArtifactPath (trim artifact.artifactPath)
  validationDetails := ValidationDetails.null
  branchName := artifact.branchName
  worktreePath := artifact.worktreePath
  projectRoot := artifact.projectRoot
  createdAt := now
  updatedAt := now

def newRoadmapArtifacts (input : CreateRoadmapBatchContractInput) (now : Nat)
    (randomUUID : Nat → String) : List (RoadmapBatchArtifactRow δ) :=
  input.artifacts.mapIdx (newRoadmapArtifact now randomUUID)

/-- The transaction of a new contract. -/
def insertRoadmapBatch (input : CreateRoadmapBatchContractInput) (now : Nat)
    (randomUUID : Nat → String) : RoadmapStore δ :=
  { db with
    batches := db.batches ++ [newRoadmapBatch input now randomUUID]
    artifacts := db.artifacts ++ newRoadmapArtifacts input now randomUUID }

def createRoadmapBatchContract (input : CreateRoadmapBatchContractInput) (now : Nat)
    (randomUUID : Nat → String) : Except String (RoadmapStore δ × RoadmapBatchSummary) :=
  match input.artifacts.find? (isUnsafeRoadmapArtifactPath ·.artifactPath) with
  | some artifact => .error ("unsafe roadmap artifact path: " ++ artifact.artifactPath)
  | none =>
    let (refreshed, summary) := refreshRoadmapBatchSummary
      (insertRoadmapBatch db input now randomUUID) (randomUUID 0) now
    match summary with
    | some summary => .ok (refreshed, summary)
    | none => .error ("Roadmap batch " ++ randomUUID 0 ++ " was not created")

variable (artifact : RoadmapBatchArtifactRow δ) (input : RoadmapArtifactStateInput δ)

/-- The check that throws: a manual exception needs a justification. -/
def lacksJustification : Bool :=
  let details := input.validationDetails.getD artifact.validationDetails
  input.state == .manualException &&
    (ValidationDetails.justification details).all fun text => (trim text).isEmpty

/-- The attempt that an update records. -/
def recordedAttempt (now : Nat) (randomUUID : String) : RoadmapBatchArtifactAttemptRow δ :=
  let details := input.validationDetails.getD artifact.validationDetails
  let acceptedTerminalAuditInconclusive :=
    input.state == .valid && artifact.role == .synthesis && isAuditInconclusive details
  let classification := input.classification.orElse fun _ =>
    if acceptedTerminalAuditInconclusive then
      some ((readAuditSynthesisOutcomeKind details).getD "source_inconclusive")
    else readAuditSourceClassification details
  let failureFamily :=
    if acceptedTerminalAuditInconclusive then none
    else input.failureFamily.getD (selectAuditArtifactFailureFamily classification details)
  { artifactId := artifact.id
    batchId := artifact.batchId
    taskId := artifact.taskId
    role := artifact.role
    artifactPath := artifact.artifactPath
    attemptNumber := maxAttemptNumber db artifact.id + 1
    attemptBoundaryId :=
      if input.createAttemptBoundary then some (input.attemptBoundaryId.getD randomUUID)
      else input.attemptBoundaryId.orElse fun _ => artifact.attemptBoundaryId
    state := input.state
    classification
    failureFamily
    failureSignature := input.failureSignature.getD
      (if acceptedTerminalAuditInconclusive then none
        else buildAuditFailureSignature artifact.role classification failureFamily details)
    contentSha := input.contentSha.orElse fun _ => artifact.contentSha
    reworkStatus :=
      input.reworkStatus.getD (if input.state = .valid then .accepted else .notApplicable)
    validationDetails := details
    sourceSnapshotId := input.sourceSnapshotId
    createdAt := now }

/-- The boundary test of an update: its attempt belongs to an older boundary. -/
def staleBoundary : Bool :=
  !input.createAttemptBoundary && artifact.attemptBoundaryId.isSome &&
    input.attemptBoundaryId != artifact.attemptBoundaryId

/-- The artifact row that an update with this attempt writes. -/
def writeArtifact (attempt : RoadmapBatchArtifactAttemptRow δ) (now : Nat)
    (row : RoadmapBatchArtifactRow δ) : RoadmapBatchArtifactRow δ :=
  { row with
    state := input.state
    failureFamily := attempt.failureFamily
    validationDetails := attempt.validationDetails
    branchName := input.branchName.orElse fun _ => artifact.branchName
    worktreePath := input.worktreePath.orElse fun _ => artifact.worktreePath
    projectRoot := input.projectRoot.orElse fun _ => artifact.projectRoot
    contentSha := attempt.contentSha
    attemptNumber := attempt.attemptNumber
    attemptBoundaryId := attempt.attemptBoundaryId
    failureSignature := attempt.failureSignature
    validatedAt := input.validatedAt.orElse fun _ => if input.state = .valid then some now else none
    updatedAt := now }

/-- The transaction of an update. -/
def recordAttempt (now : Nat) (randomUUID : String) : RoadmapStore δ :=
  let attempt := recordedAttempt db artifact input now randomUUID
  { db with
    attempts := db.attempts ++ [attempt]
    artifacts :=
      if staleBoundary artifact input then db.artifacts
      else db.artifacts.map fun row =>
        if row.id = artifact.id then writeArtifact artifact input attempt now row else row }

def updateRoadmapBatchArtifactState (now : Nat) (randomUUID : String) :
    Except String (RoadmapStore δ × Option RoadmapBatchSummary) :=
  match findRoadmapBatchArtifactByTaskId db input.taskId with
  | none => .ok (db, none)
  | some artifact =>
    if lacksJustification artifact input then
      .error "manual_exception requires a non-empty justification"
    else
      .ok (refreshRoadmapBatchSummary (recordAttempt db artifact input now randomUUID)
        artifact.batchId now)

end Writing

/-! ### What the functions read and leave -/

section Reading

variable {db db' : RoadmapStore δ} {artifactId batchId taskId : String}
  {artifact : RoadmapBatchArtifactRow δ}

theorem findRoadmapBatchArtifactByTaskId_some
    (found : findRoadmapBatchArtifactByTaskId db taskId = some artifact) :
    artifact ∈ db.artifacts ∧ artifact.taskId = taskId := by
  have inside := List.mem_of_mem_head? found
  rw [List.mem_insertionSort, List.mem_filter, beq_iff_eq] at inside
  exact inside

theorem mem_listRoadmapBatchArtifacts : artifact ∈ listRoadmapBatchArtifacts db batchId ↔
    artifact ∈ db.artifacts ∧ artifact.batchId = batchId := by
  rw [listRoadmapBatchArtifacts, List.mem_insertionSort, List.mem_filter, beq_iff_eq]

theorem findRoadmapBatch_some {batch : RoadmapBatchRow}
    (found : findRoadmapBatch db batchId = some batch) :
    batch ∈ db.batches ∧ batch.id = batchId := by
  refine ⟨List.mem_of_find?_eq_some found, ?_⟩
  simpa using List.find?_some found

theorem findRoadmapBatch_of_mem {batch : RoadmapBatchRow}
    (ids : (db.batches.map (·.id)).Nodup) (inside : batch ∈ db.batches) :
    findRoadmapBatch db batch.id = some batch := by
  cases found : findRoadmapBatch db batch.id with
  | none => simpa using List.find?_eq_none.mp found batch inside
  | some other =>
    obtain ⟨inside', same⟩ := findRoadmapBatch_some found
    rw [List.inj_on_of_nodup_map ids inside' inside same]

theorem latestAttempt_eq : latestAttempt db artifactId =
    Ledger.newest (·.artifactId) (·.attemptNumber) artifactId db.attempts := rfl

theorem roadmapSourceArtifactTerminalForSynthesis_iff :
    roadmapSourceArtifactTerminalForSynthesis db artifact = true ↔
      artifact.role = .report ∧ isTerminalAuditArtifactState artifact.state = true ∧
        ∃ attempt, latestAttempt db artifact.id = some attempt ∧
          attempt.reworkStatus = settlingReworkStatus artifact.state := by
  have notExternal : isTerminalAuditArtifactState artifact.state = true →
      artifact.state ≠ .externalBlocked := by
    rintro terminal same
    rw [same] at terminal
    cases terminal
  simp only [roadmapSourceArtifactTerminalForSynthesis, Bool.and_eq_true, beq_iff_eq, bne_iff_ne,
    Option.map_eq_some_iff]
  constructor
  · rintro ⟨⟨⟨role, terminal⟩, -⟩, attempt, latest, settled⟩
    exact ⟨role, terminal, attempt, latest, settled⟩
  · rintro ⟨role, terminal, attempt, latest, settled⟩
    exact ⟨⟨⟨role, terminal⟩, notExternal terminal⟩, attempt, latest, settled⟩

variable [ValidationDetails δ]

theorem roadmapSynthesisReady_iff {artifacts : List (RoadmapBatchArtifactRow δ)} :
    roadmapSynthesisReady db artifacts = true ↔
      (∃ artifact ∈ artifacts, artifact.role = .report) ∧ ∀ artifact ∈ artifacts,
        artifact.role = .report → roadmapSourceArtifactReadyForSynthesis db artifact = true := by
  have isReport : ∀ role : AuditArtifactRole, role ≠ .synthesis ↔ role = .report := by
    intro role
    cases role <;> simp
  simp only [roadmapSynthesisReady, Bool.and_eq_true, Bool.not_eq_true', List.isEmpty_eq_false_iff,
    ne_eq, List.all_eq_true, List.mem_filter, bne_iff_ne, isReport, and_imp]
  refine and_congr_left fun _ => ⟨fun nonEmpty => ?_, ?_⟩
  · obtain ⟨artifact, inside⟩ := List.exists_mem_of_ne_nil _ nonEmpty
    simp only [List.mem_filter, bne_iff_ne, isReport] at inside
    exact ⟨artifact, inside⟩
  · rintro ⟨artifact, inside, role⟩
    exact List.ne_nil_of_mem (List.mem_filter.mpr ⟨inside, by simp [role]⟩)

theorem terminalReportArtifactHasMachineReadableDisposition_eq
    (attempt : RoadmapBatchArtifactAttemptRow δ) :
    terminalReportArtifactHasMachineReadableDisposition artifact attempt = true := by
  have nonEmpty : artifact.state.text.isEmpty = false := by
    cases artifact.state <;> rfl
  simp [terminalReportArtifactHasMachineReadableDisposition, List.reduceOption, nonEmpty]

/-- The report artifacts that a task waits for, with the role of its own artifact;
`none` where it waits for nothing. -/
def awaitedReports (db : RoadmapStore δ) (localeCompare : String → String → Int)
    (taskId : TaskId) : Option (AuditArtifactRole × List (RoadmapBatchArtifactRow δ)) :=
  (findRoadmapBatchArtifactByTaskId db taskId).bind fun candidate =>
    (findRoadmapBatch db candidate.batchId).bind fun batch =>
      if batch.taskIntent ≠ .audit then none
      else
        let ordered := orderedReportArtifacts db localeCompare batch
        some (candidate.role,
          match candidate.role with
          | .synthesis => ordered
          | .report => ordered.take ((ordered.findIdx? (·.id == candidate.id)).getD 0))

theorem auditRoadmapTaskDependenciesReleaseReady_eq (localeCompare : String → String → Int) :
    auditRoadmapTaskDependenciesReleaseReady db localeCompare taskId =
      (awaitedReports db localeCompare taskId).all fun awaited =>
        !(awaited.1 == .synthesis && awaited.2.isEmpty) &&
          awaited.2.all (roadmapReportArtifactReleaseReady db) := by
  unfold auditRoadmapTaskDependenciesReleaseReady awaitedReports
  cases findRoadmapBatchArtifactByTaskId db taskId with
  | none => rfl
  | some candidate =>
    dsimp only [Option.bind_some]
    cases findRoadmapBatch db candidate.batchId with
    | none => rfl
    | some batch =>
      dsimp only [Option.bind_some]
      by_cases audit : batch.taskIntent ≠ .audit
      · rw [if_pos audit, if_pos audit]
        rfl
      · rw [if_neg audit, if_neg audit]
        cases candidate.role with
        | synthesis => rfl
        | report =>
          cases (orderedReportArtifacts db localeCompare batch).findIdx?
            (·.id == candidate.id) <;> simp

end Reading

section Refresh

variable [ValidationDetails δ] (db : RoadmapStore δ) (batchId : String) (now : Nat)

@[simp] theorem refreshRoadmapBatchSummary_artifacts :
    (refreshRoadmapBatchSummary db batchId now).1.artifacts = db.artifacts := by
  unfold refreshRoadmapBatchSummary
  split <;> rfl

@[simp] theorem refreshRoadmapBatchSummary_attempts :
    (refreshRoadmapBatchSummary db batchId now).1.attempts = db.attempts := by
  unfold refreshRoadmapBatchSummary
  split <;> rfl

/-- A refresh writes the summary columns of the batch, and nothing else to the table. -/
theorem refreshRoadmapBatchSummary_batches :
    (refreshRoadmapBatchSummary db batchId now).1.batches = db.batches.map fun row =>
      if row.id = batchId then
        writeBatchSummary (summarizeRoadmapArtifacts db row (listRoadmapBatchArtifacts db batchId))
          (computeRoadmapBatchStatus (listRoadmapBatchArtifacts db batchId)
            (roadmapSynthesisReady db (listRoadmapBatchArtifacts db batchId))) now row
      else row := by
  unfold refreshRoadmapBatchSummary
  split
  next missing =>
    have unchanged : ∀ row ∈ db.batches, row.id ≠ batchId := by
      intro row inside same
      simpa [same] using List.find?_eq_none.mp missing row inside
    symm
    refine (List.map_congr_left fun row inside => ?_).trans (List.map_id _)
    exact if_neg (unchanged row inside)
  next => rfl

theorem isSome_refreshRoadmapBatchSummary (known : batchId ∈ db.batches.map (·.id)) :
    (refreshRoadmapBatchSummary db batchId now).2.isSome = true := by
  obtain ⟨batch, inside, same⟩ := List.mem_map.mp known
  cases found : findRoadmapBatch db batchId with
  | none => simpa [same] using List.find?_eq_none.mp found batch inside
  | some first =>
    unfold refreshRoadmapBatchSummary
    rw [found]
    dsimp only
    rw [Option.isSome_map, findRoadmapBatch, List.find?_map, Option.isSome_map,
      List.find?_isSome]
    refine ⟨batch, inside, ?_⟩
    dsimp only [Function.comp]
    rw [if_pos same]
    exact beq_iff_eq.mpr same

theorem map_refreshRoadmapBatchSummary_batches {α : Type} (column : RoadmapBatchRow → α)
    (kept : ∀ summary status row, column (writeBatchSummary summary status now row) = column row) :
    (refreshRoadmapBatchSummary db batchId now).1.batches.map column = db.batches.map column := by
  rw [refreshRoadmapBatchSummary_batches, List.map_map]
  apply List.map_congr_left
  intro row _
  dsimp only [Function.comp]
  split
  · exact kept _ _ row
  · rfl

end Refresh

end AifHandoff.Data
