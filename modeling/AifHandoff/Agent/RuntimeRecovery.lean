import AifHandoff.Data.StageArtifacts
import AifHandoff.Lib.SortedSet

/-!
The delta guard of runtime recoveries (`packages/agent/src/coordinator.ts`).

A recovery is described by a signature, and an attempt at it is recorded as a stage artifact
with the signature in its metadata. A recovery of a kind is refused when an attempt of the
same kind on the task had the same delta fields; the stage, the category, the path and the
failed profile of the signature are recorded and not compared.
-/

namespace AifHandoff.Agent.RuntimeRecovery

open AifHandoff.Json Data.StageArtifacts

/-- What the guard takes from the language: `toLowerCase`, the order of `localeCompare`, and
SHA-256. -/
structure Env where
  toLowerCase : String → String
  localeCompare : Collation String
  sha256 : List Char → String

/-! ### Fingerprints of values -/

section StableJson

variable (compare : Collation String)

mutual

/-- JSON text with the keys of objects in order. -/
def stableFingerprintJson : Metadata → List Char
  | .arr items => '[' :: List.intercalate [','] (stableItems items) ++ [']']
  | .obj fields =>
    -- the order looks at the keys alone, so that the texts may be made before
    let entries := (stableFields fields).mergeSort fun left right => compare.le left.1 right.1
    '\x7b' :: List.intercalate [','] (entries.map fun (key, text) => quote key ++ ':' :: text)
      ++ ['\x7d']
  | value => stringify anyNumber.write value

def stableItems : List Metadata → List (List Char)
  | [] => []
  | item :: rest => stableFingerprintJson item :: stableItems rest

def stableFields : List (String × Metadata) → List (String × List Char)
  | [] => []
  | (key, value) :: rest => (key, stableFingerprintJson value) :: stableFields rest

end

end StableJson

def sha256Json (env : Env) (value : Metadata) : String :=
  env.sha256 (stableFingerprintJson env.localeCompare value)

/-! ### Signatures -/

structure RuntimeRecoveryDeltaSignature where
  taskId : String
  stage : String
  runtimeCategory : String
  recoveryKind : String
  artifactPath : Option String
  artifactSha : Option String
  validatorFingerprint : Option String
  toolLoopPattern : Option String
  blockedReasonFamily : String
  evidenceRefs : List String
  sourceSnapshotId : Option String
  sourceSnapshotFingerprint : Option String
  failedProfileId : Option String
  deriving DecidableEq

def normalizeNullableString (value : Option String) : Option String :=
  (value.map Text.trim).filter (!·.isEmpty)

def normalizeFingerprintString (env : Env) (value : Option String) : Option String :=
  (normalizeNullableString value).map env.toLowerCase

def normalizeRuntimeRecoveryPath (value : Option String) : Option String :=
  (normalizeNullableString value).map fun path =>
    String.ofList (path.toList.map fun c => if c = '\\' then '/' else c)

/-- The references of a list that say something. -/
def givenRefs (values : List String) : List String := (values.map Text.trim).filter (!·.isEmpty)

def normalizeRuntimeRecoveryEvidenceRefs (env : Env) (values : Option (List String)) :
    List String :=
  sortedSet env.localeCompare (givenRefs (values.getD []))

def sourceSnapshotFingerprint (env : Env) (value : Option Metadata) : Option String :=
  (value.filter isObject).map (sha256Json env)

/-- The columns of a task that recoveries read. -/
structure RecoveryTask where
  id : String
  requirementsSnapshotId : Option String

/-- What a recovery says about itself. -/
structure SignatureInput where
  task : RecoveryTask
  stage : String
  runtimeCategory : String
  recoveryKind : String
  artifactPath : Option String := none
  artifactSha : Option String := none
  validatorFingerprint : Option String := none
  toolLoopPattern : Option String := none
  blockedReasonFamily : String
  evidenceRefs : Option (List String) := none
  sourceSnapshotId : Option String := none
  sourceSnapshot : Option Metadata := none
  failedProfileId : Option String := none

def buildRuntimeRecoveryDeltaSignature (env : Env) (input : SignatureInput) :
    RuntimeRecoveryDeltaSignature where
  taskId := input.task.id
  stage := input.stage
  runtimeCategory := (normalizeNullableString (some input.runtimeCategory)).getD "unknown"
  recoveryKind := (normalizeNullableString (some input.recoveryKind)).getD "runtime_recovery"
  artifactPath := normalizeRuntimeRecoveryPath input.artifactPath
  artifactSha := normalizeFingerprintString env input.artifactSha
  validatorFingerprint := normalizeFingerprintString env input.validatorFingerprint
  toolLoopPattern := normalizeNullableString input.toolLoopPattern
  blockedReasonFamily :=
    (normalizeNullableString (some input.blockedReasonFamily)).getD "runtime_failure"
  evidenceRefs := normalizeRuntimeRecoveryEvidenceRefs env input.evidenceRefs
  sourceSnapshotId := (normalizeNullableString input.sourceSnapshotId).or
    (normalizeNullableString input.task.requirementsSnapshotId)
  sourceSnapshotFingerprint := sourceSnapshotFingerprint env input.sourceSnapshot
  failedProfileId := normalizeNullableString input.failedProfileId

/-! ### Signatures as JSON -/

def optionalText : Option String → Metadata
  | some text => .str text
  | none => .null

def RuntimeRecoveryDeltaSignature.toJson (signature : RuntimeRecoveryDeltaSignature) : Metadata :=
  .obj [("taskId", .str signature.taskId), ("stage", .str signature.stage),
    ("runtimeCategory", .str signature.runtimeCategory),
    ("recoveryKind", .str signature.recoveryKind),
    ("artifactPath", optionalText signature.artifactPath),
    ("artifactSha", optionalText signature.artifactSha),
    ("validatorFingerprint", optionalText signature.validatorFingerprint),
    ("toolLoopPattern", optionalText signature.toolLoopPattern),
    ("blockedReasonFamily", .str signature.blockedReasonFamily),
    ("evidenceRefs", .arr (signature.evidenceRefs.map .str)),
    ("sourceSnapshotId", optionalText signature.sourceSnapshotId),
    ("sourceSnapshotFingerprint", optionalText signature.sourceSnapshotFingerprint),
    ("failedProfileId", optionalText signature.failedProfileId)]

/-- A field that is a string. -/
def readText (candidate : Metadata) (key : String) : Option String :=
  match candidate.get? key with
  | some (.str text) => some text
  | _ => none

/-- The strings of a field that is an array. -/
def readTexts (candidate : Metadata) (key : String) : List String :=
  match candidate.get? key with
  | some (.arr items) => items.filterMap fun
      | .str text => some text
      | _ => none
  | _ => []

def readRuntimeRecoveryDeltaInput (metadata : Metadata) : Option RuntimeRecoveryDeltaSignature :=
  ((metadata.get? "runtimeRecoveryFingerprintInput").filter isObject).map fun candidate => {
    taskId := (readText candidate "taskId").getD ""
    stage := (readText candidate "stage").getD ""
    runtimeCategory := (readText candidate "runtimeCategory").getD "unknown"
    recoveryKind := (readText candidate "recoveryKind").getD "runtime_recovery"
    artifactPath := readText candidate "artifactPath"
    artifactSha := readText candidate "artifactSha"
    validatorFingerprint := readText candidate "validatorFingerprint"
    toolLoopPattern := readText candidate "toolLoopPattern"
    blockedReasonFamily := (readText candidate "blockedReasonFamily").getD "runtime_failure"
    evidenceRefs := readTexts candidate "evidenceRefs"
    sourceSnapshotId := readText candidate "sourceSnapshotId"
    sourceSnapshotFingerprint := readText candidate "sourceSnapshotFingerprint"
    failedProfileId := readText candidate "failedProfileId" }

/-! ### The guard -/

structure DeltaComparison where
  sameArtifactSha : Bool
  sameValidatorFingerprint : Bool
  sameToolLoopPattern : Bool
  sameBlockedReasonFamily : Bool
  sameEvidenceRefs : Bool
  sameSourceSnapshot : Bool
  matchedAttemptId : Option String
  deriving DecidableEq

inductive DeltaVerdict where
  | allowRecovery
  | failClosedNoDelta
  deriving DecidableEq, Repr

structure RuntimeRecoveryDeltaDecision where
  decision : DeltaVerdict
  fingerprint : String
  input : RuntimeRecoveryDeltaSignature
  comparison : DeltaComparison

def compareRuntimeRecoveryDeltaFields (env : Env) (current prior : RuntimeRecoveryDeltaSignature) :
    DeltaComparison where
  sameArtifactSha := current.artifactSha = prior.artifactSha
  sameValidatorFingerprint := current.validatorFingerprint = prior.validatorFingerprint
  sameToolLoopPattern := current.toolLoopPattern = prior.toolLoopPattern
  sameBlockedReasonFamily := current.blockedReasonFamily = prior.blockedReasonFamily
  sameEvidenceRefs :=
    stableFingerprintJson env.localeCompare (.arr (current.evidenceRefs.map .str)) =
      stableFingerprintJson env.localeCompare (.arr (prior.evidenceRefs.map .str))
  sameSourceSnapshot := current.sourceSnapshotId = prior.sourceSnapshotId &&
    current.sourceSnapshotFingerprint = prior.sourceSnapshotFingerprint
  matchedAttemptId := none

def DeltaComparison.noDelta (comparison : DeltaComparison) : Bool :=
  comparison.sameArtifactSha && comparison.sameValidatorFingerprint &&
    comparison.sameToolLoopPattern && comparison.sameBlockedReasonFamily &&
    comparison.sameEvidenceRefs && comparison.sameSourceSnapshot

def guardStage : String := "runtime_recovery"

def guardKind : String := "delta_guard"

/-- The comparison with an attempt that leaves no delta. -/
def noDeltaWith (env : Env) (input : RuntimeRecoveryDeltaSignature)
    (attempt : TaskStageArtifactAttempt) : Option DeltaComparison :=
  if attempt.stage ≠ guardStage || attempt.kind ≠ guardKind then none
  else match readRuntimeRecoveryDeltaInput attempt.metadata with
    | none => none
    | some prior =>
      if prior.recoveryKind ≠ input.recoveryKind then none
      else
        let comparison := compareRuntimeRecoveryDeltaFields env input prior
        if comparison.noDelta then some { comparison with matchedAttemptId := some attempt.id }
        else none

def evaluateRuntimeRecoveryDelta (env : Env) (tables : Tables)
    (input : RuntimeRecoveryDeltaSignature) : RuntimeRecoveryDeltaDecision :=
  let fingerprint := sha256Json env input.toJson
  match (listTaskStageArtifactAttempts tables input.taskId).findSome? (noDeltaWith env input) with
  | some comparison => { decision := .failClosedNoDelta, fingerprint, input, comparison }
  | none => {
      decision := .allowRecovery
      fingerprint
      input
      comparison := {
        sameArtifactSha := false
        sameValidatorFingerprint := false
        sameToolLoopPattern := false
        sameBlockedReasonFamily := false
        sameEvidenceRefs := false
        sameSourceSnapshot := false
        matchedAttemptId := none } }

/-! ### Recording an attempt -/

def DeltaVerdict.text : DeltaVerdict → String
  | .allowRecovery => "allow_recovery"
  | .failClosedNoDelta => "fail_closed_no_delta"

def runtimeRecoveryDeltaFields (input : RuntimeRecoveryDeltaSignature) : Metadata :=
  .obj [("artifactSha", optionalText input.artifactSha),
    ("validatorFingerprint", optionalText input.validatorFingerprint),
    ("toolLoopPattern", optionalText input.toolLoopPattern),
    ("blockedReasonFamily", .str input.blockedReasonFamily),
    ("evidenceRefs", .arr (input.evidenceRefs.map .str)),
    ("sourceSnapshotId", optionalText input.sourceSnapshotId),
    ("sourceSnapshotFingerprint", optionalText input.sourceSnapshotFingerprint)]

def DeltaComparison.toJson (comparison : DeltaComparison) : Metadata :=
  .obj [("sameArtifactSha", .bool comparison.sameArtifactSha),
    ("sameValidatorFingerprint", .bool comparison.sameValidatorFingerprint),
    ("sameToolLoopPattern", .bool comparison.sameToolLoopPattern),
    ("sameBlockedReasonFamily", .bool comparison.sameBlockedReasonFamily),
    ("sameEvidenceRefs", .bool comparison.sameEvidenceRefs),
    ("sameSourceSnapshot", .bool comparison.sameSourceSnapshot),
    ("matchedAttemptId", optionalText comparison.matchedAttemptId)]

def decisionMetadata (decision : RuntimeRecoveryDeltaDecision) : List (String × Metadata) :=
  [("runtimeRecoveryFingerprint", .str decision.fingerprint),
    ("runtimeRecoveryFingerprintInput", decision.input.toJson),
    ("runtimeRecoveryDeltaFields", runtimeRecoveryDeltaFields decision.input),
    ("runtimeCategory", .str decision.input.runtimeCategory),
    ("recoveryKind", .str decision.input.recoveryKind),
    ("blockedReasonFamily", .str decision.input.blockedReasonFamily),
    ("deltaComparison", decision.comparison.toJson),
    ("decision", .str decision.decision.text)]

def deltaAttemptInput (taskId : String) (decision : RuntimeRecoveryDeltaDecision)
    (state : TaskStageArtifactState) (summary : String) : RecordTaskStageArtifactAttemptInput where
  taskId
  stage := guardStage
  kind := guardKind
  label := some "Runtime recovery delta guard"
  state := some state
  path := some (some (decision.input.artifactPath.getD
    s!"runtime-recovery/{decision.input.stage}/{decision.input.runtimeCategory}"))
  summary := some summary
  sourceSnapshotId := some decision.input.sourceSnapshotId
  metadata := some (.obj (decisionMetadata decision))

def recordRuntimeRecoveryDeltaAttempt (taskIds : List String) (taskId : String)
    (decision : RuntimeRecoveryDeltaDecision) (state : TaskStageArtifactState) (summary : String)
    (draw : Draw) (tables : Tables) : Except String Tables :=
  recordTaskStageArtifactAttempt taskIds (deltaAttemptInput taskId decision state summary) draw
    tables

/-! ### Reading a recorded signature back -/

@[simp] theorem readText_of_get? {candidate : Metadata} {key : String} {value : Option String}
    (found : candidate.get? key = some (optionalText value)) : readText candidate key = value := by
  rw [readText, found]
  cases value with
  | none => rfl
  | some text => rfl

theorem readTexts_of_get? {candidate : Metadata} {key : String} {values : List String}
    (found : candidate.get? key = some (.arr (values.map .str))) :
    readTexts candidate key = values := by
  rw [readTexts, found]
  dsimp only
  rw [List.filterMap_map]
  exact List.filterMap_some

theorem readRuntimeRecoveryDeltaInput_metadata (decision : RuntimeRecoveryDeltaDecision) :
    readRuntimeRecoveryDeltaInput (.obj (decisionMetadata decision)) = some decision.input := by
  have found : (Json.obj (decisionMetadata decision)).get? "runtimeRecoveryFingerprintInput" =
      some decision.input.toJson := rfl
  have object : isObject decision.input.toJson = true := rfl
  obtain ⟨verdict, fingerprint, signature, comparison⟩ := decision
  have text : ∀ key value, signature.toJson.get? key = some (optionalText value) →
      readText signature.toJson key = value := fun _ _ => readText_of_get?
  have refs : readTexts signature.toJson "evidenceRefs" = signature.evidenceRefs :=
    readTexts_of_get? rfl
  rw [readRuntimeRecoveryDeltaInput, found, Option.filter_some, if_pos object, Option.map_some,
    text "taskId" (some signature.taskId) rfl, text "stage" (some signature.stage) rfl,
    text "runtimeCategory" (some signature.runtimeCategory) rfl,
    text "recoveryKind" (some signature.recoveryKind) rfl,
    text "artifactPath" signature.artifactPath rfl, text "artifactSha" signature.artifactSha rfl,
    text "validatorFingerprint" signature.validatorFingerprint rfl,
    text "toolLoopPattern" signature.toolLoopPattern rfl,
    text "blockedReasonFamily" (some signature.blockedReasonFamily) rfl,
    text "sourceSnapshotId" signature.sourceSnapshotId rfl,
    text "sourceSnapshotFingerprint" signature.sourceSnapshotFingerprint rfl,
    text "failedProfileId" signature.failedProfileId rfl,
    refs]
  rfl

@[simp] theorem distinct_optionalText (value : Option String) : Distinct (optionalText value) := by
  cases value with
  | none => trivial
  | some text => trivial

theorem distinctItems_texts (values : List String) :
    Distinct.DistinctItems (values.map .str : List Metadata) := by
  induction values with
  | nil => trivial
  | cons value rest ih => exact ⟨trivial, ih⟩

theorem distinct_toJson (signature : RuntimeRecoveryDeltaSignature) :
    Distinct signature.toJson := by
  simp [RuntimeRecoveryDeltaSignature.toJson, Distinct, Distinct.DistinctFields,
    distinctItems_texts]

theorem distinct_decisionMetadata (decision : RuntimeRecoveryDeltaDecision) :
    Distinct (.obj (decisionMetadata decision)) := by
  simp [decisionMetadata, Distinct, Distinct.DistinctFields, distinct_toJson,
    runtimeRecoveryDeltaFields, DeltaComparison.toJson, distinctItems_texts]

theorem readRuntimeRecoveryDeltaInput_recorded (taskId : String)
    (decision : RuntimeRecoveryDeltaDecision) (state : TaskStageArtifactState) (summary : String)
    (draw : Draw) (artifactId : String) (attemptNumber : Nat) :
    readRuntimeRecoveryDeltaInput (toTaskStageArtifactAttempt (attemptRow
      (deltaAttemptInput taskId decision state summary) draw artifactId attemptNumber)).metadata =
        some decision.input := by
  rw [metadata_recorded rfl (distinct_decisionMetadata decision),
    readRuntimeRecoveryDeltaInput_metadata]

/-! ### Comparing signatures -/

theorem stableItems_texts (compare : Collation String) (values : List String) :
    stableItems compare (values.map .str) = values.map quote := by
  induction values with
  | nil => rfl
  | cons value rest ih =>
    rw [List.map_cons, stableItems, ih]
    rfl

theorem stringifyItems_texts (values : List String) :
    stringifyItems anyNumber.write (values.map .str) =
      List.intercalate [','] (values.map quote) := by
  induction values with
  | nil => rfl
  | cons value rest ih =>
    rw [List.map_cons, stringifyItems, ih]
    cases rest with
    | nil => simp [stringify]
    | cons next others => simp [stringify, List.intercalate]

theorem stableFingerprintJson_texts (compare : Collation String) (values : List String) :
    stableFingerprintJson compare (.arr (values.map .str)) =
      stringify anyNumber.write (.arr (values.map .str)) := by
  rw [stableFingerprintJson, stringify, stableItems_texts, stringifyItems_texts]

theorem stableFingerprintJson_inj {compare : Collation String} {values others : List String} :
    stableFingerprintJson compare (.arr (values.map .str)) =
      stableFingerprintJson compare (.arr (others.map .str)) ↔ values = others := by
  constructor
  · intro same
    rw [stableFingerprintJson_texts, stableFingerprintJson_texts] at same
    have read := parse_stringify anyNumber_lawful (v := .arr (values.map .str))
      (distinctItems_texts values)
    rw [same, parse_stringify anyNumber_lawful (v := .arr (others.map .str))
      (distinctItems_texts others)] at read
    have arrays := Option.some.inj read
    rw [Json.arr.injEq] at arrays
    exact (List.map_injective_iff.mpr (fun _ _ equal => Json.str.inj equal) arrays).symm
  · intro equal
    rw [equal]

/-- The fields that a repeated recovery shares with the earlier one. -/
structure SameDelta (current prior : RuntimeRecoveryDeltaSignature) : Prop where
  artifactSha : current.artifactSha = prior.artifactSha
  validatorFingerprint : current.validatorFingerprint = prior.validatorFingerprint
  toolLoopPattern : current.toolLoopPattern = prior.toolLoopPattern
  blockedReasonFamily : current.blockedReasonFamily = prior.blockedReasonFamily
  evidenceRefs : current.evidenceRefs = prior.evidenceRefs
  sourceSnapshotId : current.sourceSnapshotId = prior.sourceSnapshotId
  sourceSnapshotFingerprint : current.sourceSnapshotFingerprint = prior.sourceSnapshotFingerprint

theorem noDelta_iff (env : Env) (current prior : RuntimeRecoveryDeltaSignature) :
    (compareRuntimeRecoveryDeltaFields env current prior).noDelta = true ↔
      SameDelta current prior := by
  rw [DeltaComparison.noDelta, compareRuntimeRecoveryDeltaFields]
  simp only [stableFingerprintJson_inj, Bool.and_eq_true, decide_eq_true_eq]
  constructor
  · rintro ⟨⟨⟨⟨⟨sha, validator⟩, pattern⟩, family⟩, refs⟩, snapshot, snapshotFingerprint⟩
    exact ⟨sha, validator, pattern, family, refs, snapshot, snapshotFingerprint⟩
  · rintro ⟨sha, validator, pattern, family, refs, snapshot, snapshotFingerprint⟩
    exact ⟨⟨⟨⟨⟨sha, validator⟩, pattern⟩, family⟩, refs⟩, snapshot, snapshotFingerprint⟩

/-- An attempt of the guard that leaves no delta to the signature. -/
def Repeats (input : RuntimeRecoveryDeltaSignature) (attempt : TaskStageArtifactAttempt) : Prop :=
  attempt.stage = guardStage ∧ attempt.kind = guardKind ∧
    ∃ prior, readRuntimeRecoveryDeltaInput attempt.metadata = some prior ∧
      prior.recoveryKind = input.recoveryKind ∧ SameDelta input prior

theorem noDeltaWith_isSome_iff (env : Env) (input : RuntimeRecoveryDeltaSignature)
    (attempt : TaskStageArtifactAttempt) :
    (noDeltaWith env input attempt).isSome = true ↔ Repeats input attempt := by
  rw [noDeltaWith, Repeats]
  by_cases stage : attempt.stage = guardStage
  · by_cases kind : attempt.kind = guardKind
    · cases read : readRuntimeRecoveryDeltaInput attempt.metadata with
      | none => simp [stage, kind]
      | some prior =>
        by_cases same : prior.recoveryKind = input.recoveryKind
        · by_cases repeats : (compareRuntimeRecoveryDeltaFields env input prior).noDelta = true
          · simp [stage, kind, same, repeats, (noDelta_iff env input prior).mp repeats]
          · have delta : ¬ SameDelta input prior :=
              fun equal => repeats ((noDelta_iff env input prior).mpr equal)
            simp [stage, kind, same, repeats, delta]
        · simp [stage, kind, same]
    · simp [stage, kind]
  · simp [stage]

theorem evaluateRuntimeRecoveryDelta_input (env : Env) (tables : Tables)
    (input : RuntimeRecoveryDeltaSignature) :
    (evaluateRuntimeRecoveryDelta env tables input).input = input := by
  rw [evaluateRuntimeRecoveryDelta]
  cases (listTaskStageArtifactAttempts tables input.taskId).findSome? (noDeltaWith env input) with
  | some comparison => rfl
  | none => rfl

theorem evaluateRuntimeRecoveryDelta_iff (env : Env) (tables : Tables)
    (input : RuntimeRecoveryDeltaSignature) :
    (evaluateRuntimeRecoveryDelta env tables input).decision = .failClosedNoDelta ↔
      ∃ row ∈ tables.attempts, row.taskId = input.taskId ∧
        Repeats input (toTaskStageArtifactAttempt row) := by
  have found : (evaluateRuntimeRecoveryDelta env tables input).decision = .failClosedNoDelta ↔
      ((listTaskStageArtifactAttempts tables input.taskId).findSome?
        (noDeltaWith env input)).isSome = true := by
    rw [evaluateRuntimeRecoveryDelta]
    cases (listTaskStageArtifactAttempts tables input.taskId).findSome? (noDeltaWith env input) with
    | some comparison => simp
    | none => simp
  rw [found, List.findSome?_isSome_iff]
  constructor
  · rintro ⟨attempt, listed, repeats⟩
    obtain ⟨row, stored, owner, rfl⟩ := mem_listTaskStageArtifactAttempts.mp listed
    exact ⟨row, stored, owner, (noDeltaWith_isSome_iff env input _).mp repeats⟩
  · rintro ⟨row, stored, owner, repeats⟩
    exact ⟨_, mem_listTaskStageArtifactAttempts.mpr ⟨row, stored, owner, rfl⟩,
      (noDeltaWith_isSome_iff env input _).mpr repeats⟩

/-! ### Context-length failures -/

/-- A stage run that failed, as the coordinator sees it. -/
structure StageFailure where
  task : RecoveryTask
  stage : String
  /-- The category of the runtime error, if there is one. -/
  category : Option String
  inspectionBudgetExhausted : Bool
  failedProfileId : Option String

def contextFallbackSignature (env : Env) (failure : StageFailure) :
    RuntimeRecoveryDeltaSignature :=
  buildRuntimeRecoveryDeltaSignature env {
    task := failure.task
    stage := failure.stage
    runtimeCategory := "context_length"
    recoveryKind := "context_fallback"
    blockedReasonFamily := "context_length"
    sourceSnapshotId := failure.task.requirementsSnapshotId
    failedProfileId := failure.failedProfileId }

/-- What becomes of a failure: it is not a context-length failure, or the task is blocked for
its operator, blocked because nothing has changed, or retried with another profile. -/
inductive ContextLengthOutcome where
  | notHandled
  | fallbackDisabled
  | failedClosed
  | retryWith (profileId : String)
  | noFallback
  deriving DecidableEq

/-- The recovery of a context-length failure; `fallback` is the profile that
`selectContextFallbackProfile` offers. -/
def handleContextLengthRecovery (env : Env) (taskIds : List String) (autoFallbackEnabled : Bool)
    (fallback : Option String) (failure : StageFailure) (draw : Draw) (tables : Tables) :
    Except String (ContextLengthOutcome × Tables) :=
  if failure.category ≠ some "context_length" then .ok (.notHandled, tables)
  else if failure.inspectionBudgetExhausted then .ok (.notHandled, tables)
  else if !autoFallbackEnabled then .ok (.fallbackDisabled, tables)
  else match fallback with
    | none => .ok (.noFallback, tables)
    | some profileId =>
      let decision := evaluateRuntimeRecoveryDelta env tables
        (contextFallbackSignature env failure)
      match decision.decision with
      | .failClosedNoDelta => do
        let tables ← recordRuntimeRecoveryDeltaAttempt taskIds failure.task.id decision
          .rejected "Context fallback repeated with no runtime recovery delta." draw tables
        return (.failedClosed, tables)
      | .allowRecovery => do
        let tables ← recordRuntimeRecoveryDeltaAttempt taskIds failure.task.id decision
          .accepted
          "Context fallback allowed because runtime recovery delta was not repeated."
          draw tables
        return (.retryWith profileId, tables)

/-- A context-length failure for which a fallback profile is looked for. -/
structure ContextFailure (failure : StageFailure) : Prop where
  category : failure.category = some "context_length"
  budget : failure.inspectionBudgetExhausted = false

/-- A failure with a fallback profile on offer is retried unless the guard refuses. -/
theorem handleContextLengthRecovery_outcome (env : Env) {taskIds : List String}
    {failure : StageFailure} (context : ContextFailure failure)
    (known : failure.task.id ∈ taskIds) (profileId : String) (draw : Draw) (tables : Tables) :
    (handleContextLengthRecovery env taskIds true (some profileId) failure draw tables).map (·.1) =
      .ok (if (evaluateRuntimeRecoveryDelta env tables
          (contextFallbackSignature env failure)).decision = .failClosedNoDelta then .failedClosed
        else .retryWith profileId) := by
  rw [handleContextLengthRecovery, if_neg (not_not_intro context.category), context.budget]
  have records : ∀ decision state summary, ∃ next,
      recordRuntimeRecoveryDeltaAttempt taskIds failure.task.id decision state summary draw
        tables = .ok next := by
    intro decision state summary
    rcases recordTaskStageArtifactAttempt_attempts taskIds
      (deltaAttemptInput failure.task.id decision state summary) draw tables with
      ⟨unknown, -⟩ | ⟨-, next, -, -, recorded, -⟩
    · exact absurd known unknown
    · exact ⟨next, recorded⟩
  have enabled : ¬ (!true) = true := by decide
  rw [if_neg Bool.false_ne_true, if_neg enabled]
  dsimp only
  cases verdict : (evaluateRuntimeRecoveryDelta env tables
      (contextFallbackSignature env failure)).decision with
  | failClosedNoDelta =>
    obtain ⟨next, recorded⟩ := records (evaluateRuntimeRecoveryDelta env tables
      (contextFallbackSignature env failure)) .rejected
      "Context fallback repeated with no runtime recovery delta."
    rw [if_pos rfl]
    dsimp only
    rw [recorded]
    rfl
  | allowRecovery =>
    obtain ⟨next, recorded⟩ := records (evaluateRuntimeRecoveryDelta env tables
      (contextFallbackSignature env failure)) .accepted
      "Context fallback allowed because runtime recovery delta was not repeated."
    rw [if_neg (by decide)]
    dsimp only
    rw [recorded]
    rfl

theorem contextFallbackSignature_kind (env : Env) (failure : StageFailure) :
    (contextFallbackSignature env failure).recoveryKind = "context_fallback" := by
  have plain : normalizeNullableString (some "context_fallback") = some "context_fallback" := by
    decide
  rw [contextFallbackSignature, buildRuntimeRecoveryDeltaSignature]
  dsimp only
  rw [plain, Option.getD_some]

/-- Two context-length failures of a task with one requirements snapshot have no delta,
whatever their stages and profiles. -/
theorem contextFallbackSignature_sameDelta (env : Env) {first second : StageFailure}
    (snapshot : first.task.requirementsSnapshotId = second.task.requirementsSnapshotId) :
    SameDelta (contextFallbackSignature env first) (contextFallbackSignature env second) where
  artifactSha := rfl
  validatorFingerprint := rfl
  toolLoopPattern := rfl
  blockedReasonFamily := rfl
  evidenceRefs := rfl
  sourceSnapshotId := by
    rw [contextFallbackSignature, contextFallbackSignature, buildRuntimeRecoveryDeltaSignature,
      buildRuntimeRecoveryDeltaSignature]
    dsimp only
    rw [snapshot]
  sourceSnapshotFingerprint := rfl

/-! ### Histories -/

/-- A recording on the stage artifacts: an attempt of the guard, on the task of its signature,
or an attempt of another stage or kind. `taskIds` are the tasks that exist by then. -/
inductive Recording where
  | delta (taskIds : List String) (decision : RuntimeRecoveryDeltaDecision)
      (state : TaskStageArtifactState) (summary : String) (draw : Draw)
  | other (taskIds : List String) (input : RecordTaskStageArtifactAttemptInput)
      (elsewhere : input.stage ≠ guardStage ∨ input.kind ≠ guardKind) (draw : Draw)

/-- The tables behind a recording; one that throws changes nothing. -/
def orUnchanged (tables : Tables) : Except String Tables → Tables
  | .ok next => next
  | .error _ => tables

def record (tables : Tables) : Recording → Tables
  | .delta taskIds decision state summary draw => orUnchanged tables
      (recordRuntimeRecoveryDeltaAttempt taskIds decision.input.taskId decision state summary draw
        tables)
  | .other taskIds input _ draw => orUnchanged tables
      (recordTaskStageArtifactAttempt taskIds input draw tables)

def history (recordings : List Recording) : Tables := recordings.foldl record ⟨[], []⟩

/-- The signatures that a recording adds. -/
def Recording.signatures : Recording → List RuntimeRecoveryDeltaSignature
  | .delta taskIds decision _ _ _ =>
    if decision.input.taskId ∈ taskIds then [decision.input] else []
  | .other .. => []

def recordedSignatures (recordings : List Recording) : List RuntimeRecoveryDeltaSignature :=
  recordings.flatMap Recording.signatures

/-- A signature that the guard would not tell from an earlier one of the same task and kind. -/
structure NoDelta (input prior : RuntimeRecoveryDeltaSignature) : Prop where
  taskId : prior.taskId = input.taskId
  recoveryKind : prior.recoveryKind = input.recoveryKind
  delta : SameDelta input prior

/-- The guard attempts of the tables are the signatures. -/
def Represents (tables : Tables) (signatures : List RuntimeRecoveryDeltaSignature) : Prop :=
  ∀ input, (∃ row ∈ tables.attempts, row.taskId = input.taskId ∧
      Repeats input (toTaskStageArtifactAttempt row)) ↔ ∃ prior ∈ signatures, NoDelta input prior

theorem repeats_delta_iff (input : RuntimeRecoveryDeltaSignature)
    (decision : RuntimeRecoveryDeltaDecision) (state : TaskStageArtifactState) (summary : String)
    (draw : Draw) (artifactId : String) (attemptNumber : Nat) :
    Repeats input (toTaskStageArtifactAttempt (attemptRow
      (deltaAttemptInput decision.input.taskId decision state summary) draw artifactId
        attemptNumber)) ↔
      decision.input.recoveryKind = input.recoveryKind ∧ SameDelta input decision.input := by
  rw [Repeats, readRuntimeRecoveryDeltaInput_recorded]
  constructor
  · rintro ⟨-, -, prior, read, kind, same⟩
    obtain rfl := Option.some.inj read
    exact ⟨kind, same⟩
  · rintro ⟨kind, same⟩
    exact ⟨rfl, rfl, _, rfl, kind, same⟩

/-- What one recording keeps. -/
theorem Represents.record {tables : Tables} {signatures : List RuntimeRecoveryDeltaSignature}
    (represents : Represents tables signatures) (recording : Recording) :
    Represents (record tables recording) (signatures ++ recording.signatures) := by
  intro input
  cases recording with
  | delta taskIds decision state summary draw =>
    rw [RuntimeRecovery.record, Recording.signatures, recordRuntimeRecoveryDeltaAttempt]
    rcases recordTaskStageArtifactAttempt_attempts taskIds
      (deltaAttemptInput decision.input.taskId decision state summary) draw tables with
      ⟨unknown, failed⟩ | ⟨known, next, artifactId, attemptNumber, recorded, attempts⟩
    · have fresh : decision.input.taskId ∉ taskIds := unknown
      rw [failed, if_neg fresh, List.append_nil]
      exact represents input
    · have present : decision.input.taskId ∈ taskIds := known
      rw [recorded, if_pos present]
      dsimp only [orUnchanged]
      rw [attempts]
      simp only [List.mem_append, List.mem_singleton, or_and_right, exists_or, exists_eq_left]
      rw [represents input, repeats_delta_iff]
      constructor
      · rintro (earlier | ⟨task, kind, same⟩)
        · exact .inl earlier
        · exact .inr ⟨task, kind, same⟩
      · rintro (earlier | repeated)
        · exact .inl earlier
        · exact .inr ⟨repeated.taskId, repeated.recoveryKind, repeated.delta⟩
  | other taskIds other elsewhere draw =>
    rw [RuntimeRecovery.record, Recording.signatures, List.append_nil, ← represents input]
    rcases recordTaskStageArtifactAttempt_attempts taskIds other draw tables with
      ⟨-, failed⟩ | ⟨-, next, artifactId, attemptNumber, recorded, attempts⟩
    · rw [failed]
      rfl
    · rw [recorded]
      dsimp only [orUnchanged]
      rw [attempts]
      simp only [List.mem_append, List.mem_singleton, or_and_right, exists_or, exists_eq_left]
      refine or_iff_left ?_
      rintro ⟨-, stage, kind, -⟩
      rcases elsewhere with differs | differs
      · exact differs stage
      · exact differs kind

theorem represents_history (recordings : List Recording) :
    Represents (history recordings) (recordedSignatures recordings) := by
  induction recordings using List.reverseRecOn with
  | nil =>
    intro input
    simp [history, recordedSignatures]
  | append_singleton earlier recording ih =>
    rw [history, recordedSignatures, List.foldl_append, List.flatMap_append,
      List.flatMap_singleton]
    exact ih.record recording

/-- After a history the guard refuses exactly what has no delta to a recorded signature. -/
theorem evaluateRuntimeRecoveryDelta_history (env : Env) (recordings : List Recording)
    (input : RuntimeRecoveryDeltaSignature) :
    (evaluateRuntimeRecoveryDelta env (history recordings) input).decision = .failClosedNoDelta ↔
      ∃ prior ∈ recordedSignatures recordings, NoDelta input prior := by
  rw [evaluateRuntimeRecoveryDelta_iff]
  exact represents_history recordings input

theorem normalizeRuntimeRecoveryEvidenceRefs_eq_iff (env : Env) {refs others : List String}
    (separates : env.localeCompare.Separates (givenRefs refs)) :
    normalizeRuntimeRecoveryEvidenceRefs env (some refs) =
        normalizeRuntimeRecoveryEvidenceRefs env (some others) ↔
      ∀ ref, ref ∈ givenRefs refs ↔ ref ∈ givenRefs others :=
  sortedSet_eq_iff separates

/-- A context-length failure repeats an earlier one of its task, whatever the stages and
profiles, while the requirements snapshot is the same. -/
theorem contextFallbackSignature_noDelta (env : Env) {first second : StageFailure}
    (task : first.task = second.task) :
    NoDelta (contextFallbackSignature env second) (contextFallbackSignature env first) where
  taskId := congrArg RecoveryTask.id task
  recoveryKind := by
    rw [contextFallbackSignature_kind, contextFallbackSignature_kind]
  delta := contextFallbackSignature_sameDelta env (by rw [task])

/-- After every history, the guard refuses a signature exactly when one of the same task and
recovery kind with the same delta fields was recorded; recorded signatures are read back as they
were; and references are compared as sets. So a context-length failure is refused behind an
earlier one of its task whatever the stages and profiles, and the first one of a task is
retried. -/
theorem recovery_refused_exactly_on_no_delta (env : Env) (recordings : List Recording) :
    (∀ input, (evaluateRuntimeRecoveryDelta env (history recordings) input).decision =
        .failClosedNoDelta ↔ ∃ prior ∈ recordedSignatures recordings, NoDelta input prior) ∧
      (∀ taskId decision state summary draw artifactId attemptNumber,
        readRuntimeRecoveryDeltaInput (toTaskStageArtifactAttempt (attemptRow
          (deltaAttemptInput taskId decision state summary) draw artifactId
            attemptNumber)).metadata = some decision.input) ∧
      (∀ refs others, env.localeCompare.Separates (givenRefs refs) →
        (normalizeRuntimeRecoveryEvidenceRefs env (some refs) =
            normalizeRuntimeRecoveryEvidenceRefs env (some others) ↔
          ∀ ref, ref ∈ givenRefs refs ↔ ref ∈ givenRefs others)) ∧
      ∀ taskIds failure profileId draw, ContextFailure failure → failure.task.id ∈ taskIds →
        ((∃ first, first.task = failure.task ∧
            contextFallbackSignature env first ∈ recordedSignatures recordings) →
          (handleContextLengthRecovery env taskIds true (some profileId) failure draw
            (history recordings)).map (·.1) = .ok .failedClosed) ∧
        ((∀ prior ∈ recordedSignatures recordings, prior.taskId = failure.task.id →
            prior.recoveryKind ≠ "context_fallback") →
          (handleContextLengthRecovery env taskIds true (some profileId) failure draw
            (history recordings)).map (·.1) = .ok (.retryWith profileId)) := by
  refine ⟨evaluateRuntimeRecoveryDelta_history env recordings,
    readRuntimeRecoveryDeltaInput_recorded,
    fun _ _ separates => normalizeRuntimeRecoveryEvidenceRefs_eq_iff env separates, ?_⟩
  intro taskIds failure profileId draw context known
  rw [handleContextLengthRecovery_outcome env context known]
  constructor
  · rintro ⟨first, task, recorded⟩
    rw [if_pos]
    exact (evaluateRuntimeRecoveryDelta_history env recordings _).mpr
      ⟨_, recorded, contextFallbackSignature_noDelta env task⟩
  · intro fresh
    rw [if_neg]
    intro refused
    obtain ⟨prior, recorded, noDelta⟩ :=
      (evaluateRuntimeRecoveryDelta_history env recordings _).mp refused
    exact fresh prior recorded noDelta.taskId
      (noDelta.recoveryKind.trans (contextFallbackSignature_kind env failure))

/-! ### A planner failure before an implementer failure -/

def sampleEnv : Env where
  toLowerCase := Text.toLowerCase
  localeCompare := {
    le := fun left right => decide (left ≤ right)
    total := by
      intro left right
      simpa using String.le_total left right
    trans := by
      intro left middle right first second
      simpa using String.le_trans (of_decide_eq_true first) (of_decide_eq_true second) }
  sha256 := String.ofList

def plannerFailure : StageFailure where
  task := ⟨"task-1", none⟩
  stage := "planner"
  category := some "context_length"
  inspectionBudgetExhausted := false
  failedProfileId := some "small"

def implementerFailure : StageFailure where
  task := ⟨"task-1", none⟩
  stage := "implementer"
  category := some "context_length"
  inspectionBudgetExhausted := false
  failedProfileId := some "large"

def plannerRecording : Recording :=
  .delta ["task-1"]
    (evaluateRuntimeRecoveryDelta sampleEnv ⟨[], []⟩
      (contextFallbackSignature sampleEnv plannerFailure))
    .accepted "Context fallback allowed because runtime recovery delta was not repeated."
    ⟨"attempt-1", "artifact-1", "2026-01-01T00:00:00.000Z"⟩

theorem plannerRecording_signatures :
    recordedSignatures [plannerRecording] =
      [contextFallbackSignature sampleEnv plannerFailure] := by
  have task : (contextFallbackSignature sampleEnv plannerFailure).taskId ∈ ["task-1"] :=
    List.mem_singleton_self _
  rw [recordedSignatures, List.flatMap_singleton, plannerRecording, Recording.signatures,
    evaluateRuntimeRecoveryDelta_input, if_pos task]

/-- The implementer is refused a larger profile because the planner has had one. -/
theorem recovery_refused_after_planner :
    (handleContextLengthRecovery sampleEnv ["task-1"] true (some "larger") implementerFailure
      ⟨"attempt-2", "artifact-2", "2026-01-02T00:00:00.000Z"⟩
        (history [plannerRecording])).map (·.1) = .ok .failedClosed :=
  ((recovery_refused_exactly_on_no_delta sampleEnv [plannerRecording]).2.2.2 ["task-1"]
    implementerFailure "larger" ⟨"attempt-2", "artifact-2", "2026-01-02T00:00:00.000Z"⟩
    ⟨rfl, rfl⟩ (List.mem_singleton_self _)).1
    ⟨plannerFailure, rfl, by
      rw [plannerRecording_signatures]
      exact List.mem_singleton_self _⟩

/-- Neither the stage nor the failed profile has to be the same for a refusal. -/
theorem refused_at_another_stage_and_profile :
    ¬ ∀ (env : Env) (recordings : List Recording) (input : RuntimeRecoveryDeltaSignature),
      (evaluateRuntimeRecoveryDelta env (history recordings) input).decision =
          .failClosedNoDelta ↔
        ∃ prior ∈ recordedSignatures recordings, prior.stage = input.stage ∧
          prior.failedProfileId = input.failedProfileId ∧ NoDelta input prior := by
  intro claimed
  have repeats : NoDelta (contextFallbackSignature sampleEnv implementerFailure)
      (contextFallbackSignature sampleEnv plannerFailure) :=
    contextFallbackSignature_noDelta sampleEnv rfl
  have stored : contextFallbackSignature sampleEnv plannerFailure ∈
      recordedSignatures [plannerRecording] := by
    rw [plannerRecording_signatures]
    exact List.mem_singleton_self _
  have refused := (evaluateRuntimeRecoveryDelta_history sampleEnv [plannerRecording]
    (contextFallbackSignature sampleEnv implementerFailure)).mpr ⟨_, stored, repeats⟩
  obtain ⟨prior, recorded, stage, -⟩ := (claimed sampleEnv [plannerRecording] _).mp refused
  rw [plannerRecording_signatures] at recorded
  obtain rfl := List.mem_singleton.mp recorded
  exact absurd stage (by decide)

end AifHandoff.Agent.RuntimeRecovery
