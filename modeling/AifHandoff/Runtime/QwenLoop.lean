import AifHandoff.Lib.Doubles
import AifHandoff.Lib.StopLoop
import AifHandoff.Runtime.QwenCalls
import AifHandoff.Shared.EvidenceLedger

/-!
The tool loop of the local agent (`runQwenLocalAgentApi`,
`runtime/adapters/qwenLocalAgent/api.ts`).

A turn posts the transcript and works through the calls of the response; either may end the run.
The endpoint, the tools and the file system are a `Host`: a machine whose state no one but the
host looks into. What a run does beside its state is kept as its `deeds`.
-/

namespace AifHandoff.Runtime

open Text Shared

variable {World ν : Type}

/-! ### Messages and results -/

inductive Message where
  | system (content : String)
  | user (content : String)
  | assistant (content : Option String) (toolCalls : List ToolCall)
  | tool (toolCallId name content : String)
deriving DecidableEq, Repr

def Message.isSystem : Message → Bool
  | .system _ => true
  | _ => false

def Message.userContent? : Message → Option String
  | .user content => some content
  | _ => none

/-- What a tool answers; `exitCode` may be absent, `null` or a number. -/
structure ToolResult (ν : Type) where
  ok : Bool
  output : String
  error : Option String
  exitCode : Option (Option Int)
  touchedFiles : List String
  policyViolation : Bool
  repositoryInspectionBudgetExhausted : Bool
  auditReportRepairInspectionDenied : Bool
  auditReportValidation : Option (Json ν)

def failedResult (error : String) : ToolResult ν where
  ok := false
  output := ""
  error := some error
  exitCode := some none
  touchedFiles := []
  policyViolation := false
  repositoryInspectionBudgetExhausted := false
  auditReportRepairInspectionDenied := false
  auditReportValidation := none

/-! ### What a run is given -/

/-- A number of the configuration. -/
inductive ConfigNumber where
  | finite (value : Rat)
  | notFinite

structure EndpointBudget where
  maxInputTokens : Nat
  compactTargetInputTokens : Nat
  toolResultMaxChars : Nat
  ledgerPreviewMaxChars : Nat
deriving DecidableEq

inductive FinalizationMode where
  | controlledFailure
  | compactFinalResponse
deriving DecidableEq, Repr

/-- `input` and the tool context made from it. -/
structure RunInput where
  workflowKind : String
  systemPrompt : Option String
  systemPromptAppend : Option String
  prompt : String
  cwd : String
  executionMaxTurns : Option ConfigNumber
  optionMaxToolTurns : Option ConfigNumber
  executionRepositoryInspectionToolBudget : Option ConfigNumber
  optionRepositoryInspectionToolBudget : Option ConfigNumber
  executionFinalResponseTimeoutMs : Option ConfigNumber
  optionFinalResponseTimeoutMs : Option ConfigNumber
  executionFinalizationMode : Option String
  optionFinalizationMode : Option String
  optionRepeatedToolCallLimit : Option ConfigNumber
  auditReportArtifactPath : Option String
  /-- `input.execution.allowedWritePaths`. -/
  requestedWritePaths : List String
  /-- `toolContext.allowedWritePaths`. -/
  allowedWritePaths : List String
  /-- `toolContext.auditReportValidation.expectedReportArtifactPath`. -/
  expectedReportArtifactPath : Option String
  /-- `toolContext.auditEvidenceUnitContext`, by its links. -/
  evidenceLinks : Option (List AuditRiskHypothesisScopeLink)
  initialEvidenceUnits : List AuditEvidenceUnit
  maxOutputChars : Nat
  /-- `resolveEndpointPolicy(input).budget`. -/
  budget : Option EndpointBudget

def readMaxToolTurns (input : RunInput) : Nat :=
  match input.executionMaxTurns.or input.optionMaxToolTurns with
  | some (.finite raw) => if raw ≤ 0 then 12 else max 1 (min raw.floor.toNat 400)
  | some .notFinite | none => 12

def readRepositoryInspectionToolBudget (input : RunInput) : Option Nat :=
  match input.executionRepositoryInspectionToolBudget.or
      input.optionRepositoryInspectionToolBudget with
  | some (.finite raw) => if raw < 0 then none else some (min raw.floor.toNat 200)
  | some .notFinite | none => none

/-- Whether there is a time limit for the final response. -/
def hasFinalResponseTimeout (input : RunInput) : Bool :=
  match input.executionFinalResponseTimeoutMs.or input.optionFinalResponseTimeoutMs with
  | some (.finite raw) => 0 < raw
  | some .notFinite => false
  | none => true

def readFinalizationMode (input : RunInput) : FinalizationMode :=
  if input.executionFinalizationMode.or input.optionFinalizationMode = some "controlled_failure" then
    .controlledFailure
  else .compactFinalResponse

def readRepeatedToolCallLimit (input : RunInput) : Nat :=
  match input.optionRepeatedToolCallLimit with
  | some (.finite raw) => if raw ≤ 0 then 6 else max 1 (min raw.floor.toNat 12)
  | some .notFinite | none => 6

/-- The endpoint, the tools, the file system and the library functions a run calls. -/
structure Host (World ν : Type) where
  numbers : NumberTexts ν
  number : Int → ν
  localeLe : String → String → Bool
  ledger : LedgerTools
  estimateTokens : List Message → Nat
  truncateTextForRequest : String → Rat → String
  safeModelText : String → Nat → String
  /-- The message of the exception `JSON.parse` throws. -/
  parseError : String → String
  /-- The body of the response, `none` where the request ends in an exception. -/
  post : World → List Message → World × Option (Json ν)
  /-- `readToolLoopFileState` of a path it takes for safe. -/
  fileState : World → String → Json ν
  executeQwenLocalTool :
    World → List AuditEvidenceUnit → String → Fields ν → World × ToolResult ν
  aborted : World → Bool
  randomId : World → World × String

/-! ### What a run does -/

/-- A call that was worked through: what was found out about it and what came of it. -/
structure CallRecord (ν : Type) where
  call : ToolCall
  args : Fields ν
  fileStates : List (Json ν)
  toolAllowed : Bool
  executed : Bool
  result : ToolResult ν
  /-- The unit that was added to the ledger. -/
  unit : Option AuditEvidenceUnit

inductive Deed (ν : Type) where
  | request (messages : List Message) (answer : Option (Json ν))
  | toolCall (record : CallRecord ν)
  /-- A call the run makes by itself, at its end. -/
  | finalization (toolName : String) (args : Fields ν) (result : ToolResult ν)

structure LoopState (World ν : Type) where
  world : World
  messages : List Message
  lastToolCallSignature : Option String
  repeatedToolCallCount : Nat
  repositoryInspectionToolCalls : Nat
  repositoryInspectionBudgetWarnings : Nat
  repositoryInspectionBudgetCompacted : Bool
  auditLowQualityRepairLock : Bool
  failedAuditReportValidationPasses : Nat
  auditReportValidationFingerprintCounts : String → Nat
  toolCallSignatureCounts : String → Nat
  gitStatusResultFingerprintCounts : String → List (String × Nat)
  auditEvidenceUnits : List AuditEvidenceUnit
  deeds : List (Deed ν)

/-- How a run ends: with a text, or with an exception. -/
inductive RunEnd (ν : Type) where
  | answered (content : String)
  | stoppedAfterValidationPasses (fingerprint : String) (passes : Nat)
  /-- The report was valid: with the result of the automatic commit, if there was a path. -/
  | reportCommitted (commit : Option (ToolResult ν))
  | validationFailed (result : ToolResult ν)
  | stoppedWithoutReport
  | controlledFailure
  | requestFailed
  | repeatedToolLoopBlocked (toolName : String) (repeatedCount limit : Nat)
  | policyViolation (toolName : String)
  | inspectionDenials (warnings : Nat)
  | aborted
  | maxTurnsExhausted (afterBudget : Bool)

/-- A map of counts with one more of a key. -/
def bump (counts : String → Nat) (key : String) : String → Nat :=
  fun other => if other = key then counts other + 1 else counts other

section Run

variable (host : Host World ν) (input : RunInput)

/-! ### Messages -/

def baseSystem : String :=
  "You are qwen-local-agent, an AIF-controlled repository worker. Use only the provided tools. All paths are relative to the project root. Do not request, read, print, or summarize secrets. Finish with a concise result."

/-- A text that is given and not empty. -/
def filled (text : Option String) : Option String := text.filter fun text => !text.isEmpty

def buildMessages : List Message :=
  let withPrompt := match filled input.systemPrompt with
    | some systemPrompt => baseSystem ++ "\n\n" ++ systemPrompt
    | none => baseSystem
  let systemContent := match filled input.systemPromptAppend with
    | some systemPromptAppend => withPrompt ++ "\n\n" ++ systemPromptAppend
    | none => withPrompt
  [.system systemContent, .user input.prompt]

/-- The first three lines of a preview, in one. -/
def previewLine (outputPreview : String) : String :=
  join " / " ((((splitLines outputPreview).map trim).filter fun line => !line.isEmpty).take 3)

def buildCompactAuditEvidenceLedger (units : List AuditEvidenceUnit) (maxPreviewChars : Nat) :
    String :=
  if units.isEmpty then
    "No runtime audit evidence units are available in this compacted transcript."
  else
    let omitted := units.length - 40
    let visible := units.drop omitted
    join "\n" <|
      ["Runtime audit evidence units available: " ++ toString units.length ++
          (if 0 < omitted then " (" ++ toString omitted ++ " earlier unit(s) omitted)" else "") ++ ".",
        "Use exact ev_* IDs only; do not invent or abbreviate evidence IDs."] ++
      visible.map fun unit =>
        let preview := host.truncateTextForRequest (previewLine unit.outputPreview) maxPreviewChars
        join " | " <|
          ["- " ++ unit.id,
            "kind=" ++ unit.evidenceKind.text ++ "/" ++ unit.evidenceGrade.text,
            "tool=" ++ unit.toolName,
            "scope=" ++ join "," unit.scopeIds,
            "risks=" ++ join "," unit.riskHypothesisIds] ++
          if preview.isEmpty then [] else ["preview=" ++ preview]

inductive CompactionReason where
  | repositoryInspectionBudgetExhausted
  | endpointInputBudget
  | endpointInputSoftBudget
deriving DecidableEq, Repr

def CompactionReason.text : CompactionReason → String
  | .repositoryInspectionBudgetExhausted => "repository_inspection_budget_exhausted"
  | .endpointInputBudget => "endpoint_input_budget"
  | .endpointInputSoftBudget => "endpoint_input_soft_budget"

def compactUserText (messages : List Message) (units : List AuditEvidenceUnit)
    (reason : CompactionReason) (budget : EndpointBudget) : String :=
  let originalPrompt :=
    if (trim input.prompt).isEmpty then (messages.findSome? Message.userContent?).getD ""
    else input.prompt
  let taskPrompt := host.truncateTextForRequest originalPrompt
    (Double.times (Double.times budget.compactTargetInputTokens 3) (35 / 100))
  join "\n" <|
    ["QWEN COMPACT CONTEXT MODE", "reason=" ++ reason.text,
      "The prior transcript was compacted to protect the local endpoint context and memory budget.",
      "Do not request broad repository inspection. Use existing evidence and write/finalize the requested artifact, or produce a controlled source_inconclusive result with exact coverage gaps."] ++
    (if reason = .repositoryInspectionBudgetExhausted then
      ["Repository-inspection tools are disabled for this finalization request; use only artifact write/finalize/validate/commit tools or finish with final text."]
    else []) ++
    ((filled input.auditReportArtifactPath).map
      ("Expected audit report artifact: " ++ ·)).toList ++
    (if input.requestedWritePaths.isEmpty then []
    else ["Allowed write paths: " ++ join ", " input.requestedWritePaths]) ++
    ["", "Original task prompt (compacted):", taskPrompt, "", "Compact audit evidence ledger:",
      buildCompactAuditEvidenceLedger host units budget.ledgerPreviewMaxChars]

def compactMessagesForEndpointBudget (messages : List Message) (units : List AuditEvidenceUnit)
    (reason : CompactionReason) (budget : EndpointBudget) : List Message :=
  let systemMessage := (messages.find? Message.isSystem).or messages.head?
  systemMessage.toList ++ [.user (compactUserText host input messages units reason budget)]

/-! ### Budgets -/

def isAuditArtifactMaintenanceToolCall (toolName : String) (args : Fields ν) : Bool :=
  if input.workflowKind ≠ "audit" then false
  else if !auditArtifactMaintenanceToolNames.contains toolName then false
  else
    let artifact := input.expectedReportArtifactPath.or input.auditReportArtifactPath
    match normalizeToolLoopPath (artifact.map fun path => (.str path : Json ν)) with
    | none => false
    | some artifactPath =>
      if !input.allowedWritePaths.isEmpty && !input.allowedWritePaths.contains artifactPath then
        false
      else match normalizeToolLoopPath (args.lookup "path") with
        | none => false
        | some requestedPath =>
          if toolName = "read_file" then requestedPath = artifactPath
          else requestedPath = dirnameForRepositoryBudgetPath artifactPath

def isRepositoryInspectionToolCall (toolName : String) (args : Fields ν) : Bool :=
  repositoryInspectionToolNames.contains toolName &&
    !isAuditArtifactMaintenanceToolCall input toolName args

def budgetExhausted (s : LoopState World ν) : Bool :=
  (readRepositoryInspectionToolBudget input).any (· ≤ s.repositoryInspectionToolCalls)

/-! ### One call -/

/-- `JSON.stringify` of a result that answers unparsable arguments. -/
def parseResultText (result : ToolResult ν) : String :=
  String.ofList <| Json.stringify host.numbers.write <| .obj
    [("ok", .bool result.ok), ("output", .str result.output), ("error", orNull result.error),
      ("exitCode", .null), ("touchedFiles", .arr (result.touchedFiles.map .str))]

def qwenToolResultForModel (result : ToolResult ν) (maxOutputChars : Nat)
    (auditEvidence : Option AuditEvidenceUnit) : String :=
  String.ofList <| Json.stringify host.numbers.write <| .obj <|
    [("ok", .bool result.ok), ("output", .str (host.safeModelText result.output maxOutputChars))] ++
    ((filled result.error).map fun error =>
      ("error", .str (host.safeModelText error maxOutputChars))).toList ++
    (result.exitCode.map fun code => ("exitCode",
      match code with
      | some code => .num (host.number code)
      | none => .null)).toList ++
    (if result.policyViolation then [("policyViolation", .bool true)] else []) ++
    [("touchedFiles", .arr (result.touchedFiles.map .str))] ++
    (auditEvidence.map fun unit => ("auditEvidence", Json.obj
      [("id", .str unit.id), ("evidenceKind", .str unit.evidenceKind.text),
        ("evidenceGrade", .str unit.evidenceGrade.text),
        ("scopeIds", .arr (unit.scopeIds.map .str)),
        ("riskHypothesisIds", .arr (unit.riskHypothesisIds.map .str)),
        ("outputSha256", .str unit.outputSha256), ("outputPreview", .str unit.outputPreview),
        ("outputPreviewTruncated", .bool unit.outputPreviewTruncated)])).toList

def LoopState.push (s : LoopState World ν) (message : Message) : LoopState World ν :=
  { s with messages := s.messages ++ [message] }

def LoopState.note (s : LoopState World ν) (deed : Deed ν) : LoopState World ν :=
  { s with deeds := s.deeds ++ [deed] }

/-- `readToolLoopFileState`. -/
def readToolLoopFileState (world : World) (path : String) : Json ν :=
  if isSafeToolLoopStatePath path then host.fileState world path
  else .obj [("path", .str path), ("status", .str "unsafe_path")]

def toolLoopFileStates (world : World) (toolName : String) (args : Fields ν) : List (Json ν) :=
  (toolLoopStatePaths host.localeLe (sanitizeQwenToolNameForLog toolName) args).map
    (readToolLoopFileState host world)

def RunInput.fingerprintContext : FingerprintContext where
  workflowKind := input.workflowKind
  cwd := input.cwd
  allowedWritePaths := input.allowedWritePaths

def buildToolCallFingerprint (toolName : String) (args : Fields ν) (fileStates : List (Json ν)) :
    String :=
  host.ledger.sha256 <| String.ofList <| Json.stringify host.numbers.write <|
    fingerprintInput host.localeLe input.fingerprintContext toolName args fileStates

def LoopState.noteSignature (s : LoopState World ν) (signature : String) : LoopState World ν :=
  { s with
    toolCallSignatureCounts := bump s.toolCallSignatureCounts signature
    repeatedToolCallCount :=
      if s.lastToolCallSignature = some signature then s.repeatedToolCallCount + 1 else 1
    lastToolCallSignature := some signature }

def toolCallLimit (toolName : String) : Nat :=
  repeatedToolCallLimitForTool input.workflowKind toolName (readRepeatedToolCallLimit input)

/-- The largest of the counts that reached the limit. -/
def repeatedGitStatusResult (counts : List (String × Nat)) (limit : Nat) : Option Nat :=
  counts.foldl (fun repeated entry =>
    if entry.2 < limit then repeated
    else match repeated with
      | none => some entry.2
      | some count => if count < entry.2 then some entry.2 else some count) none

/-- How often the call was repeated, where that is too often. `s` counts the call already. -/
def repeatedLoop (s : LoopState World ν) (toolName signature : String) : Option Nat :=
  let limit := toolCallLimit input toolName
  let safeToolName := sanitizeQwenToolNameForLog toolName
  let repeatedGitStatus :=
    if safeToolName = "git_status" then
      repeatedGitStatusResult (s.gitStatusResultFingerprintCounts signature) limit
    else none
  if limit < s.repeatedToolCallCount ||
      (nonconsecutiveSignatureLimitTools.contains safeToolName &&
        limit < s.toolCallSignatureCounts signature) ||
      repeatedGitStatus.isSome then
    some (max (max s.repeatedToolCallCount (s.toolCallSignatureCounts signature))
      ((repeatedGitStatus.map (· + 1)).getD 0))
  else none

inductive Denial where
  | auditRepairInspection
  | repositoryInspection
  | readOnlyShell
  | notAllowed
deriving DecidableEq, Repr

/-- Why a call is not executed. -/
def denial (s : LoopState World ν) (toolName : String) (args : Fields ν) : Option Denial :=
  let toolAllowed := isQwenToolAllowedForWorkflow input.workflowKind toolName
  let inspects := isRepositoryInspectionToolCall input toolName args
  if toolAllowed && s.auditLowQualityRepairLock && inspects then some .auditRepairInspection
  else if toolAllowed && inspects && budgetExhausted input s then some .repositoryInspection
  else if toolAllowed && readOnlyWorkflows.contains input.workflowKind && toolName = "run_shell" &&
      !isReadOnlyShellCommandAllowed args then some .readOnlyShell
  else if !toolAllowed then some .notAllowed
  else none

def denialResult (toolName : String) : Denial → ToolResult ν
  | .auditRepairInspection =>
    { (failedResult (join " "
        ["Audit report low-quality repair lock is active; " ++ sanitizeQwenToolNameForLog toolName ++
            " cannot inspect source files during this repair.",
          "Use the existing ledger evidence and edit only the audit report artifact.",
          "If the rejected findings cannot be made concrete from existing evidence, delete them and rewrite the report as validated_no_findings or source_inconclusive as appropriate.",
          "Then call finalize_audit_report_manifest and validate_audit_report again."]) :
        ToolResult ν) with
      auditReportRepairInspectionDenied := true }
  | .repositoryInspection =>
    let budget := toString ((readRepositoryInspectionToolBudget input).getD 0)
    { (failedResult (join " "
        ["Repository inspection budget exhausted after " ++ budget ++ " inspection tool call(s).",
          "Do not call " ++ sanitizeQwenToolNameForLog toolName ++
            " or other repository-inspection tools again in this run.",
          "Use the evidence already collected to write the required artifact with write_file or apply_patch,",
          "then use git_status/git_commit if needed, or finish with explicit limitations.",
          "repositoryInspectionToolBudget=" ++ budget]) : ToolResult ν) with
      repositoryInspectionBudgetExhausted := true }
  | .readOnlyShell =>
    failedResult
      "run_shell command denied: this workflow is read-only and allows only inspection commands."
  | .notAllowed =>
    failedResult (sanitizeQwenToolNameForLog toolName ++ " is not allowed for " ++
      input.workflowKind ++ " workflow")

/-- The result of a call, and the world behind it. -/
def resultOf (s : LoopState World ν) (toolName : String) (args : Fields ν) :
    World × ToolResult ν :=
  match denial input s toolName args with
  | some reason => (s.world, denialResult input toolName reason)
  | none => host.executeQwenLocalTool s.world s.auditEvidenceUnits toolName args

def normalizeGitStatusOutput (output : String) : String :=
  trim (String.ofList ((join "\n" (splitLines output)).toList.map fun c =>
    if c = '\r' then '\n' else c))

def buildGitStatusResultFingerprint (result : ToolResult ν) : String :=
  host.ledger.sha256 <| String.ofList <| Json.stringify host.numbers.write <|
    stableToolValue host.localeLe <| .obj
      [("toolName", .str "git_status"),
        ("exitCode", match result.exitCode with
          | some (some code) => .num (host.number code)
          | _ => .null),
        ("output", .str (normalizeGitStatusOutput result.output)),
        ("touchedFiles", .arr
          ((result.touchedFiles.insertionSort fun a b => host.localeLe a b = true).map .str))]

/-- One more of a key in a list of counts. -/
def bumpEntry (counts : List (String × Nat)) (key : String) : List (String × Nat) :=
  if counts.any (·.1 = key) then
    counts.map fun entry => if entry.1 = key then (key, entry.2 + 1) else entry
  else counts ++ [(key, 1)]

/-- The counters behind a result. -/
def LoopState.count (s : LoopState World ν) (toolName : String) (args : Fields ν)
    (signature : String) (result : ToolResult ν) : LoopState World ν :=
  let toolAllowed := isQwenToolAllowedForWorkflow input.workflowKind toolName
  let inspects := toolAllowed && isRepositoryInspectionToolCall input toolName args
  { s with
    gitStatusResultFingerprintCounts :=
      if sanitizeQwenToolNameForLog toolName = "git_status" && result.ok then
        fun other => if other = signature then
          bumpEntry (s.gitStatusResultFingerprintCounts signature)
            (buildGitStatusResultFingerprint host result)
        else s.gitStatusResultFingerprintCounts other
      else s.gitStatusResultFingerprintCounts
    auditLowQualityRepairLock := s.auditLowQualityRepairLock ||
      (toolAllowed && toolName = "validate_audit_report" && !result.ok &&
        includes result.output "repairDirective=LOW_QUALITY_AUDIT_REPORT_REPAIR_REQUIRED")
    repositoryInspectionToolCalls :=
      if inspects && !budgetExhausted input s && !s.auditLowQualityRepairLock then
        s.repositoryInspectionToolCalls + 1
      else s.repositoryInspectionToolCalls
    repositoryInspectionBudgetWarnings :=
      if inspects && budgetExhausted input s then s.repositoryInspectionBudgetWarnings + 1
      else s.repositoryInspectionBudgetWarnings }

/-- The kind and grade of a tool's evidence, the paths and the command it names. -/
def evidenceOf (toolName : String) (args : Fields ν) :
    Option (AuditEvidenceKind × Option AuditEvidenceGrade × List String × Option String) :=
  let text := stringField args
  if toolName = "read_file" then some (.fileRead, some .substantive, (text "path").toList, none)
  else if toolName = "list_files" then some (.search, some .discovery, (text "path").toList, none)
  else if toolName = "search_files" then
    some (.search, some .substantive, (text "path").toList, none)
  else if toolName = "run_shell" then
    some (.shellCommand, none, (text "cwd").toList, some ((text "command").getD ""))
  else if toolName = "git_status" then
    some (.shellCommand, some .discovery, [], some "git status")
  else none

/-- `buildAuditEvidenceResultForTool`, with the id of the unit. -/
def buildAuditEvidenceResultForTool (id toolName : String) (args : Fields ν)
    (result : ToolResult ν) : Option AuditEvidenceUnit :=
  let toolName := sanitizeQwenToolNameForLog toolName
  if result.repositoryInspectionBudgetExhausted || result.auditReportRepairInspectionDenied ||
      isAuditArtifactMaintenanceToolCall input toolName args then none
  else (evidenceOf toolName args).map fun (evidenceKind, evidenceGrade, paths, command) =>
    buildAuditEvidencePayload host.ledger
      { id, toolName, evidenceKind, evidenceGrade, paths, command
        output := join "\n" <| (if result.output.isEmpty then [] else [result.output]) ++
          ((filled result.error).map ("error:\n" ++ ·)).toList }

/-- `appendQwenAuditEvidenceUnit`: what the answer shows, and what is new in the ledger. -/
def appendQwenAuditEvidenceUnit (units : List AuditEvidenceUnit)
    (payload : Option AuditEvidenceUnit) : Option AuditEvidenceUnit × Option AuditEvidenceUnit :=
  match payload, input.evidenceLinks with
  | none, _ => (none, none)
  | some payload, none => (some payload, none)
  | some payload, some links =>
    let unit := buildAuditEvidenceUnit
      { payload with riskHypothesisIds := riskHypothesisIdsForEvidence links payload }
    (some unit, if units.any (·.id = unit.id) then none else some unit)

/-- `auditReportValidationFailurePayload`, by its fingerprint. -/
def auditReportValidationFailurePayload (toolName : String) (result : ToolResult ν) :
    Option String :=
  if toolName ≠ "validate_audit_report" || result.ok then none
  else readString ((asRecord result.auditReportValidation).lookup "validationFingerprint")

/-! ### The end after the budget -/

def LoopState.finalize (s : LoopState World ν) (toolName : String) (args : Fields ν) :
    LoopState World ν × ToolResult ν :=
  let (world, result) := host.executeQwenLocalTool s.world s.auditEvidenceUnits toolName args
  ({ s with world }.note (.finalization toolName args result), result)

def budgetFinalizationCommitMessage (artifactPath : String) : String :=
  let name := ((split (forwardSlashes artifactPath) '/').getLast?).getD ""
  let name := if endsWith (toLowerCase name) ".md" then
    String.ofList (name.toList.take (name.toList.length - 3)) else name
  let safe (c : Char) : Bool := c.isAlphanum || c = '.' || c = '_' || c = '-'
  let dashed := (name.toList.splitBy fun a b => !safe a && !safe b).flatMap fun group =>
    if group.any safe then group else ['-']
  let dropDashes := List.dropWhile (· == '-')
  let safeName := sliceTo (String.ofList (dropDashes (dropDashes dashed).reverse).reverse) 80
  "Audit: finalize " ++ if safeName.isEmpty then "report" else safeName

/-- `completeBudgetFinalizedAuditReport`. -/
def completeBudgetFinalizedAuditReport (s : LoopState World ν) (args : Fields ν) :
    LoopState World ν × RunEnd ν :=
  let configured := input.auditReportArtifactPath.map fun path => (.str path : Json ν)
  match (normalizeToolLoopPath (args.lookup "path")).or (normalizeToolLoopPath configured) with
  | none => (s, .reportCommitted none)
  | some artifactPath =>
    if host.aborted s.world then (s, .aborted)
    else
      let (s, commit) := s.finalize host "git_commit"
        [("paths", .arr [.str artifactPath]),
          ("message", .str (budgetFinalizationCommitMessage artifactPath))]
      if host.aborted s.world then (s, .aborted) else (s, .reportCommitted (some commit))

/-- `completeBudgetFinalizationFromExistingAuditReport`. -/
def completeBudgetFinalizationFromExistingAuditReport (s : LoopState World ν) :
    LoopState World ν × RunEnd ν :=
  let configured := input.auditReportArtifactPath.map fun path => (.str path : Json ν)
  if host.aborted s.world then (s, .aborted)
  else match normalizeToolLoopPath configured with
    | none => (s, .stoppedWithoutReport)
    | some artifactPath =>
      let args := [("path", .str artifactPath)]
      let (s, _) := s.finalize host "finalize_audit_report_manifest" args
      if host.aborted s.world then (s, .aborted)
      else
        let (s, validationResult) := s.finalize host "validate_audit_report" args
        if host.aborted s.world then (s, .aborted)
        else if validationResult.ok then completeBudgetFinalizedAuditReport host input s args
        else (s, .validationFailed validationResult)

/-- `shouldCompleteBudgetFinalizationAfterAuditValidation`. -/
def completesAfterValidation (s : LoopState World ν) (toolName : String) (args : Fields ν) : Bool :=
  let configured := input.auditReportArtifactPath.map fun path => (.str path : Json ν)
  budgetExhausted input s && readFinalizationMode input = .compactFinalResponse &&
    input.workflowKind = "audit" && toolName = "validate_audit_report" &&
    match normalizeToolLoopPath configured, normalizeToolLoopPath (args.lookup "path") with
    | some artifactPath, some validationPath => artifactPath = validationPath
    | _, _ => false

/-! ### The loop -/

/-- The answer to arguments that are no JSON. -/
def answerParseFailure (s : LoopState World ν) (call : ToolCall) : LoopState World ν :=
  let parseResult : ToolResult ν := failedResult (redactProviderText (host.parseError call.arguments))
  s.push (.tool call.id call.name (parseResultText host parseResult))

/-- What is done with the result of a call, up to its answer. -/
def settleResult (s : LoopState World ν) (call : ToolCall) (args : Fields ν)
    (fileStates : List (Json ν)) (signature : String) : LoopState World ν × CallRecord ν ×
      Option AuditEvidenceUnit :=
  let (world, result) := resultOf host input s call.name args
  let (world, id) := host.randomId world
  let (shown, unit) := appendQwenAuditEvidenceUnit input s.auditEvidenceUnits
    (buildAuditEvidenceResultForTool host input id call.name args result)
  let record : CallRecord ν :=
    { call, args, fileStates, result, unit
      toolAllowed := isQwenToolAllowedForWorkflow input.workflowKind call.name
      executed := (denial input s call.name args).isNone }
  let s := s.count host input call.name args signature result
  ({ s with world, auditEvidenceUnits := s.auditEvidenceUnits ++ unit.toList }.note
    (.toolCall record), record, shown)

/-- The failed validation of a record that counts. -/
def countedValidation (record : CallRecord ν) : Option String :=
  if input.workflowKind = "audit" && record.toolAllowed then
    auditReportValidationFailurePayload record.call.name record.result
  else none

def LoopState.countValidation (s : LoopState World ν) (fingerprint : String) : LoopState World ν :=
  { s with
    failedAuditReportValidationPasses := s.failedAuditReportValidationPasses + 1
    auditReportValidationFingerprintCounts :=
      bump s.auditReportValidationFingerprintCounts fingerprint }

/-- The failed validation that is counted; a violation of the tool policy ends the run before. -/
def countedFailure (record : CallRecord ν) : Option String :=
  if record.result.policyViolation then none else countedValidation input record

def LoopState.countFailure (s : LoopState World ν) (record : CallRecord ν) : LoopState World ν :=
  match countedFailure input record with
  | none => s
  | some fingerprint => s.countValidation fingerprint

def auditReportValidationFailurePassLimit : Nat := 4

/-- Whether the run ends with the result of a call. -/
def endAfterResult (s : LoopState World ν) (record : CallRecord ν) : Option (RunEnd ν) :=
  if record.result.policyViolation then
    some (.policyViolation (sanitizeQwenToolNameForLog record.call.name))
  else match countedValidation input record with
    | none => none
    | some fingerprint =>
      let count := s.auditReportValidationFingerprintCounts fingerprint
      if 2 ≤ count then
        some (.repeatedToolLoopBlocked (sanitizeQwenToolNameForLog record.call.name) count
          (min (toolCallLimit input record.call.name) 2))
      else if auditReportValidationFailurePassLimit ≤ s.failedAuditReportValidationPasses then
        some (.stoppedAfterValidationPasses fingerprint s.failedAuditReportValidationPasses)
      else none

def finalDenials : Nat := 3

/-- What follows the answer to a call. `denied` says whether the budget denied it. -/
def endAfterAnswer (s : LoopState World ν) (record : CallRecord ν) (denied : Bool) :
    LoopState World ν × Option (RunEnd ν) :=
  if completesAfterValidation input s record.call.name record.args then
    if record.result.ok then
      let (s, end_) := completeBudgetFinalizedAuditReport host input s record.args
      (s, some end_)
    else (s, some (.validationFailed record.result))
  else if denied && finalDenials ≤ s.repositoryInspectionBudgetWarnings then
    (s, some (.inspectionDenials s.repositoryInspectionBudgetWarnings))
  else (s, none)

/-- How many characters of a result the model sees. -/
def RunInput.toolResultMaxChars : Nat :=
  min input.maxOutputChars ((input.budget.map (·.toolResultMaxChars)).getD input.maxOutputChars)

/-- A call that is not repeated too often. -/
def answerToolCall (s : LoopState World ν) (call : ToolCall) (args : Fields ν)
    (fileStates : List (Json ν)) (signature : String) : LoopState World ν × Option (RunEnd ν) :=
  let denied := isQwenToolAllowedForWorkflow input.workflowKind call.name &&
    isRepositoryInspectionToolCall input call.name args && budgetExhausted input s
  let (s, record, shown) := settleResult host input s call args fileStates signature
  let s := s.countFailure input record
  match endAfterResult input s record with
  | some end_ => (s, some end_)
  | none =>
    let s := s.push (.tool call.id call.name
      (qwenToolResultForModel host record.result input.toolResultMaxChars shown))
    endAfterAnswer host input s record denied

def processToolCall (s : LoopState World ν) (call : ToolCall) :
    LoopState World ν × Option (RunEnd ν) :=
  match parseToolArguments host.numbers call.arguments with
  | none => (answerParseFailure host s call, none)
  | some args =>
    if isQwenToolAllowedForWorkflow input.workflowKind call.name &&
        readFinalizationMode input = .compactFinalResponse &&
        isRepositoryInspectionToolCall input call.name args && budgetExhausted input s then
      let (s, end_) := completeBudgetFinalizationFromExistingAuditReport host input s
      (s, some end_)
    else
      let fileStates := toolLoopFileStates host s.world call.name args
      let signature := buildToolCallFingerprint host input call.name args fileStates
      let s := s.noteSignature signature
      match repeatedLoop input s call.name signature with
      | some repeatedCount =>
        (s, some (.repeatedToolLoopBlocked (sanitizeQwenToolNameForLog call.name) repeatedCount
          (toolCallLimit input call.name)))
      | none => answerToolCall host input s call args fileStates signature

/-- Whether the transcript is compacted before a request, and why. -/
def compactionReason (s : LoopState World ν) (budget : EndpointBudget) :
    Option CompactionReason :=
  let estimatedInputTokens := host.estimateTokens s.messages
  if budgetExhausted input s && hasFinalResponseTimeout input &&
      !s.repositoryInspectionBudgetCompacted then some .repositoryInspectionBudgetExhausted
  else if budget.maxInputTokens < estimatedInputTokens then some .endpointInputBudget
  else if input.workflowKind = "audit" && 0 < s.repositoryInspectionToolCalls &&
      budget.compactTargetInputTokens < estimatedInputTokens then some .endpointInputSoftBudget
  else none

def LoopState.compact (s : LoopState World ν) : LoopState World ν :=
  match input.budget with
  | none => s
  | some budget =>
    match compactionReason host input s budget with
    | none => s
    | some reason =>
      { s with
        messages :=
          compactMessagesForEndpointBudget host input s.messages s.auditEvidenceUnits reason budget
        repositoryInspectionBudgetCompacted :=
          s.repositoryInspectionBudgetCompacted || reason = .repositoryInspectionBudgetExhausted }

/-- `payload.choices[0].message`. -/
def responseMessage (payload : Json ν) : Fields ν :=
  match (asRecord (some payload)).lookup "choices" with
  | some (.arr (choice :: _)) => asRecord ((asRecord (some choice)).lookup "message")
  | _ => []

def responseContent (payload : Json ν) : String :=
  match (responseMessage payload).lookup "content" with
  | some (.str content) => content
  | _ => ""

def responseToolCalls (payload : Json ν) : List ToolCall :=
  normalizeToolCalls host.numbers ((responseMessage payload).lookup "tool_calls")

/-- The calls of a response, in order. -/
def processResponse (s : LoopState World ν) (payload : Json ν) :
    LoopState World ν × Option (RunEnd ν) :=
  let content := responseContent payload
  let toolCalls := responseToolCalls host payload
  if toolCalls.isEmpty then (s, some (.answered content))
  else
    let s := s.push (.assistant (filled (some content)) toolCalls)
    match StopLoop.run (processToolCall host input) s toolCalls with
    | (s, some end_) => (s, some end_)
    | (s, none) =>
      if budgetExhausted input s && readFinalizationMode input = .compactFinalResponse then
        let (s, end_) := completeBudgetFinalizationFromExistingAuditReport host input s
        (s, some end_)
      else (s, none)

/-- The request of a turn. -/
def LoopState.request (s : LoopState World ν) : LoopState World ν × Option (Json ν) :=
  let (world, answer) := host.post s.world s.messages
  ({ s with world }.note (.request s.messages answer), answer)

def turnStep (s : LoopState World ν) (_turn : Nat) : LoopState World ν × Option (RunEnd ν) :=
  if budgetExhausted input s then
    match readFinalizationMode input with
    | .controlledFailure => (s, some .controlledFailure)
    | .compactFinalResponse =>
      let (s, end_) := completeBudgetFinalizationFromExistingAuditReport host input s
      (s, some end_)
  else
    match (s.compact host input).request host with
    | (s, none) => (s, some .requestFailed)
    | (s, some payload) => processResponse host input s payload

def initialState (world : World) : LoopState World ν where
  world := world
  messages := buildMessages input
  lastToolCallSignature := none
  repeatedToolCallCount := 0
  repositoryInspectionToolCalls := 0
  repositoryInspectionBudgetWarnings := 0
  repositoryInspectionBudgetCompacted := false
  auditLowQualityRepairLock := false
  failedAuditReportValidationPasses := 0
  auditReportValidationFingerprintCounts := fun _ => 0
  toolCallSignatureCounts := fun _ => 0
  gitStatusResultFingerprintCounts := fun _ => []
  auditEvidenceUnits := input.initialEvidenceUnits
  deeds := []

/-- The run: its last state, with everything it did, and how it ended. -/
def runQwenLocalAgentApi (world : World) : LoopState World ν × RunEnd ν :=
  match StopLoop.run (turnStep host input) (initialState input world)
      (List.range (readMaxToolTurns input)) with
  | (s, some end_) => (s, end_)
  | (s, none) => (s, .maxTurnsExhausted (budgetExhausted input s))

end Run

end AifHandoff.Runtime
