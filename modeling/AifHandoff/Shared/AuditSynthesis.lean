import AifHandoff.Lib.HtmlComments
import AifHandoff.Lib.JsonTexts
import AifHandoff.Shared.FencedContracts

/-!
The verdict of an audit synthesis (`shared/auditSynthesisClassifier.ts`).

The verdict on the source reports is written as JSON into a comment of the artifact, and read
back from the artifact's text. The reader checks the counters of the verdict by rules of its own.
-/

namespace AifHandoff.Shared.AuditSynthesis

open Json Regex

/-! ### Verdicts -/

/-- The numbers of JSON texts, and which of them are counts (`readNonNegativeInteger`). -/
structure CountNumbers where
  Number : Type
  texts : NumberTexts Number
  lawful : LawfulNumbers texts
  ofNat : Nat → Number
  toCount : Number → Option Nat
  toCount_ofNat : ∀ n, toCount (ofNat n) = some n

inductive OutcomeKind where
  | validatedFindingsPresent
  | validatedNoFindings
  | sourceInconclusive
  | inconclusiveBatchEvidence
  deriving DecidableEq

def OutcomeKind.text : OutcomeKind → String
  | .validatedFindingsPresent => "validated_findings_present"
  | .validatedNoFindings => "validated_no_findings"
  | .sourceInconclusive => "source_inconclusive"
  | .inconclusiveBatchEvidence => "inconclusive_batch_evidence"

/-- `AUDIT_SYNTHESIS_OUTCOME_KINDS`. -/
def outcomeKinds : List OutcomeKind :=
  [.validatedFindingsPresent, .validatedNoFindings, .sourceInconclusive]

structure BlockingSourceArtifact where
  artifactPath : String
  taskId : Option String
  required : Bool
  state : Option String
  sourceClassification : Option String
  reasonCodes : List String
  deriving DecidableEq

/-- The counters of a verdict. -/
structure OutcomeCounts where
  sourceReportCount : Nat
  validatedFindingCount : Nat
  substantiveNoFindingsReportCount : Nat
  inventoryOnlyNoFindingsReportCount : Nat
  weakReportCount : Nat
  deriving DecidableEq

structure AuditSynthesisOutcome where
  kind : OutcomeKind
  reason : String
  counts : OutcomeCounts
  reasonCodes : List String
  blockingSourceArtifacts : List BlockingSourceArtifact
  deriving DecidableEq

def uniqueStrings (values : List String) : List String :=
  sortedSet Manifest.codeUnitOrder (values.filter (!·.isEmpty))

def normalizeReasonCodes (values : List String) : List String := uniqueStrings values

/-! ### The writer -/

/-- The classification of a source that claims to be trusted. -/
inductive SourceClassification where
  | validatedFindingsPresent
  | validatedNoFindings
  deriving DecidableEq

def SourceClassification.text : SourceClassification → String
  | .validatedFindingsPresent => "validated_findings_present"
  | .validatedNoFindings => "validated_no_findings"

structure TrustedSourceAuditArtifact (ε : Type) where
  artifactPath : String
  taskId : Option String
  roadmapBatchId : Option String
  roadmapAlias : Option String
  auditPlanId : Option String
  sourceClassification : SourceClassification
  content : String
  auditEvidenceUnits : List ε
  manifestValid : Bool
  ledgerValid : Bool
  sourceSnapshotValid : Bool
  committedBlobVerified : Bool
  completionGuardTrusted : Bool
  substantiveNoFindingsSupported : Option Bool
  required : Option Bool
  reasonCodes : List String

structure AuditSynthesisSourceReport where
  artifactPath : String
  taskId : Option String
  content : String

/-- The input of the classifier. -/
structure SourceReports (ε : Type) where
  reports : List AuditSynthesisSourceReport
  trustedSourceArtifacts : List (TrustedSourceAuditArtifact ε)
  blockingSourceArtifacts : List BlockingSourceArtifact
  weakReportCount : Nat

/-- What `validateAuditReportArtifact` finds. -/
structure SourceValidation where
  sourceClassification : String
  trustedNoFindingsSupported : Bool

/-- The checks on the contents of the reports. -/
structure SourceChecks (ε : Type) where
  isTerminalSourceInconclusiveReport : String → Bool
  countValidatedFindings : String → Nat
  validateAuditReportArtifact : TrustedSourceAuditArtifact ε → SourceValidation

def sourceArtifactTrustReasonCodes {ε : Type} (artifact : TrustedSourceAuditArtifact ε) :
    List String :=
  normalizeReasonCodes (artifact.reasonCodes ++
    (if artifact.manifestValid then [] else ["invalid_manifest"]) ++
    (if artifact.ledgerValid then [] else ["invalid_ledger"]) ++
    (if artifact.sourceSnapshotValid then [] else ["invalid_source_snapshot"]) ++
    (if artifact.committedBlobVerified then [] else ["missing_committed_source"]) ++
    (if artifact.completionGuardTrusted then [] else ["untrusted_completion_guard"]))

def sourceArtifactIsTrusted {ε : Type} (artifact : TrustedSourceAuditArtifact ε) : Bool :=
  (sourceArtifactTrustReasonCodes artifact).isEmpty

def blockingArtifactFromTrusted {ε : Type} (artifact : TrustedSourceAuditArtifact ε) :
    BlockingSourceArtifact where
  artifactPath := artifact.artifactPath
  taskId := artifact.taskId
  required := artifact.required.getD true
  state := some "untrusted"
  sourceClassification := some artifact.sourceClassification.text
  reasonCodes := sourceArtifactTrustReasonCodes artifact

section Classify

variable {ε : Type} (checks : SourceChecks ε)

def blockingArtifactFromLegacyReport (report : AuditSynthesisSourceReport) :
    BlockingSourceArtifact where
  artifactPath := report.artifactPath
  taskId := report.taskId
  required := true
  state := some (if checks.isTerminalSourceInconclusiveReport report.content then
    "source_inconclusive" else "untrusted")
  sourceClassification := none
  reasonCodes := if checks.isTerminalSourceInconclusiveReport report.content then
    ["source_inconclusive"] else ["untrusted_source_artifact"]

def trustedArtifacts (input : SourceReports ε) : List (TrustedSourceAuditArtifact ε) :=
  input.trustedSourceArtifacts.filter sourceArtifactIsTrusted

/-- The sources that speak against a verdict. -/
def blockingArtifacts (input : SourceReports ε) : List BlockingSourceArtifact :=
  (input.blockingSourceArtifacts ++ input.reports.map (blockingArtifactFromLegacyReport checks) ++
    (input.trustedSourceArtifacts.filter (!sourceArtifactIsTrusted ·)).map
      blockingArtifactFromTrusted).map fun artifact =>
    { artifact with reasonCodes := normalizeReasonCodes artifact.reasonCodes }

def requiredBlockingArtifacts (input : SourceReports ε) : List BlockingSourceArtifact :=
  (blockingArtifacts checks input).filter (·.required)

/-- A trusted source that supports the absence of findings. -/
def isSubstantiveNoFindings (artifact : TrustedSourceAuditArtifact ε) : Bool :=
  artifact.sourceClassification = .validatedNoFindings &&
    artifact.substantiveNoFindingsSupported.getD
      (checks.validateAuditReportArtifact artifact).trustedNoFindingsSupported

/-- The trusted sources that claim findings. -/
def findingsArtifacts (input : SourceReports ε) : List (TrustedSourceAuditArtifact ε) :=
  (trustedArtifacts input).filter (·.sourceClassification = .validatedFindingsPresent)

def substantiveArtifacts (input : SourceReports ε) : List (TrustedSourceAuditArtifact ε) :=
  (trustedArtifacts input).filter (isSubstantiveNoFindings checks)

/-- The sources, blocking or trusted, that are an inventory only. -/
def inventoryOnlyCount (input : SourceReports ε) : Nat :=
  ((blockingArtifacts checks input).filter
    (·.sourceClassification = some "inventory_only_invalid")).length +
  ((trustedArtifacts input).filter fun artifact =>
    (checks.validateAuditReportArtifact artifact).sourceClassification =
      "inventory_only_invalid").length

def outcomeCounts (input : SourceReports ε) : OutcomeCounts where
  sourceReportCount := (trustedArtifacts input).length
  validatedFindingCount := ((findingsArtifacts input).map fun artifact =>
    checks.countValidatedFindings artifact.content).sum
  substantiveNoFindingsReportCount := (substantiveArtifacts checks input).length
  inventoryOnlyNoFindingsReportCount := inventoryOnlyCount checks input
  weakReportCount := input.weakReportCount + (requiredBlockingArtifacts checks input).length

def classifyAuditSynthesisSourceReports (input : SourceReports ε) : AuditSynthesisOutcome :=
  let trusted := trustedArtifacts input
  let blocking := blockingArtifacts checks input
  let requiredBlocking := requiredBlockingArtifacts checks input
  let counts := outcomeCounts checks input
  let reasonCodes := uniqueStrings (blocking.flatMap (·.reasonCodes))
  if trusted.length + requiredBlocking.length = 0 then
    { kind := .sourceInconclusive
      reason := "Audit inconclusive: no validated source reports were available."
      counts := ⟨0, 0, 0, 0, input.weakReportCount⟩
      reasonCodes := ["missing_source_artifacts"]
      blockingSourceArtifacts := [] }
  else
    let verdict (kind : OutcomeKind) (reason : String) : AuditSynthesisOutcome :=
      { kind, reason, counts, reasonCodes, blockingSourceArtifacts := blocking }
    let findings := findingsArtifacts input
    let noFindings := trusted.filter (·.sourceClassification = .validatedNoFindings)
    if 0 < counts.validatedFindingCount ∨ 0 < findings.length then
      verdict .validatedFindingsPresent
        "Validated findings were present in trusted source audit artifacts."
    else if 0 < requiredBlocking.length then
      verdict .sourceInconclusive ("Audit inconclusive: required source audit artifacts were " ++
        "invalid, missing, source-inconclusive, or untrusted.")
    else if 0 < trusted.length ∧ counts.substantiveNoFindingsReportCount = trusted.length then
      verdict .validatedNoFindings ("No findings survived validation and all required trusted " ++
        "source audit artifacts included substantive no-findings evidence.")
    else if 0 < noFindings.length then
      verdict .sourceInconclusive ("Audit inconclusive: trusted source audit artifacts did not " ++
        "include enough substantive inspection evidence to support no-findings.")
    else
      verdict .sourceInconclusive
        "Audit inconclusive: no trusted source audit artifacts were available for synthesis."

end Classify

/-! ### The text of a verdict -/

section Text

variable (N : CountNumbers)

/-- An absent text is written as `null`, which is read as an absent one. -/
def optionalText : Option String → Json N.Number
  | some text => .str text
  | none => .null

def artifactJson (artifact : BlockingSourceArtifact) : Json N.Number :=
  .obj [("artifactPath", .str artifact.artifactPath), ("taskId", optionalText N artifact.taskId),
    ("required", .bool artifact.required), ("state", optionalText N artifact.state),
    ("sourceClassification", optionalText N artifact.sourceClassification),
    ("reasonCodes", .arr (artifact.reasonCodes.map .str))]

/-- The fields of a verdict. -/
def outcomeFields (outcome : AuditSynthesisOutcome) : List (String × Json N.Number) :=
  [("kind", .str outcome.kind.text), ("reason", .str outcome.reason),
    ("sourceReportCount", .num (N.ofNat outcome.counts.sourceReportCount)),
    ("validatedFindingCount", .num (N.ofNat outcome.counts.validatedFindingCount)),
    ("substantiveNoFindingsReportCount",
      .num (N.ofNat outcome.counts.substantiveNoFindingsReportCount)),
    ("inventoryOnlyNoFindingsReportCount",
      .num (N.ofNat outcome.counts.inventoryOnlyNoFindingsReportCount)),
    ("weakReportCount", .num (N.ofNat outcome.counts.weakReportCount)),
    ("reasonCodes", .arr (outcome.reasonCodes.map .str)),
    ("blockingSourceArtifacts", .arr (outcome.blockingSourceArtifacts.map (artifactJson N)))]

/-- `AUDIT_SYNTHESIS_OUTCOME_COMMENT`. -/
def outcomeMarker : String := "audit-synthesis-outcome"

def formatAuditSynthesisOutcomeForArtifact (outcome : AuditSynthesisOutcome) : String :=
  Text.join "\n" ["<!-- " ++ outcomeMarker,
    String.ofList (stringify N.texts.write (.obj (outcomeFields N outcome))), "-->"]

/-! ### The reader -/

def asText : Json N.Number → Option String
  | .str text => some text
  | _ => none

def readNonNegativeInteger : Json N.Number → Option Nat
  | .num n => N.toCount n
  | _ => none

/-- A field that is a count. -/
def countField (parsed : Json N.Number) (key : String) : Option Nat :=
  (parsed.get? key).bind (readNonNegativeInteger N)

def bestEffortCount (parsed : Json N.Number) (key : String) : Nat := (countField N parsed key).getD 0

def parseReasonCodes : Option (Json N.Number) → List String
  | some (.arr items) => normalizeReasonCodes (items.filterMap (asText N))
  | _ => []

def parseBlockingSourceArtifact (entry : Json N.Number) : Option BlockingSourceArtifact :=
  match ((entry.get? "artifactPath").bind (asText N)).filter (!·.isEmpty) with
  | none => none
  | some artifactPath => some {
      artifactPath
      taskId := (entry.get? "taskId").bind (asText N)
      required := match entry.get? "required" with
        | some (.bool false) => false
        | _ => true
      state := (entry.get? "state").bind (asText N)
      sourceClassification := (entry.get? "sourceClassification").bind (asText N)
      reasonCodes := parseReasonCodes N (entry.get? "reasonCodes") }

def parseBlockingSourceArtifacts : Option (Json N.Number) → List BlockingSourceArtifact
  | some (.arr items) => items.filterMap (parseBlockingSourceArtifact N)
  | _ => []

def parsedOutcomeCounts (parsed : Json N.Number) : Option OutcomeCounts := do
  let sourceReportCount ← countField N parsed "sourceReportCount"
  let validatedFindingCount ← countField N parsed "validatedFindingCount"
  let substantiveNoFindingsReportCount ← countField N parsed "substantiveNoFindingsReportCount"
  let inventoryOnlyNoFindingsReportCount ← countField N parsed "inventoryOnlyNoFindingsReportCount"
  let weakReportCount ← countField N parsed "weakReportCount"
  return { sourceReportCount, validatedFindingCount, substantiveNoFindingsReportCount,
           inventoryOnlyNoFindingsReportCount, weakReportCount }

def inconclusiveFromParsedMetadata (reason : String) (parsed : Json N.Number) :
    AuditSynthesisOutcome where
  kind := .sourceInconclusive
  reason := reason
  counts := {
    sourceReportCount := bestEffortCount N parsed "sourceReportCount"
    validatedFindingCount := bestEffortCount N parsed "validatedFindingCount"
    substantiveNoFindingsReportCount := bestEffortCount N parsed "substantiveNoFindingsReportCount"
    inventoryOnlyNoFindingsReportCount :=
      bestEffortCount N parsed "inventoryOnlyNoFindingsReportCount"
    weakReportCount := bestEffortCount N parsed "weakReportCount" }
  reasonCodes := parseReasonCodes N (parsed.get? "reasonCodes")
  blockingSourceArtifacts := parseBlockingSourceArtifacts N (parsed.get? "blockingSourceArtifacts")

/-- The counters allow a verdict of no findings. -/
def provesNoFindings (outcome : AuditSynthesisOutcome) : Bool :=
  0 < outcome.counts.sourceReportCount && outcome.counts.weakReportCount == 0 &&
    outcome.counts.validatedFindingCount == 0 &&
    outcome.counts.substantiveNoFindingsReportCount == outcome.counts.sourceReportCount &&
    outcome.counts.inventoryOnlyNoFindingsReportCount == 0 &&
    (outcome.blockingSourceArtifacts.filter (·.required)).isEmpty

def validateParsedOutcome (outcome : AuditSynthesisOutcome) : AuditSynthesisOutcome :=
  let inconclusive (reason : String) : AuditSynthesisOutcome :=
    { outcome with kind := .sourceInconclusive, reason := reason }
  if outcome.counts.sourceReportCount < outcome.counts.substantiveNoFindingsReportCount +
      outcome.counts.inventoryOnlyNoFindingsReportCount then
    inconclusive "Audit inconclusive: source-report outcome metadata has contradictory counts."
  else if outcome.kind = .validatedFindingsPresent ∧
      (outcome.counts.sourceReportCount = 0 ∨ outcome.counts.validatedFindingCount = 0) then
    inconclusive ("Audit inconclusive: source-report outcome metadata claims findings without " ++
      "validated finding counts.")
  else if outcome.kind = .validatedNoFindings ∧ provesNoFindings outcome = false then
    inconclusive ("Audit inconclusive: source-report outcome metadata does not prove " ++
      "substantive no-findings.")
  else outcome

/-- What is read of a JSON value. -/
def readOutcome (parsed : Json N.Number) : AuditSynthesisOutcome :=
  let kind := (parsed.get? "kind").bind (asText N)
  if kind = some OutcomeKind.inconclusiveBatchEvidence.text then
    inconclusiveFromParsedMetadata N ("Audit inconclusive: source-report outcome metadata uses " ++
      "a legacy inconclusive diagnostic kind.") parsed
  else match outcomeKinds.find? fun known => some known.text = kind with
    | none => inconclusiveFromParsedMetadata N
        "Audit inconclusive: source-report outcome metadata has an invalid outcome kind." parsed
    | some kind => match parsedOutcomeCounts N parsed with
      | none => inconclusiveFromParsedMetadata N ("Audit inconclusive: source-report outcome " ++
          "metadata has missing or invalid counts.") parsed
      | some counts => validateParsedOutcome {
          kind
          reason := ((parsed.get? "reason").bind (asText N)).getD
            "Parsed audit synthesis outcome."
          counts
          reasonCodes := parseReasonCodes N (parsed.get? "reasonCodes")
          blockingSourceArtifacts :=
            parseBlockingSourceArtifacts N (parsed.get? "blockingSourceArtifacts") }

/-- What is read when there is no JSON value, or it is `null`. -/
def unreadable : AuditSynthesisOutcome :=
  inconclusiveFromParsedMetadata N
    "Audit inconclusive: source-report outcome metadata is not valid JSON." (.obj [])

def parseAuditSynthesisOutcomeFromText (text : String) : Option AuditSynthesisOutcome :=
  (exec (markedComment outcomeMarker) text).map fun hit =>
    match parse N.texts.read (Text.trim (hit.group 1)).toList with
    | none | some .null => unreadable N
    | some parsed => readOutcome N parsed

end Text

/-! ### Writing and reading -/

section RoundTrip

variable {N : CountNumbers}

theorem isMarker_outcome : IsMarker outcomeMarker where
  visible := by
    intro c blank rest
    have head : outcomeMarker.toList = 'a' :: "udit-synthesis-outcome".toList := by decide
    have other : (c.toLower == 'a'.toLower) = false := by
      rw [beq_eq_false_iff_ne]
      intro same
      have letter : c = 'a' ∨ c = 'A' := by
        have lower : 'a'.toLower = 'a' := by decide
        rw [lower] at same
        unfold Char.toLower at same
        split at same
        · right
          have val : c.val + 32 = 97 := congrArg Char.val same
          exact Char.ext (show c.val = 65 by grind)
        · exact .inl same
      rcases letter with rfl | rfl
      · exact absurd blank (by decide)
      · exact absurd blank (by decide)
    rw [head, startsFold, other, Bool.false_and]
  noAngle := by decide

theorem distinctItems_map_str (values : List String) :
    Distinct.DistinctItems (values.map (Json.str : String → Json N.Number)) := by
  induction values with
  | nil => exact trivial
  | cons value rest ih => exact ⟨trivial, ih⟩

theorem distinct_optionalText (value : Option String) : Distinct (optionalText N value) := by
  cases value with
  | none => exact trivial
  | some text => exact trivial

theorem distinct_artifactJson (artifact : BlockingSourceArtifact) :
    Distinct (artifactJson N artifact) :=
  ⟨by simp, trivial, distinct_optionalText _, trivial, distinct_optionalText _,
    distinct_optionalText _, distinctItems_map_str _, trivial⟩

theorem distinctItems_artifacts (artifacts : List BlockingSourceArtifact) :
    Distinct.DistinctItems (artifacts.map (artifactJson N)) := by
  induction artifacts with
  | nil => exact trivial
  | cons artifact rest ih => exact ⟨distinct_artifactJson artifact, ih⟩

theorem distinct_outcome (outcome : AuditSynthesisOutcome) :
    Distinct (.obj (outcomeFields N outcome)) :=
  ⟨by simp [outcomeFields], trivial, trivial, trivial, trivial, trivial, trivial, trivial,
    distinctItems_map_str _, distinctItems_artifacts _, trivial⟩

theorem filterMap_asText (values : List String) :
    (values.map (Json.str : String → Json N.Number)).filterMap (asText N) = values := by
  rw [List.filterMap_map]
  exact List.filterMap_some

theorem parseReasonCodes_map (values : List String) :
    parseReasonCodes N (some (.arr (values.map .str))) = normalizeReasonCodes values := by
  rw [parseReasonCodes, filterMap_asText]

theorem optionalText_asText (value : Option String) :
    asText N (optionalText N value) = value := by
  cases value with
  | none => rfl
  | some text => rfl

theorem uniqueStrings_idem (values : List String) :
    uniqueStrings (uniqueStrings values) = uniqueStrings values := by
  have kept : (uniqueStrings values).filter (!·.isEmpty) = uniqueStrings values := by
    rw [List.filter_eq_self]
    exact fun value inside => (List.mem_filter.mp (mem_sortedSet.mp inside)).2
  rw [uniqueStrings, kept, uniqueStrings, sortedSet_sortedSet]

/-- An artifact with a path is read back, and one without a path is dropped. -/
theorem parseBlockingSourceArtifact_json (artifact : BlockingSourceArtifact)
    (normal : normalizeReasonCodes artifact.reasonCodes = artifact.reasonCodes) :
    parseBlockingSourceArtifact N (artifactJson N artifact) =
      if artifact.artifactPath.isEmpty then none else some artifact := by
  rw [parseBlockingSourceArtifact]
  have path : ((artifactJson N artifact).get? "artifactPath").bind (asText N) =
      some artifact.artifactPath := rfl
  have taskId : ((artifactJson N artifact).get? "taskId").bind (asText N) = artifact.taskId :=
    optionalText_asText artifact.taskId
  have state : ((artifactJson N artifact).get? "state").bind (asText N) = artifact.state :=
    optionalText_asText artifact.state
  have classification : ((artifactJson N artifact).get? "sourceClassification").bind (asText N) =
      artifact.sourceClassification := optionalText_asText artifact.sourceClassification
  have codes : parseReasonCodes N ((artifactJson N artifact).get? "reasonCodes") =
      artifact.reasonCodes := (parseReasonCodes_map artifact.reasonCodes).trans normal
  have isRequired : (artifactJson N artifact).get? "required" = some (.bool artifact.required) := rfl
  rw [path, taskId, state, classification, codes, isRequired]
  cases artifact with
  | mk artifactPath taskId required state sourceClassification reasonCodes =>
    cases isEmpty : artifactPath.isEmpty with
    | true => simp [Option.filter, isEmpty]
    | false =>
      cases required with
      | true => simp [Option.filter, isEmpty]
      | false => simp [Option.filter, isEmpty]

/-- The artifacts that have a path. -/
def keptArtifacts (artifacts : List BlockingSourceArtifact) : List BlockingSourceArtifact :=
  artifacts.filter (!·.artifactPath.isEmpty)

theorem parseBlockingSourceArtifacts_json {artifacts : List BlockingSourceArtifact}
    (normal : ∀ artifact ∈ artifacts,
      normalizeReasonCodes artifact.reasonCodes = artifact.reasonCodes) :
    parseBlockingSourceArtifacts N (some (.arr (artifacts.map (artifactJson N)))) =
      keptArtifacts artifacts := by
  rw [parseBlockingSourceArtifacts, keptArtifacts]
  induction artifacts with
  | nil => rfl
  | cons artifact rest ih =>
    have first := parseBlockingSourceArtifact_json (N := N) artifact
      (normal artifact List.mem_cons_self)
    have later := ih fun other inside => normal other (List.mem_cons_of_mem artifact inside)
    cases isEmpty : artifact.artifactPath.isEmpty with
    | true =>
      rw [isEmpty, if_pos rfl] at first
      rw [List.map_cons, List.filterMap_cons_none first, later,
        List.filter_cons_of_neg (by simp [isEmpty])]
    | false =>
      rw [isEmpty, if_neg Bool.false_ne_true] at first
      rw [List.map_cons, List.filterMap_cons_some first, later,
        List.filter_cons_of_pos (by simp [isEmpty])]

/-- A verdict that the classifier can give. -/
structure Normal (outcome : AuditSynthesisOutcome) : Prop where
  known : outcome.kind ∈ outcomeKinds
  reasonCodes : normalizeReasonCodes outcome.reasonCodes = outcome.reasonCodes
  artifacts : ∀ artifact ∈ outcome.blockingSourceArtifacts,
    normalizeReasonCodes artifact.reasonCodes = artifact.reasonCodes

theorem countField_num (parsed : Json N.Number) {key : String} {n : Nat}
    (field : parsed.get? key = some (.num (N.ofNat n))) : countField N parsed key = some n := by
  rw [countField, field, Option.bind_some, readNonNegativeInteger, N.toCount_ofNat]

theorem parsedOutcomeCounts_json (outcome : AuditSynthesisOutcome) :
    parsedOutcomeCounts N (.obj (outcomeFields N outcome)) = some outcome.counts := by
  rw [parsedOutcomeCounts, countField_num (n := outcome.counts.sourceReportCount) _ rfl,
    countField_num (n := outcome.counts.validatedFindingCount) _ rfl,
    countField_num (n := outcome.counts.substantiveNoFindingsReportCount) _ rfl,
    countField_num (n := outcome.counts.inventoryOnlyNoFindingsReportCount) _ rfl,
    countField_num (n := outcome.counts.weakReportCount) _ rfl]
  rfl

/-- The fields of a verdict are read back, and checked. -/
theorem readOutcome_json {outcome : AuditSynthesisOutcome} (normal : Normal outcome) :
    readOutcome N (.obj (outcomeFields N outcome)) = validateParsedOutcome
      { outcome with blockingSourceArtifacts := keptArtifacts outcome.blockingSourceArtifacts } := by
  have kind : ((Json.obj (outcomeFields N outcome)).get? "kind").bind (asText N) =
      some outcome.kind.text := rfl
  have reason : ((Json.obj (outcomeFields N outcome)).get? "reason").bind (asText N) =
      some outcome.reason := rfl
  have codes : parseReasonCodes N ((Json.obj (outcomeFields N outcome)).get? "reasonCodes") =
      outcome.reasonCodes := (parseReasonCodes_map _).trans normal.reasonCodes
  have artifacts : parseBlockingSourceArtifacts N
      ((Json.obj (outcomeFields N outcome)).get? "blockingSourceArtifacts") =
      keptArtifacts outcome.blockingSourceArtifacts :=
    parseBlockingSourceArtifacts_json normal.artifacts
  have found : outcomeKinds.find? (fun known => some known.text = some outcome.kind.text) =
      some outcome.kind := by
    have each : ∀ known ∈ outcomeKinds,
        outcomeKinds.find? (fun other => some other.text = some known.text) = some known := by
      decide
    exact each outcome.kind normal.known
  have current : ¬ some outcome.kind.text = some OutcomeKind.inconclusiveBatchEvidence.text := by
    have each : ∀ known ∈ outcomeKinds,
        ¬ some known.text = some OutcomeKind.inconclusiveBatchEvidence.text := by decide
    exact each outcome.kind normal.known
  rw [readOutcome, kind, if_neg current, found]
  dsimp only
  rw [parsedOutcomeCounts_json, reason, codes, artifacts]
  rfl

/-! ### The comment of a verdict -/

/-- The JSON text of a verdict. -/
def outcomeText (N : CountNumbers) (outcome : AuditSynthesisOutcome) : List Char :=
  stringify N.texts.write (.obj (outcomeFields N outcome))

theorem format_eq (outcome : AuditSynthesisOutcome) :
    formatAuditSynthesisOutcomeForArtifact N outcome =
      String.ofList (commentText outcomeMarker (outcomeText N outcome)) := by
  rw [← String.toList_inj, String.toList_ofList, formatAuditSynthesisOutcomeForArtifact, outcomeText]
  simp [Text.join, commentText, commentOpen, commentClose]

theorem outcomeText_starts (outcome : AuditSynthesisOutcome) :
    ∃ c rest, outcomeText N outcome = c :: rest ∧ Text.isSpace c = false :=
  ⟨'\x7b', _, rfl, by decide⟩

theorem outcomeText_ends (outcome : AuditSynthesisOutcome) : EndsVisible (outcomeText N outcome) :=
  ⟨_, '\x7d', rfl, by decide⟩

theorem trim_outcomeText (outcome : AuditSynthesisOutcome) :
    Text.trim (String.ofList (outcomeText N outcome)) =
      String.ofList (outcomeText N outcome) := by
  have open_ : Text.isSpace '\x7b' = false := by decide
  have close : Text.isSpace '\x7d' = false := by decide
  rw [Text.trim, String.toList_ofList, outcomeText, Manifest.stringify_obj]
  simp [open_, close]

theorem parse_format {outcome : AuditSynthesisOutcome} {text : String}
    (absent : NoComment outcomeMarker text)
    (open_ : ¬ commentClose <:+: outcomeText N outcome) :
    parseAuditSynthesisOutcomeFromText N
      (text ++ formatAuditSynthesisOutcomeForArtifact N outcome) =
        some (readOutcome N (.obj (outcomeFields N outcome))) := by
  obtain ⟨hit, found, group⟩ := exec_comment [] isMarker_outcome
    ((noComment_iff isMarker_outcome).mp absent) (outcomeText_starts outcome)
    (outcomeText_ends outcome) open_
  have whole : text ++ formatAuditSynthesisOutcomeForArtifact N outcome = String.ofList
      (text.toList ++ (commentText outcomeMarker (outcomeText N outcome) ++ [])) := by
    rw [format_eq, List.append_nil, String.ofList_append, String.ofList_toList]
  rw [parseAuditSynthesisOutcomeFromText, whole, found, Option.map_some, group, trim_outcomeText,
    String.toList_ofList, outcomeText, parse_stringify N.lawful (distinct_outcome outcome)]

theorem parse_format_cut {outcome : AuditSynthesisOutcome} {text : String}
    (absent : NoComment outcomeMarker text)
    (closes : commentClose <:+: outcomeText N outcome) :
    parseAuditSynthesisOutcomeFromText N
      (text ++ formatAuditSynthesisOutcomeForArtifact N outcome) = some (unreadable N) := by
  obtain ⟨cut, more, hit, split, filled, found, group⟩ := exec_comment_cut []
    isMarker_outcome ((noComment_iff isMarker_outcome).mp absent) (outcomeText_starts outcome) closes
  have whole : text ++ formatAuditSynthesisOutcomeForArtifact N outcome = String.ofList
      (text.toList ++ (commentText outcomeMarker (outcomeText N outcome) ++ [])) := by
    rw [format_eq, List.append_nil, String.ofList_append, String.ofList_toList]
  rw [parseAuditSynthesisOutcomeFromText, whole, found, Option.map_some, group,
    (Manifest.parse_of_cut N.lawful (distinct_outcome outcome) split filled).2]

/-! ### Closings in the text of a verdict -/

theorem commentClose_unescaped {c d : Char} (inside : c ∈ commentClose)
    (written : c ∈ escapeChar d) : d = c := by
  have plain : ∀ c ∈ commentClose, c ∉ ['\\', '"', 'n', 'r', 't', 'b', 'f', 'u', '0'] := by decide
  have noDigit : ∀ c ∈ commentClose, ∀ n < 32, c ≠ hexDigit n := by decide
  have other := plain c inside
  simp only [List.mem_cons, List.not_mem_nil, not_or, or_false] at other
  rw [escapeChar] at written
  split_ifs at written with h1 h2 h3 h4 h5 h6 h7 control
  all_goals simp only [List.mem_cons, List.not_mem_nil, or_false] at written
  all_goals grind

theorem inStrings_commentClose : InStrings commentClose where
  plain := by decide
  verbatim := fun _ inside _ written => commentClose_unescaped inside written
  noStructure := by decide
  mark := ⟨'>', by decide, by decide⟩

/-- A text that would end the comment. -/
def Closes (text : String) : Prop := commentClose <:+: text.toList

theorem not_closes_of_no_angle {text : String} (noAngle : ∀ c ∈ text.toList, c ≠ '>') :
    ¬ Closes text :=
  fun closes => noAngle '>' (closes.subset (by decide)) rfl

/-- The strings of a blocking artifact. -/
def artifactStrings (artifact : BlockingSourceArtifact) : List String :=
  artifact.artifactPath :: (artifact.taskId.toList ++ artifact.state.toList ++
    artifact.sourceClassification.toList ++ artifact.reasonCodes)

theorem itemTexts_map_str (values : List String) :
    itemTexts (values.map (Json.str : String → Json N.Number)) = values := by
  induction values with
  | nil => rfl
  | cons value rest ih =>
    rw [List.map_cons, itemTexts, texts, ih]
    rfl

theorem texts_optionalText (value : Option String) :
    texts (optionalText N value) = value.toList := by
  cases value with
  | none => rfl
  | some text => rfl

/-- The keys of the fields that are written. -/
def writtenKeys : List String :=
  ["artifactPath", "taskId", "required", "state", "sourceClassification", "reasonCodes", "kind",
    "reason", "sourceReportCount", "validatedFindingCount", "substantiveNoFindingsReportCount",
    "inventoryOnlyNoFindingsReportCount", "weakReportCount", "blockingSourceArtifacts"]

theorem writtenKeys_open : ∀ key ∈ writtenKeys, ¬ Closes key := by
  have noAngle : ∀ key ∈ writtenKeys, ∀ c ∈ key.toList, c ≠ '>' := by
    simp only [writtenKeys, List.forall_mem_cons]
    repeat rw [String.toList_ofList]
    decide
  exact fun key inside => not_closes_of_no_angle (noAngle key inside)

theorem kind_open (kind : OutcomeKind) : ¬ Closes kind.text := by
  refine not_closes_of_no_angle ?_
  cases kind with
  | validatedFindingsPresent => decide
  | validatedNoFindings => decide
  | sourceInconclusive => decide
  | inconclusiveBatchEvidence => decide

theorem closes_artifactJson (artifact : BlockingSourceArtifact) :
    (∃ text ∈ texts (artifactJson N artifact), Closes text) ↔
      ∃ text ∈ artifactStrings artifact, Closes text := by
  have keys := writtenKeys_open
  simp only [writtenKeys, List.forall_mem_cons] at keys
  simp only [artifactJson, artifactStrings, texts, fieldTexts, texts_optionalText,
    itemTexts_map_str, List.mem_append, List.mem_cons, List.append_nil, keys, or_and_right,
    exists_or, exists_eq_left, false_or, or_assoc, List.not_mem_nil]

theorem closes_artifacts (artifacts : List BlockingSourceArtifact) :
    (∃ text ∈ itemTexts (artifacts.map (artifactJson N)), Closes text) ↔
      ∃ artifact ∈ artifacts, ∃ text ∈ artifactStrings artifact, Closes text := by
  induction artifacts with
  | nil => simp [itemTexts]
  | cons artifact rest ih =>
    simp only [List.map_cons, itemTexts, List.mem_append, or_and_right, exists_or,
      closes_artifactJson, ih, List.exists_mem_cons_iff]

theorem closes_outcomeText (outcome : AuditSynthesisOutcome) :
    commentClose <:+: outcomeText N outcome ↔
      Closes outcome.kind.text ∨ Closes outcome.reason ∨ (∃ code ∈ outcome.reasonCodes, Closes code) ∨
        ∃ artifact ∈ outcome.blockingSourceArtifacts, ∃ text ∈ artifactStrings artifact,
          Closes text := by
  have keys := writtenKeys_open
  simp only [writtenKeys, List.forall_mem_cons] at keys
  rw [outcomeText, infix_stringify_iff N.lawful inStrings_commentClose]
  change (∃ text ∈ texts (.obj (outcomeFields N outcome)), Closes text) ↔ _
  simp only [outcomeFields, texts, fieldTexts, itemTexts_map_str, List.mem_append, List.mem_cons,
    List.append_nil, keys, or_and_right, exists_or, exists_eq_left, false_or, or_assoc,
    List.not_mem_nil, closes_artifacts]

/-! ### What the classifier gives -/

section Verdict

variable {ε : Type} (checks : SourceChecks ε) (input : SourceReports ε)

/-- No source counts: nothing is trusted and nothing required blocks. -/
def NoSources : Prop := trustedArtifacts input = [] ∧ requiredBlockingArtifacts checks input = []

theorem noSources_iff : (trustedArtifacts input).length +
    (requiredBlockingArtifacts checks input).length = 0 ↔ NoSources checks input := by
  rw [Nat.add_eq_zero_iff, List.length_eq_zero_iff, List.length_eq_zero_iff, NoSources]

theorem classify_of_noSources (none_ : NoSources checks input) :
    classifyAuditSynthesisSourceReports checks input =
      { kind := .sourceInconclusive
        reason := "Audit inconclusive: no validated source reports were available."
        counts := ⟨0, 0, 0, 0, input.weakReportCount⟩
        reasonCodes := ["missing_source_artifacts"]
        blockingSourceArtifacts := [] } := by
  rw [classifyAuditSynthesisSourceReports]
  exact if_pos ((noSources_iff checks input).mpr none_)

/-- The kind of a verdict on sources. -/
def verdictKind : OutcomeKind :=
  if findingsArtifacts input ≠ [] then .validatedFindingsPresent
  else if requiredBlockingArtifacts checks input = [] ∧
      (substantiveArtifacts checks input).length = (trustedArtifacts input).length then
    .validatedNoFindings
  else .sourceInconclusive

/-- The reasons that are given for a verdict on sources. -/
def verdictReasons : List String :=
  ["Validated findings were present in trusted source audit artifacts.",
    "Audit inconclusive: required source audit artifacts were " ++
      "invalid, missing, source-inconclusive, or untrusted.",
    "No findings survived validation and all required trusted " ++
      "source audit artifacts included substantive no-findings evidence.",
    "Audit inconclusive: trusted source audit artifacts did not " ++
      "include enough substantive inspection evidence to support no-findings.",
    "Audit inconclusive: no trusted source audit artifacts were available for synthesis."]

theorem verdictReasons_open : ∀ reason ∈ verdictReasons, ¬ Closes reason := by
  have noAngle : ∀ reason ∈ verdictReasons, ∀ c ∈ reason.toList, c ≠ '>' := by
    simp only [verdictReasons, List.forall_mem_cons, String.toList_append]
    repeat rw [String.toList_ofList]
    decide +kernel
  exact fun reason given => not_closes_of_no_angle (noAngle reason given)

theorem findings_iff : 0 < (outcomeCounts checks input).validatedFindingCount ∨
    0 < (findingsArtifacts input).length ↔ findingsArtifacts input ≠ [] := by
  rw [List.length_pos_iff, or_iff_right_of_imp]
  rintro counted nothing
  rw [outcomeCounts, nothing] at counted
  cases counted

/-- With sources, the verdict has their counters, their reason codes and what blocks. -/
theorem classify_of_sources (some_ : ¬ NoSources checks input) :
    ∃ reason ∈ verdictReasons, classifyAuditSynthesisSourceReports checks input =
      { kind := verdictKind checks input
        reason
        counts := outcomeCounts checks input
        reasonCodes := uniqueStrings ((blockingArtifacts checks input).flatMap (·.reasonCodes))
        blockingSourceArtifacts := blockingArtifacts checks input } := by
  rw [classifyAuditSynthesisSourceReports]
  dsimp only
  rw [if_neg (mt (noSources_iff checks input).mp some_), verdictKind]
  by_cases findings : findingsArtifacts input ≠ []
  · rw [if_pos ((findings_iff checks input).mpr findings), if_pos findings]
    exact ⟨_, by simp [verdictReasons], rfl⟩
  rw [if_neg (mt (findings_iff checks input).mp findings), if_neg findings]
  by_cases blocked : requiredBlockingArtifacts checks input = []
  · have sources : 0 < (trustedArtifacts input).length := by
      rw [List.length_pos_iff]
      exact fun nothing => some_ ⟨nothing, blocked⟩
    rw [if_neg (by rw [blocked]; decide)]
    by_cases substantive : (substantiveArtifacts checks input).length =
        (trustedArtifacts input).length
    · rw [if_pos ⟨sources, substantive⟩, if_pos ⟨blocked, substantive⟩]
      exact ⟨_, by simp [verdictReasons], rfl⟩
    · have lacking : ¬ (0 < (trustedArtifacts input).length ∧
          (outcomeCounts checks input).substantiveNoFindingsReportCount =
            (trustedArtifacts input).length) := fun both => substantive both.2
      have lacking' : ¬ (requiredBlockingArtifacts checks input = [] ∧
          (substantiveArtifacts checks input).length = (trustedArtifacts input).length) :=
        fun both => substantive both.2
      rw [if_neg lacking, if_neg lacking']
      split
      · exact ⟨_, by simp [verdictReasons], rfl⟩
      · exact ⟨_, by simp [verdictReasons], rfl⟩
  · rw [if_pos (List.length_pos_iff.mpr blocked), if_neg fun both => blocked both.1]
    exact ⟨_, by simp [verdictReasons], rfl⟩

theorem normal_classify (some_ : ¬ NoSources checks input) :
    Normal (classifyAuditSynthesisSourceReports checks input) := by
  obtain ⟨reason, -, verdict⟩ := classify_of_sources checks input some_
  rw [verdict]
  refine ⟨?_, uniqueStrings_idem _, ?_⟩
  · rw [verdictKind]
    split_ifs
    all_goals simp [outcomeKinds]
  · intro artifact inside
    obtain ⟨source, -, rfl⟩ := List.mem_map.mp inside
    exact uniqueStrings_idem _

/-- The text of a verdict on sources would end its comment exactly when a string of a blocking
source would. -/
theorem closes_classify (some_ : ¬ NoSources checks input) :
    commentClose <:+: outcomeText N (classifyAuditSynthesisSourceReports checks input) ↔
      ∃ artifact ∈ blockingArtifacts checks input, ∃ text ∈ artifactStrings artifact,
        Closes text := by
  obtain ⟨reason, given, verdict⟩ := classify_of_sources checks input some_
  rw [verdict, closes_outcomeText, or_iff_right (kind_open _),
    or_iff_right (verdictReasons_open reason given)]
  refine or_iff_right_of_imp ?_
  rintro ⟨code, inside, closes⟩
  have code_ := List.mem_of_mem_filter (mem_sortedSet.mp inside)
  obtain ⟨artifact, artifact_, has⟩ := List.mem_flatMap.mp code_
  exact ⟨artifact, artifact_, code, by simp [artifactStrings, has], closes⟩

end Verdict

/-! ### What is read back -/

/-- The same verdict, with the blocking sources that have a path. -/
structure SameVerdict (outcome parsed : AuditSynthesisOutcome) : Prop where
  kind : parsed.kind = outcome.kind
  counts : parsed.counts = outcome.counts
  reasonCodes : parsed.reasonCodes = outcome.reasonCodes
  artifacts : parsed.blockingSourceArtifacts = keptArtifacts outcome.blockingSourceArtifacts

/-- The counters do not say more sources without findings than there are. -/
def Consistent (counts : OutcomeCounts) : Prop :=
  counts.substantiveNoFindingsReportCount + counts.inventoryOnlyNoFindingsReportCount ≤
    counts.sourceReportCount

/-- What the reader asks of a verdict. -/
structure Accepted (outcome : AuditSynthesisOutcome) : Prop where
  findings : outcome.kind = .validatedFindingsPresent → Consistent outcome.counts ∧
    outcome.counts.sourceReportCount ≠ 0 ∧ outcome.counts.validatedFindingCount ≠ 0
  noFindings : outcome.kind = .validatedNoFindings → Consistent outcome.counts ∧
    provesNoFindings outcome = true

theorem sameVerdict_inconclusive {outcome kept : AuditSynthesisOutcome}
    (same : SameVerdict outcome kept) (reason : String) :
    SameVerdict outcome { kept with kind := .sourceInconclusive, reason := reason } ↔
      kept.kind = .sourceInconclusive := by
  constructor
  · intro changed
    exact same.kind.trans changed.kind.symm
  · intro inconclusive
    exact ⟨inconclusive.symm.trans same.kind, same.counts, same.reasonCodes, same.artifacts⟩

/-- The reader changes nothing but the reason of an inconclusive verdict, and makes every other
that it does not accept inconclusive. -/
theorem sameVerdict_validate {outcome kept : AuditSynthesisOutcome}
    (same : SameVerdict outcome kept) (known : kept.kind ∈ outcomeKinds) :
    SameVerdict outcome (validateParsedOutcome kept) ↔ Accepted kept := by
  have undecided : kept.kind = .sourceInconclusive → Accepted kept := by
    intro inconclusive
    refine ⟨fun kind => ?_, fun kind => ?_⟩
    · rw [inconclusive] at kind
      cases kind
    · rw [inconclusive] at kind
      cases kind
  have decided : Accepted kept → kept.kind ≠ .sourceInconclusive → Consistent kept.counts := by
    intro accepted other
    cases kind : kept.kind with
    | validatedFindingsPresent => exact (accepted.findings kind).1
    | validatedNoFindings => exact (accepted.noFindings kind).1
    | sourceInconclusive => exact absurd kind other
    | inconclusiveBatchEvidence =>
      rw [kind] at known
      exact absurd known (by decide)
  rw [validateParsedOutcome]
  dsimp only
  split_ifs with contradictory findings noFindings
  · rw [sameVerdict_inconclusive same]
    refine ⟨undecided, fun accepted => ?_⟩
    by_contra other
    exact absurd (decided accepted other) (Nat.not_le_of_lt contradictory)
  · rw [sameVerdict_inconclusive same, findings.1]
    refine iff_of_false (by decide) fun accepted => ?_
    obtain ⟨-, reported, counted⟩ := accepted.findings findings.1
    exact findings.2.elim reported counted
  · rw [sameVerdict_inconclusive same, noFindings.1]
    refine iff_of_false (by decide) fun accepted => ?_
    obtain ⟨-, proves⟩ := accepted.noFindings noFindings.1
    rw [proves] at noFindings
    cases noFindings.2
  · refine iff_of_true same ⟨fun kind => ⟨Nat.le_of_not_lt contradictory, ?_⟩,
      fun kind => ⟨Nat.le_of_not_lt contradictory, ?_⟩⟩
    · exact not_or.mp fun lacking => findings ⟨kind, lacking⟩
    · rw [← Bool.not_eq_false]
      exact fun lacking => noFindings ⟨kind, lacking⟩

/-- A verdict is read back from behind every text without another verdict. -/
def VerdictSurvives (N : CountNumbers) {ε : Type} (checks : SourceChecks ε)
    (input : SourceReports ε) : Prop :=
  ∀ text, NoComment outcomeMarker text → ∃ parsed,
    parseAuditSynthesisOutcomeFromText N (text ++ formatAuditSynthesisOutcomeForArtifact N
      (classifyAuditSynthesisSourceReports checks input)) = some parsed ∧
        SameVerdict (classifyAuditSynthesisSourceReports checks input) parsed

/-- What makes a verdict on sources survive. -/
structure SurvivesWith {ε : Type} (checks : SourceChecks ε) (input : SourceReports ε) : Prop where
  open_ : ∀ artifact ∈ blockingArtifacts checks input, ∀ text ∈ artifactStrings artifact,
    ¬ Closes text
  findings : findingsArtifacts input ≠ [] →
    (∃ artifact ∈ findingsArtifacts input, 0 < checks.countValidatedFindings artifact.content) ∧
      (substantiveArtifacts checks input).length + inventoryOnlyCount checks input ≤
        (trustedArtifacts input).length
  noFindings : requiredBlockingArtifacts checks input = [] →
    (∀ artifact ∈ trustedArtifacts input, isSubstantiveNoFindings checks artifact = true) →
      input.weakReportCount = 0 ∧ inventoryOnlyCount checks input = 0

section Survives

variable {ε : Type} {checks : SourceChecks ε} {input : SourceReports ε}

theorem validatedFindingCount_pos_iff :
    0 < (outcomeCounts checks input).validatedFindingCount ↔
      ∃ artifact ∈ findingsArtifacts input, 0 < checks.countValidatedFindings artifact.content := by
  rw [outcomeCounts, List.sum_pos_iff_exists_pos_nat]
  simp

theorem substantive_all_iff :
    (substantiveArtifacts checks input).length = (trustedArtifacts input).length ↔
      ∀ artifact ∈ trustedArtifacts input, isSubstantiveNoFindings checks artifact = true :=
  List.length_filter_eq_length_iff

theorem findingsArtifacts_of_substantive
    (all : ∀ artifact ∈ trustedArtifacts input, isSubstantiveNoFindings checks artifact = true) :
    findingsArtifacts input = [] := by
  rw [findingsArtifacts, List.filter_eq_nil_iff]
  intro artifact inside claims
  have against := all artifact inside
  rw [isSubstantiveNoFindings, Bool.and_eq_true, decide_eq_true_eq] at against
  rw [decide_eq_true_eq, against.1] at claims
  cases claims

theorem verdictKind_findings_iff :
    verdictKind checks input = .validatedFindingsPresent ↔ findingsArtifacts input ≠ [] := by
  rw [verdictKind]
  split_ifs with findings
  · exact iff_of_true rfl findings
  · exact iff_of_false (by decide) findings
  · exact iff_of_false (by decide) findings

theorem verdictKind_noFindings_iff :
    verdictKind checks input = .validatedNoFindings ↔ requiredBlockingArtifacts checks input = [] ∧
      ∀ artifact ∈ trustedArtifacts input, isSubstantiveNoFindings checks artifact = true := by
  rw [← substantive_all_iff, verdictKind]
  split_ifs with findings all
  · exact iff_of_false (by decide) fun both =>
      findings (findingsArtifacts_of_substantive (substantive_all_iff.mp both.2))
  · exact iff_of_true rfl all
  · exact iff_of_false (by decide) all

/-- What is read of a verdict whose text does not end its comment. -/
def keptOutcome (outcome : AuditSynthesisOutcome) : AuditSynthesisOutcome :=
  { outcome with blockingSourceArtifacts := keptArtifacts outcome.blockingSourceArtifacts }

/-- The reader accepts a verdict on sources when the claims on them carry its counters. -/
theorem accepted_kept_iff (some_ : ¬ NoSources checks input) :
    Accepted (keptOutcome (classifyAuditSynthesisSourceReports checks input)) ↔
      (findingsArtifacts input ≠ [] →
        (∃ artifact ∈ findingsArtifacts input,
          0 < checks.countValidatedFindings artifact.content) ∧
          (substantiveArtifacts checks input).length + inventoryOnlyCount checks input ≤
            (trustedArtifacts input).length) ∧
      (requiredBlockingArtifacts checks input = [] →
        (∀ artifact ∈ trustedArtifacts input, isSubstantiveNoFindings checks artifact = true) →
          input.weakReportCount = 0 ∧ inventoryOnlyCount checks input = 0) := by
  obtain ⟨reason, -, verdict⟩ := classify_of_sources checks input some_
  rw [verdict, keptOutcome]
  constructor
  · intro accepted
    refine ⟨fun findings => ?_, fun unblocked all => ?_⟩
    · obtain ⟨consistent, -, counted⟩ :=
        accepted.findings (verdictKind_findings_iff.mpr findings)
      exact ⟨validatedFindingCount_pos_iff.mp (Nat.pos_of_ne_zero counted), consistent⟩
    · obtain ⟨-, proves⟩ :=
        accepted.noFindings (verdictKind_noFindings_iff.mpr ⟨unblocked, all⟩)
      simp only [provesNoFindings, outcomeCounts, Bool.and_eq_true, beq_iff_eq] at proves
      exact ⟨by omega, by omega⟩
  · rintro ⟨findings, noFindings⟩
    refine ⟨fun kind => ?_, fun kind => ?_⟩
    · have claims := verdictKind_findings_iff.mp kind
      obtain ⟨counted, consistent⟩ := findings claims
      refine ⟨consistent, ?_, (validatedFindingCount_pos_iff.mpr counted).ne'⟩
      obtain ⟨artifact, inside, -⟩ := counted
      exact (List.length_pos_of_mem (List.mem_of_mem_filter inside)).ne'
    · obtain ⟨unblocked, all⟩ := verdictKind_noFindings_iff.mp kind
      obtain ⟨weak, inventory⟩ := noFindings unblocked all
      have substantive := substantive_all_iff.mpr all
      have sources : 0 < (trustedArtifacts input).length := by
        rw [List.length_pos_iff]
        exact fun nothing => some_ ⟨nothing, unblocked⟩
      have counted : (outcomeCounts checks input).validatedFindingCount = 0 := by
        rw [outcomeCounts, findingsArtifacts_of_substantive all]
        rfl
      have kept : (keptArtifacts (blockingArtifacts checks input)).filter (·.required) = [] := by
        rw [keptArtifacts, List.filter_comm, ← requiredBlockingArtifacts, unblocked]
        rfl
      have summed : (outcomeCounts checks input).weakReportCount = 0 := by
        rw [outcomeCounts, weak, unblocked]
        rfl
      refine ⟨?_, ?_⟩
      · rw [Consistent]
        exact (Nat.le_of_eq (by rw [outcomeCounts, substantive, inventory, Nat.add_zero]))
      · simp only [provesNoFindings, kept, counted, summed]
        simp [outcomeCounts, sources, substantive, inventory]

/-- A verdict whose text does not end its comment survives when the reader accepts it. -/
theorem survives_iff_accepted {outcome : AuditSynthesisOutcome} {text : String}
    (normal : Normal outcome) (open_ : ¬ commentClose <:+: outcomeText N outcome)
    (absent : NoComment outcomeMarker text) :
    (∃ parsed, parseAuditSynthesisOutcomeFromText N
      (text ++ formatAuditSynthesisOutcomeForArtifact N outcome) = some parsed ∧
        SameVerdict outcome parsed) ↔ Accepted (keptOutcome outcome) := by
  have same : SameVerdict outcome (keptOutcome outcome) := ⟨rfl, rfl, rfl, rfl⟩
  rw [parse_format absent open_, readOutcome_json normal, ← keptOutcome,
    ← sameVerdict_validate same normal.known]
  simp

theorem noComment_empty : NoComment outcomeMarker "" := by
  rw [noComment_iff isMarker_outcome]
  intro s t split
  obtain ⟨-, rfl⟩ := List.append_eq_nil_iff.mp split.symm
  rfl

theorem survives_of_noSources (none_ : NoSources checks input) :
    VerdictSurvives N checks input := by
  intro text absent
  have normal : Normal (classifyAuditSynthesisSourceReports checks input) := by
    rw [classify_of_noSources checks input none_]
    exact ⟨by simp [outcomeKinds], sortedSet_singleton _ _,
      fun artifact inside => absurd inside List.not_mem_nil⟩
  have open_ : ¬ commentClose <:+:
      outcomeText N (classifyAuditSynthesisSourceReports checks input) := by
    have reason : ¬ Closes "Audit inconclusive: no validated source reports were available." :=
      not_closes_of_no_angle (by rw [String.toList_ofList]; decide)
    have code : ¬ Closes "missing_source_artifacts" :=
      not_closes_of_no_angle (by rw [String.toList_ofList]; decide)
    rw [classify_of_noSources checks input none_, closes_outcomeText]
    simp [kind_open, reason, code]
  rw [survives_iff_accepted normal open_ absent, classify_of_noSources checks input none_]
  refine ⟨fun kind => ?_, fun kind => ?_⟩
  · cases kind
  · cases kind

theorem not_survives_of_closes (some_ : ¬ NoSources checks input)
    (closes : commentClose <:+:
      outcomeText N (classifyAuditSynthesisSourceReports checks input)) :
    ¬ VerdictSurvives N checks input := by
  intro survives
  obtain ⟨parsed, read, same⟩ := survives "" noComment_empty
  rw [parse_format_cut noComment_empty closes, Option.some.injEq] at read
  obtain ⟨reason, -, verdict⟩ := classify_of_sources checks input some_
  have counts := same.counts
  rw [← read, verdict] at counts
  have sources : 0 = (trustedArtifacts input).length := congrArg OutcomeCounts.sourceReportCount counts
  have weak : 0 = input.weakReportCount + (requiredBlockingArtifacts checks input).length :=
    congrArg OutcomeCounts.weakReportCount counts
  exact some_ ((noSources_iff checks input).mp (by omega))

end Survives

/-- The synthesis verdict survives embedding exactly when it is about no source at all, or no
string of a blocking source ends the comment and its counters pass the rules of the reader. -/
theorem verdict_survives_iff (N : CountNumbers) {ε : Type} (checks : SourceChecks ε)
    (input : SourceReports ε) :
    VerdictSurvives N checks input ↔ NoSources checks input ∨ SurvivesWith checks input := by
  by_cases none_ : NoSources checks input
  · exact iff_of_true (survives_of_noSources none_) (.inl none_)
  rw [or_iff_right none_]
  by_cases closes : commentClose <:+:
      outcomeText N (classifyAuditSynthesisSourceReports checks input)
  · refine iff_of_false (not_survives_of_closes none_ closes) fun survives => ?_
    obtain ⟨artifact, inside, text, has, ends⟩ := (closes_classify checks input none_).mp closes
    exact survives.open_ artifact inside text has ends
  have normal := normal_classify checks input none_
  have open_ : ∀ artifact ∈ blockingArtifacts checks input, ∀ text ∈ artifactStrings artifact,
      ¬ Closes text := fun artifact inside text has ends =>
    closes ((closes_classify checks input none_).mpr ⟨artifact, inside, text, has, ends⟩)
  constructor
  · intro survives
    have accepted := (survives_iff_accepted normal closes noComment_empty).mp
      (survives "" noComment_empty)
    obtain ⟨findings, noFindings⟩ := (accepted_kept_iff none_).mp accepted
    exact ⟨open_, findings, noFindings⟩
  · intro survives text absent
    exact (survives_iff_accepted normal closes absent).mpr
      ((accepted_kept_iff none_).mpr ⟨survives.findings, survives.noFindings⟩)

/-! ### Findings beside two inventories -/

def decimalCounts : CountNumbers where
  Number := Nat
  texts := decimalNumbers
  lawful := lawful_decimalNumbers
  ofNat := id
  toCount := some
  toCount_ofNat := fun _ => rfl

/-- A trusted report with findings. -/
def findingsReport : TrustedSourceAuditArtifact Unit where
  artifactPath := "audit/auth.md"
  taskId := some "t1"
  roadmapBatchId := none
  roadmapAlias := none
  auditPlanId := none
  sourceClassification := .validatedFindingsPresent
  content := "## Findings"
  auditEvidenceUnits := []
  manifestValid := true
  ledgerValid := true
  sourceSnapshotValid := true
  committedBlobVerified := true
  completionGuardTrusted := true
  substantiveNoFindingsSupported := none
  required := some true
  reasonCodes := []

/-- An optional source that is an inventory only. -/
def inventoryReport (artifactPath : String) : BlockingSourceArtifact where
  artifactPath := artifactPath
  taskId := none
  required := false
  state := some "invalid"
  sourceClassification := some "inventory_only_invalid"
  reasonCodes := ["inventory_only_no_findings"]

def findingsBesideInventories : SourceReports Unit where
  reports := []
  trustedSourceArtifacts := [findingsReport]
  blockingSourceArtifacts := [inventoryReport "audit/api.md", inventoryReport "audit/ui.md"]
  weakReportCount := 0

theorem trustedArtifacts_findingsBesideInventories :
    trustedArtifacts findingsBesideInventories = [findingsReport] := by
  have trusted : sourceArtifactIsTrusted findingsReport = true := by
    simp [sourceArtifactIsTrusted, sourceArtifactTrustReasonCodes, normalizeReasonCodes,
      uniqueStrings, findingsReport, sortedSet]
  rw [trustedArtifacts, findingsBesideInventories, List.filter_cons_of_pos trusted, List.filter_nil]

/-- Whatever the checks on the contents find, the findings are read back as inconclusive: two
inventories beside one trusted source are contradictory counts. -/
theorem findings_beside_inventories_lost : ¬ ∃ checks : SourceChecks Unit,
    VerdictSurvives decimalCounts checks findingsBesideInventories := by
  rintro ⟨checks, survives⟩
  have trusted := trustedArtifacts_findingsBesideInventories
  have some_ : ¬ NoSources checks findingsBesideInventories := by
    rw [NoSources, trusted]
    simp
  by_cases closes : commentClose <:+: outcomeText decimalCounts
      (classifyAuditSynthesisSourceReports checks findingsBesideInventories)
  · exact not_survives_of_closes some_ closes survives
  have accepted := (survives_iff_accepted (normal_classify checks _ some_) closes
    noComment_empty).mp (survives "" noComment_empty)
  have claims : findingsArtifacts findingsBesideInventories ≠ [] := by
    rw [findingsArtifacts, trusted]
    decide
  obtain ⟨-, consistent⟩ := ((accepted_kept_iff some_).mp accepted).1 claims
  have inventories : 2 ≤ inventoryOnlyCount checks findingsBesideInventories := by
    refine Nat.le_trans ?_ (Nat.le_add_right _ _)
    simp [blockingArtifacts, findingsBesideInventories, inventoryReport]
  rw [trusted, List.length_singleton] at consistent
  omega

end RoundTrip

end AifHandoff.Shared.AuditSynthesis
