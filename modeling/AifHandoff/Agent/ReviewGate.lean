import AifHandoff.Agent.ReviewContract
import AifHandoff.Lib.Keyed

/-!
The review gate (`agent/reviewGate.ts`).

`evaluateReviewCommentsForAutoMode` reads the comments of a review: as structured comments
when they carry the metadata heading, else by their Blocking Findings sections, else through
a model's extraction. What it asks of the task, the working tree and the model stands in
`ReviewGateEnv`.
-/

namespace AifHandoff.Agent.Review

open Text Regex Shared

/-! ### Input and result -/

inductive ReviewGateParserMode where
  | structured | fallback
deriving DecidableEq, Repr

inductive ReviewGateManualHandoffReason where
  | newBlockersAfterRework | malformedReviewOutputFallback | malformedStructuredReviewContract
  | riskyReviewWithoutSubstantiveEvidence
deriving DecidableEq, Repr

structure ReviewGateMetrics where
  strategy : AutoReviewStrategy
  iteration : Nat
  previousBlockingCount : Nat
  stillBlockingCount : Nat
  newBlockingCount : Nat
  totalBlockingCount : Nat
  parserMode : ReviewGateParserMode
deriving DecidableEq, Repr

inductive ReviewGateStatus where
  | success | requestChanges
  | manualReviewRequired (handoffReason : ReviewGateManualHandoffReason)
  | operatorInputRequired
deriving DecidableEq, Repr

structure ReviewGateResult where
  status : ReviewGateStatus
  metrics : ReviewGateMetrics
  blockingFindings : List AutoReviewFinding
  fixesMarkdown : String
  autoReviewState : Option AutoReviewState
deriving DecidableEq, Repr

structure ReviewGateInput where
  reviewComments : Option String
  strategy : AutoReviewStrategy
  iteration : Nat
  previousFindings : List AutoReviewFinding

/-- What the gate asks of the task, the working tree and the model. -/
structure ReviewGateEnv extends Platform where
  /-- `isRiskyTask(task)`, where the input names a task. -/
  riskyTask : Option Bool
  /-- What `evaluateTaskCompletionEvidence` has against a risky task. -/
  completionEvidenceIssues : List String
  /-- A risky task whose review and report show no substantive evidence. -/
  lacksSubstantiveEvidence : Bool
  /-- `isFindingRefutedByConfiguredRefutations`. -/
  refutedByConfiguration : AutoReviewFinding → Bool
  isValidProjectJsonFile : String → Bool
  /-- The extractor's answer; it may throw. -/
  extractorAnswer : Option String

def ReviewGateEnv.isRisky (env : ReviewGateEnv) : Bool := env.riskyTask == some true

def formatFixesMarkdown (findings : List AutoReviewFinding) : String :=
  if findings.isEmpty then "- none"
  else join "\n" (findings.map fun finding =>
    "- [" ++ finding.id ++ "] " ++ finding.source.text ++ " | " ++ finding.text)

def sanitizeReviewText (text : String) : String := normalizeReviewText text

/-! ### What a finding asks for -/

def operatorInputPrefix : Regex := cat [.startAnchor, litI "operator_input_required:"]

def isExplicitOperatorInputFinding (finding : AutoReviewFinding) : Bool :=
  test operatorInputPrefix (trim finding.text)

def withoutOperatorInputPrefix (text : String) : String :=
  replaceFirst (cat [operatorInputPrefix, many space]) (fun _ => "") text

/-- One of the two Cyrillic letters, in either case. -/
def eitherLetter (left right : Char) : Regex :=
  .set fun c => foldCase c == foldCase left || foldCase c == foldCase right

def evidenceRequestPatterns : List Regex :=
  [words (["provide", "supply", "paste", "attach", "show", "share", "confirm"].map litI),
    anyOf (["предостав", "покаж", "прилож", "подтверд", "вывед", "пришл", "укаж"].map litFold)]

def evidenceSubjectPatterns : List Regex :=
  [words (["cat", "read_file", "git status", "git diff", "git show", "ls", "grep", "rg"].map litI ++
      [cat [litI "file content", optional (litI "s")], litI "command output", litI "test output",
        litI "current state", cat [litI "package", optional (litI "-lock"), litI ".json"],
        litI "vitest.config", litI "vite.config", litI "tsconfig",
        cat [litI "npm", optional (litI ".cmd"), some1 space,
          anyOf [litI "test", litI "run test", litI "run", litI "install"]]]),
    anyOf ([cat [litFold "вывод", some1 space, litFold "команд"]] ++
      ["лог", "содержим", "файл", "сканирован", "провер", "секрет", "зависимост", "конфиг",
        "манифест"].map litFold ++
      [cat [litFold "измен", eitherLetter 'е' 'ё', litFold "н"]])]

def isRepositoryOrToolEvidenceRequest (text : String) : Bool :=
  let normalized := withoutOperatorInputPrefix text
  evidenceRequestPatterns.any (test · normalized) &&
    evidenceSubjectPatterns.any (test · normalized)

def isPolicyOrSecuritySensitiveAmbiguity (text : String) : Bool :=
  test (words (["policy", "security", "secret", "token", "credential", "private key", "bearer",
    "cookie", "malformed", "unsafe to auto-close", "ambiguous evidence", "human judgment",
    "manual review"].map litI)) text

/-- The first Cyrillic alternatives are the source's own, read in a wrong encoding. -/
def externalRequestPatterns : List Regex :=
  [words (["provide", "supply", "paste", "attach", "show", "share", "choose", "select", "confirm",
      "decide", "approve", "grant", "configure", "set", "update"].map litI),
    anyOf ((["РїСЂРµРґРѕСЃС‚Р°РІ", "РїРѕРєР°Р¶", "РїСЂРёР»РѕР¶", "РїРѕРґС‚РІРµСЂРґ", "РІС‹Р±РµСЂ", "СѓРєР°Р¶",
      "РЅР°СЃС‚СЂРѕ", "РѕРґРѕР±СЂ", "подтверд", "предостав", "покаж", "прилож", "выбер", "укаж",
      "настро", "одобр"] : List String).map litFold)]

def externalSubjectPatterns : List Regex :=
  [words (["account", "tenant", "workspace", "staging", "production", "environment"].map litI ++
      [cat [litI "env", optional (litI "ironment"), litI " variable"], litI "runtime",
        litI "profile", litI "endpoint", litI "base url",
        cat [litI "config", optional (litI "uration")]] ++
      ["setting", "access", "permission", "grant", "login", "credential location",
        "api key name", "provider", "budget cap", "approval"].map litI),
    anyOf (["аккаунт", "тенант", "воркспейс", "стейдж", "продакш", "окружени", "переменн",
      "рантайм", "профил", "эндпоинт", "конфиг", "настройк", "доступ", "разрешени", "логин",
      "провайдер", "бюджет", "лимит", "одобрени"].map litFold)]

def isConcreteExternalOperatorInputRequest (text : String) : Bool :=
  let normalized := withoutOperatorInputPrefix text
  externalRequestPatterns.any (test · normalized) &&
    externalSubjectPatterns.any (test · normalized)

/-- A quotation that holds a digit. -/
def quotedDigit : Regex :=
  cat [lit "«", many (noneOf "»"), digit, many (noneOf "»"), lit "»"]

def contractMismatchPatterns : List Regex :=
  [words (["mismatch", "conflict", "contradict", "does not match", "not match", "incompatible",
      "range", "format", "type", "contract", "schema", "interface", "expected", "actual"].map litI),
    anyOf [cat [some1 digit, optional (cat [oneOf ".,", some1 digit]), many space,
        anyOf [lit "%", lit "–", lit "-", litI "to"], many space, digit],
      cat [quotedDigit, many dot, quotedDigit]]]

def hasConcreteProductContractMismatch (text : String) : Bool :=
  contractMismatchPatterns.any (test · text)

def scopeDecisionPatterns : List Regex :=
  [words (["confirm", "clarify", "decide", "choose", "select", "which", "whether", "required",
      "needed"].map litI),
    anyOf (["подтверд", "уточн", "реши", "выбр", "какие", "нужн", "требу"].map litFold)]

def productScopePatterns : List Regex :=
  [words ([cat [litI "field", optional (litI "s")], litI "properties", litI "optional",
      litI "proposed", litI "design artifact", cat [litI "requirement", optional (litI "s")],
      litI "scope", litI "domain model", litI "interface", litI "schema"]),
    anyOf ([cat [litFold "пол", eitherLetter 'е' 'я']] ++
      ["свойств", "опциональ", "предложенн", "дизайн", "артефакт", "требован", "област", "домен",
        "модел", "интерфейс", "схем"].map litFold)]

def isAmbiguousProductScopeOperatorInputFinding (finding : AutoReviewFinding) : Bool :=
  let normalized := withoutOperatorInputPrefix finding.text
  isExplicitOperatorInputFinding finding &&
    !isConcreteExternalOperatorInputRequest normalized &&
    !hasConcreteProductContractMismatch normalized &&
    scopeDecisionPatterns.any (test · normalized) && productScopePatterns.any (test · normalized)

def isConcreteOperatorInputFinding (finding : AutoReviewFinding) : Bool :=
  let text := trim finding.text
  if isRepositoryOrToolEvidenceRequest text then false
  else if isAmbiguousProductScopeOperatorInputFinding finding then false
  else if isExplicitOperatorInputFinding finding then isConcreteExternalOperatorInputRequest text
  else if finding.source = .reviewGate then false
  else if isPolicyOrSecuritySensitiveAmbiguity text then false
  else
    test (words (["operator", "user", "human", "maintainer", "owner"].map litI)) text &&
      test (words (["provide", "supply", "choose", "select", "confirm", "decide", "approve",
        "grant", "configure", "set", "update"].map litI)) text &&
      test (words (["data", "input", "answer", "decision", "approval", "access", "permission",
        "config", "configuration", "profile", "value", "setting", "account", "login"].map litI))
        text

/-! ### The filters -/

def filterNonBlockingOperatorInputFindings (findings : List AutoReviewFinding) :
    List AutoReviewFinding :=
  findings.filter (!isAmbiguousProductScopeOperatorInputFinding ·)

def jsonPathPattern : Regex :=
  anyOf [cat [lit "`", .capture 1 (cat [some1 (noneOf "`"), litI ".json"]), lit "`"],
    cat [.alt .startAnchor (.set fun c => isSpace c || "([:".toList.contains c),
      .capture 2 (cat [some1 (wordOr "./\\-"), litI ".json"]), .wordBoundary]]

def referencedJsonPaths (text : String) : List String :=
  (matchAll jsonPathPattern text).filterMap fun hit =>
    let raw := trim (hit.group (if (hit.captures.lookup 1).isSome then 1 else 2))
    if raw.isEmpty then none
    else
      let path := String.ofList (raw.toList.map fun c => if c = '\\' then '/' else c)
      some (replaceFirst (cat [.startAnchor, lit ".", some1 (lit "/")]) (fun _ => "") path)

def isJsonSyntaxClaim (text : String) : Bool :=
  test (words [litI "json"]) text &&
    (test (words (["invalid", "malformed", "syntax", "parse", "parser", "unclosed",
      "unterminated"].map litI)) text ||
      test (anyOf (["невалид", "синтакс", "ошибк", "незакрыт"].map litFold)) text)

def isRefutedJsonSyntaxFinding (env : ReviewGateEnv) (finding : AutoReviewFinding) : Bool :=
  let paths := referencedJsonPaths finding.text
  !paths.isEmpty && isJsonSyntaxClaim finding.text && paths.all env.isValidProjectJsonFile

def filterRefutedRepositoryFindings (env : ReviewGateEnv) (findings : List AutoReviewFinding) :
    List AutoReviewFinding :=
  findings.filter fun finding =>
    !env.refutedByConfiguration finding && !isRefutedJsonSyntaxFinding env finding

def rawSidecarPattern (heading : String) : Regex :=
  cat [litI "## ", litI heading, .wordBoundary, .star false (.set fun _ => true),
    litI "## Blocking Findings", .wordBoundary, many space, optional (lit "\r"), lit "\n",
    many space, lit "-", many space, litI "none", optional (lit ".")]

def rawSidecarDeclaresNoBlockingFindings (reviewComments : Option String) (heading : String) :
    Bool :=
  reviewComments.any fun comments => !comments.isEmpty && test (rawSidecarPattern heading) comments

def rawSidecarsDeclareNoBlockingFindings (reviewComments : Option String) : Bool :=
  rawSidecarDeclaresNoBlockingFindings reviewComments "Raw Code Review" &&
    rawSidecarDeclaresNoBlockingFindings reviewComments "Raw Security Audit"

/-- A task that is known not to be risky. -/
def ReviewGateEnv.knownNotRisky (env : ReviewGateEnv) : Bool := env.riskyTask == some false

def isRefutedSecurityCoverageContractOnlyFinding (env : ReviewGateEnv)
    (reviewComments : Option String) (finding : AutoReviewFinding) : Bool :=
  finding.source == .reviewGate &&
    test (litI ("Structured review contract not satisfied: review output must include " ++
      "complete unique Security Coverage rows")) finding.text &&
    env.knownNotRisky && rawSidecarsDeclareNoBlockingFindings reviewComments

def isSecurityCoverageContractFinding (finding : AutoReviewFinding) : Bool :=
  finding.source == .reviewGate && test (words [litI "Security Coverage rows"]) finding.text

def canRecoverSecurityCoverageOnlyContractFailure (env : ReviewGateEnv)
    (reviewComments : Option String) (findings : List AutoReviewFinding) : Bool :=
  !findings.isEmpty && env.knownNotRisky && findings.all isSecurityCoverageContractFinding &&
    rawSidecarsDeclareNoBlockingFindings reviewComments

def filterActionableBlockingFindings (env : ReviewGateEnv) (reviewComments : Option String)
    (findings : List AutoReviewFinding) : List AutoReviewFinding :=
  (filterRefutedRepositoryFindings env (filterNonBlockingOperatorInputFindings findings)).filter
    (!isRefutedSecurityCoverageContractOnlyFinding env reviewComments ·)

/-! ### Merging and counting -/

/-- `{ ...existing, ...finding, status, closureEvidence }`. -/
def mergeFinding (existing finding : AutoReviewFinding) : AutoReviewFinding where
  id := finding.id
  text := finding.text
  source := finding.source
  status := finding.status <|> existing.status
  severity := finding.severity <|> existing.severity
  location := finding.location <|> existing.location
  claim := finding.claim <|> existing.claim
  requiredFix := finding.requiredFix <|> existing.requiredFix
  verification := finding.verification <|> existing.verification
  closureEvidence := finding.closureEvidence <|> existing.closureEvidence
  firstSeenIteration := finding.firstSeenIteration <|> existing.firstSeenIteration
  lastSeenIteration := finding.lastSeenIteration <|> existing.lastSeenIteration
  streak := finding.streak <|> existing.streak

def addFinding (map : List AutoReviewFinding) (finding : AutoReviewFinding) :
    List AutoReviewFinding :=
  match map.find? (·.id == finding.id) with
  | none => Keyed.set (·.id) map finding
  | some existing => Keyed.set (·.id) map (mergeFinding existing finding)

/-- The groups merged by id, in order. -/
def mergeFindings (groups : List (List AutoReviewFinding)) : List AutoReviewFinding :=
  groups.flatten.foldl addFinding []

def enrichBlockingFinding (previousFindings : List AutoReviewFinding) (iteration : Nat)
    (finding : AutoReviewFinding) : AutoReviewFinding :=
  match findingById previousFindings finding.id with
  | none =>
    { finding with
      firstSeenIteration := some iteration
      lastSeenIteration := some iteration
      streak := some 1 }
  | some previous =>
    let previousStreak := max 1 (previous.streak.getD 1)
    let previousFirstSeen :=
      (previous.firstSeenIteration.filter (0 < ·)).getD (max 1 (iteration - previousStreak))
    { finding with
      firstSeenIteration := some previousFirstSeen
      lastSeenIteration := some iteration
      streak := some (previousStreak + 1) }

def enrichBlockingFindings (findings previousFindings : List AutoReviewFinding)
    (iteration : Nat) : List AutoReviewFinding :=
  findings.map (enrichBlockingFinding previousFindings iteration)

def reviewGateFinding (platform : Platform) (text : String) : AutoReviewFinding where
  id := createAutoReviewFindingId platform .reviewGate text
  source := .reviewGate
  text := text

def isDeterministicAuditSynthesisInconclusiveReview (reviewComments : Option String) : Bool :=
  test (cat [.wordBoundary, litI "Deterministic Review:", many space,
    litI "audit_synthesis_inconclusive", .wordBoundary]) (reviewComments.getD "")

def collectDeterministicReviewGateFindings (env : ReviewGateEnv) (input : ReviewGateInput) :
    List AutoReviewFinding :=
  if !env.isRisky then []
  else if isDeterministicAuditSynthesisInconclusiveReview input.reviewComments then []
  else env.completionEvidenceIssues.map (reviewGateFinding env.toPlatform)

/-! ### Extraction and Blocking Findings sections -/

def successToken : String := "SUCCESS"

def answerLines (answer : String) : List String :=
  ((split answer '\n').map trim).filter (!·.isEmpty)

/-- The rows of an extractor's answer that is not `SUCCESS`; none when it has another form. -/
def extractedRows (answer : String) : List String :=
  let trimmedLines := answerLines answer
  let bulletLines := trimmedLines.filter (startsWith · "- ")
  if !bulletLines.isEmpty && bulletLines.length == trimmedLines.length then
    bulletLines.map fun line => trim (dropChars line 2)
  else []

def runLegacyFallbackExtraction (env : ReviewGateEnv) : Except String (List AutoReviewFinding) :=
  match env.extractorAnswer with
  | none => .error "executeSubagentQuery"
  | some resultText =>
    let normalizedResultText := trim resultText
    if normalizedResultText.isEmpty then .error "Review auto-check returned empty response"
    else if toUpperCase normalizedResultText = successToken then .ok []
    else .ok ((extractedRows normalizedResultText).map (reviewGateFinding env.toPlatform))

def blockingHeading : Regex :=
  cat [.startAnchor, lit "##", some1 space, litI "Blocking Findings", many space, .endAnchor]

def anyHeading : Regex :=
  cat [.startAnchor, lit "#", upTo 5 (lit "#"), some1 space, .set (!isSpace ·)]

/-- `/^none\.?$/i`. -/
def nonePattern : Regex := cat [.startAnchor, litI "none", optional (lit "."), .endAnchor]

/-- A row without its bullet. -/
def bulletText (line : String) : String :=
  trim (replaceFirst (cat [.startAnchor, lit "-", many space]) (fun _ => "") line)

/-- The text of a row of a Blocking Findings section, unless it says none. -/
def legacyRowText (line : String) : Option String :=
  if startsWith line "-" then
    let text := bulletText line
    if text.isEmpty || test nonePattern text then none else some text
  else none

/-- The lines up to the next heading, trimmed. -/
def sectionLines (lines : List String) : List String :=
  (lines.map trim).takeWhile (!test anyHeading ·)

/-- The lines behind each Blocking Findings heading. -/
def blockingSections : List String → List (List String)
  | [] => []
  | line :: rest =>
    if test blockingHeading (trim line) then sectionLines rest :: blockingSections rest
    else blockingSections rest

def parseLegacyBlockingFindings (env : ReviewGateEnv) (reviewComments : Option String) :
    Option (List AutoReviewFinding) :=
  let sections := blockingSections (splitLines (reviewComments.getD ""))
  if sections.isEmpty then none
  else some ((sections.flatten.filterMap legacyRowText).map (reviewGateFinding env.toPlatform))

/-! ### Decisions -/

section Decisions

variable (env : ReviewGateEnv) (input : ReviewGateInput)

def buildMetrics (stillBlockingCount newBlockingCount totalBlockingCount : Nat)
    (parserMode : ReviewGateParserMode) : ReviewGateMetrics where
  strategy := input.strategy
  iteration := input.iteration
  previousBlockingCount := input.previousFindings.length
  stillBlockingCount := stillBlockingCount
  newBlockingCount := newBlockingCount
  totalBlockingCount := totalBlockingCount
  parserMode := parserMode

def isPrevious (finding : AutoReviewFinding) : Bool :=
  input.previousFindings.any (·.id == finding.id)

/-- A decision that keeps its findings for the next review. -/
def decision (status : ReviewGateStatus) (metrics : ReviewGateMetrics)
    (findings : List AutoReviewFinding)
    (securityCoverage : Option (List AutoReviewSecurityCoverage) := none)
    (blockerHistory : Option (List AutoReviewPreviousFinding) := none) : ReviewGateResult where
  status := status
  metrics := metrics
  blockingFindings := findings
  fixesMarkdown := formatFixesMarkdown findings
  autoReviewState := some
    (toAutoReviewState input.strategy input.iteration findings securityCoverage blockerHistory)

def accept (metrics : ReviewGateMetrics) : ReviewGateResult where
  status := .success
  metrics := metrics
  blockingFindings := []
  fixesMarkdown := "- none"
  autoReviewState := none

def enriched (findings : List AutoReviewFinding) : List AutoReviewFinding :=
  enrichBlockingFindings findings input.previousFindings input.iteration

/-- `finding.closureEvidence ? sanitizeReviewText(..) : finding.closureEvidence`. -/
def sanitizeClosureEvidence (finding : AutoReviewFinding) : AutoReviewFinding :=
  { finding with closureEvidence := finding.closureEvidence.map sanitizeReviewText }

def normalizeOperatorInputFinding (finding : AutoReviewFinding) : AutoReviewFinding :=
  let safeText := sanitizeReviewText finding.text
  { sanitizeClosureEvidence finding with
    text :=
      if test operatorInputPrefix safeText then
        replaceFirst operatorInputPrefix (fun _ => "operator_input_required:") safeText
      else "operator_input_required: " ++ safeText }

def buildOperatorInputDecision (metrics : ReviewGateMetrics) (findings : List AutoReviewFinding) :
    ReviewGateResult :=
  decision input .operatorInputRequired metrics
    (enriched input (findings.map normalizeOperatorInputFinding))

def maybeBuildOperatorInputDecision (metrics : ReviewGateMetrics)
    (findings : List AutoReviewFinding) : Option ReviewGateResult :=
  if findings.isEmpty || !findings.all isConcreteOperatorInputFinding then none
  else some (buildOperatorInputDecision input metrics findings)

def isManualReviewFinding (finding : AutoReviewFinding) : Bool :=
  test (cat [.startAnchor, litI "manual_review_required:"]) (trim finding.text)

def maybeBuildManualReviewDecision (metrics : ReviewGateMetrics)
    (findings : List AutoReviewFinding) : Option ReviewGateResult :=
  let manualFindings := findings.filter isManualReviewFinding
  if manualFindings.isEmpty then none
  else some (decision input (.manualReviewRequired .malformedReviewOutputFallback) metrics
    (enriched input (manualFindings.map fun finding =>
      { sanitizeClosureEvidence finding with text := sanitizeReviewText finding.text })))

def buildMissingPreviousFindingHandoff (metrics : ReviewGateMetrics)
    (currentFindings : List AutoReviewFinding) : ReviewGateResult :=
  let enrichedFindings := enriched input (mergeFindings [input.previousFindings, currentFindings])
  decision input (.manualReviewRequired .malformedReviewOutputFallback)
    { metrics with
      stillBlockingCount := input.previousFindings.length
      newBlockingCount := (enrichedFindings.filter (!isPrevious input ·)).length
      totalBlockingCount := enrichedFindings.length }
    enrichedFindings

def requiresSubstantiveReviewEvidence : Bool := env.isRisky && env.lacksSubstantiveEvidence

def substantiveEvidenceFinding : AutoReviewFinding where
  id := createAutoReviewFindingId env.toPlatform .reviewGate
    "Risky audit/review/discovery acceptance requires substantive review evidence"
  source := .reviewGate
  text := "Risky audit/review/discovery acceptance requires substantive review evidence."

def buildSubstantiveEvidenceHandoff (metrics : ReviewGateMetrics) : ReviewGateResult :=
  decision input (.manualReviewRequired .riskyReviewWithoutSubstantiveEvidence)
    { metrics with
      newBlockingCount := metrics.newBlockingCount + 1
      totalBlockingCount := metrics.totalBlockingCount + 1 }
    (enriched input [substantiveEvidenceFinding env])

def acceptOrHandOff (metrics : ReviewGateMetrics) : ReviewGateResult :=
  if requiresSubstantiveReviewEvidence env then buildSubstantiveEvidenceHandoff env input metrics
  else accept metrics

/-- The decision on findings that block: manual review, operator input, else what is left. -/
def decideOnFindings (metrics : ReviewGateMetrics) (findings : List AutoReviewFinding)
    (otherwise : ReviewGateResult) : ReviewGateResult :=
  ((maybeBuildManualReviewDecision input metrics findings).orElse fun _ =>
    maybeBuildOperatorInputDecision input metrics findings).getD otherwise

/-! #### Structured comments -/

def parsedStructuredMetadataMatchesInput (parsed : ParsedStructuredReviewComments) : Bool :=
  parsed.strategy == input.strategy && parsed.iteration == input.iteration

def parsedPreviousFindingsMatchInput (parsed : ParsedStructuredReviewComments) : Bool :=
  if input.previousFindings.isEmpty then parsed.previousFindings.isEmpty
  else
    parsed.previousFindings.length == input.previousFindings.length &&
      (parsed.previousFindings.map (·.id)).Nodup &&
      (parsed.previousFindings.all fun finding =>
        (findingById input.previousFindings finding.id).map (·.source) == some finding.source) &&
      parsed.previousFindings.length == ((input.previousFindings.map (·.id)).eraseDups).length

def closureEvidencePatterns : List Regex :=
  codeFilePatterns ++
    [wordThenWord
      [litI "command", litI "test", litI "tests", litI "lint", litI "build", litI "validator",
        litI "git log"]
      [litI "output", litI "exit code", litI "status", litI "passed", litI "failed", litI "green"],
    wordThenWord
      [litI "manifest", cat [litI "evidenceRef", optional (litI "s")], litI "scope coverage"]
      [litI "present", litI "bound", litI "covered", litI "validated",
        cat [lit "`", some1 (noneOf "`"), lit "`"], cat [lit "[", some1 (noneOf "]"), lit "]"],
        cat [litI "ev-", some1 (wordOr "")]],
    wordThenWord
      [litI "blocked_external", litI "manualReviewRequired", litI "autoReviewState"]
      [litI "true", litI "false", litI "null", litI "set", litI "cleared", litI "preserved",
        litI "contains", lit "=", lit ":"]]

def bareClosurePattern : Regex :=
  cat [.startAnchor,
    anyOf (["fixed", "done", "resolved", "addressed", "handled", "complete", "completed", "ok",
      "okay", "looks good", "all good", "verified", "passes", "pass", "n/a", "none"].map litI),
    optional (lit "."), .endAnchor]

def resolvedPreviousFindingHasClosureEvidence (note : String) : Bool :=
  let normalized := trim note
  24 ≤ utf16Length normalized && !test bareClosurePattern normalized &&
    closureEvidencePatterns.any (test · normalized)

def resolvedPreviousFindingsHaveClosureEvidence (parsed : ParsedStructuredReviewComments) : Bool :=
  parsed.previousFindings.all fun finding =>
    finding.status.isBlocking || resolvedPreviousFindingHasClosureEvidence finding.note

def strictAuditValidatorBlockerCodes : List String :=
  ["invalid_report_manifest", "missing_scope_coverage", "missing_substantive_evidence",
    "fake_or_placeholder_command_output", "false_missing_path_claim",
    "future_tense_git_verification", "governance_observation_as_finding",
    "irrelevant_audit_evidence", "malformed_report_artifact", "missing_risk_hypotheses",
    "non_actionable_audit_observation", "placeholder_author_metadata", "speculative_audit_claim",
    "synthetic_git_output", "audit_evidence_discovery_only", "audit_evidence_identity_mismatch",
    "audit_evidence_risk_mismatch", "audit_evidence_scope_mismatch",
    "audit_evidence_source_snapshot_mismatch", "contradictory_findings_and_no_findings",
    "invalid_line_reference", "manifest_content_hash_mismatch", "manifest_identity_mismatch",
    "manifest_outcome_mismatch", "manifest_source_snapshot_mismatch", "missing_audit_evidence_ref",
    "missing_declared_scope_root", "missing_report_file_references", "missing_report_manifest",
    "missing_report_manifest_fields", "unsupported_report_manifest_version",
    "unverified_inspection_claim"]

def extractStrictAuditValidatorBlockerCode (text : String) : Option String :=
  let validatorMatch := exec (cat [lit "(", .capture 1 (some1 (noneOf ")")), lit ")"]) text
  let deterministicRepairMatch := exec (cat [.wordBoundary, litI "deterministic_repair_",
    .capture 1 (some1 (wordOr ""))]) text
  ([validatorMatch, deterministicRepairMatch].filterMap fun hit =>
    hit.map fun hit => trim (hit.group 1)).find? (strictAuditValidatorBlockerCodes.contains ·)

def preserveResolvedStrictAuditValidatorBlockers (parsed : ParsedStructuredReviewComments)
    (deterministicFindings : List AutoReviewFinding) : List AutoReviewFinding :=
  let currentStrictCodes :=
    deterministicFindings.filterMap fun finding =>
      extractStrictAuditValidatorBlockerCode finding.text
  ((parsed.previousFindings.filter fun finding =>
      finding.status == .resolved || finding.status == .notReproducible).filterMap fun finding =>
    findingById input.previousFindings finding.id).filter fun finding =>
      ((extractStrictAuditValidatorBlockerCode finding.text).orElse fun _ =>
        extractStrictAuditValidatorBlockerCode finding.id).any (currentStrictCodes.contains ·)

def stillBlockingFinding (finding : AutoReviewPreviousFinding) : AutoReviewFinding where
  id := finding.id
  source := finding.source
  status := some finding.status
  text := finding.note
  closureEvidence := finding.closureEvidence.filter (!·.isEmpty)

/-- All that a structured review blocks on. -/
def structuredFindings (parsed : ParsedStructuredReviewComments)
    (deterministicFindings : List AutoReviewFinding) : List AutoReviewFinding :=
  mergeFindings
    [(parsed.previousFindings.filter (·.status.isBlocking)).map stillBlockingFinding,
      preserveResolvedStrictAuditValidatorBlockers input parsed deterministicFindings,
      parsed.blockingFindings, deterministicFindings]

def structuredActionableFindings (parsed : ParsedStructuredReviewComments)
    (deterministicFindings : List AutoReviewFinding) : List AutoReviewFinding :=
  let blockingFindings := structuredFindings input parsed deterministicFindings
  if canRecoverSecurityCoverageOnlyContractFailure env input.reviewComments blockingFindings then []
  else filterActionableBlockingFindings env input.reviewComments blockingFindings

def buildStructuredDecision (parsed : ParsedStructuredReviewComments)
    (deterministicFindings : List AutoReviewFinding) : ReviewGateResult :=
  let actionable := structuredActionableFindings env input parsed deterministicFindings
  let stillBlockingIds :=
    ((parsed.previousFindings.filter (·.status.isBlocking)).map (·.id) ++
      (actionable.filter (isPrevious input ·)).map (·.id)).eraseDups
  let newBlockingFindings := actionable.filter (!isPrevious input ·)
  let metrics := buildMetrics input stillBlockingIds.length newBlockingFindings.length
    actionable.length .structured
  if !parsedStructuredMetadataMatchesInput input parsed ||
      !parsedPreviousFindingsMatchInput input parsed ||
      !resolvedPreviousFindingsHaveClosureEvidence parsed then
    buildMissingPreviousFindingHandoff input metrics actionable
  else if actionable.isEmpty then acceptOrHandOff env input metrics
  else
    let findings := enriched input actionable
    decideOnFindings input metrics findings
      (decision input
        (if input.strategy = .closureFirst ∧ input.previousFindings ≠ [] ∧
            stillBlockingIds = [] ∧ newBlockingFindings ≠ [] then
          .manualReviewRequired .newBlockersAfterRework
        else .requestChanges)
        metrics findings (some parsed.securityCoverage) (some parsed.previousFindings))

/-! #### Fallback and sections -/

def buildFallbackDecision (fallbackFindings deterministicFindings : List AutoReviewFinding) :
    ReviewGateResult :=
  let current := filterActionableBlockingFindings env input.reviewComments
    (mergeFindings [fallbackFindings, deterministicFindings])
  let mergedFindings :=
    if input.previousFindings.isEmpty then current
    else mergeFindings [input.previousFindings, current]
  let metrics := buildMetrics input input.previousFindings.length
    (current.filter (!isPrevious input ·)).length mergedFindings.length .fallback
  if !input.previousFindings.isEmpty then
    decision input (.manualReviewRequired .malformedReviewOutputFallback) metrics
      (enriched input mergedFindings)
  else if current.isEmpty then acceptOrHandOff env input metrics
  else
    let findings := enriched input current
    decideOnFindings input metrics findings (decision input .requestChanges metrics findings)

def buildLegacyBlockingSectionDecision
    (blockingFindings deterministicFindings : List AutoReviewFinding) : ReviewGateResult :=
  let merged := filterActionableBlockingFindings env input.reviewComments
    (mergeFindings [blockingFindings, deterministicFindings])
  let stillBlockingFindings := merged.filter (isPrevious input ·)
  let newBlockingFindings := merged.filter (!isPrevious input ·)
  let metrics := buildMetrics input stillBlockingFindings.length newBlockingFindings.length
    merged.length .fallback
  if merged.isEmpty then
    if !input.previousFindings.isEmpty then buildMissingPreviousFindingHandoff input metrics []
    else acceptOrHandOff env input metrics
  else
    let findings := enriched input merged
    decideOnFindings input metrics findings
      (decision input
        (if input.strategy = .closureFirst ∧ input.previousFindings ≠ [] ∧
            stillBlockingFindings = [] ∧ newBlockingFindings ≠ [] then
          .manualReviewRequired .newBlockersAfterRework
        else .requestChanges)
        metrics findings)

/-! #### Comments that break the contract -/

def structuredReviewContractFailureText : String :=
  "Structured review contract not satisfied: review output must include complete unique " ++
    ("Security Coverage rows for secret_leaks, permissions_sandbox, " ++
      "unsafe_shell_network_file, and dependency_config.")

def metadataHeadingPattern : Regex :=
  cat [lineStart, lit "## Auto Review Metadata", .wordBoundary]

def isStructuredReviewContractAttempt (reviewComments : Option String) : Bool :=
  reviewComments.any (test metadataHeadingPattern ·)

def isStructuredReviewContractFailure (reviewComments : Option String) : Bool :=
  reviewComments.any fun comments =>
    let canonicalSummary := beforeRawCodeReview comments
    test metadataHeadingPattern canonicalSummary &&
      (test (cat [lineStart, lit "- Contract Failure:", some1 space,
          lit "structured_review_sidecar", many space, lineEnd]) canonicalSummary ||
        test (cat [lineStart, lit "- [structured-review-contract]", some1 space,
          lit "review_gate", some1 space, lit "|"]) canonicalSummary ||
        includes canonicalSummary structuredReviewContractFailureText)

def extractSpecializedContractFailureFindings (reviewComments : Option String) :
    List AutoReviewFinding :=
  match parseStructuredReviewCommentsResult env.toPlatform reviewComments [] with
  | .error _ => []
  | .ok parsed => parsed.blockingFindings.filter fun finding =>
    !([AutoReviewFindingSource.codeReview, .securityAudit, .reviewGate].contains finding.source)

def buildMalformedStructuredReviewContractHandoff
    (deterministicFindings : List AutoReviewFinding) : ReviewGateResult :=
  let contractFinding := reviewGateFinding env.toPlatform structuredReviewContractFailureText
  let specializedFindings := extractSpecializedContractFailureFindings env input.reviewComments
  if input.previousFindings.isEmpty && canRecoverSecurityCoverageOnlyContractFailure env
      input.reviewComments
      (mergeFindings [[contractFinding], specializedFindings, deterministicFindings]) then
    accept (buildMetrics input 0 0 0 .structured)
  else
    let enrichedFindings := enriched input (mergeFindings
      [input.previousFindings, [contractFinding], specializedFindings, deterministicFindings])
    let metrics := buildMetrics input input.previousFindings.length
      (enrichedFindings.filter (!isPrevious input ·)).length enrichedFindings.length .structured
    decision input
      (if enrichedFindings.any fun finding =>
          finding.source != .reviewGate && isManualReviewFinding finding then
        .manualReviewRequired .malformedStructuredReviewContract
      else .requestChanges)
      metrics enrichedFindings

def buildStructuredParseErrorFinding (error : StructuredReviewParseError) : AutoReviewFinding :=
  let issueCodes := ((error.issues.map (·.code.text)).eraseDups).insertionSort (· ≤ ·)
  { id := createAutoReviewFindingId env.toPlatform .reviewGate
      ("structured_review_parse_error:" ++ error.fingerprint)
    source := .reviewGate
    text := join "\n"
      ["Structured review parse error (" ++ error.fingerprint ++ "): " ++ join ", " issueCodes ++
        ".", error.repairInstructions]
    closureEvidence := some ("Structured parser rejected " ++ error.kind.text ++
      " with fingerprint " ++ error.fingerprint ++ ".") }

def parseErrorPattern : Regex :=
  cat [.startAnchor, litI "Structured review parse error (",
    cat (List.replicate 12 (.set fun c => c.isDigit || "abcdefABCDEF".toList.contains c)),
    lit "):"]

def isStructuredParseErrorFinding (finding : AutoReviewFinding) : Bool :=
  finding.source == .reviewGate && test parseErrorPattern (trim finding.text)

def buildStructuredParseErrorDecision (error : StructuredReviewParseError)
    (deterministicFindings : List AutoReviewFinding) : ReviewGateResult :=
  let parseErrorFinding := buildStructuredParseErrorFinding env error
  let enrichedFindings := enriched input
    (mergeFindings [input.previousFindings, [parseErrorFinding], deterministicFindings])
  let metrics := buildMetrics input input.previousFindings.length
    (enrichedFindings.filter (!isPrevious input ·)).length enrichedFindings.length .structured
  decision input
    (if isPrevious input parseErrorFinding then
      .manualReviewRequired .malformedStructuredReviewContract
    else .requestChanges)
    metrics enrichedFindings

end Decisions

/-- The previous findings that a structured review has to answer. -/
def previousFindingsForParser (input : ReviewGateInput) : List AutoReviewFinding :=
  input.previousFindings.filter (!isStructuredParseErrorFinding ·)

def evaluateReviewCommentsForAutoMode (env : ReviewGateEnv) (input : ReviewGateInput) :
    Except String ReviewGateResult :=
  let deterministicFindings := collectDeterministicReviewGateFindings env input
  if isStructuredReviewContractFailure input.reviewComments then
    .ok (buildMalformedStructuredReviewContractHandoff env input deterministicFindings)
  else if isStructuredReviewContractAttempt input.reviewComments then
    match parseStructuredReviewCommentsResult env.toPlatform input.reviewComments
        (previousFindingsForParser input) with
    | .ok parsed =>
      .ok (buildStructuredDecision env
        { input with previousFindings := previousFindingsForParser input } parsed
        deterministicFindings)
    | .error error => .ok (buildStructuredParseErrorDecision env input error deterministicFindings)
  else match parseLegacyBlockingFindings env input.reviewComments with
    | some blockingFindings =>
      .ok (buildLegacyBlockingSectionDecision env input blockingFindings deterministicFindings)
    | none => do
      let fallbackFindings ← runLegacyFallbackExtraction env
      .ok (buildFallbackDecision env input fallbackFindings deterministicFindings)

end AifHandoff.Agent.Review
