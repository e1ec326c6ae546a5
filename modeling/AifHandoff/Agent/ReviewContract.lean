import Mathlib.Data.List.Sort
import AifHandoff.Shared.AutoReview
import AifHandoff.Shared.ProviderText

/-!
The review contract (`agent/reviewContract.ts`): structured review comments and their parser.

Comments are markdown sections of bullet rows. The parser either returns what all its
sections say or an error that lists every issue. SHA-1, `localeCompare` and the full
`toLowerCase` belong to the platform.
-/

namespace AifHandoff.Agent.Review

open Text Regex Shared

/-! ### Results -/

structure ParsedStructuredReviewComments where
  strategy : AutoReviewStrategy
  iteration : Nat
  blockingFindings : List AutoReviewFinding
  advisories : List AutoReviewAdvisory
  previousFindings : List AutoReviewPreviousFinding
  securityCoverage : List AutoReviewSecurityCoverage
deriving DecidableEq, Repr

inductive StructuredReviewParseIssueCode where
  | missingRequiredSection | duplicateSection | malformedListSection | missingMetadata
  | invalidMetadata | missingVerdict | invalidVerdict | passWithBlockers | failWithoutBlockers
  | inconclusiveVerdict | passWithoutConcreteEvidence | malformedPreviousFinding
  | missingPreviousFinding | unknownPreviousFinding | duplicatePreviousFinding
  | missingSecurityCoverage | missingSecurityCoverageArea | duplicateSecurityCoverageArea
  | malformedSecurityCoverage | malformedBlockingFinding | malformedAdvisory
deriving DecidableEq, Repr

def StructuredReviewParseIssueCode.text : StructuredReviewParseIssueCode → String
  | .missingRequiredSection => "missing_required_section"
  | .duplicateSection => "duplicate_section"
  | .malformedListSection => "malformed_list_section"
  | .missingMetadata => "missing_metadata"
  | .invalidMetadata => "invalid_metadata"
  | .missingVerdict => "missing_verdict"
  | .invalidVerdict => "invalid_verdict"
  | .passWithBlockers => "pass_with_blockers"
  | .failWithoutBlockers => "fail_without_blockers"
  | .inconclusiveVerdict => "inconclusive_verdict"
  | .passWithoutConcreteEvidence => "pass_without_concrete_evidence"
  | .malformedPreviousFinding => "malformed_previous_finding"
  | .missingPreviousFinding => "missing_previous_finding"
  | .unknownPreviousFinding => "unknown_previous_finding"
  | .duplicatePreviousFinding => "duplicate_previous_finding"
  | .missingSecurityCoverage => "missing_security_coverage"
  | .missingSecurityCoverageArea => "missing_security_coverage_area"
  | .duplicateSecurityCoverageArea => "duplicate_security_coverage_area"
  | .malformedSecurityCoverage => "malformed_security_coverage"
  | .malformedBlockingFinding => "malformed_blocking_finding"
  | .malformedAdvisory => "malformed_advisory"

inductive StructuredReviewParseKind where
  | structuredReviewComments | structuredSidecarOutput | specializedRoleOutput
deriving DecidableEq, Repr

def StructuredReviewParseKind.text : StructuredReviewParseKind → String
  | .structuredReviewComments => "structured_review_comments"
  | .structuredSidecarOutput => "structured_sidecar_output"
  | .specializedRoleOutput => "specialized_role_output"

structure StructuredReviewParseIssue where
  code : StructuredReviewParseIssueCode
  issueSection : Option String
  row : Option String
  detail : String
  repair : String
deriving DecidableEq, Repr

structure StructuredReviewParseError where
  kind : StructuredReviewParseKind
  issues : List StructuredReviewParseIssue
  fingerprint : String
  repairInstructions : String
deriving DecidableEq, Repr

/-- What the code takes from the platform. -/
structure Platform where
  /-- `createHash("sha1").update(s).digest("hex")`. -/
  sha1Hex : String → String
  toLowerCase : String → String
  localeCompare : String → String → Int

/-! ### Texts and ids -/

def normalizeFindingText (text : String) : String := trim (collapseSpace text)

/-- `/\[REDACTED\]\]+/g`. -/
def surplusBracketPattern : Regex := cat [lit "[REDACTED]", some1 (lit "]")]

def normalizeReviewText (text : String) : String :=
  replaceAll surplusBracketPattern (fun _ => "[REDACTED]")
    (redactProviderText (normalizeFindingText text))

def createAutoReviewFindingId (platform : Platform) (source : AutoReviewFindingSource)
    (text : String) : String :=
  let normalized := source.text ++ ":" ++ platform.toLowerCase (normalizeFindingText text)
  String.ofList ((platform.sha1Hex normalized).toList.take 12)

/-! ### Sections -/

/-- The sections read so far, each with its lines, and the one that is open. -/
structure SectionScan where
  sections : List (String × List String) := []
  duplicateNames : List String := []
  current : Option String := none

def SectionScan.line (scan : SectionScan) (line : String) : SectionScan :=
  if startsWith line "## " then
    let name := trim (dropChars line 3)
    if scan.sections.any (·.1 == name) then
      { scan with
        duplicateNames :=
          if scan.duplicateNames.contains name then scan.duplicateNames
          else scan.duplicateNames ++ [name]
        current := some name }
    else { scan with sections := scan.sections ++ [(name, [])], current := some name }
  else match scan.current with
    | none => scan
    | some name =>
      -- A heading without a name opens no section.
      if name.isEmpty then scan
      else { scan with
        sections := scan.sections.map fun entry =>
          if entry.1 = name then (name, entry.2 ++ [line]) else entry }

def collectSectionData (text : String) : SectionScan := (splitLines text).foldl .line {}

def SectionScan.get (scan : SectionScan) (name : String) : Option (List String) :=
  scan.sections.lookup name

/-- A row begins at a bullet; any other line continues the row before it. -/
def addListLine (items : List String) (line : String) : Option (List String) :=
  let trimmed := trim line
  if trimmed.isEmpty then some items
  else if startsWith trimmed "- " then
    let item := trim (dropChars trimmed 2)
    if item.isEmpty then none else some (items ++ [item])
  else items.getLast?.map fun last =>
    items.dropLast ++ [normalizeFindingText (last ++ " " ++ trimmed)]

def isNoneItem (item : String) : Bool := Text.toLowerCase item == "none"

def normalizeListSection (lines : List String) : Option (List String) :=
  (lines.foldlM addListLine []).bind fun items =>
    if items.isEmpty then some []
    else if items.length = 1 ∧ items.all isNoneItem then some []
    else if items.any fun item => item.isEmpty || isNoneItem item then none
    else some items

/-! ### Issues -/

def parseIssue (code : StructuredReviewParseIssueCode) (issueSection row : Option String)
    (detail repair : String) : StructuredReviewParseIssue where
  code := code
  issueSection := issueSection.filter (!·.isEmpty)
  row := row.filter (!·.isEmpty)
  detail := normalizeFindingText detail
  repair := normalizeFindingText repair

def issueOrderKey (issue : StructuredReviewParseIssue) : String :=
  join "|" [issue.code.text, issue.issueSection.getD "", issue.row.getD "", issue.detail,
    issue.repair]

def buildStructuredReviewParseError (platform : Platform) (kind : StructuredReviewParseKind)
    (issues : List StructuredReviewParseIssue) : StructuredReviewParseError :=
  let sortedIssues := issues.insertionSort fun a b =>
    platform.localeCompare (issueOrderKey a) (issueOrderKey b) ≤ 0
  let fingerprintInput := join "\n" (sortedIssues.map fun issue =>
    join "|" [kind.text, issue.code.text, issue.issueSection.getD "", issue.row.getD "",
      platform.toLowerCase (normalizeFindingText issue.detail)])
  { kind
    issues := sortedIssues
    fingerprint := String.ofList ((platform.sha1Hex fingerprintInput).toList.take 12)
    repairInstructions := join "\n" ("Repair the structured review output exactly as follows:" ::
      (sortedIssues.map (·.repair)).eraseDups.map ("- " ++ ·)) }

/-- The rows of a section that must be there. -/
def normalizeRequiredListSection (scan : SectionScan) (name : String)
    (missingCode : StructuredReviewParseIssueCode := .missingRequiredSection)
    (malformedCode : StructuredReviewParseIssueCode := .malformedListSection) :
    Except StructuredReviewParseIssue (List String) :=
  match scan.get name with
  | none => .error (parseIssue missingCode name none ("Missing required section: " ++ name)
      ("Add a \"## " ++ name ++ "\" section using markdown bullet rows; use \"- none\" only " ++
        "when the section has no entries."))
  | some lines =>
    match normalizeListSection lines with
    | none => .error (parseIssue malformedCode name none ("Malformed list section: " ++ name)
        ("Rewrite \"## " ++ name ++ "\" so every non-empty row starts with \"- \"; use a " ++
          "single \"- none\" row only when the section has no entries."))
    | some items => .ok items

def sectionIssues {α : Type} : Except StructuredReviewParseIssue α →
    List StructuredReviewParseIssue
  | .error issue => [issue]
  | .ok _ => []

def duplicateSectionIssues (duplicateNames : List String) : List StructuredReviewParseIssue :=
  duplicateNames.map fun (name : String) =>
    parseIssue .duplicateSection name none ("Duplicate section: " ++ name)
      ("Keep exactly one \"## " ++ name ++ "\" section and merge any rows into that single " ++
        "section.")

/-! ### Rows -/

/-- Rows read one after another: what they say, their issues, and the ids or areas seen. -/
structure RowScan (κ α : Type) where
  value : List α := []
  issues : List StructuredReviewParseIssue := []
  seen : List κ := []

def RowScan.issue {κ α : Type} (scan : RowScan κ α) (issue : StructuredReviewParseIssue) :
    RowScan κ α :=
  { scan with issues := scan.issues ++ [issue] }

def previousFindingStatusPattern : Regex :=
  anyOf (autoReviewPreviousFindingStatuses.map (lit ·.text))

def autoReviewFindingSourcePattern : Regex := anyOf (autoReviewFindingSources.map (lit ·.text))

def requiredSecurityCoverageAreas : List AutoReviewSecurityCoverageArea :=
  [.secretLeaks, .permissionsSandbox, .unsafeShellNetworkFile, .dependencyConfig]

def securityCoverageStatuses : List AutoReviewSecurityCoverageStatus :=
  [.covered, .issueFound, .notApplicable, .notChecked]

/-- `\s+\|\s+`. -/
def separatorPattern : Regex := cat [some1 space, lit "|", some1 space]

/-- `^\[([^\]]+)\]\s+`. -/
def rowIdPattern : Regex :=
  cat [.startAnchor, lit "[", .capture 1 (some1 (noneOf "]")), lit "]", some1 space]

def canonicalPreviousFindingPattern : Regex :=
  cat [rowIdPattern, .capture 2 autoReviewFindingSourcePattern, separatorPattern,
    .capture 3 previousFindingStatusPattern, separatorPattern, .capture 4 (some1 dot), .endAnchor]

def canonicalBlockingFindingPattern : Regex :=
  cat [rowIdPattern, .capture 2 autoReviewFindingSourcePattern, separatorPattern,
    .capture 3 (some1 dot), .endAnchor]

def canonicalAdvisoryPattern : Regex :=
  cat [.startAnchor, .capture 1 autoReviewFindingSourcePattern, separatorPattern,
    .capture 2 (some1 dot), .endAnchor]

def securityCoveragePattern : Regex :=
  cat [.startAnchor, .capture 1 (anyOf (requiredSecurityCoverageAreas.map (lit ·.text))),
    separatorPattern, .capture 2 (anyOf (securityCoverageStatuses.map (lit ·.text))),
    separatorPattern, .capture 3 (some1 dot), .endAnchor]

/-- The value whose text a group holds. -/
def named {α : Type} (values : List α) (text : α → String) (group : String) : Option α :=
  values.find? fun value => text value == group

/-- `new Map(findings.map((finding) => [finding.id, finding])).get(id)`. -/
def findingById (findings : List AutoReviewFinding) (id : String) : Option AutoReviewFinding :=
  findings.reverse.find? (·.id == id)

def duplicatePreviousFindingIssue (id item : String) : StructuredReviewParseIssue :=
  parseIssue .duplicatePreviousFinding "Previous Findings" item
    ("Duplicate previous finding id: " ++ id)
    ("Include exactly one Previous Findings row for [" ++ id ++ "].")

def unknownPreviousFindingIssue (id item : String) : StructuredReviewParseIssue :=
  parseIssue .unknownPreviousFinding "Previous Findings" item
    ("Unknown previous finding id: " ++ id)
    ("Remove [" ++ id ++ "] or replace it with one of the provided previous finding ids.")

def missingPreviousFindingIssue (id repairBehindId : String) : StructuredReviewParseIssue :=
  parseIssue .missingPreviousFinding "Previous Findings" none
    ("Missing Previous Findings coverage for [" ++ id ++ "]")
    ("Add a Previous Findings row for [" ++ id ++ "] " ++ repairBehindId)

def securityCoverageRow (scan : RowScan AutoReviewSecurityCoverageArea AutoReviewSecurityCoverage)
    (item : String) : RowScan AutoReviewSecurityCoverageArea AutoReviewSecurityCoverage :=
  match exec securityCoveragePattern item with
  | none => scan.issue (parseIssue .malformedSecurityCoverage "Security Coverage" item
      ("Malformed Security Coverage row: " ++ item)
      "Use Security Coverage rows formatted as \"- <area> | <status> | <concrete note>\".")
  | some hit =>
    match named requiredSecurityCoverageAreas (·.text) (hit.group 1),
        named securityCoverageStatuses (·.text) (hit.group 2) with
    | some area, some status =>
      if scan.seen.contains area then
        scan.issue (parseIssue .duplicateSecurityCoverageArea "Security Coverage" item
          ("Duplicate Security Coverage area: " ++ area.text)
          ("Keep exactly one Security Coverage row for " ++ area.text ++ "."))
      else
        { scan with
          seen := scan.seen ++ [area]
          value := scan.value ++
            [{ area, status, note := normalizeReviewText (hit.group 3) }] }
    | _, _ => scan

def parseSecurityCoverageItemsResult (items : List String) :
    RowScan AutoReviewSecurityCoverageArea AutoReviewSecurityCoverage :=
  let scan := items.foldl securityCoverageRow {}
  { scan with
    issues := scan.issues ++
      ((requiredSecurityCoverageAreas.filter (!scan.seen.contains ·)).map fun area =>
        parseIssue .missingSecurityCoverageArea "Security Coverage" none
          ("Missing Security Coverage area: " ++ area.text)
          ("Add exactly one Security Coverage row for " ++ area.text ++ ".")) }

/-! ### Items and paths -/

/-- The items of required sections, or the issues of those that have none. -/
def parsedItems (sections : List (Except StructuredReviewParseIssue (List String))) :
    Option (List (List String)) :=
  sections.mapM fun parsed => parsed.toOption

/-- `(?:ts|tsx|..|html)(?::\d+)?`. -/
def codeFileExtension (literal : String → Regex) : Regex :=
  cat [anyOf (["ts", "tsx", "js", "jsx", "mjs", "cjs", "json", "md", "yaml", "yml", "py", "sh",
      "ps1", "css", "scss", "html"].map literal),
    optional (cat [lit ":", some1 digit])]

def wordOr (others : String) : Regex := .set fun c => isWordChar c || others.toList.contains c

/-- One of the first words, then one of the second in the same sentence. -/
def wordThenWord (first second : List Regex) : Regex :=
  cat [.wordBoundary, anyOf first, .wordBoundary, many (noneOf "."), .wordBoundary, anyOf second,
    .wordBoundary]

/-- A path to a code file, within backticks or bare. -/
def codeFilePatterns : List Regex :=
  [cat [.wordBoundary, some1 (wordOr "./\\-"), lit ".", codeFileExtension litI, .wordBoundary],
    cat [lit "`", some1 (noneOf "`"), lit ".", codeFileExtension litI, lit "`"]]

/-! ### Canonical comments -/

def canonicalPreviousFindingRow (previousFindingsInput : List AutoReviewFinding)
    (scan : RowScan String AutoReviewPreviousFinding) (item : String) :
    RowScan String AutoReviewPreviousFinding :=
  match exec canonicalPreviousFindingPattern item with
  | none => scan.issue (parseIssue .malformedPreviousFinding "Previous Findings" item
      ("Malformed Previous Findings row: " ++ item)
      ("Use Previous Findings rows formatted as \"- [finding-id] <source> | <status> | " ++
        "<concrete evidence or note>\"."))
  | some hit =>
    let id := hit.group 1
    if scan.seen.contains id then scan.issue (duplicatePreviousFindingIssue id item)
    else
      let scan := { scan with seen := scan.seen ++ [id] }
      match named autoReviewFindingSources (·.text) (hit.group 2),
          named autoReviewPreviousFindingStatuses (·.text) (hit.group 3) with
      | some source, some status =>
        let expected := (findingById previousFindingsInput id).map (·.source)
        if !previousFindingsInput.isEmpty && expected != some source then
          if expected.isSome then
            scan.issue (parseIssue .malformedPreviousFinding "Previous Findings" item
              ("Previous finding [" ++ id ++ "] used the wrong source")
              ("Use the original source for [" ++ id ++ "] in Previous Findings."))
          else scan.issue (unknownPreviousFindingIssue id item)
        else
          let note := normalizeReviewText (hit.group 4)
          { scan with
            value := scan.value ++
              [{ id, source, status, note, text := note, closureEvidence := some note }] }
      | _, _ => scan

def parseCanonicalPreviousFindingItems (items : List String)
    (previousFindingsInput : List AutoReviewFinding) : RowScan String AutoReviewPreviousFinding :=
  let scan := items.foldl (canonicalPreviousFindingRow previousFindingsInput) {}
  { scan with
    issues := scan.issues ++
      ((previousFindingsInput.filter (!scan.seen.contains ·.id)).map fun finding =>
        missingPreviousFindingIssue finding.id ("with source " ++ finding.source.text ++
          ", a valid status, and concrete evidence or note.")) }

def canonicalBlockingFindingRow (scan : RowScan String AutoReviewFinding) (item : String) :
    RowScan String AutoReviewFinding :=
  match exec canonicalBlockingFindingPattern item with
  | none => scan.issue (parseIssue .malformedBlockingFinding "Blocking Findings" item
      ("Malformed Blocking Findings row: " ++ item)
      ("Use Blocking Findings rows formatted as \"- [finding-id] <source> | <required fix>\" " ++
        "or a single \"- none\"."))
  | some hit =>
    match named autoReviewFindingSources (·.text) (hit.group 2) with
    | some source =>
      { scan with
        value := scan.value ++
          [{ id := hit.group 1, source, text := normalizeReviewText (hit.group 3) }] }
    | none => scan

def canonicalAdvisoryRow (scan : RowScan String AutoReviewAdvisory) (item : String) :
    RowScan String AutoReviewAdvisory :=
  match exec canonicalAdvisoryPattern item with
  | none => scan.issue (parseIssue .malformedAdvisory "Advisories" item
      ("Malformed Advisories row: " ++ item)
      "Use Advisories rows formatted as \"- <source> | <advisory text>\" or \"- none\".")
  | some hit =>
    match named autoReviewFindingSources (·.text) (hit.group 1) with
    | some source =>
      { scan with
        value := scan.value ++ [{ source, text := normalizeReviewText (hit.group 2) }] }
    | none => scan

def autoReviewStrategies : List AutoReviewStrategy := [.fullReReview, .closureFirst]

/-- The row behind a label. -/
def metadataRow (items : List String) (label : String) : Option String :=
  items.find? (startsWith · label)

def metadataStrategy (items : List String) : Option AutoReviewStrategy :=
  (metadataRow items "Strategy: ").bind fun line =>
    named autoReviewStrategies (·.text) (trim (dropChars line 10))

def positiveIntegerPattern : Regex :=
  cat [.startAnchor, oneOf "123456789", many digit, .endAnchor]

/-- A positive safe integer. -/
def metadataIteration (items : List String) : Option Nat :=
  (metadataRow items "Review Iteration: ").bind fun line =>
    let iterationText := trim (dropChars line 18)
    let iteration := numberOfDigits iterationText.toList
    if test positiveIntegerPattern iterationText ∧ iteration < 2 ^ 53 then some iteration else none

def metadataIssues (items : List String) : List StructuredReviewParseIssue :=
  let issue := fun code detail repair => parseIssue code "Auto Review Metadata" none detail repair
  let strategyLine := metadataRow items "Strategy: "
  let iterationLine := metadataRow items "Review Iteration: "
  (if strategyLine.isNone then
    [issue .missingMetadata "Missing Strategy metadata row"
      "Add \"- Strategy: full_re_review\" or \"- Strategy: closure_first\"."]
  else []) ++
  (if iterationLine.isNone then
    [issue .missingMetadata "Missing Review Iteration metadata row"
      "Add \"- Review Iteration: <positive integer>\"."]
  else []) ++
  (if (metadataStrategy items).isNone then
    [issue .invalidMetadata
      ("Invalid strategy metadata: " ++
        (strategyLine.map fun line => trim (dropChars line 10)).getD "<missing>")
      "Set Strategy to exactly \"full_re_review\" or \"closure_first\"."]
  else []) ++
  (if (metadataIteration items).isNone then
    [issue .invalidMetadata ("Invalid Review Iteration metadata: " ++
        iterationLine.getD "<missing>")
      "Set Review Iteration to a positive integer."]
  else [])

/-- `/\n## Raw Code Review\b/`. -/
def rawCodeReviewPattern : Regex := cat [lit "\n## Raw Code Review", .wordBoundary]

/-- `s.split(/\n## Raw Code Review\b/)[0]`. -/
def beforeRawCodeReview (s : String) : String :=
  ((exec rawCodeReviewPattern s).map fun hit => String.ofList hit.skipped).getD s

def parseStructuredReviewCommentsResult (platform : Platform) (reviewComments : Option String)
    (previousFindingsInput : List AutoReviewFinding) :
    Except StructuredReviewParseError ParsedStructuredReviewComments :=
  let failed := fun issues =>
    .error (buildStructuredReviewParseError platform .structuredReviewComments issues)
  let normalizedComments := trim (reviewComments.getD "")
  if normalizedComments.isEmpty then
    failed [parseIssue .missingRequiredSection "Auto Review Metadata" none
      "Structured review comments were empty"
      ("Return canonical structured review comments beginning with " ++
        "\"## Auto Review Metadata\".")]
  else
    let canonicalSummary := trim (beforeRawCodeReview normalizedComments)
    let collected := collectSectionData
      (if canonicalSummary.isEmpty then normalizedComments else canonicalSummary)
    let metadata := normalizeRequiredListSection collected "Auto Review Metadata"
    let previous := normalizeRequiredListSection collected "Previous Findings"
    let blocking := normalizeRequiredListSection collected "Blocking Findings"
    let advisories := normalizeRequiredListSection collected "Advisories"
    let security := normalizeRequiredListSection collected "Security Coverage"
      .missingSecurityCoverage .malformedSecurityCoverage
    let issues := duplicateSectionIssues collected.duplicateNames ++ sectionIssues metadata ++
      sectionIssues previous ++ sectionIssues blocking ++ sectionIssues advisories ++
      sectionIssues security
    match parsedItems [metadata, previous, blocking, advisories, security] with
    | some [metadataItems, previousItems, blockingItems, advisoryItems, securityItems] =>
      let previousResult :=
        parseCanonicalPreviousFindingItems previousItems previousFindingsInput
      let blockingResult := blockingItems.foldl canonicalBlockingFindingRow {}
      let advisoryResult := advisoryItems.foldl canonicalAdvisoryRow {}
      let securityResult := parseSecurityCoverageItemsResult securityItems
      let issues := issues ++ metadataIssues metadataItems ++ previousResult.issues ++
        blockingResult.issues ++ advisoryResult.issues ++ securityResult.issues
      match metadataStrategy metadataItems, metadataIteration metadataItems with
      | some strategy, some iteration =>
        if !issues.isEmpty then failed issues
        else .ok
          { strategy, iteration
            blockingFindings := blockingResult.value
            advisories := advisoryResult.value
            previousFindings := previousResult.value
            securityCoverage := securityResult.value }
      | _, _ => failed issues
    | _ => failed issues

/-! ### Persisted state -/

def normalizeFinding (finding : AutoReviewFinding) : AutoReviewFinding :=
  { finding with
    text := normalizeReviewText finding.text
    claim := finding.claim.map normalizeReviewText
    requiredFix := finding.requiredFix.map normalizeReviewText
    verification := finding.verification.map normalizeReviewText
    closureEvidence := finding.closureEvidence.map normalizeReviewText }

def blockerHistoryEntry (iteration : Nat) (finding : AutoReviewPreviousFinding) :
    AutoReviewBlockerHistoryEntry where
  id := finding.id
  source := finding.source
  status := finding.status
  note := normalizeReviewText finding.note
  iteration := iteration
  closureEvidence :=
    normalizeReviewText ((finding.closureEvidence.filter (!·.isEmpty)).getD finding.note)

def toAutoReviewState (strategy : AutoReviewStrategy) (iteration : Nat)
    (findings : List AutoReviewFinding)
    (securityCoverage : Option (List AutoReviewSecurityCoverage) := none)
    (blockerHistory : Option (List AutoReviewPreviousFinding) := none) : AutoReviewState where
  strategy := strategy
  iteration := iteration
  findings := findings.map normalizeFinding
  securityCoverage := securityCoverage.map fun coverage =>
    coverage.map fun entry => { entry with note := normalizeReviewText entry.note }
  blockerHistory := blockerHistory.map fun history => history.map (blockerHistoryEntry iteration)

end AifHandoff.Agent.Review
