import AifHandoff.Lib.IsoTime
import AifHandoff.Lib.Json
import AifHandoff.Shared.ProviderText

/-!
Server-owned memory (`data/index.ts`).

Memory items are created, edited, approved, rejected and expired, and approved ones are
retrieved for prompts. A JSON column holds the value that was written; the claims in it are
normalised again on every reading. Random identifiers and the clock are arguments.
-/

namespace AifHandoff.Data.Memory

open Shared

/-! ### Kinds -/

inductive MemoryItemStatus where
  | pending | approved | rejected | expired
  deriving DecidableEq, Repr

def MemoryItemStatus.text : MemoryItemStatus → String
  | .pending => "pending"
  | .approved => "approved"
  | .rejected => "rejected"
  | .expired => "expired"

inductive MemoryScope where
  | project | global
  deriving DecidableEq, Repr

inductive MemoryRedactionStatus where
  | clean | blocked
  deriving DecidableEq, Repr

inductive MemorySourceKind where
  | task | manual
  deriving DecidableEq, Repr

inductive MemoryItemType where
  | decision | failureFamily | architectureNote | workflowContract | regressionPattern
  | reviewLearning | runtimePolicy | securityPolicy
  deriving DecidableEq, Repr

namespace MemoryItemType

def all : List MemoryItemType :=
  [.decision, .failureFamily, .architectureNote, .workflowContract, .regressionPattern,
    .reviewLearning, .runtimePolicy, .securityPolicy]

def text : MemoryItemType → String
  | .decision => "decision"
  | .failureFamily => "failure_family"
  | .architectureNote => "architecture_note"
  | .workflowContract => "workflow_contract"
  | .regressionPattern => "regression_pattern"
  | .reviewLearning => "review_learning"
  | .runtimePolicy => "runtime_policy"
  | .securityPolicy => "security_policy"

end MemoryItemType

inductive MemoryFailureFamily where
  | inventoryOnlyNoFindings | staleReworkEvidence | branchDrift | planQualityGeneric
  | runtimeLimitBlocked | reviewLoopStalled | noSubstantiveReworkDelta
  | missingSourceBackedClaim | invalidSourceClaim | redactionBlocked
  deriving DecidableEq, Repr

inductive MemoryClaimSourceKind where
  | task | artifact | evidence | code | memory | document | commit | url
  deriving DecidableEq, Repr

namespace MemoryClaimSourceKind

def all : List MemoryClaimSourceKind :=
  [.task, .artifact, .evidence, .code, .memory, .document, .commit, .url]

def text : MemoryClaimSourceKind → String
  | .task => "task"
  | .artifact => "artifact"
  | .evidence => "evidence"
  | .code => "code"
  | .memory => "memory"
  | .document => "document"
  | .commit => "commit"
  | .url => "url"

end MemoryClaimSourceKind

/-- `isBlockingMemoryFailureFamily`. -/
def isBlockingMemoryFailureFamily (value : Option MemoryFailureFamily) : Bool :=
  value.any [.missingSourceBackedClaim, .invalidSourceClaim, .redactionBlocked].contains

/-! ### Redaction -/

/-- `MEMORY_SECRET_PATTERNS`. -/
def memorySecretPatterns : List Regex :=
  open Regex in
  let joiner := optional (oneOf "_-")
  [cat [.wordBoundary, litI "sk-", atLeast 12 (alphanumOr "_-"), .wordBoundary],
    cat [.wordBoundary,
      anyOf [cat [litI "api", joiner, litI "key"], cat [litI "access", joiner, litI "token"],
        cat [litI "auth", joiner, litI "token"], cat [litI "client", joiner, litI "secret"],
        litI "password", litI "secret"],
      .wordBoundary, many space, oneOf ":=", many space,
      atLeast 6 (.set fun c => !Text.isSpace c && c != '"' && c != '\'')],
    cat [.wordBoundary, litI "Bearer", some1 space, some1 (alphanumOr "._~+/-"), many (lit "=")],
    cat [litI "-----BEGIN ", many (.set fun c => c.isAlpha || c == ' '),
      litI "PRIVATE KEY-----"]]

def redactionMarker : String := "[REDACTED]"

@[irreducible] def redactMemoryText (value : String) : String :=
  memorySecretPatterns.foldl
    (fun redacted pattern => Regex.replaceFirst pattern (fun _ => redactionMarker) redacted)
    (redactProviderText value)

def truncateText (value : String) (maxLength : Nat) : String :=
  let normalized := Text.trim value
  if Text.utf16Length normalized ≤ maxLength then normalized
  else Text.trimEnd (Text.sliceTo normalized (maxLength - 3)) ++ "..."

/-- What a text field keeps of a text. -/
def storedText (maxLength : Nat) (text : String) : String :=
  truncateText (redactMemoryText text) maxLength

/-- `text || null`. -/
def nonEmpty (text : String) : Option String := if text.isEmpty then none else some text

def memoryTextHasRedactionMarker (value : String) : Bool := Text.includes value redactionMarker

def memoryTextsHaveRedactionMarker (texts : List String) : Bool :=
  texts.any memoryTextHasRedactionMarker

structure MemoryRedaction where
  redactionStatus : MemoryRedactionStatus
  publishBlockReason : Option String
  deriving DecidableEq

def defaultBlockReason : String :=
  "Potential secret or provider metadata was detected. Edit the memory text before publishing."

@[irreducible] def evaluateMemoryRedaction (texts : List String) : MemoryRedaction :=
  let populatedTexts := texts.filter fun text => !(Text.trim text).isEmpty
  if populatedTexts.any fun text =>
      redactMemoryText text != text || memorySecretPatterns.any (Regex.test · text) then
    ⟨.blocked, some defaultBlockReason⟩
  else ⟨.clean, none⟩

def sanitizeMemorySourceField (value : Option String) (maxLength : Nat) : Option String :=
  value.bind fun value => nonEmpty (storedText maxLength value)

def sanitizeMemoryNote (value : Option String) : Option String :=
  value.bind fun value => nonEmpty (storedText 1000 value)

/-! ### Tags and lists of names -/

section Texts

variable (lower : String → String)

/-- The entries as they are stored, each spelling once, as many as there is room for. -/
def normalizeTexts (maxLength : Nat) : List String → Nat → List String → List String
  | _, 0, _ | _, _, [] => []
  | seen, room + 1, entry :: rest =>
    let normalized := storedText maxLength entry
    if normalized.isEmpty || seen.contains (lower normalized) then
      normalizeTexts maxLength seen (room + 1) rest
    else normalized :: normalizeTexts maxLength (lower normalized :: seen) room rest

def normalizeMemoryTags (tags : List String) : List String := normalizeTexts lower 80 [] 20 tags

def parseMemoryTags (tags : List String) : List String :=
  ((tags.map (storedText 80)).filter (!·.isEmpty)).take 20

end Texts

/-! ### Claims -/

/-- The text fields of a source that are present, `none` where one is null. -/
structure MemoryClaimSource where
  kind : MemoryClaimSourceKind
  fields : List (String × Option String)
  deriving DecidableEq

structure MemoryClaim where
  claimId : String
  type : MemoryItemType
  status : MemoryItemStatus
  text : String
  sources : List MemoryClaimSource
  supersedes : List String
  contradicts : List String
  lastValidatedAt : Option String
  deriving DecidableEq

/-- The text fields of a source, with their lengths. -/
def claimSourceFields : List (String × Nat) :=
  [("ref", 500), ("taskId", 200), ("artifactId", 200), ("evidenceId", 200), ("memoryId", 200),
    ("path", 500), ("label", 200), ("excerpt", 1000), ("observedAt", 100)]

/-- `source.key ?? ""`. -/
def MemoryClaimSource.field (source : MemoryClaimSource) (key : String) : String :=
  (source.fields.lookup key).join.getD ""

/-- A random identifier: hexadecimal digits and dashes. -/
structure Uuid where
  text : String
  chars : ∀ c ∈ text.toList, c ∈ "0123456789abcdef-".toList
  length_le : text.toList.length ≤ 36

section Claims

variable {ν : Type} (lower : String → String) (fresh : Nat → Uuid)

def normalizeMemoryItemType (value : Option (Json ν)) : MemoryItemType :=
  match value with
  | some (.str text) => (MemoryItemType.all.find? (·.text = text)).getD .architectureNote
  | _ => .architectureNote

def normalizeMemoryClaimStatus (value : Option (Json ν)) : MemoryItemStatus :=
  match value with
  | some (.str text) =>
    ([.pending, .approved, .rejected, .expired].find? fun s => MemoryItemStatus.text s = text).getD
      .pending
  | _ => .pending

/-- A field of a source: absent, null or a text. -/
def optionalText (candidate : List (String × Json ν)) (key : String) (maxLength : Nat) :
    Option (Option String) :=
  match candidate.lookup key with
  | some .null => some none
  | some (.str raw) => some (nonEmpty (storedText maxLength raw))
  | _ => none

def sanitizeMemoryClaimSource : Json ν → Option MemoryClaimSource
  | .obj candidate =>
    match candidate.lookup "kind" with
    | some (.str kind) =>
      (MemoryClaimSourceKind.all.find? (·.text = kind)).map fun kind =>
        ⟨kind, claimSourceFields.filterMap fun (key, maxLength) =>
          (optionalText candidate key maxLength).map (key, ·)⟩
    | _ => none
  | _ => none

def readString : Json ν → Option String
  | .str text => some text
  | _ => none

def normalizeMemoryStringArray (value : Option (Json ν)) : List String :=
  match value with
  | some (.arr items) => normalizeTexts lower 120 [] 20 (items.filterMap readString)
  | _ => []

/-- `a ?? b` of two fields. -/
def firstPresent (a b : Option (Json ν)) : Option (Json ν) :=
  match a with
  | none | some .null => b
  | some value => some value

def sanitizeMemoryClaim (newId : Uuid) : Json ν → Option MemoryClaim
  | .obj candidate =>
    match candidate.lookup "text" with
    | some (.str rawText) =>
      let text := storedText 1000 rawText
      if text.isEmpty then none
      else
        some
          { claimId :=
              match firstPresent (candidate.lookup "claimId") (candidate.lookup "id") with
              | some (.str rawClaimId) =>
                if (Text.trim rawClaimId).isEmpty then newId.text
                else storedText 120 rawClaimId
              | _ => newId.text
            type := normalizeMemoryItemType (candidate.lookup "type")
            status := normalizeMemoryClaimStatus (candidate.lookup "status")
            text
            sources :=
              match candidate.lookup "sources" with
              | some (.arr items) => items.filterMap sanitizeMemoryClaimSource
              | _ => []
            supersedes := normalizeMemoryStringArray lower (candidate.lookup "supersedes")
            contradicts := normalizeMemoryStringArray lower (candidate.lookup "contradicts")
            lastValidatedAt :=
              match candidate.lookup "lastValidatedAt" with
              | some (.str raw) => nonEmpty (storedText 100 raw)
              | _ => none }
    | _ => none
  | _ => none

/-- The loop over the claims: each identifier once, as many as there is room for. -/
def normalizeClaimsLoop : Nat → List String → Nat → List (Json ν) → List MemoryClaim
  | _, _, 0, _ | _, _, _, [] => []
  | index, seen, room + 1, claim :: rest =>
    match sanitizeMemoryClaim lower (fresh index) claim with
    | none => normalizeClaimsLoop (index + 1) seen (room + 1) rest
    | some sanitized =>
      if seen.contains (lower sanitized.claimId) then
        normalizeClaimsLoop (index + 1) seen (room + 1) rest
      else
        sanitized ::
          normalizeClaimsLoop (index + 1) (lower sanitized.claimId :: seen) room rest

def normalizeMemoryClaims (claims : Option (Json ν)) : List MemoryClaim :=
  match claims with
  | some (.arr items) => normalizeClaimsLoop lower fresh 0 [] 20 items
  | _ => []

def textOrNull : Option String → Json ν
  | some text => .str text
  | none => .null

def MemoryClaimSource.toJson (source : MemoryClaimSource) : Json ν :=
  .obj (("kind", .str source.kind.text) ::
    source.fields.map fun (key, value) => (key, textOrNull value))

def MemoryClaim.toJson (claim : MemoryClaim) : Json ν :=
  .obj
    [("claimId", .str claim.claimId), ("type", .str claim.type.text),
      ("status", .str claim.status.text), ("text", .str claim.text),
      ("sources", .arr (claim.sources.map (·.toJson))),
      ("supersedes", .arr (claim.supersedes.map .str)),
      ("contradicts", .arr (claim.contradicts.map .str)),
      ("lastValidatedAt", textOrNull claim.lastValidatedAt)]

/-- The claims of a column, read back. -/
def parseMemoryClaims (claims : List MemoryClaim) : List MemoryClaim :=
  normalizeMemoryClaims lower fresh
    (some (.arr (claims.map fun claim => (claim.toJson : Json Empty))))

end Claims

def memoryClaimRedactionTexts (claims : List MemoryClaim) : List String :=
  claims.flatMap fun claim =>
    claim.text :: claim.supersedes ++ claim.contradicts ++
      claim.sources.flatMap fun source => claimSourceFields.map fun (key, _) => source.field key

/-- The texts of one claim of an input. -/
def claimInputTexts {ν : Type} : Json ν → List String
  | .obj claim =>
    let strings (key : String) : List String :=
      match claim.lookup key with
      | some (.arr items) => items.filterMap readString
      | _ => []
    let sourceTexts : Json ν → List String
      | .obj source =>
        claimSourceFields.filterMap fun (key, _) => (source.lookup key).bind readString
      | _ => []
    ((claim.lookup "text").bind readString).toList ++ strings "supersedes" ++
      strings "contradicts" ++
      match claim.lookup "sources" with
      | some (.arr sources) => sources.flatMap sourceTexts
      | _ => []
  | _ => []

def collectMemoryClaimInputTexts {ν : Type} (value : Option (Json ν)) : List String :=
  match value with
  | some (.arr claims) => claims.flatMap claimInputTexts
  | _ => []

/-- `/^https?:\/\//i`. -/
def webAddress : Regex :=
  .cat [.startAnchor, .litI "http", .optional (.litI "s"), .lit "://"]

def memoryClaimSourceHasReference (source : MemoryClaimSource) : Bool :=
  let has (keys : List String) : Bool := keys.any fun key => !(source.field key).isEmpty
  match source.kind with
  | .task => has ["taskId", "ref"]
  | .artifact => has ["artifactId", "path", "ref"]
  | .evidence => has ["evidenceId", "ref"]
  | .code => has ["path", "ref"]
  | .memory => has ["memoryId", "ref"]
  | .document => has ["path", "ref"]
  | .commit => has ["ref"]
  | .url => has ["ref"] && Regex.test webAddress (source.field "ref")

def memoryClaimIsSourceBacked (claim : MemoryClaim) : Bool :=
  !(Text.trim claim.text).isEmpty && !claim.sources.isEmpty &&
    claim.sources.any memoryClaimSourceHasReference

def hasOnlySourceBackedClaims (claims : List MemoryClaim) : Bool :=
  !claims.isEmpty && claims.all memoryClaimIsSourceBacked

def stampClaimsLastValidatedAt (claims : List MemoryClaim) (validatedAt : String) :
    List MemoryClaim :=
  claims.map fun claim =>
    { claim with
      status := .approved
      lastValidatedAt := some (claim.lastValidatedAt.getD validatedAt) }

def memoryClaimFailureFamily (claims : List MemoryClaim) : Option MemoryFailureFamily :=
  if hasOnlySourceBackedClaims claims then none
  else if claims.isEmpty then some .missingSourceBackedClaim
  else some .invalidSourceClaim

/-! ### Rows and items -/

structure MemoryItemRow where
  id : String
  projectId : Option String
  scope : MemoryScope
  sourceTaskId : Option String
  sourceKind : MemorySourceKind
  sourceRef : Option String
  itemType : MemoryItemType
  failureFamily : Option MemoryFailureFamily
  claimsJson : List MemoryClaim
  status : MemoryItemStatus
  redactionStatus : MemoryRedactionStatus
  publishBlockReason : Option String
  reviewNote : Option String
  title : String
  summary : String
  content : String
  tagsJson : List String
  createdAt : String
  updatedAt : String
  approvedAt : Option String
  rejectedAt : Option String
  expiredAt : Option String
  expiresAt : Option String

structure MemoryItem where
  id : String
  projectId : Option String
  scope : MemoryScope
  sourceTaskId : Option String
  sourceKind : MemorySourceKind
  sourceRef : Option String
  itemType : MemoryItemType
  failureFamily : Option MemoryFailureFamily
  claims : List MemoryClaim
  status : MemoryItemStatus
  redactionStatus : MemoryRedactionStatus
  publishBlockReason : Option String
  reviewNote : Option String
  title : String
  summary : String
  content : String
  tags : List String
  createdAt : String
  updatedAt : String
  approvedAt : Option String
  rejectedAt : Option String
  expiredAt : Option String
  expiresAt : Option String

def buildCompatibilityMemoryClaims (row : MemoryItemRow) (sourceTaskId sourceRef : Option String) :
    List MemoryClaim :=
  let sources : List MemoryClaimSource :=
    match sourceTaskId, sourceRef with
    | some taskId, ref =>
      [⟨.task, [("ref", some (ref.getD ("task:" ++ taskId))), ("taskId", some taskId)]⟩]
    | none, some ref =>
      [⟨if row.sourceKind = .task then .task else .document, [("ref", some ref)]⟩]
    | none, none => []
  if sources.isEmpty then []
  else
    [{ claimId := "memory-" ++ row.id ++ "-source"
       type := row.itemType
       status := row.status
       text := if row.summary.isEmpty then row.title else row.summary
       sources
       supersedes := []
       contradicts := []
       lastValidatedAt := row.approvedAt }]

section Operations

variable {ν : Type} (lower : String → String)

def toMemoryItemResponse (fresh : Nat → Uuid) (row : MemoryItemRow) : MemoryItem :=
  let parsedClaims := parseMemoryClaims lower fresh row.claimsJson
  let sourceTaskId := sanitizeMemorySourceField row.sourceTaskId 200
  let sourceRef := sanitizeMemorySourceField row.sourceRef 500
  { id := row.id
    projectId := row.projectId
    scope := row.scope
    sourceTaskId
    sourceKind := row.sourceKind
    sourceRef
    itemType := row.itemType
    failureFamily := row.failureFamily
    claims :=
      if parsedClaims.isEmpty then buildCompatibilityMemoryClaims row sourceTaskId sourceRef
      else parsedClaims
    status := row.status
    redactionStatus := row.redactionStatus
    publishBlockReason := row.publishBlockReason
    reviewNote := sanitizeMemoryNote row.reviewNote
    title := row.title
    summary := row.summary
    content := row.content
    tags := parseMemoryTags row.tagsJson
    createdAt := row.createdAt
    updatedAt := row.updatedAt
    approvedAt := row.approvedAt
    rejectedAt := row.rejectedAt
    expiredAt := row.expiredAt
    expiresAt := row.expiresAt }

abbrev Table := List MemoryItemRow

def findRow (rows : Table) (id : String) : Option MemoryItemRow := rows.find? (·.id = id)

/-! ### Writes -/

structure CreateMemoryItemInput (ν : Type) where
  projectId : Option String := none
  scope : MemoryScope
  sourceTaskId : Option String := none
  sourceKind : Option MemorySourceKind := none
  sourceRef : Option String := none
  itemType : Option MemoryItemType := none
  failureFamily : Option MemoryFailureFamily := none
  title : String
  summary : String
  content : String
  claims : Option (Json ν) := none
  tags : Option (List String) := none
  expiresAt : Option String := none

/-- The row that `createMemoryItem` inserts. -/
def createdRow (input : CreateMemoryItemInput ν) (id : Uuid) (fresh : Nat → Uuid)
    (now : UtcTime) : MemoryItemRow :=
  let claims := normalizeMemoryClaims lower fresh input.claims
  let redactionInputs :=
    [input.sourceTaskId.getD "", input.sourceRef.getD "", input.title, input.summary,
      input.content] ++ input.tags.getD [] ++ collectMemoryClaimInputTexts input.claims
  let redaction := evaluateMemoryRedaction redactionInputs
  let failureFamily :=
    (memoryClaimFailureFamily claims).or
      (if redaction.redactionStatus = .blocked then some .redactionBlocked
        else input.failureFamily)
  { id := id.text
    projectId := if input.scope = .global then none else input.projectId
    scope := input.scope
    sourceTaskId := sanitizeMemorySourceField input.sourceTaskId 200
    sourceKind := input.sourceKind.getD .manual
    sourceRef := sanitizeMemorySourceField input.sourceRef 500
    itemType := input.itemType.getD .architectureNote
    failureFamily :=
      if redaction.redactionStatus = .blocked then some .redactionBlocked else failureFamily
    claimsJson := claims
    status := .pending
    redactionStatus := redaction.redactionStatus
    publishBlockReason := redaction.publishBlockReason
    reviewNote := none
    title := storedText 240 input.title
    summary := storedText 1000 input.summary
    content := storedText 12000 input.content
    tagsJson := normalizeMemoryTags lower (input.tags.getD [])
    createdAt := now.toISOString
    updatedAt := now.toISOString
    approvedAt := none
    rejectedAt := none
    expiredAt := none
    expiresAt := input.expiresAt }

def createMemoryItem (enabled : Bool) (input : CreateMemoryItemInput ν) (id : Uuid)
    (fresh : Nat → Uuid) (now : UtcTime) (rows : Table) : Table :=
  if !enabled then rows else rows ++ [createdRow lower input id fresh now]

/-- Absent fields are `none`; a field that can be null is a nested option. -/
structure UpdateMemoryItemInput (ν : Type) where
  scope : Option MemoryScope := none
  itemType : Option MemoryItemType := none
  failureFamily : Option (Option MemoryFailureFamily) := none
  title : Option String := none
  summary : Option String := none
  content : Option String := none
  claims : Option (Json ν) := none
  tags : Option (List String) := none
  reviewNote : Option (Option String) := none
  expiresAt : Option (Option String) := none

/-- The redaction of an update: of the texts as they would be, kept blocked as long as a
text that was not given carries the marker. -/
def updateRedaction (existing : MemoryItem) (input : UpdateMemoryItemInput ν) :
    MemoryRedaction :=
  let textTouched := input.title.isSome || input.summary.isSome || input.content.isSome
  let tagsTouched := input.tags.isSome
  let claimsTouched := input.claims.isSome
  let claimRedactionInputs :=
    if claimsTouched then collectMemoryClaimInputTexts input.claims
    else memoryClaimRedactionTexts existing.claims
  let evaluatedRedaction :=
    if textTouched || tagsTouched || claimsTouched then
      evaluateMemoryRedaction <|
        [input.title.getD existing.title, input.summary.getD existing.summary,
          input.content.getD existing.content] ++ input.tags.getD existing.tags ++
          claimRedactionInputs
    else ⟨existing.redactionStatus, existing.publishBlockReason⟩
  let preservedRedactionMarkerTexts :=
    [if input.title.isNone then existing.title else "",
      if input.summary.isNone then existing.summary else "",
      if input.content.isNone then existing.content else ""] ++
      (if input.tags.isNone then existing.tags else []) ++
      (if input.claims.isNone then memoryClaimRedactionTexts existing.claims else []) ++
      [existing.sourceTaskId.getD "", existing.sourceRef.getD ""]
  let preservesExistingRedactionMarker :=
    existing.redactionStatus == .blocked &&
      memoryTextsHaveRedactionMarker preservedRedactionMarkerTexts
  if preservesExistingRedactionMarker && evaluatedRedaction.redactionStatus == .clean then
    ⟨.blocked, some (existing.publishBlockReason.getD defaultBlockReason)⟩
  else evaluatedRedaction

/-- The row that `updateMemoryItem` writes. -/
def updatedRow (fresh : Nat → Uuid) (input : UpdateMemoryItemInput ν) (now : UtcTime)
    (row : MemoryItemRow) (existing : MemoryItem) : MemoryItemRow :=
  let nextTags := match input.tags with
    | some tags => normalizeMemoryTags lower tags
    | none => existing.tags
  let nextClaims :=
    if input.claims.isSome then normalizeMemoryClaims lower fresh input.claims
    else existing.claims
  let redaction := updateRedaction existing input
  let nextFailureFamily :=
    if redaction.redactionStatus = .blocked then some .redactionBlocked
    else
      (memoryClaimFailureFamily nextClaims).or <| input.failureFamily.join.or <|
        if input.failureFamily = some none ∨
            isBlockingMemoryFailureFamily existing.failureFamily = true then none
        else existing.failureFamily
  let nextScope := input.scope.getD existing.scope
  let nextStatus :=
    if existing.status = .approved ∧ (redaction.redactionStatus = .blocked ∨
        isBlockingMemoryFailureFamily nextFailureFamily = true) then .pending
    else existing.status
  { row with
    scope := nextScope
    projectId := if nextScope = .global then none else existing.projectId
    itemType := input.itemType.getD existing.itemType
    failureFamily := nextFailureFamily
    title := (input.title.map (storedText 240)).getD existing.title
    summary := (input.summary.map (storedText 1000)).getD existing.summary
    content := (input.content.map (storedText 12000)).getD existing.content
    claimsJson := nextClaims
    tagsJson := nextTags
    reviewNote := (input.reviewNote.map sanitizeMemoryNote).getD existing.reviewNote
    expiresAt := input.expiresAt.getD existing.expiresAt
    status := nextStatus
    approvedAt := if nextStatus = .pending then none else existing.approvedAt
    redactionStatus := redaction.redactionStatus
    publishBlockReason := redaction.publishBlockReason
    updatedAt := now.toISOString }

/-- `UPDATE memory_items SET … WHERE id = …`. -/
def setRow (rows : Table) (id : String) (next : MemoryItemRow) : Table :=
  rows.map fun row => if row.id = id then next else row

/-- `readIds` are the identifiers drawn while the row is read, `fresh` those for the input. -/
def updateMemoryItem (id : String) (input : UpdateMemoryItemInput ν) (readIds fresh : Nat → Uuid)
    (now : UtcTime) (rows : Table) : Table :=
  match findRow rows id with
  | none => rows
  | some row =>
    setRow rows id (updatedRow lower fresh input now row (toMemoryItemResponse lower readIds row))

/-- The check before an approval: the text of the error that refuses it. -/
def approvalError (row : MemoryItemRow) (existing : MemoryItem) : Option String :=
  let sourceTexts := [row.sourceTaskId.getD "", row.sourceRef.getD ""]
  let sourceRedaction := evaluateMemoryRedaction sourceTexts
  let storedRedactionMarkerTexts :=
    [existing.title, existing.summary, existing.content] ++ existing.tags ++
      memoryClaimRedactionTexts existing.claims ++ sourceTexts
  if existing.redactionStatus = .blocked then
    some (existing.publishBlockReason.getD "Memory item is blocked by redaction review")
  else if memoryTextsHaveRedactionMarker storedRedactionMarkerTexts then
    some "Memory item is blocked by redaction review"
  else if sourceRedaction.redactionStatus = .blocked then
    some (sourceRedaction.publishBlockReason.getD
      "Memory item source is blocked by redaction review")
  else if !hasOnlySourceBackedClaims existing.claims then
    some "Memory item approval requires every claim to be source-backed"
  else none

/-- The row that `transitionMemoryItemStatus` writes. -/
def transitionedRow (status : MemoryItemStatus) (note : Option (Option String)) (now : UtcTime)
    (row : MemoryItemRow) (existing : MemoryItem) : MemoryItemRow :=
  let updatedAt := now.toISOString
  { row with
    status
    failureFamily :=
      if status = .approved then
        if isBlockingMemoryFailureFamily existing.failureFamily then none
        else existing.failureFamily
      else if existing.redactionStatus = .blocked then some .redactionBlocked
      else memoryClaimFailureFamily existing.claims
    claimsJson :=
      if status = .approved then stampClaimsLastValidatedAt existing.claims updatedAt
      else existing.claims
    reviewNote := (note.map sanitizeMemoryNote).getD existing.reviewNote
    approvedAt := if status = .approved then some updatedAt else existing.approvedAt
    rejectedAt :=
      if status = .rejected then some updatedAt
      else if status = .approved then none else existing.rejectedAt
    expiredAt :=
      if status = .expired then some updatedAt
      else if status = .approved then none else existing.expiredAt
    updatedAt }

def transitionMemoryItemStatus (id : String) (status : MemoryItemStatus)
    (note : Option (Option String)) (readIds : Nat → Uuid) (now : UtcTime) (rows : Table) :
    Except String Table :=
  match findRow rows id with
  | none => .ok rows
  | some row =>
    let existing := toMemoryItemResponse lower readIds row
    match if status = .approved then approvalError row existing else none with
    | some error => .error error
    | none => .ok (setRow rows id (transitionedRow status note now row existing))

def approveMemoryItem (id : String) (note : Option (Option String)) (readIds : Nat → Uuid)
    (now : UtcTime) (rows : Table) : Except String Table :=
  transitionMemoryItemStatus lower id .approved note readIds now rows

def rejectMemoryItem (id : String) (note : Option (Option String)) (readIds : Nat → Uuid)
    (now : UtcTime) (rows : Table) : Except String Table :=
  transitionMemoryItemStatus lower id .rejected note readIds now rows

def expireMemoryItem (id : String) (note : Option (Option String)) (readIds : Nat → Uuid)
    (now : UtcTime) (rows : Table) : Except String Table :=
  transitionMemoryItemStatus lower id .expired note readIds now rows

end Operations

/-! ### Retrieval -/

/-- What lies outside: the switch of the feature, the lower case of texts, the comparison of
texts, and the full-text index: the identifiers that match a query, the best first, or `none`
where it fails. -/
structure MemoryEnv where
  memoryEnabled : Bool
  lower : String → String
  localeLe : String → String → Bool
  fts : String → Option (List String)

structure RetrieveMemoryOptions where
  projectId : Option String := none
  query : Option String := none
  limit : Option Int := none
  now : Option String := none

def clampMemoryLimit (limit : Option Int) : Nat :=
  match limit with
  | none => 6
  | some limit => (max 1 (min 20 limit)).toNat

/-- `approvedMemoryScopeCondition`. -/
def approvedMemoryScopeCondition (projectId : Option String) (row : MemoryItemRow) : Bool :=
  row.scope == .global || (projectId.filter (!·.isEmpty)).any fun projectId =>
    row.scope == .project && row.projectId == some projectId

def approvedMemoryBaseConditions (projectId : Option String) (now : String) (row : MemoryItemRow) :
    Bool :=
  row.status == .approved && row.redactionStatus == .clean &&
    row.expiresAt.all (fun expiresAt => decide (now < expiresAt)) &&
    approvedMemoryScopeCondition projectId row

/-- The tokens of a query, each once, twelve at most. -/
def ftsTokens (lower : String → String) (query : Option String) : List String :=
  match query with
  | none => []
  | some query =>
    let token := Regex.atLeast 2 (.set fun c => c.isLower || c.isDigit || "_/-".toList.contains c)
    (((Regex.matchAll token (lower query)).map fun hit => String.ofList hit.matched).eraseDups).take
      12

def buildFtsQuery (lower : String → String) (query : Option String) : Option String :=
  let tokens := ftsTokens lower query
  if tokens.isEmpty then none
  else some (Text.join " OR " (tokens.map fun token => "\"" ++ token ++ "\""))

def queryApprovedMemoryWithFts (env : MemoryEnv) (projectId : Option String) (ftsQuery : String)
    (limit : Nat) (now : String) (rows : Table) : Option (List MemoryItemRow) :=
  (env.fts ftsQuery).map fun ids =>
    ((ids.filterMap (findRow rows)).filter (approvedMemoryBaseConditions projectId now)).take limit

/-- `scoreMemoryRow`; the tags are searched in the text of their column. -/
def scoreMemoryRow (lower : String → String) (row : MemoryItemRow) (tokens : List String) : Nat :=
  if tokens.isEmpty then 1
  else
    let tagsText := String.ofList <|
      Json.stringify Empty.elim (.arr (row.tagsJson.map .str))
    let haystack := lower (row.title ++ "\n" ++ row.summary ++ "\n" ++ row.content ++ "\n" ++ tagsText)
    (tokens.filter (Text.includes haystack)).length

def queryApprovedMemoryFallback (env : MemoryEnv) (options : RetrieveMemoryOptions) (limit : Nat)
    (now : String) (rows : Table) : List MemoryItemRow :=
  let latest := ((rows.filter (approvedMemoryBaseConditions options.projectId now)).mergeSort
    fun a b => decide (b.updatedAt ≤ a.updatedAt)).take 100
  let tokens := ftsTokens env.lower options.query
  let scored := (latest.map fun row => (row, scoreMemoryRow env.lower row tokens)).filter
    fun (_, score) => tokens.isEmpty || 0 < score
  let sorted := scored.mergeSort fun a b =>
    b.2 < a.2 || (a.2 == b.2 && env.localeLe b.1.updatedAt a.1.updatedAt)
  (sorted.take limit).map (·.1)

def retrieveApprovedMemoryForPrompt (env : MemoryEnv) (options : RetrieveMemoryOptions)
    (clock : UtcTime) (readIds : Nat → Uuid) (rows : Table) : List MemoryItem :=
  if !env.memoryEnabled then []
  else
    let limit := clampMemoryLimit options.limit
    let now := options.now.getD clock.toISOString
    let found := match buildFtsQuery env.lower options.query with
      | some ftsQuery =>
        (queryApprovedMemoryWithFts env options.projectId ftsQuery limit now rows).getD
          (queryApprovedMemoryFallback env options limit now rows)
      | none => queryApprovedMemoryFallback env options limit now rows
    (found.map (toMemoryItemResponse env.lower readIds)).filter fun item =>
      !isBlockingMemoryFailureFamily item.failureFamily && hasOnlySourceBackedClaims item.claims

end AifHandoff.Data.Memory
