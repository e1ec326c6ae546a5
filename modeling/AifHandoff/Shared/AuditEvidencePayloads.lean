import AifHandoff.Shared.EvidenceLedger
import AifHandoff.Shared.PromptAttachments
import AifHandoff.Lib.Utf8

/-!
Payloads of audit evidence with all their fields (`shared/auditEvidenceLedger.ts`).

What a tool call showed is redacted and cut to a preview, the texts of its command and the paths
it names are redacted or left out.
-/

namespace AifHandoff.Shared.Evidence

open Text

/-! ### Payloads -/

structure AuditEvidenceCommandMetadata where
  command : String
  args : List String
  cwd : Option String
  deriving DecidableEq

/-- `string | AuditEvidenceCommandMetadata`. -/
inductive CommandInput where
  | text (command : String)
  | metadata (metadata : AuditEvidenceCommandMetadata)

structure AuditEvidencePathRange where
  path : String
  startLine : Option Int
  endLine : Option Int

structure AuditEvidenceParsedSummary where
  outputBytes : Nat
  outputLineCount : Nat
  previewChars : Nat
  exitCode : Option Int
  deriving DecidableEq

inductive AuditEvidenceRedactionStatus where
  | clean | redacted
  deriving DecidableEq, Repr

structure BuildAuditEvidencePayloadInput where
  id : Option String
  toolName : String
  evidenceKind : AuditEvidenceKind
  evidenceGrade : Option AuditEvidenceGrade
  scopeIds : List String
  riskHypothesisIds : List String
  paths : List String
  pathRanges : List AuditEvidencePathRange
  command : Option CommandInput
  exitCode : Option Int
  output : Option String
  outputSha256 : Option String
  outputPreview : Option String
  parsedSummary : Option AuditEvidenceParsedSummary
  createdAt : Option String
  maxPreviewChars : Option Int

structure AuditEvidenceRuntimePayload where
  id : String
  toolName : String
  evidenceKind : AuditEvidenceKind
  evidenceGrade : AuditEvidenceGrade
  scopeIds : List String
  riskHypothesisIds : List String
  pathHashes : List String
  pathRangeHashes : List String
  command : Option AuditEvidenceCommandMetadata
  exitCode : Option Int
  outputSha256 : Option String
  outputPreview : Option String
  outputPreviewTruncated : Bool
  parsedSummary : Option AuditEvidenceParsedSummary
  redactionStatus : AuditEvidenceRedactionStatus
  createdAt : String

/-- A command with its texts redacted, and whether that changed one. -/
structure NormalizedCommand where
  metadata : Option AuditEvidenceCommandMetadata
  redacted : Bool

def normalizeCommandMetadata : Option CommandInput → NormalizedCommand
  | none => ⟨none, false⟩
  | some (.text command) =>
    if command.isEmpty then ⟨none, false⟩
    else
      let rawCommand := trim command
      let safeCommand := redactProviderText rawCommand
      ⟨some ⟨safeCommand, [], none⟩, safeCommand != rawCommand⟩
  | some (.metadata command) =>
    let rawCommand := trim command.command
    let safeCommand := redactProviderText rawCommand
    let safeArgs := command.args.map redactProviderText
    let rawCwd := (command.cwd.map trim).filter (!·.isEmpty)
    let safeCwd := rawCwd.map redactProviderText
    ⟨some ⟨safeCommand, normalizeAuditEvidenceIds safeArgs, safeCwd⟩,
      safeCommand != rawCommand || safeArgs != command.args || safeCwd != rawCwd⟩

structure BoundedPreview where
  preview : Option String
  truncated : Bool
  redactionStatus : AuditEvidenceRedactionStatus

/-- What of the call's output is there to be shown. -/
def observedOutput (input : BuildAuditEvidencePayloadInput) : Option String :=
  input.output.or input.outputPreview

def boundedPreview (raw : Option String) (maxPreviewChars : Nat) : BoundedPreview :=
  match raw with
  | none => ⟨none, false, .clean⟩
  | some raw =>
    let redacted := redactProviderText raw
    let truncated := maxPreviewChars < utf16Length redacted
    { preview := some (if truncated then sliceTo redacted maxPreviewChars else redacted)
      truncated := truncated
      redactionStatus := if redacted = raw then .clean else .redacted }

/-- `Math.max(32, input.maxPreviewChars ?? DEFAULT_PREVIEW_CHARS)`. -/
def maxPreviewChars (input : BuildAuditEvidencePayloadInput) : Nat :=
  (max 32 (input.maxPreviewChars.getD defaultPreviewChars)).toNat

def parsedSummary (input : BuildAuditEvidencePayloadInput) (preview : Option String) :
    Option AuditEvidenceParsedSummary :=
  match input.parsedSummary with
  | some provided => some provided
  | none =>
    let output := input.output.getD ""
    let shown := preview.getD ""
    if output.isEmpty && shown.isEmpty then none
    else some
      { outputBytes := (Utf8.encode (if output.isEmpty then shown else output).toList).length
        outputLineCount :=
          if !output.isEmpty then (splitLines output).length
          else if !shown.isEmpty then 1 else 0
        previewChars := utf16Length shown
        exitCode := input.exitCode }

/-- `/^[a-f0-9]{64}$/i`. -/
def isSha256Hex (text : String) : Bool :=
  text.length = 64 && text.toList.all fun c =>
    c.isDigit || ('a' ≤ c && c ≤ 'f') || ('A' ≤ c && c ≤ 'F')

section Building

variable (tools : LedgerTools)

def hashAuditEvidencePath (path : String) : String :=
  tools.sha256 (normalizeAuditEvidencePath path)

def hashAuditEvidencePathRange (range : AuditEvidencePathRange) : String :=
  let line (number : Option Int) : String := (number.map toString).getD ""
  tools.sha256 (normalizeAuditEvidencePath range.path ++ ":" ++ line range.startLine ++ ":" ++
    line (range.endLine.or range.startLine))

/-- The paths whose scopes the payload covers, as far as they hold nothing to redact. -/
def namedPaths (input : BuildAuditEvidencePayloadInput) : List String :=
  (input.paths.map normalizeAuditEvidencePath).filter (!·.isEmpty) ++ input.pathRanges.map (·.path)

def buildAuditEvidencePayload (randomUUID now : String) (input : BuildAuditEvidencePayloadInput) :
    AuditEvidenceRuntimePayload :=
  let normalizedCommand := normalizeCommandMetadata input.command
  let scopePaths := (namedPaths input).filter (!isSecretLikeEvidenceText ·)
  let bounded := boundedPreview (observedOutput input) (maxPreviewChars input)
  { id := input.id.getD ("ev_" ++ randomUUID)
    toolName := input.toolName
    evidenceKind := input.evidenceKind
    evidenceGrade := classifyGrade tools input.evidenceKind input.evidenceGrade
      (normalizedCommand.metadata.map (·.command))
    scopeIds := normalizeAuditEvidenceIds (input.scopeIds.filter (!isSecretLikeEvidenceText ·) ++
      deriveAuditEvidenceScopeIdsFromPaths scopePaths)
    riskHypothesisIds :=
      normalizeAuditEvidenceIds (input.riskHypothesisIds.filter (!isSecretLikeEvidenceText ·))
    pathHashes := normalizeAuditEvidenceIds (input.paths.map (hashAuditEvidencePath tools) ++
      input.pathRanges.map fun range => hashAuditEvidencePath tools range.path)
    pathRangeHashes :=
      normalizeAuditEvidenceIds (input.pathRanges.map (hashAuditEvidencePathRange tools))
    command := normalizedCommand.metadata
    exitCode := input.exitCode
    outputSha256 := match input.output with
      | some output => some (tools.sha256 output)
      | none => input.outputSha256.filter isSha256Hex
    outputPreview := bounded.preview
    outputPreviewTruncated := bounded.truncated
    parsedSummary := parsedSummary input bounded.preview
    redactionStatus :=
      if bounded.redactionStatus = .redacted ∨ normalizedCommand.redacted then .redacted
      else .clean
    createdAt := input.createdAt.getD now }

end Building

/-! ### Commands -/

/-- The texts of a command that are redacted. -/
def commandTexts : Option CommandInput → List String
  | none => []
  | some (.text command) => if command.isEmpty then [] else [trim command]
  | some (.metadata command) =>
    trim command.command :: command.args ++ ((command.cwd.map trim).filter (!·.isEmpty)).toList

theorem map_redact_eq_iff {texts : List String} :
    texts.map redactProviderText = texts ↔ ∀ text ∈ texts, redactProviderText text = text := by
  induction texts with
  | nil => simp
  | cons text rest ih => rw [List.map_cons, List.cons.injEq, ih, List.forall_mem_cons]

/-- A command counts as redacted exactly if the redaction changes one of its texts. -/
theorem redacted_normalizeCommandMetadata (command : Option CommandInput) :
    (normalizeCommandMetadata command).redacted = false ↔
      ∀ text ∈ commandTexts command, redactProviderText text = text := by
  cases command with
  | none => exact ⟨fun _ _ among => absurd among List.not_mem_nil, fun _ => rfl⟩
  | some command =>
    cases command with
    | text command =>
      rw [normalizeCommandMetadata, commandTexts]
      cases command.isEmpty with
      | true =>
        rw [if_pos rfl, if_pos rfl]
        exact ⟨fun _ _ among => absurd among List.not_mem_nil, fun _ => rfl⟩
      | false =>
        rw [if_neg Bool.false_ne_true, if_neg Bool.false_ne_true, List.forall_mem_singleton,
          bne_eq_false_iff_eq]
    | metadata command =>
      rw [normalizeCommandMetadata, commandTexts]
      dsimp only
      rw [Bool.or_eq_false_iff, Bool.or_eq_false_iff, bne_eq_false_iff_eq,
        bne_eq_false_iff_eq, bne_eq_false_iff_eq, List.cons_append, List.forall_mem_cons,
        List.forall_mem_append, map_redact_eq_iff, and_assoc]
      refine and_congr_right' (and_congr_right' ?_)
      cases (command.cwd.map trim).filter (!·.isEmpty) with
      | none => exact ⟨fun _ _ among => absurd among List.not_mem_nil, fun _ => rfl⟩
      | some cwd =>
        rw [Option.map_some, Option.some_inj, Option.toList_some, List.forall_mem_singleton]

/-! ### The announced limits -/

section Announced

variable (tools : LedgerTools) (randomUUID now : String)

/-- The texts of the call that the payload shows. -/
def shownTexts (input : BuildAuditEvidencePayloadInput) : List String :=
  (observedOutput input).toList ++ commandTexts input.command

/-- The preview is the output up to the limit, is marked as cut if it is shorter, and nothing
counts as redacted. -/
structure PreviewAsAnnounced (input : BuildAuditEvidencePayloadInput) : Prop where
  preview : (buildAuditEvidencePayload tools randomUUID now input).outputPreview =
    (observedOutput input).map (sliceTo · (maxPreviewChars input))
  length : ∀ output preview, observedOutput input = some output →
    (buildAuditEvidencePayload tools randomUUID now input).outputPreview = some preview →
    utf16Length preview = min (utf16Length output) (maxPreviewChars input) ∧
      ((buildAuditEvidencePayload tools randomUUID now input).outputPreviewTruncated = true ↔
        utf16Length preview < utf16Length output)
  clean : (buildAuditEvidencePayload tools randomUUID now input).redactionStatus = .clean

/-- Every payload for this path, as it is compared, covers all the scopes of the path. -/
def ScopesKept (path : String) : Prop :=
  ∀ input : BuildAuditEvidencePayloadInput, path ∈ namedPaths input →
    ∀ id ∈ normalizeAuditEvidenceIds (scopeIdsOfPath path),
      id ∈ (buildAuditEvidencePayload tools randomUUID now input).scopeIds

variable {tools} {randomUUID now}

theorem redactionStatus_clean_iff (input : BuildAuditEvidencePayloadInput) :
    (buildAuditEvidencePayload tools randomUUID now input).redactionStatus = .clean ↔
      ∀ text ∈ shownTexts input, redactProviderText text = text := by
  have bounded : (boundedPreview (observedOutput input) (maxPreviewChars input)).redactionStatus =
      .clean ↔ ∀ text ∈ (observedOutput input).toList, redactProviderText text = text := by
    cases observedOutput input with
    | none => exact ⟨fun _ _ among => absurd among List.not_mem_nil, fun _ => rfl⟩
    | some output =>
      rw [boundedPreview, Option.toList_some, List.forall_mem_singleton]
      dsimp only
      by_cases same : redactProviderText output = output
      · simp only [same, if_true]
      · simp only [same, if_false, reduceCtorEq]
  rw [shownTexts, List.forall_mem_append, ← redacted_normalizeCommandMetadata, ← bounded,
    buildAuditEvidencePayload]
  dsimp only
  cases (boundedPreview (observedOutput input) (maxPreviewChars input)).redactionStatus <;>
    cases (normalizeCommandMetadata input.command).redacted <;> decide

/-- The preview of an output without anything to redact is as announced, and the payload is
clean, exactly if all the shown texts fit the limit of the redaction. -/
theorem previewAsAnnounced_iff {input : BuildAuditEvidencePayloadInput}
    (quiet : ∀ text ∈ shownTexts input, Quiet text) :
    PreviewAsAnnounced tools randomUUID now input ↔ ∀ text ∈ shownTexts input, FitsLimit text := by
  have fits : (∀ text ∈ shownTexts input, redactProviderText text = text) ↔
      ∀ text ∈ shownTexts input, FitsLimit text :=
    forall₂_congr fun text among => redactProviderText_eq_self_iff (quiet text among)
  rw [← fits]
  constructor
  · intro announced
    exact (redactionStatus_clean_iff input).mp announced.clean
  · intro same
    have shown : ∀ output, observedOutput input = some output →
        redactProviderText output = output := by
      intro output observed
      exact same output (List.mem_append_left _ (by rw [observed]; exact List.mem_cons_self))
    constructor
    case clean => exact (redactionStatus_clean_iff input).mpr same
    case preview =>
      rw [buildAuditEvidencePayload]
      dsimp only
      cases observed : observedOutput input with
      | none => rfl
      | some output =>
        rw [boundedPreview, shown output observed, Option.map_some]
        dsimp only
        split
        · rfl
        next short => rw [sliceTo_of_le (Nat.not_lt.mp short)]
    case length =>
      intro output preview observed isPreview
      rw [buildAuditEvidencePayload, observed, boundedPreview, shown output observed] at isPreview ⊢
      dsimp only at isPreview ⊢
      obtain rfl := Option.some.inj isPreview
      rw [decide_eq_true_eq]
      split
      next long =>
        rw [utf16Length_sliceTo, Nat.min_comm]
        exact ⟨rfl, by omega⟩
      next short => exact ⟨(Nat.min_eq_left (Nat.not_lt.mp short)).symm, by omega⟩

theorem mem_scopeIds_of_path {input : BuildAuditEvidencePayloadInput} {path id : String}
    (named : path ∈ namedPaths input) (kept : redactProviderText path = path)
    (inside : id ∈ normalizeAuditEvidenceIds (scopeIdsOfPath path)) :
    id ∈ (buildAuditEvidencePayload tools randomUUID now input).scopeIds := by
  obtain ⟨value, among, normal⟩ := mem_normalizeAuditEvidenceIds.mp inside
  have quiet : (!isSecretLikeEvidenceText path) = true := by
    rw [isSecretLikeEvidenceText, kept, bne_self_eq_false, Bool.not_false]
  refine mem_normalizeAuditEvidenceIds.mpr ⟨value, List.mem_append_right _ ?_, normal⟩
  exact mem_deriveAuditEvidenceScopeIdsFromPaths.mpr
    ⟨path, List.mem_filter.mpr ⟨named, quiet⟩, among⟩

/-- The call that names a path and nothing else. -/
def namesOnly (path : String) : BuildAuditEvidencePayloadInput where
  id := none
  toolName := "Read"
  evidenceKind := .fileRead
  evidenceGrade := none
  scopeIds := []
  riskHypothesisIds := []
  paths := []
  pathRanges := [⟨path, none, none⟩]
  command := none
  exitCode := none
  output := none
  outputSha256 := none
  outputPreview := none
  parsedSummary := none
  createdAt := none
  maxPreviewChars := none

theorem scopeIds_namesOnly {path : String} (changed : redactProviderText path ≠ path) :
    (buildAuditEvidencePayload tools randomUUID now (namesOnly path)).scopeIds = [] := by
  have dropped : (!isSecretLikeEvidenceText path) = false := by
    rw [isSecretLikeEvidenceText, Bool.not_eq_false']
    exact bne_iff_ne.mpr changed
  have named : namedPaths (namesOnly path) = [path] := by
    rw [namedPaths, namesOnly]
    rfl
  rw [buildAuditEvidencePayload, named]
  dsimp only
  rw [List.filter_cons_of_neg (by rw [dropped]; decide), List.filter_nil]
  rfl

/-- All the scopes of a path without anything to redact are covered exactly if there are none or
the path fits the limit of the redaction. -/
theorem scopesKept_iff {path : String} (quiet : Quiet path) :
    ScopesKept tools randomUUID now path ↔
      normalizeAuditEvidenceIds (scopeIdsOfPath path) = [] ∨ FitsLimit path := by
  rw [← redactProviderText_eq_self_iff quiet]
  constructor
  · intro kept
    by_contra lost
    rw [not_or] at lost
    obtain ⟨id, inside⟩ := List.exists_mem_of_ne_nil _ lost.1
    have named : path ∈ namedPaths (namesOnly path) :=
      List.mem_append_right _ List.mem_cons_self
    have covered := kept (namesOnly path) named id inside
    rw [scopeIds_namesOnly lost.2] at covered
    exact absurd covered List.not_mem_nil
  · rintro (nothing | same) input named id inside
    · rw [nothing] at inside
      exact absurd inside List.not_mem_nil
    · exact mem_scopeIds_of_path named same inside

end Announced

/-- Prompts, previews and scopes are cut as announced exactly if the texts without anything to
redact fit the limit of the redaction; a path without scopes has none to lose. -/
theorem cut_as_announced_iff {ν : Type} (sizes : AttachmentSizes ν) (tools : LedgerTools)
    (randomUUID now : String) :
    (∀ text, Quiet text → (ShownAsAnnounced sizes text ↔ FitsLimit text)) ∧
    (∀ input, (∀ text ∈ shownTexts input, Quiet text) →
      (PreviewAsAnnounced tools randomUUID now input ↔
        ∀ text ∈ shownTexts input, FitsLimit text)) ∧
    ∀ path, Quiet path → (ScopesKept tools randomUUID now path ↔
      normalizeAuditEvidenceIds (scopeIdsOfPath path) = [] ∨ FitsLimit path) :=
  ⟨fun _ quiet => shownAsAnnounced_iff sizes quiet, fun _ quiet => previewAsAnnounced_iff quiet,
    fun _ quiet => scopesKept_iff quiet⟩

/-- Two hundred and fifty-seven letters are not shown, although 4000 are announced. -/
theorem long_attachment_cut :
    ¬ ∀ text, Quiet text →
      ShownAsAnnounced (⟨fun _ => 0, fun size => toString size, 0⟩ : AttachmentSizes Nat) text := by
  intro shown
  have quiet := quiet_replicate 257
  have announced := shown _ quiet
  exact not_fitsLimit_replicate ((shownAsAnnounced_iff _ quiet).mp announced)

end AifHandoff.Shared.Evidence
