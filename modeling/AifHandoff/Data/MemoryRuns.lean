import AifHandoff.Data.MemoryTexts
import AifHandoff.Lib.Transition

/-!
Only safe memory reaches prompts.

An approval looks for the redaction marker in the texts of the item; an edit of an approved
item does not. Expiries are compared as texts.
-/

namespace AifHandoff.Data.Memory

open Shared Transition

/-! ### Runs -/

/-- A write, with the random identifiers and the instant it draws. -/
inductive Action (ν : Type) where
  | create (enabled : Bool) (input : CreateMemoryItemInput ν) (id : Uuid) (fresh : Nat → Uuid)
      (now : UtcTime)
  | update (id : String) (input : UpdateMemoryItemInput ν) (readIds fresh : Nat → Uuid)
      (now : UtcTime)
  | approve (id : String) (note : Option (Option String)) (readIds : Nat → Uuid) (now : UtcTime)
  | reject (id : String) (note : Option (Option String)) (readIds : Nat → Uuid) (now : UtcTime)
  | expire (id : String) (note : Option (Option String)) (readIds : Nat → Uuid) (now : UtcTime)

/-- The rows behind a write; one that throws changes nothing. -/
def orUnchanged (rows : Table) : Except String Table → Table
  | .ok next => next
  | .error _ => rows

def execute {ν : Type} (lower : String → String) (rows : Table) : Action ν → Table
  | .create enabled input id fresh now => createMemoryItem lower enabled input id fresh now rows
  | .update id input readIds fresh now => updateMemoryItem lower id input readIds fresh now rows
  | .approve id note readIds now =>
    orUnchanged rows (approveMemoryItem lower id note readIds now rows)
  | .reject id note readIds now =>
    orUnchanged rows (rejectMemoryItem lower id note readIds now rows)
  | .expire id note readIds now =>
    orUnchanged rows (expireMemoryItem lower id note readIds now rows)

def memorySystem (ν : Type) (lower : String → String) : System Table (Action ν) :=
  System.ofFun (· = []) (execute lower)

/-! ### Safety -/

/-- The texts of an item that reach a prompt. -/
def promptTexts (item : MemoryItem) : List String :=
  [item.title, item.summary, item.content] ++ item.tags ++
    memoryClaimRedactionTexts item.claims ++
    [item.sourceTaskId.getD "", item.sourceRef.getD ""] ++
    item.claims.flatMap (fun claim => claim.claimId :: claim.lastValidatedAt.toList) ++
    item.expiresAt.toList

structure Safe (projectId : Option String) (now : UtcTime) (item : MemoryItem) : Prop where
  approved : item.status = .approved
  clean : item.redactionStatus = .clean
  unexpired : ∀ text, item.expiresAt = some text → ∃ t : UtcTime, text = t.toISOString ∧ now < t
  inScope : item.scope = .global ∨
    item.scope = .project ∧ ∃ id, projectId = some id ∧ item.projectId = some id
  sourceBacked : item.claims ≠ [] ∧ ∀ claim ∈ item.claims, memoryClaimIsSourceBacked claim = true
  unmarked : memoryTextsHaveRedactionMarker (promptTexts item) = false

/-! ### The condition on the writes -/

/-- No expiry, or one as `toISOString` writes it. -/
def IsoExpiry (expiresAt : Option String) : Prop :=
  ∀ text, expiresAt = some text → ∃ t : UtcTime, text = t.toISOString

section Condition

variable {ν : Type} (lower : String → String)

/-- The texts of an item as an edit would leave them, before they are redacted. -/
def editedTexts (existing : MemoryItem) (input : UpdateMemoryItemInput ν) : List String :=
  [input.title.getD existing.title, input.summary.getD existing.summary,
    input.content.getD existing.content] ++ input.tags.getD existing.tags ++
    (if input.claims.isSome then collectMemoryClaimInputTexts input.claims
      else memoryClaimRedactionTexts existing.claims)

/-- No text that an edit gives is stored with the marker, or comes to show it when it is
read back. -/
structure GivenUnmarked (fresh : Nat → Uuid) (input : UpdateMemoryItemInput ν) : Prop where
  title : ∀ text, input.title = some text →
    memoryTextHasRedactionMarker (storedText 240 text) = false
  summary : ∀ text, input.summary = some text →
    memoryTextHasRedactionMarker (storedText 1000 text) = false
  content : ∀ text, input.content = some text →
    memoryTextHasRedactionMarker (storedText 12000 text) = false
  tags : ∀ tags, input.tags = some tags → ∀ tag ∈ normalizeMemoryTags lower tags, Settled 80 tag
  claims : ∀ claim ∈ normalizeMemoryClaims lower fresh input.claims, ClaimSettled claim

/-- No marker is in, or comes up in, the tags and claims of an item. -/
structure ItemSettled (item : MemoryItem) : Prop where
  tags : ∀ tag ∈ item.tags, Settled 80 tag
  claims : ∀ claim ∈ item.claims, ClaimSettled claim

/-- Expiries are given as `toISOString` writes them; an edit of an approved item is blocked by
the redaction of its texts or brings in no marker; and an item is approved only when no marker
comes up in its tags and claims. -/
def Meets (rows : Table) : Action ν → Prop
  | .create _ input _ _ _ => IsoExpiry input.expiresAt
  | .update id input readIds fresh _ => IsoExpiry input.expiresAt.join ∧
      ∀ row, findRow rows id = some row → row.status = .approved →
        (evaluateMemoryRedaction
            (editedTexts (toMemoryItemResponse lower readIds row) input)).redactionStatus =
          .blocked ∨ GivenUnmarked lower fresh input
  | .approve id _ readIds _ => ∀ row, findRow rows id = some row →
      approvalError row (toMemoryItemResponse lower readIds row) = none →
        ItemSettled (toMemoryItemResponse lower readIds row)
  | .reject .. | .expire .. => True

end Condition

/-! ### The invariant of a row -/

structure ApprovedRow (row : MemoryItemRow) : Prop where
  clean : row.redactionStatus = .clean
  title : memoryTextHasRedactionMarker row.title = false
  summary : memoryTextHasRedactionMarker row.summary = false
  content : memoryTextHasRedactionMarker row.content = false
  sourceTaskId : ∀ text, sanitizeMemorySourceField row.sourceTaskId 200 = some text →
    memoryTextHasRedactionMarker text = false
  sourceRef : ∀ text, sanitizeMemorySourceField row.sourceRef 500 = some text →
    memoryTextHasRedactionMarker text = false
  tags : ∀ tag ∈ parseMemoryTags row.tagsJson, Settled 80 tag
  claims : ∀ claim ∈ row.claimsJson, ClaimSettled claim
  backed : hasOnlySourceBackedClaims row.claimsJson = true

structure RowInv (row : MemoryItemRow) : Prop where
  expiry : IsoExpiry row.expiresAt
  sourceTaskId : ∀ text, row.sourceTaskId = some text → Visible text
  sourceRef : ∀ text, row.sourceRef = some text → Visible text
  approved : row.status = .approved → ApprovedRow row

section Rows

variable {ν : Type} {lower : String → String} {fresh readIds : Nat → Uuid} {row : MemoryItemRow}
  {now : UtcTime}

theorem ApprovedRow.response_claims (inv : ApprovedRow row) :
    (toMemoryItemResponse lower readIds row).claims = parseMemoryClaims lower readIds row.claimsJson := by
  rw [toMemoryItemResponse]
  simp only [parseMemoryClaims_isEmpty inv.backed, Bool.false_eq_true, if_false]

theorem ApprovedRow.itemSettled (inv : ApprovedRow row) :
    ItemSettled (toMemoryItemResponse lower readIds row) := by
  refine ⟨inv.tags, ?_⟩
  rw [inv.response_claims]
  exact parseMemoryClaims_settled inv.claims

theorem unmarked_empty : memoryTextHasRedactionMarker "" = false := by decide

/-- The texts of a settled claim that an approval looks at. -/
theorem claim_texts_unmarked {claims : List MemoryClaim}
    (settled : ∀ claim ∈ claims, ClaimSettled claim) :
    memoryTextsHaveRedactionMarker (memoryClaimRedactionTexts claims) = false := by
  rw [memoryTextsHaveRedactionMarker, List.any_eq_false]
  intro text inside
  obtain ⟨claim, listed, among⟩ := List.mem_flatMap.mp inside
  have claimSettled := settled claim listed
  rw [Bool.not_eq_true]
  simp only [List.mem_cons, List.mem_append, List.mem_flatMap, List.mem_map] at among
  rcases among with ((same | sup) | con) | ⟨source, sourceListed, ⟨key, maxLength⟩, field, same⟩
  · rw [same]
    exact claimSettled.text.unmarked
  · exact (claimSettled.supersedes text sup).unmarked
  · exact (claimSettled.contradicts text con).unmarked
  · rw [← same, MemoryClaimSource.field]
    cases found : source.fields.lookup key with
    | none => exact unmarked_empty
    | some value =>
      cases value with
      | none => exact unmarked_empty
      | some raw =>
        obtain ⟨before, after, split, -⟩ := List.lookup_eq_some_iff.mp found
        have inside : (key, some raw) ∈ source.fields := by
          rw [split]
          simp
        exact (claimSettled.sources source sourceListed key maxLength raw field inside).unmarked

/-- No text of an approved item that reaches a prompt has the marker. -/
theorem ApprovedRow.unmarked (inv : ApprovedRow row) (expiry : IsoExpiry row.expiresAt) :
    memoryTextsHaveRedactionMarker (promptTexts (toMemoryItemResponse lower readIds row)) =
      false := by
  obtain ⟨tags, claims⟩ :=
    (inv.itemSettled : ItemSettled (toMemoryItemResponse lower readIds row))
  have claimTexts := claim_texts_unmarked claims
  rw [memoryTextsHaveRedactionMarker, List.any_eq_false] at claimTexts ⊢
  have orEmpty (source : Option String)
      (unmarked : ∀ text, source = some text → memoryTextHasRedactionMarker text = false) :
      memoryTextHasRedactionMarker (source.getD "") = false := by
    cases source with
    | none => exact unmarked_empty
    | some text => exact unmarked text rfl
  intro text inside
  rw [Bool.not_eq_true]
  simp only [promptTexts, List.mem_append, List.mem_cons, List.not_mem_nil, or_false,
    List.mem_flatMap, Option.mem_toList] at inside
  rcases inside with ((((first | tag) | claim) | source) | ⟨claim, listed, same | validated⟩) | expires
  · rcases first with same | same | same
    · rw [same]
      exact inv.title
    · rw [same]
      exact inv.summary
    · rw [same]
      exact inv.content
  · exact (tags text tag).unmarked
  · simpa using claimTexts text claim
  · rcases source with same | same
    · rw [same]
      exact orEmpty _ inv.sourceTaskId
    · rw [same]
      exact orEmpty _ inv.sourceRef
  · rw [same]
    exact (claims claim listed).claimId.unmarked
  · exact ((claims claim listed).lastValidatedAt text validated).unmarked
  · obtain ⟨t, same⟩ := expiry text expires
    rw [same]
    exact (plain_toISOString t).unmarked

/-! ### What the writes keep -/

theorem sanitized_visible {source : Option String} {maxLength : Nat} {text : String}
    (kept : sanitizeMemorySourceField source maxLength = some text) : Visible text := by
  obtain ⟨raw, -, stored⟩ := Option.bind_eq_some_iff.mp kept
  rw [nonEmpty_eq_some_iff] at stored
  rw [stored.1]
  exact visible_truncateText stored.2

theorem createdRow_inv {input : CreateMemoryItemInput ν} {id : Uuid}
    (expiry : IsoExpiry input.expiresAt) : RowInv (createdRow lower input id fresh now) where
  expiry := expiry
  sourceTaskId _ kept := sanitized_visible kept
  sourceRef _ kept := sanitized_visible kept
  approved pending := by cases pending

theorem source_unmarked {source : Option String} {maxLength : Nat} {texts : List String}
    (clean : (evaluateMemoryRedaction texts).redactionStatus ≠ .blocked)
    (inside : source.getD "" ∈ texts)
    (visible : ∀ text, source = some text → Visible text)
    (unmarked : memoryTextHasRedactionMarker (source.getD "") = false) :
    ∀ text, sanitizeMemorySourceField source maxLength = some text →
      memoryTextHasRedactionMarker text = false := by
  intro text kept
  obtain ⟨raw, rfl, stored⟩ := Option.bind_eq_some_iff.mp kept
  rw [nonEmpty_eq_some_iff] at stored
  rw [stored.1, Bool.eq_false_iff]
  intro marked
  have unchanged : redactMemoryText raw = raw :=
    redactMemoryText_of_clean clean (by simpa using inside) (visible raw rfl)
  rw [storedText, unchanged] at marked
  rw [Option.getD_some] at unmarked
  rw [marker_of_truncateText marked] at unmarked
  cases unmarked

theorem stampClaims_settled {claims : List MemoryClaim}
    (settled : ∀ claim ∈ claims, ClaimSettled claim) :
    ∀ claim ∈ stampClaimsLastValidatedAt claims now.toISOString, ClaimSettled claim := by
  intro stamped inside
  obtain ⟨claim, listed, rfl⟩ := List.mem_map.mp inside
  have was := settled claim listed
  refine { was with lastValidatedAt := fun text given => ?_ }
  obtain rfl := Option.some.inj given
  cases validated : claim.lastValidatedAt with
  | none => exact (plain_toISOString now).settled (by decide)
  | some earlier => exact was.lastValidatedAt earlier validated

theorem stampClaims_backed (claims : List MemoryClaim) :
    hasOnlySourceBackedClaims (stampClaimsLastValidatedAt claims now.toISOString) =
      hasOnlySourceBackedClaims claims := by
  rw [hasOnlySourceBackedClaims, hasOnlySourceBackedClaims, stampClaimsLastValidatedAt,
    List.isEmpty_map, List.all_map]
  rfl

theorem approvalError_eq_none {existing : MemoryItem}
    (passes : approvalError row existing = none) :
    existing.redactionStatus ≠ .blocked ∧
      (∀ text ∈ [existing.title, existing.summary, existing.content, row.sourceTaskId.getD "",
        row.sourceRef.getD ""], memoryTextHasRedactionMarker text = false) ∧
      (evaluateMemoryRedaction
        [row.sourceTaskId.getD "", row.sourceRef.getD ""]).redactionStatus ≠ .blocked ∧
      hasOnlySourceBackedClaims existing.claims = true := by
  rw [approvalError] at passes
  split_ifs at passes with blocked marked source backed
  refine ⟨blocked, fun text inside => ?_, source, by simpa using backed⟩
  rw [memoryTextsHaveRedactionMarker, List.any_eq_true, not_exists] at marked
  have absent := marked text
  rw [Bool.eq_false_iff]
  intro here
  refine absent ⟨?_, here⟩
  simp only [List.mem_cons, List.not_mem_nil, or_false] at inside
  simp only [List.mem_append, List.mem_cons, List.not_mem_nil, or_false]
  tauto

theorem transitionedRow_inv {status : MemoryItemStatus} {note : Option (Option String)}
    (inv : RowInv row)
    (passes : status = .approved →
      approvalError row (toMemoryItemResponse lower readIds row) = none ∧
      ItemSettled (toMemoryItemResponse lower readIds row)) :
    RowInv (transitionedRow status note now row (toMemoryItemResponse lower readIds row)) := by
  refine ⟨inv.expiry, inv.sourceTaskId, inv.sourceRef, fun approves => ?_⟩
  obtain rfl : status = .approved := approves
  obtain ⟨checked, settled⟩ := passes rfl
  obtain ⟨clean, unmarked, source, backed⟩ := approvalError_eq_none checked
  refine
    { clean := ?_
      title := unmarked (toMemoryItemResponse lower readIds row).title (by simp)
      summary := unmarked (toMemoryItemResponse lower readIds row).summary (by simp)
      content := unmarked (toMemoryItemResponse lower readIds row).content (by simp)
      sourceTaskId := source_unmarked source List.mem_cons_self inv.sourceTaskId
        (unmarked (row.sourceTaskId.getD "") (by simp))
      sourceRef := source_unmarked source (List.mem_cons_of_mem _ List.mem_cons_self)
        inv.sourceRef (unmarked (row.sourceRef.getD "") (by simp))
      tags := settled.tags
      claims := ?_
      backed := ?_ }
  · cases status : row.redactionStatus with
    | clean => exact status
    | blocked => exact absurd status clean
  · exact stampClaims_settled settled.claims
  · rw [← backed]
    exact stampClaims_backed _

theorem evaluateMemoryRedaction_editedTexts {existing : MemoryItem}
    {input : UpdateMemoryItemInput ν}
    (blocked : (evaluateMemoryRedaction (editedTexts existing input)).redactionStatus = .blocked)
    (touched : (input.title.isSome || input.summary.isSome || input.content.isSome ||
      input.tags.isSome || input.claims.isSome) = true) :
    (updateRedaction existing input).redactionStatus = .blocked := by
  rw [editedTexts] at blocked
  rw [updateRedaction]
  have notClean : (MemoryRedactionStatus.blocked == MemoryRedactionStatus.clean) = false := rfl
  simp only [touched, if_true, blocked, notClean, Bool.and_false, Bool.false_eq_true, if_false]

theorem demoted_iff {p : Prop} [Decidable p] {status : MemoryItemStatus} :
    (if p then .pending else status) = .approved ↔ ¬ p ∧ status = .approved := by
  split <;> simp [*]

theorem claimFailure_blocks {claims : List MemoryClaim}
    (notBacked : hasOnlySourceBackedClaims claims = false) (rest : Option MemoryFailureFamily) :
    isBlockingMemoryFailureFamily ((memoryClaimFailureFamily claims).or rest) = true := by
  rw [memoryClaimFailureFamily, notBacked]
  cases claims.isEmpty <;> rfl

/-- An edit takes the approval away from an item that its redaction blocks, or of which a
claim has no source. -/
theorem updatedRow_demotes {input : UpdateMemoryItemInput ν} {existing : MemoryItem}
    (unsafe_ : (updatedRow lower fresh input now row existing).redactionStatus = .blocked ∨
      hasOnlySourceBackedClaims (updatedRow lower fresh input now row existing).claimsJson =
        false) :
    (updatedRow lower fresh input now row existing).status ≠ .approved := by
  rw [updatedRow] at unsafe_ ⊢
  dsimp only at unsafe_ ⊢
  rw [ne_eq, demoted_iff]
  rintro ⟨kept, approved⟩
  refine kept ⟨approved, ?_⟩
  by_cases blocked : (updateRedaction existing input).redactionStatus = .blocked
  · exact .inl blocked
  · right
    have notBacked := unsafe_.resolve_left blocked
    rw [if_neg blocked]
    exact claimFailure_blocks notBacked _

/-- What is known of a text of an edited item holds of the text given, or else of the old. -/
theorem getD_of {α : Type} {P : α → Prop} {given : Option α} {old : α} (wasSo : P old)
    (givenSo : ∀ a, given = some a → P a) : P (given.getD old) := by
  cases given with
  | none => exact wasSo
  | some a => exact givenSo a rfl

theorem updatedRow_inv {input : UpdateMemoryItemInput ν} (inv : RowInv row)
    (expiry : IsoExpiry input.expiresAt.join)
    (given : row.status = .approved →
      (evaluateMemoryRedaction
          (editedTexts (toMemoryItemResponse lower readIds row) input)).redactionStatus =
        .blocked ∨ GivenUnmarked lower fresh input) :
    RowInv (updatedRow lower fresh input now row (toMemoryItemResponse lower readIds row)) := by
  refine ⟨?_, inv.sourceTaskId, inv.sourceRef, fun approves => ?_⟩
  · intro text stored
    cases expires : input.expiresAt with
    | none =>
      rw [updatedRow, expires] at stored
      exact inv.expiry text stored
    | some expiresAt =>
      rw [updatedRow, expires] at stored
      rw [expires] at expiry
      exact expiry text stored
  · -- An edit that keeps the approval kept it from an approved row, and was not blocked.
    have notBlocked : (updateRedaction (toMemoryItemResponse lower readIds row)
        input).redactionStatus ≠ .blocked := fun blocked =>
      updatedRow_demotes (.inl blocked) approves
    have backed : hasOnlySourceBackedClaims (updatedRow lower fresh input now row
        (toMemoryItemResponse lower readIds row)).claimsJson = true := by
      by_contra notBacked
      exact updatedRow_demotes (.inr (by simpa using notBacked)) approves
    have wasApproved : row.status = .approved := by
      rw [updatedRow] at approves
      exact (demoted_iff.mp approves).2
    have was := inv.approved wasApproved
    have settled : ItemSettled (toMemoryItemResponse lower readIds row) := was.itemSettled
    have givenUnmarked : GivenUnmarked lower fresh input := by
      rcases given wasApproved with blocked | unmarked
      · by_cases touched : (input.title.isSome || input.summary.isSome || input.content.isSome ||
            input.tags.isSome || input.claims.isSome) = true
        · exact absurd (evaluateMemoryRedaction_editedTexts blocked touched) notBlocked
        · simp only [Bool.not_eq_true, Bool.or_eq_false_iff, Option.isSome_eq_false_iff,
            Option.isNone_iff_eq_none] at touched
          obtain ⟨⟨⟨⟨title, summary⟩, content⟩, tags⟩, claims⟩ := touched
          constructor
          all_goals simp [title, summary, content, tags, claims, normalizeMemoryClaims]
      · exact unmarked
    refine
      { clean := ?_
        title := ?_
        summary := ?_
        content := ?_
        sourceTaskId := was.sourceTaskId
        sourceRef := was.sourceRef
        tags := parseMemoryTags_settled ?_
        claims := ?_
        backed := backed }
    · rw [updatedRow]
      cases status : (updateRedaction (toMemoryItemResponse lower readIds row)
          input).redactionStatus with
      | clean => rfl
      | blocked => exact absurd status notBlocked
    · exact getD_of (P := fun text => memoryTextHasRedactionMarker text = false) was.title
        fun text stored => by
          obtain ⟨raw, isGiven, rfl⟩ := Option.map_eq_some_iff.mp stored
          exact givenUnmarked.title raw isGiven
    · exact getD_of (P := fun text => memoryTextHasRedactionMarker text = false) was.summary
        fun text stored => by
          obtain ⟨raw, isGiven, rfl⟩ := Option.map_eq_some_iff.mp stored
          exact givenUnmarked.summary raw isGiven
    · exact getD_of (P := fun text => memoryTextHasRedactionMarker text = false) was.content
        fun text stored => by
          obtain ⟨raw, isGiven, rfl⟩ := Option.map_eq_some_iff.mp stored
          exact givenUnmarked.content raw isGiven
    · rw [updatedRow]
      cases isGiven : input.tags with
      | none => exact settled.tags
      | some tags => exact givenUnmarked.tags tags isGiven
    · rw [updatedRow]
      dsimp only
      split
      · exact givenUnmarked.claims
      · exact settled.claims

/-! ### Runs keep the invariant -/

/-- Every row of the table satisfies the invariant. -/
def TableInv (rows : Table) : Prop := ∀ row ∈ rows, RowInv row

theorem TableInv.setRow {rows : Table} {id : String} {next : MemoryItemRow} (inv : TableInv rows)
    (nextInv : RowInv next) : TableInv (setRow rows id next) := by
  intro row inside
  obtain ⟨old, listed, rfl⟩ := List.mem_map.mp inside
  split
  · exact nextInv
  · exact inv old listed

theorem TableInv.transition {rows : Table} {id : String} {status : MemoryItemStatus}
    {note : Option (Option String)} (inv : TableInv rows)
    (settled : ∀ row, findRow rows id = some row → status = .approved →
      approvalError row (toMemoryItemResponse lower readIds row) = none →
        ItemSettled (toMemoryItemResponse lower readIds row)) :
    TableInv (orUnchanged rows
      (transitionMemoryItemStatus lower id status note readIds now rows)) := by
  rw [transitionMemoryItemStatus]
  cases found : findRow rows id with
  | none => exact inv
  | some row =>
    have rowInv := inv row (List.mem_of_find?_eq_some found)
    dsimp only
    split
    · exact inv
    next passes =>
      refine inv.setRow (transitionedRow_inv rowInv fun approves => ?_)
      rw [if_pos approves] at passes
      exact ⟨passes, settled row found approves passes⟩

theorem RowInv.step {rows : Table} {action : Action ν} (inv : TableInv rows)
    (meets : Meets lower rows action) : TableInv (execute lower rows action) := by
  cases action with
  | create enabled input id fresh now =>
    rw [execute, createMemoryItem]
    split
    · exact inv
    · intro row inside
      rcases List.mem_append.mp inside with old | new
      · exact inv row old
      · rw [List.mem_singleton.mp new]
        exact createdRow_inv meets
  | update id input readIds fresh now =>
    rw [execute, updateMemoryItem]
    cases found : findRow rows id with
    | none => exact inv
    | some row =>
      have rowInv := inv row (List.mem_of_find?_eq_some found)
      exact inv.setRow (updatedRow_inv rowInv meets.1 (meets.2 row found))
  | approve id note readIds now =>
    exact inv.transition fun row found _ passes => meets row found passes
  | reject id note readIds now => exact inv.transition fun _ _ approves => by cases approves
  | expire id note readIds now => exact inv.transition fun _ _ approves => by cases approves

theorem tableInv_of_reaches {rows : Table}
    (reached : Reaches (memorySystem ν lower) (Meets lower) rows) : TableInv rows := by
  refine reached.invariant ?_ ?_
  · rintro _ rfl row inside
    cases inside
  · rintro rows action _ inv meets rfl
    exact RowInv.step inv meets

/-! ### What is retrieved -/

section Retrieval

variable {env : MemoryEnv} {options : RetrieveMemoryOptions} {clock : UtcTime} {rows : Table}
  {item : MemoryItem}

/-- What is retrieved are readings of rows that meet the conditions of the queries. -/
theorem mem_retrieve (retrieved : item ∈
      retrieveApprovedMemoryForPrompt env options clock readIds rows) :
    hasOnlySourceBackedClaims item.claims = true ∧ ∃ row ∈ rows,
      approvedMemoryBaseConditions options.projectId (options.now.getD clock.toISOString) row =
        true ∧ item = toMemoryItemResponse env.lower readIds row := by
  rw [retrieveApprovedMemoryForPrompt] at retrieved
  split at retrieved
  · cases retrieved
  · obtain ⟨mapped, passes⟩ := List.mem_filter.mp retrieved
    obtain ⟨row, found, same⟩ := List.mem_map.mp mapped
    refine ⟨(Bool.and_eq_true_iff.mp passes).2, row, ?_⟩
    generalize options.now.getD clock.toISOString = now at found ⊢
    generalize clampMemoryLimit options.limit = limit at found
    have fallback (inside : row ∈ queryApprovedMemoryFallback env options limit now rows) :
        row ∈ rows ∧ approvedMemoryBaseConditions options.projectId now row = true := by
      obtain ⟨⟨_, score⟩, sorted, rfl⟩ := List.mem_map.mp inside
      have scored := List.mem_of_mem_filter (List.mem_mergeSort.mp (List.mem_of_mem_take sorted))
      obtain ⟨_, latest, pair⟩ := List.mem_map.mp scored
      cases pair
      exact List.mem_filter.mp (List.mem_mergeSort.mp (List.mem_of_mem_take latest))
    have both : row ∈ rows ∧ approvedMemoryBaseConditions options.projectId now row = true := by
      cases query : buildFtsQuery env.lower options.query with
      | none =>
        rw [query] at found
        exact fallback found
      | some ftsQuery =>
        rw [query] at found
        dsimp only at found
        cases answered : queryApprovedMemoryWithFts env options.projectId ftsQuery limit now
            rows with
        | none =>
          rw [answered] at found
          exact fallback found
        | some answer =>
          rw [answered] at found
          obtain ⟨ids, -, isAnswer⟩ := Option.map_eq_some_iff.mp answered
          rw [Option.getD_some, ← isAnswer] at found
          obtain ⟨joined, condition⟩ := List.mem_filter.mp (List.mem_of_mem_take found)
          obtain ⟨id, -, isRow⟩ := List.mem_filterMap.mp joined
          exact ⟨List.mem_of_find?_eq_some isRow, condition⟩
    exact ⟨both.1, both.2, same.symm⟩

theorem scope_of_condition {projectId : Option String}
    (condition : approvedMemoryScopeCondition projectId row = true) :
    row.scope = .global ∨
      row.scope = .project ∧ ∃ id, projectId = some id ∧ row.projectId = some id := by
  rw [approvedMemoryScopeCondition, Bool.or_eq_true, beq_iff_eq] at condition
  refine condition.imp_right fun ofProject => ?_
  cases filtered : projectId.filter (!·.isEmpty) with
  | none =>
    rw [filtered] at ofProject
    cases ofProject
  | some id =>
    rw [filtered, Option.any_some, Bool.and_eq_true, beq_iff_eq, beq_iff_eq] at ofProject
    exact ⟨ofProject.1, id, (Option.filter_eq_some_iff.mp filtered).1, ofProject.2⟩

theorem RowInv.safe (inv : RowInv row) {projectId : Option String}
    (condition : approvedMemoryBaseConditions projectId now.toISOString row = true)
    (backed : hasOnlySourceBackedClaims (toMemoryItemResponse lower readIds row).claims = true) :
    Safe projectId now (toMemoryItemResponse lower readIds row) := by
  rw [approvedMemoryBaseConditions] at condition
  simp only [Bool.and_eq_true, beq_iff_eq] at condition
  obtain ⟨⟨⟨approved, clean⟩, notExpired⟩, inScope⟩ := condition
  rw [hasOnlySourceBackedClaims, Bool.and_eq_true, Bool.not_eq_true', List.all_eq_true] at backed
  refine ⟨approved, clean, fun text expires => ?_, scope_of_condition inScope,
    ⟨fun none_ => ?_, backed.2⟩, (inv.approved approved).unmarked inv.expiry⟩
  · obtain ⟨t, isIso⟩ := inv.expiry text expires
    have stored : row.expiresAt = some text := expires
    have later := notExpired
    rw [stored, Option.all_some, decide_eq_true_eq, isIso, UtcTime.toISOString_lt_iff] at later
    exact ⟨t, isIso, later⟩
  · rw [none_] at backed
    cases backed.1

end Retrieval

end Rows

/-- In every state of a run whose writes meet the condition, what is retrieved for prompts is
safe, whatever the clock says; every approved item is clean, has a source for every claim and
shows no marker; and an edit that its redaction blocks, or that leaves a claim without a
source, takes the approval away. -/
theorem retrieved_memory_is_safe {ν : Type} (env : MemoryEnv) (rows : Table)
    (reached : Reaches (memorySystem ν env.lower) (Meets env.lower) rows) :
    (∀ options clock readIds now, options.now.getD clock.toISOString = now.toISOString →
      ∀ item ∈ retrieveApprovedMemoryForPrompt env options clock readIds rows,
        Safe options.projectId now item) ∧
    (∀ row ∈ rows, row.status = .approved → row.redactionStatus = .clean ∧
      hasOnlySourceBackedClaims row.claimsJson = true ∧ ∀ readIds,
        memoryTextsHaveRedactionMarker (promptTexts (toMemoryItemResponse env.lower readIds row)) =
          false) ∧
    ∀ row ∈ rows, ∀ (input : UpdateMemoryItemInput ν) readIds fresh now,
      let next := updatedRow env.lower fresh input now row
        (toMemoryItemResponse env.lower readIds row)
      next.redactionStatus = .blocked ∨ hasOnlySourceBackedClaims next.claimsJson = false →
        next.status ≠ .approved := by
  have inv := tableInv_of_reaches reached
  refine ⟨fun options clock readIds now isNow item retrieved => ?_, fun row listed approved => ?_,
    fun row _ input readIds fresh now => updatedRow_demotes⟩
  · obtain ⟨backed, row, listed, condition, rfl⟩ := mem_retrieve retrieved
    rw [isNow] at condition
    exact (inv row listed).safe condition backed
  · have rowInv := inv row listed
    have approvedRow := rowInv.approved approved
    exact ⟨approvedRow.clean, approvedRow.backed, fun readIds => approvedRow.unmarked rowInv.expiry⟩

/-! ### A run -/

def sampleEnv : MemoryEnv where
  memoryEnabled := true
  lower := Text.toLowerCase
  localeLe a b := decide (a ≤ b)
  fts _ := some []

def sampleUuid : Uuid where
  text := "c0ffee"
  chars := by decide
  length_le := by decide

def sampleTime : UtcTime :=
  { year := 2026, month := 1, day := 1, hour := 0, minute := 0, second := 0, millisecond := 0 }

/-- A manual note about a file. -/
def sampleInput : CreateMemoryItemInput Empty where
  projectId := some "p"
  scope := .project
  title := "a"
  summary := "b"
  content := "c"
  claims := some (.arr [.obj [("claimId", .str "1"), ("type", .str "decision"), ("text", .str "d"),
    ("sources", .arr [.obj [("kind", .str "code"), ("path", .str "f")]])]])

def creation : Action Empty := .create true sampleInput sampleUuid (fun _ => sampleUuid) sampleTime

def approval : Action Empty := .approve "c0ffee" none (fun _ => sampleUuid) sampleTime

/-- The edit that brings in a marker. -/
def markingEdit : Action Empty :=
  .update "c0ffee" { title := some "[REDACTED]" } (fun _ => sampleUuid) (fun _ => sampleUuid)
    sampleTime

def sampleClaim : MemoryClaim where
  claimId := "1"
  type := .decision
  status := .pending
  text := "d"
  sources := [⟨.code, [("path", some "f")]⟩]
  supersedes := []
  contradicts := []
  lastValidatedAt := none

def sampleRetrieval (rows : Table) : List MemoryItem :=
  retrieveApprovedMemoryForPrompt sampleEnv { projectId := some "p" } sampleTime
    (fun _ => sampleUuid) rows

def sampleRow : MemoryItemRow :=
  createdRow Text.toLowerCase sampleInput sampleUuid (fun _ => sampleUuid) sampleTime

theorem sampleRow_settled :
    ItemSettled (toMemoryItemResponse Text.toLowerCase (fun _ => sampleUuid) sampleRow) := by
  have claims : (toMemoryItemResponse Text.toLowerCase (fun _ => sampleUuid) sampleRow).claims =
      [sampleClaim] := by decide +kernel
  have tags : (toMemoryItemResponse Text.toLowerCase (fun _ => sampleUuid) sampleRow).tags = [] := by
    decide
  refine ⟨by simp [tags], fun claim listed => ?_⟩
  rw [claims, List.mem_singleton] at listed
  subst listed
  constructor
  · exact Plain.settled ⟨by decide, by decide⟩ (by decide)
  · exact Plain.settled ⟨by decide, by decide⟩ (by decide)
  · exact fun text inside => by cases inside
  · exact fun text inside => by cases inside
  · intro source inside key maxLength text field kept
    obtain rfl := List.mem_singleton.mp inside
    obtain ⟨rfl, rfl⟩ : key = "path" ∧ text = "f" := by simpa using kept
    have wide : ∀ entry ∈ claimSourceFields, 36 ≤ entry.2 := by decide
    exact Plain.settled ⟨by decide, by decide⟩ (wide _ field)
  · exact fun text given => by cases given

def sampleRows : Table := execute Text.toLowerCase [sampleRow] approval

theorem sampleRows_reached :
    Reaches (memorySystem Empty Text.toLowerCase) (Meets Text.toLowerCase) sampleRows := by
  have created : Reaches (memorySystem Empty Text.toLowerCase) (Meets Text.toLowerCase)
      [sampleRow] := by
    refine .step (i := creation) (.init rfl) (fun text given => ?_) rfl
    cases given
  refine .step (i := approval) created (fun row found _ => ?_) rfl
  obtain rfl : row = sampleRow := List.mem_singleton.mp (List.mem_of_find?_eq_some found)
  exact sampleRow_settled

theorem retrieved_memory_is_safe_note : (sampleRetrieval sampleRows).length = 1 ∧
    ∀ item ∈ sampleRetrieval sampleRows, Safe (some "p") sampleTime item :=
  ⟨by decide +kernel, (retrieved_memory_is_safe sampleEnv sampleRows sampleRows_reached).1
    { projectId := some "p" } sampleTime (fun _ => sampleUuid) sampleTime rfl⟩

/-- An approved item whose title is edited to hold the marker is retrieved. -/
theorem marked_memory_is_retrieved :
    ¬ ∀ (env : MemoryEnv) (rows : Table), Reachable (memorySystem Empty env.lower) rows →
      ∀ options clock readIds now, options.now.getD clock.toISOString = now.toISOString →
        ∀ item ∈ retrieveApprovedMemoryForPrompt env options clock readIds rows,
          Safe options.projectId now item := by
  intro claimed
  have reached : Reachable (memorySystem Empty Text.toLowerCase)
      (execute Text.toLowerCase sampleRows markingEdit) :=
    .step (sampleRows_reached.mono fun _ _ _ => trivial) trivial rfl
  have titles : (sampleRetrieval (execute Text.toLowerCase sampleRows markingEdit)).map (·.title) =
      ["[REDACTED]"] := by decide +kernel
  obtain ⟨item, retrieved, title⟩ := List.mem_map.mp (titles ▸ List.mem_singleton_self "[REDACTED]")
  have unmarked := (claimed sampleEnv _ reached { projectId := some "p" } sampleTime
    (fun _ => sampleUuid) sampleTime rfl item retrieved).unmarked
  have marked : memoryTextHasRedactionMarker "[REDACTED]" = true := by decide
  rw [memoryTextsHaveRedactionMarker, promptTexts, List.append_assoc, List.append_assoc,
    List.append_assoc, List.append_assoc, List.any_append, title] at unmarked
  simp [marked] at unmarked

end AifHandoff.Data.Memory
