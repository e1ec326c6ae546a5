import AifHandoff.Data.MemoryTexts
import Mathlib.Data.List.Sort

/-!
What the store keeps of texts without anything to redact (`data/index.ts`).

Memory fields are redacted and then cut to their own limits, chat messages are redacted when
they are written and again when they are read. The redaction has a limit of its own.
-/

namespace AifHandoff.Data.Memory

open Shared

variable {ν : Type}

/-! ### Chat messages -/

inductive ChatRole where
  | user | assistant
  deriving DecidableEq

structure ChatMessageAttachment where
  name : String
  mimeType : String
  size : Nat
  path : Option String
  sourceKind : Option String
  sourceRef : Option String
  redactionStatus : Option String
  deriving DecidableEq

def redactChatMessageAttachments (attachments : List ChatMessageAttachment) :
    List ChatMessageAttachment :=
  attachments.map fun attachment =>
    { attachment with
      name := redactProviderText attachment.name
      mimeType := redactProviderText attachment.mimeType
      path := attachment.path.map redactProviderText }

/-- A row of `chat_messages`; the JSON column as what it holds. -/
structure ChatMessageRow where
  id : String
  sessionId : String
  role : ChatRole
  content : String
  attachments : Option (List ChatMessageAttachment)
  createdAt : String
  deriving DecidableEq

structure CreateChatMessageInput where
  sessionId : String
  role : ChatRole
  content : String
  attachments : Option (List ChatMessageAttachment)

/-- The row that `createChatMessage` inserts. -/
def chatMessageRow (input : CreateChatMessageInput) (id now : String) : ChatMessageRow where
  id := id
  sessionId := input.sessionId
  role := input.role
  content := redactProviderText input.content
  attachments := (input.attachments.filter (!·.isEmpty)).map redactChatMessageAttachments
  createdAt := now

/-- `none` where the insertion throws: the drawn id is a stored one. -/
def createChatMessage (rows : List ChatMessageRow) (input : CreateChatMessageInput)
    (randomUUID now : String) : Option (List ChatMessageRow) :=
  if randomUUID ∈ rows.map (·.id) then none
  else some (rows ++ [chatMessageRow input randomUUID now])

def listChatMessages (rows : List ChatMessageRow) (sessionId : String) : List ChatMessageRow :=
  (rows.filter (·.sessionId == sessionId)).insertionSort fun a b => a.createdAt ≤ b.createdAt

structure ChatSessionMessage where
  id : String
  sessionId : String
  role : ChatRole
  content : String
  attachments : Option (List ChatMessageAttachment)
  createdAt : String
  deriving DecidableEq

def toChatMessageResponse (row : ChatMessageRow) : ChatSessionMessage where
  id := row.id
  sessionId := row.sessionId
  role := row.role
  content := redactProviderText row.content
  attachments := (row.attachments.map redactChatMessageAttachments).filter (!·.isEmpty)
  createdAt := row.createdAt

/-! ### Clean texts -/

/-- No secret, credential assignment or contact is found in the text. -/
structure CleanText (text : String) : Prop where
  quiet : Quiet text
  memory : ∀ pattern ∈ memorySecretPatterns, Regex.test pattern text = false

/-- A message with this content is listed with this content. -/
def ChatReturns (text : String) : Prop :=
  ∀ rows input randomUUID now rows', input.content = text →
    createChatMessage rows input randomUUID now = some rows' →
    ∃ row ∈ listChatMessages rows' input.sessionId, row.id = randomUUID ∧
      (toChatMessageResponse row).content = text

/-- The text is classified clean, cut at the limit of its field only, and returned by a chat. -/
structure Verbatim (ν : Type) (lower : String → String) (text : String) : Prop where
  classified : (evaluateMemoryRedaction [text]).redactionStatus = .clean
  /-- Tags and the texts of claims among them. -/
  field : ∀ maxLength, storedText maxLength text = truncateText text maxLength
  title : ∀ (input : CreateMemoryItemInput ν) id fresh now, input.title = text →
    (createdRow lower input id fresh now).title = truncateText text 240
  summary : ∀ (input : CreateMemoryItemInput ν) id fresh now, input.summary = text →
    (createdRow lower input id fresh now).summary = truncateText text 1000
  content : ∀ (input : CreateMemoryItemInput ν) id fresh now, input.content = text →
    (createdRow lower input id fresh now).content = truncateText text 12000
  sourceTaskId : ∀ (input : CreateMemoryItemInput ν) id fresh now,
    input.sourceTaskId = some text →
    (createdRow lower input id fresh now).sourceTaskId = nonEmpty (truncateText text 200)
  sourceRef : ∀ (input : CreateMemoryItemInput ν) id fresh now, input.sourceRef = some text →
    (createdRow lower input id fresh now).sourceRef = nonEmpty (truncateText text 500)
  chat : ChatReturns text

section Redaction

variable {text : String}

theorem redactMemoryText_eq_self (clean : CleanText text) (fits : FitsLimit text) :
    redactMemoryText text = text := by
  unfold redactMemoryText
  rw [(redactProviderText_eq_self_iff clean.quiet).mpr fits]
  have absent := clean.memory
  generalize memorySecretPatterns = patterns at absent ⊢
  induction patterns with
  | nil => simp only [List.foldl_nil]
  | cons pattern rest ih =>
    rw [List.foldl_cons, Regex.replaceFirst_of_not_test (absent pattern List.mem_cons_self)]
    exact ih fun p among => absent p (List.mem_cons_of_mem pattern among)

theorem evaluateMemoryRedaction_clean {texts : List String}
    (clean : ∀ text ∈ texts, CleanText text ∧ FitsLimit text) :
    (evaluateMemoryRedaction texts).redactionStatus = .clean := by
  unfold evaluateMemoryRedaction
  dsimp only
  rw [if_neg]
  intro found
  obtain ⟨text, inside, blocks⟩ := List.any_eq_true.mp found
  obtain ⟨isClean, fits⟩ := clean text (List.mem_of_mem_filter inside)
  rw [redactMemoryText_eq_self isClean fits, Bool.or_eq_true, bne_self_eq_false] at blocks
  rcases blocks with changed | matched
  · cases changed
  · obtain ⟨pattern, among, hit⟩ := List.any_eq_true.mp matched
    rw [isClean.memory pattern among] at hit
    cases hit

theorem content_toChatMessageResponse (input : CreateChatMessageInput) (id now : String) :
    (toChatMessageResponse (chatMessageRow input id now)).content =
      redactProviderText (redactProviderText input.content) := by
  rw [toChatMessageResponse, chatMessageRow]

theorem mem_listChatMessages {rows : List ChatMessageRow} {sessionId : String}
    {row : ChatMessageRow} :
    row ∈ listChatMessages rows sessionId ↔ row ∈ rows ∧ row.sessionId = sessionId := by
  rw [listChatMessages, List.mem_insertionSort, List.mem_filter, beq_iff_eq]

theorem chatReturns_iff :
    ChatReturns text ↔ redactProviderText (redactProviderText text) = text := by
  constructor
  · intro returns
    obtain ⟨row, inside, -, same⟩ :=
      returns [] ⟨"session", .user, text, none⟩ "id" "now" _ rfl (if_neg List.not_mem_nil)
    obtain rfl := List.mem_singleton.mp (mem_listChatMessages.mp inside).1
    rwa [content_toChatMessageResponse] at same
  · rintro same rows input randomUUID now rows' rfl created
    unfold createChatMessage at created
    split at created
    · cases created
    · obtain rfl := Option.some.inj created
      refine ⟨chatMessageRow input randomUUID now, ?_, rfl, ?_⟩
      · refine mem_listChatMessages.mpr ⟨?_, rfl⟩
        exact List.mem_append_right _ List.mem_cons_self
      · rw [content_toChatMessageResponse, same]

end Redaction

/-- A clean text is kept verbatim exactly if it has at most 256 code units, or ends with the
three dots behind 256 of them. -/
theorem clean_text_verbatim_iff (lower : String → String) {text : String}
    (clean : CleanText text) : Verbatim ν lower text ↔ FitsLimit text := by
  constructor
  · intro verbatim
    have same := chatReturns_iff.mp verbatim.chat
    rw [← same]
    exact fitsLimit_redactProviderText _
  · intro fits
    have redacted := redactMemoryText_eq_self clean fits
    have stored (maxLength : Nat) : storedText maxLength text = truncateText text maxLength := by
      rw [storedText, redacted]
    have provider := (redactProviderText_eq_self_iff clean.quiet).mpr fits
    constructor
    case classified =>
      refine evaluateMemoryRedaction_clean fun other inside => ?_
      rw [List.mem_singleton.mp inside]
      exact ⟨clean, fits⟩
    case field => exact stored
    case title =>
      rintro input id fresh now rfl
      unfold createdRow
      dsimp only
      rw [stored]
    case summary =>
      rintro input id fresh now rfl
      unfold createdRow
      dsimp only
      rw [stored]
    case content =>
      rintro input id fresh now rfl
      unfold createdRow
      dsimp only
      rw [stored]
    case sourceTaskId =>
      intro input id fresh now given
      unfold createdRow
      dsimp only
      rw [given, sanitizeMemorySourceField, Option.bind_some, stored]
    case sourceRef =>
      intro input id fresh now given
      unfold createdRow
      dsimp only
      rw [given, sanitizeMemorySourceField, Option.bind_some, stored]
    case chat => exact chatReturns_iff.mpr (by rw [provider, provider])

theorem cleanText_of_lacks {text : String} (alphabet : List Char)
    (missing : ∀ pattern ∈ sensitiveValueKeyPattern ::
      (secretValuePatterns ++ contactValuePatterns) ++ memorySecretPatterns,
      Regex.lacks alphabet pattern = true)
    (within : ∀ c ∈ text.toList, c ∈ alphabet) : CleanText text where
  quiet pattern among :=
    Regex.test_of_lacks (missing pattern (List.mem_append_left _ among)) within
  memory pattern among :=
    Regex.test_of_lacks (missing pattern (List.mem_append_right _ among)) within

theorem cleanText_replicate (n : Nat) : CleanText (String.ofList (List.replicate n 'x')) := by
  refine cleanText_of_lacks ['x'] (by decide) fun c inside => ?_
  rw [String.toList_ofList] at inside
  rw [List.eq_of_mem_replicate inside]
  exact List.mem_cons_self

/-- A sentence is kept. -/
theorem verbatim_greeting :
    CleanText "Run the unit tests, then commit the files one by one." ∧
      Verbatim Nat id "Run the unit tests, then commit the files one by one." := by
  have clean : CleanText "Run the unit tests, then commit the files one by one." :=
    cleanText_of_lacks
      ['R', 'u', 'n', ' ', 't', 'h', 'e', 'i', 's', ',', 'c', 'o', 'm', 'f', 'l', 'b', 'y', '.']
      (by decide) (by decide)
  exact ⟨clean, (clean_text_verbatim_iff id clean).mpr (by decide)⟩

/-- A clean text of 257 letters is not kept. -/
theorem long_clean_text_changed :
    ¬ ∀ text : String, CleanText text → Verbatim Nat id text := by
  intro keeps
  have verbatim := keeps _ (cleanText_replicate 257)
  have same := chatReturns_iff.mp verbatim.chat
  have fits :=
    fitsLimit_redactProviderText (redactProviderText (String.ofList (List.replicate 257 'x')))
  rw [same] at fits
  exact not_fitsLimit_replicate fits

end AifHandoff.Data.Memory
