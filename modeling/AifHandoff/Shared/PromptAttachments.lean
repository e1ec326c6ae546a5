import AifHandoff.Shared.ProviderText
import AifHandoff.Lib.JsonNumbers

/-!
Attachments in agent prompts (`shared/attachments.ts`).

The stored records of a task's attachments are read and listed, the texts among them with
what the redaction leaves of their content, cut at 4000 characters.
-/

namespace AifHandoff.Shared

open Text

/-! ### Records -/

def attachmentPromptContentLimit : Nat := 4000

def attachmentAllowedMimeTypes : List String :=
  ["text/plain", "text/markdown", "text/csv", "application/json", "application/pdf", "image/png",
    "image/jpeg", "image/gif", "image/webp"]

inductive AttachmentSourceKind where
  | task | comment | chat
  deriving DecidableEq, Repr

inductive AttachmentRedactionStatus where
  | none | redacted | notScanned
  deriving DecidableEq, Repr

structure ParsedAttachment (ν : Type) where
  name : String
  mimeType : String
  size : ν
  content : Option String
  path : Option String
  sourceKind : Option AttachmentSourceKind
  sourceRef : Option String
  redactionStatus : Option AttachmentRedactionStatus

/-- Sizes: as they are read from JSON, printed, and left out. -/
structure AttachmentSizes (ν : Type) where
  read : List Char → ν
  text : ν → String
  zero : ν

def normalizeAttachmentMimeType (mimeType : String) : String :=
  toLowerCase (trim ((split mimeType ';').headD ""))

def isAllowedAttachmentMimeType (mimeType : String) : Bool :=
  attachmentAllowedMimeTypes.contains (normalizeAttachmentMimeType mimeType)

def isTextAttachmentMimeType (mimeType : String) : Bool :=
  let normalized := normalizeAttachmentMimeType mimeType
  normalized == "text/plain" || normalized == "text/markdown" || normalized == "text/csv" ||
    normalized == "application/json" || startsWith normalized "text/"

def isBinaryAttachmentMimeType (mimeType : String) : Bool :=
  isAllowedAttachmentMimeType mimeType && !isTextAttachmentMimeType mimeType

structure RedactedContent where
  content : String
  redactionStatus : AttachmentRedactionStatus

def redactAttachmentTextContent (content : String) : RedactedContent :=
  let redacted := redactProviderText content
  { content := redacted
    redactionStatus := if redacted = content then .none else .redacted }

section Reading

variable {ν : Type} (sizes : AttachmentSizes ν)

/-- The field, where it is a text. -/
def textField (item : Json ν) (key : String) : Option String :=
  match item.get? key with
  | some (.str text) => some text
  | _ => none

/-- `typeof item === "object"` of what is not null. -/
def isRecord : Json ν → Bool
  | .obj _ | .arr _ => true
  | _ => false

def parseAttachment (item : Json ν) : ParsedAttachment ν where
  name := (textField item "name").getD "file"
  mimeType := (textField item "mimeType").getD "application/octet-stream"
  size := match item.get? "size" with
    | some (.num size) => size
    | _ => sizes.zero
  content := textField item "content"
  path := (textField item "path").filter (!·.isEmpty)
  sourceKind := match textField item "sourceKind" with
    | some "task" => some .task
    | some "comment" => some .comment
    | some "chat" => some .chat
    | _ => none
  sourceRef := (textField item "sourceRef").filter (!·.isEmpty)
  redactionStatus := match textField item "redactionStatus" with
    | some "none" => some .none
    | some "redacted" => some .redacted
    | some "not_scanned" => some .notScanned
    | _ => none

def parseAttachments (raw : Option String) : List (ParsedAttachment ν) :=
  match (raw.filter (!·.isEmpty)).bind fun text => Json.parse sizes.read text.toList with
  | some (.arr items) => (items.filter isRecord).map (parseAttachment sizes)
  | _ => []

end Reading

/-! ### Prompts -/

/-- The lines of the text, each behind six blanks. -/
def indentLines (text : String) : String :=
  join "\n" ((split text '\n').map ("      " ++ ·))

/-- What the callback collects of one attachment. -/
structure PromptDetail where
  metadata : List String
  detail : String

section Prompt

variable {ν : Type} (sizes : AttachmentSizes ν)

def promptDetail (file : ParsedAttachment ν) : PromptDetail :=
  let metadata := (file.sourceRef.filter (!·.isEmpty)).toList.map ("source: " ++ ·) ++
    (if file.redactionStatus = some .redacted then ["redaction: redacted"] else []) ++
    (if file.redactionStatus = some .notScanned then ["redaction: not scanned"] else [])
  let stored : PromptDetail := match file.path.filter (!·.isEmpty) with
    | some path => ⟨metadata, "\n    file: " ++ path⟩
    | none => ⟨metadata, "\n    content: [not provided]"⟩
  match file.content.filter (!·.isEmpty) with
  | some content =>
    if isTextAttachmentMimeType file.mimeType then
      let redacted := redactAttachmentTextContent content
      let preview := sliceTo redacted.content attachmentPromptContentLimit
      let truncated := attachmentPromptContentLimit < utf16Length redacted.content
      { metadata :=
          if redacted.redactionStatus = .redacted ∧ "redaction: redacted" ∉ metadata then
            metadata ++ ["redaction: redacted"]
          else metadata
        detail := "\n    content:\n" ++ indentLines preview ++
          if truncated then "\n      [truncated]" else "" }
    else if isBinaryAttachmentMimeType file.mimeType then
      ⟨metadata, "\n    content: [binary content omitted]"⟩
    else stored
  | none => stored

end Prompt

/-! ### Indented lines -/

/-- A character of the text, with blanks behind a line break. -/
def indentChar (c : Char) : List Char :=
  if c = '\n' then "\n      ".toList else [c]

theorem indentChar_newline : indentChar '\n' = '\n' :: "      ".toList := by decide

theorem indentChar_of_ne {c : Char} (other : c ≠ '\n') : indentChar c = [c] := if_neg other

/-- The lines behind blanks are the text with blanks behind its line breaks. -/
theorem intercalate_indented (cs : List Char) :
    ['\n'].intercalate ((cs.splitOn '\n').map ("      ".toList ++ ·)) =
      "      ".toList ++ cs.flatMap indentChar := by
  generalize padIs : "      ".toList = pad
  induction cs with
  | nil =>
    rw [List.splitOn_nil, List.map_singleton, List.intercalate_singleton, List.flatMap_nil]
  | cons c rest ih =>
    obtain ⟨line, lines, split⟩ := List.exists_cons_of_ne_nil (List.splitOn_ne_nil '\n' rest)
    rw [split, List.map_cons] at ih
    rw [List.splitOn, List.splitOnP_cons_eq_if_modifyHead, ← List.splitOn, split,
      List.flatMap_cons]
    by_cases newline : c = '\n'
    · subst newline
      rw [if_pos (by decide), List.map_cons, List.map_cons, List.intercalate_cons_cons, ih,
        indentChar_newline, padIs, List.append_nil]
      simp only [List.append_assoc, List.cons_append, List.nil_append]
    · rw [if_neg (by simpa using newline), List.modifyHead_cons, List.map_cons,
        indentChar_of_ne newline]
      cases lines with
      | nil =>
        rw [List.map_nil, List.intercalate_singleton] at ih ⊢
        rw [List.append_cancel_left ih]
        rfl
      | cons next others =>
        rw [List.map_cons, List.intercalate_cons_cons, List.append_assoc, List.append_assoc]
          at ih ⊢
        rw [← List.append_cancel_left ih]
        rfl

theorem toList_indentLines (text : String) :
    (indentLines text).toList = "      ".toList ++ text.toList.flatMap indentChar := by
  rw [← intercalate_indented, indentLines, join, String.toList_intercalate, split,
    ← List.splitOn_eq_splitOnP, List.map_map, List.map_map]
  congr 1
  refine List.map_congr_left fun line _ => ?_
  exact (String.toList_append ..).trans (congrArg _ String.toList_ofList)

theorem head_indentChar (c : Char) (rest : List Char) :
    (indentChar c ++ rest).head? = some c := by
  by_cases newline : c = '\n'
  · rw [newline, indentChar_newline]
    rfl
  · rw [indentChar_of_ne newline]
    rfl

theorem flatMap_indentChar_inj {cs ds : List Char}
    (same : cs.flatMap indentChar = ds.flatMap indentChar) : cs = ds := by
  induction cs generalizing ds with
  | nil =>
    cases ds with
    | nil => rfl
    | cons d ds =>
      have first := congrArg List.head? same
      rw [List.flatMap_cons, head_indentChar] at first
      cases first
  | cons c cs ih =>
    cases ds with
    | nil =>
      have first := congrArg List.head? same
      rw [List.flatMap_cons, head_indentChar] at first
      cases first
    | cons d ds =>
      have first := congrArg List.head? same
      rw [List.flatMap_cons, List.flatMap_cons, head_indentChar, head_indentChar] at first
      obtain rfl := Option.some.inj first
      rw [List.flatMap_cons, List.flatMap_cons, List.append_cancel_left_eq] at same
      rw [ih same]

theorem indentLines_inj {s t : String} (same : indentLines s = indentLines t) : s = t := by
  have chars := congrArg String.toList same
  rw [toList_indentLines, toList_indentLines, List.append_cancel_left_eq] at chars
  exact String.toList_injective (flatMap_indentChar_inj chars)

theorem getLast_indentLines {text : String} {front : List Char} {c : Char}
    (isText : text.toList = front ++ [c]) (other : c ≠ '\n') :
    (indentLines text).toList.getLast? = some c := by
  rw [toList_indentLines, isText, List.flatMap_append, List.flatMap_singleton,
    indentChar_of_ne other, ← List.append_assoc, List.getLast?_concat]

/-! ### The announced limit -/

/-- The first 4000 characters, and the marker where there are more. -/
def announcedDetail (content : String) : String :=
  "\n    content:\n" ++ indentLines (sliceTo content attachmentPromptContentLimit) ++
    if attachmentPromptContentLimit < utf16Length content then "\n      [truncated]" else ""

/-- Every attachment with this text is shown up to the announced limit. -/
def ShownAsAnnounced {ν : Type} (sizes : AttachmentSizes ν) (text : String) : Prop :=
  ∀ raw, ∀ file ∈ parseAttachments sizes raw, file.content = some text → text ≠ "" →
    isTextAttachmentMimeType file.mimeType = true →
    (promptDetail file).detail = announcedDetail text

section Announced

variable {ν : Type} (sizes : AttachmentSizes ν) {text : String}

/-- The record of a plain text. -/
def plainRecord (text : String) : Json ν :=
  .arr [.obj [("mimeType", .str "text/plain"), ("content", .str text)]]

def plainFile (text : String) : ParsedAttachment ν where
  name := "file"
  mimeType := "text/plain"
  size := sizes.zero
  content := some text
  path := none
  sourceKind := none
  sourceRef := none
  redactionStatus := none

theorem exists_parseAttachments (text : String) :
    ∃ raw, parseAttachments sizes (some raw) = [plainFile sizes text] := by
  have none_ : Json.FiniteNumbers (fun _ : ν => false) sizes.text sizes.read :=
    ⟨fun _ finite => absurd finite (by decide), fun _ finite => absurd finite (by decide)⟩
  have distinct : Json.Distinct (plainRecord text : Json ν) := by
    simp [plainRecord, Json.Distinct, Json.Distinct.DistinctItems, Json.Distinct.DistinctFields]
  have parsed := Json.parse_stringify_finite none_ distinct
  have bound : Json.bind (Json.finiteOrNull fun _ : ν => false) (plainRecord text) =
      plainRecord text := by
    simp [plainRecord, Json.bind, Json.bindItems, Json.bindFields]
  rw [bound] at parsed
  refine ⟨String.ofList ((plainRecord text : Json ν).stringify
    (Json.writeFinite (fun _ => false) sizes.text)), ?_⟩
  unfold parseAttachments
  rw [Option.filter_some, if_pos, Option.bind_some, String.toList_ofList, parsed]
  · rfl
  · rw [plainRecord, Json.stringify]
    simp

theorem promptDetail_of_text {file : ParsedAttachment ν} (content : file.content = some text)
    (some_ : text ≠ "") (isText : isTextAttachmentMimeType file.mimeType = true) :
    (promptDetail file).detail = announcedDetail (redactProviderText text) := by
  have kept : file.content.filter (!·.isEmpty) = some text := by
    rw [content, Option.filter_some, if_pos]
    simpa using some_
  unfold promptDetail
  rw [kept]
  dsimp only
  rw [if_pos isText, redactAttachmentTextContent, announcedDetail]

/-- A redacted text, which is never as long as the announced limit, is not shown as a longer one. -/
theorem announcedDetail_redacted (quiet : Quiet text)
    (same : announcedDetail (redactProviderText text) = announcedDetail text) :
    redactProviderText text = text := by
  have short := utf16Length_redactProviderText_le text
  have least : maxProviderMetaStringLength + 3 ≤ attachmentPromptContentLimit := by decide
  have bounded := short.trans least
  rw [announcedDetail, announcedDetail, sliceTo_of_le bounded, if_neg (Nat.not_lt.mpr bounded),
    String.append_empty] at same
  by_cases more : attachmentPromptContentLimit < utf16Length text
  · -- The redacted text ends with a dot, the announced one with the marker.
    exfalso
    have long : maxProviderMetaStringLength < utf16Length text := by omega
    have cut : redactProviderText text = sliceTo text maxProviderMetaStringLength ++ "..." := by
      rw [redactProviderText, redactProviderTextBy, redactValues_of_quiet quiet, if_pos long]
      rfl
    rw [if_pos more] at same
    have ends := congrArg (fun shown => shown.toList.getLast?) same
    have dots : (redactProviderText text).toList =
        (sliceTo text maxProviderMetaStringLength).toList ++ ['.', '.'] ++ ['.'] := by
      rw [cut, String.toList_append, List.append_assoc]
      rfl
    have last := getLast_indentLines dots (by decide)
    have marker : "\n      [truncated]".toList.getLast? = some ']' := by decide
    simp only [String.toList_append, List.getLast?_append, last, marker, Option.some_or] at ends
    exact absurd ends (by decide)
  · rw [if_neg more, String.append_empty, sliceTo_of_le (Nat.not_lt.mp more)] at same
    have chars := congrArg String.toList same
    rw [String.toList_append, String.toList_append, List.append_cancel_left_eq] at chars
    exact indentLines_inj (String.toList_injective chars)

/-- A text without anything to redact is shown up to the announced limit exactly if it fits the
limit of the redaction. -/
theorem shownAsAnnounced_iff (quiet : Quiet text) :
    ShownAsAnnounced sizes text ↔ FitsLimit text := by
  constructor
  · intro shown
    by_cases some_ : text = ""
    · rw [some_]
      decide
    obtain ⟨raw, parsed⟩ := exists_parseAttachments sizes text
    have inside : plainFile sizes text ∈ parseAttachments sizes (some raw) := by
      rw [parsed]
      exact List.mem_singleton_self _
    have content : (plainFile sizes text).content = some text := by rw [plainFile]
    have isText : isTextAttachmentMimeType (plainFile sizes text).mimeType = true := by
      have plain : isTextAttachmentMimeType "text/plain" = true := by decide
      rw [plainFile, plain]
    have same := shown (some raw) (plainFile sizes text) inside content some_ isText
    rw [promptDetail_of_text content some_ isText] at same
    exact (redactProviderText_eq_self_iff quiet).mp (announcedDetail_redacted quiet same)
  · intro fits raw file _ content some_ isText
    rw [promptDetail_of_text content some_ isText, (redactProviderText_eq_self_iff quiet).mpr fits]

end Announced

end AifHandoff.Shared
