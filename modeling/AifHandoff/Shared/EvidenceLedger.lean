import Mathlib.Data.List.Sort
import AifHandoff.Lib.LexicalPath
import AifHandoff.Shared.ProviderText
import Mathlib.Data.List.Lex

/-!
Units of audit evidence (`shared/auditEvidenceLedger.ts`).

A unit says which tool was called, of what kind and grade the evidence is, and which scopes it
covers: the path that was named and every directory on the way to it.
-/

namespace AifHandoff.Shared

open Text

/-! ### Ids -/

/-- The order of `sort()`: by code units. -/
def unitsLe (a b : String) : Prop := a.toList.flatMap codeUnits ≤ b.toList.flatMap codeUnits

instance : DecidableRel unitsLe := fun a b => by
  unfold unitsLe
  infer_instance

def normalizeId (value : String) : Option String :=
  if (trim value).isEmpty then none else some (trim value)

def normalizeAuditEvidenceIds (values : List String) : List String :=
  (values.filterMap normalizeId).eraseDups.insertionSort unitsLe

theorem mem_normalizeAuditEvidenceIds {values : List String} {id : String} :
    id ∈ normalizeAuditEvidenceIds values ↔ ∃ value ∈ values, normalizeId value = some id := by
  rw [normalizeAuditEvidenceIds, List.mem_insertionSort, List.mem_eraseDups, List.mem_filterMap]

/-! ### Scopes -/

/-- `replace(/^\/+/, "").replace(/\/+$/g, "")`. -/
def stripSlashes (cs : List Char) : List Char :=
  ((cs.dropWhile (· == '/')).reverse.dropWhile (· == '/')).reverse

def normalizeAuditEvidencePath (path : String) : String :=
  String.ofList (stripSlashes (stripDotSlash (forwardSlashes (trim path))).toList)

/-- The path and the directories on the way to it. -/
def scopeIdsOfPath (rawPath : String) : List String :=
  let path := normalizeAuditEvidencePath rawPath
  if path.isEmpty || startsWith path ".." || includes path "/../" then []
  else
    let parts := (split path '/').filter fun part => !part.isEmpty
    (List.range parts.length).map fun index => join "/" (parts.take (index + 1))

def deriveAuditEvidenceScopeIdsFromPaths (paths : List String) : List String :=
  (paths.flatMap scopeIdsOfPath).eraseDups.insertionSort unitsLe

theorem mem_deriveAuditEvidenceScopeIdsFromPaths {paths : List String} {id : String} :
    id ∈ deriveAuditEvidenceScopeIdsFromPaths paths ↔ ∃ path ∈ paths, id ∈ scopeIdsOfPath path := by
  rw [deriveAuditEvidenceScopeIdsFromPaths, List.mem_insertionSort, List.mem_eraseDups,
    List.mem_flatMap]

def auditEvidenceScopeIdsOverlap (left right : String) : Bool :=
  let left := normalizeAuditEvidencePath left
  let right := normalizeAuditEvidencePath right
  left = right || startsWith left (right ++ "/") || startsWith right (left ++ "/")

/-! ### Payloads and units -/

inductive AuditEvidenceKind where
  | fileRead
  | search
  | shellCommand
deriving DecidableEq, Repr

inductive AuditEvidenceGrade where
  | discovery
  | substantive
deriving DecidableEq, Repr

def AuditEvidenceKind.text : AuditEvidenceKind → String
  | .fileRead => "file_read"
  | .search => "search"
  | .shellCommand => "shell_command"

def AuditEvidenceGrade.text : AuditEvidenceGrade → String
  | .discovery => "discovery"
  | .substantive => "substantive"

/-- What a tool call gives for its unit. -/
structure BuildAuditEvidencePayloadInput where
  id : String
  toolName : String
  evidenceKind : AuditEvidenceKind
  evidenceGrade : Option AuditEvidenceGrade
  paths : List String
  /-- The command of a shell call. -/
  command : Option String
  output : String

structure AuditEvidenceUnit where
  id : String
  toolName : String
  evidenceKind : AuditEvidenceKind
  evidenceGrade : AuditEvidenceGrade
  scopeIds : List String
  riskHypothesisIds : List String
  outputSha256 : String
  outputPreview : String
  outputPreviewTruncated : Bool
deriving DecidableEq, Repr

structure AuditRiskHypothesisScopeLink where
  riskId : String
  scopeId : String

/-- What the ledger calls of the platform and of the command classifier. -/
structure LedgerTools where
  sha256 : String → String
  isInventoryAuditCommand : String → Bool

def defaultPreviewChars : Nat := 512

def isSecretLikeEvidenceText (value : String) : Bool := redactProviderText value != value

def classifyGrade (tools : LedgerTools) (evidenceKind : AuditEvidenceKind)
    (evidenceGrade : Option AuditEvidenceGrade) (command : Option String) : AuditEvidenceGrade :=
  if command.any tools.isInventoryAuditCommand then .discovery
  else match evidenceGrade, evidenceKind with
    | some grade, _ => grade
    | none, .fileRead | none, .search => .substantive
    | none, .shellCommand => .discovery

def buildAuditEvidencePayload (tools : LedgerTools) (input : BuildAuditEvidencePayloadInput) :
    AuditEvidenceUnit :=
  let command := input.command.map fun command => redactProviderText (trim command)
  let paths := (input.paths.map normalizeAuditEvidencePath).filter fun path => !path.isEmpty
  let scopePaths := paths.filter fun path => !isSecretLikeEvidenceText path
  let redacted := redactProviderText input.output
  let truncated := defaultPreviewChars < utf16Length redacted
  { id := input.id
    toolName := input.toolName
    evidenceKind := input.evidenceKind
    evidenceGrade := classifyGrade tools input.evidenceKind input.evidenceGrade command
    scopeIds := normalizeAuditEvidenceIds (deriveAuditEvidenceScopeIdsFromPaths scopePaths)
    riskHypothesisIds := []
    outputSha256 := tools.sha256 input.output
    outputPreview := if truncated then sliceTo redacted defaultPreviewChars else redacted
    outputPreviewTruncated := truncated }

/-- The links whose scope overlaps one of the unit's. -/
def riskHypothesisIdsForEvidence (links : List AuditRiskHypothesisScopeLink)
    (payload : AuditEvidenceUnit) : List String :=
  normalizeAuditEvidenceIds <| payload.riskHypothesisIds ++
    (links.filter fun link => payload.scopeIds.any fun scopeId =>
      scopeId != "" && link.scopeId != "" && auditEvidenceScopeIdsOverlap scopeId link.scopeId).map
        (·.riskId)

def buildAuditEvidenceUnit (payload : AuditEvidenceUnit) : AuditEvidenceUnit :=
  { payload with
    scopeIds := normalizeAuditEvidenceIds payload.scopeIds
    riskHypothesisIds := normalizeAuditEvidenceIds payload.riskHypothesisIds }

/-! ### Plainly spelled paths -/

open LexicalPath PathPattern

/-- No backslash, no white space at the ends of a name, and no `..` at the end behind names without
one. -/
structure PlainPath (path : String) : Prop where
  slashes : '\\' ∉ (trim path).toList
  trimmed : ∀ name ∈ names (trim path).toList, Trimmed name
  notUp : (names (trim path).toList).getLast? = some up →
    (names (trim path).toList).dropLast ≠ [] → up ∈ (names (trim path).toList).dropLast

instance (path : String) : Decidable (PlainPath path) :=
  decidable_of_iff (('\\' ∉ (trim path).toList) ∧
      (∀ name ∈ names (trim path).toList, Trimmed name) ∧
      ((names (trim path).toList).getLast? = some up →
        (names (trim path).toList).dropLast ≠ [] → up ∈ (names (trim path).toList).dropLast))
    ⟨fun ⟨slashes, trimmed, notUp⟩ => ⟨slashes, trimmed, notUp⟩,
      fun plain => ⟨plain.slashes, plain.trimmed, plain.notUp⟩⟩

theorem names_stripSlashes (cs : List Char) : names (stripSlashes cs) = names cs := by
  rw [stripSlashes, names_dropSlashesBehind, names_dropWhile_slash]

theorem names_stripDotSlash (s : String) :
    names (stripDotSlash s).toList = names s.toList ∨
      dot :: names (stripDotSlash s).toList = names s.toList := by
  unfold stripDotSlash
  split
  · rename_i rest shape
    refine .inr ?_
    rw [shape, String.toList_ofList, names_dropWhile_slash]
    exact (names_append_slash ['.'] rest).symm
  · exact .inl rfl

theorem mem_stripDotSlash {s : String} {c : Char} (inside : c ∈ (stripDotSlash s).toList) :
    c ∈ s.toList := by
  unfold stripDotSlash at inside
  split at inside
  · rename_i rest shape
    rw [String.toList_ofList] at inside
    rw [shape]
    exact List.mem_cons_of_mem _ (List.mem_cons_of_mem _ ((List.dropWhile_suffix _).subset inside))
  · exact inside

theorem mem_stripSlashes {cs : List Char} {c : Char} (inside : c ∈ stripSlashes cs) : c ∈ cs := by
  rw [stripSlashes, List.mem_reverse] at inside
  exact (List.dropWhile_suffix _).subset
    (List.mem_reverse.mp ((List.dropWhile_suffix _).subset inside))

theorem head_stripSlashes (cs : List Char) : (stripSlashes cs).head? ≠ some '/' := by
  intro slash
  have inner : stripSlashes cs <+: cs.dropWhile (· == '/') := by
    rw [stripSlashes, ← List.reverse_suffix, List.reverse_reverse]
    exact List.dropWhile_suffix _
  obtain ⟨more, whole⟩ := inner
  cases shape : stripSlashes cs with
  | nil =>
    rw [shape] at slash
    cases slash
  | cons c rest =>
    rw [shape] at slash whole
    cases slash
    have first := List.head?_dropWhile_not (fun c => c == '/') cs
    rw [← whole] at first
    simp at first

theorem getLast_stripSlashes (cs : List Char) : (stripSlashes cs).getLast? ≠ some '/' := by
  intro slash
  rw [stripSlashes, List.getLast?_reverse] at slash
  have first := List.head?_dropWhile_not (fun c => c == '/') (cs.dropWhile (· == '/')).reverse
  rw [slash] at first
  simp at first

/-- A path with the names of a plainly spelled one, but for dots at the front. -/
structure PlainForm (all : List Name) (path : String) : Prop where
  slashes : '\\' ∉ path.toList
  trimmed : Text.trim path = path
  names : ∃ dots, dots ++ names path.toList = all ∧ ∀ name ∈ dots, name = dot

theorem normalize_form {path : String} {all : List Name} (form : PlainForm all path)
    (trimmed : ∀ name ∈ all, Trimmed name) :
    PlainForm all (normalizeAuditEvidencePath path) := by
  obtain ⟨dots, split, areDots⟩ := form.names
  have text : (normalizeAuditEvidencePath path).toList = stripSlashes (stripDotSlash path).toList := by
    rw [normalizeAuditEvidencePath, form.trimmed, forwardSlashes_of_no_backslash form.slashes,
      String.toList_ofList]
  have named : ∃ dots, dots ++ LexicalPath.names (normalizeAuditEvidencePath path).toList = all ∧
      ∀ name ∈ dots, name = dot := by
    rw [text, names_stripSlashes]
    rcases names_stripDotSlash path with same | one
    · exact ⟨dots, by rw [same, split], areDots⟩
    · refine ⟨dots ++ [dot], ?_, ?_⟩
      · rw [List.append_assoc, List.singleton_append, one, split]
      · intro name inside
        rcases List.mem_append.mp inside with early | last
        · exact areDots name early
        · exact List.mem_singleton.mp last
  refine ⟨?_, ?_, named⟩
  · intro backslash
    rw [text] at backslash
    exact form.slashes (mem_stripDotSlash (mem_stripSlashes backslash))
  · refine trim_of_trimmed ?_
    obtain ⟨dots', split', _⟩ := named
    refine trimmed_of_names ?_ ?_ fun name inside => trimmed name ?_
    · rw [text]
      exact head_stripSlashes _
    · rw [text]
      exact getLast_stripSlashes _
    · rw [← split']
      exact List.mem_append_right _ inside

theorem PlainPath.form {path : String} (plain : PlainPath path) :
    PlainForm (names (trim path).toList) (trim path) := by
  refine ⟨plain.slashes, ?_, [], List.nil_append _, fun _ inside => absurd inside List.not_mem_nil⟩
  exact trim_of_trimmed (trimmed_trim path)

/-- A path that is neither skipped nor goes up at its end has no `..`. -/
theorem up_not_mem {path : String} {all : List Name} (form : PlainForm all path)
    (notUp : all.getLast? = some up → all.dropLast ≠ [] → up ∈ all.dropLast)
    (noFirst : path.toList.head? ≠ some '/') (relative : startsWith path ".." = false)
    (within : includes path "/../" = false) : up ∉ names path.toList := by
  intro inside
  have dots : "..".toList = up := by decide
  have slashes : "/../".toList = '/' :: up ++ ['/'] := by decide
  rcases up_cases (mem_names.mp inside).1 with starts | infix_ | ⟨front, split, none_⟩
  · have yes : startsWith path ".." = true := startsWith_iff.mpr (dots ▸ starts)
    rw [yes] at relative
    cases relative
  · have yes : includes path "/../" = true := includes_iff.mpr (slashes ▸ infix_)
    rw [yes] at within
    cases within
  · obtain ⟨before, whole, areDots⟩ := form.names
    have upName : names up = [up] := by decide
    have named : names path.toList = names front ++ [up] := by
      rw [split, names_append_slash, upName]
    have some_ : names front ≠ [] := by
      intro empty
      have slash : path.toList.head? = some '/' := by
        cases front with
        | nil => rw [split, List.nil_append, List.head?_cons]
        | cons c rest => rw [split, List.cons_append, List.head?_cons, head_of_names_eq_nil empty]
      exact noFirst slash
    have shape : all = (before ++ names front) ++ [up] := by
      rw [← whole, named, List.append_assoc]
    rw [shape, List.getLast?_concat, List.dropLast_concat] at notUp
    rcases List.mem_append.mp (notUp rfl (by simp [some_])) with early | late
    · exact absurd (areDots up early) (by decide)
    · exact none_ (mem_names.mp late).1

theorem head_normalize (path : String) :
    (normalizeAuditEvidencePath path).toList.head? ≠ some '/' := by
  rw [normalizeAuditEvidencePath, String.toList_ofList]
  exact head_stripSlashes _

theorem normalize_trim (path : String) :
    normalizeAuditEvidencePath (trim path) = normalizeAuditEvidencePath path := by
  rw [normalizeAuditEvidencePath, trim_of_trimmed (trimmed_trim path)]
  rfl

theorem parts_eq (path : String) :
    (split path '/').filter (fun part => !part.isEmpty) =
      (names path.toList).map String.ofList := by
  rw [split, ← List.splitOn_eq_splitOnP, names, segmentsOf, List.filter_map]
  congr 1
  apply List.filter_congr
  intro part _
  have empty : (String.ofList part).isEmpty = part.isEmpty := by
    rw [Bool.eq_iff_iff, String.isEmpty_iff, List.isEmpty_iff, ← String.toList_eq_nil_iff,
      String.toList_ofList]
  simp [empty]

/-- The scopes of a plainly spelled path have no white space at their ends and lead to directories on
its way. -/
theorem scopeId_leads {path id : String} (plain : PlainPath path)
    (inside : id ∈ scopeIdsOfPath (normalizeAuditEvidencePath path)) (place : List Name) :
    trim id = id ∧
      resolve place (segmentsOf id.toList) <+: resolve place (segmentsOf (trim path).toList) := by
  have once : PlainForm (names (trim path).toList) (normalizeAuditEvidencePath path) := by
    rw [← normalize_trim]
    exact normalize_form plain.form plain.trimmed
  have twice := normalize_form once plain.trimmed
  unfold scopeIdsOfPath at inside
  dsimp only at inside
  split at inside
  · cases inside
  rename_i taken
  simp only [Bool.or_eq_true, not_or, Bool.not_eq_true] at taken
  have none_ := up_not_mem twice plain.notUp (head_normalize _) taken.1.2 taken.2
  obtain ⟨dots, whole, areDots⟩ := twice.names
  rw [parts_eq, List.length_map, List.mem_map] at inside
  obtain ⟨index, below, rfl⟩ := inside
  rw [List.mem_range] at below
  generalize names (normalizeAuditEvidencePath (normalizeAuditEvidencePath path)).toList = parts
    at none_ whole below
  have text : (join "/" ((parts.map String.ofList).take (index + 1))).toList =
      ['/'].intercalate (parts.take (index + 1)) := by
    rw [join, String.toList_intercalate, slash_toList, List.map_take, List.map_map]
    congr 2
    exact List.map_id'' (fun part => String.toList_ofList) parts
  have isName : ∀ name ∈ parts.take (index + 1), name ≠ [] ∧ '/' ∉ name ∧ Trimmed name := by
    intro name member
    have among : name ∈ names (trim path).toList := by
      rw [← whole]
      exact List.mem_append_right _ (List.mem_of_mem_take member)
    exact ⟨(mem_names.mp among).2, slash_not_mem (mem_names.mp among).1, plain.trimmed name among⟩
  have some_ : parts.take (index + 1) ≠ [] := by
    intro empty
    have short := congrArg List.length empty
    rw [List.length_take, List.length_nil] at short
    omega
  constructor
  · refine trim_of_trimmed ?_
    rw [text]
    exact trimmed_intercalate fun name member => ⟨(isName name member).1, (isName name member).2.2⟩
  · rw [text, segmentsOf_intercalate (fun name member => (isName name member).2.1) some_]
    refine (resolve_take place none_ (index + 1)).trans ?_
    have noUp : up ∉ segmentsOf (trim path).toList := by
      intro member
      have among : up ∈ dots ++ parts := by
        rw [whole]
        exact mem_names.mpr ⟨member, by decide⟩
      rcases List.mem_append.mp among with early | late
      · exact absurd (areDots up early) (by decide)
      · exact none_ late
    rw [resolve_of_no_up place none_, resolve_of_no_up place noUp, ← downs_names, ← whole,
      downs_append, downs_dots areDots, List.nil_append]

end AifHandoff.Shared
