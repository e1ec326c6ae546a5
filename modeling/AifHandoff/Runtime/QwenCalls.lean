import Mathlib.Data.List.Sort
import AifHandoff.Lib.Json
import AifHandoff.Lib.Text

/-!
The tool calls of the local agent (`runtime/adapters/qwenLocalAgent/api.ts`): how they are read
from a response, what they ask for, and by what they are told apart.
-/

namespace AifHandoff.Runtime

open Text

variable {ν : Type}

/-- The fields of a record, in the order of their keys. -/
abbrev Fields (ν : Type) := List (String × Json ν)

/-! ### Reading values -/

def asRecord : Option (Json ν) → Fields ν
  | some (.obj fields) => fields
  | _ => []

def readString : Option (Json ν) → Option String
  | some (.str s) => if (trim s).isEmpty then none else some (trim s)
  | _ => none

/-- The field of a record, where it is a text. -/
def stringField (fields : Fields ν) (key : String) : Option String :=
  match fields.lookup key with
  | some (.str s) => some s
  | _ => none

/-- `/\/+/g` becomes one slash. -/
def collapseSlashes : List Char → List Char
  | [] => []
  | c :: rest =>
    if c = '/' && rest.head? = some '/' then collapseSlashes rest else c :: collapseSlashes rest

/-- `replace(/\/$/, "")`. -/
def dropLastSlash (cs : List Char) : List Char :=
  if cs.getLast? = some '/' then cs.dropLast else cs

/-- `normalizeToolLoopPath` and `normalizeRepositoryBudgetPath`. -/
def normalizeToolLoopPath (value : Option (Json ν)) : Option String :=
  (readString value).map fun raw =>
    let normalized := dropLastSlash (collapseSlashes (stripDotSlash (forwardSlashes raw)).toList)
    if normalized.isEmpty then "." else String.ofList normalized

/-- `dirnameForRepositoryBudgetPath`. -/
def dirnameForRepositoryBudgetPath (normalizedPath : String) : String :=
  let before := (normalizedPath.toList.reverse.dropWhile (· != '/')).drop 1
  if before.isEmpty then "." else String.ofList before.reverse

/-! ### Tools -/

def qwenLocalAgentTools : List String :=
  ["list_files", "read_file", "search_files", "write_file", "apply_patch", "run_shell", "git_status",
    "compute_audit_report_hash", "finalize_audit_report_manifest", "validate_audit_report",
    "git_commit"]

def sanitizeQwenToolNameForLog (toolName : String) : String :=
  if qwenLocalAgentTools.contains toolName then toolName else "unknown_qwen_tool"

def nonconsecutiveSignatureLimitTools : List String :=
  ["read_file", "list_files", "search_files", "finalize_audit_report_manifest", "git_commit",
    "run_shell", "validate_audit_report"]

def repeatedToolCallSpecialLimits : List (String × Nat) :=
  [("read_file", 2), ("list_files", 2), ("git_status", 2), ("git_commit", 1),
    ("finalize_audit_report_manifest", 2), ("validate_audit_report", 2)]

def auditReportRepeatedToolCallLimit : Nat := 2

def toollessWorkflows : List String := ["roadmap-generate", "roadmap-extract"]

def readOnlyToolNames : List String :=
  ["list_files", "read_file", "search_files", "run_shell", "git_status"]

def repositoryInspectionToolNames : List String :=
  ["list_files", "read_file", "search_files", "run_shell"]

def auditArtifactMaintenanceToolNames : List String := ["list_files", "read_file"]

def readOnlyWorkflows : List String :=
  ["researcher", "research", "designer", "design", "planner", "plan-checker", "reviewer",
    "review-gate", "review-security", "security_review", "qa"]

def resolveQwenToolsForWorkflow (workflowKind : String) : List String :=
  if toollessWorkflows.contains workflowKind then []
  else if readOnlyWorkflows.contains workflowKind then
    qwenLocalAgentTools.filter readOnlyToolNames.contains
  else qwenLocalAgentTools

def isQwenToolAllowedForWorkflow (workflowKind toolName : String) : Bool :=
  (resolveQwenToolsForWorkflow workflowKind).contains toolName

def repeatedToolCallLimitForTool (workflowKind toolName : String) (fallbackLimit : Nat) : Nat :=
  let specialLimit := repeatedToolCallSpecialLimits.lookup toolName
  if workflowKind = "audit" && toolName = "validate_audit_report" then
    (specialLimit.map (min fallbackLimit)).getD fallbackLimit
  else if workflowKind = "audit" && toolName = "finalize_audit_report_manifest" then
    min fallbackLimit auditReportRepeatedToolCallLimit
  else (specialLimit.map (min fallbackLimit)).getD fallbackLimit

/-- The texts among the items of an array. -/
def stringItems : Option (Json ν) → List String
  | some (.arr items) => items.filterMap fun item => match item with
      | .str s => some s
      | _ => none
  | _ => []

def isReadOnlyShellCommandAllowed (args : Fields ν) : Bool :=
  match readString (args.lookup "command") with
  | none => false
  | some command =>
    let commandArgs := (stringItems (args.lookup "args")).map trim
    if command = "pwd" || command = "ls" then true
    else if !(["npm", "npm.cmd", "pnpm", "yarn", "bun"].contains command) then false
    else match commandArgs with
      | [] => true
      | first :: others =>
        let first := toLowerCase first
        ["--version", "-v", "help", "--help"].contains first ||
          first = "run" && others.isEmpty

/-! ### Calls -/

/-- A call as the transcript keeps it. -/
structure ToolCall where
  id : String
  name : String
  arguments : String
deriving DecidableEq, Repr

/-- `JSON.stringify(rawArgs ?? {})` of arguments that are no text. -/
def argumentsText (numbers : NumberTexts ν) : Option (Json ν) → String
  | some (.str raw) => raw
  | none | some .null => "\x7b\x7d"
  | some value => String.ofList (Json.stringify numbers.write value)

/-- The name an item of `tool_calls` gives to its function. -/
def callName (item : Json ν) : Option String :=
  readString ((asRecord ((asRecord (some item)).lookup "function")).lookup "name")

/-- The id an item of `tool_calls` gives itself. -/
def callId (item : Json ν) : Option String := readString ((asRecord (some item)).lookup "id")

def generatedId (calls : Nat) : String := "tool-" ++ toString (calls + 1)

/-- The call of an item behind `calls` others. -/
def normalizeToolCall (numbers : NumberTexts ν) (calls : Nat) (item : Json ν) : Option ToolCall :=
  (callName item).map fun name =>
    { id := (callId item).getD (generatedId calls)
      name
      arguments := argumentsText numbers
        ((asRecord ((asRecord (some item)).lookup "function")).lookup "arguments") }

def normalizeToolCalls (numbers : NumberTexts ν) : Option (Json ν) → List ToolCall
  | some (.arr items) =>
    items.foldl (fun calls item => calls ++ (normalizeToolCall numbers calls.length item).toList) []
  | _ => []

/-- The arguments of a call, `none` where `JSON.parse` throws. -/
def parseToolArguments (numbers : NumberTexts ν) (raw : String) : Option (Fields ν) :=
  if (trim raw).isEmpty then some []
  else (Json.parse numbers.read (trim raw).toList).map fun parsed => asRecord (some parsed)

/-! ### What tells calls apart -/

variable (localeLe : String → String → Bool)

mutual

/-- Every record with its keys in order. -/
def stableToolValue : Json ν → Json ν
  | .arr items => .arr (stableToolItems items)
  | .obj fields =>
    .obj ((stableToolFields fields).insertionSort fun a b => localeLe a.1 b.1 = true)
  | value => value

def stableToolItems : List (Json ν) → List (Json ν)
  | [] => []
  | item :: rest => stableToolValue item :: stableToolItems rest

def stableToolFields : List (String × Json ν) → List (String × Json ν)
  | [] => []
  | (key, value) :: rest => (key, stableToolValue value) :: stableToolFields rest

end

def normalizeToolLoopPaths : Option (Json ν) → List String
  | some (.arr items) =>
    (items.filterMap fun item => normalizeToolLoopPath (some item)).insertionSort
      fun a b => localeLe a b = true
  | _ => []

/-- A text or `null`. -/
def orNull : Option String → Json ν
  | some s => .str s
  | none => .null

def buildToolLoopTargetPath (toolName : String) (args : Fields ν) : Option String :=
  if toolName = "git_commit" then
    let paths := normalizeToolLoopPaths localeLe (args.lookup "paths")
    if paths.isEmpty then none else some (join "," paths)
  else (normalizeToolLoopPath (args.lookup "path")).or (normalizeToolLoopPath (args.lookup "cwd"))

/-- A field of the record with its path in normal form, where it is a text. -/
def normalizePathField (fields : Fields ν) (key : String) : Fields ν :=
  match fields.lookup key with
  | some (.str s) => Json.putField fields (key, orNull (normalizeToolLoopPath (some (.str s : Json ν))))
  | _ => fields

def normalizeToolLoopArgs (toolName : String) (args : Fields ν) : Json ν :=
  match stableToolValue localeLe (.obj args) with
  | .obj fields =>
    if toolName = "git_commit" then
      .obj (Json.putField fields
        ("paths", .arr ((normalizeToolLoopPaths localeLe (args.lookup "paths")).map .str)))
    else if toolName = "search_files" then
      .obj (["path", "scope", "directory", "root"].foldl normalizePathField fields)
    else .obj (["path", "cwd"].foldl normalizePathField fields)
  | normalized => normalized

/-- The files whose contents count. -/
def toolLoopStatePaths (toolName : String) (args : Fields ν) : List String :=
  if toolName = "git_commit" then normalizeToolLoopPaths localeLe (args.lookup "paths")
  else if toolName = "finalize_audit_report_manifest" || toolName = "validate_audit_report" then
    (normalizeToolLoopPath (args.lookup "path")).toList
  else []

def isSafeToolLoopStatePath (relativePath : String) : Bool :=
  if relativePath.isEmpty || relativePath = "." then false
  else
    let segments := (split relativePath '/').filter fun segment => !segment.isEmpty
    !segments.any (fun segment => segment = ".." || segment = ".git") &&
      !startsWith relativePath "/"

def workflowStageAliases : List (String × String) :=
  [("planner", "planner"), ("plan-checker", "plan_checker"), ("plan_checker", "plan_checker"),
    ("implementer", "implementer"), ("implementer_checklist_sync", "implementer"),
    ("reviewer", "reviewer"), ("review-gate", "reviewer"), ("review_security", "reviewer"),
    ("review-security", "reviewer"), ("qa", "qa"), ("audit", "audit"), ("synthesis", "synthesis"),
    ("researcher", "planner"), ("research", "planner"), ("designer", "planner"),
    ("design", "planner")]

def normalizeToolLoopStage (workflowKind : String) : String :=
  let normalized := String.ofList
    ((trim workflowKind).toList.map fun c => if c = '-' then '_' else c)
  ((workflowStageAliases.lookup workflowKind).or (workflowStageAliases.lookup normalized)).getD
    normalized

/-- What a run gives to every fingerprint. -/
structure FingerprintContext where
  workflowKind : String
  cwd : String
  allowedWritePaths : List String

/-- The value whose hash is the signature of a call. -/
def fingerprintInput (context : FingerprintContext) (toolName : String) (args : Fields ν)
    (fileStates : List (Json ν)) : Json ν :=
  let safeToolName := sanitizeQwenToolNameForLog toolName
  let allowedWritePaths :=
    (context.allowedWritePaths.filterMap fun path =>
      normalizeToolLoopPath (some (.str path : Json ν))).insertionSort
        fun a b => localeLe a b = true
  stableToolValue localeLe <| .obj <|
    [("workflowKind", .str context.workflowKind),
      ("stage", .str (normalizeToolLoopStage context.workflowKind)),
      ("toolName", .str safeToolName),
      ("cwd", orNull (normalizeToolLoopPath (some (.str context.cwd : Json ν)))),
      ("targetPath", orNull (buildToolLoopTargetPath localeLe safeToolName args)),
      ("normalizedArgs", normalizeToolLoopArgs localeLe safeToolName args),
      ("allowedWritePaths", .arr (allowedWritePaths.map .str))] ++
    if fileStates.isEmpty then [] else [("fileStates", .arr fileStates)]

end AifHandoff.Runtime
