import AifHandoff.Lib.LexicalPath
import AifHandoff.Lib.UnifiedDiff

/-!
The patch tool of the local agent (`runtime/adapters/qwenLocalAgent/tools.ts`).

The tool reads the paths of a patch from its `---` and `+++` lines and checks each of them; the
patch itself goes to `git apply`, which reads it by its own grammar (`UnifiedDiff`).
-/

namespace AifHandoff.Runtime.QwenTools

open LexicalPath PathPattern Regex UnifiedDiff

/-! ### Policy -/

inductive ErrorCategory where
  | permission
  | timeout
  deriving DecidableEq

inductive PolicyViolationKind where
  | toolPolicy
  | writePathNotAllowed
  deriving DecidableEq

structure RuntimeExecutionError where
  message : String
  category : ErrorCategory := .permission
  policyViolationKind : Option PolicyViolationKind := none
  targetPath : Option String := none
  deriving DecidableEq

def generatedWriteDenyDirectorySegments : List String :=
  ["node_modules", ".npm-cache", ".pnpm-store", ".yarn", ".cache", ".turbo", "dist", "build",
    "coverage", "out"]

def vcsControlDirectorySegments : List String := [".git", ".hg", ".svn"]

def secretDirectorySegments : List String :=
  [".ssh", ".gnupg", ".aws", ".azure", ".gcloud", ".codex"]

def safeEnvTemplateFilenames : List String :=
  [".env.example", ".env.sample", ".env.template", ".env.dist"]

/-- A pattern of the whole segment. -/
def whole (r : Regex) : Regex := cat [.startAnchor, r, .endAnchor]

def secretSegmentPatterns : List Regex :=
  [cat [.startAnchor, litI ".env", .alt (lit ".") .endAnchor],
    whole (.seq (litI "id_") (anyOf [litI "rsa", litI "dsa", litI "ecdsa", litI "ed25519"])),
    whole (litI ".npmrc"),
    whole (litI ".pypirc"),
    whole (litI ".netrc"),
    whole (litI "auth.json"),
    anyOf [litI "secret", litI "credential", litI "credentials", litI "token", litI "password",
      litI "passwd", cat [litI "private", optional (oneOf "_-"), litI "key"]],
    cat [lit ".", anyOf [litI "pem", litI "key", litI "p12", litI "pfx"], .endAnchor]]

/-- `.replace(/\/+$/, "")`. -/
def dropEndSlashes (value : String) : String :=
  String.ofList (value.toList.reverse.dropWhile (· == '/')).reverse

def pathMatchesAllowedWriteBoundary (normalizedPath allowedBoundary : String) : Bool :=
  if Text.includes allowedBoundary "*" then
    test (globRegex (glob allowedBoundary.toList)) normalizedPath
  else normalizedPath == allowedBoundary || Text.startsWith normalizedPath (allowedBoundary ++ "/")

section Policy

variable (toLowerCase : String → String)

def normalizePathForPolicy (value : String) : String :=
  toLowerCase (dropEndSlashes (Text.forwardSlashes value))

def policySegments (value : String) : List String :=
  (names (normalizePathForPolicy toLowerCase value).toList).map String.ofList

def isSecretLikePath (value : String) : Bool :=
  let segments := policySegments toLowerCase value
  segments.zipIdx.any fun (segment, index) =>
    secretDirectorySegments.contains segment ||
      (let isFinalEnvTemplate := index == segments.length - 1 &&
        safeEnvTemplateFilenames.contains (toLowerCase segment)
      !isFinalEnvTemplate && secretSegmentPatterns.any (test · segment))

def isVcsControlPath (value : String) : Bool :=
  (policySegments toLowerCase value).any vcsControlDirectorySegments.contains

end Policy

/-! ### Paths of the project -/

def isAbsolute (path : String) : Bool := Text.startsWith path "/"

/-- `path.resolve(root, raw)` for a relative path, as names from the top. -/
def pathResolve (root raw : String) : List Name :=
  resolve (resolve [] (names root.toList)) (names raw.toList)

/-- The names of `path.relative`. -/
def relativeNames : List Name → List Name → List Name
  | [], target => target
  | here :: deeper, [] => List.replicate (here :: deeper).length up
  | here :: deeper, there :: target =>
    if here = there then relativeNames deeper target
    else List.replicate (here :: deeper).length up ++ there :: target

def pathRelative (start target : List Name) : String :=
  String.ofList (['/'].intercalate (relativeNames start target))

/-- A path, or the root. -/
def orHere (path : String) : String := if path = "" then "." else path

structure Candidate where
  absolutePath : List Name
  relativePath : String
  deriving DecidableEq

/-- What the tools know of a run. -/
structure ToolContext where
  projectRoot : String
  allowedWritePaths : List String
  aborted : Bool

section Checks

variable (toLowerCase : String → String)

def resolveInsideProjectRoot (projectRoot relativePath label : String) :
    Except RuntimeExecutionError Candidate :=
  if !isAbsolute projectRoot then
    .error { message := "Qwen local agent requires an absolute projectRoot" }
  else
    let root := pathResolve projectRoot ""
    let rawPath := orHere (Text.trim relativePath)
    if rawPath.toList.contains '\x00' then .error { message := label ++ " contains a null byte" }
    else if isAbsolute rawPath then .error { message := label ++ " must be relative" }
    else if isSecretLikePath toLowerCase rawPath then
      .error { message := label ++ " references a secret-like path" }
    else if isVcsControlPath toLowerCase rawPath then
      .error { message := label ++ " references a protected VCS control path" }
    else
      let absolutePath := pathResolve projectRoot rawPath
      let rel := pathRelative root absolutePath
      if Text.startsWith rel ".." || isAbsolute rel then
        .error { message := label ++ " escapes project root" }
      else
        let normalizedRel := orHere rel
        if isSecretLikePath toLowerCase normalizedRel then
          .error { message := label ++ " references a secret-like path" }
        else if isVcsControlPath toLowerCase normalizedRel then
          .error { message := label ++ " references a protected VCS control path" }
        else .ok { absolutePath, relativePath := normalizedRel }

def assertWritePathAllowed (context : ToolContext) (relativePath label : String) :
    Except RuntimeExecutionError Unit :=
  let normalized := normalizePathForPolicy toLowerCase relativePath
  match (policySegments toLowerCase relativePath).find? generatedWriteDenyDirectorySegments.contains with
  | some deniedSegment => .error {
      message := label ++ " targets generated/dependency directory " ++ deniedSegment
      policyViolationKind := some .toolPolicy }
  | none =>
    if context.allowedWritePaths.isEmpty then .ok ()
    else if context.allowedWritePaths.any (pathMatchesAllowedWriteBoundary normalized) then .ok ()
    else
      let deniedPath := Text.forwardSlashes relativePath
      .error {
        message := "write_path_not_allowed: " ++ deniedPath ++ "; " ++ label ++
          " is outside this workflow's allowed write paths (" ++
          Text.join ", " context.allowedWritePaths ++ ")"
        policyViolationKind := some .writePathNotAllowed
        targetPath := some deniedPath }

end Checks

/-! ### The tool -/

/-- What the tool finds outside: lower case, the disk before and behind `git apply`, and git. -/
structure Outside where
  toLowerCase : String → String
  /-- What `resolveWritablePathInsideProjectRoot` throws for a path. -/
  unwritable : List Name → Option RuntimeExecutionError
  /-- What `assertPathHasNoSymlinkComponentsIfExists` throws for a path, behind `git apply`. -/
  crossesLink : List Name → Option RuntimeExecutionError
  git : UnifiedDiff.Apply

/-- `\b..\b`. -/
def standing (r : Regex) : Regex := cat [.wordBoundary, r, .wordBoundary]

structure ToolResult where
  ok : Bool
  touchedFiles : List String
  deriving DecidableEq

/-- The file that stands after `--- ` or `+++ `: bare, or behind `a/` or `b/`. -/
structure Names (text file : String) : Prop where
  named : file ≠ "" ∧ file ≠ "/dev/null"
  notNull : Text.trim text ≠ "/dev/null"
  stands : Text.trim text = "a/" ++ file ∨ Text.trim text = "b/" ++ file ∨
    Text.trim text = file ∧ Text.startsWith file "a/" = false ∧ Text.startsWith file "b/" = false

theorem starts_up (rest : List Name) :
    Text.startsWith (String.ofList (['/'].intercalate (up :: rest))) ".." = true := by
  rw [Text.startsWith_iff, String.toList_ofList, String.toList_ofList]
  cases rest with
  | nil => exact ⟨[], rfl⟩
  | cons next rest =>
    rw [List.intercalate_cons_cons]
    exact ⟨'/' :: ['/'].intercalate (next :: rest), rfl⟩

theorem prefix_of_relative {start target : List Name}
    (stays : Text.startsWith (pathRelative start target) ".." = false) : start <+: target := by
  induction start generalizing target with
  | nil => exact List.nil_prefix
  | cons here deeper ih =>
    cases target with
    | nil =>
      rw [pathRelative, relativeNames, List.length_cons, List.replicate_succ,
        starts_up] at stays
      cases stays
    | cons there target =>
      rw [pathRelative, relativeNames] at stays
      split at stays
      · rename_i same
        rw [same]
        exact List.cons_prefix_cons.mpr ⟨rfl, ih stays⟩
      · rw [List.length_cons, List.replicate_succ, List.cons_append, starts_up] at stays
        cases stays

variable {outside : Outside} {context : ToolContext} {patch file : String} {started : Started}

theorem orHere_of_ne {path : String} (some_ : path ≠ "") : orHere path = path := if_neg some_

/-- The texts behind `--- ` and `+++ ` in a patch. -/
def headings (patch : String) : List String := (Text.splitLines patch).filterMap mark

/-- A heading of a section that git and the tool read alike. -/
def Regular (diff : Diff) (text : String) : Prop :=
  ∃ entry ∈ diff.sections, text ∈ entry.headings ∧ ∃ file, Conventional text file

/-- The condition on a patch as git reads it. -/
structure NamesAlike (patch : String) (diff : Diff) : Prop where
  /-- A file of a rename or copy line, of a `diff --git` line alone, or of an unconventional
  heading also stands on some `---` or `+++` line. -/
  odd : ∀ entry ∈ diff.sections, ∀ file, entry.NamesOddly file →
    ∃ text ∈ headings patch, Names text file
  /-- All other `---` and `+++` lines, in hunks and outside of sections too, name files of
  sections. -/
  stray : ∀ text ∈ headings patch, ¬ Regular diff text → ∀ file, Names text file →
    file ∈ diff.files

/-- A file of the patch that crosses a link behind `git apply`. -/
def CrossesLink (outside : Outside) (context : ToolContext) (patch : String) : Prop :=
  ∃ text ∈ headings patch, ∃ file, Names text file ∧
    (outside.crossesLink (pathResolve context.projectRoot file)).isSome

/-- The condition on a patch. -/
def Fits (outside : Outside) (context : ToolContext) (patch : String) : Prop :=
  ∀ diff, outside.git.read patch = some diff →
    (CrossesLink outside context patch → diff.files = []) ∧
      (¬ CrossesLink outside context patch → NamesAlike patch diff)

end AifHandoff.Runtime.QwenTools
