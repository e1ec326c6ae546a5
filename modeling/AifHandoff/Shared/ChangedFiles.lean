import AifHandoff.Lib.GitStatus
import AifHandoff.Shared.ManifestBlocks

/-!
The changed files of a task (`shared/taskCompletionEvidence.ts`).

The evidence lists the files of the working tree, as `git status` prints them, and those of
the commits of the task, as `git diff` prints their names. Both outputs are trimmed and read
line by line.
-/

namespace AifHandoff.Shared.CompletionEvidence

open PathPattern Git Regex

/-! ### Paths -/

/-- What the comparison of paths takes from the platform. -/
structure Platform where
  isWindows : Bool
  toLowerCase : String → String

def normalizeRelativePath (path : String) : String :=
  stripSlashes (Text.stripDotSlash (Text.forwardSlashes path))

def normalizePathForComparison (platform : Platform) (path : String) : String :=
  if platform.isWindows then platform.toLowerCase (normalizeRelativePath path)
  else normalizeRelativePath path

def isSameRepositoryPath (platform : Platform) (left right : String) : Bool :=
  normalizePathForComparison platform left == normalizePathForComparison platform right

/-- `basename`: the last segment that names something. -/
def basename (path : String) : String :=
  let segments := (Text.split path '/').filter (!·.isEmpty)
  segments.getLast?.getD ""

/-! ### What git prints -/

/-- What a command prints, and nothing if it fails. -/
abbrev GitCommands := List String → Option String

def runGit (git : GitCommands) (args : List String) : Option String := (git args).map Text.trim

/-- `s.trimStart()`. -/
def trimStart (s : String) : String := String.ofList (s.toList.dropWhile Text.isSpace)

/-- The status letters are one code unit each. -/
def statusFile (line : String) : String :=
  let path := trimStart (Text.dropChars line 2)
  match afterArrow path.toList with
  | some renamed => normalizeRelativePath (String.ofList renamed)
  | none => normalizeRelativePath path

def parseStatusFiles (output : String) : List String :=
  ((((Text.splitLines output).map Text.trimEnd).filter (!·.isEmpty)).map statusFile).filter
    (!·.isEmpty)

/-- The files of a list of names. -/
def parseNames (output : String) : List String :=
  ((Text.splitLines output).map normalizeRelativePath).filter (!·.isEmpty)

def resolveExistingBaseBranch (git : GitCommands) (configuredBaseBranch : String) : Option String :=
  let candidates := [configuredBaseBranch,
    if !configuredBaseBranch.isEmpty && !Text.includes configuredBaseBranch "/" then
      "origin/" ++ configuredBaseBranch else "",
    "main", "origin/main", "master", "origin/master"].filter (!·.isEmpty)
  candidates.eraseDups.find? fun candidate =>
    (runGit git ["rev-parse", "--verify", "--quiet", candidate ++ "^\x7bcommit\x7d"]).any
      (!·.isEmpty)

/-- The commands that list the committed files. -/
def diffArgs (baseBranch : Option String) : List (List String) :=
  match baseBranch with
  | some base => [["diff", "--name-only", base ++ "...HEAD"], ["diff", "--name-only", base ++ "..HEAD"]]
  | none => [["diff-tree", "--root", "--no-commit-id", "--name-only", "-r", "HEAD"]]

structure ChangedFiles where
  gitAvailable : Bool
  files : List String
  dirtyFiles : List String
  committedFiles : List String

def insideArgs : List String := ["rev-parse", "--is-inside-work-tree"]

def statusArgs : List String := ["status", "--porcelain=v1", "--untracked-files=all"]

/-- The dirty files, in the order of the output. -/
def listDirty (git : GitCommands) : List String :=
  match (runGit git statusArgs).filter (!·.isEmpty) with
  | some status => parseStatusFiles status
  | none => []

/-- The committed files, in the order of the outputs. -/
def listCommitted (git : GitCommands) (baseBranch : Option String) : List String :=
  (diffArgs baseBranch).flatMap fun args =>
    match (runGit git args).filter (!·.isEmpty) with
    | some diff => parseNames diff
    | none => []

def collectChangedFiles (git : GitCommands) (configuredBaseBranch : Option String) : ChangedFiles :=
  if runGit git insideArgs ≠ some "true" then
    { gitAvailable := false, files := [], dirtyFiles := [], committedFiles := [] }
  else
    let dirty := listDirty git
    let committed := listCommitted git
      (resolveExistingBaseBranch git ((configuredBaseBranch.filter (!·.isEmpty)).getD "main"))
    { gitAvailable := true
      files := sortedSet Manifest.codeUnitOrder (dirty ++ committed)
      dirtyFiles := sortedSet Manifest.codeUnitOrder dirty
      committedFiles := sortedSet Manifest.codeUnitOrder committed }

/-! ### The evidence of a task -/

/-- What the evidence reads of a task. -/
structure TaskCompletionEvidenceTask where
  planPath : Option String
  expectedReportArtifactPath : Option String
  /-- The report artifact that the description declares. -/
  describedReportArtifactPath : Option String
  /-- The one that the title, the description, the roadmap or the plan declares. -/
  policyReportArtifactPath : Option String
  isFix : Bool
  /-- The inferred intent is an audit. -/
  isAudit : Bool
  /-- Anything else makes the task a risky one. -/
  otherwiseRisky : Bool

def isRiskyTask (task : TaskCompletionEvidenceTask) : Bool := task.isAudit || task.otherwiseRisky

/-- `^docs\/rdpi\/.+\/(?:research|design|plan|result)\.md$`, without case. -/
def rdpiDocument : Regex :=
  cat [.startAnchor, litI "docs/rdpi/", some1 dot, lit "/",
    anyOf [litI "research", litI "design", litI "plan", litI "result"], litI ".md", .endAnchor]

def isPlanArtifact (platform : Platform) (path : String) (task : TaskCompletionEvidenceTask) :
    Bool :=
  let normalized := normalizeRelativePath path
  let taskPlanPath := normalizeRelativePath
    ((task.planPath.filter (!·.isEmpty)).getD ".ai-factory/PLAN.md")
  let name := platform.toLowerCase (basename normalized)
  normalized == taskPlanPath || platform.toLowerCase normalized == ".ai-factory/roadmap.md" ||
    (Text.startsWith normalized ".ai-factory/" &&
      (name == "plan.md" || name == "fix_plan.md" || Text.includes normalized "/plans/")) ||
    test rdpiDocument normalized || Text.startsWith normalized "docs/intake/" ||
    normalized == "docs/work_status.json" || normalized == "docs/work_index.md"

def isMetadataOnlyPath (path : String) : Bool :=
  let normalized := normalizeRelativePath path
  Text.startsWith normalized ".git/" || normalized == ".DS_Store" ||
    Text.endsWith normalized ".log" || Text.endsWith normalized ".tmp"

/-- The directories of generated files. -/
def generatedDirectories : List String :=
  ["node_modules/", ".npm-cache/", ".pnpm-store/", ".yarn/cache/", ".cache/", ".turbo/", "dist/",
    "build/", "coverage/", "out/"]

def isGeneratedDependencyArtifactPath (path : String) : Bool :=
  let normalized := normalizeRelativePath path
  generatedDirectories.any (Text.startsWith normalized) || Text.endsWith normalized ".tsbuildinfo"

/-- The file counts as a change of the task. -/
def isMeaningful (platform : Platform) (task : TaskCompletionEvidenceTask) (file : String) : Bool :=
  !isPlanArtifact platform file task && !isMetadataOnlyPath file &&
    !isGeneratedDependencyArtifactPath file

structure TaskCompletionChangedFiles where
  gitAvailable : Bool
  changedFiles : List String
  dirtyChangedFiles : List String
  committedFiles : List String
  meaningfulChangedFiles : List String
  meaningfulDirtyChangedFiles : List String

def collectTaskCompletionChangedFiles (platform : Platform) (task : TaskCompletionEvidenceTask)
    (git : GitCommands) (configuredBaseBranch : Option String) : TaskCompletionChangedFiles :=
  let gitEvidence := collectChangedFiles git configuredBaseBranch
  { gitAvailable := gitEvidence.gitAvailable
    changedFiles := gitEvidence.files
    dirtyChangedFiles := gitEvidence.dirtyFiles
    committedFiles := gitEvidence.committedFiles
    meaningfulChangedFiles := gitEvidence.files.filter (isMeaningful platform task)
    meaningfulDirtyChangedFiles := gitEvidence.dirtyFiles.filter (isMeaningful platform task) }

inductive IssueCode where
  | unexpectedNonReportChanges
  | intentChangedFilesContradiction
  /-- An issue of another check. -/
  | other (code : String)
  deriving DecidableEq

structure Issue where
  code : IssueCode
  message : String

/-- `.replace(/[),.;\]]+$/g, "")`. -/
def stripPunctuation (path : String) : String :=
  String.ofList ((path.toList.reverse.dropWhile "),.;]".toList.contains).reverse)

def normalizePolicyPath (path : String) : String :=
  stripPunctuation (Text.stripDotSlash (Text.forwardSlashes path))

def reportArtifactPathMatches (platform : Platform) (expectedPath file : String) : Bool :=
  platform.toLowerCase (normalizePolicyPath expectedPath) ==
    platform.toLowerCase (normalizePolicyPath file)

/-- The rule `audit_report_only` of `validateTaskIntentChangedFiles`. -/
def auditReportOnly (platform : Platform) (expectedReportArtifactPath : Option String)
    (isAuditReportArtifactPath : String → Bool) (meaningfulChangedFiles : List String) :
    List Issue :=
  let files := ((meaningfulChangedFiles.eraseDups.map Text.trim).filter (!·.isEmpty)).mergeSort
    Manifest.codeUnitOrder.le
  let contradictory := files.filter fun file =>
    match expectedReportArtifactPath with
    | some expected => !reportArtifactPathMatches platform expected file
    | none => !isAuditReportArtifactPath file
  if contradictory.isEmpty then []
  else [{
    code := .intentChangedFilesContradiction
    message := match expectedReportArtifactPath with
      | some expected => "Audit intent permits only the declared report artifact " ++ expected ++
          ". Contradictory files: " ++ Text.join ", " contradictory ++ "."
      | none => "Audit intent permits audit report artifact changes only. Contradictory files: " ++
          Text.join ", " contradictory ++ "." }]

/-- What the checks that do not read the names of the changed files find. -/
structure OtherChecks where
  isAuditReportArtifactPath : String → Bool
  before : List Issue
  behind : List Issue

/-- The report that the task declares. -/
def declaredReport (task : TaskCompletionEvidenceTask) : Option String :=
  (task.expectedReportArtifactPath.or task.describedReportArtifactPath).filter (!·.isEmpty)

def unexpectedNonReportChangedFiles (platform : Platform) (task : TaskCompletionEvidenceTask)
    (meaningfulChangedFiles : List String) : List String :=
  match declaredReport task with
  | some expected =>
    if isRiskyTask task then
      meaningfulChangedFiles.filter fun file => !isSameRepositoryPath platform file expected
    else []
  | none => []

/-- The issues of `evaluateTaskCompletionEvidence` in the completion phase. -/
def evaluateTaskCompletionEvidence (platform : Platform) (task : TaskCompletionEvidenceTask)
    (git : GitCommands) (configuredBaseBranch : Option String) (others : OtherChecks) :
    List Issue :=
  let changed := collectTaskCompletionChangedFiles platform task git configuredBaseBranch
  let unexpected := unexpectedNonReportChangedFiles platform task changed.meaningfulChangedFiles
  let unexpectedIssues := if unexpected.isEmpty then [] else [{
    code := IssueCode.unexpectedNonReportChanges
    message := "Audit/review/discovery tasks with a declared report artifact may only change " ++
      "that report artifact. Unexpected changed files: " ++ Text.join ", " unexpected ++ "." }]
  let intentReport :=
    (task.expectedReportArtifactPath.or task.policyReportArtifactPath).filter (!·.isEmpty)
  let intentIssues := if task.isAudit && !task.isFix then
    auditReportOnly platform intentReport others.isAuditReportArtifactPath
      changed.meaningfulChangedFiles else []
  others.before ++ unexpectedIssues ++ intentIssues ++ others.behind

/-! ### What git answers -/

/-- What git knows of the working tree and of the commits. -/
structure Repository where
  entries : List StatusEntry
  /-- What a revision that is a commit resolves to. -/
  commitOf : String → Option String
  /-- The changes that a command with these arguments lists. -/
  diffs : List String → List DiffEntry

namespace Repository

def git (r : Repository) : GitCommands := fun args =>
  if args = insideArgs then some "true\n"
  else if args = statusArgs then some (statusOutput r.entries)
  else if args.head? = some "rev-parse" then r.commitOf (args.getLast?.getD "")
  else some (nameOutput (r.diffs args))

variable (r : Repository) (configuredBaseBranch : Option String)

def baseBranch : Option String :=
  resolveExistingBaseBranch r.git ((configuredBaseBranch.filter (!·.isEmpty)).getD "main")

/-- The changes of the commits of the task, command by command. -/
def committed : List (List DiffEntry) := (diffArgs (r.baseBranch configuredBaseBranch)).map r.diffs

/-- The content of the file is changed: it was added, modified, deleted or renamed away. -/
inductive Touches (path : String) : Prop where
  | dirty (entry : StatusEntry) (listed : entry ∈ r.entries)
      (touched : entry.path = path ∨ entry.oldPath = some path)
  | committed (changes : List DiffEntry) (command : changes ∈ r.committed configuredBaseBranch)
      (entry : DiffEntry) (listed : entry ∈ changes)
      (touched : entry.path = path ∨ entry.oldPath = some path)

end Repository

/-- The path that is read for a status entry. -/
def readEntry (entry : StatusEntry) : String :=
  normalizeRelativePath (String.ofList entry.readText)

/-- The path that is read for what is left of a name. -/
def readName (name : String × List Char) : String := normalizeRelativePath (String.ofList name.2)

/-! ### How an entry is read -/

theorem trimStart_of_starts {line : List Char} (starts : line.dropWhile Text.isSpace = line) :
    trimStart (String.ofList line) = String.ofList line := by
  rw [trimStart, String.toList_ofList, starts]

theorem dropWhile_pathText (entry : StatusEntry) :
    entry.pathText.dropWhile Text.isSpace = entry.pathText := by
  obtain ⟨c, rest, split, some_⟩ := entry.starts_pathText
  have visible := isSpace_of_printed (entry.printed_pathText c (by rw [split]; simp)) some_
  rw [split, List.dropWhile_cons_of_neg (by rw [visible]; exact Bool.false_ne_true)]

theorem match_afterArrow (text : List Char) :
    (match afterArrow text with
      | some renamed => normalizeRelativePath (String.ofList renamed)
      | none => normalizeRelativePath (String.ofList text)) =
      normalizeRelativePath (String.ofList ((afterArrow text).getD text)) := by
  cases afterArrow text with
  | none => rfl
  | some renamed => rfl

theorem statusFile_line (entry : StatusEntry) :
    statusFile (String.ofList entry.line) = readEntry entry ∧
      statusFile (String.ofList entry.trimmedLine) = readEntry entry := by
  have cut : trimStart (Text.dropChars (String.ofList entry.line) 2) =
      String.ofList entry.pathText := by
    have blank : Text.isSpace ' ' = true := by decide
    rw [Text.dropChars, String.toList_ofList, StatusEntry.line, trimStart, String.toList_ofList]
    simp [blank, dropWhile_pathText]
  have whole : statusFile (String.ofList entry.line) = readEntry entry := by
    rw [statusFile, cut, String.toList_ofList, match_afterArrow]
    rfl
  refine ⟨whole, ?_⟩
  rw [StatusEntry.trimmedLine]
  split
  · have cut : trimStart (Text.dropChars (String.ofList entry.line.tail) 2) =
        String.ofList entry.pathText := by
      rw [Text.dropChars, String.toList_ofList, StatusEntry.line, List.tail_cons]
      exact trimStart_of_starts (dropWhile_pathText entry)
    rw [statusFile, cut, String.toList_ofList, match_afterArrow]
    rfl
  · exact whole

theorem trimEnd_of_ends {line : List Char}
    (ends : ∃ front c, line = front ++ [c] ∧ Text.isSpace c = false) :
    Text.trimEnd (String.ofList line) = String.ofList line ∧
      (String.ofList line).isEmpty = false := by
  obtain ⟨front, c, rfl, visible⟩ := ends
  constructor
  · rw [Text.trimEnd, String.toList_ofList, List.reverse_append, List.reverse_singleton,
      List.singleton_append, List.dropWhile_cons_of_neg (by rw [visible]; exact Bool.false_ne_true),
      List.reverse_cons, List.reverse_reverse]
  · rw [Bool.eq_false_iff, ne_eq, String.isEmpty_iff]
    intro nothing
    have chars := congrArg String.toList nothing
    simp at chars

theorem mem_trimmedLines {entries : List StatusEntry} {line : List Char}
    (inside : line ∈ trimmedLines entries) :
    ∃ entry : StatusEntry, line = entry.line ∨ line = entry.trimmedLine := by
  cases entries with
  | nil => cases inside
  | cons first rest =>
    rcases List.mem_cons.mp inside with rfl | later
    · exact ⟨first, .inr rfl⟩
    · obtain ⟨entry, -, rfl⟩ := List.mem_map.mp later
      exact ⟨entry, .inl rfl⟩

theorem printed_trimmedLines {entries : List StatusEntry} :
    ∀ line ∈ trimmedLines entries, ∀ c ∈ line, Printed c := by
  intro line inside
  obtain ⟨entry, rfl | rfl⟩ := mem_trimmedLines inside
  · exact entry.printed_line
  · exact entry.printed_trimmedLine

theorem ends_trimmedLines {entries : List StatusEntry} :
    ∀ line ∈ trimmedLines entries, ∃ front c, line = front ++ [c] ∧ Text.isSpace c = false := by
  intro line inside
  obtain ⟨entry, rfl | rfl⟩ := mem_trimmedLines inside
  · exact entry.ends_line
  · exact entry.ends_trimmedLine

theorem statusFile_trimmedLines (entries : List StatusEntry) :
    ((trimmedLines entries).map String.ofList).map statusFile = entries.map readEntry := by
  cases entries with
  | nil => rfl
  | cons first rest =>
    have later : ∀ entry ∈ rest,
        ((statusFile ∘ String.ofList) ∘ StatusEntry.line) entry = readEntry entry := by
      intro entry _
      rw [Function.comp_apply, Function.comp_apply, (statusFile_line entry).1]
    rw [trimmedLines, List.map_cons, List.map_cons, (statusFile_line first).2, List.map_map,
      List.map_map, List.map_cons, List.map_congr_left later]

theorem parseStatusFiles_output {entries : List StatusEntry} (some_ : entries ≠ []) :
    parseStatusFiles (Text.trim (statusOutput entries)) =
      (entries.map readEntry).filter (!·.isEmpty) := by
  have trimmed : ∀ line ∈ (trimmedLines entries).map String.ofList, Text.trimEnd line = id line := by
    intro line inside
    obtain ⟨chars, isLine, rfl⟩ := List.mem_map.mp inside
    exact (trimEnd_of_ends (ends_trimmedLines chars isLine)).1
  have filled : ∀ line ∈ (trimmedLines entries).map String.ofList, !line.isEmpty := by
    intro line inside
    obtain ⟨chars, isLine, rfl⟩ := List.mem_map.mp inside
    rw [(trimEnd_of_ends (ends_trimmedLines chars isLine)).2]
    rfl
  rw [parseStatusFiles, splitLines_of_printed (split_trim_statusOutput some_) printed_trimmedLines,
    List.map_congr_left trimmed, List.map_id, List.filter_eq_self.mpr filled,
    statusFile_trimmedLines]

theorem match_filter {parse : String → List String} (nothing : parse "" = []) (output : String) :
    (match (some output).filter (!·.isEmpty) with
      | some printed => parse printed
      | none => []) = parse output := by
  cases isEmpty : output.isEmpty with
  | false => simp [Option.filter, isEmpty]
  | true =>
    obtain rfl := String.isEmpty_iff.mp isEmpty
    rw [nothing]
    rfl

theorem listDirty_eq (r : Repository) :
    listDirty r.git = (r.entries.map readEntry).filter (!·.isEmpty) := by
  have answer : runGit r.git statusArgs = some (Text.trim (statusOutput r.entries)) := by
    rw [runGit, Repository.git, if_neg (by decide), if_pos rfl, Option.map_some]
  have nothing : parseStatusFiles "" = [] := by decide
  rw [listDirty, answer, match_filter nothing]
  cases isEmpty : r.entries with
  | nil =>
    have noOutput : Text.trim (statusOutput []) = "" := by decide
    rw [noOutput, nothing]
    rfl
  | cons first rest => exact parseStatusFiles_output (List.cons_ne_nil first rest)

theorem parseNames_output {changes : List DiffEntry} (some_ : seenNames changes ≠ []) :
    parseNames (Text.trim (nameOutput changes)) =
      ((seenNames changes).map readName).filter (!·.isEmpty) := by
  have split := split_trim_nameOutput some_
  have printed : ∀ line ∈ (seenNames changes).map Prod.snd, ∀ c ∈ line, Printed c := by
    intro line isLine
    obtain ⟨⟨path, text⟩, seen, rfl⟩ := List.mem_map.mp isLine
    exact printed_seenNames seen
  rw [← Function.comp_def String.ofList Prod.snd, ← List.map_map] at split
  rw [parseNames, splitLines_of_printed split printed, List.map_map, List.map_map]
  rfl

theorem diff_answer (r : Repository) {base : Option String} {args : List String}
    (command : args ∈ diffArgs base) :
    runGit r.git args = some (Text.trim (nameOutput (r.diffs args))) := by
  have first : args.head? = some "diff" ∨ args.head? = some "diff-tree" := by
    cases base with
    | none =>
      rw [List.mem_singleton.mp command]
      exact .inr rfl
    | some base =>
      rw [diffArgs] at command
      rcases List.mem_cons.mp command with rfl | command
      · exact .inl rfl
      · rw [List.mem_singleton.mp command]
        exact .inl rfl
  have notInside : args ≠ insideArgs := by
    rintro rfl
    exact absurd first (by decide)
  have notStatus : args ≠ statusArgs := by
    rintro rfl
    exact absurd first (by decide)
  have notRevision : args.head? ≠ some "rev-parse" := by
    rcases first with first | first
    · rw [first]
      decide
    · rw [first]
      decide
  rw [runGit, Repository.git, if_neg notInside, if_neg notStatus, if_neg notRevision,
    Option.map_some]

theorem listCommitted_eq (r : Repository) (configuredBaseBranch : Option String) :
    listCommitted r.git (r.baseBranch configuredBaseBranch) =
      ((r.committed configuredBaseBranch).flatMap fun changes =>
        ((seenNames changes).map readName).filter (!·.isEmpty)) := by
  have nothing : parseNames "" = [] := by decide
  rw [listCommitted, Repository.committed, List.flatMap_map]
  refine List.flatMap_congr fun args command => ?_
  rw [diff_answer r command, match_filter nothing]
  by_cases none_ : seenNames (r.diffs args) = []
  · rw [trim_nameOutput_eq_empty none_, nothing, none_]
    rfl
  · exact parseNames_output none_

/-! ### What is listed -/

section Listed

variable {r : Repository} {configuredBaseBranch : Option String} {path : String}

theorem filter_isEmpty {xs : List String} {x : String} :
    x ∈ xs.filter (!·.isEmpty) ↔ x ∈ xs ∧ x ≠ "" := by
  simp [List.mem_filter]

theorem mem_listDirty :
    path ∈ listDirty r.git ↔ (∃ entry ∈ r.entries, readEntry entry = path) ∧ path ≠ "" := by
  rw [listDirty_eq, filter_isEmpty, List.mem_map]

theorem mem_listCommitted :
    path ∈ listCommitted r.git (r.baseBranch configuredBaseBranch) ↔
      (∃ changes ∈ r.committed configuredBaseBranch, ∃ name ∈ seenNames changes,
        readName name = path) ∧ path ≠ "" := by
  rw [listCommitted_eq, List.mem_flatMap]
  simp only [filter_isEmpty, List.mem_map]
  constructor
  · rintro ⟨changes, command, read, some_⟩
    exact ⟨⟨changes, command, read⟩, some_⟩
  · rintro ⟨⟨changes, command, read⟩, some_⟩
    exact ⟨changes, command, read, some_⟩

theorem collectChangedFiles_git (r : Repository) (configuredBaseBranch : Option String) :
    collectChangedFiles r.git configuredBaseBranch =
      { gitAvailable := true
        files := sortedSet Manifest.codeUnitOrder
          (listDirty r.git ++ listCommitted r.git (r.baseBranch configuredBaseBranch))
        dirtyFiles := sortedSet Manifest.codeUnitOrder (listDirty r.git)
        committedFiles := sortedSet Manifest.codeUnitOrder
          (listCommitted r.git (r.baseBranch configuredBaseBranch)) } := by
  have inside : runGit r.git insideArgs = some "true" := by
    have trimmed : Text.trim "true\n" = "true" := by decide
    rw [runGit, Repository.git, if_pos rfl, Option.map_some, trimmed]
  rw [collectChangedFiles, inside, if_neg (not_not_intro rfl)]
  rfl

/-- A file is listed when a line is read as it. -/
theorem mem_changedFiles {platform : Platform} {task : TaskCompletionEvidenceTask} :
    path ∈ (collectTaskCompletionChangedFiles platform task r.git configuredBaseBranch).changedFiles ↔
      ((∃ entry ∈ r.entries, readEntry entry = path) ∨
        ∃ changes ∈ r.committed configuredBaseBranch, ∃ name ∈ seenNames changes,
          readName name = path) ∧ path ≠ "" := by
  rw [collectTaskCompletionChangedFiles, collectChangedFiles_git]
  dsimp only
  rw [mem_sortedSet, List.mem_append, mem_listDirty, mem_listCommitted, or_and_right]

end Listed

/-! ### How a path is spelled -/

/-- The path is not quoted, and only the arrow of the rename stands before it. -/
def ReadAsItIs (entry : StatusEntry) : Prop :=
  quotePath true entry.path = entry.path ∧ entry.OneArrow

/-- The name is not quoted, and no blank was taken off it. -/
def LeftAsItIs (name : String × List Char) : Prop := name.2 = name.1.toList

theorem normalizeRelativePath_plain {path : String} (repository : RepositoryPath path)
    {quoteBlanks : Bool} (plain : quotePath quoteBlanks path = path) :
    normalizeRelativePath path = path := by
  have noBackslash : '\\' ∉ path.toList := by
    intro inside
    exact absurd ((quotePath_eq_self_iff.mp plain).1 _ inside) (by decide)
  rw [normalizeRelativePath, forwardSlashes_of_no_backslash noBackslash,
    stripDotSlash_of_repositoryPath repository, stripSlashes_of_repositoryPath repository]

theorem readEntry_of_readAsItIs {entry : StatusEntry} (asItIs : ReadAsItIs entry) :
    readEntry entry = entry.path := by
  rw [readEntry, StatusEntry.readText_of_oneArrow asItIs.2, String.ofList_toList, asItIs.1,
    normalizeRelativePath_plain entry.repository asItIs.1]

/-- What is left of a name is that of a change. -/
theorem exists_change {changes : List DiffEntry} {name : String × List Char}
    (seen : name ∈ seenNames changes) :
    ∃ entry ∈ changes, entry.path = name.1 ∧ name.2 <:+: (quotePath false name.1).toList ∧
      (Visible (quotePath false name.1).toList → name.2 = (quotePath false name.1).toList) := by
  obtain ⟨path, text⟩ := name
  obtain ⟨line, isLine, part, whole⟩ := mem_trimLines seen
  obtain ⟨entry, inside, same, rfl⟩ := mem_nameLines.mp isLine
  exact ⟨entry, inside, same, part, whole⟩

theorem visible_of_quoted {path : String} {body : List Char}
    (quoted : (quotePath false path).toList = ('"' :: body) ++ ['"']) :
    Visible (quotePath false path).toList := by
  have quote : Text.isSpace '"' = false := by decide
  rw [quoted]
  refine ⟨by simp, ?_, ?_⟩
  · rw [List.cons_append, List.dropWhile_cons_of_neg (by rw [quote]; exact Bool.false_ne_true)]
  · rw [List.reverse_append, List.reverse_singleton, List.singleton_append,
      List.dropWhile_cons_of_neg (by rw [quote]; exact Bool.false_ne_true)]

theorem readName_of_leftAsItIs {changes : List DiffEntry} {name : String × List Char}
    (seen : name ∈ seenNames changes) (asItIs : LeftAsItIs name) : readName name = name.1 := by
  obtain ⟨entry, -, same, -, whole⟩ := exists_change seen
  have plain : quotePath false name.1 = name.1 := by
    rcases plain_or_quoted false name.1 with plain | ⟨body, quoted⟩
    · exact plain
    · have text := whole (visible_of_quoted quoted)
      rw [asItIs] at text
      exact String.toList_injective text.symm
  have repository : RepositoryPath name.1 := same ▸ entry.repository
  rw [readName, asItIs, String.ofList_toList, normalizeRelativePath_plain repository plain]

theorem count_dropWhile_slash (cs : List Char) :
    (cs.dropWhile (· == '/')).count '"' = cs.count '"' := by
  induction cs with
  | nil => rfl
  | cons c rest ih =>
    by_cases slash : c = '/'
    · subst slash
      rw [List.dropWhile_cons_of_pos rfl, ih, List.count_cons_of_ne (by decide)]
    · rw [List.dropWhile_cons_of_neg (by simpa using slash)]

theorem count_forwardSlashes (path : String) :
    (Text.forwardSlashes path).toList.count '"' = path.toList.count '"' := by
  rw [Text.forwardSlashes, String.toList_ofList]
  induction path.toList with
  | nil => rfl
  | cons c rest ih =>
    rw [List.map_cons, List.count_cons, List.count_cons, ih]
    by_cases backslash : c = '\\'
    · subst backslash
      rfl
    · rw [if_neg backslash]

theorem count_stripDotSlash (path : String) :
    (Text.stripDotSlash path).toList.count '"' = path.toList.count '"' := by
  rw [Text.stripDotSlash]
  split
  · rename_i rest starts
    rw [String.toList_ofList, count_dropWhile_slash, starts, List.count_cons_of_ne (by decide),
      List.count_cons_of_ne (by decide)]
  · rfl

/-- Normalizing keeps the quotes of a path. -/
theorem count_normalizeRelativePath (text : List Char) :
    (normalizeRelativePath (String.ofList text)).toList.count '"' = text.count '"' := by
  rw [normalizeRelativePath, stripSlashes, String.toList_ofList, count_dropWhile_slash,
    count_stripDotSlash, count_forwardSlashes, String.toList_ofList]

/-! ### When no touched file escapes -/

section Complete

variable (platform : Platform) (r : Repository) (configuredBaseBranch : Option String)

/-- The changed files are those that were touched, under one spelling each, and an audit that
passes has touched its report only. -/
structure ChangeEvidenceComplete : Prop where
  listed : ∀ task path, r.Touches configuredBaseBranch path →
    path ∈ (collectTaskCompletionChangedFiles platform task r.git
      configuredBaseBranch).changedFiles
  audited : ∀ task others report, task.isAudit = true → declaredReport task = some report →
    evaluateTaskCompletionEvidence platform task r.git configuredBaseBranch others = [] →
      ∀ path, r.Touches configuredBaseBranch path →
        isMeaningful platform task path = false ∨ isSameRepositoryPath platform path report = true
  oneSpelling : ∀ entry ∈ r.entries, ∀ changes ∈ r.committed configuredBaseBranch,
    ∀ name ∈ seenNames changes, name.1 = entry.path → readEntry entry = readName name

/-- The path has a line of its own in which git writes it as it is: a status line in which no other
arrow comes first, or a name from which trimming takes nothing. -/
inductive Spelled (path : String) : Prop where
  | entry (entry : StatusEntry) (listed : entry ∈ r.entries) (same : entry.path = path)
      (asItIs : ReadAsItIs entry)
  | name (changes : List DiffEntry) (command : changes ∈ r.committed configuredBaseBranch)
      (entry : DiffEntry) (listed : entry ∈ changes) (same : entry.path = path)
      (plain : quotePath false path = path) (visible : Visible path.toList)

/-- Every touched path is spelled, and what is both dirty and committed is written alike. -/
structure WellSpelled : Prop where
  spelled : ∀ path, r.Touches configuredBaseBranch path → Spelled r configuredBaseBranch path
  alike : ∀ entry ∈ r.entries, ∀ changes ∈ r.committed configuredBaseBranch,
    ∀ name ∈ seenNames changes, name.1 = entry.path →
      entry.OneArrow ∧ quotePath true entry.path = quotePath false entry.path

/-- No touched path has a quote in it, and no committed one a blank at its ends, so that no path is
what is left of the line of another one. -/
structure NoLookalikes : Prop where
  noQuote : ∀ path, r.Touches configuredBaseBranch path → '"' ∉ path.toList
  visible : ∀ changes ∈ r.committed configuredBaseBranch, ∀ entry ∈ changes,
    Visible entry.path.toList

variable {platform r configuredBaseBranch} {path : String}

theorem repositoryPath_of_touches (touched : r.Touches configuredBaseBranch path) :
    RepositoryPath path := by
  cases touched with
  | dirty entry listed touched =>
    rcases touched with rfl | isOld
    · exact entry.repository
    · exact entry.oldRepository path isOld
  | committed changes command entry listed touched =>
    rcases touched with rfl | isOld
    · exact entry.repository
    · exact entry.oldRepository path isOld

theorem mem_changedFiles_of_spelled {task : TaskCompletionEvidenceTask} (some_ : path ≠ "")
    (spelled : Spelled r configuredBaseBranch path) :
    path ∈ (collectTaskCompletionChangedFiles platform task r.git
      configuredBaseBranch).changedFiles := by
  rw [mem_changedFiles]
  refine ⟨?_, some_⟩
  cases spelled with
  | entry entry listed same asItIs =>
    exact .inl ⟨entry, listed, (readEntry_of_readAsItIs asItIs).trans same⟩
  | name changes command entry listed same plain visible =>
    have line : (path, path.toList) ∈ nameLines changes :=
      mem_nameLines.mpr ⟨entry, listed, same, by rw [plain]⟩
    have seen := mem_trimLines_of_visible line visible
    exact .inr ⟨changes, command, _, seen, readName_of_leftAsItIs seen rfl⟩

theorem quote_of_misread {entry : StatusEntry} (misread : ¬ ReadAsItIs entry) :
    '"' ∈ (readEntry entry).toList := by
  have quotes : 0 < entry.readText.count '"' := by
    by_cases oneArrow : entry.OneArrow
    · rw [StatusEntry.readText_of_oneArrow oneArrow]
      rcases plain_or_quoted true entry.path with plain | ⟨body, quoted⟩
      · exact absurd ⟨plain, oneArrow⟩ misread
      · rw [quoted, List.cons_append, List.count_cons_self]
        omega
    · exact (StatusEntry.count_readText oneArrow).1
  rwa [← count_normalizeRelativePath, List.count_pos_iff] at quotes

theorem readName_eq_or_quote {changes : List DiffEntry} {name : String × List Char}
    (ends : ∀ entry ∈ changes, Visible entry.path.toList) (seen : name ∈ seenNames changes) :
    (readName name = name.1 ∧ quotePath false name.1 = name.1) ∨ '"' ∈ (readName name).toList := by
  obtain ⟨entry, inside, same, -, whole⟩ := exists_change seen
  rcases plain_or_quoted false name.1 with plain | ⟨body, quoted⟩
  · have visible := ends entry inside
    rw [same] at visible
    have kept := whole (by rwa [plain])
    rw [plain] at kept
    exact .inl ⟨readName_of_leftAsItIs seen kept, plain⟩
  · right
    have kept := whole (visible_of_quoted quoted)
    have quotes : 0 < name.2.count '"' := by
      rw [kept, quoted, List.cons_append, List.count_cons_self]
      omega
    rwa [← count_normalizeRelativePath, List.count_pos_iff] at quotes

theorem spelled_of_mem_changedFiles {task : TaskCompletionEvidenceTask}
    (distinct : NoLookalikes r configuredBaseBranch) (touched : r.Touches configuredBaseBranch path)
    (listed : path ∈ (collectTaskCompletionChangedFiles platform task r.git
      configuredBaseBranch).changedFiles) : Spelled r configuredBaseBranch path := by
  have noQuote := distinct.noQuote path touched
  rcases (mem_changedFiles.mp listed).1 with ⟨entry, inside, read⟩ | ⟨changes, command, name, seen, read⟩
  · by_cases asItIs : ReadAsItIs entry
    · exact .entry entry inside ((readEntry_of_readAsItIs asItIs).symm.trans read) asItIs
    · have quote := quote_of_misread asItIs
      rw [read] at quote
      exact absurd quote noQuote
  · obtain ⟨entry, inside, same, -, -⟩ := exists_change seen
    rcases readName_eq_or_quote (distinct.visible changes command) seen with ⟨own, plain⟩ | quote
    · have isPath : name.1 = path := own.symm.trans read
      rw [isPath] at same plain
      have visible := distinct.visible changes command entry inside
      rw [same] at visible
      exact .name changes command entry inside same plain visible
    · rw [read] at quote
      exact absurd quote noQuote

/-- An audit that passes has no other meaningful file. -/
theorem sameReport_of_passed {task : TaskCompletionEvidenceTask} {others : OtherChecks}
    {report : String} (audit : task.isAudit = true) (declared : declaredReport task = some report)
    (passed : evaluateTaskCompletionEvidence platform task r.git configuredBaseBranch others = [])
    (listed : path ∈ (collectTaskCompletionChangedFiles platform task r.git
      configuredBaseBranch).changedFiles) :
    isMeaningful platform task path = false ∨ isSameRepositoryPath platform path report = true := by
  rw [or_iff_not_imp_left, Bool.not_eq_false]
  intro meaningful
  by_contra other
  have counted : path ∈ (collectTaskCompletionChangedFiles platform task r.git
      configuredBaseBranch).meaningfulChangedFiles := List.mem_filter.mpr ⟨listed, meaningful⟩
  have risky : isRiskyTask task = true := by rw [isRiskyTask, audit, Bool.true_or]
  have unexpected : path ∈ unexpectedNonReportChangedFiles platform task
      (collectTaskCompletionChangedFiles platform task r.git
        configuredBaseBranch).meaningfulChangedFiles := by
    rw [unexpectedNonReportChangedFiles, declared]
    dsimp only
    rw [if_pos risky, List.mem_filter]
    exact ⟨counted, by simpa using other⟩
  simp only [evaluateTaskCompletionEvidence, List.append_eq_nil_iff] at passed
  have none_ := passed.1.1.2
  split at none_
  · rename_i isEmpty
    rw [List.isEmpty_iff.mp isEmpty] at unexpected
    cases unexpected
  · cases none_

theorem special_of_quoted {body : List Char}
    (quoted : (quotePath false path).toList = ('"' :: body) ++ ['"']) :
    path.toList.any isSpecial = true := by
  by_contra usual
  have plain : quotePath false path = path := by
    rw [quotePath_eq_self_iff]
    exact ⟨by simpa using usual, fun blanks => absurd blanks Bool.false_ne_true⟩
  rw [plain] at quoted
  refine usual (List.any_eq_true.mpr ⟨'"', ?_, by decide⟩)
  rw [quoted]
  exact List.mem_cons_self

theorem quotePath_of_special (special : path.toList.any isSpecial = true) :
    quotePath true path = quotePath false path := by
  rw [quotePath, quotePath, special]
  rfl

theorem count_of_plain {quoteBlanks : Bool} (plain : quotePath quoteBlanks path = path) :
    path.toList.count '"' = 0 := by
  rw [List.count_eq_zero]
  exact fun inside => absurd ((quotePath_eq_self_iff.mp plain).1 _ inside) (by decide)

theorem visible_of_plain (some_ : path ≠ "") (plain : quotePath true path = path) :
    Visible path.toList := by
  obtain ⟨usual, noBlank⟩ := quotePath_eq_self_iff.mp plain
  have chars : ∀ c ∈ path.toList, Text.isSpace c = false := by
    intro c inside
    refine isSpace_of_printed (printed_of_not_special (usual c inside)) ?_
    rintro rfl
    exact noBlank rfl inside
  have kept : ∀ cs : List Char, (∀ c ∈ cs, Text.isSpace c = false) →
      cs.dropWhile Text.isSpace = cs := by
    intro cs clear
    cases cs with
    | nil => rfl
    | cons c rest =>
      exact List.dropWhile_cons_of_neg (by rw [clear c List.mem_cons_self]; exact Bool.false_ne_true)
  exact ⟨fun nothing => some_ (String.toList_eq_nil_iff.mp nothing), kept _ chars,
    kept _ fun c inside => chars c (List.mem_reverse.mp inside)⟩

/-- The two spellings of a file agree exactly when git writes it alike. -/
theorem readEntry_eq_readName_iff {entry : StatusEntry} {changes : List DiffEntry}
    {name : String × List Char} (seen : name ∈ seenNames changes) (same : name.1 = entry.path) :
    readEntry entry = readName name ↔
      entry.OneArrow ∧ quotePath true entry.path = quotePath false entry.path := by
  obtain ⟨-, -, -, part, whole⟩ := exists_change seen
  rw [same] at part whole
  constructor
  · intro agree
    have counts : entry.readText.count '"' = name.2.count '"' := by
      rw [← count_normalizeRelativePath, ← count_normalizeRelativePath name.2]
      exact congrArg (fun text => text.toList.count '"') agree
    rcases plain_or_quoted false entry.path with plain | ⟨body, quoted⟩
    · -- The name has no quote, so that the status line has none either.
      have fewer := part.sublist.count_le '"'
      rw [plain, count_of_plain plain] at fewer
      have oneArrow : entry.OneArrow := by
        by_contra otherArrow
        have quotes := (StatusEntry.count_readText otherArrow).1
        omega
      refine ⟨oneArrow, ?_⟩
      rw [StatusEntry.readText_of_oneArrow oneArrow] at counts
      rcases plain_or_quoted true entry.path with plain' | ⟨body, quoted⟩
      · rw [plain, plain']
      · rw [quoted, List.cons_append, List.count_cons_self] at counts
        omega
    · have alike := quotePath_of_special (special_of_quoted quoted)
      refine ⟨?_, alike⟩
      by_contra otherArrow
      refine (StatusEntry.count_readText otherArrow).2 ?_
      rw [counts, whole (visible_of_quoted quoted), alike]
  · rintro ⟨oneArrow, alike⟩
    have visible : Visible (quotePath false entry.path).toList := by
      rcases plain_or_quoted false entry.path with plain | ⟨body, quoted⟩
      · rw [plain]
        exact visible_of_plain (ne_empty_of_repositoryPath entry.repository) (alike.trans plain)
      · exact visible_of_quoted quoted
    rw [readEntry, readName, StatusEntry.readText_of_oneArrow oneArrow, whole visible, alike]

/-- No touched file escapes the evidence when all are well spelled, and without lookalikes only
then. -/
theorem change_evidence_complete_iff (platform : Platform) (r : Repository)
    (configuredBaseBranch : Option String) :
    (WellSpelled r configuredBaseBranch → ChangeEvidenceComplete platform r configuredBaseBranch) ∧
      (NoLookalikes r configuredBaseBranch →
        (ChangeEvidenceComplete platform r configuredBaseBranch ↔
          WellSpelled r configuredBaseBranch)) := by
  have enough : WellSpelled r configuredBaseBranch →
      ChangeEvidenceComplete platform r configuredBaseBranch := by
    intro well
    have listed : ∀ task path, r.Touches configuredBaseBranch path →
        path ∈ (collectTaskCompletionChangedFiles platform task r.git
          configuredBaseBranch).changedFiles := by
      intro task path touched
      apply mem_changedFiles_of_spelled
      · exact ne_empty_of_repositoryPath (repositoryPath_of_touches touched)
      · exact well.spelled path touched
    refine ⟨listed, ?_, ?_⟩
    · intro task others report audit declared passed path touched
      exact sameReport_of_passed audit declared passed (listed task path touched)
    · intro entry inside changes command name seen same
      exact (readEntry_eq_readName_iff seen same).mpr
        (well.alike entry inside changes command name seen same)
  refine ⟨enough, fun distinct => ⟨fun complete => ⟨?_, ?_⟩, enough⟩⟩
  · intro path touched
    exact spelled_of_mem_changedFiles distinct touched
      (complete.listed ⟨none, none, none, none, false, false, false⟩ path touched)
  · intro entry listed changes command name seen same
    exact (readEntry_eq_readName_iff seen same).mp
      (complete.oneSpelling entry listed changes command name seen same)

theorem repositoryPath_source : RepositoryPath "src/a.ts" := by decide

/-- `R  src/a.ts -> audit/report.md`: a source file became the report. -/
def movedIntoReport : StatusEntry :=
  .moved "src/a.ts" "audit/report.md" (by decide) repositoryPath_source

/-- ` M "docs/a b.md"`. -/
def editedWithBlank : StatusEntry := .edited "docs/a b.md" (by decide)

/-- A working tree without commits of the task. -/
def dirtyOnly (entries : List StatusEntry) : Repository := ⟨entries, fun _ => none, fun _ => []⟩

/-- The source file that became the report is not listed, and a path with a blank is not listed
as it is spelled. -/
theorem lost_source_and_quoted_path :
    ¬ ChangeEvidenceComplete ⟨false, Text.toLowerCase⟩ (dirtyOnly [movedIntoReport]) none ∧
      ¬ ChangeEvidenceComplete ⟨false, Text.toLowerCase⟩ (dirtyOnly [editedWithBlank]) none := by
  have lost : ∀ (entry : StatusEntry) (path : String), readEntry entry ≠ path →
      (entry.path = path ∨ entry.oldPath = some path) →
        ¬ ChangeEvidenceComplete ⟨false, Text.toLowerCase⟩ (dirtyOnly [entry]) none := by
    intro entry path unread touched complete
    have listed := complete.listed ⟨none, none, none, none, false, false, false⟩ path
      (.dirty entry (List.mem_singleton_self entry) touched)
    rcases (mem_changedFiles.mp listed).1 with ⟨other, inside, read⟩ | ⟨changes, command, name, seen, -⟩
    · rw [List.mem_singleton.mp inside] at read
      exact unread read
    · obtain ⟨args, -, rfl⟩ := List.mem_map.mp command
      cases seen
  exact ⟨lost movedIntoReport "src/a.ts" (by decide) (.inr rfl),
    lost editedWithBlank "docs/a b.md" (by decide) (.inl rfl)⟩

end Complete

end AifHandoff.Shared.CompletionEvidence
