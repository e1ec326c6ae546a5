import AifHandoff.Lib.CaseFolding
import AifHandoff.Shared.ChangedFiles
import AifHandoff.Shared.PlanBoundaries

/-!
The git evidence of an operator-verified completion (`api/services/operatorVerifiedCompletion.ts`).

The operator declares the files of a commit. The commit has to change these files and no
others, and the working tree may not be dirty at a declared file or at a boundary of the
approved plan. All comparisons are made in lower case.
-/

namespace AifHandoff.Api.OperatorCompletion

open PathPattern Git Regex Shared.CompletionEvidence
open Shared.Manifest (codeUnitOrder)

/-! ### Reading git's output -/

def normalizeOperatorCompletionPath (path : String) : String :=
  Text.trim (normalizeRelativePath path)

/-- The files of an output with text. -/
def filesOfLines (output : String) : List String :=
  ((Text.splitLines output).map normalizeOperatorCompletionPath).filter (!·.isEmpty)

def splitGitFiles (output : Option String) : List String :=
  match output.filter (!·.isEmpty) with
  | some output => filesOfLines output
  | none => []

/-- The path of a status line. -/
def statusPath (line : String) : String :=
  let path := trimStart (Text.dropChars line 2)
  match afterArrow path.toList with
  | some renamed => normalizeOperatorCompletionPath (String.ofList renamed)
  | none => normalizeOperatorCompletionPath path

/-- The files of a status output with text. -/
def filesOfStatusLines (output : String) : List String :=
  ((((Text.splitLines output).map Text.trimEnd).filter (!·.isEmpty)).map statusPath).filter
    (!·.isEmpty)

def parseStatusFiles (output : Option String) : List String :=
  match output.filter (!·.isEmpty) with
  | some output => filesOfStatusLines output
  | none => []

section Compared

variable (casing : Text.LowerCasing)

/-- A path as it is compared. -/
def comparedPath (path : String) : String :=
  casing.toLowerCase (normalizeOperatorCompletionPath path)

def normalizeSet (paths : List String) : List String := (paths.map (comparedPath casing)).eraseDups

def pathMatchesRelevantBoundary (path boundary : String) : Bool :=
  let normalizedPath := comparedPath casing path
  let normalizedBoundary := comparedPath casing boundary
  if normalizedBoundary.isEmpty then false
  else if Text.includes normalizedBoundary "*" then
    test (globRegex (glob normalizedBoundary.toList)) normalizedPath
  else normalizedPath == normalizedBoundary ||
    Text.startsWith normalizedPath (normalizedBoundary ++ "/")

end Compared

def revisionArgs (commitSha : String) : List String :=
  ["rev-parse", "--verify", commitSha ++ "^\x7bcommit\x7d"]

def commitFilesArgs (commitSha : String) : List String :=
  ["diff-tree", "--root", "--no-commit-id", "--name-only", "-r", commitSha]

/-! ### The validation -/

/-- What the validation reads of the evidence. A list without files is not evidence. -/
structure OperatorCompletionEvidence where
  commitSha : String
  changedFiles : List String
  declares : changedFiles ≠ []

structure OperatorGitValidationEvidence where
  trustedCommittedFiles : List String
  dirtyUnrelatedFiles : List String

def rejectedBecause (reason : String) : String :=
  "operator_verified_completion rejected: reason=" ++ reason

section Validation

variable (casing : Text.LowerCasing) (localeCompare : Collation String)

def collectSubmittedCommitFiles (git : GitCommands) (commitSha : String) : List String :=
  sortedSet localeCompare (splitGitFiles (runGit git (commitFilesArgs commitSha)))

def validateGitEvidence (git : GitCommands) (evidence : OperatorCompletionEvidence)
    (approvedDirtyFileBoundaries : List String) :
    Except String OperatorGitValidationEvidence :=
  match (runGit git (revisionArgs evidence.commitSha)).filter (!·.isEmpty) with
  | none => .error (rejectedBecause "commit_not_found")
  | some _ =>
    let trustedCommittedFiles := collectSubmittedCommitFiles localeCompare git evidence.commitSha
    if trustedCommittedFiles.isEmpty then
      .error (rejectedBecause "commit_has_no_changed_files")
    else
      let trustedSet := normalizeSet casing trustedCommittedFiles
      let missingFiles := evidence.changedFiles.filter fun file =>
        !trustedSet.contains (casing.toLowerCase file)
      if !missingFiles.isEmpty then
        .error (rejectedBecause ("changed_file_not_in_commit_diff files=" ++
          Text.join "," missingFiles))
      else
        let declaredSet := normalizeSet casing evidence.changedFiles
        let dirtyRelevantBoundaries := evidence.changedFiles ++ approvedDirtyFileBoundaries
        let undeclaredCommitFiles := trustedCommittedFiles.filter fun file =>
          !declaredSet.contains (casing.toLowerCase file)
        if !undeclaredCommitFiles.isEmpty then
          .error (rejectedBecause ("undeclared_commit_files files=" ++
            Text.join "," undeclaredCommitFiles))
        else
          let dirtySet := normalizeSet casing (parseStatusFiles (runGit git statusArgs))
          let relevant := fun file =>
            dirtyRelevantBoundaries.any (pathMatchesRelevantBoundary casing file)
          let dirtyRelevant := (dirtySet.filter relevant).mergeSort localeCompare.le
          if !dirtyRelevant.isEmpty then
            .error (rejectedBecause ("dirty_relevant_worktree files=" ++
              Text.join "," dirtyRelevant))
          else .ok {
            trustedCommittedFiles
            dirtyUnrelatedFiles :=
              (dirtySet.filter (!relevant ·)).mergeSort localeCompare.le }

def accepts (git : GitCommands) (evidence : OperatorCompletionEvidence)
    (approvedDirtyFileBoundaries : List String) : Bool :=
  (validateGitEvidence casing localeCompare git evidence approvedDirtyFileBoundaries).isOk

end Validation

/-! ### What is read -/

/-- The path that is read for a status entry. -/
def readStatus (entry : StatusEntry) : String := Text.trim (readEntry entry)

/-- The path that is read for what is left of a name. -/
def readCommitted (name : String × List Char) : String := Text.trim (readName name)

theorem statusPath_eq (line : String) : statusPath line = Text.trim (statusFile line) := by
  rw [statusPath, statusFile]
  cases afterArrow (trimStart (Text.dropChars line 2)).toList with
  | none => rfl
  | some renamed => rfl

theorem parseStatusFiles_some (output : String) :
    parseStatusFiles (some output) = filesOfStatusLines output := by
  rw [parseStatusFiles]
  cases isEmpty : output.isEmpty with
  | false => simp only [Option.filter_some, isEmpty, Bool.not_false, if_true]
  | true =>
    rw [String.isEmpty_iff.mp isEmpty]
    decide

theorem splitGitFiles_some (output : String) :
    splitGitFiles (some output) = filesOfLines output := by
  rw [splitGitFiles]
  cases isEmpty : output.isEmpty with
  | false => simp only [Option.filter_some, isEmpty, Bool.not_false, if_true]
  | true =>
    rw [String.isEmpty_iff.mp isEmpty]
    decide

theorem parseStatusFiles_printed (entries : List StatusEntry) :
    parseStatusFiles (some (Text.trim (statusOutput entries))) =
      (entries.map readStatus).filter (!·.isEmpty) := by
  cases entries with
  | nil => decide
  | cons first rest =>
    have some_ : first :: rest ≠ [] := List.cons_ne_nil first rest
    have lines := splitLines_of_printed (split_trim_statusOutput some_) printed_trimmedLines
    have trimmed : ∀ line ∈ (trimmedLines (first :: rest)).map String.ofList,
        Text.trimEnd line = id line := by
      intro line inside
      obtain ⟨chars, isLine, rfl⟩ := List.mem_map.mp inside
      exact (trimEnd_of_ends (ends_trimmedLines chars isLine)).1
    have filled : ∀ line ∈ (trimmedLines (first :: rest)).map String.ofList, !line.isEmpty := by
      intro line inside
      obtain ⟨chars, isLine, rfl⟩ := List.mem_map.mp inside
      rw [(trimEnd_of_ends (ends_trimmedLines chars isLine)).2]
      rfl
    have read : ((trimmedLines (first :: rest)).map String.ofList).map statusPath =
        (first :: rest).map readStatus := by
      have files := statusFile_trimmedLines (first :: rest)
      rw [List.map_congr_left fun line _ => statusPath_eq line,
        ← Function.comp_def Text.trim statusFile, ← List.map_map, files, List.map_map]
      rfl
    rw [parseStatusFiles_some, filesOfStatusLines, lines,
      List.map_congr_left trimmed, List.map_id, List.filter_eq_self.mpr filled, read]

theorem splitGitFiles_printed (changes : List DiffEntry) :
    splitGitFiles (some (Text.trim (nameOutput changes))) =
      ((seenNames changes).map readCommitted).filter (!·.isEmpty) := by
  by_cases none_ : seenNames changes = []
  · rw [trim_nameOutput_eq_empty none_, none_]
    decide
  · have split := split_trim_nameOutput none_
    have printed : ∀ line ∈ (seenNames changes).map Prod.snd, ∀ c ∈ line, Printed c := by
      intro line isLine
      obtain ⟨⟨path, text⟩, seen, rfl⟩ := List.mem_map.mp isLine
      exact printed_seenNames seen
    rw [← Function.comp_def String.ofList Prod.snd, ← List.map_map] at split
    rw [splitGitFiles_some, filesOfLines, splitLines_of_printed split printed, List.map_map,
      List.map_map]
    rfl

/-! ### When the evidence is accepted -/

section Accepted

variable (casing : Text.LowerCasing)

theorem isOk_guard {α : Type} {listed : List String} {reason : String} {later : Except String α} :
    (if !listed.isEmpty then .error reason else later : Except String α).isOk = true ↔
      listed = [] ∧ later.isOk = true := by
  cases listed with
  | nil => simp
  | cons first rest => simp [Except.isOk, Except.toBool]

variable {casing} in
theorem mem_normalizeSet {paths : List String} {text : String} :
    text ∈ normalizeSet casing paths ↔ ∃ path ∈ paths, comparedPath casing path = text := by
  rw [normalizeSet, List.mem_eraseDups, List.mem_map]

variable {casing} in
theorem filter_contains_eq_nil {paths compared : List String} :
    (paths.filter fun file =>
        !(normalizeSet casing compared).contains (casing.toLowerCase file)) = [] ↔
      ∀ file ∈ paths, ∃ path ∈ compared, comparedPath casing path = casing.toLowerCase file := by
  simp [List.filter_eq_nil_iff, mem_normalizeSet]

/-- What the validation reads of git's answers. -/
structure Reading where
  commitFound : Bool
  committed : List String
  dirty : List String

def reading (git : GitCommands) (commitSha : String) : Reading where
  commitFound := ((runGit git (revisionArgs commitSha)).filter (!·.isEmpty)).isSome
  committed := splitGitFiles (runGit git (commitFilesArgs commitSha))
  dirty := parseStatusFiles (runGit git statusArgs)

/-- The reading passes every check. -/
structure Passes (read : Reading) (declared boundaries : List String) : Prop where
  found : read.commitFound = true
  changes : read.committed ≠ []
  inCommit : ∀ file ∈ declared, ∃ path ∈ read.committed,
    comparedPath casing path = casing.toLowerCase file
  allDeclared : ∀ path ∈ read.committed, ∃ file ∈ declared,
    comparedPath casing file = casing.toLowerCase path
  clean : ∀ path ∈ read.dirty, ∀ boundary ∈ boundaries,
    pathMatchesRelevantBoundary casing (comparedPath casing path) boundary = false

/-- The evidence is accepted when what is read passes. -/
theorem accepts_iff (localeCompare : Collation String) (git : GitCommands)
    (evidence : OperatorCompletionEvidence) (approved : List String) :
    accepts casing localeCompare git evidence approved = true ↔
      Passes casing (reading git evidence.commitSha) evidence.changedFiles
        (evidence.changedFiles ++ approved) := by
  have committed : ∀ path, path ∈ collectSubmittedCommitFiles localeCompare git
      evidence.commitSha ↔ path ∈ (reading git evidence.commitSha).committed :=
    fun path => mem_sortedSet
  have changes : collectSubmittedCommitFiles localeCompare git evidence.commitSha = [] ↔
      (reading git evidence.commitSha).committed = [] := by
    simp only [List.eq_nil_iff_forall_not_mem, committed]
  have clean : (((normalizeSet casing (reading git evidence.commitSha).dirty).filter fun file =>
      (evidence.changedFiles ++ approved).any (pathMatchesRelevantBoundary casing file)).mergeSort
        localeCompare.le) = [] ↔ ∀ path ∈ (reading git evidence.commitSha).dirty,
          ∀ boundary ∈ evidence.changedFiles ++ approved,
            pathMatchesRelevantBoundary casing (comparedPath casing path) boundary = false := by
    rw [← List.length_eq_zero_iff, List.length_mergeSort, List.length_eq_zero_iff,
      List.filter_eq_nil_iff]
    simp only [mem_normalizeSet, List.any_eq_true, not_exists, not_and, Bool.not_eq_true,
      forall_exists_index, and_imp, forall_apply_eq_imp_iff₂]
  rw [accepts, validateGitEvidence]
  cases found : (runGit git (revisionArgs evidence.commitSha)).filter (!·.isEmpty) with
  | none =>
    refine iff_of_false Bool.false_ne_true fun passes => ?_
    have isFound := passes.found
    rw [reading] at isFound
    dsimp only at isFound
    rw [found] at isFound
    cases isFound
  | some commit =>
    dsimp only
    have isFound : (reading git evidence.commitSha).commitFound = true := by
      rw [reading]
      dsimp only
      rw [found]
      rfl
    cases isEmpty :
        (collectSubmittedCommitFiles localeCompare git evidence.commitSha).isEmpty with
    | true =>
      rw [if_pos rfl]
      refine iff_of_false Bool.false_ne_true fun passes => ?_
      exact passes.changes (changes.mp (List.isEmpty_iff.mp isEmpty))
    | false =>
      rw [if_neg Bool.false_ne_true, isOk_guard, isOk_guard, isOk_guard,
        filter_contains_eq_nil, filter_contains_eq_nil]
      simp only [committed]
      constructor
      · rintro ⟨inCommit, allDeclared, noneDirty, -⟩
        refine ⟨isFound, fun nothing => ?_, inCommit, allDeclared, clean.mp noneDirty⟩
        rw [← changes, ← List.isEmpty_iff, isEmpty] at nothing
        cases nothing
      · intro passes
        exact ⟨passes.inCommit, passes.allDeclared, clean.mpr passes.clean, rfl⟩

end Accepted

/-! ### Plainly printed paths -/

section Printed

variable (casing : Text.LowerCasing)

theorem normalizeOperatorCompletionPath_toLowerCase (path : String) :
    normalizeOperatorCompletionPath (casing.toLowerCase path) =
      casing.toLowerCase (normalizeOperatorCompletionPath path) := by
  rw [normalizeOperatorCompletionPath, normalizeOperatorCompletionPath, casing.trim,
    normalizeRelativePath, normalizeRelativePath, casing.stripSlashes,
    casing.stripDotSlash, casing.forwardSlashes]

theorem trim_of_visible {path : String} (visible : Visible path.toList) :
    Text.trim path = path := by
  rw [Text.trim, visible.2.1, visible.2.2, List.reverse_reverse, String.ofList_toList]

section Plain

variable {casing} {path : String} {quoteBlanks : Bool}

theorem normalizeOperatorCompletionPath_plain (repository : RepositoryPath path)
    (plain : quotePath quoteBlanks path = path) (visible : Visible path.toList) :
    normalizeOperatorCompletionPath path = path := by
  rw [normalizeOperatorCompletionPath, normalizeRelativePath_plain repository plain,
    trim_of_visible visible]

theorem comparedPath_plain (repository : RepositoryPath path)
    (plain : quotePath quoteBlanks path = path) (visible : Visible path.toList) :
    comparedPath casing path = casing.toLowerCase path ∧
      comparedPath casing (casing.toLowerCase path) = casing.toLowerCase path := by
  have normal := normalizeOperatorCompletionPath_plain repository plain visible
  refine ⟨by rw [comparedPath, normal], ?_⟩
  rw [comparedPath, normalizeOperatorCompletionPath_toLowerCase, normal,
    casing.twice]

end Plain

/-- Of a path that is its own normal form, a boundary is read as the completion gate reads it. -/
theorem pathMatchesRelevantBoundary_eq {casing : Text.LowerCasing} {path boundary : String}
    (repository : RepositoryPath path)
    (normal : comparedPath casing path = path) :
    pathMatchesRelevantBoundary casing path boundary =
      Shared.PlanBoundaries.pathMatchesApprovedBoundary path (comparedPath casing boundary) := by
  rw [pathMatchesRelevantBoundary, Shared.PlanBoundaries.pathMatchesApprovedBoundary, normal]
  cases isEmpty : (comparedPath casing boundary).isEmpty with
  | false => rw [if_neg Bool.false_ne_true]
  | true =>
    have noStar : Text.includes "" "*" = false := by decide
    have other : (path == "") = false :=
      beq_eq_false_iff_ne.mpr (ne_empty_of_repositoryPath repository)
    rw [if_pos rfl, String.isEmpty_iff.mp isEmpty, noStar, if_neg Bool.false_ne_true, other,
      Bool.false_or, String.empty_append, relative_of_repositoryPath repository]

/-! ### Clean commits -/

/-- The lists have the same files up to letter case. -/
structure SameUpToCase (declared committed : List String) : Prop where
  changed : ∀ file ∈ declared, ∃ path ∈ committed,
    casing.toLowerCase path = casing.toLowerCase file
  declared : ∀ path ∈ committed, ∃ file ∈ declared,
    casing.toLowerCase file = casing.toLowerCase path

/-- The name is not quoted, and no blank stands at its ends. -/
def PrintedAsItIs (change : DiffEntry) : Prop :=
  quotePath false change.path = change.path ∧ Visible change.path.toList

/-- The changes of the declared commit. -/
def commitChanges (r : Repository) (evidence : OperatorCompletionEvidence) : List DiffEntry :=
  r.diffs (commitFilesArgs evidence.commitSha)

/-- The revision is a commit. -/
def CommitFound (r : Repository) (evidence : OperatorCompletionEvidence) : Prop :=
  ∃ printed ∈ r.commitOf (evidence.commitSha ++ "^\x7bcommit\x7d"), Text.trim printed ≠ ""

end Printed

section Reading

variable {r : Repository} {evidence : OperatorCompletionEvidence}

theorem reading_git (r : Repository) (commitSha : String) :
    reading r.git commitSha =
      { commitFound := (((r.commitOf (commitSha ++ "^\x7bcommit\x7d")).map Text.trim).filter
          (!·.isEmpty)).isSome
        committed := ((seenNames (r.diffs (commitFilesArgs commitSha))).map readCommitted).filter
          (!·.isEmpty)
        dirty := (r.entries.map readStatus).filter (!·.isEmpty) } := by
  have status : runGit r.git statusArgs = some (Text.trim (statusOutput r.entries)) := by
    rw [runGit, Repository.git, if_neg (by decide), if_pos rfl, Option.map_some]
  have files : runGit r.git (commitFilesArgs commitSha) =
      some (Text.trim (nameOutput (r.diffs (commitFilesArgs commitSha)))) := by
    have other : ∀ args : List String, args.length ≠ 6 → commitFilesArgs commitSha ≠ args := by
      rintro args short rfl
      exact short rfl
    rw [runGit, Repository.git, if_neg (other _ (by decide)), if_neg (other _ (by decide)),
      if_neg (by rw [commitFilesArgs, List.head?_cons]; decide), Option.map_some]
  have revision : runGit r.git (revisionArgs commitSha) =
      (r.commitOf (commitSha ++ "^\x7bcommit\x7d")).map Text.trim := by
    have notInside : revisionArgs commitSha ≠ insideArgs := by
      intro same
      exact absurd (congrArg List.length same) (by simp [revisionArgs, insideArgs])
    have notStatus : revisionArgs commitSha ≠ statusArgs := by
      intro same
      exact absurd (congrArg List.head? same) (by rw [revisionArgs, List.head?_cons]; decide)
    rw [runGit, Repository.git, if_neg notInside, if_neg notStatus,
      if_pos (by rw [revisionArgs, List.head?_cons])]
    rfl
  rw [reading, status, files, revision, parseStatusFiles_printed, splitGitFiles_printed]

theorem commitFound_iff :
    (reading r.git evidence.commitSha).commitFound = true ↔ CommitFound r evidence := by
  rw [reading_git, CommitFound]
  cases r.commitOf (evidence.commitSha ++ "^\x7bcommit\x7d") with
  | none => simp
  | some printed => simp [Option.filter_some]

theorem mem_dirty {path : String} :
    path ∈ (reading r.git evidence.commitSha).dirty ↔
      (∃ entry ∈ r.entries, readStatus entry = path) ∧ path ≠ "" := by
  rw [reading_git, filter_isEmpty, List.mem_map]

theorem readStatus_of_readAsItIs {entry : StatusEntry} (asItIs : ReadAsItIs entry) :
    readStatus entry = entry.path := by
  have some_ := ne_empty_of_repositoryPath entry.repository
  rw [readStatus, readEntry_of_readAsItIs asItIs,
    trim_of_visible (visible_of_plain some_ asItIs.1)]

theorem mem_committed (plain : ∀ change ∈ commitChanges r evidence, PrintedAsItIs change)
    {path : String} : path ∈ (reading r.git evidence.commitSha).committed ↔
      path ∈ (commitChanges r evidence).map DiffEntry.path := by
  have read : ∀ name ∈ seenNames (commitChanges r evidence), readCommitted name = name.1 := by
    intro name seen
    obtain ⟨change, inside, same, -, whole⟩ := exists_change seen
    obtain ⟨unquoted, visible⟩ := plain change inside
    rw [← same, unquoted] at whole
    rw [readCommitted, readName, whole visible, String.ofList_toList, ← same,
      normalizeRelativePath_plain change.repository unquoted, trim_of_visible visible]
  rw [reading_git, filter_isEmpty, List.mem_map, List.mem_map]
  constructor
  · rintro ⟨⟨name, seen, rfl⟩, -⟩
    obtain ⟨change, inside, same, -⟩ := exists_change seen
    exact ⟨change, inside, same.trans (read name seen).symm⟩
  · rintro ⟨change, inside, rfl⟩
    obtain ⟨unquoted, visible⟩ := plain change inside
    have line : (change.path, change.path.toList) ∈ nameLines (commitChanges r evidence) :=
      mem_nameLines.mpr ⟨change, inside, rfl, by rw [unquoted]⟩
    have seen := mem_trimLines_of_visible line visible
    exact ⟨⟨_, seen, read _ seen⟩, ne_empty_of_repositoryPath change.repository⟩

end Reading

section Clean

variable (casing : Text.LowerCasing)

/-- A file or boundary names the path, up to letter case and to the slashes before it. -/
def NamesPath (boundary path : String) : Prop :=
  Shared.PlanBoundaries.Names (comparedPath casing boundary) (casing.toLowerCase path)

def PlainlyNamesPath (boundary path : String) : Prop :=
  Shared.PlanBoundaries.PlainlyNames (comparedPath casing boundary) (casing.toLowerCase path)

/-- What may not be dirty: the declared files and the approved boundaries. -/
def relevantBoundaries (evidence : OperatorCompletionEvidence) (approved : List String) :
    List String := evidence.changedFiles ++ approved

variable (localeCompare : Collation String) (r : Repository) (evidence : OperatorCompletionEvidence)
  (approved : List String)

/-- The evidence is accepted for a clean commit. -/
structure AcceptsCleanCommit : Prop where
  /-- The declared files are those of the commit. -/
  sameFiles : accepts casing localeCompare r.git evidence approved = true →
    SameUpToCase casing evidence.changedFiles ((commitChanges r evidence).map DiffEntry.path)
  /-- No entry that is printed as it is lies where the tree has to be clean. -/
  clean : accepts casing localeCompare r.git evidence approved = true →
    ∀ entry ∈ r.entries, ReadAsItIs entry → ∀ boundary ∈ relevantBoundaries evidence approved,
      ¬ PlainlyNamesPath casing boundary entry.path
  /-- The same files, and no side of an entry where the tree has to be clean, are enough. -/
  accepted : CommitFound r evidence →
    SameUpToCase casing evidence.changedFiles ((commitChanges r evidence).map DiffEntry.path) →
    (∀ entry ∈ r.entries, ReadAsItIs entry ∧ ∀ path, entry.path = path ∨ entry.oldPath = some path →
      ∀ boundary ∈ relevantBoundaries evidence approved, ¬ NamesPath casing boundary path) →
    accepts casing localeCompare r.git evidence approved = true

/-- The verdict depends on no order. -/
def AnyOrder : Prop :=
  ∀ (entries : List StatusEntry) (declared : OperatorCompletionEvidence) (boundaries : List String),
    entries.Perm r.entries → declared.commitSha = evidence.commitSha →
    declared.changedFiles.Perm evidence.changedFiles → boundaries.Perm approved →
      accepts casing localeCompare { r with entries }.git declared boundaries =
        accepts casing localeCompare r.git evidence approved

variable {casing r evidence approved}

theorem matches_readAsItIs {entry : StatusEntry} (asItIs : ReadAsItIs entry) (boundary : String) :
    pathMatchesRelevantBoundary casing (comparedPath casing entry.path) boundary =
      Shared.PlanBoundaries.pathMatchesApprovedBoundary (casing.toLowerCase entry.path)
        (comparedPath casing boundary) := by
  have visible := visible_of_plain (ne_empty_of_repositoryPath entry.repository) asItIs.1
  obtain ⟨once, twice⟩ := comparedPath_plain entry.repository asItIs.1 visible
  rw [once, pathMatchesRelevantBoundary_eq (casing.repositoryPath entry.repository) twice]

theorem comparedPath_change {change : DiffEntry} (plain : PrintedAsItIs change) :
    comparedPath casing change.path = casing.toLowerCase change.path :=
  (comparedPath_plain change.repository plain.1 plain.2).1

/-- A declared file that is a plainly printed one up to case is compared in lower case. -/
theorem comparedPath_of_lower {change : DiffEntry} {file : String} (plain : PrintedAsItIs change)
    (same : casing.toLowerCase change.path = casing.toLowerCase file) :
    comparedPath casing file = casing.toLowerCase file := by
  have normal := normalizeOperatorCompletionPath_plain change.repository plain.1 plain.2
  rw [comparedPath, ← normalizeOperatorCompletionPath_toLowerCase, ← same,
    normalizeOperatorCompletionPath_toLowerCase, normal]

/-- The checks of the files are those of the two lists. -/
theorem sameUpToCase_iff (plain : ∀ change ∈ commitChanges r evidence, PrintedAsItIs change) :
    ((∀ file ∈ evidence.changedFiles, ∃ path ∈ (reading r.git evidence.commitSha).committed,
        comparedPath casing path = casing.toLowerCase file) ∧
      ∀ path ∈ (reading r.git evidence.commitSha).committed, ∃ file ∈ evidence.changedFiles,
        comparedPath casing file = casing.toLowerCase path) ↔
      SameUpToCase casing evidence.changedFiles ((commitChanges r evidence).map DiffEntry.path) := by
  simp only [mem_committed plain]
  have lower : ∀ path ∈ (commitChanges r evidence).map DiffEntry.path,
      comparedPath casing path = casing.toLowerCase path := by
    intro path inside
    obtain ⟨change, among, rfl⟩ := List.mem_map.mp inside
    exact comparedPath_change (plain change among)
  have declared : ∀ path ∈ (commitChanges r evidence).map DiffEntry.path, ∀ file,
      casing.toLowerCase path = casing.toLowerCase file →
        comparedPath casing file = casing.toLowerCase file := by
    intro path inside file same
    obtain ⟨change, among, rfl⟩ := List.mem_map.mp inside
    exact comparedPath_of_lower (plain change among) same
  have changed : (∀ file ∈ evidence.changedFiles, ∃ path ∈ (commitChanges r evidence).map
      DiffEntry.path, comparedPath casing path = casing.toLowerCase file) ↔
      ∀ file ∈ evidence.changedFiles, ∃ path ∈ (commitChanges r evidence).map DiffEntry.path,
        casing.toLowerCase path = casing.toLowerCase file := by
    refine forall₂_congr fun file _ => exists_congr fun path => and_congr_right fun inside => ?_
    rw [lower path inside]
  rw [changed]
  constructor
  · rintro ⟨inCommit, allDeclared⟩
    refine ⟨inCommit, fun path inside => ?_⟩
    obtain ⟨file, among, same⟩ := allDeclared path inside
    obtain ⟨other, there, alike⟩ := inCommit file among
    exact ⟨file, among, by rw [← declared other there file alike, same]⟩
  · rintro ⟨inCommit, allDeclared⟩
    refine ⟨inCommit, fun path inside => ?_⟩
    obtain ⟨file, among, same⟩ := allDeclared path inside
    exact ⟨file, among, by rw [declared path inside file same.symm, same]⟩

theorem passes_congr {read read' : Reading}
    {declared declared' boundaries boundaries' : List String}
    (found : read.commitFound = read'.commitFound) (committed : read.committed = read'.committed)
    (dirty : ∀ path, path ∈ read.dirty ↔ path ∈ read'.dirty)
    (sameDeclared : ∀ file, file ∈ declared ↔ file ∈ declared')
    (sameBoundaries : ∀ boundary, boundary ∈ boundaries ↔ boundary ∈ boundaries') :
    Passes casing read declared boundaries ↔ Passes casing read' declared' boundaries' := by
  constructor
  · rintro ⟨isFound, changes, inCommit, allDeclared, clean⟩
    simp only [found, committed, dirty, sameDeclared, sameBoundaries] at *
    exact ⟨isFound, changes, inCommit, allDeclared, clean⟩
  · rintro ⟨isFound, changes, inCommit, allDeclared, clean⟩
    simp only [← found, ← committed, ← dirty, ← sameDeclared, ← sameBoundaries] at *
    exact ⟨isFound, changes, inCommit, allDeclared, clean⟩

variable (casing r evidence approved)

theorem accepts_anyOrder : AnyOrder casing localeCompare r evidence approved := by
  intro entries declared boundaries sameEntries sameCommit sameDeclared sameBoundaries
  rw [Bool.eq_iff_iff, accepts_iff, accepts_iff]
  refine passes_congr ?_ ?_ ?_ (fun file => sameDeclared.mem_iff) fun boundary => ?_
  · rw [reading_git, reading_git, sameCommit]
  · rw [reading_git, reading_git, sameCommit]
  · intro path
    rw [mem_dirty, mem_dirty]
    simp only [sameEntries.mem_iff]
  · rw [List.mem_append, List.mem_append, sameDeclared.mem_iff, sameBoundaries.mem_iff]

/-- Where the names of the commit are printed as they are, the evidence is accepted for a clean
commit; and whatever git prints, no order matters. -/
theorem accepts_clean_commit :
    ((∀ change ∈ commitChanges r evidence, PrintedAsItIs change) →
      AcceptsCleanCommit casing localeCompare r evidence approved) ∧
      AnyOrder casing localeCompare r evidence approved := by
  refine ⟨fun plain => ⟨?_, ?_, ?_⟩, accepts_anyOrder casing localeCompare r evidence approved⟩
  · intro accepted
    have passes := (accepts_iff _ _ _ _ _).mp accepted
    exact (sameUpToCase_iff plain).mp ⟨passes.inCommit, passes.allDeclared⟩
  · intro accepted entry listed asItIs boundary among names
    have passes := (accepts_iff _ _ _ _ _).mp accepted
    have dirty : entry.path ∈ (reading r.git evidence.commitSha).dirty :=
      mem_dirty.mpr ⟨⟨entry, listed, readStatus_of_readAsItIs asItIs⟩,
        ne_empty_of_repositoryPath entry.repository⟩
    have untouched := passes.clean entry.path dirty boundary among
    rw [matches_readAsItIs asItIs,
      Shared.PlanBoundaries.pathMatchesApprovedBoundary_of_plainlyNames names] at untouched
    cases untouched
  · intro found same clean
    obtain ⟨inCommit, allDeclared⟩ := (sameUpToCase_iff plain).mpr same
    refine (accepts_iff _ _ _ _ _).mpr
      ⟨commitFound_iff.mpr found, fun nothing => ?_, inCommit, allDeclared, ?_⟩
    · obtain ⟨file, among⟩ := List.exists_mem_of_ne_nil _ evidence.declares
      obtain ⟨path, inside, -⟩ := inCommit file among
      rw [nothing] at inside
      cases inside
    · intro path dirty boundary among
      obtain ⟨⟨entry, listed, rfl⟩, -⟩ := mem_dirty.mp dirty
      obtain ⟨asItIs, untouched⟩ := clean entry listed
      rw [readStatus_of_readAsItIs asItIs, matches_readAsItIs asItIs, Bool.eq_false_iff, ne_eq]
      intro matched
      exact untouched entry.path (.inl rfl) boundary among
        (Shared.PlanBoundaries.names_of_pathMatchesApprovedBoundary
          (casing.repositoryPath entry.repository) matched)

end Clean

/-! ### Files that escape -/

/-- A change of one file. -/
def changeOf (path : String) (repository : RepositoryPath path) : DiffEntry where
  path
  oldPath := none
  repository
  oldRepository := noOldPath

/-- A commit with one change. -/
def oneChange (change : DiffEntry) (entries : List StatusEntry) : Repository where
  entries
  commitOf _ := some "4f0c9a1\n"
  diffs _ := [change]

def declaring (file : String) : OperatorCompletionEvidence := ⟨"4f0c9a1", [file], by simp⟩

theorem repositoryPath_source : RepositoryPath "src/a.ts" := by decide

def editedSource : DiffEntry := changeOf "src/a.ts" repositoryPath_source

/-- `docs/é.md` is printed as `"docs/\303\251.md"`. -/
def editedAccent : DiffEntry := changeOf "docs/é.md" (by decide)

/-- `R  src/a.ts -> src/b.ts`: the declared file was moved away. -/
def movedSource : StatusEntry := .moved "src/a.ts" "src/b.ts" (by decide) repositoryPath_source

/-- ` M README.md`. -/
def editedReadme : StatusEntry := .edited "README.md" (by decide)

/-- ` M docs/Guide.md`. -/
def editedGuide : StatusEntry := .edited "docs/Guide.md" (by decide)

theorem not_names_of_directory {boundary path : String}
    (noStar : Text.includes boundary "*" = false)
    (apart : ¬ (segmentsOf boundary.toList).filter isName <+: segmentsOf path.toList) :
    ¬ Shared.PlanBoundaries.Names boundary path := by
  intro names
  cases names with
  | glob star found =>
    rw [noStar] at star
    cases star
  | directory _ _ above => exact apart above

/-- The file is declared with another letter case. A dirty file beside it does not matter, and one
in an approved directory does. -/
theorem accepts_clean_commit_other_case :
    accepts Text.simpleLowerCasing codeUnitOrder (oneChange editedSource [editedReadme]).git
        (declaring "src/A.ts") ["docs"] = true ∧
      accepts Text.simpleLowerCasing codeUnitOrder (oneChange editedSource [editedGuide]).git
        (declaring "src/A.ts") ["docs"] = false := by
  have plain : ∀ dirty, ∀ change ∈ commitChanges (oneChange editedSource [dirty])
      (declaring "src/A.ts"), PrintedAsItIs change := by
    intro dirty change inside
    rw [List.mem_singleton.mp inside]
    exact ⟨by decide, by unfold Visible; decide⟩
  constructor
  · apply ((accepts_clean_commit Text.simpleLowerCasing codeUnitOrder
      (oneChange editedSource [editedReadme]) (declaring "src/A.ts") ["docs"]).1
        (plain editedReadme)).accepted
    · exact ⟨"4f0c9a1\n", rfl, by decide⟩
    · exact ⟨by decide, by decide⟩
    · intro entry listed
      rw [List.mem_singleton.mp listed]
      refine ⟨⟨by decide, by unfold StatusEntry.OneArrow; decide⟩, ?_⟩
      rintro path (rfl | ⟨⟨⟩⟩) boundary among
      apply not_names_of_directory
      · revert boundary
        decide
      · revert boundary
        decide
  · rw [Bool.eq_false_iff]
    intro accepted
    have clean := ((accepts_clean_commit Text.simpleLowerCasing codeUnitOrder
      (oneChange editedSource [editedGuide]) (declaring "src/A.ts") ["docs"]).1
        (plain editedGuide)).clean accepted
    refine clean editedGuide (List.mem_singleton_self _)
      ⟨by decide, by unfold StatusEntry.OneArrow; decide⟩ "docs" (by simp [relevantBoundaries]) ?_
    apply Shared.PlanBoundaries.PlainlyNames.directory
    · decide
    · decide
    · decide

/-- The evidence is accepted exactly for the files of the commit and a tree that is clean at both
sides of every entry. -/
def AcceptsExactly (casing : Text.LowerCasing) (localeCompare : Collation String) (r : Repository)
    (evidence : OperatorCompletionEvidence) (approved : List String) : Prop :=
  accepts casing localeCompare r.git evidence approved = true ↔
    (∀ path, path ∈ evidence.changedFiles ↔
      path ∈ (commitChanges r evidence).map DiffEntry.path) ∧
    ∀ entry ∈ r.entries, ∀ path, entry.path = path ∨ entry.oldPath = some path →
      ∀ boundary ∈ relevantBoundaries evidence approved,
        ¬ Shared.PlanBoundaries.Names boundary path

/-- A file of another letter case is accepted, so is a declared file that was moved away, and a
quoted file is rejected. -/
theorem case_move_and_quotes_escape :
    ¬ AcceptsExactly Text.simpleLowerCasing codeUnitOrder (oneChange editedSource [])
        (declaring "src/A.ts") [] ∧
      ¬ AcceptsExactly Text.simpleLowerCasing codeUnitOrder (oneChange editedSource [movedSource])
        (declaring "src/a.ts") [] ∧
      ¬ AcceptsExactly Text.simpleLowerCasing codeUnitOrder (oneChange editedAccent [])
        (declaring "docs/é.md") [] := by
  refine ⟨fun exactly_ => ?_, fun exactly_ => ?_, fun exactly_ => ?_⟩
  · have accepted : accepts Text.simpleLowerCasing codeUnitOrder (oneChange editedSource []).git
        (declaring "src/A.ts") [] = true := by decide +kernel
    have same := ((exactly_.mp accepted).1 "src/a.ts").mpr (List.mem_singleton_self _)
    exact absurd same (by decide)
  · have accepted : accepts Text.simpleLowerCasing codeUnitOrder
        (oneChange editedSource [movedSource]).git (declaring "src/a.ts") [] = true := by decide +kernel
    refine (exactly_.mp accepted).2 movedSource (List.mem_singleton_self _) "src/a.ts" (.inr rfl)
      "src/a.ts" (List.mem_singleton_self _) (.directory ?_ ?_ ?_)
    · decide
    · decide
    · decide
  · have clean := exactly_.mpr ⟨fun path => Iff.rfl, fun entry listed => by cases listed⟩
    revert clean
    decide +kernel

end AifHandoff.Api.OperatorCompletion
