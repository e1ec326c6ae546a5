import AifHandoff.Lib.GitStatus

/-!
The gate before a branch is changed (`shared/gitIsolation.ts`).

The output of `git status` is trimmed as a whole, cut into lines, and a line is let through if
its path is a planning path of the project, or if it is an untracked build artifact.
-/

namespace AifHandoff.Shared.GitIsolation

open PathPattern Git

/-! ### The gate -/

/-- The configured paths (`cfg.paths`). -/
structure ConfigPaths where
  plan : String
  fixPlan : String
  plans : String

structure GitResult where
  stdout : String
  status : Nat

/-- `runGit`: what the command printed, trimmed. -/
def runGit (printed : GitResult) : GitResult := { printed with stdout := Text.trim printed.stdout }

/-- `.replace(/^"|"$/g, "")`. -/
def stripQuotes (value : String) : String :=
  let opened := if Text.startsWith value "\"" then Text.dropChars value 1 else value
  if Text.endsWith opened "\"" then String.ofList opened.toList.dropLast else opened

def normalizeStatusPath (pathValue : String) : String :=
  stripSlashes (Text.stripDotSlash (Text.forwardSlashes (stripQuotes (Text.trim pathValue))))

/-- The status letters and the blank behind them are one code unit each. -/
def statusLinePath (line : String) : String :=
  let rawPath := if Text.utf16Length line > 3 then Text.trim (Text.dropChars line 3)
    else Text.trim line
  match afterArrow rawPath.toList with
  | some renamed => normalizeStatusPath (String.ofList renamed)
  | none => normalizeStatusPath rawPath

/-- The paths that planning writes. -/
def isPlanningPath (paths : ConfigPaths) (normalized : String) : Bool :=
  let plansDir := String.ofList
    ((normalizeStatusPath paths.plans).toList.reverse.dropWhile (· == '/')).reverse ++ "/"
  normalized == normalizeStatusPath paths.plan || normalized == normalizeStatusPath paths.fixPlan ||
    Text.startsWith normalized plansDir

def isAifGeneratedPlanningPath (paths : ConfigPaths) (pathValue : String) : Bool :=
  isPlanningPath paths (normalizeStatusPath pathValue)

def isUntrackedStatusLine (line : String) : Bool := Text.startsWith line "?? "

/-- The directories that a build writes. -/
def buildDirectories : List String :=
  ["node_modules", ".npm-cache", ".turbo", ".vite", "dist", "build", "coverage", "out"]

def isBuildArtifact (normalized : String) : Bool :=
  buildDirectories.any (fun directory =>
    normalized == directory || Text.startsWith normalized (directory ++ "/")) ||
    Text.endsWith normalized ".tsbuildinfo"

def isGeneratedBuildArtifactPath (pathValue : String) : Bool :=
  isBuildArtifact (normalizeStatusPath pathValue)

/-- The line is kept by the filter. -/
def isBlockingLine (paths : ConfigPaths) (line : String) : Bool :=
  let pathValue := statusLinePath line
  if isAifGeneratedPlanningPath paths pathValue then false
  else !(isUntrackedStatusLine line && isGeneratedBuildArtifactPath pathValue)

def getBlockingDirtyStatusLines (paths : ConfigPaths) (statusOutput : String) : List String :=
  ((Text.split statusOutput '\n').filter fun line => !(Text.trim line).isEmpty).filter
    (isBlockingLine paths)

def workingTreeClean (paths : ConfigPaths) (printed : GitResult) : Bool :=
  let result := runGit printed
  result.status == 0 && (getBlockingDirtyStatusLines paths result.stdout).isEmpty

def describeDirtyWorkingTree (paths : ConfigPaths) (printed : GitResult) : Option String :=
  let result := runGit printed
  if result.status ≠ 0 ∨ result.stdout.isEmpty then none
  else
    let lines := getBlockingDirtyStatusLines paths result.stdout
    if lines.isEmpty then none
    else
      let summary := Text.join ", " (lines.take 5)
      some (if lines.length > 5 then
        summary ++ ", +" ++ toString (lines.length - 5) ++ " more" else summary)

inductive ErrorKind where
  | dirtyWorktree
  | branchMissing
  | invalidBranchName
  deriving DecidableEq

structure BranchIsolationError where
  kind : ErrorKind
  message : String
  projectRoot : String
  branchName : Option String

def assertWorkingTreeClean (paths : ConfigPaths) (projectRoot : String)
    (branchName : Option String) (printed : GitResult) : Except BranchIsolationError Unit :=
  match (describeDirtyWorkingTree paths printed).filter (!·.isEmpty) with
  | some dirty => .error {
      kind := .dirtyWorktree
      message := "Working tree at " ++ projectRoot ++ " has uncommitted changes (" ++ dirty ++
        "). Commit, stash, or discard them before continuing."
      projectRoot
      branchName }
  | none => .ok ()

/-! ### The branch -/

/-- What `ensureFeatureBranch` finds. -/
structure BranchState where
  projectRoot : String
  enabled : Bool
  isGitRepo : Bool
  createBranches : Bool
  switchOnly : Bool
  branchName : String
  /-- What `validateBranchName` throws. -/
  invalidName : Option BranchIsolationError
  current : Option String
  branchExists : Bool
  /-- What `git status` prints. -/
  printed : GitResult

/-- The first command on the branches that `ensureFeatureBranch` runs, if it runs one. -/
inductive BranchCommand where
  | skipped (reason : String)
  /-- The branch is checked out already. -/
  | alreadyThere
  | checkout
  /-- On to the base branch and a new branch from it. -/
  | create
  deriving DecidableEq

def ensureFeatureBranch (paths : ConfigPaths) (s : BranchState) :
    Except BranchIsolationError BranchCommand :=
  if !s.enabled then .ok (.skipped "git.enabled=false")
  else if !s.isGitRepo then .ok (.skipped "not a git work tree")
  else if !s.createBranches && !s.switchOnly then .ok (.skipped "git.create_branches=false")
  else match s.invalidName with
    | some error => .error error
    | none =>
      if s.current = some s.branchName then .ok .alreadyThere
      else match assertWorkingTreeClean paths s.projectRoot (some s.branchName) s.printed with
        | .error error => .error error
        | .ok () =>
          if s.branchExists then .ok .checkout
          else if s.switchOnly then .error {
            kind := .branchMissing
            message := "Expected feature branch " ++ s.branchName ++ " is missing from " ++
              s.projectRoot ++
              ". Planner did not prepare it, or it was deleted between stages."
            projectRoot := s.projectRoot
            branchName := some s.branchName }
          else .ok .create

theorem no_branch_command {paths : ConfigPaths} {s : BranchState} {error : BranchIsolationError}
    (gate : assertWorkingTreeClean paths s.projectRoot (some s.branchName) s.printed =
      .error error) {command : BranchCommand}
    (ran : ensureFeatureBranch paths s = .ok command) :
    command ≠ .checkout ∧ command ≠ .create := by
  unfold ensureFeatureBranch at ran
  simp only [gate] at ran
  split at ran
  · obtain rfl := Except.ok.inj ran
    exact ⟨by simp, by simp⟩
  split at ran
  · obtain rfl := Except.ok.inj ran
    exact ⟨by simp, by simp⟩
  split at ran
  · obtain rfl := Except.ok.inj ran
    exact ⟨by simp, by simp⟩
  split at ran
  · cases ran
  split at ran
  · obtain rfl := Except.ok.inj ran
    exact ⟨by simp, by simp⟩
  · cases ran

theorem clean_of_branch_command {paths : ConfigPaths} {s : BranchState}
    (changes : ensureFeatureBranch paths s = .ok .checkout ∨
      ensureFeatureBranch paths s = .ok .create) :
    assertWorkingTreeClean paths s.projectRoot (some s.branchName) s.printed = .ok () := by
  cases gate : assertWorkingTreeClean paths s.projectRoot (some s.branchName) s.printed with
  | ok done => rfl
  | error error =>
    rcases changes with switched | created
    · exact absurd rfl (no_branch_command gate switched).1
    · exact absurd rfl (no_branch_command gate created).2

/-! ### What a change is, and how its line is read -/

section Entries

variable (paths : ConfigPaths)

/-- `git status` has no version of the file. -/
def isUntracked (entry : StatusEntry) : Bool := entry.index = '?' && entry.worktree = '?'

/-- The change is of planning paths only, or is an untracked build artifact. -/
def isHarmless (entry : StatusEntry) : Bool :=
  (entry.path :: entry.oldPath.toList).all (isPlanningPath paths) ||
    (isUntracked entry && isBuildArtifact entry.path)

/-- The entries, the first of them marked. -/
def placed : List StatusEntry → List (Bool × StatusEntry)
  | [] => []
  | first :: rest => (true, first) :: rest.map (false, ·)

/-- The line of an entry, as the filter sees it. -/
def seenLine (place : Bool × StatusEntry) : String :=
  String.ofList (if place.1 then place.2.trimmedLine else place.2.line)

/-- The text in which the gate looks for the path. A line that has lost its blank is cut one
character too far. -/
def seenText (place : Bool × StatusEntry) : String :=
  if place.1 = true ∧ place.2.index = ' ' then
    match place.2.pathText with
    | [c] => String.ofList [place.2.worktree, ' ', c]
    | text => Text.trim (String.ofList text.tail)
  else String.ofList place.2.pathText

/-- The path that the gate reads for an entry. -/
def readPath (place : Bool × StatusEntry) : String :=
  match afterArrow (seenText place).toList with
  | some renamed => normalizeStatusPath (String.ofList renamed)
  | none => normalizeStatusPath (seenText place)

/-- What the gate reads for the entry is excused. -/
def isLetThrough (place : Bool × StatusEntry) : Bool :=
  isAifGeneratedPlanningPath paths (readPath place) ||
    (isUntracked place.2 && isGeneratedBuildArtifactPath (readPath place))

variable {paths} {path : String} {place : Bool × StatusEntry}

/-! ### What the gate reads -/

theorem utf16Length_cons (c : Char) (cs : List Char) :
    Text.utf16Length (String.ofList (c :: cs)) =
      Text.unitsOf c + Text.utf16Length (String.ofList cs) := by
  simp [Text.utf16Length]

theorem trim_visible {core : List Char}
    (starts : ∃ c rest, core = c :: rest ∧ Text.isSpace c = false)
    (ends : ∃ front c, core = front ++ [c] ∧ Text.isSpace c = false) :
    Text.trim (String.ofList core) = String.ofList core := by
  have blanks : ∀ c ∈ ([] : List Char), Text.isSpace c = true := by simp
  have trimmed := trim_between blanks blanks starts ends
  rwa [List.nil_append, List.append_nil] at trimmed

theorem trim_pathText (entry : StatusEntry) :
    Text.trim (String.ofList entry.pathText) = String.ofList entry.pathText := by
  obtain ⟨c, rest, split, some_⟩ := entry.starts_pathText
  have visible := isSpace_of_printed (entry.printed_pathText c (by rw [split]; simp)) some_
  exact trim_visible ⟨c, rest, split, visible⟩ (entry.ends_of_pathText [])

theorem cut_line {a b c : Char} {text : List Char} (some_ : text ≠ []) :
    Text.utf16Length (String.ofList (a :: b :: c :: text)) > 3 ∧
      Text.dropChars (String.ofList (a :: b :: c :: text)) 3 = String.ofList text := by
  obtain ⟨d, rest, rfl⟩ := List.exists_cons_of_ne_nil some_
  constructor
  · rw [utf16Length_cons, utf16Length_cons, utf16Length_cons, utf16Length_cons]
    have := Text.unitsOf_pos a
    have := Text.unitsOf_pos b
    have := Text.unitsOf_pos c
    have := Text.unitsOf_pos d
    omega
  · rw [Text.dropChars, String.toList_ofList]
    rfl

/-- The line that has lost its blank. -/
theorem seenLine_shifted (shifted : place.1 = true ∧ place.2.index = ' ') :
    seenLine place = String.ofList (place.2.worktree :: ' ' :: place.2.pathText) := by
  rw [seenLine, if_pos shifted.1, StatusEntry.trimmedLine, if_pos shifted.2]
  rfl

theorem seenLine_whole (whole : ¬ (place.1 = true ∧ place.2.index = ' ')) :
    seenLine place = String.ofList place.2.line := by
  rw [seenLine]
  split
  · rename_i marked
    rw [StatusEntry.trimmedLine, if_neg fun blank => whole ⟨marked, blank⟩]
  · rfl

theorem unitsOf_printed {c : Char} (printed : Printed c) : Text.unitsOf c = 1 := by
  rw [Text.unitsOf, if_neg]
  exact fun wide => absurd printed.2 (by omega)

theorem visible_worktree {entry : StatusEntry} (blank : entry.index = ' ') :
    Text.isSpace entry.worktree = false :=
  isSpace_of_printed (StatusEntry.printed_letter entry.letters.2)
    (entry.changed.resolve_left (not_not_intro blank))

theorem statusLinePath_seenLine (place : Bool × StatusEntry) :
    statusLinePath (seenLine place) = readPath place := by
  have raw : (if Text.utf16Length (seenLine place) > 3 then
      Text.trim (Text.dropChars (seenLine place) 3) else Text.trim (seenLine place)) =
      seenText place := by
    by_cases shifted : place.1 = true ∧ place.2.index = ' '
    · rw [seenText, if_pos shifted, seenLine_shifted shifted]
      obtain ⟨c, rest, split, some_⟩ := place.2.starts_pathText
      have printed := place.2.printed_pathText c (by rw [split]; exact List.mem_cons_self)
      cases rest with
      | nil =>
        have short : ¬ Text.utf16Length (String.ofList [place.2.worktree, ' ', c]) > 3 := by
          have blank : Text.unitsOf ' ' = 1 := rfl
          simp [Text.utf16Length, blank, unitsOf_printed printed,
            unitsOf_printed (StatusEntry.printed_letter place.2.letters.2)]
        simp only [split, if_neg short]
        exact trim_visible ⟨_, _, rfl, visible_worktree shifted.2⟩
          ⟨[place.2.worktree, ' '], c, rfl, isSpace_of_printed printed some_⟩
      | cons d rest =>
        obtain ⟨long, cut⟩ := cut_line (a := place.2.worktree) (b := ' ') (c := c)
          (List.cons_ne_nil d rest)
        simp only [split, if_pos long, cut, List.tail_cons]
    · have some_ : place.2.pathText ≠ [] := by
        obtain ⟨c, rest, split, -⟩ := place.2.starts_pathText
        rw [split]
        exact List.cons_ne_nil c rest
      obtain ⟨long, cut⟩ := cut_line some_
      rw [seenText, if_neg shifted, seenLine_whole shifted, StatusEntry.line, if_pos long, cut,
        trim_pathText]
  rw [statusLinePath, readPath, raw]

theorem isUntracked_seenLine (place : Bool × StatusEntry) :
    isUntrackedStatusLine (seenLine place) = isUntracked place.2 := by
  by_cases shifted : place.1 = true ∧ place.2.index = ' '
  · rw [isUntrackedStatusLine, seenLine_shifted shifted, isUntracked, shifted.2, Text.startsWith,
      String.toList_ofList]
    simp [List.isPrefixOf]
  · rw [isUntrackedStatusLine, seenLine_whole shifted, isUntracked, Text.startsWith,
      String.toList_ofList, StatusEntry.line]
    simp [List.isPrefixOf, beq_eq_decide, eq_comm]

theorem isBlockingLine_seenLine (place : Bool × StatusEntry) :
    isBlockingLine paths (seenLine place) = !isLetThrough paths place := by
  rw [isBlockingLine, statusLinePath_seenLine, isUntracked_seenLine, isLetThrough]
  cases isAifGeneratedPlanningPath paths (readPath place) with
  | true => rfl
  | false => rfl

/-! ### How plain paths are read -/

/-- A path without special characters, arrows and blanks at its ends. Git writes it as it is, or
between quotes for the blanks in it. -/
structure PlainName (path : String) : Prop where
  usual : ∀ c ∈ path.toList, isSpecial c = false
  noArrow : ¬ " -> ".toList <:+: path.toList
  visible : Visible path.toList

/-- The line has lost its blank, and its path stands in it without a quote to lose instead. -/
def Cut (place : Bool × StatusEntry) : Prop :=
  place.1 = true ∧ place.2.index = ' ' ∧ ' ' ∉ place.2.path.toList

instance : DecidablePred Cut := fun place =>
  inferInstanceAs (Decidable (place.1 = true ∧ place.2.index = ' ' ∧ ' ' ∉ place.2.path.toList))

/-- The change is of plain paths, and a line that has lost its blank is of one path. -/
structure PlainChange (place : Bool × StatusEntry) : Prop where
  name : PlainName place.2.path
  oldName : ∀ old ∈ place.2.oldPath, PlainName old
  onePath : place.1 = true → place.2.index = ' ' → place.2.oldPath = none

/-- What is left of a cut line behind its first three characters, or the whole of a line that has
no more of them. -/
def cutText (entry : StatusEntry) : String :=
  match entry.path.toList with
  | [c] => String.ofList [entry.worktree, ' ', c]
  | text => String.ofList text.tail

theorem no_quote_of_usual {cs : List Char} (usual : ∀ c ∈ cs, isSpecial c = false) : '"' ∉ cs := by
  intro inside
  exact absurd (usual _ inside) (by decide)

theorem quote_toList : "\"".toList = ['"'] := by decide

theorem stripQuotes_of_no_quote {cs : List Char} (noQuote : '"' ∉ cs) :
    stripQuotes (String.ofList cs) = String.ofList cs := by
  have opened : Text.startsWith (String.ofList cs) "\"" = false := by
    rw [Bool.eq_false_iff, ne_eq, Text.startsWith_iff, quote_toList, String.toList_ofList]
    exact fun front => noQuote (front.subset List.mem_cons_self)
  have closed : Text.endsWith (String.ofList cs) "\"" = false := by
    rw [Bool.eq_false_iff, ne_eq, Text.endsWith, List.isSuffixOf_iff_suffix, quote_toList,
      String.toList_ofList]
    exact fun back => noQuote (back.subset List.mem_cons_self)
  rw [stripQuotes, opened, if_neg Bool.false_ne_true]
  simp only [closed, Bool.false_eq_true, if_false]

theorem stripQuotes_closed {cs : List Char} (noQuote : '"' ∉ cs) (some_ : cs ≠ []) :
    stripQuotes (String.ofList (cs ++ ['"'])) = String.ofList cs := by
  have opened : Text.startsWith (String.ofList (cs ++ ['"'])) "\"" = false := by
    obtain ⟨c, rest, rfl⟩ := List.exists_cons_of_ne_nil some_
    rw [Bool.eq_false_iff, ne_eq, Text.startsWith_iff, quote_toList, String.toList_ofList,
      List.cons_append, List.cons_prefix_cons]
    rintro ⟨rfl, -⟩
    exact noQuote List.mem_cons_self
  have closed : Text.endsWith (String.ofList (cs ++ ['"'])) "\"" = true := by
    rw [Text.endsWith, List.isSuffixOf_iff_suffix, quote_toList, String.toList_ofList]
    exact List.suffix_append cs ['"']
  rw [stripQuotes, opened, if_neg Bool.false_ne_true]
  simp only [closed, if_true, String.toList_ofList, List.dropLast_concat]

theorem stripQuotes_quoted (cs : List Char) :
    stripQuotes (String.ofList ('"' :: cs ++ ['"'])) = String.ofList cs := by
  have opened : Text.startsWith (String.ofList ('"' :: cs ++ ['"'])) "\"" = true := by
    rw [Text.startsWith_iff, quote_toList, String.toList_ofList]
    exact ⟨cs ++ ['"'], rfl⟩
  have rest : Text.dropChars (String.ofList ('"' :: cs ++ ['"'])) 1 = String.ofList (cs ++ ['"']) := by
    rw [Text.dropChars, String.toList_ofList]
    rfl
  have closed : Text.endsWith (String.ofList (cs ++ ['"'])) "\"" = true := by
    rw [Text.endsWith, List.isSuffixOf_iff_suffix, quote_toList, String.toList_ofList]
    exact List.suffix_append cs ['"']
  rw [stripQuotes, opened, if_pos rfl, rest]
  simp only [closed, if_true, String.toList_ofList, List.dropLast_concat]

/-- How git writes a plain path. -/
theorem PlainName.written (plain : PlainName path) :
    quotePath true path =
      if ' ' ∈ path.toList then String.ofList ('"' :: path.toList ++ ['"']) else path := by
  have usual : path.toList.any isSpecial = false := by
    rw [List.any_eq_false]
    intro c inside
    rw [plain.usual c inside]
    exact Bool.false_ne_true
  have escaped : path.toList.flatMap escapeChar = path.toList := by
    rw [List.flatMap_congr fun c inside => escapeChar_of_not_special (plain.usual c inside)]
    exact List.flatMap_singleton' path.toList
  rw [quotePath, usual, escaped, Bool.false_or, Bool.true_and]
  simp only [List.contains_iff_mem]

theorem PlainName.no_arrow_written (plain : PlainName path) :
    ¬ " -> ".toList <:+: (quotePath true path).toList := by
  rw [plain.written]
  split
  · have text : (String.ofList ('"' :: path.toList ++ ['"'])).toList = '"' :: path.toList ++ ['"'] :=
      String.toList_ofList
    rw [text]
    intro arrow
    rcases List.infix_cons_iff.mp (arrow_in_front arrow) with front | inside
    · rw [arrow_toList, List.cons_prefix_cons] at front
      exact absurd front.1 (by decide)
    · exact plain.noArrow inside
  · exact plain.noArrow

theorem trim_of_visible {cs : List Char} (visible : Visible cs) :
    Text.trim (String.ofList cs) = String.ofList cs := by
  rw [Text.trim, String.toList_ofList, visible.2.1, visible.2.2, List.reverse_reverse]

/-- A text that is the path but for its quotes is read as the path. -/
theorem PlainName.normalize (plain : PlainName path) (repository : RepositoryPath path)
    {text : String} (trimmed : Text.trim text = text) (bare : stripQuotes text = path) :
    normalizeStatusPath text = path := by
  have noBackslash : '\\' ∉ path.toList := by
    intro inside
    exact absurd (plain.usual _ inside) (by decide)
  rw [normalizeStatusPath, trimmed, bare, forwardSlashes_of_no_backslash noBackslash,
    stripDotSlash_of_repositoryPath repository, stripSlashes_of_repositoryPath repository]

theorem PlainName.normalize_self (plain : PlainName path) (repository : RepositoryPath path) :
    normalizeStatusPath path = path := by
  apply plain.normalize repository
  · conv_lhs => rw [← String.ofList_toList (s := path)]
    rw [trim_of_visible plain.visible, String.ofList_toList]
  · conv_lhs => rw [← String.ofList_toList (s := path)]
    rw [stripQuotes_of_no_quote (no_quote_of_usual plain.usual), String.ofList_toList]

theorem PlainName.normalize_written (plain : PlainName path) (repository : RepositoryPath path) :
    normalizeStatusPath (quotePath true path) = path := by
  rw [plain.written]
  split
  · apply plain.normalize repository
    · apply trim_visible
      · exact ⟨'"', _, rfl, by decide⟩
      · exact ⟨_, '"', rfl, by decide⟩
    · rw [stripQuotes_quoted, String.ofList_toList]
  · exact plain.normalize_self repository

theorem starts_of_visible {cs : List Char} (visible : Visible cs) :
    ∃ c rest, cs = c :: rest ∧ Text.isSpace c = false := by
  obtain ⟨c, rest, rfl⟩ := List.exists_cons_of_ne_nil visible.1
  refine ⟨c, rest, rfl, ?_⟩
  cases blank : Text.isSpace c with
  | false => rfl
  | true =>
    have kept := visible.2.1
    rw [List.dropWhile_cons_of_pos blank] at kept
    have shorter := List.length_dropWhile_le Text.isSpace rest
    rw [kept, List.length_cons] at shorter
    omega

theorem PlainName.normalize_closed (plain : PlainName path) (repository : RepositoryPath path) :
    Text.trim (String.ofList (path.toList ++ ['"'])) = String.ofList (path.toList ++ ['"']) ∧
      afterArrow (path.toList ++ ['"']) = none ∧
        normalizeStatusPath (String.ofList (path.toList ++ ['"'])) = path := by
  have trimmed : Text.trim (String.ofList (path.toList ++ ['"'])) =
      String.ofList (path.toList ++ ['"']) := by
    obtain ⟨c, rest, split, visible⟩ := starts_of_visible plain.visible
    apply trim_visible
    · exact ⟨c, rest ++ ['"'], by rw [split]; rfl, visible⟩
    · exact ⟨path.toList, '"', rfl, by decide⟩
  refine ⟨trimmed, afterArrow_quote plain.noArrow [], plain.normalize repository trimmed ?_⟩
  rw [stripQuotes_closed (no_quote_of_usual plain.usual) plain.visible.1, String.ofList_toList]

/-- A plain change whose line is not cut is read as its path, the new one of a rename. -/
theorem readPath_of_plain (plain : PlainChange place) (whole : ¬ Cut place) :
    readPath place = place.2.path := by
  have repository := place.2.repository
  by_cases shifted : place.1 = true ∧ place.2.index = ' '
  · -- The cut has taken the quote in front of a path with a blank.
    have noRename := plain.onePath shifted.1 shifted.2
    have blank : ' ' ∈ place.2.path.toList := by
      by_contra noBlank
      exact whole ⟨shifted.1, shifted.2, noBlank⟩
    obtain ⟨trimmed, noArrow, normal⟩ := plain.name.normalize_closed repository
    have text : place.2.pathText = '"' :: (place.2.path.toList ++ ['"']) := by
      rw [StatusEntry.pathText, noRename]
      dsimp only
      rw [plain.name.written, if_pos blank, String.toList_ofList, List.cons_append]
    have seen : seenText place = String.ofList (place.2.path.toList ++ ['"']) := by
      obtain ⟨c, rest, split, -⟩ := starts_of_visible plain.name.visible
      rw [seenText, if_pos shifted, text, ← trimmed, split]
      rfl
    rw [readPath, seen, String.toList_ofList, noArrow]
    exact normal
  · rw [readPath, seenText, if_neg shifted, String.toList_ofList, StatusEntry.pathText]
    cases isOld : place.2.oldPath with
    | none =>
      dsimp only
      rw [(afterArrow_quotePath plain.name.no_arrow_written).1, String.ofList_toList]
      exact plain.name.normalize_written repository
    | some old =>
      dsimp only
      rw [List.append_assoc,
        (afterArrow_quotePath (plain.oldName old isOld).no_arrow_written).2]
      dsimp only
      rw [String.ofList_toList]
      exact plain.name.normalize_written repository

/-- A cut line is read as what is left of its path. -/
theorem readPath_of_cut (plain : PlainChange place) (cut : Cut place) :
    readPath place = normalizeStatusPath (cutText place.2) := by
  obtain ⟨first, blank, noBlank⟩ := cut
  have text : place.2.pathText = place.2.path.toList := by
    rw [StatusEntry.pathText, plain.onePath first blank]
    dsimp only
    rw [plain.name.written, if_neg noBlank]
  have noSpace : ∀ c ∈ place.2.path.toList, Text.isSpace c = false := by
    intro c inside
    apply isSpace_of_printed (printed_of_not_special (plain.name.usual c inside))
    rintro rfl
    exact noBlank inside
  have seen : seenText place = cutText place.2 ∧ afterArrow (cutText place.2).toList = none := by
    rw [seenText, if_pos ⟨first, blank⟩, text, cutText]
    split
    · refine ⟨rfl, ?_⟩
      apply afterArrow_of_no_arrow
      intro arrow
      have longer := arrow.length_le
      simp [arrow_toList] at longer
    · have inside : ∀ c ∈ place.2.path.toList.tail, c ∈ place.2.path.toList :=
        fun c later => List.mem_of_mem_tail later
      refine ⟨Text.trim_of_no_space ?_, ?_⟩
      · rw [String.toList_ofList]
        exact fun c later => noSpace c (inside c later)
      · rw [String.toList_ofList]
        exact afterArrow_of_no_blank fun later => noBlank (inside _ later)
  rw [readPath, seen.1, seen.2]

/-! ### The lines of an output -/

theorem seenLines (entries : List StatusEntry) :
    (trimmedLines entries).map String.ofList = (placed entries).map seenLine := by
  cases entries with
  | nil => rfl
  | cons first rest =>
    rw [trimmedLines, placed, List.map_cons, List.map_cons, List.map_map, List.map_map]
    rfl

theorem visible_seenLine (place : Bool × StatusEntry) :
    (Text.trim (seenLine place)).isEmpty = false := by
  obtain ⟨c, rest, split, some_⟩ := place.2.starts_pathText
  have visible := isSpace_of_printed (place.2.printed_pathText c (by rw [split]; simp)) some_
  rw [Text.trim_isEmpty_iff, List.any_eq_true]
  refine ⟨c, ?_, by rw [visible]; rfl⟩
  by_cases shifted : place.1 = true ∧ place.2.index = ' '
  · rw [seenLine_shifted shifted, String.toList_ofList, split]
    simp
  · rw [seenLine_whole shifted, String.toList_ofList, StatusEntry.line, split]
    simp

theorem getBlockingDirtyStatusLines_empty : getBlockingDirtyStatusLines paths "" = [] := by
  have noLine : ((Text.split "" '\n').filter fun line => !(Text.trim line).isEmpty) = [] := by
    decide
  rw [getBlockingDirtyStatusLines, noLine, List.filter_nil]

theorem getBlockingDirtyStatusLines_eq (entries : List StatusEntry) :
    getBlockingDirtyStatusLines paths (Text.trim (statusOutput entries)) =
      ((placed entries).filter (!isLetThrough paths ·)).map seenLine := by
  cases isEmpty : entries with
  | nil =>
    have nothing : Text.trim (statusOutput []) = "" := by decide
    rw [nothing, getBlockingDirtyStatusLines_empty, placed, List.filter_nil, List.map_nil]
  | cons first rest =>
    have some_ : entries ≠ [] := by
      rw [isEmpty]
      exact List.cons_ne_nil first rest
    have visible : ∀ line ∈ (placed entries).map seenLine, !(Text.trim line).isEmpty := by
      rintro _ inside
      obtain ⟨place, -, rfl⟩ := List.mem_map.mp inside
      rw [visible_seenLine]
      rfl
    have blocks : isBlockingLine paths ∘ seenLine = fun place => !isLetThrough paths place := by
      funext place
      rw [Function.comp_apply, isBlockingLine_seenLine]
    rw [← isEmpty, getBlockingDirtyStatusLines, split_trim_statusOutput some_, seenLines,
      List.filter_eq_self.mpr visible, List.filter_map, blocks]

theorem blockingLines_eq_nil_iff {entries : List StatusEntry} :
    getBlockingDirtyStatusLines paths (Text.trim (statusOutput entries)) = [] ↔
      ∀ place ∈ placed entries, isLetThrough paths place = true := by
  rw [getBlockingDirtyStatusLines_eq, List.map_eq_nil_iff, List.filter_eq_nil_iff]
  simp

/-- What `git status` prints for the changes. -/
def statusOf (entries : List StatusEntry) : GitResult := ⟨statusOutput entries, 0⟩

theorem workingTreeClean_iff {entries : List StatusEntry} :
    workingTreeClean paths (statusOf entries) = true ↔
      ∀ place ∈ placed entries, isLetThrough paths place = true := by
  rw [← blockingLines_eq_nil_iff, ← List.isEmpty_iff, workingTreeClean]
  dsimp only [runGit, statusOf]
  rw [beq_self_eq_true, Bool.true_and]

theorem join_ne_empty {sep first : String} {rest : List String} (some_ : first ≠ "") :
    Text.join sep (first :: rest) ≠ "" := by
  intro nothing
  have chars := congrArg String.toList nothing
  cases rest with
  | nil =>
    rw [Text.join, String.intercalate_singleton] at nothing
    exact some_ nothing
  | cons next rest =>
    rw [Text.join, String.intercalate_cons_cons, String.append_eq_empty_iff,
      String.append_eq_empty_iff] at nothing
    exact some_ nothing.1.1

theorem summary_ne_empty {statusOutput : String}
    (blocked : ¬ (getBlockingDirtyStatusLines paths statusOutput).isEmpty = true) :
    Text.join ", " ((getBlockingDirtyStatusLines paths statusOutput).take 5) ≠ "" := by
  cases lines : getBlockingDirtyStatusLines paths statusOutput with
  | nil =>
    rw [lines] at blocked
    exact absurd rfl blocked
  | cons first rest =>
    have inside : first ∈ getBlockingDirtyStatusLines paths statusOutput := by
      rw [lines]
      exact List.mem_cons_self
    have visible := (List.mem_filter.mp (List.mem_filter.mp inside).1).2
    have some_ : first ≠ "" := by
      rintro rfl
      exact absurd visible (by decide)
    rw [List.take_succ_cons]
    exact join_ne_empty some_

theorem describeDirtyWorkingTree_some {printed : GitResult} {dirty : String}
    (described : describeDirtyWorkingTree paths printed = some dirty) : dirty.isEmpty = false := by
  rw [describeDirtyWorkingTree] at described
  dsimp only at described
  rw [Bool.eq_false_iff, ne_eq, String.isEmpty_iff]
  split_ifs at described with failed noLine many
  · obtain rfl := Option.some.inj described
    exact fun nothing => summary_ne_empty noLine
      (String.append_eq_empty_iff.mp (String.append_eq_empty_iff.mp
        (String.append_eq_empty_iff.mp nothing).1).1).1
  · obtain rfl := Option.some.inj described
    exact summary_ne_empty noLine

theorem describeDirtyWorkingTree_eq_none_iff {printed : GitResult} (succeeds : printed.status = 0) :
    describeDirtyWorkingTree paths printed = none ↔
      getBlockingDirtyStatusLines paths (runGit printed).stdout = [] := by
  have status : (runGit printed).status = 0 := succeeds
  simp only [describeDirtyWorkingTree, status, ne_eq, not_true_eq_false, false_or]
  split_ifs with printedNothing noLine
  · rw [String.isEmpty_iff.mp printedNothing, getBlockingDirtyStatusLines_empty]
    exact iff_of_true rfl rfl
  · exact iff_of_true rfl (List.isEmpty_iff.mp noLine)
  · exact iff_of_false not_false fun none_ => noLine (List.isEmpty_iff.mpr none_)

theorem assertWorkingTreeClean_iff {projectRoot : String} {branchName : Option String}
    {entries : List StatusEntry} :
    assertWorkingTreeClean paths projectRoot branchName (statusOf entries) = .ok () ↔
      ∀ place ∈ placed entries, isLetThrough paths place = true := by
  have clean : describeDirtyWorkingTree paths (statusOf entries) = none ↔
      getBlockingDirtyStatusLines paths (Text.trim (statusOutput entries)) = [] :=
    describeDirtyWorkingTree_eq_none_iff rfl
  rw [← blockingLines_eq_nil_iff, ← clean, assertWorkingTreeClean]
  cases described : describeDirtyWorkingTree paths (statusOf entries) with
  | none => simp
  | some dirty => simp [Option.filter, describeDirtyWorkingTree_some described]

end Entries

/-! ### When the gate is exact -/

section Exact

variable (paths : ConfigPaths) (entries : List StatusEntry)

def OnlyHarmless : Prop := ∀ entry ∈ entries, isHarmless paths entry = true

/-- The gate is open exactly before harmless changes, and branches are changed over harmless
changes only. -/
structure DirtyGateExact : Prop where
  clean : workingTreeClean paths (statusOf entries) = true ↔ OnlyHarmless paths entries
  asserted : ∀ projectRoot branchName,
    assertWorkingTreeClean paths projectRoot branchName (statusOf entries) = .ok () ↔
      OnlyHarmless paths entries
  switches : ∀ s : BranchState, s.printed = statusOf entries →
    (ensureFeatureBranch paths s = .ok .checkout ∨ ensureFeatureBranch paths s = .ok .create) →
      OnlyHarmless paths entries

/-- The path alone excuses the change. -/
def isExcused (entry : StatusEntry) : Bool :=
  isPlanningPath paths entry.path || (isUntracked entry && isBuildArtifact entry.path)

/-- What is left of a cut line names a planning path. -/
def namesPlan (entry : StatusEntry) : Bool :=
  isAifGeneratedPlanningPath paths (normalizeStatusPath (cutText entry))

/-- The change has to block, and no misreading excuses it. -/
inductive Stopped (place : Bool × StatusEntry) : Prop where
  | whole (whole : ¬ Cut place) (harmful : isExcused paths place.2 = false)
  | cut (cut : Cut place) (harmful : isPlanningPath paths place.2.path = false)
      (other : namesPlan paths place.2 = false)

/-- The change has to block, and is not seen: a file was renamed to a planning path, or what is
left of a cut line names one. -/
inductive Lost (place : Bool × StatusEntry) : Prop where
  | renamed (whole : ¬ Cut place) (old : String) (moved : place.2.oldPath = some old)
      (harmful : isPlanningPath paths old = false)
      (plan : isPlanningPath paths place.2.path = true)
      (noArtifact : (isUntracked place.2 && isBuildArtifact place.2.path) = false)
  | cut (cut : Cut place) (harmful : isPlanningPath paths place.2.path = false)
      (plan : namesPlan paths place.2 = true)

/-- The change is of a planning path whose line is cut, and what is left names none. -/
structure Refused (place : Bool × StatusEntry) : Prop where
  cut : Cut place
  plan : isPlanningPath paths place.2.path = true
  other : namesPlan paths place.2 = false

/-- A plain change is stopped; or else all changes are plain, and either no change is lost and no
plan refused, or the gate closes before a plan where it should have closed before a lost change. -/
def RightlyRead : Prop :=
  (∃ place ∈ placed entries, PlainChange place ∧ Stopped paths place) ∨
    ((∀ place ∈ placed entries, PlainChange place) ∧
      ((∃ place ∈ placed entries, Lost paths place) ↔
        ∃ place ∈ placed entries, Refused paths place))

variable {paths entries}

theorem placed_snd (entries : List StatusEntry) : (placed entries).map Prod.snd = entries := by
  cases entries with
  | nil => rfl
  | cons first rest => simp [placed, Function.comp_def]

theorem onlyHarmless_iff :
    OnlyHarmless paths entries ↔ ∀ place ∈ placed entries, isHarmless paths place.2 = true := by
  rw [OnlyHarmless]
  conv_lhs => rw [← placed_snd entries]
  exact List.forall_mem_map

theorem isLetThrough_of_whole {place : Bool × StatusEntry} (plain : PlainChange place)
    (whole : ¬ Cut place) : isLetThrough paths place = isExcused paths place.2 := by
  have normal := plain.name.normalize_self place.2.repository
  rw [isLetThrough, readPath_of_plain plain whole, isExcused, isAifGeneratedPlanningPath,
    isGeneratedBuildArtifactPath, normal]

theorem isLetThrough_of_cut {place : Bool × StatusEntry} (plain : PlainChange place)
    (cut : Cut place) :
    isLetThrough paths place = namesPlan paths place.2 ∧
      isHarmless paths place.2 = isPlanningPath paths place.2.path := by
  have tracked : isUntracked place.2 = false := by
    rw [isUntracked, cut.2.1]
    rfl
  have noRename := plain.onePath cut.1 cut.2.1
  constructor
  · rw [isLetThrough, tracked, readPath_of_cut plain cut, Bool.false_and, Bool.or_false, namesPlan]
  · rw [isHarmless, tracked, noRename, Bool.false_and, Bool.or_false]
    simp

theorem isHarmless_iff {entry : StatusEntry} :
    isHarmless paths entry = true ↔ isExcused paths entry = true ∧
      ((isUntracked entry && isBuildArtifact entry.path) = true ∨
        ∀ old ∈ entry.oldPath, isPlanningPath paths old = true) := by
  rw [isHarmless, isExcused, List.all_cons]
  cases entry.oldPath with
  | none =>
    cases isPlanningPath paths entry.path <;>
      cases (isUntracked entry && isBuildArtifact entry.path) <;> simp
  | some old =>
    cases isPlanningPath paths entry.path <;>
      cases (isUntracked entry && isBuildArtifact entry.path) <;> simp

/-- What becomes of a plain change. -/
theorem plain_change_cases {place : Bool × StatusEntry} (plain : PlainChange place) :
    (Stopped paths place ↔ isHarmless paths place.2 = false ∧ isLetThrough paths place = false) ∧
      (Lost paths place ↔ isHarmless paths place.2 = false ∧ isLetThrough paths place = true) ∧
      (Refused paths place ↔ isHarmless paths place.2 = true ∧ isLetThrough paths place = false) := by
  by_cases cut : Cut place
  · obtain ⟨through, harmless⟩ := @isLetThrough_of_cut paths place plain cut
    rw [through, harmless]
    refine ⟨⟨?_, ?_⟩, ⟨?_, ?_⟩, ⟨?_, ?_⟩⟩
    · rintro (⟨whole, -⟩ | ⟨-, harmful, other⟩)
      · exact absurd cut whole
      · exact ⟨harmful, other⟩
    · exact fun ⟨harmful, other⟩ => .cut cut harmful other
    · rintro (⟨whole, -⟩ | ⟨-, harmful, named⟩)
      · exact absurd cut whole
      · exact ⟨harmful, named⟩
    · exact fun ⟨harmful, named⟩ => .cut cut harmful named
    · exact fun ⟨_, plan, other⟩ => ⟨plan, other⟩
    · exact fun ⟨plan, other⟩ => ⟨cut, plan, other⟩
  · rw [isLetThrough_of_whole plain cut, ← Bool.not_eq_true, isHarmless_iff]
    refine ⟨⟨?_, ?_⟩, ⟨?_, ?_⟩, ⟨?_, ?_⟩⟩
    · rintro (⟨-, harmful⟩ | ⟨isCut, -⟩)
      · rw [harmful]
        exact ⟨fun harmless => absurd harmless.1 Bool.false_ne_true, rfl⟩
      · exact absurd isCut cut
    · exact fun ⟨_, blocked⟩ => .whole cut blocked
    · rintro (⟨-, old, moved, harmful, plan, noArtifact⟩ | ⟨isCut, -⟩)
      · refine ⟨fun harmless => ?_, by rw [isExcused, plan, Bool.true_or]⟩
        rcases harmless.2 with artifact | planned
        · rw [noArtifact] at artifact
          cases artifact
        · rw [planned old moved] at harmful
          cases harmful
      · exact absurd isCut cut
    · rintro ⟨harmful, excused⟩
      obtain ⟨noArtifact, notPlanned⟩ := not_or.mp fun planned => harmful ⟨excused, planned⟩
      rw [Bool.not_eq_true] at noArtifact
      push Not at notPlanned
      obtain ⟨old, moved, notPlan⟩ := notPlanned
      rw [isExcused, noArtifact, Bool.or_false] at excused
      exact .renamed cut old moved (Bool.eq_false_iff.mpr notPlan) excused noArtifact
    · exact fun ⟨isCut, _, _⟩ => absurd isCut cut
    · rintro ⟨⟨excused, -⟩, blocked⟩
      rw [excused] at blocked
      cases blocked

theorem letThrough_iff_harmless_of_stopped {place : Bool × StatusEntry}
    (inside : place ∈ placed entries) (plain : PlainChange place) (stopped : Stopped paths place) :
    (∀ place ∈ placed entries, isLetThrough paths place = true) ↔ OnlyHarmless paths entries := by
  obtain ⟨harmful, blocked⟩ := (plain_change_cases plain).1.mp stopped
  rw [onlyHarmless_iff]
  apply iff_of_false
  · intro all
    rw [all place inside] at blocked
    cases blocked
  · intro all
    rw [all place inside] at harmful
    cases harmful

/-- Where all changes are plain and none is stopped, the errors decide. -/
theorem letThrough_iff_harmless_of_plain
    (plain : ∀ place ∈ placed entries, PlainChange place)
    (none_ : ∀ place ∈ placed entries, ¬ Stopped paths place) :
    ((∀ place ∈ placed entries, isLetThrough paths place = true) ↔ OnlyHarmless paths entries) ↔
      ((∃ place ∈ placed entries, Lost paths place) ↔
        ∃ place ∈ placed entries, Refused paths place) := by
  have harmful : ¬ OnlyHarmless paths entries ↔ ∃ place ∈ placed entries, Lost paths place := by
    rw [onlyHarmless_iff]
    push Not
    refine exists_congr fun place => and_congr_right fun inside => ?_
    obtain ⟨stopped, lost, -⟩ := @plain_change_cases paths place (plain place inside)
    have through := mt stopped.mpr (none_ place inside)
    rw [lost]
    revert through
    cases isHarmless paths place.2 <;> cases isLetThrough paths place <;> decide
  have blocked : ¬ (∀ place ∈ placed entries, isLetThrough paths place = true) ↔
      ∃ place ∈ placed entries, Refused paths place := by
    push Not
    refine exists_congr fun place => and_congr_right fun inside => ?_
    obtain ⟨stopped, -, refused⟩ := @plain_change_cases paths place (plain place inside)
    have through := mt stopped.mpr (none_ place inside)
    rw [refused]
    revert through
    cases isHarmless paths place.2 <;> cases isLetThrough paths place <;> decide
  rw [← harmful, ← blocked, not_iff_not]
  exact iff_comm

theorem dirtyGateExact_iff_lines :
    DirtyGateExact paths entries ↔
      ((∀ place ∈ placed entries, isLetThrough paths place = true) ↔
        OnlyHarmless paths entries) := by
  constructor
  · intro exact_
    rw [← exact_.clean, workingTreeClean_iff]
  · intro lines
    refine ⟨by rw [workingTreeClean_iff, lines],
      fun projectRoot branchName => by rw [assertWorkingTreeClean_iff, lines], ?_⟩
    intro s printed changes
    have clean := clean_of_branch_command changes
    rwa [printed, assertWorkingTreeClean_iff, lines] at clean

/-- The gate is exact on rightly read changes, and of plain changes on no others. It then does not
depend on the order of the changes. -/
theorem dirty_gate_exact_iff (paths : ConfigPaths) (entries : List StatusEntry) :
    (RightlyRead paths entries → DirtyGateExact paths entries) ∧
      ((∀ place ∈ placed entries, PlainChange place) →
        (DirtyGateExact paths entries ↔ RightlyRead paths entries)) ∧
      ∀ other : List StatusEntry, other.Perm entries → RightlyRead paths entries →
        RightlyRead paths other →
          workingTreeClean paths (statusOf other) = workingTreeClean paths (statusOf entries) := by
  have enough : ∀ entries, RightlyRead paths entries → DirtyGateExact paths entries := by
    intro entries right
    rw [dirtyGateExact_iff_lines]
    by_cases stopped : ∃ place ∈ placed entries, PlainChange place ∧ Stopped paths place
    · obtain ⟨place, inside, plain, stops⟩ := stopped
      exact letThrough_iff_harmless_of_stopped inside plain stops
    · obtain ⟨plain, errors⟩ := right.resolve_left stopped
      refine (letThrough_iff_harmless_of_plain plain fun place inside stops => ?_).mpr errors
      exact stopped ⟨place, inside, plain place inside, stops⟩
  refine ⟨enough entries, fun plain => ⟨fun exact_ => ?_, enough entries⟩, ?_⟩
  · rw [dirtyGateExact_iff_lines] at exact_
    by_cases stopped : ∃ place ∈ placed entries, PlainChange place ∧ Stopped paths place
    · exact .inl stopped
    · refine .inr ⟨plain, (letThrough_iff_harmless_of_plain plain fun place inside stops => ?_).mp exact_⟩
      exact stopped ⟨place, inside, plain place inside, stops⟩
  · intro other sameChanges right right'
    have sameHarm : OnlyHarmless paths other ↔ OnlyHarmless paths entries :=
      forall_congr' fun entry => by rw [sameChanges.mem_iff]
    rw [Bool.eq_iff_iff, (enough other right').clean, (enough entries right).clean, sameHarm]

/-- The paths of a project that configures none. -/
def defaultPaths : ConfigPaths where
  plan := ".ai-factory/PLAN.md"
  fixPlan := ".ai-factory/FIX_PLAN.md"
  plans := ".ai-factory/plans"

/-- ` M .ai-factory/PLAN.md`. -/
def planEdited : StatusEntry := .edited ".ai-factory/PLAN.md" (by decide)

theorem repositoryPath_source : RepositoryPath "src/a.ts" := by decide

/-- `R  src/a.ts -> .ai-factory/PLAN.md`. -/
def sourceMovedAway : StatusEntry :=
  .moved "src/a.ts" ".ai-factory/PLAN.md" (by decide) repositoryPath_source

/-- An edited plan is refused, and a source file that became the plan is let through. -/
theorem refused_plan_and_lost_source :
    ¬ DirtyGateExact defaultPaths [planEdited] ∧
      ¬ DirtyGateExact defaultPaths [sourceMovedAway] := by
  constructor
  · intro gate
    have harmless : OnlyHarmless defaultPaths [planEdited] := by
      unfold OnlyHarmless
      decide
    have refused : workingTreeClean defaultPaths (statusOf [planEdited]) = false := by
      decide +kernel
    exact absurd (gate.clean.mpr harmless) (by rw [refused]; exact Bool.false_ne_true)
  · intro gate
    have accepted : workingTreeClean defaultPaths (statusOf [sourceMovedAway]) = true := by
      decide +kernel
    have harmful : isHarmless defaultPaths sourceMovedAway = false := by decide
    have harmless := gate.clean.mp accepted sourceMovedAway (List.mem_singleton_self _)
    rw [harmful] at harmless
    cases harmless

end Exact

end AifHandoff.Shared.GitIsolation
