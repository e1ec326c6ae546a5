import AifHandoff.Lib.CaseFolding
import AifHandoff.Runtime.QwenPatch

/-!
The write boundaries of the local agent (`runtime/adapters/qwenLocalAgent/tools.ts`).

The entries of a list are resolved, lower-cased and compared with the lower-cased path. What the
entries say is a directory, or a glob, in the case of the file system.
-/

namespace AifHandoff.Runtime.WriteBoundaries

open PathPattern Regex QwenTools
open LexicalPath hiding up dot

/-! ### The rule -/

/-- A value that is no string is `none`. -/
def readAllowedWritePaths (toLowerCase : String → String) (projectRoot : String) :
    List (Option String) → List String → Except RuntimeExecutionError (List String)
  | [], allowed => .ok allowed
  | none :: rest, allowed => readAllowedWritePaths toLowerCase projectRoot rest allowed
  | some value :: rest, allowed =>
    if Text.trim value = "" then readAllowedWritePaths toLowerCase projectRoot rest allowed
    else
      match resolveInsideProjectRoot toLowerCase projectRoot value "allowed write path" with
      | .error e => .error e
      | .ok resolved =>
        let normalized := normalizePathForPolicy toLowerCase resolved.relativePath
        readAllowedWritePaths toLowerCase projectRoot rest
          (if normalized ∈ allowed then allowed else allowed ++ [normalized])

def isAllowedPathForContext (toLowerCase : String → String) (context : ToolContext)
    (relativePath : String) : Bool :=
  let normalized := normalizePathForPolicy toLowerCase relativePath
  if (policySegments toLowerCase relativePath).any generatedWriteDenyDirectorySegments.contains then
    false
  else if context.allowedWritePaths.isEmpty then true
  else context.allowedWritePaths.any (pathMatchesAllowedWriteBoundary normalized)

/-! ### What the entries say -/

section Entries

variable (casing : Text.LowerCasing) (sensitive : Bool) (projectRoot : String)
  (raw : List (Option String)) (path : String)

/-- The relative path of an entry that is not blank. -/
def declaredPath : Option String → Option String
  | none => none
  | some value =>
    if Text.trim value = "" then none
    else
      match resolveInsideProjectRoot casing.toLowerCase projectRoot value "allowed write path" with
      | .ok resolved => some resolved.relativePath
      | .error _ => none

def declaredPaths : List String := raw.filterMap (declaredPath casing projectRoot)

/-- The path is the entry, lies under it, or matches it. -/
def Covers (crosses : Char → Prop) (entry path : String) : Prop :=
  segmentsOf entry.toList <+: segmentsOf path.toList ∨
    '*' ∈ entry.toList ∧ Matches crosses (glob entry.toList) path.toList

/-- The text as the file system tells it from others. -/
def fileCase (text : String) : String := if sensitive then text else casing.toLowerCase text

/-- The path is in a generated or dependency directory. -/
def Generated (path : String) : Prop :=
  ∃ segment ∈ segmentsOf path.toList, String.ofList segment ∈ generatedWriteDenyDirectorySegments

/-- Some entry covers the path in the case of the file system; `.` is the whole root. -/
def Declared : Prop :=
  ∃ entry ∈ declaredPaths casing projectRoot raw, entry = "." ∨
    Covers (fun _ => True) (fileCase casing sensitive entry) (fileCase casing sensitive path)

/-- Some entry other than the whole root covers the path in the case of the file system. -/
def Covered : Prop :=
  ∃ entry ∈ declaredPaths casing projectRoot raw, entry ≠ "." ∧
    Covers (fun _ => True) (fileCase casing sensitive entry) (fileCase casing sensitive path)

/-- The verdict is what the entries say, in both copies of the rule. -/
structure BoundariesMean (context : ToolContext) : Prop where
  write : ∀ label, assertWritePathAllowed casing.toLowerCase context path label = .ok () ↔
    ¬ Generated (fileCase casing sensitive path) ∧ Declared casing sensitive projectRoot raw path
  packageScript : isAllowedPathForContext casing.toLowerCase context path = true ↔
    ∀ label, assertWritePathAllowed casing.toLowerCase context path label = .ok ()

/-- A path of the repository without backslashes, entries without them, no entry with a star that
is above the path as a directory, and no line break in the path where an entry has a star. -/
structure PlainlyWritten : Prop where
  repository : RepositoryPath path
  slashes : '\\' ∉ path.toList
  entrySlashes : ∀ entry ∈ declaredPaths casing projectRoot raw, '\\' ∉ entry.toList
  stars : ∀ entry ∈ declaredPaths casing projectRoot raw, '*' ∈ entry.toList →
    ¬ segmentsOf (casing.toLowerCase entry).toList <+: segmentsOf (casing.toLowerCase path).toList
  lines : (∀ c ∈ path.toList, NoLineBreak c) ∨
    ∀ entry ∈ declaredPaths casing projectRoot raw, '*' ∉ entry.toList

/-- The entry covers the path in one case only. -/
def CoversOnlyIn (cased other : String → String) (entry path : String) : Prop :=
  Covers (fun _ => True) (cased entry) (cased path) ∧
    ¬ Covers (fun _ => True) (other entry) (other path)

/-- Neither blank entries nor the entry `.` nor letter case decide. -/
structure ComparedWell : Prop where
  /-- A path that is in a generated directory but for letter case is covered by no entry. -/
  generated : Generated (casing.toLowerCase path) →
    Generated (fileCase casing sensitive path) ∨ ¬ Declared casing sensitive projectRoot raw path
  /-- Some entry is not blank. -/
  filled : ¬ Generated (casing.toLowerCase path) → declaredPaths casing projectRoot raw ≠ []
  /-- Where the whole root is an entry, another one covers the path up to letter case. -/
  wholeRoot : ¬ Generated (casing.toLowerCase path) →
    "." ∈ declaredPaths casing projectRoot raw → Covered casing false projectRoot raw path
  /-- Otherwise an entry in other letters than the path stands beside one in its letters. -/
  otherLetters : ¬ Generated (casing.toLowerCase path) →
    "." ∉ declaredPaths casing projectRoot raw → ∀ entry ∈ declaredPaths casing projectRoot raw,
      CoversOnlyIn casing.toLowerCase (fileCase casing sensitive) entry path →
        Covered casing sensitive projectRoot raw path
  /-- And one that lower case takes off the path beside one that it does not. -/
  sameLetters : ¬ Generated (casing.toLowerCase path) →
    "." ∉ declaredPaths casing projectRoot raw → ∀ entry ∈ declaredPaths casing projectRoot raw,
      CoversOnlyIn (fileCase casing sensitive) casing.toLowerCase entry path →
        Covered casing false projectRoot raw path

end Entries

/-! ### Entries that are read -/

section Read

variable {casing : Text.LowerCasing} {projectRoot path : String} {raw : List (Option String)}
  {allowed : List String}

/-- A name of a place that a path leads to is one of the place it starts from, or of the path. -/
theorem mem_resolve {place ns : List Name} {name : Name} (inside : name ∈ resolve place ns) :
    name ∈ place ∨ name ∈ ns ∧ name ≠ [] ∧ name ≠ LexicalPath.dot := by
  induction ns generalizing place with
  | nil => exact .inl inside
  | cons first rest ih =>
    rcases @ih (step place first) inside with there | ⟨later, named⟩
    · rw [step] at there
      split at there
      · exact .inl there
      · rename_i named
        split at there
        · exact .inl (List.mem_of_mem_dropLast there)
        · rcases List.mem_append.mp there with before | last
          · exact .inl before
          · rw [List.mem_singleton.mp last]
            exact .inr ⟨List.mem_cons_self, not_or.mp named⟩
    · exact .inr ⟨List.mem_cons_of_mem _ later, named⟩

theorem relativeNames_append (start rest : List Name) :
    relativeNames start (start ++ rest) = rest := by
  induction start with
  | nil => rfl
  | cons here deeper ih => rw [List.cons_append, relativeNames, if_pos rfl, ih]

theorem relativePath_of_ok {toLowerCase : String → String} {root value label : String}
    {candidate : Candidate}
    (ok : resolveInsideProjectRoot toLowerCase root value label = .ok candidate) :
    ∃ rest, pathResolve root "" ++ rest = pathResolve root (orHere (Text.trim value)) ∧
      candidate.relativePath = orHere (String.ofList (['/'].intercalate rest)) := by
  rw [resolveInsideProjectRoot] at ok
  generalize orHere (Text.trim value) = rawPath at ok ⊢
  simp only at ok
  split at ok; · cases ok
  split at ok; · cases ok
  split at ok; · cases ok
  split at ok; · cases ok
  split at ok; · cases ok
  split at ok; · cases ok
  rename_i stays
  split at ok; · cases ok
  split at ok; · cases ok
  rw [Bool.or_eq_true, not_or, Bool.not_eq_true] at stays
  obtain ⟨rest, below⟩ := prefix_of_relative stays.1
  obtain rfl := Except.ok.inj ok
  refine ⟨rest, below, ?_⟩
  show orHere (pathRelative (pathResolve root "") (pathResolve root rawPath)) = _
  rw [pathRelative, ← below, relativeNames_append]

theorem mem_pathResolve {root value : String} {name : Name}
    (inside : name ∈ pathResolve root value) :
    name ≠ [] ∧ name ≠ LexicalPath.dot ∧ '/' ∉ name := by
  have named {text : List Char} (isName : name ∈ names text) : '/' ∉ name :=
    slash_not_mem (mem_names.mp isName).1
  rw [pathResolve] at inside
  rcases mem_resolve inside with there | ⟨isName, some_, notDot⟩
  · rcases mem_resolve there with nowhere | ⟨isName, some_, notDot⟩
    · cases nowhere
    · exact ⟨some_, notDot, named isName⟩
  · exact ⟨some_, notDot, named isName⟩

/-- A place inside the project is the root or has a path below it. -/
theorem relativePath_cases {toLowerCase : String → String} {root value label : String}
    {candidate : Candidate}
    (ok : resolveInsideProjectRoot toLowerCase root value label = .ok candidate) :
    candidate.relativePath = "." ∨ RepositoryPath candidate.relativePath := by
  obtain ⟨rest, below, is⟩ := relativePath_of_ok ok
  have isNames : ∀ name ∈ rest, name ≠ [] ∧ name ≠ LexicalPath.dot ∧ '/' ∉ name := by
    intro name inside
    apply @mem_pathResolve root (orHere (Text.trim value))
    rw [← below]
    exact List.mem_append_right _ inside
  rw [is]
  by_cases none_ : rest = []
  · rw [none_]
    exact .inl rfl
  · right
    have segments := segmentsOf_intercalate (fun name inside => (isNames name inside).2.2) none_
    have text : String.ofList (['/'].intercalate rest) ≠ "" := by
      intro nothing
      have chars := congrArg String.toList nothing
      rw [String.toList_ofList] at chars
      rw [chars] at segments
      have first : [] ∈ rest := by
        rw [← segments]
        exact List.mem_singleton_self []
      exact (isNames [] first).1 rfl
    rw [orHere_of_ne text]
    intro segment inside
    rw [String.toList_ofList, segments] at inside
    obtain ⟨some_, notDot, -⟩ := isNames segment inside
    simp only [isName, Bool.and_eq_true, Bool.not_eq_true', bne_iff_ne, ne_eq,
      List.isEmpty_eq_false_iff]
    exact ⟨some_, notDot⟩

theorem declaredPath_cases {entry : String}
    (declared : entry ∈ declaredPaths casing projectRoot raw) :
    entry = "." ∨ RepositoryPath entry := by
  obtain ⟨value, -, read⟩ := List.mem_filterMap.mp declared
  cases value with
  | none => cases read
  | some value =>
    rw [declaredPath] at read
    split at read
    · cases read
    · split at read
      · rename_i resolved found
        obtain rfl := Option.some.inj read
        exact relativePath_cases found
      · cases read

/-- What is read of a list are its entries, each once. -/
theorem mem_readAllowedWritePaths {before : List String}
    (read : readAllowedWritePaths casing.toLowerCase projectRoot raw before = .ok allowed)
    (normalized : String) :
    normalized ∈ allowed ↔ normalized ∈ before ∨ ∃ entry ∈ declaredPaths casing projectRoot raw,
      normalizePathForPolicy casing.toLowerCase entry = normalized := by
  induction raw generalizing before with
  | nil =>
    cases read
    simp [declaredPaths]
  | cons value rest ih =>
    have unread (none_ : declaredPath casing projectRoot value = none) :
        declaredPaths casing projectRoot (value :: rest) = declaredPaths casing projectRoot rest :=
      List.filterMap_cons_none none_
    cases value with
    | none =>
      rw [unread rfl]
      exact ih read
    | some value =>
      rw [readAllowedWritePaths] at read
      split at read
      next blank =>
        rw [unread (by rw [declaredPath, if_pos blank])]
        exact ih read
      next filled =>
        split at read
        next e _ => cases read
        next resolved found =>
          have is : declaredPath casing projectRoot (some value) = some resolved.relativePath := by
            rw [declaredPath, if_neg filled, found]
          have entries : declaredPaths casing projectRoot (some value :: rest) =
              resolved.relativePath :: declaredPaths casing projectRoot rest :=
            List.filterMap_cons_some is
          rw [ih read, entries, List.exists_mem_cons_iff]
          split
          next inside =>
            constructor
            · rintro (old | ⟨entry, later, same⟩)
              · exact .inl old
              · exact .inr (.inr ⟨entry, later, same⟩)
            · rintro (old | same | later)
              · exact .inl old
              · exact .inl (same ▸ inside)
              · exact .inr later
          next => rw [List.mem_append, List.mem_singleton, or_assoc, eq_comm]

theorem allowed_eq_nil_iff
    (read : readAllowedWritePaths casing.toLowerCase projectRoot raw [] = .ok allowed) :
    allowed = [] ↔ declaredPaths casing projectRoot raw = [] := by
  simp only [List.eq_nil_iff_forall_not_mem, mem_readAllowedWritePaths read, List.not_mem_nil,
    false_or, not_exists, not_and]
  exact ⟨fun none_ entry declared => none_ _ entry declared rfl,
    fun none_ _ entry declared => absurd declared (none_ entry)⟩

end Read

/-! ### What the rule compares -/

/-- An entry with a star is a glob and no directory, and `**` crosses no line break. -/
def PolicyCovers (entry path : String) : Prop :=
  if '*' ∈ entry.toList then Matches NoLineBreak (glob entry.toList) path.toList
  else segmentsOf entry.toList <+: segmentsOf path.toList

section Rule

variable {casing : Text.LowerCasing} {sensitive : Bool} {projectRoot path entry : String}
  {raw : List (Option String)} {context : ToolContext}

theorem pathMatches_iff {normalizedPath allowedBoundary : String} :
    pathMatchesAllowedWriteBoundary normalizedPath allowedBoundary = true ↔
      PolicyCovers allowedBoundary normalizedPath := by
  have star : Text.includes allowedBoundary "*" = decide ('*' ∈ allowedBoundary.toList) := by
    rw [Text.includes]
    exact decide_eq_decide.mpr (List.singleton_infix_iff '*' _)
  unfold pathMatchesAllowedWriteBoundary PolicyCovers
  rw [star]
  by_cases has : '*' ∈ allowedBoundary.toList
  · rw [if_pos (decide_eq_true has), if_pos has, test_globRegex_iff]
  · rw [if_neg (by simpa using has), if_neg has, segments_prefix_iff, Bool.or_eq_true, beq_iff_eq,
      Text.startsWith_iff, String.toList_append, slash_toList, String.toList_inj]

theorem assertWritePathAllowed_iff {toLowerCase : String → String} (label : String) :
    assertWritePathAllowed toLowerCase context path label = .ok () ↔
      isAllowedPathForContext toLowerCase context path = true := by
  unfold assertWritePathAllowed isAllowedPathForContext
  dsimp only
  split
  next deniedSegment found =>
    have inside := List.mem_of_find?_eq_some found
    have denied := List.find?_some found
    rw [if_pos (List.any_eq_true.mpr ⟨_, inside, denied⟩)]
    simp
  next none_ =>
    have absent : (policySegments toLowerCase path).any
        generatedWriteDenyDirectorySegments.contains = false := by
      rw [List.any_eq_false]
      exact fun segment inside => by simpa using List.find?_eq_none.mp none_ segment inside
    rw [absent, if_neg Bool.false_ne_true]
    split_ifs <;> simp_all

theorem dropEndSlashes_of_repositoryPath (repository : RepositoryPath path) :
    dropEndSlashes path = path := by
  have kept : path.toList.reverse.dropWhile (· == '/') = path.toList.reverse := by
    cases reversed : path.toList.reverse with
    | nil => rfl
    | cons c rest =>
      apply List.dropWhile_cons_of_neg
      rw [beq_iff_eq]
      rintro rfl
      have text : path.toList = rest.reverse ++ '/' :: [] := by
        rw [← List.reverse_reverse path.toList, reversed, List.reverse_cons]
      have last : [] ∈ segmentsOf path.toList := by
        rw [text, segmentsOf_append]
        exact List.mem_append_right _ (List.mem_singleton_self [])
      exact absurd (repository [] last) (by decide)
  rw [dropEndSlashes, kept, List.reverse_reverse, String.ofList_toList]

/-- A plainly written path is compared in lower case. -/
theorem normalizePathForPolicy_plain (repository : RepositoryPath path)
    (slashes : '\\' ∉ path.toList) :
    normalizePathForPolicy casing.toLowerCase path = casing.toLowerCase path := by
  rw [normalizePathForPolicy, forwardSlashes_of_no_backslash slashes,
    dropEndSlashes_of_repositoryPath repository]

theorem generated_iff (repository : RepositoryPath path) (slashes : '\\' ∉ path.toList) :
    (policySegments casing.toLowerCase path).any generatedWriteDenyDirectorySegments.contains =
        true ↔ Generated (casing.toLowerCase path) := by
  rw [policySegments, normalizePathForPolicy_plain repository slashes, List.any_map,
    List.any_eq_true, Generated]
  constructor
  · rintro ⟨segment, isName, denied⟩
    exact ⟨segment, (mem_names.mp isName).1, List.contains_iff_mem.mp denied⟩
  · rintro ⟨segment, inside, denied⟩
    refine ⟨segment, mem_names.mpr ⟨inside, ?_⟩, List.contains_iff_mem.mpr denied⟩
    rintro rfl
    exact absurd denied (by decide)

theorem generated_lower (generated : Generated (fileCase casing sensitive path)) :
    Generated (casing.toLowerCase path) := by
  cases sensitive with
  | false => exact generated
  | true =>
    obtain ⟨segment, inside, denied⟩ := generated
    have lower : ∀ name ∈ generatedWriteDenyDirectorySegments,
        (∀ c ∈ name.toList, c.toNat < 128) ∧ name.toList.flatMap Text.lowerChar = name.toList := by
      decide
    obtain ⟨ascii, same⟩ := lower _ denied
    rw [String.toList_ofList] at ascii same
    refine ⟨segment, ?_, denied⟩
    rw [← casing.chars_toList, casing.segmentsOf_chars, List.mem_map]
    exact ⟨segment, inside, (casing.chars_ascii ascii).trans same⟩

theorem matches_iff_of_lines {tokens : List GlobToken} {text : List Char}
    (lines : ∀ c ∈ text, NoLineBreak c) :
    Matches NoLineBreak tokens text ↔ Matches (fun _ => True) tokens text := by
  refine ⟨fun found => found.mono fun _ _ => trivial, fun found => ?_⟩
  induction tokens generalizing text with
  | nil => exact found
  | cons token tokens ih =>
    cases token with
    | char c =>
      obtain ⟨rest, rfl, later⟩ := found
      exact ⟨rest, rfl, ih (fun d inside => lines d (List.mem_cons_of_mem _ inside)) later⟩
    | within =>
      obtain ⟨read, rest, rfl, plain, later⟩ := found
      exact ⟨read, rest, rfl, plain,
        ih (fun d inside => lines d (List.mem_append_right _ inside)) later⟩
    | across =>
      obtain ⟨read, rest, rfl, -, later⟩ := found
      exact ⟨read, rest, rfl, fun d inside => lines d (List.mem_append_left _ inside),
        ih (fun d inside => lines d (List.mem_append_right _ inside)) later⟩

theorem lines_lower (lines : ∀ c ∈ path.toList, NoLineBreak c) :
    ∀ c ∈ (casing.toLowerCase path).toList, NoLineBreak c := by
  intro c inside
  rw [NoLineBreak, Bool.eq_false_iff]
  intro break_
  have noLetter : Text.NoLetter c := by
    have each : ∀ d ∈ ['\n', '\r', '\u2028', '\u2029'], Text.NoLetter d := by decide
    exact each c (of_decide_eq_true break_)
  have line := lines c ((casing.own _ c noLetter).mp inside)
  rw [NoLineBreak, break_] at line
  cases line

theorem policyCovers_iff (plain : PlainlyWritten casing projectRoot raw path)
    (declared : entry ∈ declaredPaths casing projectRoot raw) (notRoot : entry ≠ ".") :
    PolicyCovers (normalizePathForPolicy casing.toLowerCase entry)
        (normalizePathForPolicy casing.toLowerCase path) ↔
      Covers (fun _ => True) (casing.toLowerCase entry) (casing.toLowerCase path) := by
  have repository := (declaredPath_cases declared).resolve_left notRoot
  rw [normalizePathForPolicy_plain plain.repository plain.slashes,
    normalizePathForPolicy_plain repository (plain.entrySlashes entry declared), PolicyCovers,
    Covers]
  have starIff := casing.own entry '*' (by decide)
  by_cases star : '*' ∈ entry.toList
  · have starLower := starIff.mpr star
    rw [if_pos starLower, or_iff_right (plain.stars entry declared star), and_iff_right starLower]
    have lines := plain.lines.resolve_right fun none_ => none_ entry declared star
    exact matches_iff_of_lines (lines_lower lines)
  · have noStar := mt starIff.mp star
    rw [if_neg noStar, or_iff_left fun glob => noStar glob.1]

theorem not_policyCovers_root (repository : RepositoryPath path) (slashes : '\\' ∉ path.toList) :
    ¬ PolicyCovers (normalizePathForPolicy casing.toLowerCase ".")
      (normalizePathForPolicy casing.toLowerCase path) := by
  have root : normalizePathForPolicy casing.toLowerCase "." = "." := casing.ascii _ (by decide)
  have noStar : '*' ∉ ".".toList := by decide
  have segments : segmentsOf ".".toList = [['.']] := by decide
  rw [root, normalizePathForPolicy_plain repository slashes, PolicyCovers, if_neg noStar, segments]
  intro above
  have first := casing.repositoryPath repository ['.'] (above.subset (List.mem_singleton_self _))
  cases first

/-- What the boundaries of a list admit of plainly written paths: those that are in no generated
directory, and that some entry covers unless none is read. All of it up to letter case. -/
theorem isAllowedPathForContext_iff (plain : PlainlyWritten casing projectRoot raw path)
    (read : readAllowedWritePaths casing.toLowerCase projectRoot raw [] =
      .ok context.allowedWritePaths) :
    isAllowedPathForContext casing.toLowerCase context path = true ↔
      ¬ Generated (casing.toLowerCase path) ∧ (declaredPaths casing projectRoot raw = [] ∨
        Covered casing false projectRoot raw path) := by
  have covered : (context.allowedWritePaths.any (pathMatchesAllowedWriteBoundary
      (normalizePathForPolicy casing.toLowerCase path))) = true ↔
      Covered casing false projectRoot raw path := by
    rw [List.any_eq_true]
    constructor
    · rintro ⟨boundary, inside, admits⟩
      obtain nowhere | ⟨entry, declared, rfl⟩ := (mem_readAllowedWritePaths read boundary).mp inside
      · cases nowhere
      · have covers := pathMatches_iff.mp admits
        have notRoot : entry ≠ "." := by
          rintro rfl
          exact not_policyCovers_root plain.repository plain.slashes covers
        exact ⟨entry, declared, notRoot, (policyCovers_iff plain declared notRoot).mp covers⟩
    · rintro ⟨entry, declared, notRoot, covers⟩
      exact ⟨_, (mem_readAllowedWritePaths read _).mpr (.inr ⟨entry, declared, rfl⟩),
        pathMatches_iff.mpr ((policyCovers_iff plain declared notRoot).mpr covers)⟩
  rw [← generated_iff plain.repository plain.slashes, ← covered, ← allowed_eq_nil_iff read]
  unfold isAllowedPathForContext
  dsimp only
  split_ifs with generated none_
  · simp [generated]
  · simp [generated, List.isEmpty_iff.mp none_]
  · have some_ : context.allowedWritePaths ≠ [] := by simpa using none_
    simp [generated, some_]

theorem declared_iff : Declared casing sensitive projectRoot raw path ↔
    "." ∈ declaredPaths casing projectRoot raw ∨ Covered casing sensitive projectRoot raw path := by
  constructor
  · rintro ⟨entry, declared, rfl | covers⟩
    · exact .inl declared
    · by_cases root : entry = "."
      · exact .inl (root ▸ declared)
      · exact .inr ⟨entry, declared, root, covers⟩
  · rintro (root | ⟨entry, declared, -, covers⟩)
    · exact ⟨".", root, .inl rfl⟩
    · exact ⟨entry, declared, .inr covers⟩

theorem boundariesMean_iff : BoundariesMean casing sensitive projectRoot raw path context ↔
    (isAllowedPathForContext casing.toLowerCase context path = true ↔
      ¬ Generated (fileCase casing sensitive path) ∧
        Declared casing sensitive projectRoot raw path) := by
  constructor
  · rintro ⟨write, -⟩
    exact (assertWritePathAllowed_iff "").symm.trans (write "")
  · intro meant
    refine ⟨fun label => (assertWritePathAllowed_iff label).trans meant, ?_, ?_⟩
    · exact fun allowed label => (assertWritePathAllowed_iff label).mpr allowed
    · exact fun all => (assertWritePathAllowed_iff "").mp (all "")

/-- When the verdict on a plainly written path is what the entries of a list say. -/
theorem boundaries_mean_iff (casing : Text.LowerCasing) (sensitive : Bool)
    {projectRoot path : String} {raw : List (Option String)} {context : ToolContext}
    (read : readAllowedWritePaths casing.toLowerCase projectRoot raw [] =
      .ok context.allowedWritePaths)
    (plain : PlainlyWritten casing projectRoot raw path) :
    BoundariesMean casing sensitive projectRoot raw path context ↔
      ComparedWell casing sensitive projectRoot raw path := by
  rw [boundariesMean_iff, isAllowedPathForContext_iff plain read, declared_iff]
  by_cases generated : Generated (casing.toLowerCase path)
  · -- The rule refuses the path.
    constructor
    · intro meant
      refine ⟨fun _ => ?_, fun free => absurd generated free, fun free => absurd generated free,
        fun free => absurd generated free, fun free => absurd generated free⟩
      by_contra neither
      rw [not_or, not_not, declared_iff] at neither
      exact (meant.mpr neither).1 generated
    · intro well
      refine iff_of_false (fun allowed => allowed.1 generated) fun said => ?_
      rcases well.generated generated with isGenerated | undeclared
      · exact said.1 isGenerated
      · exact undeclared (declared_iff.mpr said.2)
  · have free : ¬ Generated (fileCase casing sensitive path) := mt generated_lower generated
    rw [and_iff_right generated, and_iff_right free]
    constructor
    · intro meant
      refine ⟨fun isGenerated => absurd isGenerated generated, fun _ none_ => ?_, fun _ root => ?_,
        fun _ noRoot entry declared only => ?_, fun _ noRoot entry declared only => ?_⟩
      · -- With no entry at all the rule admits what nothing covers.
        rcases meant.mp (.inl none_) with root | ⟨entry, declared, -⟩
        · rw [none_] at root
          cases root
        · rw [none_] at declared
          cases declared
      · rcases meant.mpr (.inl root) with none_ | covered
        · rw [none_] at root
          cases root
        · exact covered
      · have covered : Covered casing false projectRoot raw path :=
          ⟨entry, declared, fun root => noRoot (root ▸ declared), only.1⟩
        exact (meant.mp (.inr covered)).resolve_left noRoot
      · have covered : Covered casing sensitive projectRoot raw path :=
          ⟨entry, declared, fun root => noRoot (root ▸ declared), only.1⟩
        apply (meant.mpr (.inr covered)).resolve_left
        intro none_
        rw [none_] at declared
        cases declared
    · intro well
      rw [or_iff_right (well.filled generated)]
      by_cases root : "." ∈ declaredPaths casing projectRoot raw
      · exact iff_of_true (well.wholeRoot generated root) (.inl root)
      · rw [or_iff_right root]
        constructor
        · rintro ⟨entry, declared, notRoot, covers⟩
          by_cases same : Covers (fun _ => True) (fileCase casing sensitive entry)
              (fileCase casing sensitive path)
          · exact ⟨entry, declared, notRoot, same⟩
          · exact well.otherLetters generated root entry declared ⟨covers, same⟩
        · rintro ⟨entry, declared, notRoot, covers⟩
          by_cases same : Covers (fun _ => True) (casing.toLowerCase entry)
              (casing.toLowerCase path)
          · exact ⟨entry, declared, notRoot, same⟩
          · exact well.sameLetters generated root entry declared ⟨covers, same⟩

/-- On a plainly written path the verdict is right where everything is written in lower case, some
entry is not blank and none is the whole root. -/
theorem boundaries_mean_of_plain
    (read : readAllowedWritePaths casing.toLowerCase projectRoot raw [] =
      .ok context.allowedWritePaths)
    (plain : PlainlyWritten casing projectRoot raw path)
    (filled : declaredPaths casing projectRoot raw ≠ [])
    (noRoot : "." ∉ declaredPaths casing projectRoot raw)
    (lower : casing.toLowerCase path = path)
    (entriesLower : ∀ entry ∈ declaredPaths casing projectRoot raw,
      casing.toLowerCase entry = entry) :
    BoundariesMean casing sensitive projectRoot raw path context := by
  have sameCase : ∀ text, casing.toLowerCase text = text →
      ∀ sensitive, fileCase casing sensitive text = text := by
    intro text isLower sensitive
    cases sensitive with
    | true => rfl
    | false => exact isLower
  rw [boundaries_mean_iff casing sensitive read plain]
  refine ⟨fun generated => ?_, fun _ => filled, fun _ root => absurd root noRoot,
    fun _ _ entry declared only => ?_, fun _ _ entry declared only => ?_⟩
  · left
    rwa [sameCase path lower, ← lower]
  · rw [CoversOnlyIn, sameCase path lower, sameCase entry (entriesLower entry declared), lower,
      entriesLower entry declared] at only
    exact absurd only.1 only.2
  · rw [CoversOnlyIn, sameCase path lower, sameCase entry (entriesLower entry declared), lower,
      entriesLower entry declared] at only
    exact absurd only.1 only.2

end Rule

/-! ### Concrete lists -/

/-- An entry with a slash behind it is its directory, and a file in it is judged right. -/
theorem boundaries_mean_in_a_directory :
    BoundariesMean Text.simpleLowerCasing true "/r" [some "docs/"] "docs/a.md"
      ⟨"/r", ["docs"], false⟩ := by
  have entries : declaredPaths Text.simpleLowerCasing "/r" [some "docs/"] = ["docs"] := by decide
  have plain : PlainlyWritten Text.simpleLowerCasing "/r" [some "docs/"] "docs/a.md" := by
    refine ⟨by decide, by decide, ?_, ?_, .inl (by unfold NoLineBreak; decide)⟩
    · rw [entries]
      decide
    · rw [entries]
      decide
  refine (boundaries_mean_iff Text.simpleLowerCasing true (by decide) plain).mpr ?_
  have docs : Text.toLowerCase "docs" = "docs" ∧ Text.toLowerCase "docs/a.md" = "docs/a.md" := by
    decide
  refine ⟨fun generated => ?_, fun _ => ?_, fun _ root => ?_, fun _ _ entry declared only => ?_,
    fun _ _ entry declared only => ?_⟩
  · exact .inl generated
  · rw [entries]
    exact List.cons_ne_nil _ _
  · rw [entries] at root
    exact absurd root (by decide)
  · rw [entries, List.mem_singleton] at declared
    simp [CoversOnlyIn, declared, fileCase, Text.simpleLowerCasing, docs] at only
  · rw [entries, List.mem_singleton] at declared
    simp [CoversOnlyIn, declared, fileCase, Text.simpleLowerCasing, docs] at only

/-- A list whose only entry is blank restricts nothing. -/
theorem blank_list_restricts_nothing :
    readAllowedWritePaths Text.toLowerCase "/r" [some " "] [] = .ok [] ∧
      ¬ BoundariesMean Text.simpleLowerCasing true "/r" [some " "] "src/a.ts"
        ⟨"/r", [], false⟩ := by
  have allowed : assertWritePathAllowed Text.toLowerCase ⟨"/r", [], false⟩ "src/a.ts" "path" =
      .ok () := by decide
  refine ⟨by decide, fun means => ?_⟩
  obtain ⟨-, entry, declared, -⟩ := (means.write "path").mp allowed
  have none_ : declaredPaths Text.simpleLowerCasing "/r" [some " "] = [] := by decide
  rw [none_] at declared
  cases declared

end AifHandoff.Runtime.WriteBoundaries
