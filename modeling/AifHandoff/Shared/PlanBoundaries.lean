import AifHandoff.Lib.PathPattern
import AifHandoff.Shared.FencedContracts
import AifHandoff.Shared.PlanManifest

/-!
The boundaries of an approved plan, as the completion gate (`shared/implementationManifest.ts`)
and the plan gate (`shared/planQuality.ts`) read them.

The completion gate admits a changed file that one of the approved paths names; the plan gate
asks that the scope covers the paths of the task.
-/

namespace AifHandoff.Shared.PlanBoundaries

open Regex Json Manifest PathPattern

/-! ### The completion gate -/

def pathMatchesApprovedBoundary (path boundary : String) : Bool :=
  if Text.includes boundary "*" then test (globRegex (glob boundary.toList)) path
  else path == boundary || Text.startsWith path (boundary ++ "/")

def changedFileWithinApprovedPlan (path : String) (planManifest : AifPlanManifestSnapshot) : Bool :=
  let approvedPaths := planManifest.scope ++ planManifest.expectedArtifactPaths
  if approvedPaths.isEmpty then true
  else approvedPaths.any (pathMatchesApprovedBoundary path)

/-! ### The plan gate -/

/-- What the plan gate takes from the platform: the case folding of the `i` flag, and
`toLowerCase`. -/
structure Folding where
  canonicalize : Char → Char
  toLowerCase : String → String

/-- A pattern of the plan gate: every star stays in its segment. -/
def wildcardRegex (canonicalize : Char → Char) (pathPattern : String) : Regex :=
  .seq .startAnchor (cat (pathPattern.toList.map (fun c =>
    if c = '*' then many (noneOf "/") else .set (canonicalize · == canonicalize c)) ++ [.endAnchor]))

def wildcardPathPatternMatches (fold : Folding) (pathPattern candidatePath : String) : Bool :=
  if !Text.includes pathPattern "*" then false
  else test (wildcardRegex fold.canonicalize pathPattern) candidatePath

/-- `\.ya?ml$`. -/
def yamlEnd : Regex := cat [lit ".y", optional (lit "a"), lit "ml", .endAnchor]

def isComposeBoundaryAlias (fold : Folding) (pathPattern candidatePath : String) : Bool :=
  let normalizedPattern := fold.toLowerCase (PlanQuality.normalizePath pathPattern)
  let normalizedCandidate := fold.toLowerCase (PlanQuality.normalizePath candidatePath)
  test (cat [.startAnchor, optional (lit "docker-"), lit "compose*", yamlEnd]) normalizedPattern &&
    test (cat [.startAnchor, lit "docker-compose", yamlEnd]) normalizedCandidate

def planPathSatisfiesTaskPath (fold : Folding) (planPath taskPath : String) : Bool :=
  let normalizedPlanPath := PlanQuality.normalizePath planPath
  let normalizedTaskPath := PlanQuality.normalizePath taskPath
  normalizedPlanPath == normalizedTaskPath ||
    Text.startsWith normalizedPlanPath (normalizedTaskPath ++ "/") ||
    Text.startsWith normalizedTaskPath (normalizedPlanPath ++ "/") ||
    wildcardPathPatternMatches fold normalizedTaskPath normalizedPlanPath ||
    isComposeBoundaryAlias fold normalizedTaskPath normalizedPlanPath

/-! ### What an approved path stands for -/

/-- The path is the directory or file that a boundary writes, or below it, or matches its glob.
A slash at the end, a doubled one and a segment `.` change nothing. -/
inductive Names (boundary path : String) : Prop where
  | glob (star : Text.includes boundary "*" = true)
      (found : Matches (fun _ => True) (glob (Text.stripDotSlash boundary).toList) path.toList)
  | directory (noStar : Text.includes boundary "*" = false)
      (relative : Text.startsWith boundary "/" = false)
      (above : (segmentsOf boundary.toList).filter isName <+: segmentsOf path.toList)

/-- A boundary whose segments are names, or a glob that begins with no `./` and whose `**` need
cross no line break to match. -/
inductive PlainlyNames (boundary path : String) : Prop where
  | glob (star : Text.includes boundary "*" = true)
      (bare : Text.stripDotSlash boundary = boundary)
      (found : Matches NoLineBreak (glob boundary.toList) path.toList)
  | directory (noStar : Text.includes boundary "*" = false) (plain : RepositoryPath boundary)
      (above : segmentsOf boundary.toList <+: segmentsOf path.toList)

theorem matches_directory_iff {path boundary : String} :
    (path == boundary || Text.startsWith path (boundary ++ "/")) = true ↔
      segmentsOf boundary.toList <+: segmentsOf path.toList := by
  rw [segments_prefix_iff, Bool.or_eq_true, beq_iff_eq, Text.startsWith_iff, String.toList_append,
    slash_toList, String.toList_inj]

theorem repositoryPath_of_prefix {path boundary : String} (repository : RepositoryPath path)
    (under : segmentsOf boundary.toList <+: segmentsOf path.toList) : RepositoryPath boundary :=
  fun segment inside => repository segment (under.subset inside)

theorem filter_isName {boundary : String} (plain : RepositoryPath boundary) :
    (segmentsOf boundary.toList).filter isName = segmentsOf boundary.toList :=
  List.filter_eq_self.mpr plain

theorem pathMatchesApprovedBoundary_of_plainlyNames {boundary path : String}
    (plain : PlainlyNames boundary path) : pathMatchesApprovedBoundary path boundary = true := by
  rw [pathMatchesApprovedBoundary]
  cases plain with
  | glob star bare found =>
    rw [if_pos star]
    exact test_globRegex_iff.mpr found
  | directory noStar plain above =>
    rw [noStar, if_neg Bool.false_ne_true]
    exact matches_directory_iff.mpr above

theorem stripDotSlash_of_matches {crosses : Char → Prop} {boundary path : String}
    (repository : RepositoryPath path) (found : Matches crosses (glob boundary.toList) path.toList) :
    Text.stripDotSlash boundary = boundary := by
  rw [Text.stripDotSlash]
  split
  · rename_i rest starts
    exfalso
    have tokens : glob ('.' :: '/' :: rest) = .char '.' :: .char '/' :: glob rest := by
      simp [glob]
    rw [starts, tokens] at found
    obtain ⟨_, atDot, _, rfl, -⟩ := found
    have first : ['.'] ∈ segmentsOf path.toList := by
      rw [atDot, ← List.singleton_append, segmentsOf_append]
      exact List.mem_append_left _ (List.mem_singleton_self ['.'])
    exact absurd (repository ['.'] first) (by decide)
  · rfl

theorem names_of_pathMatchesApprovedBoundary {boundary path : String}
    (repository : RepositoryPath path)
    (admitted : pathMatchesApprovedBoundary path boundary = true) : Names boundary path := by
  rw [pathMatchesApprovedBoundary] at admitted
  cases star : Text.includes boundary "*" with
  | true =>
    rw [if_pos star, test_globRegex_iff] at admitted
    refine .glob star ?_
    rw [stripDotSlash_of_matches repository admitted]
    exact admitted.mono fun _ _ => trivial
  | false =>
    rw [star, if_neg Bool.false_ne_true, matches_directory_iff] at admitted
    have plain := repositoryPath_of_prefix repository admitted
    refine .directory star (relative_of_repositoryPath plain) ?_
    rw [filter_isName plain]
    exact admitted

/-! ### The approved paths of a plan -/

section Plan

variable {ν : Type} (N : NumberTexts ν) (env : Env)

/-- The paths of the scope and of the expected artifacts, as they are written. -/
def approvedPaths (manifest : Json ν) : List String :=
  textsField manifest "scope" ++ expectedArtifactPathsFromManifest (some manifest)

theorem mem_sortedUniquePaths {paths : List String} {boundary : String} :
    boundary ∈ sortedUniquePaths env paths ↔
      ∃ path ∈ paths, normalizePath path = boundary ∧ boundary ≠ "" := by
  rw [sortedUniquePaths, mem_sortedSet, List.mem_filter, List.mem_map]
  constructor
  · rintro ⟨⟨path, inside, same⟩, some_⟩
    exact ⟨path, inside, same, by simpa using some_⟩
  · rintro ⟨path, inside, same, some_⟩
    exact ⟨⟨path, inside, same⟩, by simpa using some_⟩

theorem names_blank (path : String) : Names "" path :=
  .directory (by decide) (by decide) List.nil_prefix

theorem plainlyNames_ne_blank {boundary path : String} (plain : PlainlyNames boundary path) :
    boundary ≠ "" := by
  rintro rfl
  cases plain with
  | glob star => exact absurd star (by decide)
  | directory _ plain => exact absurd (plain [] (List.mem_singleton_self [])) (by decide)

theorem mem_approved {raw : String} {manifest : Json ν}
    (parsed : parseJsonObject N raw = some manifest) (boundary : String) :
    boundary ∈ (snapshotOf N env raw).scope ++ (snapshotOf N env raw).expectedArtifactPaths ↔
      ∃ path ∈ approvedPaths manifest, normalizePath path = boundary ∧ boundary ≠ "" := by
  rw [List.mem_append, snapshotOf]
  simp only [parsed, mem_sortedUniquePaths, Option.map_some, Option.getD_some, approvedPaths,
    List.mem_append]
  constructor
  · rintro (⟨path, inside, rest⟩ | ⟨path, inside, rest⟩)
    · exact ⟨path, .inl inside, rest⟩
    · exact ⟨path, .inr inside, rest⟩
  · rintro ⟨path, inside | inside, rest⟩
    · exact .inl ⟨path, inside, rest⟩
    · exact .inr ⟨path, inside, rest⟩

theorem readAifPlanManifestSnapshot_of_single {plan raw : String}
    (single : extractPlanManifestBlocks plan = [raw]) :
    readAifPlanManifestSnapshot N env (some plan) = snapshotOf N env raw := by
  have some_ : plan.isEmpty = false := by
    rw [Bool.eq_false_iff, ne_eq, String.isEmpty_iff]
    rintro rfl
    have nothing : extractPlanManifestBlocks "" = [] := by decide
    rw [nothing] at single
    cases single
  obtain ⟨block, found, rfl⟩ : ∃ block, blocks planManifestLanguage plan = [block] ∧
      Text.trim block = raw := by
    rw [extractPlanManifestBlocks, List.map_eq_singleton_iff] at single
    exact single
  rw [readAifPlanManifestSnapshot]
  simp only [Option.filter_some, some_, Bool.not_false, if_true, found]

theorem within_iff {raw : String} {manifest : Json ν}
    (parsed : parseJsonObject N raw = some manifest) (path : String) :
    changedFileWithinApprovedPlan path (snapshotOf N env raw) = true ↔
      (∀ written ∈ approvedPaths manifest, normalizePath written = "") ∨
      ∃ written ∈ approvedPaths manifest, normalizePath written ≠ "" ∧
        pathMatchesApprovedBoundary path (normalizePath written) = true := by
  have members := mem_approved N env parsed
  rw [changedFileWithinApprovedPlan]
  generalize (snapshotOf N env raw).scope ++ (snapshotOf N env raw).expectedArtifactPaths =
    approved at members
  cases approved with
  | nil =>
    refine iff_of_true rfl (.inl fun written inside => ?_)
    by_contra some_
    exact absurd ((members _).mpr ⟨written, inside, rfl, some_⟩) List.not_mem_nil
  | cons first rest =>
    rw [List.isEmpty_cons, if_neg Bool.false_ne_true, List.any_eq_true]
    constructor
    · rintro ⟨boundary, inside, admitted⟩
      obtain ⟨written, among, rfl, some_⟩ := (members boundary).mp inside
      exact .inr ⟨written, among, some_, admitted⟩
    · rintro (blank | ⟨written, among, some_, admitted⟩)
      · obtain ⟨written, among, rfl, some_⟩ := (members first).mp List.mem_cons_self
        exact absurd (blank written among) some_
      · exact ⟨_, (members _).mpr ⟨written, among, rfl, some_⟩, admitted⟩

/-- The completion gate admits what the approved paths name. -/
structure BoundsChanges (manifest : Json ν) (planManifest : AifPlanManifestSnapshot)
    (path : String) : Prop where
  /-- Nothing else. -/
  named : changedFileWithinApprovedPlan path planManifest = true →
    ∃ written ∈ approvedPaths manifest, Names (normalizePath written) path
  /-- All that one of them plainly names. -/
  admitted : ∀ written ∈ approvedPaths manifest, PlainlyNames (normalizePath written) path →
    changedFileWithinApprovedPlan path planManifest = true
  /-- A task path that is a scope path, or below one that is no glob, is covered for the plan
  gate too. -/
  covered : ∀ (fold : Folding) (taskPath : String), ∀ scopePath ∈ textsField manifest "scope",
    normalizePath scopePath = scopePath → PlanQuality.normalizePath scopePath = scopePath →
    scopePath ≠ "" →
    (PlanQuality.normalizePath taskPath = scopePath ∨ (Text.includes scopePath "*" = false ∧
      Text.startsWith (PlanQuality.normalizePath taskPath) (scopePath ++ "/") = true)) →
    planPathSatisfiesTaskPath fold scopePath taskPath = true ∧
      changedFileWithinApprovedPlan (PlanQuality.normalizePath taskPath) planManifest = true

theorem planPathSatisfiesTaskPath_of_above {fold : Folding} {scopePath taskPath : String}
    (normal : PlanQuality.normalizePath scopePath = scopePath)
    (above : PlanQuality.normalizePath taskPath = scopePath ∨
      Text.startsWith (PlanQuality.normalizePath taskPath) (scopePath ++ "/") = true) :
    planPathSatisfiesTaskPath fold scopePath taskPath = true := by
  rw [planPathSatisfiesTaskPath, normal]
  rcases above with same | below
  · simp [same]
  · simp [below]

theorem pathMatchesApprovedBoundary_of_above {boundary path : String}
    (above : path = boundary ∨ (Text.includes boundary "*" = false ∧
      Text.startsWith path (boundary ++ "/") = true)) :
    pathMatchesApprovedBoundary path boundary = true := by
  rw [pathMatchesApprovedBoundary]
  rcases above with rfl | ⟨noStar, below⟩
  · split
    · have noBreak : NoLineBreak '*' := by
        rw [NoLineBreak]
        decide
      exact test_globRegex_iff.mpr (matches_self noBreak path.toList)
    · rw [beq_self_eq_true, Bool.true_or]
  · rw [noStar, if_neg Bool.false_ne_true, below, Bool.or_true]

/-- What the completion gate admits is named by an approved path, and what an approved path
plainly names it admits; and a task path that is a scope path, or below one that is no glob, is
covered for the plan gate and admitted by the completion gate. -/
theorem approved_paths_bound_the_changes {plan raw : String} {manifest : Json ν} {path : String}
    (single : extractPlanManifestBlocks plan = [raw])
    (parsed : parseJsonObject N raw = some manifest)
    (inScope : textsField manifest "scope" ≠ []) (repository : RepositoryPath path) :
    BoundsChanges manifest (readAifPlanManifestSnapshot N env (some plan)) path := by
  rw [readAifPlanManifestSnapshot_of_single N env single]
  constructor
  · intro within
    rcases (within_iff N env parsed path).mp within with blank | ⟨written, among, -, admitted⟩
    · obtain ⟨written, inside⟩ := List.exists_mem_of_ne_nil _ inScope
      have among : written ∈ approvedPaths manifest := List.mem_append_left _ inside
      refine ⟨written, among, ?_⟩
      rw [blank written among]
      exact names_blank path
    · exact ⟨written, among, names_of_pathMatchesApprovedBoundary repository admitted⟩
  · intro written among plain
    have some_ := plainlyNames_ne_blank plain
    have admitted := pathMatchesApprovedBoundary_of_plainlyNames plain
    exact (within_iff N env parsed path).mpr (.inr ⟨written, among, some_, admitted⟩)
  · intro fold taskPath scopePath inside normal planNormal some_ above
    have among : scopePath ∈ approvedPaths manifest := List.mem_append_left _ inside
    refine ⟨planPathSatisfiesTaskPath_of_above planNormal (above.imp_right And.right), ?_⟩
    refine (within_iff N env parsed _).mpr (.inr ⟨scopePath, among, by rwa [normal], ?_⟩)
    rw [normal]
    exact pathMatchesApprovedBoundary_of_above above

end Plan

section Sample

def samplePlatform : Env := ⟨id, codeUnitOrder, String.ofList⟩

def manifestOf (scope : String) : Json Unit :=
  .obj [("scope", .arr [.str scope]),
    ("expectedArtifacts",
      .arr [.obj [("kind", .str "source_diff"), ("paths", .arr [.str "src/a.ts"])]])]

def manifestText (scope : String) : String :=
  String.ofList (stringify unitNumbers.write (manifestOf scope))

def planOf (scope : String) : String :=
  "\x60\x60\x60aif-plan-manifest\n" ++ manifestText scope ++ "\n\x60\x60\x60"

theorem parsed_manifestText (scope : String) :
    parseJsonObject unitNumbers (manifestText scope) = some (manifestOf scope) := by
  have distinct : Distinct (manifestOf scope) := by
    simp [manifestOf, Distinct, Distinct.DistinctFields, Distinct.DistinctItems]
  rw [parseJsonObject, manifestText, String.toList_ofList,
    parse_stringify unitNumbers_lawful distinct]
  rfl

theorem single_planOf_src : extractPlanManifestBlocks (planOf "src") = [manifestText "src"] := by
  decide +kernel

theorem single_planOf_guide :
    extractPlanManifestBlocks (planOf "docs/guide.md") = [manifestText "docs/guide.md"] := by
  decide +kernel

end Sample

/-- A file under the scope `src`. -/
theorem approved_paths_bound_the_changes_src : BoundsChanges (manifestOf "src")
    (readAifPlanManifestSnapshot unitNumbers samplePlatform (some (planOf "src"))) "src/b.ts" :=
  approved_paths_bound_the_changes unitNumbers samplePlatform single_planOf_src
    (parsed_manifestText _) (by decide) (by decide)

/-- The scope alone does not bound the changes: an expected artifact outside of it is admitted.
And the plan gate counts the directory of a scope file as covered, which the completion gate
does not admit. -/
theorem artifact_and_directory_beyond_scope :
    (¬ ∀ (plan raw : String) (manifest : Json Unit) (path : String),
      extractPlanManifestBlocks plan = [raw] → parseJsonObject unitNumbers raw = some manifest →
      (PlanQuality.usefulScope manifest).isSome → (PlanQuality.expectedArtifacts manifest).isSome →
      RepositoryPath path →
      ((∃ written ∈ textsField manifest "scope", Names (normalizePath written) path) ↔
        changedFileWithinApprovedPlan path
          (readAifPlanManifestSnapshot unitNumbers samplePlatform (some plan)) = true)) ∧
    ∀ fold : Folding, ¬ ∀ (plan raw : String) (manifest : Json Unit) (taskPath : String),
      extractPlanManifestBlocks plan = [raw] → parseJsonObject unitNumbers raw = some manifest →
      (PlanQuality.usefulScope manifest).isSome → (PlanQuality.expectedArtifacts manifest).isSome →
      (∃ scopePath ∈ textsField manifest "scope",
        planPathSatisfiesTaskPath fold scopePath taskPath = true) →
      changedFileWithinApprovedPlan (PlanQuality.normalizePath taskPath)
        (readAifPlanManifestSnapshot unitNumbers samplePlatform (some plan)) = true := by
  constructor
  · intro alike
    have read := alike (planOf "docs/guide.md") (manifestText "docs/guide.md")
      (manifestOf "docs/guide.md") "src/a.ts" single_planOf_guide (parsed_manifestText _)
      (by decide) (by decide) (by decide)
    have admitted : changedFileWithinApprovedPlan "src/a.ts" (readAifPlanManifestSnapshot
        unitNumbers samplePlatform (some (planOf "docs/guide.md"))) = true := by
      rw [readAifPlanManifestSnapshot_of_single _ _ single_planOf_guide,
        within_iff _ _ (parsed_manifestText _)]
      exact .inr ⟨"src/a.ts", by decide, by decide, by decide⟩
    obtain ⟨written, inside, named⟩ := read.mpr admitted
    obtain rfl : written = "docs/guide.md" := List.mem_singleton.mp inside
    cases named with
    | glob star _ => exact absurd star (by decide)
    | directory _ _ above => exact absurd above (by decide)
  · intro fold alike
    have covered : planPathSatisfiesTaskPath fold "docs/guide.md" "docs" = true := by
      have below : Text.startsWith (PlanQuality.normalizePath "docs/guide.md")
          (PlanQuality.normalizePath "docs" ++ "/") = true := by decide
      rw [planPathSatisfiesTaskPath]
      simp [below]
    have admitted := alike (planOf "docs/guide.md") (manifestText "docs/guide.md")
      (manifestOf "docs/guide.md") "docs" single_planOf_guide (parsed_manifestText _)
      (by decide) (by decide) ⟨"docs/guide.md", List.mem_singleton.mpr rfl, covered⟩
    rw [readAifPlanManifestSnapshot_of_single _ _ single_planOf_guide,
      within_iff _ _ (parsed_manifestText _)] at admitted
    revert admitted
    decide

end AifHandoff.Shared.PlanBoundaries
