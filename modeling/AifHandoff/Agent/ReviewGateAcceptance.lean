import AifHandoff.Agent.ReviewGate

/-!
What the review gate accepts without structured comments.
-/

namespace AifHandoff.Agent.Review

open Text Regex

/-! ### Filtering -/

/-- A finding that one of the filters removes. -/
def isDroppedFinding (env : ReviewGateEnv) (reviewComments : Option String)
    (finding : AutoReviewFinding) : Bool :=
  isAmbiguousProductScopeOperatorInputFinding finding || env.refutedByConfiguration finding ||
    isRefutedJsonSyntaxFinding env finding ||
    isRefutedSecurityCoverageContractOnlyFinding env reviewComments finding

theorem filterActionableBlockingFindings_eq (env : ReviewGateEnv) (reviewComments : Option String)
    (findings : List AutoReviewFinding) :
    filterActionableBlockingFindings env reviewComments findings =
      findings.filter (!isDroppedFinding env reviewComments ·) := by
  simp only [filterActionableBlockingFindings, filterRefutedRepositoryFindings,
    filterNonBlockingOperatorInputFindings, List.filter_filter]
  apply List.filter_congr
  intro finding _
  simp only [isDroppedFinding, Bool.not_or]
  cases isAmbiguousProductScopeOperatorInputFinding finding <;>
    cases env.refutedByConfiguration finding <;>
    cases isRefutedJsonSyntaxFinding env finding <;> simp

/-! ### Merging the findings of rows -/

section Rows

variable (env : ReviewGateEnv)

/-- The finding of a row of the text. -/
abbrev rowFinding (row : String) : AutoReviewFinding := reviewGateFinding env.toPlatform row

/-- Merging a row into the findings of other rows leaves findings of rows, and one under its id. -/
theorem addFinding_rows {map : List AutoReviewFinding} {rows : List String} (row : String)
    (fromRows : ∀ finding ∈ map, ∃ twin ∈ rows, finding = rowFinding env twin) :
    (∀ finding ∈ addFinding map (rowFinding env row),
      ∃ twin ∈ rows ++ [row], finding = rowFinding env twin) ∧
    rowFinding env row ∈ addFinding map (rowFinding env row) ∧
    ∀ finding ∈ map, ∃ kept ∈ addFinding map (rowFinding env row), kept.id = finding.id := by
  have set_ : addFinding map (rowFinding env row) =
      Keyed.set (·.id) map (rowFinding env row) := by
    unfold addFinding
    cases found : map.find? (·.id == (rowFinding env row).id) with
    | none => rfl
    | some existing =>
      obtain ⟨twin, _, eq⟩ := fromRows existing (List.mem_of_find?_eq_some found)
      subst eq
      rfl
  rw [set_]
  refine ⟨?_, Keyed.self_mem_set, ?_⟩
  · intro finding inside
    unfold Keyed.set at inside
    split at inside
    · obtain ⟨earlier, among, eq⟩ := List.mem_map.mp inside
      split at eq
      · exact ⟨row, by simp, eq.symm⟩
      · obtain ⟨twin, known, rfl⟩ := fromRows earlier among
        exact ⟨twin, List.mem_append_left _ known, eq.symm⟩
    · rcases List.mem_append.mp inside with among | new
      · obtain ⟨twin, known, eq⟩ := fromRows finding among
        exact ⟨twin, List.mem_append_left _ known, eq⟩
      · exact ⟨row, by simp, List.mem_singleton.mp new⟩
  · intro finding inside
    by_cases same : finding.id = (rowFinding env row).id
    · exact ⟨rowFinding env row, Keyed.self_mem_set, same.symm⟩
    · exact ⟨finding, Keyed.mem_set_of_ne inside same, rfl⟩

theorem foldl_addFinding_rows (rows : List String) :
    (∀ finding ∈ (rows.map (rowFinding env)).foldl addFinding [],
      ∃ twin ∈ rows, finding = rowFinding env twin) ∧
    ∀ row ∈ rows, ∃ kept ∈ (rows.map (rowFinding env)).foldl addFinding [],
      kept.id = (rowFinding env row).id := by
  induction rows using List.reverseRecOn with
  | nil => simp
  | append_singleton rows row ih =>
    obtain ⟨fromRows, keeps⟩ := ih
    obtain ⟨fromRows', self, keeps'⟩ := addFinding_rows env row fromRows
    rw [List.map_append, List.foldl_append]
    refine ⟨fromRows', ?_⟩
    intro other inside
    rcases List.mem_append.mp inside with earlier | last
    · obtain ⟨kept, among, same⟩ := keeps other earlier
      obtain ⟨kept', among', same'⟩ := keeps' kept among
      exact ⟨kept', among', same'.trans same⟩
    · exact ⟨_, self, by rw [List.mem_singleton.mp last]⟩

/-- A row whose finding a filter removes, under the text of one of the rows with its id. -/
def IsDroppedRow (reviewComments : Option String) (rows : List String) (row : String) : Prop :=
  ∃ twin ∈ rows, (rowFinding env twin).id = (rowFinding env row).id ∧
    isDroppedFinding env reviewComments (rowFinding env twin) = true

theorem dropped_of_filtered {reviewComments : Option String} {rows : List String}
    (nothing : filterActionableBlockingFindings env reviewComments
      (mergeFindings [rows.map (rowFinding env), []]) = []) :
    ∀ row ∈ rows, IsDroppedRow env reviewComments rows row := by
  intro row inside
  obtain ⟨fromRows, keeps⟩ := foldl_addFinding_rows env rows
  obtain ⟨kept, among, same⟩ := keeps row inside
  obtain ⟨twin, known, eq⟩ := fromRows kept among
  subst eq
  refine ⟨twin, known, same, ?_⟩
  rw [filterActionableBlockingFindings_eq, List.filter_eq_nil_iff] at nothing
  simpa using nothing _ (by simpa [mergeFindings] using among)

end Rows

/-! ### The metadata heading -/

theorem atWordBoundary_append (before after rest : List Char) :
    atWordBoundary ⟨before, after ++ '\n' :: rest⟩ = atWordBoundary ⟨before, after⟩ := by
  cases after with
  | nil => rfl
  | cons c after => rfl

/-- The heading at a position survives what follows its line. -/
theorem run_metadataHeading_append {before after : List Char} (rest : List Char)
    (found : (metadataHeadingPattern.run ⟨before, after⟩ [] fun next caps =>
      some (next, caps)).isSome) :
    (metadataHeadingPattern.run ⟨before, after ++ '\n' :: rest⟩ [] fun next caps =>
      some (next, caps)).isSome := by
  have heading : ∀ {before after : List Char},
      ((cat [lit "## Auto Review Metadata", .wordBoundary]).run ⟨before, after⟩ []
        fun next caps => some (next, caps)).isSome →
      ((cat [lit "## Auto Review Metadata", .wordBoundary]).run
        ⟨before, after ++ '\n' :: rest⟩ [] fun next caps => some (next, caps)).isSome := by
    intro before after found
    simp only [cat_cons, cat_nil, run_seq, isSome_run_lit_iff] at found ⊢
    obtain ⟨tail, split, bounded⟩ := found
    refine ⟨tail ++ '\n' :: rest, by rw [split, List.append_assoc], ?_⟩
    rw [run_wordBoundary] at bounded ⊢
    rw [atWordBoundary_append]
    split at bounded
    next here => exact if_pos here ▸ rfl
    next => cases bounded
  change ((Regex.run .startAnchor ⟨before, after⟩ [] _).or
    (Regex.run (.set isLineTerminator) ⟨before, after⟩ [] _)).isSome at found
  change ((Regex.run .startAnchor ⟨before, after ++ '\n' :: rest⟩ [] _).or
    (Regex.run (.set isLineTerminator) ⟨before, after ++ '\n' :: rest⟩ [] _)).isSome
  rw [Option.isSome_or, Bool.or_eq_true] at found ⊢
  rcases found with atStart | behind
  · rw [run_startAnchor] at atStart ⊢
    split at atStart
    next empty => exact .inl (by rw [if_pos empty]; exact heading atStart)
    next => cases atStart
  · cases after with
    | nil => cases behind
    | cons c after =>
      rw [run_set_cons] at behind
      rw [List.cons_append, run_set_cons]
      split at behind
      next terminator => exact .inr (by rw [if_pos terminator]; exact heading behind)
      next => cases behind

theorem test_metadataHeading_of_beforeRaw {comments : String}
    (found : test metadataHeadingPattern (beforeRawCodeReview comments) = true) :
    test metadataHeadingPattern comments = true := by
  unfold beforeRawCodeReview at found
  cases raw : exec rawCodeReviewPattern comments with
  | none => simpa [raw] using found
  | some hit =>
    obtain ⟨tail, here, split, found_, -⟩ := search_split raw
    have matched : (matchHere rawCodeReviewPattern (hit.skipped.reverse ++ []) tail).isSome := by
      rw [found_]
      rfl
    rw [matchHere_isSome, rawCodeReviewPattern, cat_cons, run_seq, isSome_run_lit_iff] at matched
    obtain ⟨rest, behind, _⟩ := matched
    simp only [raw, Option.map_some, Option.getD_some] at found
    obtain ⟨skipped, after, within, headed⟩ := test_iff.mp found
    rw [String.toList_ofList] at within
    have ends : tail = '\n' :: ("## Raw Code Review".toList ++ rest) := behind
    exact test_iff.mpr ⟨skipped, after ++ '\n' :: ("## Raw Code Review".toList ++ rest),
      by rw [split, within, ends, List.append_assoc], run_metadataHeading_append _ headed⟩

theorem attempt_of_contractFailure {reviewComments : Option String}
    (failure : isStructuredReviewContractFailure reviewComments = true) :
    isStructuredReviewContractAttempt reviewComments = true := by
  cases reviewComments with
  | none => cases failure
  | some comments =>
    have headed := (Bool.and_eq_true _ _).mp failure
    exact test_metadataHeading_of_beforeRaw headed.1

/-! ### Decisions that accept -/

section Accepts

variable {env : ReviewGateEnv} {input : ReviewGateInput}

theorem decideOnFindings_ne_success {metrics : ReviewGateMetrics}
    {findings : List AutoReviewFinding} {otherwise : ReviewGateResult}
    (other : otherwise.status ≠ .success) :
    (decideOnFindings input metrics findings otherwise).status ≠ .success := by
  unfold decideOnFindings maybeBuildManualReviewDecision maybeBuildOperatorInputDecision
  dsimp only
  split
  · split
    · exact other
    · intro accepted
      cases accepted
  · intro accepted
    cases accepted

theorem decision_ne_success {status : ReviewGateStatus} {metrics : ReviewGateMetrics}
    {findings : List AutoReviewFinding} {coverage : Option (List AutoReviewSecurityCoverage)}
    {history : Option (List AutoReviewPreviousFinding)} (other : status ≠ .success) :
    (decision input status metrics findings coverage history).status ≠ .success := other

theorem collectDeterministicReviewGateFindings_of_notRisky (notRisky : env.isRisky = false) :
    collectDeterministicReviewGateFindings env input = [] := by
  simp [collectDeterministicReviewGateFindings, notRisky]

theorem buildFallbackDecision_success {fallbackFindings deterministicFindings}
    (accepted : (buildFallbackDecision env input fallbackFindings deterministicFindings).status =
      .success) :
    input.previousFindings = [] ∧ filterActionableBlockingFindings env input.reviewComments
      (mergeFindings [fallbackFindings, deterministicFindings]) = [] := by
  unfold buildFallbackDecision at accepted
  dsimp only at accepted
  split at accepted
  · cases accepted
  next noPrevious =>
    split at accepted
    next nothing =>
      exact ⟨by simpa using noPrevious, List.isEmpty_iff.mp nothing⟩
    next =>
      refine absurd accepted (decideOnFindings_ne_success ?_)
      intro other
      cases other

theorem buildLegacyBlockingSectionDecision_success {blockingFindings deterministicFindings}
    (accepted : (buildLegacyBlockingSectionDecision env input blockingFindings
      deterministicFindings).status = .success) :
    input.previousFindings = [] ∧ filterActionableBlockingFindings env input.reviewComments
      (mergeFindings [blockingFindings, deterministicFindings]) = [] := by
  unfold buildLegacyBlockingSectionDecision at accepted
  dsimp only at accepted
  split at accepted
  next nothing =>
    split at accepted
    · cases accepted
    next noPrevious => exact ⟨by simpa using noPrevious, List.isEmpty_iff.mp nothing⟩
  next =>
    refine absurd accepted (decideOnFindings_ne_success (decision_ne_success ?_))
    split
    · intro other
      cases other
    · intro other
      cases other

end Accepts

/-- The answer is `SUCCESS`, in some letter case, or has nothing but bullet rows. -/
def IsRequestedFormat (answer : String) : Prop :=
  toUpperCase (trim answer) = successToken ∨
    ∀ line ∈ answerLines (trim answer), startsWith line "- " = true

theorem extractedRows_of_bullets {answer : String}
    (bullets : ∀ line ∈ answerLines answer, startsWith line "- " = true) :
    extractedRows answer = (answerLines answer).map fun line => trim (dropChars line 2) := by
  have all : (answerLines answer).filter (startsWith · "- ") = answerLines answer :=
    List.filter_eq_self.mpr bullets
  unfold extractedRows
  dsimp only
  rw [all]
  cases lines : answerLines answer with
  | nil => rfl
  | cons line rest => simp

/-- What an accepting fallback has asked of the extractor. -/
theorem fallback_accepted {env : ReviewGateEnv} {reviewComments : Option String}
    {findings : List AutoReviewFinding}
    (extracted : runLegacyFallbackExtraction env = .ok findings)
    (nothing : filterActionableBlockingFindings env reviewComments
      (mergeFindings [findings, []]) = []) :
    ∃ answer, env.extractorAnswer = some answer ∧ trim answer ≠ "" ∧
      (IsRequestedFormat answer → toUpperCase (trim answer) = successToken ∨
        ∀ line ∈ answerLines (trim answer), IsDroppedRow env reviewComments
          ((answerLines (trim answer)).map fun line => trim (dropChars line 2))
          (trim (dropChars line 2))) := by
  unfold runLegacyFallbackExtraction at extracted
  cases asked : env.extractorAnswer with
  | none => rw [asked] at extracted; cases extracted
  | some answer =>
    simp only [asked] at extracted
    split at extracted
    · cases extracted
    next notEmpty =>
      refine ⟨answer, rfl, by simpa using notEmpty, ?_⟩
      rintro (success | bullets)
      · exact .inl success
      · split at extracted
        next success => exact .inl success
        next =>
          rw [extractedRows_of_bullets bullets] at extracted
          obtain rfl := Except.ok.inj extracted
          right
          intro line inside
          exact dropped_of_filtered env nothing _ (List.mem_map_of_mem inside)

/-- **Acceptance without structured comments.** -/
theorem accepted_without_metadata (env : ReviewGateEnv) (input : ReviewGateInput)
    (result : ReviewGateResult) (notRisky : env.isRisky = false)
    (noHeading : isStructuredReviewContractAttempt input.reviewComments = false)
    (evaluated : evaluateReviewCommentsForAutoMode env input = .ok result)
    (accepted : result.status = .success) :
    let sections := blockingSections (splitLines (input.reviewComments.getD ""))
    let rows := sections.flatten.filterMap legacyRowText
    input.previousFindings = [] ∧
    (sections ≠ [] → ∀ section_ ∈ sections, ∀ line ∈ section_, startsWith line "-" = true →
      bulletText line = "" ∨ test nonePattern (bulletText line) = true ∨
        IsDroppedRow env input.reviewComments rows (bulletText line)) ∧
    (sections = [] → ∃ answer, env.extractorAnswer = some answer ∧ trim answer ≠ "" ∧
      (IsRequestedFormat answer → toUpperCase (trim answer) = successToken ∨
        ∀ line ∈ answerLines (trim answer), IsDroppedRow env input.reviewComments
          ((answerLines (trim answer)).map fun line => trim (dropChars line 2))
          (trim (dropChars line 2)))) := by
  intro sections rows
  have noFailure : isStructuredReviewContractFailure input.reviewComments = false := by
    rw [Bool.eq_false_iff]
    intro failure
    rw [attempt_of_contractFailure failure] at noHeading
    cases noHeading
  simp only [evaluateReviewCommentsForAutoMode, noFailure, noHeading, Bool.false_eq_true, if_false,
    collectDeterministicReviewGateFindings_of_notRisky notRisky] at evaluated
  unfold parseLegacyBlockingFindings at evaluated
  dsimp only at evaluated
  by_cases none_ : blockingSections (splitLines (input.reviewComments.getD "")) = []
  · rw [if_pos (List.isEmpty_iff.mpr none_)] at evaluated
    cases extracted : runLegacyFallbackExtraction env with
    | error message => rw [extracted] at evaluated; cases evaluated
    | ok findings =>
      rw [extracted] at evaluated
      obtain rfl := Except.ok.inj evaluated
      obtain ⟨noPrevious, nothing⟩ := buildFallbackDecision_success accepted
      exact ⟨noPrevious, fun some_ => absurd none_ some_,
        fun _ => fallback_accepted extracted nothing⟩
  · rw [if_neg (mt List.isEmpty_iff.mp none_)] at evaluated
    obtain rfl := Except.ok.inj evaluated
    obtain ⟨noPrevious, nothing⟩ := buildLegacyBlockingSectionDecision_success accepted
    refine ⟨noPrevious, ?_, fun none => absurd none none_⟩
    intro _ section_ among line inside bullet
    by_cases empty : bulletText line = ""
    · exact .inl empty
    · by_cases noneRow : test nonePattern (bulletText line) = true
      · exact .inr (.inl noneRow)
      · have row : legacyRowText line = some (bulletText line) := by
          simp [legacyRowText, bullet, empty, noneRow]
        have known : bulletText line ∈ rows :=
          List.mem_filterMap.mpr ⟨line, List.mem_flatten.mpr ⟨section_, among, inside⟩, row⟩
        exact .inr (.inr (dropped_of_filtered env nothing _ known))

/-! ### First reviews of a plain task -/

/-- The gate of a task that is not risky, in a project without refutations. -/
def plainGate (answer : Option String) : ReviewGateEnv where
  sha1Hex := fun _ => "da39a3ee5e6b4b0d3255bfef95601890afd80709"
  toLowerCase := Text.toLowerCase
  localeCompare := fun _ _ => 0
  riskyTask := some false
  completionEvidenceIssues := []
  lacksSubstantiveEvidence := false
  refutedByConfiguration := fun _ => false
  isValidProjectJsonFile := fun _ => false
  extractorAnswer := answer

def firstReview (comments : String) : ReviewGateInput where
  reviewComments := some comments
  strategy := .fullReReview
  iteration := 1
  previousFindings := []

/-- The result of an accepted first review. -/
def firstAccepted : ReviewGateResult := accept (buildMetrics (firstReview "") 0 0 0 .fallback)

def emptyRows : String := "## Blocking Findings\n- none\n-"

theorem accepted_without_metadata_emptyRows :
    blockingSections (splitLines emptyRows) = [["- none", "-"]] ∧
      (bulletText "-" = "" ∨ test nonePattern (bulletText "-") = true ∨
        IsDroppedRow (plainGate none) (some emptyRows)
          ((blockingSections (splitLines emptyRows)).flatten.filterMap legacyRowText)
          (bulletText "-")) := by
  have sections : blockingSections (splitLines emptyRows) = [["- none", "-"]] := by decide
  have inside : ["- none", "-"] ∈ blockingSections (splitLines emptyRows) := by
    rw [sections]
    exact List.mem_cons_self
  refine ⟨sections, ?_⟩
  exact (accepted_without_metadata (plainGate none) (firstReview emptyRows) firstAccepted (by rfl)
    (by decide) (by decide) (by rfl)).2.1 (by decide) ["- none", "-"]
    inside "-" (by simp) (by decide)

/-- The answer `success`, two none rows, a line that is no row, an answer in prose: all of
them are accepted. -/
theorem other_shapes_accepted :
    evaluateReviewCommentsForAutoMode (plainGate (some "success")) (firstReview "Looks fine") =
      .ok firstAccepted ∧
    trim "success" ≠ successToken ∧
    evaluateReviewCommentsForAutoMode (plainGate none)
      (firstReview "## Blocking Findings\n- none\n- none.") = .ok firstAccepted ∧
    evaluateReviewCommentsForAutoMode (plainGate none)
      (firstReview "## Blocking Findings\nThe token leaks") = .ok firstAccepted ∧
    evaluateReviewCommentsForAutoMode (plainGate (some "Fix the leak")) (firstReview "Leaks") =
      .ok firstAccepted := by
  refine ⟨?_, ?_, ?_, ?_, ?_⟩ <;> decide

end AifHandoff.Agent.Review
