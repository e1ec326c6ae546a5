import AifHandoff.Agent.BlockingRows
import AifHandoff.Agent.ReviewGateAcceptance

/-!
The raw reviewer blocks behind a review that failed its contract (`agent/reviewGate.ts`).

A failure that is about security coverage only is forgiven when both raw blocks declare that
nothing blocks. One pattern looks for the declaration; it starts at the heading of a block and
reads on past the next one.
-/

namespace AifHandoff.Agent.Review

open Text Regex Shared

/-! ### Raw blocks -/

/-- `## <heading>\b`. -/
def rawHeadingPattern (heading : String) : Regex :=
  cat [litI "## ", litI heading, .wordBoundary]

/-- The heading of the next raw block. -/
def nextRawHeading : Regex :=
  cat [lit "\n## ",
    anyOf [lit "Raw Code Review", lit "Raw Security Audit", lit "Raw Specialized Review"],
    .wordBoundary]

/-- The characters behind a heading, up to the next raw-review heading. -/
def blockBehind (hit : Hit) : List Char :=
  match search nextRawHeading hit.next.before hit.next.after with
  | some next => next.skipped
  | none => hit.next.after

/-- Some Blocking Findings heading is followed by a row that begins with `none`. -/
def NoneRowIn (text : List Char) : Prop :=
  ∃ skipped title gap gap' word rest, NoneRowAt text skipped title gap gap' word rest

/-- The text ends with a word character. -/
def EndsInWord (title : String) : Prop :=
  ∀ read, SameFold read title.toList → read.reverse.head?.any isWordChar = true

theorem atWordBoundary_of_endsInWord {read gap before : List Char}
    (ends : read.reverse.head?.any isWordChar = true) (filled : gap ≠ [])
    (blank : ∀ c ∈ gap, isSpace c = true) (rest : List Char) :
    atWordBoundary ⟨read.reverse ++ before, gap ++ rest⟩ = true := by
  obtain ⟨d, gap, rfl⟩ := List.exists_cons_of_ne_nil filled
  have blank_ := not_isWordChar_of_space (blank d List.mem_cons_self)
  cases reversed : read.reverse with
  | nil =>
    rw [reversed] at ends
    cases ends
  | cons c front =>
    rw [reversed, List.head?_cons, Option.any_some] at ends
    rw [atWordBoundary, List.cons_append, List.cons_append, List.head?_cons, List.head?_cons,
      Option.any_some, Option.any_some, ends, blank_]
    rfl

/-- The first such place. -/
structure FirstRowAt (text skipped title gap gap' word rest : List Char) : Prop
    extends NoneRowAt text skipped title gap gap' word rest where
  first : ∀ {skipped' title' gap₁ gap₂ word' rest'},
    NoneRowAt text skipped' title' gap₁ gap₂ word' rest' → skipped.length ≤ skipped'.length

/-- No two lines are Blocking Findings headings. -/
def OneTitle (lines : List String) : Prop :=
  (lines.filter (test blockingHeading ·)).length ≤ 1

instance (lines : List String) : Decidable (OneTitle lines) := inferInstanceAs (Decidable (_ ≤ 1))

/-- A block with one Blocking Findings section: its title stands nowhere else, a row follows it,
and of the rows only the first may say none. -/
structure RegularBlock (block : List Char) (before blanks after : List String)
    (title row : String) : Prop where
  lines : trimmedLines block = before ++ title :: (blanks ++ row :: after)
  titled : SameFold title.toList blockingTitle
  once : ∀ {front read back front' read' back' : List Char}, block = front ++ (read ++ back) →
    block = front' ++ (read' ++ back') → SameFold read blockingTitle →
    SameFold read' blockingTitle → front = front'
  single : OneTitle (trimmedLines block)
  blank : ∀ line ∈ blanks, line = ""
  isRow : startsWith row "-" = true
  filled : bulletText row ≠ ""
  blockers : ∀ line ∈ sectionLines after, startsWith line "-" = true →
    (legacyRowText line).isSome = true

def Regular (comments heading : String) : Prop :=
  ∀ hit, exec (rawHeadingPattern heading) comments = some hit →
    ∃ before blanks after title row, RegularBlock (blockBehind hit) before blanks after title row

section Places

variable {text skipped title gap gap' word rest : List Char} {comments heading : String}

theorem exists_first (there : NoneRowIn text) :
    ∃ skipped title gap gap' word rest, FirstRowAt text skipped title gap gap' word rest := by
  have somewhere : ∃ n, ∃ skipped title gap gap' word rest, skipped.length = n ∧
      NoneRowAt text skipped title gap gap' word rest := by
    obtain ⟨skipped, title, gap, gap', word, rest, place⟩ := there
    exact ⟨_, skipped, title, gap, gap', word, rest, rfl, place⟩
  classical
  obtain ⟨skipped, title, gap, gap', word, rest, length, place⟩ := Nat.find_spec somewhere
  refine ⟨skipped, title, gap, gap', word, rest, { place with first := fun other => ?_ }⟩
  rw [length]
  exact Nat.find_min' somewhere ⟨_, _, _, _, _, _, rfl, other⟩

theorem NoneRowAt.append (place : NoneRowAt text skipped title gap gap' word rest)
    (more : List Char) : NoneRowAt (text ++ more) skipped title gap gap' word (rest ++ more) :=
  { place with
    split := by
      rw [place.split]
      simp only [List.append_assoc, List.cons_append] }

theorem takeWhile_blanks {blanks : List Char} {c : Char} (blank : ∀ c ∈ blanks, isSpace c = true)
    (visible : isSpace c = false) (rest : List Char) :
    (blanks ++ c :: rest).takeWhile isSpace = blanks := by
  rw [List.takeWhile_append_of_pos blank, List.takeWhile_cons_of_neg (by simp [visible]),
    List.append_nil]

/-- Where the title stands decides the rest. -/
theorem NoneRowAt.unique {title' gap₁ gap₂ word' rest' : List Char}
    (place : NoneRowAt text skipped title gap gap' word rest)
    (other : NoneRowAt text skipped title' gap₁ gap₂ word' rest') :
    title = title' ∧ gap = gap₁ ∧ gap' = gap₂ ∧ word = word' := by
  have whole := place.split.symm.trans other.split
  have titles : title.length = title'.length :=
    place.titled.length_eq.trans other.titled.length_eq.symm
  obtain ⟨sameTitle, below⟩ := List.append_inj (List.append_cancel_left whole) titles
  have dash : isSpace '-' = false := by decide
  have sameGap : gap = gap₁ := by
    have blanks := congrArg (List.takeWhile isSpace) below
    rwa [takeWhile_blanks place.blank dash, takeWhile_blanks other.blank dash] at blanks
  rw [sameGap] at below
  have row := (List.cons.inj (List.append_cancel_left below)).2
  obtain ⟨c, more, rfl⟩ : ∃ c more, word = c :: more := by
    cases word with
    | nil => cases place.begins
    | cons c more => exact ⟨c, more, rfl⟩
  obtain ⟨d, more', rfl⟩ : ∃ d more', word' = d :: more' := by
    cases word' with
    | nil => cases other.begins
    | cons d more' => exact ⟨d, more', rfl⟩
  have visible := (visible_none place.begins).1 c rfl
  have visible' := (visible_none other.begins).1 d rfl
  have sameGap' : gap' = gap₂ := by
    have blanks := congrArg (List.takeWhile isSpace) row
    rwa [List.cons_append, List.cons_append, takeWhile_blanks place.blank' visible,
      takeWhile_blanks other.blank' visible'] at blanks
  rw [sameGap'] at row
  have words : (c :: more).length = (d :: more').length :=
    place.begins.length_eq.trans other.begins.length_eq.symm
  exact ⟨sameTitle, sameGap, sameGap', (List.append_inj (List.append_cancel_left row) words).1⟩

theorem trim_of_mem_trimmedLines {line : String} (inside : line ∈ trimmedLines text) :
    trim line = line := by
  obtain ⟨chars, -, rfl⟩ := List.mem_map.mp inside
  exact trim_trim _

theorem length_blockingSections (lines : List String) : (blockingSections lines).length =
    (lines.filter fun line => test blockingHeading (trim line)).length := by
  induction lines with
  | nil => rfl
  | cons line rest ih =>
    rw [blockingSections, List.filter_cons]
    split
    · rw [List.length_cons, List.length_cons, ih]
    · exact ih

theorem only_section (one : OneTitle (trimmedLines text)) {lines lines' : List String}
    (inside : lines ∈ blockingSections (trimmedLines text))
    (inside' : lines' ∈ blockingSections (trimmedLines text)) : lines = lines' := by
  have length := length_blockingSections (trimmedLines text)
  rw [List.filter_congr fun line inside => by rw [trim_of_mem_trimmedLines inside]] at length
  have most : (blockingSections (trimmedLines text)).length ≤ 1 := length.trans_le one
  generalize blockingSections (trimmedLines text) = sections at most inside inside'
  match sections with
  | [] => cases inside
  | [only] => rw [List.mem_singleton.mp inside, List.mem_singleton.mp inside']
  | first :: second :: rest =>
    rw [List.length_cons, List.length_cons] at most
    omega

end Places

section Regular

variable {block : List Char} {before blanks after : List String}
  {title row comments heading : String}

theorem RegularBlock.section_ (regular : RegularBlock block before blanks after title row) :
    blanks ++ row :: sectionLines after ∈ blockingSections (trimmedLines block) := by
  have isTitle : test blockingHeading (trim title) = true := by
    rw [trim_of_mem_trimmedLines (by rw [regular.lines]; simp)]
    have titled := test_blockingHeading_of_title regular.titled
    rwa [String.ofList_toList] at titled
  have rowTrimmed : trim row = row := trim_of_mem_trimmedLines (by rw [regular.lines]; simp)
  have blanksTrimmed : blanks.map trim = blanks := by
    conv_rhs => rw [← List.map_id blanks]
    exact List.map_congr_left fun line inside => by rw [regular.blank line inside]; rfl
  refine mem_blockingSections.mpr
    ⟨before, title, blanks ++ row :: after, regular.lines, isTitle, ?_⟩
  rw [sectionLines_append (fun line inside => by rw [regular.blank line inside]; decide),
    ← @List.singleton_append _ row after, sectionLines_append (fun line inside => by
      rw [List.mem_singleton.mp inside, rowTrimmed]
      exact not_anyHeading_of_dash regular.isRow), blanksTrimmed, List.map_singleton, rowTrimmed,
    List.singleton_append]

/-- In a regular block that says none or lists no blocker the first row says none, alone. -/
theorem RegularBlock.quiet (regular : RegularBlock block before blanks after title row)
    (either : (∃ section_ ∈ blockingSections (trimmedLines block), saysNone section_ = true) ∨
      ∀ section_ ∈ blockingSections (trimmedLines block), ∀ line ∈ section_,
        legacyRowText line = none) :
    test nonePattern (bulletText row) = true ∧
      ∀ line ∈ sectionLines after, startsWith line "-" = false := by
  have isSection := regular.section_
  rcases either with ⟨other, isOther, none_⟩ | noBlocker
  · rw [only_section regular.single isOther isSection] at none_
    have blankRows : blanks.filter (startsWith · "-") = [] := List.filter_eq_nil_iff.mpr
      fun line inside => by rw [regular.blank line inside]; decide
    rw [saysNone, List.filter_append, blankRows, List.nil_append,
      @List.filter_cons_of_pos _ (startsWith · "-") row _ regular.isRow] at none_
    split at none_
    next only rows =>
      obtain ⟨rfl, nothing⟩ := List.cons.inj rows
      exact ⟨none_, fun line inside => by simpa using List.filter_eq_nil_iff.mp nothing line inside⟩
    next => cases none_
  · have rows := noBlocker _ isSection
    refine ⟨?_, fun line inside => ?_⟩
    · have first := rows row (by simp)
      rw [legacyRowText, if_pos regular.isRow] at first
      dsimp only at first
      split at first
      next noText =>
        rw [Bool.or_eq_true, String.isEmpty_iff] at noText
        exact noText.resolve_left regular.filled
      next => cases first
    · rw [Bool.eq_false_iff]
      intro isRow
      have blocker := regular.blockers line inside isRow
      rw [rows line (List.mem_append_right _ (List.mem_cons_of_mem _ inside))] at blocker
      cases blocker

end Regular

section Recovery

variable (env : ReviewGateEnv) (input : ReviewGateInput)
  (deterministicFindings : List AutoReviewFinding)

end Recovery

end AifHandoff.Agent.Review
