import AifHandoff.Runtime.QwenLoop

/-!
The length of the message a compaction makes (`truncateTextForRequest`,
`buildCompactAuditEvidenceLedger` and `compactMessagesForEndpointBudget`,
`runtime/adapters/qwenLocalAgent/api.ts`), from the lengths of what it is made of.

Lengths are those in a JSON text. Half a surrogate pair, which a cut leaves, takes six characters
there, the whole pair two: a text may grow by being cut.
-/

namespace AifHandoff.Runtime.TokenBudgets

open Text Shared

variable {World ν : Type}

/-- `truncateTextForRequest`; `numberText` writes a number. -/
def truncateTextForRequest (halves : Halves) (numberText : ℚ → String) (value : String)
    (maxChars : ℚ) : String :=
  if maxChars ≤ 0 ∨ utf16Length value ≤ maxChars then value
  else
    let note := "\n[... compacted " ++ numberText (Double.minus (utf16Length value) maxChars) ++
      " chars for local endpoint budget ...]\n"
    let available := max 0 (Double.minus maxChars (utf16Length note))
    if available ≤ 0 then "[... compacted for local endpoint budget ...]"
    else
      let head := ⌈Double.times available (65 / 100)⌉
      let tail := Double.minus available head
      let start := ⌊Double.minus (utf16Length value) tail⌋.toNat
      trimEnd (sliceToBy halves.high value head.toNat) ++ note ++
        String.ofList
          ((lastUnitsBy halves.low (utf16Length value - start) value.toList).dropWhile isSpace)

/-! ### Texts inside of JSON -/

section Lengths

variable (halves : Halves)

/-- Half a pair is written as an escape of six characters. -/
def writtenUnits (c : Char) : Nat := if halves.isHalf c then 6 else unitsOf c

/-- What a character takes between quotes. -/
def charLength (c : Char) : Nat := ((Json.escapeChar c).map (writtenUnits halves)).sum

def charsLength (cs : List Char) : Nat := (cs.map (charLength halves)).sum

/-- The length of a text inside of JSON. -/
def escapedLength (text : String) : Nat := charsLength halves text.toList

variable {halves}

theorem writtenUnits_ascii {c : Char} (ascii : c.toNat ≤ 0x7F) : writtenUnits halves c = 1 := by
  have whole : ¬ halves.isHalf c = true := fun half =>
    absurd (halves.beyond c half) (Nat.not_lt.mpr ascii)
  rw [writtenUnits, if_neg whole, unitsOf, if_neg (by omega)]

theorem sum_writtenUnits_ascii {cs : List Char} (ascii : ∀ c ∈ cs, c.toNat ≤ 0x7F) :
    (cs.map (writtenUnits halves)).sum = cs.length := by
  rw [List.map_congr_left fun c inside => writtenUnits_ascii (ascii c inside), List.map_const',
    List.sum_replicate_nat, Nat.mul_one]

theorem charsLength_append (front back : List Char) :
    charsLength halves (front ++ back) = charsLength halves front + charsLength halves back := by
  rw [charsLength, List.map_append, List.sum_append]
  rfl

theorem charsLength_reverse (cs : List Char) :
    charsLength halves cs.reverse = charsLength halves cs := by
  rw [charsLength, List.map_reverse, List.sum_reverse]
  rfl

theorem escapedLength_append (front back : String) :
    escapedLength halves (front ++ back) = escapedLength halves front + escapedLength halves back := by
  rw [escapedLength, String.toList_append, charsLength_append]
  rfl

theorem sum_escape (cs : List Char) :
    ((Json.escape cs).map (writtenUnits halves)).sum = charsLength halves cs := by
  rw [Json.escape, List.map_flatMap, List.flatMap, List.sum_flatten, List.map_map]
  rfl

theorem charLength_half {c : Char} (half : halves.isHalf c = true) : charLength halves c = 6 := by
  have beyond := halves.beyond c half
  have other {d : Char} (small : d.toNat ≤ 0x7F) : c ≠ d := by
    rintro rfl
    omega
  have verbatim : Json.escapeChar c = [c] := by
    rw [Json.escapeChar, if_neg (other (by decide)), if_neg (other (by decide)),
      if_neg (other (by decide)), if_neg (other (by decide)), if_neg (other (by decide)),
      if_neg (other (by decide)), if_neg (other (by decide)), if_neg (by omega)]
  rw [charLength, verbatim, List.map_singleton, List.sum_singleton, writtenUnits, if_pos half]

/-- A printed character of ASCII that needs no escape. -/
def isPlain (c : Char) : Bool :=
  decide (0x20 ≤ c.toNat) && decide (c.toNat ≤ 0x7E) && c != '"' && c != '\\'

theorem charLength_plain {c : Char} (plain : isPlain c = true) : charLength halves c = 1 := by
  rw [isPlain, Bool.and_eq_true, Bool.and_eq_true, Bool.and_eq_true, decide_eq_true_eq,
    decide_eq_true_eq, bne_iff_ne, bne_iff_ne] at plain
  obtain ⟨⟨⟨least, most⟩, quote⟩, backslash⟩ := plain
  have other {d : Char} (control : d.toNat < 0x20) : c ≠ d := by
    rintro rfl
    omega
  have verbatim : Json.escapeChar c = [c] := by
    rw [Json.escapeChar, if_neg quote, if_neg backslash, if_neg (other (by decide)),
      if_neg (other (by decide)), if_neg (other (by decide)), if_neg (other (by decide)),
      if_neg (other (by decide)), if_neg (by omega)]
  rw [charLength, verbatim, List.map_singleton, List.sum_singleton, writtenUnits_ascii (by omega)]

theorem charsLength_plain {cs : List Char} (plain : ∀ c ∈ cs, isPlain c = true) :
    charsLength halves cs = cs.length := by
  rw [charsLength, List.map_congr_left fun c inside => charLength_plain (plain c inside),
    List.map_const', List.sum_replicate_nat, Nat.mul_one]

theorem escapedLength_plain {text : String} {n : Nat}
    (plain : (text.toList.all isPlain && text.toList.length == n) = true) :
    escapedLength halves text = n := by
  rw [Bool.and_eq_true, List.all_eq_true, beq_iff_eq] at plain
  rw [escapedLength, charsLength_plain plain.1, plain.2]

/-- A line feed takes two characters. -/
theorem escapedLength_feed : escapedLength halves "\n" = 2 := by
  have newline : "\n".toList = ['\n'] := by decide
  have escaped : Json.escapeChar '\n' = ['\\', 'n'] := by decide
  rw [escapedLength, newline, charsLength, List.map_singleton, List.sum_singleton, charLength,
    escaped, sum_writtenUnits_ascii (by decide)]
  rfl

theorem escapedLength_empty : escapedLength halves "" = 0 := escapedLength_plain (by decide)

/-! ### Lists -/

theorem sum_intercalate {α : Type} (measure : α → Nat) (sep : List α) {parts : List (List α)}
    (some_ : parts ≠ []) :
    ((sep.intercalate parts).map measure).sum + (sep.map measure).sum =
      (parts.map fun part => (part.map measure).sum + (sep.map measure).sum).sum := by
  induction parts with
  | nil => exact absurd rfl some_
  | cons part rest ih =>
    cases rest with
    | nil => simp
    | cons next rest =>
      have tail := ih (List.cons_ne_nil next rest)
      rw [List.intercalate_cons_cons, List.map_cons, List.sum_cons, ← tail]
      simp only [List.map_append, List.sum_append]
      omega

variable (halves) in
/-- Texts with a separator of `n` characters. -/
def joinedLength (n : Nat) (texts : List String) : Nat :=
  (texts.map fun text => escapedLength halves text + n).sum - n

theorem escapedLength_join {sep : String} {n : Nat} (measured : escapedLength halves sep = n)
    (texts : List String) : escapedLength halves (join sep texts) = joinedLength halves n texts := by
  cases texts with
  | nil => simp [join, joinedLength, String.intercalate_nil, escapedLength_empty]
  | cons text rest =>
    have some_ : (text :: rest).map String.toList ≠ [] := by simp
    have counted := sum_intercalate (charLength halves) sep.toList some_
    have same : ((text :: rest).map fun text => escapedLength halves text + n).sum =
        (((text :: rest).map String.toList).map fun part =>
          (part.map (charLength halves)).sum + (sep.toList.map (charLength halves)).sum).sum := by
      rw [List.map_map, ← measured]
      rfl
    rw [joinedLength, same, ← counted, ← measured, escapedLength, join, String.toList_intercalate]
    exact (Nat.add_sub_cancel _ _).symm

/-! ### Cuts -/

variable (halves) in
/-- The first `n` code units of a text that is cut there, without white space at the cut: half a
pair stands for itself. -/
def endLength (n : Nat) (cs : List Char) : Nat :=
  if splitsPair n cs then charsLength halves (wholeWithin n cs) + 6
  else charsLength halves ((wholeWithin n cs).rdropWhile isSpace)

theorem charsLength_cut {half : Char → Char} (isHalf : ∀ c, halves.isHalf (half c) = true)
    (n : Nat) (cs : List Char) :
    charsLength halves ((takeUnitsBy half n cs).rdropWhile isSpace) = endLength halves n cs := by
  obtain ⟨c, cut⟩ := takeUnitsBy_eq_wholeWithin half n cs
  rw [cut, endLength]
  split
  next =>
    have visible : ¬ isSpace (half c) = true := by
      rw [halves.visible _ (isHalf c)]
      exact Bool.false_ne_true
    rw [List.rdropWhile_concat_neg _ _ _ visible, charsLength_append]
    congr 1
    rw [charsLength, List.map_singleton, List.sum_singleton, charLength_half (isHalf c)]
  next => rw [List.append_nil]

variable (halves) in
/-- What `truncateTextForRequest` leaves of a text: the whole, 45 characters, or its two ends and
a note of 56 characters and a number. -/
def cutLength (numberText : ℚ → String) (text : String) (maxChars : ℚ) : Nat :=
  let units := utf16Length text
  if maxChars ≤ 0 ∨ units ≤ maxChars then escapedLength halves text
  else
    let excess := numberText (Double.minus units maxChars)
    let room := Double.minus maxChars (54 + utf16Length excess : ℕ)
    if room ≤ 0 then 45
    else
      let head := ⌈Double.times room (65 / 100)⌉
      let tail := units - ⌊Double.minus units (Double.minus room head)⌋.toNat
      endLength halves head.toNat text.toList + (56 + escapedLength halves excess) +
        endLength halves tail text.toList.reverse

theorem escapedLength_truncateTextForRequest (numberText : ℚ → String) (text : String)
    (maxChars : ℚ) :
    escapedLength halves (truncateTextForRequest halves numberText text maxChars) =
      cutLength halves numberText text maxChars := by
  rw [truncateTextForRequest, cutLength]
  dsimp only
  split
  · rfl
  generalize numberText (Double.minus (utf16Length text) maxChars) = excess
  have opening : utf16Length "\n[... compacted " = 16 ∧
      escapedLength halves "\n[... compacted " = 17 := by
    refine ⟨by decide, ?_⟩
    have parts : "\n[... compacted " = "\n" ++ "[... compacted " := by decide
    rw [parts, escapedLength_append, escapedLength_feed,
      @escapedLength_plain halves "[... compacted " 15 (by decide)]
  have closing : utf16Length " chars for local endpoint budget ...]\n" = 38 ∧
      escapedLength halves " chars for local endpoint budget ...]\n" = 39 := by
    refine ⟨by decide, ?_⟩
    have parts : " chars for local endpoint budget ...]\n" =
        " chars for local endpoint budget ...]" ++ "\n" := by decide
    rw [parts, escapedLength_append, escapedLength_feed,
      @escapedLength_plain halves " chars for local endpoint budget ...]" 37 (by decide)]
  have note : utf16Length ("\n[... compacted " ++ excess ++
      " chars for local endpoint budget ...]\n") = 54 + utf16Length excess := by
    rw [utf16Length_append, utf16Length_append, opening.1, closing.1]
    omega
  rw [note]
  by_cases full : Double.minus maxChars (54 + utf16Length excess : ℕ) ≤ 0
  · rw [if_pos (max_le le_rfl full), if_pos full]
    exact escapedLength_plain (by decide)
  · rw [max_eq_right (not_le.mp full).le, if_neg full, if_neg full]
    have front (n : Nat) : escapedLength halves (trimEnd (sliceToBy halves.high text n)) =
        endLength halves n text.toList := by
      rw [← charsLength_cut halves.isHalf_high, escapedLength, trimEnd, sliceToBy,
        String.toList_ofList, String.toList_ofList]
      rfl
    have back (n : Nat) : escapedLength halves
        (String.ofList ((lastUnitsBy halves.low n text.toList).dropWhile isSpace)) =
        endLength halves n text.toList.reverse := by
      rw [← charsLength_cut halves.isHalf_low, escapedLength, lastUnitsBy, String.toList_ofList,
        List.rdropWhile, charsLength_reverse]
    rw [escapedLength_append, escapedLength_append, front, back, escapedLength_append,
      escapedLength_append, opening.2, closing.2]
    omega

theorem truncateTextForRequest_isEmpty (numberText : ℚ → String) (text : String) (maxChars : ℚ) :
    (truncateTextForRequest halves numberText text maxChars).isEmpty = text.isEmpty := by
  rw [truncateTextForRequest]
  dsimp only
  split
  · rfl
  next long =>
    rw [not_or, not_le, not_le] at long
    have filled : text.isEmpty = false := by
      rw [Bool.eq_false_iff, ne_eq, String.isEmpty_iff]
      rintro rfl
      have none_ : utf16Length "" = 0 := by decide
      rw [none_, Nat.cast_zero] at long
      exact absurd long.1 (not_lt.mpr long.2.le)
    rw [filled, Bool.eq_false_iff, ne_eq, String.isEmpty_iff]
    split
    · decide
    · intro empty
      have lengths := congrArg utf16Length empty
      have opening : utf16Length "\n[... compacted " = 16 := by decide
      have none_ : utf16Length "" = 0 := by decide
      rw [utf16Length_append, utf16Length_append, utf16Length_append, utf16Length_append, opening,
        none_] at lengths
      omega

/-! ### The ledger -/

variable (halves) in
/-- A unit in the ledger: its words, its texts and its preview, if it has one. -/
def unitLength (numberText : ℚ → String) (maxPreviewChars : Nat) (unit : AuditEvidenceUnit) : Nat :=
  let preview := previewLine unit.outputPreview
  37 + escapedLength halves unit.id + escapedLength halves unit.evidenceKind.text +
    escapedLength halves unit.evidenceGrade.text + escapedLength halves unit.toolName +
    joinedLength halves 1 unit.scopeIds + joinedLength halves 1 unit.riskHypothesisIds +
    if preview.isEmpty then 0 else 11 + cutLength halves numberText preview maxPreviewChars

variable (halves) in
/-- The ledger: a sentence, or a heading and the last 40 units. -/
def ledgerLength (numberText : ℚ → String) (maxPreviewChars : Nat)
    (units : List AuditEvidenceUnit) : Nat :=
  if units.isEmpty then 75
  else
    let omitted := units.length - 40
    109 + escapedLength halves (toString units.length) +
      (if 0 < omitted then 27 + escapedLength halves (toString omitted) else 0) +
      ((units.drop omitted).map fun unit => unitLength halves numberText maxPreviewChars unit + 2).sum

/-- A host whose texts are cut as the source cuts them. -/
def cutting (halves : Halves) (numberText : ℚ → String) (host : Host World ν) : Host World ν :=
  { host with truncateTextForRequest := truncateTextForRequest halves numberText }

theorem escapedLength_unit (numberText : ℚ → String) (maxPreviewChars : Nat)
    (unit : AuditEvidenceUnit) :
    let preview := truncateTextForRequest halves numberText (previewLine unit.outputPreview)
      maxPreviewChars
    escapedLength halves (join " | " <|
      ["- " ++ unit.id, "kind=" ++ unit.evidenceKind.text ++ "/" ++ unit.evidenceGrade.text,
        "tool=" ++ unit.toolName, "scope=" ++ join "," unit.scopeIds,
        "risks=" ++ join "," unit.riskHypothesisIds] ++
      if preview.isEmpty then [] else ["preview=" ++ preview]) =
        unitLength halves numberText maxPreviewChars unit := by
  have bar := @escapedLength_plain halves " | " 3 (by decide)
  have comma := @escapedLength_plain halves "," 1 (by decide)
  have dash := @escapedLength_plain halves "- " 2 (by decide)
  have kind := @escapedLength_plain halves "kind=" 5 (by decide)
  have slash := @escapedLength_plain halves "/" 1 (by decide)
  have tool := @escapedLength_plain halves "tool=" 5 (by decide)
  have scope := @escapedLength_plain halves "scope=" 6 (by decide)
  have risks := @escapedLength_plain halves "risks=" 6 (by decide)
  have preview_ := @escapedLength_plain halves "preview=" 8 (by decide)
  intro preview
  have cut : escapedLength halves preview = cutLength halves numberText
      (previewLine unit.outputPreview) maxPreviewChars :=
    escapedLength_truncateTextForRequest _ _ _
  have empty : preview.isEmpty = (previewLine unit.outputPreview).isEmpty :=
    truncateTextForRequest_isEmpty _ _ _
  rw [escapedLength_join bar, joinedLength, unitLength, ← cut, empty]
  simp only [List.map_append, List.map_cons, List.map_nil, List.sum_append, List.sum_cons,
    List.sum_nil, escapedLength_append, escapedLength_join comma, dash, kind, slash, tool, scope,
    risks]
  split
  · simp only [List.map_nil, List.sum_nil]
    omega
  · simp only [List.map_cons, List.map_nil, List.sum_cons, List.sum_nil, escapedLength_append,
      preview_]
    omega

theorem escapedLength_ledger (numberText : ℚ → String) (host : Host World ν)
    (units : List AuditEvidenceUnit) (maxPreviewChars : Nat) :
    escapedLength halves (buildCompactAuditEvidenceLedger (cutting halves numberText host) units
      maxPreviewChars) = ledgerLength halves numberText maxPreviewChars units := by
  have heading := @escapedLength_plain halves "Runtime audit evidence units available: " 40
    (by decide)
  have opening := @escapedLength_plain halves " (" 2 (by decide)
  have closing := @escapedLength_plain halves " earlier unit(s) omitted)" 25 (by decide)
  have stop := @escapedLength_plain halves "." 1 (by decide)
  have rule_ := @escapedLength_plain halves
    "Use exact ev_* IDs only; do not invent or abbreviate evidence IDs." 66 (by decide)
  rw [buildCompactAuditEvidenceLedger, ledgerLength]
  split
  · exact escapedLength_plain (by decide)
  · have omitted_ (n : Nat) : escapedLength halves
        (if 0 < n then " (" ++ toString n ++ " earlier unit(s) omitted)" else "") =
          if 0 < n then 27 + escapedLength halves (toString n) else 0 := by
      split
      · rw [escapedLength_append, escapedLength_append, opening, closing]
        omega
      · exact escapedLength_empty
    have rows := fun unit => @escapedLength_unit halves numberText maxPreviewChars unit
    dsimp only
    rw [escapedLength_join escapedLength_feed, joinedLength]
    simp only [List.map_append, List.map_cons, List.map_nil, List.sum_append, List.sum_cons,
      List.sum_nil, List.map_map, escapedLength_append, omitted_, heading, stop, rule_]
    have each : ((fun text => escapedLength halves text + 2) ∘ fun unit : AuditEvidenceUnit =>
        let preview := (cutting halves numberText host).truncateTextForRequest
          (previewLine unit.outputPreview) maxPreviewChars
        join " | " <|
          ["- " ++ unit.id, "kind=" ++ unit.evidenceKind.text ++ "/" ++ unit.evidenceGrade.text,
            "tool=" ++ unit.toolName, "scope=" ++ join "," unit.scopeIds,
            "risks=" ++ join "," unit.riskHypothesisIds] ++
          if preview.isEmpty then [] else ["preview=" ++ preview]) =
        fun unit => unitLength halves numberText maxPreviewChars unit + 2 :=
      funext fun unit => congrArg (· + 2) (rows unit)
    rw [each]
    omega

/-! ### The message -/

def CompactionReason.length : CompactionReason → Nat
  | .repositoryInspectionBudgetExhausted => 38
  | .endpointInputBudget => 21
  | .endpointInputSoftBudget => 26

theorem escapedLength_reason (reason : CompactionReason) :
    escapedLength halves reason.text = CompactionReason.length reason := by
  have exhausted := @escapedLength_plain halves "repository_inspection_budget_exhausted" 38
    (by decide)
  have inputBudget := @escapedLength_plain halves "endpoint_input_budget" 21 (by decide)
  have softBudget := @escapedLength_plain halves "endpoint_input_soft_budget" 26 (by decide)
  cases reason with
  | repositoryInspectionBudgetExhausted => exact exhausted
  | endpointInputBudget => exact inputBudget
  | endpointInputSoftBudget => exact softBudget

variable (halves) in
/-- The message of a compaction, from its prompt: its own words, its reason, the artifact, the write
paths, the cut prompt and the ledger. -/
def compactLength (numberText : ℚ → String) (input : RunInput) (prompt : String)
    (units : List AuditEvidenceUnit) (reason : CompactionReason) (budget : EndpointBudget) : Nat :=
  389 + CompactionReason.length reason +
    (if reason = .repositoryInspectionBudgetExhausted then 155 else 0) +
    (match filled input.auditReportArtifactPath with
      | some path => 34 + escapedLength halves path
      | none => 0) +
    (if input.requestedWritePaths.isEmpty then 0
      else 23 + joinedLength halves 2 input.requestedWritePaths) +
    cutLength halves numberText prompt
      (Double.times (Double.times budget.compactTargetInputTokens 3) (35 / 100)) +
    ledgerLength halves numberText budget.ledgerPreviewMaxChars units

/-- The prompt of the task, or what the user said first. -/
def originalPrompt (input : RunInput) (messages : List Message) : String :=
  if (trim input.prompt).isEmpty then (messages.findSome? Message.userContent?).getD ""
  else input.prompt

theorem escapedLength_compactUserText (numberText : ℚ → String) (host : Host World ν)
    (input : RunInput) (messages : List Message) (units : List AuditEvidenceUnit)
    (reason : CompactionReason) (budget : EndpointBudget) :
    escapedLength halves (compactUserText (cutting halves numberText host) input messages units reason
      budget) =
      compactLength halves numberText input (originalPrompt input messages) units reason budget := by
  have title := @escapedLength_plain halves "QWEN COMPACT CONTEXT MODE" 25 (by decide)
  have because := @escapedLength_plain halves "reason=" 7 (by decide)
  have transcript := @escapedLength_plain halves
    "The prior transcript was compacted to protect the local endpoint context and memory budget." 91
    (by decide +kernel)
  have request := @escapedLength_plain halves
    "Do not request broad repository inspection. Use existing evidence and write/finalize the requested artifact, or produce a controlled source_inconclusive result with exact coverage gaps."
    185 (by decide +kernel)
  have disabled := @escapedLength_plain halves
    "Repository-inspection tools are disabled for this finalization request; use only artifact write/finalize/validate/commit tools or finish with final text."
    153 (by decide +kernel)
  have artifact := @escapedLength_plain halves "Expected audit report artifact: " 32 (by decide)
  have paths := @escapedLength_plain halves "Allowed write paths: " 21 (by decide)
  have comma := @escapedLength_plain halves ", " 2 (by decide)
  have prompt := @escapedLength_plain halves "Original task prompt (compacted):" 33 (by decide)
  have ledger := @escapedLength_plain halves "Compact audit evidence ledger:" 30 (by decide)
  have cut (text : String) (maxChars : ℚ) : escapedLength halves
      ((cutting halves numberText host).truncateTextForRequest text maxChars) =
        cutLength halves numberText text maxChars :=
    escapedLength_truncateTextForRequest numberText text maxChars
  have disabledRow : ((if reason = .repositoryInspectionBudgetExhausted then
      ["Repository-inspection tools are disabled for this finalization request; use only artifact write/finalize/validate/commit tools or finish with final text."]
      else []).map fun text => escapedLength halves text + 2).sum =
        if reason = .repositoryInspectionBudgetExhausted then 155 else 0 := by
    split
    · rw [List.map_singleton, List.sum_singleton, disabled]
    · rfl
  have artifactRow : (((filled input.auditReportArtifactPath).map
      ("Expected audit report artifact: " ++ ·)).toList.map fun text =>
        escapedLength halves text + 2).sum =
          match filled input.auditReportArtifactPath with
          | some path => 34 + escapedLength halves path
          | none => 0 := by
    cases filled input.auditReportArtifactPath with
    | none => rfl
    | some path =>
      rw [Option.map_some, Option.toList_some, List.map_singleton, List.sum_singleton,
        escapedLength_append, artifact]
      change 32 + escapedLength halves path + 2 = 34 + escapedLength halves path
      omega
  have pathsRow : ((if input.requestedWritePaths.isEmpty then []
      else ["Allowed write paths: " ++ join ", " input.requestedWritePaths]).map fun text =>
        escapedLength halves text + 2).sum =
          if input.requestedWritePaths.isEmpty then 0
          else 23 + joinedLength halves 2 input.requestedWritePaths := by
    split
    · rfl
    · rw [List.map_singleton, List.sum_singleton, escapedLength_append, paths,
        escapedLength_join comma]
      omega
  rw [compactUserText, compactLength, originalPrompt, escapedLength_join escapedLength_feed, joinedLength,
    ← disabledRow, ← artifactRow, ← pathsRow]
  simp only [List.map_append, List.map_cons, List.map_nil, List.sum_append, List.sum_cons,
    List.sum_nil, escapedLength_append, title, because, transcript, request, prompt, ledger,
    escapedLength_empty, escapedLength_reason, cut, escapedLength_ledger]
  omega

end Lengths

end AifHandoff.Runtime.TokenBudgets
