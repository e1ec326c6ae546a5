import AifHandoff.Agent.PlanLayers
import AifHandoff.Lib.RegexReads
import Mathlib.Data.List.Induction

/-!
The unchecked task lines of a plan (`shared/implementationManifest.ts`), beside the task list
of the layer computation (`agent/planLayers.ts`).

Both read a plan line by line with the same two patterns. The completion gate keeps every
unchecked line that has a description left, by number and description; the layer computation
keeps one task a number, the latest line of it.
-/

namespace AifHandoff.Shared.PlanChecklist

open Regex Agent

/-! ### The items of the completion gate -/

/-- `/^\s*(?:[-*]\s*)?\[[ x~!]\]\s*/i`. -/
def checkbox : Regex :=
  cat [.startAnchor, many space, optional (.seq (oneOf "-*") (many space)), lit "[", oneOf " xX~!",
    lit "]", many space]

/-- `/^\*\*Task\s+\d+\s*:\s*(.+?)\*\*$/i`. -/
def boldTask : Regex :=
  cat [.startAnchor, lit "**", litI "Task", some1 space, some1 digit, many space, lit ":", many space,
    .capture 1 (some1Lazy dot), lit "**", .endAnchor]

/-- `/^Task\s+\d+\s*:\s*/i`. -/
def plainTask : Regex :=
  cat [.startAnchor, litI "Task", some1 space, some1 digit, many space, lit ":", many space]

/-- `/\s*\([^)]*\)\s*$/i`. -/
def closingParenthesis : Regex :=
  cat [many space, lit "(", many (noneOf ")"), lit ")", many space, .endAnchor]

def normalizeChecklistItemText (value : String) : String :=
  let unchecked := replaceFirst checkbox (fun _ => "") value
  let unbold := replaceFirst boldTask (·.group 1) unchecked
  let untitled := replaceFirst plainTask (fun _ => "") unbold
  let plain := replaceFirst closingParenthesis (fun _ => "") untitled
  Text.trim (replaceAll (some1 space) (fun _ => " ") plain)

/-- An item is its own key: its number and its description. -/
structure PendingPlanChecklistItem where
  taskNumber : Nat
  description : String
  deriving DecidableEq

/-- The line as a task line, in bold or plain. -/
def checklistMatch (line : String) : Option Hit :=
  let normalizedLine := Text.trim (replaceFirst headingMarks (fun _ => "") line)
  match exec boldCheckboxTask normalizedLine with
  | some hit => some hit
  | none => exec plainCheckboxTask normalizedLine

def taskNumber (hit : Hit) : Nat := Text.numberOfDigits (hit.group 2).toList

def isChecked (hit : Hit) : Bool := Text.toLowerCase (hit.group 1) == "x"

/-- The item of a task line that counts as pending. -/
def pendingItem (hit : Hit) : Option PendingPlanChecklistItem :=
  let description := normalizeChecklistItemText (hit.group 3)
  if isChecked hit then none
  else if taskNumber hit = Text.infinity ∨ description = "" then none
  else some ⟨taskNumber hit, description⟩

/-- The lines of a plan that are task lines. -/
def taskLines (planText : String) : List Hit :=
  (Text.split planText '\n').filterMap checklistMatch

def extractPendingPlanChecklistItems (planText : Option String) : List PendingPlanChecklistItem :=
  match planText with
  | none => []
  | some text =>
    if text = "" then [] else ((Text.split text '\n').filterMap fun line =>
      (checklistMatch line).bind pendingItem).eraseDups

theorem mem_extractPendingPlanChecklistItems {planText : String} {item : PendingPlanChecklistItem} :
    item ∈ extractPendingPlanChecklistItems (some planText) ↔
      ∃ hit ∈ taskLines planText, pendingItem hit = some item := by
  have items : item ∈ ((Text.split planText '\n').filterMap fun line =>
      (checklistMatch line).bind pendingItem).eraseDups ↔
      ∃ hit ∈ taskLines planText, pendingItem hit = some item := by
    rw [List.mem_eraseDups, ← List.filterMap_filterMap, List.mem_filterMap]
    rfl
  rw [← items, extractPendingPlanChecklistItems]
  split
  · rename_i blank
    subst blank
    have nothing : (Text.split "" '\n').filterMap (fun line =>
        (checklistMatch line).bind pendingItem) = [] := by decide
    rw [nothing]
    rfl
  · rfl

/-! ### Task lines and phase headings -/

theorem parseInlineTask_eq (line : String) :
    parseInlineTask line = (checklistMatch line).map inlineTaskOf := by
  cases bold : exec boldCheckboxTask
      (Text.trim (replaceFirst headingMarks (fun _ => "") line)) with
  | some hit => simp only [parseInlineTask, checklistMatch, bold, Option.map_some]
  | none => simp only [parseInlineTask, checklistMatch, bold]

/-- What stands before the words of a heading. -/
def isHeadingChar (c : Char) : Bool := Text.isSpace c || c == '#'

theorem dropWhile_of_readBetween {p : Char → Bool} {at_ next : Cursor}
    (read : ReadBetween (p · = true) at_ next) :
    at_.after.dropWhile p = next.after.dropWhile p := by
  obtain ⟨read, after, -, all⟩ := read
  rw [after, List.dropWhile_append_of_pos all]

theorem isHeadingChar_of_space (c : Char) (blank : Text.isSpace c = true) :
    isHeadingChar c = true := by
  rw [isHeadingChar, blank, Bool.true_or]

theorem acceptsOnly_blanks : AcceptsOnly (isHeadingChar · = true) (many space) :=
  isHeadingChar_of_space

theorem acceptsOnly_gap : AcceptsOnly (isHeadingChar · = true) (some1 space) :=
  ⟨isHeadingChar_of_space, isHeadingChar_of_space⟩

theorem acceptsOnly_marks {marks : String} (all : marks.toList.all (· == '#') = true) :
    AcceptsOnly (isHeadingChar · = true) (lit marks) := by
  refine acceptsOnly_lit fun c inside => ?_
  rw [isHeadingChar, List.all_eq_true.mp all c inside, Bool.or_true]

theorem dropWhile_headingMarks (line : String) :
    (replaceFirst headingMarks (fun _ => "") line).toList.dropWhile isHeadingChar =
      line.toList.dropWhile isHeadingChar := by
  have mark : AcceptsOnly (isHeadingChar · = true) (lit "#") := acceptsOnly_marks rfl
  have only : AcceptsOnly (isHeadingChar · = true) headingMarks :=
    ⟨trivial, acceptsOnly_blanks, mark, acceptsOnly_upTo 5 mark, acceptsOnly_blanks, trivial⟩
  rw [replaceFirst]
  cases found : exec headingMarks line with
  | none => rfl
  | some hit =>
    obtain ⟨skipped, reads⟩ := reads_of_exec_anchored rfl found
    have same := dropWhile_of_readBetween (reads.within only)
    simpa [skipped] using same.symm

theorem eq_of_toLower {c : Char} (lower : c.toLower = 'p') : c = 'p' ∨ c = 'P' := by
  unfold Char.toLower at lower
  split at lower
  · right
    have shifted : c.val + 32 = 112 := by simpa using congrArg Char.val lower
    have upper : c.val = 80 := by grind
    exact Char.ext upper
  · exact .inl lower

theorem not_isHeadingChar_of_toLower {c : Char} (lower : c.toLower = 'p') :
    isHeadingChar c = false := by
  rcases eq_of_toLower lower with rfl | rfl <;> decide

theorem phaseHeading_begins {line : String} (heading : isPhaseHeading line = true) :
    ∃ c rest, line.toList.dropWhile isHeadingChar = c :: rest ∧ c.toLower = 'p' := by
  have begins (marks : String) (all : marks.toList.all (· == '#') = true)
      (found : test (cat [.startAnchor, many space, lit marks, some1 space, litI "Phase",
        .wordBoundary]) line = true) :
      ∃ c rest, line.toList.dropWhile isHeadingChar = c :: rest ∧ c.toLower = 'p' := by
    rw [test_anchored_iff rfl] at found
    obtain ⟨next, start, ⟨atStart, rfl⟩, blanks, readBlanks, behind, readMarks, word, readGap, tail,
      ⟨after, ⟨c, rest, wordIs, isP, -⟩, -⟩, -⟩ := found
    have before := (readBlanks.within acceptsOnly_blanks).trans
      ((readMarks.within (acceptsOnly_marks all)).trans (readGap.within acceptsOnly_gap))
    have same := dropWhile_of_readBetween before
    rw [wordIs] at same
    have lower : c.toLower = 'p' := beq_iff_eq.mp isP
    rw [List.dropWhile_cons_of_neg (by simp [not_isHeadingChar_of_toLower lower])] at same
    exact ⟨c, rest, same, lower⟩
  rcases Bool.or_eq_true_iff.mp heading with three | two
  · exact begins "###" rfl three
  · exact begins "##" rfl two

theorem dropWhile_of_trim {value : String} {c : Char} {rest : List Char}
    (begins : (Text.trim value).toList = c :: rest) (word : isHeadingChar c = false) :
    ∃ rest', value.toList.dropWhile isHeadingChar = c :: rest' := by
  have front : (Text.trim value).toList <+: value.toList.dropWhile Text.isSpace := by
    rw [Text.trim, String.toList_ofList, ← List.reverse_suffix, List.reverse_reverse]
    exact List.dropWhile_suffix Text.isSpace
  obtain ⟨behind, split⟩ := front
  have blanks : ∀ d ∈ value.toList.takeWhile Text.isSpace, isHeadingChar d = true :=
    fun d inside => isHeadingChar_of_space d (List.mem_takeWhile_imp inside)
  refine ⟨rest ++ behind, ?_⟩
  rw [← List.takeWhile_append_dropWhile (p := Text.isSpace) (l := value.toList),
    List.dropWhile_append_of_pos blanks, ← split, begins, List.cons_append,
    List.dropWhile_cons_of_neg (by simp [word])]

theorem checkboxStart_begins {value : String} {behind : Regex} {hit : Hit}
    (found : exec (.seq checkboxStart behind) value = some hit) :
    ∃ c rest, value.toList = c :: rest ∧ c ∈ ['-', '*', '['] := by
  obtain ⟨-, reads⟩ := reads_of_exec_anchored rfl found
  obtain ⟨_, ⟨start, ⟨-, rfl⟩, mark, listMark, _, bracket, -⟩, -⟩ := reads
  rcases listMark with ⟨_, ⟨c, rest, after, isMark, -⟩, -⟩ | nothing
  · refine ⟨c, rest, after, ?_⟩
    have among : c ∈ ['-', '*'] := List.contains_iff_mem.mp isMark
    exact List.mem_append_left ['['] among
  · obtain rfl : mark = _ := nothing
    obtain ⟨_, ⟨c, rest, after, isBracket, -⟩, -⟩ := bracket
    exact ⟨c, rest, after, by rw [beq_iff_eq.mp isBracket]; decide⟩

theorem taskLine_begins {line : String} {hit : Hit} (found : checklistMatch line = some hit) :
    ∃ c rest, line.toList.dropWhile isHeadingChar = c :: rest ∧ c ∈ ['-', '*', '['] := by
  have starts : ∃ c rest, (Text.trim (replaceFirst headingMarks (fun _ => "") line)).toList =
      c :: rest ∧ c ∈ ['-', '*', '['] := by
    rw [checklistMatch] at found
    split at found
    · rename_i bold
      exact checkboxStart_begins bold
    · exact checkboxStart_begins found
  obtain ⟨c, rest, begins, among⟩ := starts
  have word : isHeadingChar c = false := by
    have each : ∀ d ∈ ['-', '*', '['], isHeadingChar d = false := by decide
    exact each c among
  obtain ⟨rest', stripped⟩ := dropWhile_of_trim begins word
  rw [dropWhile_headingMarks] at stripped
  exact ⟨c, rest', stripped, among⟩

theorem checklistMatch_of_phaseHeading {line : String} (heading : isPhaseHeading line = true) :
    checklistMatch line = none := by
  cases found : checklistMatch line with
  | none => rfl
  | some hit =>
    obtain ⟨c, rest, begins, lower⟩ := phaseHeading_begins heading
    obtain ⟨d, rest', begins', among⟩ := taskLine_begins found
    obtain ⟨rfl, -⟩ := List.cons.inj (begins.symm.trans begins')
    have each : ∀ d ∈ ['-', '*', '['], d.toLower ≠ 'p' := by decide
    exact absurd lower (each c among)

/-! ### What the readers report -/

/-- Whether the task of a number is completed, as far as the plan has been read. -/
def completedOf (state : PlanParse) (number : Nat) : Option Bool :=
  (taskByNumber state.tasksByNumber number).map (·.completed)

theorem find?_replaced (tasks : List PlanTaskNode) (node : PlanTaskNode) (number : Nat) :
    (tasks.map fun task => if task.number = node.number then node else task).find?
        (·.number == number) =
      if node.number = number then
        if number ∈ tasks.map (·.number) then some node else none
      else tasks.find? (·.number == number) := by
  induction tasks with
  | nil => simp
  | cons task tasks ih =>
    rw [List.map_cons, List.find?_cons, ih]
    by_cases replaced : task.number = node.number
    · rw [if_pos replaced]
      by_cases same : node.number = number
      · simp [same, replaced]
      · have here : (node.number == number) = false := by simpa using same
        have old : (task.number == number) = false := by simpa [replaced] using same
        simp [same, here, old]
    · rw [if_neg replaced]
      by_cases same : node.number = number
      · have other : (task.number == number) = false := by
          rw [← same]
          simpa using replaced
        have absent : number ≠ task.number := (ne_of_beq_false other).symm
        simp [same, other, absent]
      · simp [same, List.find?_cons]

theorem taskByNumber_setTask (tasks : List PlanTaskNode) (node : PlanTaskNode) (number : Nat) :
    taskByNumber (setTask tasks node) number =
      if node.number = number then some node else taskByNumber tasks number := by
  rw [taskByNumber, taskByNumber, setTask, Keyed.set]
  split
  · rename_i inside
    rw [find?_replaced]
    split
    · rename_i same
      rw [if_pos (by rw [← same]; exact inside)]
    · rfl
  · rename_i fresh
    rw [List.find?_append]
    split
    · rename_i same
      have absent : tasks.find? (·.number == number) = none := by
        rw [List.find?_eq_none]
        intro task among found
        refine fresh (List.mem_map.mpr ⟨task, among, ?_⟩)
        rw [same]
        exact beq_iff_eq.mp found
      simp [absent, same]
    · rename_i other
      simp [other]

theorem completedOf_addDependsOn (state : PlanParse) (line : String) (number : Nat) :
    completedOf (addDependsOn state line) number = completedOf state number := by
  unfold addDependsOn
  cases state.currentTaskNumber with
  | none => rfl
  | some current =>
    dsimp only
    cases exec dependsOn (String.ofList (line.toList.filter (· ≠ '*'))) with
    | none => rfl
    | some depLine =>
      dsimp only
      split
      · rfl
      cases found : taskByNumber state.tasksByNumber current with
      | none => rfl
      | some node =>
        have numbered : node.number = current := by simpa using List.find?_some found
        simp only [completedOf, taskByNumber_setTask]
        split
        · rename_i same
          obtain rfl : current = number := numbered.symm.trans same
          rw [found]
          rfl
        · rfl

theorem completedOf_readPlanLine (state : PlanParse) (line : String) (number : Nat) :
    completedOf (readPlanLine state line) number = match checklistMatch line with
      | some hit => if taskNumber hit = number then some (isChecked hit)
          else completedOf state number
      | none => completedOf state number := by
  unfold readPlanLine
  split
  · rename_i heading
    rw [checklistMatch_of_phaseHeading heading]
    rfl
  rw [parseInlineTask_eq]
  cases checklistMatch line with
  | none => exact completedOf_addDependsOn state line number
  | some hit =>
    simp only [Option.map_some, completedOf, addInlineTask, taskByNumber_setTask]
    have numbered : (inlineTaskOf hit).number = taskNumber hit := rfl
    rw [numbered]
    split
    · rfl
    · rfl

/-- The last task line of a number. -/
def lastLine (hits : List Hit) (number : Nat) : Option Hit :=
  (hits.filter (taskNumber · = number)).getLast?

theorem completedOf_readPlan (planText : String) (number : Nat) :
    completedOf (readPlan planText) number =
      (lastLine (taskLines planText) number).map isChecked := by
  rw [readPlan, taskLines]
  induction Text.split planText '\n' using List.reverseRecOn with
  | nil => rfl
  | append_singleton lines line ih =>
    rw [List.foldl_append, List.foldl_cons, List.foldl_nil, completedOf_readPlanLine, ih,
      List.filterMap_append]
    cases found : checklistMatch line with
    | none => simp [found]
    | some hit =>
      by_cases same : taskNumber hit = number
      · simp [lastLine, found, same]
      · simp [lastLine, found, same]

/-- The numbers of the items that the completion gate has pending. -/
def pendingItemNumbers (planText : String) : List Nat :=
  (extractPendingPlanChecklistItems (some planText)).map (·.taskNumber)

/-- The numbers of the tasks that the layer computation has as not completed. -/
def uncompletedNumbers (planText : String) : List Nat :=
  ((parsePlanTasks planText).filter (!·.completed)).map (·.number)

/-- A line that the completion gate counts. -/
def CountsAsPending (hit : Hit) : Prop :=
  isChecked hit = false ∧ taskNumber hit ≠ Text.infinity ∧
    normalizeChecklistItemText (hit.group 3) ≠ ""

theorem pendingItem_number_iff {hit : Hit} {number : Nat} :
    (∃ item, pendingItem hit = some item ∧ item.taskNumber = number) ↔
      CountsAsPending hit ∧ taskNumber hit = number := by
  rw [pendingItem, CountsAsPending]
  -- the number is never computed
  generalize Text.infinity = infinity
  cases isChecked hit with
  | true => simp
  | false =>
    by_cases skipped : taskNumber hit = infinity ∨ normalizeChecklistItemText (hit.group 3) = ""
    · simp only [Bool.false_eq_true, if_false, if_pos skipped]
      tauto
    · have counts := not_or.mp skipped
      simp [counts]

theorem mem_pendingItemNumbers_iff {planText : String} {number : Nat} :
    number ∈ pendingItemNumbers planText ↔
      ∃ hit ∈ taskLines planText, CountsAsPending hit ∧ taskNumber hit = number := by
  rw [pendingItemNumbers, List.mem_map]
  simp only [mem_extractPendingPlanChecklistItems, ← pendingItem_number_iff]
  constructor
  · rintro ⟨item, ⟨hit, inside, counted⟩, numbered⟩
    exact ⟨hit, inside, item, counted, numbered⟩
  · rintro ⟨hit, inside, item, counted, numbered⟩
    exact ⟨item, ⟨hit, inside, counted⟩, numbered⟩

theorem mem_uncompletedNumbers_iff {planText : String} {number : Nat} :
    number ∈ uncompletedNumbers planText ↔
      ∃ hit, lastLine (taskLines planText) number = some hit ∧ isChecked hit = false := by
  have state : number ∈ uncompletedNumbers planText ↔
      completedOf (readPlan planText) number = some false := by
    rw [uncompletedNumbers, parsePlanTasks, List.mem_map]
    constructor
    · rintro ⟨task, among, rfl⟩
      obtain ⟨inside, open_⟩ := List.mem_filter.mp among
      obtain ⟨stored, sorted, rfl⟩ := List.mem_map.mp inside
      rw [List.mem_insertionSort] at sorted
      have found := taskByNumber_of_mem (distinctNumbers_readPlan planText) sorted
      have uncompleted : stored.completed = false := by simpa [normalizeTask] using open_
      simp [completedOf, normalizeTask, found, uncompleted]
    · intro uncompleted
      obtain ⟨stored, found, open_⟩ := Option.map_eq_some_iff.mp uncompleted
      have numbered : stored.number = number := by simpa using List.find?_some found
      have inside : stored ∈ (readPlan planText).tasksByNumber := List.mem_of_find?_eq_some found
      refine ⟨_, List.mem_filter.mpr ⟨List.mem_map_of_mem
        ((List.mem_insertionSort _).mpr inside), ?_⟩, numbered⟩
      simp [normalizeTask, open_]
  rw [state, completedOf_readPlan, Option.map_eq_some_iff]

theorem computeExecutionLayers_eq_nil_iff (tasks : List PlanTaskNode) :
    computeExecutionLayers tasks = [] ↔ tasks = [] := by
  constructor
  · intro noLayers
    by_contra some_
    have numbers : (tasks.map (·.number)).toFinset.Nonempty := by
      rw [List.toFinset_nonempty_iff]
      simpa using some_
    rw [computeExecutionLayers_eq, Layering.layers_of_nonempty numbers] at noLayers
    cases noLayers
  · rintro rfl
    rfl

theorem layers_eq_nil_iff (planText : String) :
    (computePendingPlanLayers planText).layers = [] ↔ uncompletedNumbers planText = [] := by
  rw [computePendingPlanLayers, computeExecutionLayers_eq_nil_iff, pendingTasks, uncompletedNumbers,
    List.map_eq_nil_iff, List.map_eq_nil_iff]

/-- The readers report the same task numbers, and see a finished plan alike. -/
def Agree (planText : String) : Prop :=
  (∀ number, number ∈ pendingItemNumbers planText ↔ number ∈ uncompletedNumbers planText) ∧
    ((computePendingPlanLayers planText).layers = [] ↔
      extractPendingPlanChecklistItems (some planText) = [])

/-- A number with a line that counts is left unchecked by its last line, and a number that its
last line leaves unchecked has a line that counts. -/
def LastLinesDecide (planText : String) : Prop :=
  (∀ hit ∈ taskLines planText, CountsAsPending hit →
    ∃ last, lastLine (taskLines planText) (taskNumber hit) = some last ∧ isChecked last = false) ∧
  ∀ hit ∈ taskLines planText, lastLine (taskLines planText) (taskNumber hit) = some hit →
    isChecked hit = false →
    ∃ counted ∈ taskLines planText, CountsAsPending counted ∧ taskNumber counted = taskNumber hit

theorem lastLine_some {hits : List Hit} {number : Nat} {hit : Hit}
    (last : lastLine hits number = some hit) : hit ∈ hits ∧ taskNumber hit = number := by
  have among := List.mem_of_getLast? last
  rw [List.mem_filter, decide_eq_true_eq] at among
  exact among

/-- The completion gate and the layer computation have the same tasks of a plan pending exactly
when the last line of every task decides. -/
theorem pending_numbers_agree_iff (planText : String) :
    Agree planText ↔ LastLinesDecide planText := by
  have numbers : (∀ number, number ∈ pendingItemNumbers planText ↔
      number ∈ uncompletedNumbers planText) ↔ LastLinesDecide planText := by
    simp only [mem_pendingItemNumbers_iff, mem_uncompletedNumbers_iff]
    constructor
    · intro same
      constructor
      · intro hit inside counts
        exact (same (taskNumber hit)).mp ⟨hit, inside, counts, rfl⟩
      · intro hit inside last open_
        exact (same (taskNumber hit)).mpr ⟨hit, last, open_⟩
    · rintro ⟨leaves, counts⟩ number
      constructor
      · rintro ⟨hit, inside, counted, rfl⟩
        exact leaves hit inside counted
      · rintro ⟨hit, last, open_⟩
        obtain ⟨inside, rfl⟩ := lastLine_some last
        exact counts hit inside last open_
  refine ⟨fun agree => numbers.mp agree.1, fun decided => ?_⟩
  have same := numbers.mpr decided
  refine ⟨same, ?_⟩
  rw [layers_eq_nil_iff, List.eq_nil_iff_forall_not_mem, ← List.map_eq_nil_iff (f := (·.taskNumber)),
    List.eq_nil_iff_forall_not_mem]
  exact forall_congr' fun number => not_congr (same number).symm

/-- A task that is written down again once it is done is pending for the completion gate. -/
theorem checked_again_is_pending : ¬ ∀ planText, Agree planText := by
  intro agree
  have plan := (agree "- [ ] Task 1: Do it\n- [x] Task 1: Do it").1 1
  have pending : 1 ∈ pendingItemNumbers "- [ ] Task 1: Do it\n- [x] Task 1: Do it" := by
    decide +kernel
  have completed : 1 ∉ uncompletedNumbers "- [ ] Task 1: Do it\n- [x] Task 1: Do it" := by
    decide
  exact completed (plan.mp pending)

end AifHandoff.Shared.PlanChecklist
