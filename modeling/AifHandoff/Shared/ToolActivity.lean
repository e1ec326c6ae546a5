import AifHandoff.Lib.LogLines

/-!
Tool activity in the activity log of a task (`shared/taskCompletionEvidence.ts`).

The completion evidence counts the tool lines of the implementation and of the review in the log
of the task. Three counters read the lines of the log, each by rules of its own.
-/

namespace AifHandoff.Shared.ToolActivity

open Regex

/-! ### Lines -/

def mainImplementers : List String := ["implement-coordinator", "aif-implement"]

def reviewAgents : List String :=
  ["review-sidecar", "security-sidecar", "aif-review", "aif-security-checklist", "review-gate",
    "review-correctness", "review-security-data-loss", "review-regression-api-contract",
    "review-audit-evidence"]

/-- `/\]\s+Agent:\s+(?:implement-coordinator|aif-implement)\s+started\b/i`. -/
def mainImplementerStart : Regex :=
  eventPattern "Agent:" (anyWord mainImplementers) (litI "started")

/-- `/\]\s+Agent:\s+(?:implement-coordinator|aif-implement)\s+(?:complete|failed)\b/i`. -/
def mainImplementerEnd : Regex :=
  eventPattern "Agent:" (anyWord mainImplementers) (anyWord ["complete", "failed"])

/-- `/\]\s+Agent:\s+.+\s+started\b/i`. -/
def anyAgentStart : Regex := eventPattern "Agent:" (some1 dot) (litI "started")

/-- `/\]\s+Agent:\s+(?:review-sidecar|..)\s+(started|complete|failed)\b/i`. -/
def reviewAgentEvent : Regex :=
  eventPattern "Agent:" (anyWord reviewAgents)
    (.capture 1 (anyWord ["started", "complete", "failed"]))

/-- `\S`. -/
def visible : Regex := .set (!Text.isSpace ·)

/-- `/\]\s+Tool:\s+\S+/`. -/
def toolLine : Regex := cat [lit "]", some1 space, lit "Tool:", some1 space, some1 visible]

/-- `/\]\s+Tool:\s+(\S+)(?:\s+(.+))?$/`. -/
def toolCall : Regex :=
  cat [lit "]", some1 space, lit "Tool:", some1 space, .capture 1 (some1 visible),
    optional (cat [some1 space, .capture 2 (some1 dot)]), .endAnchor]

/-- The lines of a log; there are none without a log. -/
def logLines : Option String → List String
  | none => []
  | some agentActivityLog => if agentActivityLog = "" then [] else Text.splitLines agentActivityLog

/-! ### Tools of the implementation -/

/-- The lines behind the last one with the pattern. -/
def behindLast (pattern : Regex) : List String → Option (List String)
  | [] => none
  | line :: rest => (behindLast pattern rest).or (if test pattern line then some rest else none)

/-- The line ends a run of the implementation. -/
def endsImplementation (line : String) : Bool :=
  test mainImplementerEnd line || test anyAgentStart line

/-- The tool lines of the latest run. -/
def latestImplementationToolLines (agentActivityLog : Option String) : List String :=
  match behindLast mainImplementerStart (logLines agentActivityLog) with
  | none => []
  | some lines => (lines.takeWhile (!endsImplementation ·)).filter (test toolLine)

def countLatestImplementationToolActivity (agentActivityLog : Option String) : Nat :=
  (latestImplementationToolLines agentActivityLog).length

/-- Whether a run is active, and the tool lines so far. -/
structure ImplementationCount where
  active : Bool
  count : Nat

def ImplementationCount.read (state : ImplementationCount) (line : String) : ImplementationCount :=
  if test mainImplementerStart line then { state with active := true }
  else if state.active && test mainImplementerEnd line then { state with active := false }
  else if state.active && test anyAgentStart line then { state with active := false }
  else if state.active && test toolLine line then { state with count := state.count + 1 }
  else state

def countImplementationToolActivity (agentActivityLog : Option String) : Nat :=
  ((logLines agentActivityLog).foldl ImplementationCount.read ⟨false, 0⟩).count

/-! ### Inspections of the review -/

def hasShellMutationRisk (command : String) : Bool :=
  let lower := Text.toLowerCase command
  if test (oneOf ";&|<>") command || test (lit "\x60") command || test (lit "$(") command then true
  else if test (cat [.startAnchor, lit "find", .wordBoundary]) lower &&
      test (cat [space, lit "-", anyOf [lit "delete", lit "exec", lit "execdir", lit "ok",
        lit "okdir"], .wordBoundary]) lower then true
  else if test (cat [.startAnchor, lit "sed", .wordBoundary]) lower &&
      test (cat [.alt .startAnchor space, .alt
        (cat [lit "-i", .alt .wordBoundary (.set fun c => !('a' ≤ c && c ≤ 'z'))])
        (cat [lit "--in-place", .alt (lit "=") .wordBoundary])]) lower then true
  else if test (cat [.startAnchor, lit "git", some1 space,
        anyOf [lit "diff", lit "show", lit "log", lit "grep"], .wordBoundary]) lower &&
      test (cat [.alt .startAnchor space, lit "--output", .alt (lit "=") .wordBoundary]) lower then
    true
  else false

/-- The read-only commands, at the beginning of a command line. -/
def inspectionCommand : Regex :=
  cat [.startAnchor, anyOf [litI "rg", litI "grep", litI "findstr", litI "select-string",
    cat [litI "git", some1 space, anyOf [litI "status", litI "diff", litI "show", litI "log",
      litI "ls-files", litI "grep"]],
    litI "ls", litI "dir", litI "get-childitem", litI "cat", litI "type", litI "sed", litI "head",
    litI "tail", litI "find", litI "test", litI "wc"], .wordBoundary]

def isReadOnlyInspectionShellCommand (detail : String) : Bool :=
  let command := Text.trim detail
  if command.isEmpty || hasShellMutationRisk command then false else test inspectionCommand command

def inspectionTools : List String :=
  ["read_file", "list_files", "search_files", "grep", "rg", "git_status", "git_diff", "git_show",
    "git_log"]

def isReviewInspectionToolLine (line : String) : Bool :=
  match exec toolCall line with
  | none => false
  | some hit =>
    let tool := Text.toLowerCase (hit.group 1)
    let detail := Text.trim (hit.group 2)
    if inspectionTools.contains tool then true
    else if tool != "run_shell" then false
    else isReadOnlyInspectionShellCommand detail

/-- The event of a review agent in a line. -/
def reviewEvent (line : String) : Option String :=
  (exec reviewAgentEvent line).map fun hit => Text.toLowerCase (hit.group 1)

/-- The review agents that are active, and the inspections so far. -/
structure ReviewCount where
  activeReviewAgents : Nat
  count : Nat

def ReviewCount.read (state : ReviewCount) (line : String) : ReviewCount :=
  let event := reviewEvent line
  if event = some "started" then
    { state with activeReviewAgents := state.activeReviewAgents + 1 }
  else if event = some "complete" ∨ event = some "failed" then
    { state with activeReviewAgents := state.activeReviewAgents - 1 }
  else if 0 < state.activeReviewAgents ∧ isReviewInspectionToolLine line = true then
    { state with count := state.count + 1 }
  else state

def countReviewStageRepositoryToolActivity (agentActivityLog : Option String) : Nat :=
  ((logLines agentActivityLog).foldl ReviewCount.read ⟨0, 0⟩).count

/-! ### Of any log -/

section AnyLog

theorem behindLast_eq_none {pattern : Regex} {lines : List String}
    (none_ : behindLast pattern lines = none) : ∀ line ∈ lines, test pattern line = false := by
  induction lines with
  | nil => exact fun line inside => absurd inside List.not_mem_nil
  | cons first lines ih =>
    rw [behindLast, Option.or_eq_none_iff] at none_
    have here : test pattern first = false := by
      cases found : test pattern first with
      | false => rfl
      | true =>
        rw [found, if_pos rfl] at none_
        cases none_.2
    exact List.forall_mem_cons.mpr ⟨here, ih none_.1⟩

theorem behindLast_eq_some {pattern : Regex} {lines rest : List String}
    (found : behindLast pattern lines = some rest) : ∃ front line, lines = front ++ line :: rest ∧
      test pattern line = true ∧ ∀ other ∈ rest, test pattern other = false := by
  induction lines with
  | nil => cases found
  | cons first lines ih =>
    rw [behindLast] at found
    cases later : behindLast pattern lines with
    | some more =>
      rw [later, Option.some_or, Option.some.injEq] at found
      obtain rfl := found
      obtain ⟨front, line, split, here, none_⟩ := ih later
      exact ⟨first :: front, line, by rw [split]; rfl, here, none_⟩
    | none =>
      rw [later, Option.none_or] at found
      split at found
      · rename_i here
        obtain rfl := Option.some.inj found
        exact ⟨[], first, rfl, here, behindLast_eq_none later⟩
      · cases found

theorem count_le_read (state : ImplementationCount) (line : String) :
    state.count ≤ (state.read line).count := by
  rw [ImplementationCount.read]
  split_ifs
  · exact Nat.le_refl _
  · exact Nat.le_refl _
  · exact Nat.le_refl _
  · exact Nat.le_succ _
  · exact Nat.le_refl _

theorem count_le_foldl (lines : List String) (state : ImplementationCount) :
    state.count ≤ (lines.foldl ImplementationCount.read state).count := by
  induction lines generalizing state with
  | nil => exact Nat.le_refl _
  | cons line rest ih => exact Nat.le_trans (count_le_read state line) (ih _)

/-- An active run goes over a line that is no start and no end, and counts it if it is a tool. -/
theorem read_active {state : ImplementationCount} {line : String} (active : state.active = true)
    (noStart : test mainImplementerStart line = false) (noEnd : endsImplementation line = false) :
    state.read line =
      { state with count := state.count + if test toolLine line = true then 1 else 0 } := by
  obtain ⟨noMainEnd, noAgent⟩ := Bool.or_eq_false_iff.mp noEnd
  obtain ⟨isActive, count⟩ := state
  obtain rfl : isActive = true := active
  rw [ImplementationCount.read, noStart, noMainEnd, noAgent]
  cases test toolLine line with
  | true => rfl
  | false => rfl

theorem count_active {lines : List String} {state : ImplementationCount}
    (active : state.active = true) (none_ : ∀ line ∈ lines, test mainImplementerStart line = false) :
    state.count + ((lines.takeWhile (!endsImplementation ·)).filter (test toolLine)).length ≤
      (lines.foldl ImplementationCount.read state).count := by
  induction lines generalizing state with
  | nil => exact Nat.le_refl _
  | cons line rest ih =>
    obtain ⟨noStart, later⟩ := List.forall_mem_cons.mp none_
    cases ends : endsImplementation line with
    | true =>
      rw [List.takeWhile_cons_of_neg (by simp [ends])]
      exact count_le_foldl (line :: rest) state
    | false =>
      rw [List.takeWhile_cons_of_pos (by simp [ends]), List.foldl_cons,
        read_active active noStart ends]
      refine Nat.le_trans (Nat.le_of_eq ?_) (ih active later)
      cases tool : test toolLine line with
      | true => simp [List.filter_cons_of_pos tool]; omega
      | false => simp [tool]

theorem latest_le_total (agentActivityLog : Option String) :
    countLatestImplementationToolActivity agentActivityLog ≤
      countImplementationToolActivity agentActivityLog := by
  rw [countLatestImplementationToolActivity, latestImplementationToolLines,
    countImplementationToolActivity]
  cases found : behindLast mainImplementerStart (logLines agentActivityLog) with
  | none => exact Nat.zero_le _
  | some rest =>
    obtain ⟨front, line, split, starts, none_⟩ := behindLast_eq_some found
    rw [split, List.foldl_append, List.foldl_cons]
    have started : ∀ state : ImplementationCount, (state.read line).active = true := by
      intro state
      rw [ImplementationCount.read, if_pos starts]
    exact Nat.le_trans (Nat.le_add_left _ _) (count_active (started _) none_)

end AnyLog

end AifHandoff.Shared.ToolActivity
