import AifHandoff.Agent.ActivityQueue
import AifHandoff.Shared.ToolActivity

/-!
Runs of agents and the activity log they leave (`agent/subagentQuery.ts`, `agent/hooks.ts`).

A run logs a line when it starts and one when it ends; between them it logs its tool calls. A
crash of the process cuts a run off without a line. The implementation runs alone, review agents
run beside each other.
-/

namespace AifHandoff.Agent.AgentRuns

open ActivityQueue Shared.ToolActivity Regex

/-! ### Steps -/

/-- The name of an agent: visible characters. -/
structure AgentName where
  text : String
  filled : text ≠ ""
  visible : ∀ c ∈ text.toList, Text.isSpace c = false

instance : DecidableEq AgentName := fun a b =>
  decidable_of_iff (a.text = b.text) ⟨fun same => by cases a; cases b; simpa using same,
    fun same => congrArg AgentName.text same⟩

def AgentName.isImplementer (agent : AgentName) : Bool := mainImplementers.contains agent.text

def AgentName.isReviewer (agent : AgentName) : Bool := reviewAgents.contains agent.text

/-- The time of a line, as `toISOString` gives it. -/
structure Timestamp where
  text : String
  noBracket : ']' ∉ text.toList

inductive RunEnd where
  | complete
  | failed
  deriving DecidableEq

def RunEnd.text : RunEnd → String
  | .complete => "complete"
  | .failed => "failed"

inductive Step where
  | started (time : Timestamp) (agent : AgentName) (context : String)
  | ended (time : Timestamp) (agent : AgentName) (outcome : RunEnd) (context : String)
  | tool (time : Timestamp) (agent : AgentName) (call : String)
  /-- The process crashed: the run is over, and nothing is logged. -/
  | cutOff (agent : AgentName)

def agentEntry (time : Timestamp) (agent : AgentName) (event context : String) : QueueEntry where
  timestamp := time.text
  category := .agent
  detail := agent.text ++ " " ++ event ++ " (" ++ context

/-- What a step logs. -/
def Step.entry : Step → Option QueueEntry
  | .started time agent context => some (agentEntry time agent "started" context)
  | .ended time agent outcome context => some (agentEntry time agent outcome.text context)
  | .tool time _ call => some { timestamp := time.text, category := .tool, detail := call }
  | .cutOff _ => none

def Step.line (step : Step) : Option String := step.entry.map QueueEntry.line

def log (steps : List Step) : String := newLines (steps.filterMap Step.entry)

/-! ### Histories -/

/-- The runs that are on, the reviews that were cut off, and the tool lines of the latest
implementation. -/
structure Situation where
  running : List AgentName
  lostReviews : Nat
  latestTools : List String

def Situation.idle : Situation := ⟨[], 0, []⟩

def Situation.after (s : Situation) (step : Step) : Situation :=
  match step with
  | .started _ agent _ =>
    { s with running := agent :: s.running
             latestTools := if agent.isImplementer then [] else s.latestTools }
  | .ended _ agent _ _ => { s with running := s.running.erase agent }
  | .tool _ agent _ =>
    { s with latestTools :=
        if agent.isImplementer then s.latestTools ++ step.line.toList else s.latestTools }
  | .cutOff agent =>
    { s with running := s.running.erase agent
             lostReviews := s.lostReviews + if agent.isReviewer then 1 else 0 }

/-- Review agents start beside each other, every other agent alone. -/
def Situation.Allows (s : Situation) : Step → Prop
  | .started _ agent _ => s.running = [] ∨
      agent.isReviewer = true ∧ ∀ other ∈ s.running, other.isReviewer = true
  | .ended _ agent _ _ | .tool _ agent _ | .cutOff agent => agent ∈ s.running

def situation (steps : List Step) : Situation := steps.foldl Situation.after .idle

inductive History : List Step → Prop
  | nil : History []
  | snoc {steps : List Step} {step : Step} : History steps → (situation steps).Allows step →
      History (steps ++ [step])

theorem situation_snoc (steps : List Step) (step : Step) :
    situation (steps ++ [step]) = (situation steps).after step := by
  rw [situation, List.foldl_append]
  rfl

/-! ### Lines that are read as they are written -/

def Step.startsImplementer : Step → Bool
  | .started _ agent _ => agent.isImplementer
  | _ => false

def Step.isReviewEvent : Step → Bool
  | .started _ agent _ | .ended _ agent _ _ => agent.isReviewer
  | _ => false

def Step.isTool : Step → Bool
  | .tool _ _ _ => true
  | _ => false

/-- A line that no text in it makes another. -/
structure ReadsAsWritten (step : Step) : Prop where
  oneLine : ∀ line ∈ step.line, '\n' ∉ line.toList ∧ '\r' ∉ line.toList
  starts : ∀ line ∈ step.line, test mainImplementerStart line = true →
    step.startsImplementer = true
  review : ∀ line ∈ step.line, (reviewEvent line).isSome = true → step.isReviewEvent = true
  tool : ∀ line ∈ step.line, test toolLine line = true → step.isTool = true

/-- The lines of a log. -/
def lines (steps : List Step) : List String := steps.filterMap Step.line

theorem lines_snoc (steps : List Step) (step : Step) :
    lines (steps ++ [step]) = lines steps ++ step.line.toList := by
  rw [lines, List.filterMap_append, lines]
  cases shape : step.line with
  | none => simp [shape]
  | some line => simp [shape]

theorem mem_lines {steps : List Step} {line : String} :
    line ∈ lines steps ↔ ∃ step ∈ steps, step.line = some line := List.mem_filterMap

theorem line_ne_empty {step : Step} {line : String} (logged : step.line = some line) :
    line ≠ "" := by
  obtain ⟨entry, -, rfl⟩ := Option.map_eq_some_iff.mp logged
  rintro isEmpty
  have chars := congrArg String.toList isEmpty
  simp [QueueEntry.line] at chars

/-- The lines of a log are what the steps logged. -/
theorem logLines_log {steps : List Step} (reads : ∀ step ∈ steps, ReadsAsWritten step) :
    logLines (some (log steps)) = lines steps := by
  have entries : (steps.filterMap Step.entry).map QueueEntry.line = lines steps := by
    rw [List.map_filterMap]
    rfl
  have oneLine : ∀ line ∈ lines steps, '\n' ∉ line.toList ∧ '\r' ∉ line.toList := by
    intro line inside
    obtain ⟨step, isStep, logged⟩ := mem_lines.mp inside
    exact (reads step isStep).oneLine line logged
  have filled : ∀ line ∈ lines steps, line ≠ "" := by
    intro line inside
    obtain ⟨step, -, logged⟩ := mem_lines.mp inside
    exact line_ne_empty logged
  rw [logLines, log, newLines, entries]
  cases shape : lines steps with
  | nil => rfl
  | cons first rest =>
    rw [shape] at oneLine filled
    have text : Text.join "\n" (first :: rest) ≠ "" := by
      intro isEmpty
      have split := Text.splitLines_join (List.cons_ne_nil first rest) oneLine
      rw [isEmpty] at split
      have single : Text.splitLines "" = [""] := by decide
      rw [single] at split
      exact filled first List.mem_cons_self (List.cons.inj split).1.symm
    rw [if_neg text, Text.splitLines_join (List.cons_ne_nil first rest) oneLine]

/-! ### What the counters read -/

section Lines

variable {time : Timestamp} {agent : AgentName} {context : String}

theorem AgentName.startsVisible (agent : AgentName) : StartsVisible agent.text := by
  obtain ⟨c, rest, shape⟩ := List.exists_cons_of_ne_nil
    (fun nothing => agent.filled (String.toList_inj.mp nothing) : agent.text.toList ≠ [])
  exact ⟨c, rest, shape, agent.visible c (by rw [shape]; exact List.mem_cons_self)⟩

theorem agentEntry_line (time : Timestamp) (agent : AgentName) (event context : String) :
    (agentEntry time agent event context).line = String.ofList (('[' :: time.text.toList) ++
      eventText "Agent:" agent.text event ('(' :: context.toList)) := by
  rw [← String.toList_inj, String.toList_ofList]
  simp [QueueEntry.line, agentEntry, ActivityCategory.name, eventText]

theorem agent_startsVisible : StartsVisible "Agent:" := ⟨'A', _, rfl, by decide⟩

theorem prefixFree_reviewAgents : PrefixFree reviewAgents := by decide

theorem prefixFree_mainImplementers : PrefixFree mainImplementers := by decide

theorem prefixFree_events : PrefixFree ["started", "complete", "failed"] := by decide

theorem eventWord {event : String} (isEvent : event ∈ ["started", "complete", "failed"]) :
    StartsVisible event ∧ EndsInWord event ∧ Text.toLowerCase event = event := by
  simp only [List.mem_cons, List.not_mem_nil, or_false] at isEvent
  rcases isEvent with rfl | rfl | rfl
  · exact ⟨⟨'s', _, rfl, by decide⟩, ⟨"starte".toList, 'd', by decide, by decide⟩, by decide⟩
  · exact ⟨⟨'c', _, rfl, by decide⟩, ⟨"complet".toList, 'e', by decide, by decide⟩, by decide⟩
  · exact ⟨⟨'f', _, rfl, by decide⟩, ⟨"faile".toList, 'd', by decide, by decide⟩, by decide⟩

theorem reviewEvent_line (isReviewer : agent.isReviewer = true) {event : String}
    (isEvent : event ∈ ["started", "complete", "failed"]) :
    reviewEvent (agentEntry time agent event context).line = some event := by
  obtain ⟨visible, ends, lower⟩ := eventWord isEvent
  have outside : ']' ∉ '[' :: time.text.toList := by
    simp [time.noBracket]
  obtain ⟨hit, found, group⟩ := exec_event ('(' :: context.toList) outside
    agent_startsVisible agent.startsVisible visible ends prefixFree_reviewAgents
    prefixFree_events (List.contains_iff_mem.mp isReviewer) isEvent
  rw [reviewEvent, agentEntry_line, reviewAgentEvent, found, Option.map_some, group, lower]

theorem mainImplementerStart_line (isImplementer : agent.isImplementer = true) :
    test mainImplementerStart (agentEntry time agent "started" context).line = true := by
  rw [agentEntry_line]
  exact test_event agent_startsVisible agent.startsVisible ⟨'s', _, rfl, by decide⟩
    ⟨['s', 't', 'a', 'r', 't', 'e'], 'd', by decide, by decide⟩
    (reads_anyWord prefixFree_mainImplementers (List.contains_iff_mem.mp isImplementer))
    (reads_word "started")

theorem anyAgentStart_line :
    test anyAgentStart (agentEntry time agent "started" context).line = true := by
  rw [agentEntry_line]
  have filled : agent.text.toList ≠ [] := fun nothing =>
    agent.filled (String.toList_inj.mp nothing)
  have oneLine : ∀ c ∈ agent.text.toList, isLineTerminator c = false := by
    intro c inside
    have blanks : ∀ c ∈ ['\n', '\r', '\u2028', '\u2029'], Text.isSpace c = true := by decide
    rw [isLineTerminator, decide_eq_false_iff_not]
    intro terminator
    have visible := agent.visible c inside
    rw [blanks c terminator] at visible
    cases visible
  exact test_event agent_startsVisible agent.startsVisible ⟨'s', _, rfl, by decide⟩
    ⟨['s', 't', 'a', 'r', 't', 'e'], 'd', by decide, by decide⟩ (reads_dots filled oneLine)
    (reads_word "started")

end Lines

/-! ### Inspections of the review -/

/-- What the review counter knows behind a log. -/
def reviewCount (steps : List Step) : ReviewCount :=
  (lines steps).foldl ReviewCount.read ⟨0, 0⟩

theorem reviewCount_snoc (steps : List Step) (step : Step) :
    reviewCount (steps ++ [step]) = match step.line with
      | none => reviewCount steps
      | some line => (reviewCount steps).read line := by
  rw [reviewCount, lines_snoc, List.foldl_append]
  cases step.line with
  | none => rfl
  | some line => rfl

theorem countReview_log {steps : List Step} (reads : ∀ step ∈ steps, ReadsAsWritten step) :
    countReviewStageRepositoryToolActivity (some (log steps)) = (reviewCount steps).count := by
  rw [countReviewStageRepositoryToolActivity, logLines_log reads]
  rfl

def Situation.reviewers (s : Situation) : List AgentName := s.running.filter AgentName.isReviewer

theorem toolLine_of_inspection {line : String} (inspects : isReviewInspectionToolLine line = true) :
    test toolLine line = true := by
  rw [isReviewInspectionToolLine] at inspects
  cases found : exec toolCall line with
  | none =>
    rw [found] at inspects
    cases inspects
  | some hit =>
    obtain ⟨rest, split, _, bracket, _, blank, _, tool, _, blank', _, call, -⟩ :=
      reads_of_search found
    rw [test_iff_reads]
    rw [List.append_nil] at bracket
    exact ⟨hit.skipped, rest, _, split, _, bracket, _, blank, _, tool, _, blank', _, call, rfl⟩

/-- A line of no review event changes the counter when it is an inspection during a review. -/
theorem read_of_no_event {state : ReviewCount} {line : String} (none_ : reviewEvent line = none) :
    state.read line = { state with count := state.count +
      if 0 < state.activeReviewAgents ∧ isReviewInspectionToolLine line = true then 1 else 0 } := by
  rw [ReviewCount.read, none_, if_neg (by simp), if_neg (by simp)]
  split_ifs
  · rfl
  · rfl

/-- The step is an inspection that the counter counts. -/
def Counted (state : ReviewCount) (step : Step) : Prop :=
  0 < state.activeReviewAgents ∧ step.isTool = true ∧
    ∃ line, step.line = some line ∧ isReviewInspectionToolLine line = true

theorem read_of_other (state : ReviewCount) {step : Step} {line : String}
    (logged : step.line = some line) (other : step.isReviewEvent = false)
    (reads : ReadsAsWritten step) :
    (state.read line).activeReviewAgents = state.activeReviewAgents ∧
      (state.count < (state.read line).count ↔ Counted state step) := by
  have none_ : reviewEvent line = none := by
    rw [← Option.not_isSome_iff_eq_none]
    intro event
    rw [reads.review line logged event] at other
    cases other
  rw [read_of_no_event none_]
  refine ⟨rfl, ?_⟩
  by_cases counts : 0 < state.activeReviewAgents ∧ isReviewInspectionToolLine line = true
  · rw [if_pos counts]
    exact iff_of_true (Nat.lt_succ_self _) ⟨counts.1,
      reads.tool line logged (toolLine_of_inspection counts.2), line, logged, counts.2⟩
  · rw [if_neg counts]
    refine iff_of_false (Nat.lt_irrefl _) ?_
    rintro ⟨active, -, other, logged', inspects⟩
    obtain rfl := Option.some.inj (logged.symm.trans logged')
    exact counts ⟨active, inspects⟩

theorem reviewers_erase {running : List AgentName} {agent : AgentName} (on : agent ∈ running) :
    ((running.erase agent).filter AgentName.isReviewer).length +
      (if agent.isReviewer = true then 1 else 0) = (running.filter AgentName.isReviewer).length := by
  rw [((List.perm_cons_erase on).filter AgentName.isReviewer).length_eq]
  split_ifs with reviews
  · rw [List.filter_cons_of_pos reviews, List.length_cons]
  · rw [List.filter_cons_of_neg reviews, Nat.add_zero]

/-- The counter of active reviews: those that run, and those that were cut off. -/
theorem reviewCount_step {steps : List Step} {step : Step}
    (active : (reviewCount steps).activeReviewAgents =
      (situation steps).reviewers.length + (situation steps).lostReviews)
    (allowed : (situation steps).Allows step) (reads : ReadsAsWritten step) :
    (reviewCount (steps ++ [step])).activeReviewAgents =
        (situation (steps ++ [step])).reviewers.length +
          (situation (steps ++ [step])).lostReviews ∧
      ((reviewCount steps).count < (reviewCount (steps ++ [step])).count ↔
        Counted (reviewCount steps) step) := by
  rw [reviewCount_snoc, situation_snoc]
  cases step with
  | started time agent context =>
    have logged : (Step.started time agent context).line =
        some (agentEntry time agent "started" context).line := rfl
    rw [logged]
    dsimp only
    cases reviews : agent.isReviewer with
    | true =>
      have event : reviewEvent (agentEntry time agent "started" context).line =
          some "started" := reviewEvent_line reviews (by simp)
      rw [ReviewCount.read, event, if_pos rfl]
      refine ⟨?_, iff_of_false (Nat.lt_irrefl _) fun counted => Bool.false_ne_true counted.2.1⟩
      rw [Situation.reviewers] at active
      rw [Situation.reviewers, Situation.after]
      dsimp only
      rw [List.filter_cons_of_pos reviews, List.length_cons]
      omega
    | false =>
      obtain ⟨same, counts⟩ := read_of_other (reviewCount steps) logged reviews reads
      refine ⟨?_, counts⟩
      rw [same, active, Situation.reviewers, Situation.reviewers, Situation.after,
        List.filter_cons_of_neg (by simp [reviews])]
  | ended time agent outcome context =>
    have logged : (Step.ended time agent outcome context).line =
        some (agentEntry time agent outcome.text context).line := rfl
    have erased := reviewers_erase allowed
    rw [logged]
    dsimp only
    cases reviews : agent.isReviewer with
    | true =>
      have event : reviewEvent (agentEntry time agent outcome.text context).line =
          some outcome.text := reviewEvent_line reviews (by cases outcome <;> simp [RunEnd.text])
      have ends : outcome.text ≠ "started" ∧
          (outcome.text = "complete" ∨ outcome.text = "failed") := by
        cases outcome with
        | complete => decide
        | failed => decide
      rw [ReviewCount.read, event, if_neg (by simpa using ends.1), if_pos (by simpa using ends.2)]
      refine ⟨?_, iff_of_false (Nat.lt_irrefl _) fun counted => Bool.false_ne_true counted.2.1⟩
      dsimp only
      rw [if_pos reviews] at erased
      rw [Situation.reviewers] at active
      rw [Situation.reviewers, Situation.after]
      dsimp only
      omega
    | false =>
      obtain ⟨same, counts⟩ := read_of_other (reviewCount steps) logged reviews reads
      rw [if_neg (by simp [reviews])] at erased
      rw [Situation.reviewers] at active
      refine ⟨?_, counts⟩
      rw [same, Situation.reviewers, Situation.after]
      dsimp only
      omega
  | tool time agent call =>
    obtain ⟨same, counts⟩ := read_of_other (reviewCount steps) (rfl : (Step.tool time agent call).line = some _) rfl
      reads
    exact ⟨same.trans active, counts⟩
  | cutOff agent =>
    have erased := reviewers_erase allowed
    refine ⟨?_, iff_of_false (Nat.lt_irrefl _) fun counted => Bool.false_ne_true counted.2.1⟩
    rw [Situation.reviewers] at active
    rw [Situation.reviewers, Situation.after]
    dsimp only [Step.line, Step.entry, Option.map_none]
    omega

theorem active_eq {steps : List Step} (history : History steps)
    (reads : ∀ step ∈ steps, ReadsAsWritten step) :
    (reviewCount steps).activeReviewAgents =
      (situation steps).reviewers.length + (situation steps).lostReviews := by
  induction history with
  | nil => rfl
  | @snoc steps step history allowed ih =>
    have earlier := ih fun other inside => reads other (by simp [inside])
    exact (reviewCount_step earlier allowed (reads step (by simp))).1

/-! ### The latest implementation -/

/-- The tool lines up to the first line that ends an implementation. -/
def sectionTools (rest : List String) : List String :=
  (rest.takeWhile (!endsImplementation ·)).filter (test toolLine)

theorem behindLast_snoc (pattern : Regex) (lines : List String) (line : String) :
    behindLast pattern (lines ++ [line]) = if test pattern line = true then some []
      else (behindLast pattern lines).map (· ++ [line]) := by
  induction lines with
  | nil => exact Option.none_or
  | cons first rest ih =>
    rw [List.cons_append, behindLast, ih, behindLast]
    split_ifs
    · rfl
    all_goals
      cases behindLast pattern rest with
      | none => rfl
      | some more => rfl

/-- One more line is a tool of the section, or leaves its tools as they are. -/
theorem sectionTools_snoc (rest : List String) (line : String) :
    sectionTools (rest ++ [line]) = sectionTools rest ∨
      (∀ other ∈ rest, endsImplementation other = false) ∧ test toolLine line = true ∧
        sectionTools (rest ++ [line]) = sectionTools rest ++ [line] := by
  induction rest with
  | nil =>
    rw [List.nil_append, sectionTools, sectionTools]
    cases ends : endsImplementation line with
    | true => exact .inl (by simp [ends])
    | false =>
      cases tool : test toolLine line with
      | true => exact .inr ⟨by simp, rfl, by simp [ends, tool]⟩
      | false => exact .inl (by simp [ends, tool])
  | cons first rest ih =>
    cases ends : endsImplementation first with
    | true => exact .inl (by simp [sectionTools, ends])
    | false =>
      have cons_ : ∀ more, sectionTools (first :: more) =
          (if test toolLine first = true then [first] else []) ++ sectionTools more := by
        intro more
        rw [sectionTools, List.takeWhile_cons_of_pos (by simp [ends]), List.filter_cons]
        split_ifs
        · rfl
        · rfl
      rw [List.cons_append, cons_, cons_]
      rcases ih with same | ⟨open_, tool, more⟩
      · exact .inl (by rw [same])
      · exact .inr ⟨List.forall_mem_cons.mpr ⟨ends, open_⟩, tool,
          by rw [more, List.append_assoc]⟩

/-- What the section behind the latest start has to do with the runs. -/
structure SectionTracked (rest : List String) (s : Situation) : Prop where
  tools : (sectionTools rest).Sublist s.latestTools
  alone : (∀ line ∈ rest, endsImplementation line = false) →
    ∀ agent ∈ s.running, agent.isImplementer = true

def LatestTracked (steps : List Step) : Prop :=
  ∀ rest, behindLast mainImplementerStart (lines steps) = some rest →
    SectionTracked rest (situation steps)

theorem latestTools_after (s : Situation) (step : Step) (noStart : step.startsImplementer = false) :
    s.latestTools.Sublist (s.after step).latestTools := by
  cases step with
  | started time agent context =>
    have other : ¬ agent.isImplementer = true := by
      rw [Bool.not_eq_true]
      exact noStart
    rw [Situation.after]
    dsimp only
    rw [if_neg other]
  | ended time agent outcome context => exact .refl _
  | tool time agent call =>
    rw [Situation.after]
    dsimp only
    split_ifs
    · exact List.sublist_append_left _ _
    · exact .refl _
  | cutOff agent => exact .refl _

theorem running_after {s : Situation} {step : Step} {agent : AgentName}
    (noStart : step.startsImplementer = false)
    (open_ : ∀ line ∈ step.line, endsImplementation line = false)
    (on : agent ∈ (s.after step).running) : agent ∈ s.running := by
  cases step with
  | started time other context =>
    have ends := open_ (agentEntry time other "started" context).line rfl
    rw [endsImplementation, anyAgentStart_line, Bool.or_true] at ends
    cases ends
  | ended time other outcome context => exact List.mem_of_mem_erase on
  | tool time other call => exact on
  | cutOff other => exact List.mem_of_mem_erase on

theorem implementer_not_reviewer {agent : AgentName} (implements : agent.isImplementer = true) :
    agent.isReviewer = false := by
  have apart : ∀ name ∈ mainImplementers, reviewAgents.contains name = false := by decide
  exact apart agent.text (List.contains_iff_mem.mp implements)

theorem latestTracked_step {steps : List Step} {step : Step} (tracked : LatestTracked steps)
    (allowed : (situation steps).Allows step) (reads : ReadsAsWritten step) :
    LatestTracked (steps ++ [step]) := by
  intro rest found
  rw [lines_snoc] at found
  rw [situation_snoc]
  cases starts : step.startsImplementer with
  | true =>
    cases step with
    | started time agent context =>
      have implements : agent.isImplementer = true := starts
      have alone : (situation steps).running = [] := by
        refine allowed.resolve_right fun both => ?_
        rw [implementer_not_reviewer implements] at both
        cases both.1
      have logged : (Step.started time agent context).line =
          some (agentEntry time agent "started" context).line := rfl
      rw [logged, Option.toList_some, behindLast_snoc,
        if_pos (mainImplementerStart_line implements), Option.some.injEq] at found
      rw [← found]
      refine ⟨List.nil_sublist _, fun _ other on => ?_⟩
      rw [Situation.after, alone] at on
      rw [List.mem_singleton.mp on]
      exact implements
    | ended time agent outcome context => cases starts
    | tool time agent call => cases starts
    | cutOff agent => cases starts
  | false =>
    have later := latestTools_after (situation steps) step starts
    cases logged : step.line with
    | none =>
      rw [logged, Option.toList_none, List.append_nil] at found
      obtain ⟨tools, alone⟩ := tracked rest found
      refine ⟨tools.trans later, fun open_ agent on => alone open_ agent ?_⟩
      exact running_after starts (by simp [logged]) on
    | some line =>
      have noStart : ¬ test mainImplementerStart line = true := by
        intro start
        rw [reads.starts line logged start] at starts
        cases starts
      rw [logged, Option.toList_some, behindLast_snoc, if_neg noStart] at found
      obtain ⟨earlier, before, rfl⟩ := Option.map_eq_some_iff.mp found
      obtain ⟨tools, alone⟩ := tracked earlier before
      refine ⟨?_, fun open_ agent on => alone ?_ agent ?_⟩
      · rcases sectionTools_snoc earlier line with same | ⟨open_, tool, more⟩
        · rw [same]
          exact tools.trans later
        · have isTool := reads.tool line logged tool
          cases step with
          | tool time agent call =>
            have implements := alone open_ agent allowed
            rw [more, Situation.after, logged]
            dsimp only
            rw [if_pos implements]
            exact tools.append_right [line]
          | started time agent context => cases isTool
          | ended time agent outcome context => cases isTool
          | cutOff agent => cases isTool
      · exact fun other inside => open_ other (List.mem_append_left _ inside)
      · refine running_after starts (fun other isLine => ?_) on
        obtain rfl := Option.some.inj (logged.symm.trans isLine)
        exact open_ line (List.mem_append_right _ List.mem_cons_self)

theorem latestTracked {steps : List Step} (history : History steps)
    (reads : ∀ step ∈ steps, ReadsAsWritten step) : LatestTracked steps := by
  induction history with
  | nil =>
    intro rest found
    cases found
  | @snoc steps step history allowed ih =>
    exact latestTracked_step (ih fun other inside => reads other (by simp [inside])) allowed
      (reads step (by simp))

/-! ### Attribution -/

/-- A tool line logged while a review agent runs. -/
def InspectsUnderReview (s : Situation) (step : Step) : Prop :=
  step.isTool = true ∧ (∃ line, step.line = some line ∧ isReviewInspectionToolLine line = true) ∧
    ∃ agent ∈ s.running, agent.isReviewer = true

/-- Every counter counts lines of its own stage only. -/
structure ToolActivityAttributed (steps : List Step) : Prop where
  review : ∀ earlier step, earlier ++ [step] <+: steps →
    countReviewStageRepositoryToolActivity (some (log earlier)) <
      countReviewStageRepositoryToolActivity (some (log (earlier ++ [step]))) →
    InspectsUnderReview (situation earlier) step
  latest : (latestImplementationToolLines (some (log steps))).Sublist (situation steps).latestTools
  total : countLatestImplementationToolActivity (some (log steps)) ≤
    countImplementationToolActivity (some (log steps))

/-- An inspection that no review agent runs beside, after a review was cut off. -/
def StrayInspection (s : Situation) (step : Step) : Prop :=
  step.isTool = true ∧ (∃ line, step.line = some line ∧ isReviewInspectionToolLine line = true) ∧
    s.reviewers = [] ∧ 0 < s.lostReviews

theorem History.of_prefix {steps earlier : List Step} (history : History steps)
    (first : earlier <+: steps) : History earlier := by
  induction history with
  | nil => 
      rw [List.prefix_nil.mp first]
      exact .nil
  | @snoc steps step history allowed ih =>
    rcases List.prefix_concat_iff.mp first with rfl | first
    · exact .snoc history allowed
    · exact ih first

theorem History.last {steps : List Step} {step : Step} (history : History (steps ++ [step])) :
    History steps ∧ (situation steps).Allows step := by
  generalize whole : steps ++ [step] = all at history
  cases history with
  | nil => simp at whole
  | snoc earlier allowed =>
    obtain ⟨rfl, same⟩ := List.append_inj' whole rfl
    obtain rfl := List.singleton_inj.mp same
    exact ⟨earlier, allowed⟩

theorem review_counts_iff {steps : List Step} {step : Step} (history : History (steps ++ [step]))
    (reads : ∀ other ∈ steps ++ [step], ReadsAsWritten other) :
    countReviewStageRepositoryToolActivity (some (log steps)) <
        countReviewStageRepositoryToolActivity (some (log (steps ++ [step]))) ↔
      (step.isTool = true ∧
        ∃ line, step.line = some line ∧ isReviewInspectionToolLine line = true) ∧
      ((situation steps).reviewers ≠ [] ∨ 0 < (situation steps).lostReviews) := by
  obtain ⟨earlier, allowed⟩ := history.last
  have readsEarlier : ∀ other ∈ steps, ReadsAsWritten other :=
    fun other inside => reads other (List.mem_append_left _ inside)
  have active := active_eq earlier readsEarlier
  rw [countReview_log reads, countReview_log readsEarlier,
    (reviewCount_step active allowed (reads step (by simp))).2, Counted, active, and_comm]
  refine and_congr_right fun _ => ?_
  rw [← List.length_pos_iff]
  omega

theorem reviewers_ne_nil_iff (s : Situation) :
    s.reviewers ≠ [] ↔ ∃ agent ∈ s.running, agent.isReviewer = true := by
  rw [Situation.reviewers, ne_eq, List.filter_eq_nil_iff]
  simp

/-- In every history whose lines read as they are written, tool activity is attributed to the
right stage exactly when there is no stray inspection. -/
theorem tool_activity_attributed_iff {steps : List Step} (history : History steps)
    (reads : ∀ step ∈ steps, ReadsAsWritten step) : ToolActivityAttributed steps ↔
      ∀ earlier step, earlier ++ [step] <+: steps → ¬ StrayInspection (situation earlier) step := by
  have counts : ∀ earlier step, earlier ++ [step] <+: steps → _ := fun earlier step first =>
    review_counts_iff (history.of_prefix first) fun other inside =>
      reads other (first.subset inside)
  constructor
  · rintro attributed earlier step first ⟨isTool, inspects, none_, lost⟩
    have counted := (counts earlier step first).mpr ⟨⟨isTool, inspects⟩, .inr lost⟩
    obtain ⟨-, -, running⟩ := attributed.review earlier step first counted
    exact (reviewers_ne_nil_iff _).mpr running none_
  · intro noStray
    refine ⟨fun earlier step first counted => ?_, ?_, latest_le_total _⟩
    · obtain ⟨⟨isTool, inspects⟩, active⟩ := (counts earlier step first).mp counted
      refine ⟨isTool, inspects, (reviewers_ne_nil_iff _).mp fun none_ => ?_⟩
      have lost := active.resolve_left (not_not_intro none_)
      exact noStray earlier step first ⟨isTool, inspects, none_, lost⟩
    · rw [latestImplementationToolLines, logLines_log reads]
      cases found : behindLast mainImplementerStart (lines steps) with
      | none => exact List.nil_sublist _
      | some rest => exact (latestTracked history reads rest found).tools

/-! ### A review that is cut off -/

def noon : Timestamp := ⟨"2026-01-05T12:00:00.000Z", by decide⟩

def reviewSidecar : AgentName := ⟨"review-sidecar", by decide, by decide⟩

def aifImplement : AgentName := ⟨"aif-implement", by decide, by decide⟩

def readFile (agent : AgentName) : Step := .tool noon agent "read_file src/a.ts"

/-- A review that inspects a file. -/
def inspectingReview : List Step :=
  [.started noon reviewSidecar "runtime=claude)", readFile reviewSidecar]

/-- A crash cuts a review off; the implementation that is started again reads a file. -/
def crashedReview : List Step :=
  [.started noon reviewSidecar "runtime=claude)", .cutOff reviewSidecar,
    .started noon aifImplement "runtime=claude)", readFile aifImplement]

def readFileLine : String := "[2026-01-05T12:00:00.000Z] Tool: read_file src/a.ts"

theorem readsAsWritten_readFile (agent : AgentName) : ReadsAsWritten (readFile agent) := by
  have oneLine : '\n' ∉ readFileLine.toList ∧ '\r' ∉ readFileLine.toList := by decide
  have noStart : test mainImplementerStart readFileLine = false := by decide
  have noEvent : (reviewEvent readFileLine).isSome = false := by decide
  refine ⟨?_, ?_, ?_, fun _ _ _ => rfl⟩
  · rintro line ⟨⟩
    exact oneLine
  · rintro line ⟨⟩ starts
    exact absurd (noStart.symm.trans starts) Bool.false_ne_true
  · rintro line ⟨⟩ event
    exact absurd (noEvent.symm.trans event) Bool.false_ne_true

theorem readsAsWritten_reviewSidecar :
    ReadsAsWritten (.started noon reviewSidecar "runtime=claude)") := by
  refine ⟨?_, ?_, fun _ _ _ => by decide, ?_⟩
  · rintro line ⟨⟩
    decide
  · rintro line ⟨⟩
    decide
  · rintro line ⟨⟩
    decide

theorem readsAsWritten_aifImplement :
    ReadsAsWritten (.started noon aifImplement "runtime=claude)") := by
  refine ⟨?_, fun _ _ _ => by decide, ?_, ?_⟩
  · rintro line ⟨⟩
    decide
  · rintro line ⟨⟩
    decide
  · rintro line ⟨⟩
    decide

theorem readsAsWritten_cutOff (agent : AgentName) : ReadsAsWritten (.cutOff agent) := by
  refine ⟨?_, ?_, ?_, ?_⟩
  all_goals
    rintro line ⟨⟩

theorem History.start {steps : List Step} (history : History steps)
    (idle : (situation steps).running = []) (time : Timestamp) (agent : AgentName)
    (context : String) : History (steps ++ [.started time agent context]) :=
  history.snoc (Or.inl idle)

theorem history_inspectingReview : History inspectingReview :=
  (History.nil.start rfl _ _ _).snoc List.mem_cons_self

theorem history_crashedReview : History crashedReview :=
  (((History.nil.start rfl _ _ _).snoc List.mem_cons_self).start rfl _ _ _).snoc
    List.mem_cons_self

/-- The inspection of a review that runs is attributed to it. -/
theorem inspecting_review_attributed : ToolActivityAttributed inspectingReview := by
  refine (tool_activity_attributed_iff history_inspectingReview ?_).mpr ?_
  · intro step inside
    simp only [inspectingReview, List.mem_cons, List.not_mem_nil, or_false] at inside
    rcases inside with rfl | rfl
    · exact readsAsWritten_reviewSidecar
    · exact readsAsWritten_readFile reviewSidecar
  · rintro earlier step ⟨later, split⟩ ⟨-, -, -, lost⟩
    have noCrash : ∀ n ≤ 2, (situation (inspectingReview.take n)).lostReviews = 0 := by decide
    have first : earlier <+: inspectingReview :=
      ⟨[step] ++ later, by rw [← List.append_assoc, split]⟩
    rw [List.prefix_iff_eq_take.mp first, noCrash _ first.length_le] at lost
    exact absurd lost (Nat.lt_irrefl 0)

/-- The file that the implementation reads behind the crash counts as an inspection. -/
theorem crashed_review_counts_implementation :
    History crashedReview ∧ ¬ ToolActivityAttributed crashedReview := by
  refine ⟨history_crashedReview, fun attributed => ?_⟩
  have reads : ∀ step ∈ crashedReview, ReadsAsWritten step := by
    intro step inside
    simp only [crashedReview, List.mem_cons, List.not_mem_nil, or_false] at inside
    rcases inside with rfl | rfl | rfl | rfl
    · exact readsAsWritten_reviewSidecar
    · exact readsAsWritten_cutOff reviewSidecar
    · exact readsAsWritten_aifImplement
    · exact readsAsWritten_readFile aifImplement
  have inspects : ∃ line, (readFile aifImplement).line = some line ∧
      isReviewInspectionToolLine line = true := ⟨_, rfl, by decide⟩
  have split : History (crashedReview.take 3 ++ [readFile aifImplement]) := history_crashedReview
  have counted := (review_counts_iff split reads).mpr ⟨⟨rfl, inspects⟩, .inr Nat.one_pos⟩
  obtain ⟨-, -, agent, on, reviews⟩ :=
    attributed.review (crashedReview.take 3) (readFile aifImplement) (List.prefix_refl _) counted
  have running : (situation (crashedReview.take 3)).running = [aifImplement] := by decide
  rw [running, List.mem_singleton] at on
  rw [on] at reviews
  exact absurd reviews (by decide)

end AifHandoff.Agent.AgentRuns
