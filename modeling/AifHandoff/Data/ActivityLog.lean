import AifHandoff.Lib.ReadModifyWrite
import AifHandoff.Shared.ProviderText

/-!
The activity log of a task (`appendTaskActivityLog`, `data/index.ts`).

An append reads the row of the task, puts the redacted lines behind the log it read and
writes the log of the row. Within one process nothing comes between the two database
calls; the processes that share the database interleave theirs.
-/

namespace AifHandoff.Data.ActivityLog

open Shared ReadModifyWrite

/-- `updatedLog`. -/
def updatedLog (currentLog redactedLines : String) : String :=
  if currentLog = "" then redactedLines else currentLog ++ "\n" ++ redactedLines

/-- The column after an append, from the column as the append read it. -/
def appendTaskActivityLog (agentActivityLog : Option String) (newLines : String) :
    Option String :=
  some (updatedLog (agentActivityLog.getD "") (redactProviderText newLines))

/-- Lines to append: some text. -/
abbrev NewLines := { text : String // text ≠ "" }

/-- The write of an append that has read the column. -/
def writeLines (agentActivityLog : Option String) (newLines : NewLines) : Option String :=
  appendTaskActivityLog agentActivityLog newLines

/-- The lines of the column. -/
def logLines (agentActivityLog : Option String) : List String :=
  let text := agentActivityLog.getD ""
  if text = "" then [] else Text.split text '\n'

/-- The lines that an append adds. -/
def redactedLines (newLines : NewLines) : List String :=
  Text.split (redactProviderText newLines) '\n'

/-- Every line that was appended is in the log as often as it was appended, beside those
that were there before. -/
def LinesKept {ι : Type} (before after : Option String) (appends : List (ι × NewLines)) : Prop :=
  ∀ line, (logLines after).count line =
    (logLines before).count line +
      (appends.flatMap fun call => redactedLines call.2).count line

theorem redactedLines_ne_nil (newLines : NewLines) : redactedLines newLines ≠ [] := by
  rw [redactedLines, Text.split, ne_eq, List.map_eq_nil_iff]
  exact List.splitOnP_ne_nil _ _

theorem logLines_append (agentActivityLog : Option String) (newLines : NewLines) :
    logLines (writeLines agentActivityLog newLines) =
      logLines agentActivityLog ++ redactedLines newLines := by
  have filled : redactProviderText newLines ≠ "" := redactProviderText_ne_empty newLines.2
  rw [writeLines, appendTaskActivityLog, redactedLines]
  generalize redactProviderText newLines = redacted at filled
  rw [logLines, logLines, Option.getD_some, updatedLog]
  split_ifs with empty
  · rfl
  · simp_all [String.append_eq_empty_iff]
  · rw [Text.split_append_newline]

theorem linesKept_iff {ι : Type} {before after : Option String} {appends : List (ι × NewLines)} :
    LinesKept before after appends ↔ (logLines after).Perm
      (logLines before ++ appends.flatMap fun call => redactedLines call.2) := by
  rw [List.perm_iff_count]
  simp only [List.count_append]
  rfl

/-- Over every interleaving of the processes, no line is lost exactly when no write falls
between the read and the write of an append. -/
theorem appended_lines_kept_iff {ι : Type} [DecidableEq ι]
    {start s : State ι NewLines (Option String)} {calls : List (Event ι NewLines)} (idle : ∀ process, start.held process = none)
    (ran : run writeLines start calls = some s)
    (finished : ∀ process, s.held process = none) :
    LinesKept start.stored s.stored (started calls) ↔ Undisturbed calls := by
  rw [linesKept_iff]
  exact perm_iff_undisturbed logLines_append redactedLines_ne_nil idle ran finished

inductive Process where
  | api
  | coordinator
  deriving DecidableEq

def emptyLog : State Process NewLines (Option String) := ⟨none, fun _ => none⟩

/-- Two appends one after the other. -/
def appendsInTurn : List (Event Process NewLines) :=
  [.read .api ⟨"a", by decide⟩, .write .api ⟨"a", by decide⟩,
    .read .coordinator ⟨"b", by decide⟩, .write .coordinator ⟨"b", by decide⟩]

/-- Two appends that read the same log. -/
def appendsAtOnce : List (Event Process NewLines) :=
  [.read .api ⟨"a", by decide⟩, .read .coordinator ⟨"b", by decide⟩,
    .write .api ⟨"a", by decide⟩, .write .coordinator ⟨"b", by decide⟩]

/-- Both processes are at rest, and the log is the given text. -/
def endsWithLog (log : String) (s : State Process NewLines (Option String)) : Bool :=
  s.held .api == none && s.held .coordinator == none && s.stored == some log

theorem of_endsWithLog {log : String} {calls : List (Event Process NewLines)}
    (ends : (run writeLines emptyLog calls).any (endsWithLog log) = true) :
    ∃ s, run writeLines emptyLog calls = some s ∧
      (∀ process, s.held process = none) ∧ s.stored = some log := by
  obtain ⟨s, ran, rest⟩ := (Option.any_eq_true _ _).mp ends
  simp only [endsWithLog, Bool.and_eq_true, beq_iff_eq] at rest
  refine ⟨s, ran, fun process => ?_, rest.2⟩
  cases process
  · exact rest.1.1
  · exact rest.1.2

theorem undisturbed_appendsInTurn : Undisturbed appendsInTurn := by
  have nothing : Undisturbed ([] : List (Event Process NewLines)) := by
    intro before writer item inside
    simp at inside
  change Undisturbed ([] ++ [_] ++ [_] ++ [_] ++ [_])
  rw [undisturbed_concat, undisturbed_concat, undisturbed_concat, undisturbed_concat]
  refine ⟨⟨⟨⟨nothing, ?_⟩, ?_⟩, ?_⟩, ?_⟩
  case refine_1 | refine_3 =>
    intro writer item read
    cases read
  case refine_2 | refine_4 =>
    rintro writer item ⟨⟩
    decide

/-- Appends in turn lose nothing. -/
theorem appended_lines_kept_iff_inTurn :
    ∃ s, run writeLines emptyLog appendsInTurn = some s ∧
      LinesKept emptyLog.stored s.stored (started appendsInTurn) := by
  obtain ⟨s, ran, finished, -⟩ : ∃ s, run writeLines emptyLog appendsInTurn = some s ∧
      (∀ process, s.held process = none) ∧ s.stored = some "a\nb" :=
    of_endsWithLog (by decide +kernel)
  have idle (process : Process) : emptyLog.held process = none := rfl
  exact ⟨s, ran, (appended_lines_kept_iff idle ran finished).mpr undisturbed_appendsInTurn⟩

/-- The line of the process that writes first is gone. -/
theorem appendsAtOnce_lose_a_line :
    ∃ s, run writeLines emptyLog appendsAtOnce = some s ∧
      (∀ process, s.held process = none) ∧
      ¬ LinesKept emptyLog.stored s.stored (started appendsAtOnce) := by
  obtain ⟨s, ran, finished, stored⟩ := of_endsWithLog
    (show (run writeLines emptyLog appendsAtOnce).any (endsWithLog "b") = true by
      decide +kernel)
  refine ⟨s, ran, finished, fun kept => ?_⟩
  have lost : (logLines (some "b")).count "a" = 0 := by decide
  have appended : ((started appendsAtOnce).flatMap fun call => redactedLines call.2).count "a" =
      1 := by decide +kernel
  have counted := kept "a"
  rw [stored, lost, appended] at counted
  exact absurd counted (by decide)

end AifHandoff.Data.ActivityLog
