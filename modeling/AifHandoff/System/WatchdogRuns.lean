import AifHandoff.Agent.Watchdog
import AifHandoff.Api.EventEffects
import AifHandoff.Lib.Transition

/-!
The watchdog on its own (`packages/agent/src/taskWatchdog.ts`).

A task that no one works on goes stale, is blocked for a while, is released into the stage it
was found in, and goes stale again. Every round takes one of the retries, so the rounds end.
-/

namespace AifHandoff.System

open Transition Data Agent

/-- The two loops of the watchdog, as far as they reach one task. -/
inductive WatchdogPass where
  | releaseDueBlocked (now : Nat)
  | recoverStale (now : Nat)

def watch (env : WatchdogEnv) (row : TaskRow) : WatchdogPass → TaskRow
  | .releaseDueBlocked now => releaseDueBlockedTask now row
  | .recoverStale now => recoverStaleInProgressTask env now row

/-- How often the watchdog can still change a task: each retry is a block and a release, and the
block at the limit is the last one. -/
def movesLeft (env : WatchdogEnv) (row : TaskRow) : Nat :=
  if row.status = .blockedExternal then
    if row.retryAfter.isSome then 2 * (staleMaxRetry env - row.retryCount) + 2 else 0
  else if row.status ∈ inProgressStatuses then 2 * (staleMaxRetry env - row.retryCount) + 1
  else 0

/-- The task is in the stage, or blocked on the way back to it. -/
def StaysWith (stage : TaskStatus) (row : TaskRow) : Prop :=
  row.status = stage ∨ row.status = .blockedExternal ∧ row.blockedFromStatus = some stage

section Passes

variable {env : WatchdogEnv} {row : TaskRow}

/-- A pass leaves the row alone, ends its wait, or blocks it: with a retry more, or at the limit
without an instant to resume at. -/
theorem watch_cases (env : WatchdogEnv) (row : TaskRow) (pass : WatchdogPass) :
    watch env row pass = row ∨
      (row.status = .blockedExternal ∧ row.retryAfter.isSome = true ∧
        row.blockedFromStatus = some (watch env row pass).status ∧
        (watch env row pass).retryAfter = none ∧
        (watch env row pass).retryCount = row.retryCount) ∨
      row.status ∈ inProgressStatuses ∧ (watch env row pass).status = .blockedExternal ∧
        (watch env row pass).blockedFromStatus = some row.status ∧
        ((watch env row pass).retryAfter = none ∧
            (watch env row pass).retryCount = row.retryCount ∨
          row.retryCount < staleMaxRetry env ∧
            (watch env row pass).retryCount = row.retryCount + 1) := by
  cases pass with
  | releaseDueBlocked now =>
    by_cases due : isDueBlockedExternal now row = true
    case neg => exact .inl (releaseDueBlockedTask_of_not_due (Bool.not_eq_true _ ▸ due))
    have listed := due
    simp only [isDueBlockedExternal, Bool.and_eq_true, decide_eq_true_eq] at listed
    obtain ⟨⟨⟨⟨blocked, -⟩, -⟩, waited⟩, from?⟩ := listed
    obtain ⟨resume, target⟩ := Option.isSome_iff_exists.mp from?
    have waits : row.retryAfter.isSome = true := by
      cases instant : row.retryAfter with
      | none => simp [instant] at waited
      | some _ => rfl
    refine .inr (.inl ⟨blocked, waits, ?_⟩)
    unfold watch releaseDueBlockedTask
    simp only [due, if_true, target]
    rw [setTaskFields_of_reason _ _ rfl]
    exact ⟨rfl, rfl, rfl⟩
  | recoverStale now =>
    simp only [watch]
    unfold recoverStaleInProgressTask
    by_cases listed : (isInProgressUnlocked now row && isStale env now row) = true
    case neg => exact .inl (if_neg listed)
    have running := listed
    simp only [isInProgressUnlocked, Bool.and_eq_true, decide_eq_true_eq] at running
    have noHold (rest : String) :
        isOperatorInputRequiredReason (some ("Watchdog: task stale in " ++ rest)) = false :=
      Api.isOperatorInputRequiredReason_append (by decide) (by decide)
    refine .inr (.inr ⟨running.1.1.1.1, ?_⟩)
    rw [if_pos listed]
    simp only [String.append_assoc]
    split
    next limit =>
      rw [setTaskFields_of_reason]
      · exact ⟨rfl, rfl, .inl ⟨rfl, rfl⟩⟩
      · exact noHold _
    next below =>
      rw [setTaskFields_of_reason]
      · exact ⟨rfl, rfl, .inr ⟨Nat.not_le.mp below, rfl⟩⟩
      · exact noHold _

theorem not_blocked (running : row.status ∈ inProgressStatuses) :
    row.status ≠ .blockedExternal := by
  intro was
  rw [was] at running
  exact absurd running (by decide)

theorem movesLeft_watch (env : WatchdogEnv) (row : TaskRow) (pass : WatchdogPass) :
    watch env row pass = row ∨ movesLeft env (watch env row pass) < movesLeft env row := by
  rcases watch_cases env row pass with
    same | ⟨blocked, waits, -, none_, count⟩ | ⟨running, blocked, -, counts⟩
  · exact .inl same
  · refine .inr ?_
    rw [movesLeft, movesLeft, none_, count, if_pos blocked, if_pos waits]
    simp only [Option.isSome_none, Bool.false_eq_true, if_false]
    split_ifs <;> omega
  · refine .inr ?_
    rw [movesLeft, movesLeft, if_pos blocked, if_neg (not_blocked running), if_pos running]
    rcases counts with ⟨none_, -⟩ | ⟨below, count⟩
    · rw [none_]
      exact Nat.succ_pos _
    · rw [count]
      split <;> omega

theorem staysWith_watch {stage : TaskStatus} (working : stage ∈ inProgressStatuses)
    (stays : StaysWith stage row) (pass : WatchdogPass) : StaysWith stage (watch env row pass) := by
  rcases watch_cases env row pass with same | ⟨blocked, -, target, -⟩ | ⟨running, blocked, from?, -⟩
  · rwa [same]
  · rcases stays with own | ⟨-, stored⟩
    · exact absurd blocked (not_blocked (own ▸ working))
    · exact .inl (Option.some.inj (target.symm.trans stored))
  · rcases stays with own | ⟨was, -⟩
    · exact .inr ⟨blocked, from?.trans (congrArg some own)⟩
    · exact absurd was (not_blocked running)

theorem retryCount_watch_le {limit : Nat} (atLeast : staleMaxRetry env ≤ limit)
    (counted : row.retryCount ≤ limit) (pass : WatchdogPass) :
    (watch env row pass).retryCount ≤ limit := by
  rcases watch_cases env row pass with
    same | ⟨-, -, -, -, count⟩ | ⟨-, -, -, ⟨-, count⟩ | ⟨_, count⟩⟩
  · rwa [same]
  all_goals omega

end Passes

/-- **The watchdog settles**: whatever passes it makes over a task in progress that no one else
writes, it changes the task at most twice for each retry that is left, and once more; it never
counts beyond the limit; and it leaves the task in its stage or blocked on the way back there, once
and for all when no instant to resume at is set. -/
theorem watchdog_settles (env : WatchdogEnv) (row : TaskRow) (passes : List WatchdogPass)
    (running : row.status ∈ inProgressStatuses) :
    changes (watch env) row passes ≤ 2 * (staleMaxRetry env - row.retryCount) + 1 ∧
      (passes.foldl (watch env) row).retryCount ≤ max row.retryCount (staleMaxRetry env) ∧
      StaysWith row.status (passes.foldl (watch env) row) ∧
      ((passes.foldl (watch env) row).status = .blockedExternal →
        (passes.foldl (watch env) row).retryAfter = none → ∀ later : List WatchdogPass,
          later.foldl (watch env) (passes.foldl (watch env) row) =
            passes.foldl (watch env) row) := by
  refine ⟨?_, ?_, ?_, fun blocked none_ later => ?_⟩
  · have bound := changes_add_rank_le (movesLeft env) (movesLeft_watch env) row passes
    rw [movesLeft.eq_def env row, if_neg (not_blocked running), if_pos running] at bound
    omega
  · exact List.foldlRecOn (motive := (·.retryCount ≤ max row.retryCount (staleMaxRetry env))) passes
      (watch env) (le_max_left _ _) fun _ counted pass _ =>
        retryCount_watch_le (le_max_right _ _) counted pass
  · exact List.foldlRecOn (motive := StaysWith row.status) passes (watch env) (.inl rfl)
      fun _ stays pass _ => staysWith_watch running stays pass
  · refine foldl_eq_of_rank_zero (movesLeft env) (movesLeft_watch env) ?_ later
    rw [movesLeft, if_pos blocked, none_]
    rfl

/-- A task found in `implementing` after two hours, and again after its release. -/
theorem watchdog_settles_implementing :
    changes (watch {}) { id := "task", projectId := "project", status := .implementing }
      [.recoverStale 7200000, .releaseDueBlocked 7500000, .recoverStale 14700000] ≤ 7 :=
  (watchdog_settles {} { id := "task", projectId := "project", status := .implementing } _
    (by decide)).1

end AifHandoff.System
