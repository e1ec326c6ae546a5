import AifHandoff.Lib.Transition
import AifHandoff.Api.RejectedEvents
import AifHandoff.Agent.Watchdog
import AifHandoff.Data.Rollup

/-!
The resume target of a blocked task.

A run takes one task through human events, with whatever answers the world gives
at each of them, through the watchdog and through the container rollup with
whatever children. A blocked task should always know a status to go back to.

The writers record the status they find, so the invariant lives as long as none of
them blocks a task that is already blocked. `StepOk` says just that; the steps it
leaves out lose the resume target.
-/

namespace AifHandoff.System

open AifHandoff.Data AifHandoff.StateMachine AifHandoff.Api AifHandoff.Agent
open AifHandoff.Transition

/-- What can happen to one task. -/
inductive TaskOp where
  | event (env : EventEnv) (input : EventHandlerInput)
  | releaseDueBlocked (now : Nat)
  | recoverStale (env : WatchdogEnv) (now : Nat)
  | promoteToContainer (now : Nat)
  | refreshRollup (view : RollupView) (children : List TaskRow) (now : Nat)

def exec (row : TaskRow) : TaskOp → TaskRow
  | .event env input => (handleTaskEvent env input row).2
  | .releaseDueBlocked now => releaseDueBlockedTask now row
  | .recoverStale env now => recoverStaleInProgressTask env now row
  | .promoteToContainer now => promoteParentToContainer now row
  | .refreshRollup view children now => refreshParentRollup view children now row

/-- A row as `createTask` inserts it, as far as its block goes. -/
structure Fresh (row : TaskRow) : Prop where
  status : row.status = .backlog
  blockedReason : row.blockedReason = none
  blockedFromStatus : row.blockedFromStatus = none

/-- The life of one task. -/
def taskSystem : System TaskRow TaskOp := .ofFun Fresh exec

/-- No task resumes into a block, and a blocked task resumes somewhere. -/
structure ResumeTarget (row : TaskRow) : Prop where
  open_ : row.blockedFromStatus ≠ some .blockedExternal
  present : row.status = .blockedExternal → row.blockedFromStatus ≠ none

/-- The event blocks a task that is blocked already: a cancellation, a
configuration block, or the branch guard of a retry. -/
def reblocks (env : EventEnv) (input : EventHandlerInput) (task : TaskRow) : Bool :=
  task.status = .blockedExternal &&
    (input.event = .cancelTask || configGovernanceBlocks env task input.event ||
      sequentialBranchBlocks env input task)

/-- A refresh may block a container with a reason of its own only while the
container is not blocked, and keep a foreign reason only with its target. -/
def rollupKeepsTarget (view : RollupView) (children : List TaskRow) (parent : TaskRow) : Bool :=
  !refreshesRollupBlock view children parent ||
    (if shouldUpdateHierarchyRollupBlockedReason parent.blockedReason then
      parent.status ≠ .blockedExternal
    else parent.blockedFromStatus.isSome)

/-- The steps that do not block what is already blocked. -/
def StepOk (row : TaskRow) : TaskOp → Prop
  | .event env input => reblocks env input row = false
  | .refreshRollup view children _ => rollupKeepsTarget view children row = true
  | .releaseDueBlocked _ | .recoverStale _ _ | .promoteToContainer _ => True

/-! ### One step -/

section Steps

variable {row : TaskRow}

theorem resumeTarget_of_view {row' : TaskRow} {view : BlockView} (shown : blockView row' = view)
    (open_ : view.blockedFromStatus ≠ some .blockedExternal)
    (present : view.status = .blockedExternal → view.blockedFromStatus ≠ none) :
    ResumeTarget row' := by
  subst shown
  exact ⟨open_, present⟩

/-- A human event keeps the invariant unless it blocks a blocked task. -/
theorem event_keeps {env : EventEnv} {input : EventHandlerInput} (inv : ResumeTarget row)
    (ok : reblocks env input row = false) :
    ResumeTarget (handleTaskEvent env input row).2 := by
  -- A writer that records the status it finds needs that status not to be a block.
  have notBlocked (writes : input.event = .cancelTask ∨
      configGovernanceBlocks env row input.event = true ∨
      sequentialBranchBlocks env input row = true) : row.status ≠ .blockedExternal := by
    intro blocked
    rcases writes with writes | writes | writes <;> simp [reblocks, blocked, writes] at ok
  generalize shown : blockView (handleTaskEvent env input row).2 = view
  have effect := shown ▸ handleTaskEvent_effect env input row
  refine resumeTarget_of_view shown ?_ ?_
  · cases effect with
    | kept => exact inv.open_
    | cleared => simp
    | cancelled cancel => exact fun own => notBlocked (.inl cancel) (Option.some.inj own)
    | configBlocked config => exact fun own => notBlocked (.inr (.inl config)) (Option.some.inj own)
    | branchBlocked _ branch =>
      exact fun own => notBlocked (.inr (.inr branch)) (Option.some.inj own)
    | planQualityBlocked _ plan =>
      have backlog := status_of_planQualityBlocks plan
      intro own
      rw [backlog] at own
      cases own
    | manualException =>
      intro own
      cases from? : row.blockedFromStatus with
      | some resume => exact inv.open_ (by rw [from?]; simpa [from?] using own)
      | none => exact inv.present (by simpa [from?] using own) from?
    | evidenceBlocked _ _ _ open_ => rcases open_ with open_ | open_ <;> simp [open_]
    | evidenceRework => simp
  · intro blocked
    cases effect with
    | kept => exact inv.present blocked
    | cleared status target _ open_ =>
      by_cases was : row.status = .blockedExternal
      · rcases target was with own | ⟨-, other⟩
        · exact absurd (own.trans (congrArg some blocked)) inv.open_
        · rw [show status = .blockedExternal from blocked] at other
          cases other
      · exact absurd blocked (open_ was)
    | evidenceRework => cases blocked
    | _ => exact Option.some_ne_none _

theorem releaseDueBlocked_keeps {now : Nat} (inv : ResumeTarget row) :
    ResumeTarget (releaseDueBlockedTask now row) := by
  cases due : isDueBlockedExternal now row with
  | false => rwa [releaseDueBlockedTask_of_not_due due]
  | true =>
    have some_ : row.blockedFromStatus.isSome = true := by
      simp only [isDueBlockedExternal, Bool.and_eq_true] at due
      exact due.2
    obtain ⟨resume, from?⟩ := Option.isSome_iff_exists.mp some_
    obtain ⟨status, cleared⟩ := releaseDueBlockedTask_status due from?
    constructor
    · simp [cleared]
    · intro blocked
      rw [status] at blocked
      exact absurd (blocked ▸ from?) inv.open_

theorem recoverStale_keeps {env : WatchdogEnv} {now : Nat} (inv : ResumeTarget row) :
    ResumeTarget (recoverStaleInProgressTask env now row) := by
  rcases recoverStaleInProgressTask_cases env now row with
    same | ⟨-, from?, running⟩
  · rwa [same]
  · constructor
    · intro own
      rw [from?] at own
      rw [Option.some.inj own] at running
      exact absurd running (by decide)
    · intro _
      rw [from?]
      exact Option.some_ne_none _

theorem promoteToContainer_keeps {now : Nat} (inv : ResumeTarget row) :
    ResumeTarget (promoteParentToContainer now row) := by
  unfold promoteParentToContainer
  split
  · exact inv
  · exact ⟨inv.open_, inv.present⟩

theorem refreshRollup_keeps {view : RollupView} {children : List TaskRow} {now : Nat}
    (inv : ResumeTarget row) (ok : rollupKeepsTarget view children row = true) :
    ResumeTarget (refreshParentRollup view children now row) := by
  rcases refreshParentRollup_cases view children now row with
    same | ⟨unblocked, from?⟩ | ⟨-, refreshes, own, from?⟩ | ⟨-, refreshes, foreign, from?⟩
  · rwa [same]
  · refine ⟨?_, fun blocked => absurd blocked unblocked⟩
    simp [from?]
  · have notBlocked : row.status ≠ .blockedExternal := by
      simpa [rollupKeepsTarget, refreshes, own] using ok
    constructor
    · rw [from?]
      exact fun blocked => notBlocked (Option.some.inj blocked)
    · intro _
      rw [from?]
      exact Option.some_ne_none _
  · have target : row.blockedFromStatus.isSome = true := by
      simpa [rollupKeepsTarget, refreshes, foreign] using ok
    constructor
    · rw [from?]
      exact inv.open_
    · intro _ none
      rw [from?] at none
      simp [none] at target

theorem exec_keeps {op : TaskOp} (inv : ResumeTarget row) (ok : StepOk row op) :
    ResumeTarget (exec row op) := by
  cases op with
  | event env input => exact event_keeps inv ok
  | releaseDueBlocked now => exact releaseDueBlocked_keeps inv
  | recoverStale env now => exact recoverStale_keeps inv
  | promoteToContainer now => exact promoteToContainer_keeps inv
  | refreshRollup view children now => exact refreshRollup_keeps inv ok

end Steps

/-! ### Runs -/

/-- **Resume target**: in a run that blocks no blocked task, a blocked state has a
resume target other than `blocked_external`; every retry the table accepts and every
release of the watchdog leaves `blocked_external`. -/
theorem resumeTarget_of_reaches {row : TaskRow} (reached : Reaches taskSystem StepOk row)
    (blocked : row.status = .blockedExternal) :
    (∃ resume, row.blockedFromStatus = some resume ∧ resume ≠ .blockedExternal) ∧
    (∀ options patch, applyHumanTaskEvent row .retryFromBlocked options = .ok patch →
      patch.status ≠ some .blockedExternal) ∧
    (∀ now, isDueBlockedExternal now row = true →
      (releaseDueBlockedTask now row).status ≠ .blockedExternal) := by
  have inv : ResumeTarget row := by
    refine reached.invariant ?_ ?_
    · intro start fresh
      exact ⟨by simp [fresh.blockedFromStatus], fun own => by simp [fresh.status] at own⟩
    · rintro s op s' kept admitted rfl
      exact exec_keeps kept admitted
  obtain ⟨resume, from?⟩ := Option.ne_none_iff_exists'.mp (inv.present blocked)
  have open_ : resume ≠ .blockedExternal := fun own => inv.open_ (own ▸ from?)
  refine ⟨⟨resume, from?, open_⟩, ?_, ?_⟩
  · intro options patch accepted own
    obtain ⟨target, -, target?, -, rfl⟩ := retry_accepted_iff.mp accepted
    rw [from?] at target?
    cases target?
    exact open_ (Option.some.inj own)
  · intro now due own
    exact open_ ((releaseDueBlockedTask_status due from?).1 ▸ own)

def backlogTask : TaskRow := { id := "task", projectId := "project" }

theorem backlogTask_fresh : Fresh backlogTask := ⟨rfl, rfl, rfl⟩

/-- Two cancellations of a fresh task: the second takes the block it finds for the
status to resume to. -/
theorem cancelled_twice :
    ∃ row, Reachable taskSystem row ∧ row.status = .blockedExternal ∧
      row.blockedFromStatus = some .blockedExternal := by
  let cancel : TaskOp := .event { now := 1 } { event := .cancelTask }
  refine ⟨exec (exec backlogTask cancel) cancel, ?_, ?_, ?_⟩
  · exact .step (.step (.init backlogTask_fresh) trivial rfl) trivial rfl
  · decide
  · decide

/-- An admitted run: a fresh task is cancelled once, and can be retried. -/
theorem resumeTarget_of_cancelled :
    ∃ resume, (exec backlogTask (.event { now := 1 } { event := .cancelTask })).blockedFromStatus =
      some resume ∧ resume ≠ .blockedExternal := by
  refine (resumeTarget_of_reaches (.step (.init backlogTask_fresh) ?_ rfl) ?_).1
  · show reblocks _ _ _ = false
    decide
  · decide

end AifHandoff.System
