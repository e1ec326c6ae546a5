import AifHandoff.Agent.StageCalls
import AifHandoff.Lib.Transition

/-!
A cancellation against a running stage.

The coordinator takes one run of `processOneTask` through its database calls, one
atomic statement at a time; between any two of them an operator may cancel the task
through the API. A guarded status write is three statements: the read of the guard,
the read of the normalisation, and the write.

The guard protects a cancelled task from the writes that come after its read.
`CancelClear` leaves out what it does not see: a cancellation stored between the
guard and the write, and a write that asks no guard.
-/

namespace AifHandoff.System

open Transition Data Agent Agent.Stage StateMachine

/-- What the run has begun to write. -/
inductive PendingWrite where
  | idle
  /-- The guard of a status write has let it pass. -/
  | guardPassed (status : TaskStatus) (extra : TaskFieldsPatch)
  /-- The normalised patch, on its way to the table. -/
  | writing (patch : TaskFieldsPatch)

structure StageState where
  now : Nat
  row : TaskRow
  program : StageProgram Bool
  pending : PendingWrite := .idle
  /-- The row as the latest cancellation stored it. -/
  cancelled : Option TaskRow := none

inductive StageOp where
  | tick (ms : Nat)
  /-- The next statement of the run; a batch refresh finds the batch ready or not. -/
  | run (synthesisReady : Bool)
  /-- The API cancels the task it has seen. -/
  | cancel (seen : TaskRow)

/-- The patch of the data layer's `updateTaskStatus`. -/
def statusPatch (status : TaskStatus) (extra : TaskFieldsPatch) (now : Nat) : TaskFieldsPatch :=
  { extra with
    status := extra.status.orElse fun _ => some status
    sessionId := extra.sessionId.orElse fun _ => some none
    lastHeartbeatAt := extra.lastHeartbeatAt.orElse fun _ => some (some now)
    updatedAt := extra.updatedAt.orElse fun _ => some now }

/-- The next statement of a program with no write pending. -/
def execNode (s : StageState) (synthesisReady : Bool) : StageProgram Bool → StageState
  | .ret _ => s
  | .read next => { s with program := next s.row }
  | .call (.updateTaskStatus status extra) next =>
    { s with
      program := next
      pending := if skipsStatusUpdate s.row status extra then .idle
        else .guardPassed status extra }
  | .call (.setTaskFields patch) next =>
    { s with
      program := next
      pending := .writing (normalizeOperatorInputHoldPatch (patch s.now) s.row) }
  | .call .refreshRoadmapBatchSummary next =>
    { s with
      program := next
      row := refreshSynthesisTaskRow synthesisReady s.now s.row }

def execStage (s : StageState) : StageOp → StageState
  | .tick ms => { s with now := s.now + ms }
  | .run synthesisReady =>
    match s.pending with
    | .idle => execNode s synthesisReady s.program
    | .guardPassed status extra =>
      { s with
        pending :=
          .writing (normalizeOperatorInputHoldPatch (statusPatch status extra s.now) s.row) }
    | .writing patch => { s with row := s.row.set patch, pending := .idle }
  | .cancel seen =>
    match applyHumanTaskEvent seen .cancelTask with
    | .error _ => s
    | .ok patch =>
      let row := setTaskFields s.row patch
      { s with row, cancelled := some row }

/-- One run of a stage of the active pipeline, on any row. -/
def stageSystem (env : RunEnv) (task : TaskRow) (stage : StatusTransition) (runner : StageRunner) :
    System StageState StageOp :=
  .ofFun
    (fun s => stage ∈ activePipeline env.toCoordinatorEnv ∧
      s.program = processOneTask env task stage runner ∧ s.pending = .idle ∧ s.cancelled = none)
    execStage

/-- What the latest cancellation stored still stands. -/
def CancelFinal (s : StageState) : Prop :=
  ∀ stored, s.cancelled = some stored → s.row.status = stored.status ∧
    s.row.blockedReason = stored.blockedReason ∧ s.row.paused = stored.paused

/-- A pending write leaves a cancelled task alone. -/
def pendingKeeps : PendingWrite → Bool
  | .idle => true
  | .guardPassed _ _ => false
  | .writing patch => keepsCancellation patch

/-- The next statement is no unguarded write that relabels or resumes the task. -/
def nextKeeps (now : Nat) : PendingWrite → StageProgram Bool → Bool
  | .idle, .call (.setTaskFields patch) _ => keepsCancellation (patch now)
  | _, _ => true

/-- No cancellation is stored between a guard and its write, and a cancelled run comes
to no unguarded write that relabels or resumes the task. -/
def CancelClear (s : StageState) : StageOp → Prop
  | .tick _ => True
  | .run _ => s.cancelled.isSome = true → nextKeeps s.now s.pending s.program = true
  | .cancel _ => pendingKeeps s.pending = true

/-! ### What keeps a cancellation -/

section Keeps

variable {row stored : TaskRow} {patch : TaskFieldsPatch}

/-- A cancelled and paused task, with the block that was stored. -/
structure Held (stored row : TaskRow) : Prop where
  cancelled : isOperatorCancelledTask row = true
  paused : row.paused = true
  status_eq : row.status = stored.status
  reason_eq : row.blockedReason = stored.blockedReason
  paused_eq : row.paused = stored.paused

theorem Held.of_same {row' : TaskRow} (held : Held stored row) (status : row'.status = row.status)
    (reason : row'.blockedReason = row.blockedReason) (paused : row'.paused = row.paused) :
    Held stored row' := by
  have cancelled : isOperatorCancelledTask row' = isOperatorCancelledTask row := by
    rw [isOperatorCancelledTask, isOperatorCancelledTask, status, reason]
  exact ⟨cancelled.trans held.cancelled, paused.trans held.paused, status.trans held.status_eq,
    reason.trans held.reason_eq, paused.trans held.paused_eq⟩

theorem Held.set (held : Held stored row) (keeps : keepsCancellation patch = true) :
    Held stored (row.set patch) := by
  simp only [keepsCancellation, Bool.and_eq_true, Option.isNone_iff_eq_none, bne_iff_ne] at keeps
  obtain ⟨⟨status, reason⟩, paused⟩ := keeps
  refine held.of_same (by simp [status]) (by simp [reason]) ?_
  cases pause : patch.paused with
  | none => simp [pause]
  | some value =>
    cases value with
    | true => simp [pause, held.paused]
    | false => exact absurd pause paused

theorem keepsCancellation_normalize (keeps : keepsCancellation patch = true) (row : TaskRow) :
    keepsCancellation (normalizeOperatorInputHoldPatch patch row) = true := by
  simp only [keepsCancellation, Bool.and_eq_true] at keeps ⊢
  unfold normalizeOperatorInputHoldPatch
  dsimp only
  split
  · exact ⟨keeps.1, rfl⟩
  · exact keeps

theorem reason_of_cancelled (cancelled : isOperatorCancelledTask row = true) :
    row.blockedReason.isNone = false ∧ isSynthesisHoldReason row.blockedReason = false := by
  rw [isOperatorCancelledTask, Bool.and_eq_true, isOperatorCancelledReason] at cancelled
  cases reason : row.blockedReason with
  | none => simp [reason] at cancelled
  | some text =>
    refine ⟨rfl, ?_⟩
    obtain ⟨rest, opens⟩ := Text.startsWith_iff.mp (by simpa [reason] using cancelled.2)
    simp only [isSynthesisHoldReason, Option.any_some, ← opens]
    rfl

theorem Held.refresh (held : Held stored row) (ready : Bool) (now : Nat) :
    Held stored (refreshSynthesisTaskRow ready now row) := by
  obtain ⟨present, noHold⟩ := reason_of_cancelled held.cancelled
  refine held.of_same (refreshSynthesisTaskRow_status ready now row) ?_ ?_
  · cases ready <;> simp [refreshSynthesisTaskRow, present, noHold]
  · cases ready <;> simp [refreshSynthesisTaskRow, present, noHold, held.paused]

theorem held_of_cancel {seen : TaskRow}
    (accepted : applyHumanTaskEvent seen .cancelTask = .ok patch) :
    Held (setTaskFields row patch) (setTaskFields row patch) := by
  have written : patch = cancelPatch seen := by
    rw [applyHumanTaskEvent] at accepted
    split at accepted
    · cases accepted
    · exact (Except.ok.inj accepted).symm
  have opens : Text.startsWith ("operator_cancelled: task cancelled by operator from " ++
      seen.status.text) "operator_input_required:" = false :=
    Text.not_startsWith_of_startsWith _ (Text.startsWith_append _ _) (by decide) (by decide)
  have stored : setTaskFields row patch = row.set patch := by
    apply setTaskFields_of_reason
    simpa [written, cancelPatch, isOperatorInputRequiredReason] using opens
  have named : Text.startsWith ("operator_cancelled: task cancelled by operator from " ++
      seen.status.text) "operator_cancelled:" = true := by
    rw [Text.startsWith_iff, String.toList_append]
    exact List.IsPrefix.trans (by decide) (List.prefix_append _ _)
  rw [stored, written]
  refine ⟨?_, rfl, rfl, rfl, rfl⟩
  simpa [isOperatorCancelledTask, isOperatorCancelledReason, cancelPatch] using named

end Keeps

/-! ### Runs -/

/-- No status write of the rest of the program is a cancellation itself. -/
def StatusCall : StageCall → Prop
  | .updateTaskStatus status extra => cancelsTask status extra = false
  | .setTaskFields _ => True
  | .refreshRoadmapBatchSummary => True

structure HeldInv (s : StageState) : Prop where
  calls : s.program.Calls StatusCall
  held : ∀ stored, s.cancelled = some stored → Held stored s.row
  pending : s.cancelled.isSome = true → pendingKeeps s.pending = true

section Runs

variable {s : StageState}

/-- The next statement of the program, when no write is pending. -/
theorem HeldInv.node (inv : HeldInv s) (idle : s.pending = .idle) (synthesisReady : Bool)
    (clear : CancelClear s (.run synthesisReady)) :
    HeldInv (execNode s synthesisReady s.program) := by
  have calls := inv.calls
  simp only [CancelClear, idle] at clear
  cases program : s.program with
  | ret a => exact inv
  | read next =>
    rw [program] at calls
    exact ⟨calls s.row, inv.held, inv.pending⟩
  | call c next =>
    rw [program] at calls clear
    obtain ⟨status, later⟩ := calls
    cases c with
    | updateTaskStatus requested extra =>
      refine ⟨later, inv.held, fun some_ => ?_⟩
      -- The guard sees the cancellation.
      obtain ⟨stored, isStored⟩ := Option.isSome_iff_exists.mp some_
      have skips : skipsStatusUpdate s.row requested extra = true := by
        rw [skipsStatusUpdate_eq, (inv.held stored isStored).cancelled,
          show cancelsTask requested extra = false from status]
        rfl
      simp [execNode, skips, pendingKeeps]
    | setTaskFields patch =>
      refine ⟨later, inv.held, fun some_ => ?_⟩
      exact keepsCancellation_normalize (clear some_) s.row
    | refreshRoadmapBatchSummary =>
      refine ⟨later, fun stored isStored => ?_, inv.pending⟩
      exact (inv.held stored isStored).refresh synthesisReady s.now

theorem HeldInv.run (inv : HeldInv s) (synthesisReady : Bool)
    (clear : CancelClear s (.run synthesisReady)) :
    HeldInv (execStage s (.run synthesisReady)) := by
  cases pending : s.pending with
  | idle =>
    simp only [execStage, pending]
    exact inv.node pending synthesisReady clear
  | guardPassed status extra =>
    simp only [execStage, pending]
    refine ⟨inv.calls, inv.held, fun some_ => ?_⟩
    have passed := inv.pending some_
    rw [pending] at passed
    cases passed
  | writing patch =>
    simp only [execStage, pending]
    refine ⟨inv.calls, fun stored isStored => ?_, fun _ => rfl⟩
    have keeps := inv.pending (Option.isSome_iff_exists.mpr ⟨stored, isStored⟩)
    rw [pending] at keeps
    exact (inv.held stored isStored).set keeps

theorem HeldInv.cancel (inv : HeldInv s) (seen : TaskRow)
    (clear : CancelClear s (.cancel seen)) : HeldInv (execStage s (.cancel seen)) := by
  cases accepted : applyHumanTaskEvent seen .cancelTask with
  | error _ =>
    simp only [execStage, accepted]
    exact inv
  | ok patch =>
    simp only [execStage, accepted]
    refine ⟨inv.calls, fun stored isStored => ?_, fun _ => clear⟩
    rw [← Option.some.inj isStored]
    exact held_of_cancel accepted

theorem HeldInv.step {op : StageOp} (inv : HeldInv s) (clear : CancelClear s op) :
    HeldInv (execStage s op) := by
  cases op with
  | tick ms => exact ⟨inv.calls, inv.held, inv.pending⟩
  | run synthesisReady => exact inv.run synthesisReady clear
  | cancel seen => exact inv.cancel seen clear

variable {env : RunEnv} {task : TaskRow} {stage : StatusTransition} {runner : StageRunner}

theorem heldInv_start (start : (stageSystem env task stage runner).init s) : HeldInv s := by
  obtain ⟨inside, program, pending, cancelled⟩ := start
  have coordinator : ∀ c, CoordinatorCall c → StatusCall c := by
    intro c call
    cases c with
    | updateTaskStatus status extra => exact call
    | _ => trivial
  have unguarded : ∀ c, RunnerCall c → StatusCall c := by
    intro c call
    cases c with
    | updateTaskStatus status extra => exact call.elim
    | _ => trivial
  refine ⟨?_, by simp [cancelled], by simp [cancelled]⟩
  rw [program]
  exact processOneTask_calls env task coordinator (.mono unguarded runner.unguarded) inside

/-- In a run that stays clear, nothing the run writes after a cancellation changes the
status, the reason or the pause that the cancellation stored. -/
theorem cancelled_final_of_reaches
    (reached : Reaches (stageSystem env task stage runner) CancelClear s) : CancelFinal s := by
  have inv : HeldInv s := by
    refine reached.invariant (fun s => heldInv_start) ?_
    rintro s op _ inv clear rfl
    exact inv.step clear
  intro stored isStored
  have held := inv.held stored isStored
  exact ⟨held.status_eq, held.reason_eq, held.paused_eq⟩

/-- `CancelClear`, checked. -/
def isClear (s : StageState) : StageOp → Bool
  | .tick _ => true
  | .run _ => s.cancelled.isNone || nextKeeps s.now s.pending s.program
  | .cancel _ => pendingKeeps s.pending

theorem cancelClear_of_isClear {op : StageOp} (clear : isClear s op = true) : CancelClear s op := by
  cases op with
  | tick ms => trivial
  | run synthesisReady =>
    intro some_
    simpa [isClear, Option.isNone_iff_eq_none.not.mpr (Option.isSome_iff_ne_none.mp some_)]
      using clear
  | cancel seen => exact clear

end Runs

/-! ### A stage that starts anyway -/

/-- The runner that writes nothing and succeeds. -/
def quietRunner : StageRunner := ⟨.ret none, trivial⟩

def plannerStage : StatusTransition := ⟨[.planning], .planning, .planReady, .planner⟩

def plannedTask : TaskRow := { id := "task", projectId := "project", status := .planning }

/-- The planner's run has not begun. -/
def beforeStart : StageState where
  now := 0
  row := plannedTask
  program := processOneTask {} plannedTask plannerStage quietRunner

/-- The operator cancels first, and the run goes on to its end. -/
def cancelledFirst : List StageOp :=
  .cancel plannedTask :: List.replicate 12 (.run false)

/-- The operator cancels between the guard of the start and its write. -/
def cancelledAfterGuard : List StageOp :=
  [.run false, .cancel plannedTask, .run false, .run false]

theorem beforeStart_init :
    (stageSystem {} plannedTask plannerStage quietRunner).init beforeStart :=
  ⟨by decide, rfl, rfl, rfl⟩

/-- A clear run: the whole stage comes after the cancellation. -/
theorem cancelled_final_cancelledFirst :
    CancelFinal (cancelledFirst.foldl execStage beforeStart) := by
  refine cancelled_final_of_reaches
    (reaches_runs isClear execStage ?_ (.init beforeStart_init) (by decide))
  intro s op clear
  exact ⟨cancelClear_of_isClear clear, rfl⟩

/-- The guard read the task before it was cancelled: the stage starts, and the task is
in planning again. -/
theorem cancelled_task_restarted :
    ¬ ∀ (env : RunEnv) (task : TaskRow) (stage : StatusTransition) (runner : StageRunner)
      (s : StageState), Reachable (stageSystem env task stage runner) s → CancelFinal s := by
  intro final
  have reached : Reachable (stageSystem {} plannedTask plannerStage quietRunner)
      (cancelledAfterGuard.foldl execStage beforeStart) :=
    reaches_runs (fun _ _ => true) execStage (fun _ _ _ => ⟨trivial, rfl⟩) (.init beforeStart_init)
      rfl
  have stored : (cancelledAfterGuard.foldl execStage beforeStart).cancelled =
      some (setTaskFields plannedTask (cancelPatch plannedTask)) := rfl
  have restarted : (cancelledAfterGuard.foldl execStage beforeStart).row.status = .planning := rfl
  have same := (final _ _ _ _ _ reached _ stored).1
  rw [restarted] at same
  cases same

end AifHandoff.System
