import AifHandoff.Lib.Transition
import AifHandoff.Mcp.SyncRefinement

/-!
Status syncs among other writers of the same task.

A sync reads the row once and decides on it. Each of its updates is two statements more, the read of
the normalisation and the write; between any two statements the API, the coordinator and other syncs
write the row.
-/

namespace AifHandoff.System

open Transition Data StateMachine Api Mcp

/-! ### Syncs in flight -/

/-- The updates of an accepted sync. -/
inductive SyncWrite where
  | transition (patch : TaskFieldsPatch)
  | lastSyncedAt
  | paused (flag : Bool)
deriving DecidableEq

def SyncWrite.patch : SyncWrite → TaskFieldsPatch
  | .transition patch => patch
  | .lastSyncedAt => {}
  | .paused flag => { paused := some flag }

def SyncWrite.isTransition : SyncWrite → Bool
  | .transition _ => true
  | _ => false

structure SyncInFlight where
  args : SyncStatusArgs
  /-- The row the sync was decided on. -/
  seen : SyncedTask
  /-- The updates to be made, and the patch of the first of them once it is normalised. -/
  writes : List SyncWrite
  pending : Option TaskFieldsPatch := none
  /-- Another writer has changed the status since the row was read, or since the normalisation. -/
  overtaken : Bool := false
  stale : Bool := false

variable {ι : Type} [DecidableEq ι]

structure RaceState (ι : Type) where
  row : SyncedTask
  syncs : ι → Option SyncInFlight

inductive RaceStep (ι : Type) where
  | read (id : ι) (withinRate : Bool) (args : SyncStatusArgs)
  | normalize (id : ι)
  | write (id : ι) (now : Nat)
  /-- A write of the API or of the coordinator. -/
  | other (row : SyncedTask)

/-- The sync a step belongs to. -/
def RaceStep.sync? : RaceStep ι → Option ι
  | .read id _ _ | .normalize id | .write id _ => some id
  | .other _ => none

/-- A sync as it is found behind a write of someone else. -/
def SyncInFlight.after (sync : SyncInFlight) (old new : TaskStatus) : SyncInFlight :=
  if old = new then sync else { sync with overtaken := true, stale := true }

/-- The updates of an accepted sync, in their order. -/
def syncWrites (args : SyncStatusArgs) (patch : TaskFieldsPatch) : List SyncWrite :=
  [.transition patch, .lastSyncedAt] ++ (args.paused.map SyncWrite.paused).toList

/-- The first statement of a sync; only an accepted one goes on. -/
def startSync (withinRate : Bool) (args : SyncStatusArgs) (row : SyncedTask) :
    Option SyncInFlight :=
  if !withinRate || !assertValidSourceTimestamp args.sourceTimestamp then none
  else match decideSync args row with
    | .refused _ => none
    | .accepted _ patch _ => some { args, seen := row, writes := syncWrites args patch }

/-- The sync behind its first update. -/
def SyncInFlight.rest (sync : SyncInFlight) : Option SyncInFlight :=
  if sync.writes.tail = [] then none
  else some { sync with writes := sync.writes.tail, pending := none }

def SyncInFlight.normalized (sync : SyncInFlight) (row : SyncedTask) : SyncInFlight :=
  match sync.pending, sync.writes with
  | none, write :: _ =>
    { sync with
      pending := some (normalizeOperatorInputHoldPatch write.patch row.task)
      stale := false }
  | _, _ => sync

/-- The row behind the pending update of a sync. -/
def SyncInFlight.written (sync : SyncInFlight) (now : Nat) (row : SyncedTask) : SyncedTask where
  task := row.task.set (sync.pending.getD {})
  lastSyncedAt := if sync.writes.head? = some .lastSyncedAt then some now else row.lastSyncedAt

def raceStep (s : RaceState ι) : RaceStep ι → RaceState ι
  | .read id withinRate args =>
    match s.syncs id with
    | some _ => s
    | none => { s with syncs := Function.update s.syncs id (startSync withinRate args s.row) }
  | .normalize id =>
    { s with syncs := Function.update s.syncs id ((s.syncs id).map (·.normalized s.row)) }
  | .write id now =>
    match s.syncs id with
    | none => s
    | some sync =>
      if sync.pending.isNone then s
      else
        let row := sync.written now s.row
        { row
          syncs := fun other =>
            if other = id then sync.rest
            else (s.syncs other).map (·.after s.row.task.status row.task.status) }
  | .other row =>
    { row, syncs := fun id => (s.syncs id).map (·.after s.row.task.status row.task.status) }

/-- Any number of syncs among any other writes of the task. -/
def raceSystem : System (RaceState ι) (RaceStep ι) :=
  .ofFun (fun s => ∀ id, s.syncs id = none) raceStep

/-! ### What a sync must not destroy -/

/-- The row is not newer than the source of the sync. -/
def NotNewer (args : SyncStatusArgs) (row : SyncedTask) : Prop :=
  ∃ sourceTime, args.sourceTimestamp = some sourceTime ∧ (row.task.updatedAt : Int) ≤ sourceTime

/-- The pending update rests on a row whose status another writer has changed. -/
def SyncInFlight.outdated (sync : SyncInFlight) : Bool :=
  if sync.writes.head? = some .lastSyncedAt then sync.stale else sync.overtaken

/-- The next write of a sync changes the status only of a row that is not newer than its source and
that has the status its transition was computed from, and it overwrites no transition of another
writer. -/
structure KeepsNewer (s : RaceState ι) (id : ι) (sync : SyncInFlight) (now : Nat) : Prop where
  status : (raceStep s (.write id now)).row.task.status ≠ s.row.task.status →
    NotNewer sync.args s.row ∧ s.row.task.status = sync.seen.task.status
  transition : sync.outdated = true → (raceStep s (.write id now)).row.task = s.row.task

/-! ### Undisturbed runs -/

/-- The sync still has its transition to write. -/
def SyncInFlight.transitionAhead (sync : SyncInFlight) : Bool :=
  sync.writes.any SyncWrite.isTransition

/-- The sync still has something to write to the columns of the task. -/
def SyncInFlight.writesAhead (sync : SyncInFlight) : Bool :=
  sync.writes.any (· ≠ .lastSyncedAt) || sync.pending.any (· ≠ {})

/-- No one else moves the task on while a sync has something to write to it, nor past the time of its
source while it has its transition to write. -/
def Undisturbed (s : RaceState ι) (step : RaceStep ι) : Prop :=
  ∀ id sync, s.syncs id = some sync → step.sync? ≠ some id →
    (sync.writesAhead = true → (raceStep s step).row.task.status = s.row.task.status) ∧
      (sync.transitionAhead = true → NotNewer sync.args (raceStep s step).row)

/-! ### Syncs that no one has overtaken -/

/-- What holds of a sync in flight as long as the run is undisturbed. -/
structure UpToDate (row : SyncedTask) (sync : SyncInFlight) : Prop where
  transition : sync.transitionAhead = true →
    NotNewer sync.args row ∧ row.task.status = sync.seen.task.status
  overtaken : sync.writes.any (· ≠ .lastSyncedAt) = true → sync.overtaken = false
  stale : sync.pending.any (· ≠ {}) = true → sync.stale = false
  /-- The patch on its way is the next one, normalised against some version of the row. -/
  next : ∀ patch, sync.pending = some patch → ∃ write rest version,
    sync.writes = write :: rest ∧ patch = normalizeOperatorInputHoldPatch write.patch version
  /-- Only the first update is a transition. -/
  once : sync.writes.tail.any SyncWrite.isTransition = false

section Sync

variable {row row' : SyncedTask} {sync : SyncInFlight} {args : SyncStatusArgs}

theorem normalizeOperatorInputHoldPatch_status (patch : TaskFieldsPatch) (task : TaskRow) :
    (normalizeOperatorInputHoldPatch patch task).status = patch.status := by
  unfold normalizeOperatorInputHoldPatch
  dsimp only
  split <;> rfl

theorem startSync_fresh {withinRate : Bool} (started : startSync withinRate args row = some sync) :
    UpToDate row sync := by
  unfold startSync at started
  split at started
  · cases started
  split at started
  · cases started
  rename_i event patch resolution accepted
  cases started
  obtain ⟨_, _, _, wins, _, _⟩ := decideSync_cases accepted
  constructor
  · exact fun _ => ⟨resolveConflict_eq_false wins, rfl⟩
  · exact fun _ => rfl
  · exact fun _ => rfl
  · intro patch none_
    cases none_
  · cases paused : args.paused <;> simp [syncWrites, paused, SyncWrite.isTransition]

theorem UpToDate.normalized (fresh : UpToDate row sync) : UpToDate row (sync.normalized row) := by
  unfold SyncInFlight.normalized
  split
  · rename_i write rest _ writes
    constructor
    · exact fresh.transition
    · exact fresh.overtaken
    · exact fun _ => rfl
    · intro patch isPatch
      cases isPatch
      exact ⟨write, rest, row.task, writes, rfl⟩
    · exact fresh.once
  · exact fresh

/-- Behind its own write a sync is as fresh as before; the transition is written. -/
theorem UpToDate.rest {sync' : SyncInFlight} (fresh : UpToDate row sync) (row' : SyncedTask)
    (goes : sync.rest = some sync') : UpToDate row' sync' := by
  unfold SyncInFlight.rest at goes
  split at goes
  · cases goes
  cases goes
  constructor
  · intro ahead
    have none_ := fresh.once
    rw [show sync.writes.tail.any SyncWrite.isTransition = true from ahead] at none_
    cases none_
  · intro ahead
    refine fresh.overtaken ?_
    obtain ⟨write, among, other⟩ := List.any_eq_true.mp ahead
    exact List.any_eq_true.mpr ⟨write, List.mem_of_mem_tail among, other⟩
  · intro pending
    cases pending
  · intro patch pending
    cases pending
  · cases writes : sync.writes with
    | nil => rfl
    | cons write more =>
      have later := fresh.once
      rw [writes] at later
      cases more with
      | nil => rfl
      | cons next more =>
        rw [List.tail_cons, List.any_cons, Bool.or_eq_false_iff] at later
        exact later.2

/-- A write of someone else that moves nothing on leaves a sync fresh. -/
theorem UpToDate.after (fresh : UpToDate row sync)
    (status : sync.writesAhead = true → row'.task.status = row.task.status)
    (notNewer : sync.transitionAhead = true → NotNewer sync.args row') :
    UpToDate row' (sync.after row.task.status row'.task.status) := by
  have writes : (sync.after row.task.status row'.task.status).writes = sync.writes := by
    unfold SyncInFlight.after
    split <;> rfl
  have pending : (sync.after row.task.status row'.task.status).pending = sync.pending := by
    unfold SyncInFlight.after
    split <;> rfl
  have args : (sync.after row.task.status row'.task.status).args = sync.args := by
    unfold SyncInFlight.after
    split <;> rfl
  have seen : (sync.after row.task.status row'.task.status).seen = sync.seen := by
    unfold SyncInFlight.after
    split <;> rfl
  have same (ahead : sync.writesAhead = true) :
      sync.after row.task.status row'.task.status = sync := if_pos (status ahead).symm
  constructor
  · unfold SyncInFlight.transitionAhead
    rw [writes, args, seen]
    intro ahead
    have someWrite : sync.writesAhead = true := by
      obtain ⟨write, among, moves⟩ := List.any_eq_true.mp ahead
      unfold SyncInFlight.writesAhead
      rw [Bool.or_eq_true, List.any_eq_true]
      refine .inl ⟨write, among, ?_⟩
      cases write <;> simp [SyncWrite.isTransition] at moves ⊢
    exact ⟨notNewer ahead, (status someWrite).trans (fresh.transition ahead).2⟩
  · rw [writes]
    intro ahead
    rw [same (by unfold SyncInFlight.writesAhead; rw [ahead]; rfl)]
    exact fresh.overtaken ahead
  · rw [pending]
    intro ahead
    rw [same (by unfold SyncInFlight.writesAhead; rw [ahead, Bool.or_true])]
    exact fresh.stale ahead
  · rw [writes, pending]
    exact fresh.next
  · rw [writes]
    exact fresh.once

end Sync

/-! ### Runs -/

section Run

variable {s : RaceState ι}

/-- Every sync in flight is fresh. -/
def AllUpToDate (s : RaceState ι) : Prop := ∀ id sync, s.syncs id = some sync → UpToDate s.row sync

theorem AllUpToDate.step (fresh : AllUpToDate s) (step : RaceStep ι) (calm : Undisturbed s step) :
    AllUpToDate (raceStep s step) := by
  cases step with
  | read id withinRate args =>
    unfold raceStep
    dsimp only
    cases busy : s.syncs id with
    | some _ => exact fresh
    | none =>
      intro other sync found
      dsimp only at found ⊢
      by_cases same : other = id
      · subst same
        rw [Function.update_self] at found
        exact startSync_fresh found
      · rw [Function.update_of_ne same] at found
        exact fresh other sync found
  | normalize id =>
    intro other sync found
    unfold raceStep at found ⊢
    dsimp only at found ⊢
    by_cases same : other = id
    · subst same
      rw [Function.update_self] at found
      obtain ⟨before, inFlight, rfl⟩ := Option.map_eq_some_iff.mp found
      exact (fresh other before inFlight).normalized
    · rw [Function.update_of_ne same] at found
      exact fresh other sync found
  | write id now =>
    unfold Undisturbed raceStep at calm
    unfold raceStep
    dsimp only at calm ⊢
    cases inFlight : s.syncs id with
    | none => exact fresh
    | some writer =>
    rw [inFlight] at calm
    dsimp only at calm ⊢
    by_cases idle : writer.pending.isNone = true
    · rw [if_pos idle]
      exact fresh
    rw [if_neg idle] at calm ⊢
    intro other sync found
    dsimp only at found calm ⊢
    by_cases same : other = id
    · rw [if_pos same] at found
      exact (fresh id writer inFlight).rest _ found
    · rw [if_neg same] at found
      obtain ⟨before, isBefore, rfl⟩ := Option.map_eq_some_iff.mp found
      obtain ⟨status, notNewer⟩ := calm other before isBefore
        fun own => same (Option.some.inj own).symm
      exact (fresh other before isBefore).after status notNewer
  | other row =>
    intro id sync found
    unfold raceStep at found ⊢
    dsimp only at found ⊢
    obtain ⟨before, isBefore, rfl⟩ := Option.map_eq_some_iff.mp found
    obtain ⟨status, notNewer⟩ := calm id before isBefore (by simp [RaceStep.sync?])
    exact (fresh id before isBefore).after status notNewer

/-- A fresh sync destroys nothing. -/
theorem UpToDate.keepsNewer {id : ι} {sync : SyncInFlight} (fresh : UpToDate s.row sync)
    (inFlight : s.syncs id = some sync) (now : Nat) : KeepsNewer s id sync now := by
  have row : (raceStep s (.write id now)).row.task =
      if sync.pending.isNone then s.row.task else s.row.task.set (sync.pending.getD {}) := by
    unfold raceStep
    dsimp only
    rw [inFlight]
    dsimp only
    split <;> rfl
  cases pending : sync.pending with
  | none =>
    rw [pending] at row
    exact ⟨fun moves => absurd (by rw [row]; rfl) moves, fun _ => row⟩
  | some patch =>
  rw [pending] at row
  obtain ⟨write, rest, version, writes, isPatch⟩ := fresh.next patch pending
  constructor
  · intro moves
    refine fresh.transition ?_
    have written : patch.status = write.patch.status := by
      rw [isPatch, normalizeOperatorInputHoldPatch_status]
    unfold SyncInFlight.transitionAhead
    rw [writes, List.any_cons, Bool.or_eq_true]
    cases write with
    | transition _ => exact .inl rfl
    | lastSyncedAt | paused _ =>
      refine absurd ?_ moves
      rw [row]
      change patch.status.getD _ = _
      rw [written]
      rfl
  · intro outdated
    unfold SyncInFlight.outdated at outdated
    split at outdated
    · -- the normalisation was made on an older status, so it has nothing to write
      by_cases empty : patch = {}
      · rw [row, empty]
        rfl
      · rw [fresh.stale (by rw [pending]; simpa using empty)] at outdated
        cases outdated
    · rename_i other
      rw [fresh.overtaken ?_] at outdated
      · cases outdated
      · rw [writes, List.head?_cons, Option.some_inj] at other
        rw [writes, List.any_cons]
        simp [other]

/-- In a run in which no one else moves the task on while a sync is at work, no sync destroys a newer
write. -/
theorem undisturbed_keepsNewer (reached : Reaches raceSystem Undisturbed s) (id : ι)
    (sync : SyncInFlight) (inFlight : s.syncs id = some sync) (now : Nat) :
    KeepsNewer s id sync now := by
  have fresh : AllUpToDate s := reached.invariant (fun start idle id sync found => by
      rw [idle id] at found
      cases found) fun before step _ fresh calm next => by
    subst next
    exact fresh.step step calm
  exact (fresh id sync inFlight).keepsNewer inFlight now

end Run

/-! ### Two runs -/

/-- A task in the backlog that no sync is at. -/
def idleBacklog : RaceState Unit where
  row := { task := { id := "task", projectId := "project", updatedAt := 5 } }
  syncs := fun _ => none

def planningSync : SyncStatusArgs where
  taskId := "task"
  newStatus := .planning
  sourceTimestamp := some 9
  direction := .handoffToAif

/-- The task as the API leaves it when an operator cancels it. -/
def cancelledTask : SyncedTask where
  task := (handleTaskEvent { now := 20 } { event := .cancelTask } idleBacklog.row.task).2

/-- A sync that has begun, with a write of someone else before its first update. -/
def syncAcross (row : SyncedTask) : List (RaceStep Unit) :=
  [.read () true planningSync, .other row, .normalize ()]

/-- The cancellation is overwritten: the task goes on to planning. -/
theorem cancellation_overwritten :
    ¬∀ s : RaceState Unit, Reachable raceSystem s → ∀ id sync, s.syncs id = some sync →
      ∀ now, KeepsNewer s id sync now := by
  intro kept
  have reached : Reachable raceSystem ((syncAcross cancelledTask).foldl raceStep idleBacklog) :=
    reaches_runs (fun _ _ => true) raceStep (fun _ _ _ => ⟨trivial, rfl⟩)
      (.init (s := idleBacklog) fun _ => rfl) (by decide)
  have begun : (((syncAcross cancelledTask).foldl raceStep idleBacklog).syncs ()).map
      (·.seen.task.status) = some .backlog := by
    decide
  obtain ⟨sync, inFlight, seen⟩ := Option.map_eq_some_iff.mp begun
  have before : ((syncAcross cancelledTask).foldl raceStep idleBacklog).row.task.status =
      .blockedExternal := by
    decide
  have behind : (raceStep ((syncAcross cancelledTask).foldl raceStep idleBacklog)
      (.write () 21)).row.task.status = .planning := by
    decide
  have computed := ((kept _ reached () sync inFlight 21).status
    (by rw [before, behind]; decide)).2
  rw [before, seen] at computed
  cases computed

/-- The task with a plan, written at a time the sync knows of. -/
def plannedBacklog : SyncedTask where
  task := { idleBacklog.row.task with plan := some "A plan.", updatedAt := 8 }

theorem undisturbed_keepsNewer_plan :
    ∃ sync, ((syncAcross plannedBacklog).foldl raceStep idleBacklog).syncs () = some sync ∧
      KeepsNewer ((syncAcross plannedBacklog).foldl raceStep idleBacklog) () sync 21 := by
  have started : Reaches raceSystem Undisturbed
      (raceStep idleBacklog (.read () true planningSync)) := by
    refine .step (.init fun _ => rfl) (fun id sync found => ?_) rfl
    cases found
  have begun : (((syncAcross plannedBacklog).take 1).foldl raceStep idleBacklog).syncs () =
      startSync true planningSync idleBacklog.row := rfl
  have planned : Reaches raceSystem Undisturbed
      (raceStep (raceStep idleBacklog (.read () true planningSync)) (.other plannedBacklog)) := by
    refine .step started (fun id sync found _ => ⟨fun _ => rfl, fun _ => ?_⟩) rfl
    have args : sync.args = planningSync := by
      have same := congrArg (Option.map (·.args)) (found.symm.trans begun)
      exact Option.some.inj same
    rw [args]
    exact ⟨9, rfl, by decide⟩
  have normalized : Reaches raceSystem Undisturbed
      ((syncAcross plannedBacklog).foldl raceStep idleBacklog) :=
    .step (i := .normalize ()) planned (fun _ _ _ other => absurd rfl other) rfl
  obtain ⟨sync, inFlight⟩ := Option.isSome_iff_exists.mp
    (show (((syncAcross plannedBacklog).foldl raceStep idleBacklog).syncs ()).isSome = true by
      decide)
  exact ⟨sync, inFlight, undisturbed_keepsNewer normalized () sync inFlight 21⟩

end AifHandoff.System
