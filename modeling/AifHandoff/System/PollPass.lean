import AifHandoff.Agent.Coordinator
import AifHandoff.Data.Claims
import AifHandoff.Lib.Transition
import AifHandoff.Shared.StateMachine

/-!
One poll pass of the coordinator, against other writers of the table
(`pollAndProcess`, `agent/coordinator.ts`).

The pass lists the candidates of a stage, walks through them with the listed rows in
hand, and claims, gates or skips each; a claimed task goes to `processOneTask`.
Between any two statements others write rows: human events, the status sync, other
coordinators, and the stages this process has started before.
-/

namespace AifHandoff.System

open Transition Data Agent

/-- A task on its way to the stage runner: the listed row, the stage, and the row that
the table held at the claim. -/
structure StageStart where
  candidate : TaskRow
  stage : CoordinatorStage
  stored : TaskRow

structure PollState where
  now : Nat
  store : TaskStore
  stage : CoordinatorStage := .planner
  /-- The candidates the pass has not come to yet. -/
  queue : List TaskRow := []
  claimed : Option StageStart := none
  started : List StageStart := []

inductive PollOp where
  | tick (ms : Nat)
  /-- A statement of anyone else on one row. -/
  | write (taskId : TaskId) (patch : TaskFieldsPatch)
  | list (stage : CoordinatorStage) (limit : Nat)
  /-- The next candidate is passed over: capacity, budget, or another lock. -/
  | skip
  /-- The runtime gate blocks the next candidate. -/
  | gate (blockedReason : String) (retryAfter : Option Nat)
  /-- No runtime can implement the next candidate. -/
  | blockNoRuntime (blockedReason : String)
  | claim (lockDurationMs : Nat)
  /-- The semaphores are full after the claim. -/
  | release
  | start (env : StartEnv)

/-- What the gate expects of the row, from the candidate in hand. -/
def runtimeGateBlock (candidate : TaskRow) (blockedReason : String) (retryAfter : Option Nat) :
    RuntimeGateBlock where
  taskId := candidate.id
  expectedProjectId := some candidate.projectId
  expectedStatus := candidate.status
  expectedAutoMode := if candidate.status = .planReady then some candidate.autoMode else none
  blockedFromStatus := candidate.status
  blockedReason := blockedReason
  retryAfter := retryAfter
  retryCount := candidate.retryCount + 1

/-- The status a stage runs in. -/
def inProgressStatus (stage : CoordinatorStage) : TaskStatus :=
  ((pipeline.find? (·.label == stage)).map (·.inProgress)).getD .planning

section Pass

variable (coordinatorId : String)

def execPoll (s : PollState) : PollOp → PollState
  | .tick ms => { s with now := s.now + ms }
  | .write taskId patch => { s with store := updateWhereId s.store taskId (·.set patch) }
  | .list stage limit =>
    { s with
      stage
      queue := findCoordinatorTaskCandidates s.store stage limit s.now }
  | .skip => { s with queue := s.queue.tail }
  | .gate blockedReason retryAfter =>
    match s.queue with
    | [] => s
    | candidate :: queue =>
      { s with
        store := (blockTaskForRuntimeGateIfEligible s.store
          (runtimeGateBlock candidate blockedReason retryAfter) s.now).1
        queue }
  | .blockNoRuntime blockedReason =>
    match s.queue with
    | [] => s
    | candidate :: queue =>
      { s with
        store := updateWhereId s.store candidate.id fun row =>
          updateTaskStatus row .blockedExternal
            { blockedReason := some (some blockedReason)
              blockedFromStatus := some (some candidate.status)
              retryAfter := some none
              retryCount := some candidate.retryCount
              manualReviewRequired := some false } s.now
        queue }
  | .claim lockDurationMs =>
    match s.queue with
    | [] => s
    | candidate :: queue =>
      let (store, ok) :=
        claimTask s.store candidate.id coordinatorId lockDurationMs s.stage s.now
      { s with
        store
        queue
        claimed := if ok then
          (findTaskById s.store candidate.id).map (⟨candidate, s.stage, ·⟩) else none }
  | .release =>
    match s.claimed with
    | none => s
    | some start =>
      { s with
        store := (releaseTaskClaim s.store start.candidate.id coordinatorId s.now).1
        claimed := none }
  | .start env =>
    match s.claimed with
    | none => s
    | some start =>
      if startsRunner start.stage env then
        { s with
          store := updateWhereId s.store start.candidate.id fun row =>
            updateTaskStatus row (inProgressStatus start.stage) {} s.now
          claimed := none
          started := s.started ++ [start] }
      else { s with claimed := none }

/-- The claimed task is started or given back before the next candidate's turn. -/
def mayPoll (s : PollState) : PollOp → Bool
  | .list _ _ => s.claimed.isNone
  | .gate _ _ => s.claimed.isNone
  | .blockNoRuntime _ => s.claimed.isNone
  | .claim _ => s.claimed.isNone
  | _ => true

def pollSystem : System PollState PollOp where
  init s := (s.store.map (·.id)).Nodup ∧ s.queue = [] ∧ s.claimed = none ∧ s.started = []
  step s op s' := mayPoll s op = true ∧ s' = execPoll coordinatorId s op

end Pass

/-- The part of the candidate query that a claim does not repeat. -/
def isEligible (stage : CoordinatorStage) (row : TaskRow) : Bool :=
  stageFilter stage row && !row.paused

/-- Nobody takes a listed task out of the stage before its turn: a write by others
leaves every waiting candidate eligible, if it was. -/
def NobodyTakes (s : PollState) : PollOp → Prop
  | .write taskId patch =>
    ∀ candidate ∈ s.queue, candidate.id = taskId → ∀ row,
      findTaskById s.store taskId = some row →
      isEligible s.stage row = true → isEligible s.stage (row.set patch) = true
  | _ => True

/-- A step of the pass itself. -/
def isOwnStep : PollOp → Bool
  | .write _ _ => false
  | _ => true

/-- The candidates in the queue are distinct tasks whose rows are eligible, and so were
the rows of the tasks claimed and started. -/
structure PollInv (s : PollState) : Prop where
  nodup : (s.store.map (·.id)).Nodup
  distinct : (s.queue.map (·.id)).Nodup
  queue_eligible : ∀ candidate ∈ s.queue, ∀ row, findTaskById s.store candidate.id = some row →
    isEligible s.stage row = true
  claimed_eligible : ∀ start, s.claimed = some start →
    isEligible start.stage start.stored = true ∧ start.candidate.id ∉ s.queue.map (·.id)
  started_eligible : ∀ start ∈ s.started, isEligible start.stage start.stored = true

section Invariant

variable {coordinatorId : String} {s : PollState}

theorem isEligible_set {stage : CoordinatorStage} {row : TaskRow} {patch : TaskFieldsPatch}
    (status : patch.status = none) (paused : patch.paused = none)
    (autoMode : patch.autoMode = none) :
    isEligible stage (row.set patch) = isEligible stage row := by
  cases stage <;> simp [isEligible, stageFilter, status, paused, autoMode]

/-- The rows of a queue stay eligible under a statement that touches none of them, or
none of the columns that matter. -/
theorem queue_eligible_updateWhere {store : TaskStore} {queue : List TaskRow}
    {stage : CoordinatorStage} {condition : TaskRow → Bool} {patch : TaskFieldsPatch}
    (before : ∀ candidate ∈ queue, ∀ row, findTaskById store candidate.id = some row →
      isEligible stage row = true)
    (harmless : ∀ candidate ∈ queue, ∀ row, findTaskById store candidate.id = some row →
      condition row = true → isEligible stage (row.set patch) = isEligible stage row) :
    ∀ candidate ∈ queue, ∀ row,
      findTaskById (updateWhere store condition patch) candidate.id = some row →
      isEligible stage row = true := by
  intro candidate inside row found
  rw [findTaskById_updateWhere] at found
  obtain ⟨old, foundOld, rfl⟩ := Option.map_eq_some_iff.mp found
  split
  next holds =>
    rw [harmless candidate inside old foundOld holds]
    exact before candidate inside old foundOld
  next => exact before candidate inside old foundOld

theorem queue_eligible_updateWhereId {store : TaskStore} {queue : List TaskRow}
    {stage : CoordinatorStage} {id : TaskId} {write : TaskRow → TaskRow}
    (keepsId : ∀ row, (write row).id = row.id)
    (before : ∀ candidate ∈ queue, ∀ row, findTaskById store candidate.id = some row →
      isEligible stage row = true)
    (other : id ∉ queue.map (·.id)) :
    ∀ candidate ∈ queue, ∀ row,
      findTaskById (updateWhereId store id write) candidate.id = some row →
      isEligible stage row = true := by
  intro candidate inside row found
  rw [findTaskById_updateWhereId keepsId] at found
  obtain ⟨old, foundOld, rfl⟩ := Option.map_eq_some_iff.mp found
  have differs : candidate.id ≠ id := fun same => other (List.mem_map.mpr ⟨candidate, inside, same⟩)
  rw [if_neg differs]
  exact before candidate inside old foundOld

theorem id_updateTaskStatus (row : TaskRow) (status : TaskStatus) (extra : TaskFieldsPatch)
    (now : Nat) : (updateTaskStatus row status extra now).id = row.id := by
  unfold updateTaskStatus
  split <;> rfl

theorem listing_nodup (nodup : (s.store.map (·.id)).Nodup) (stage : CoordinatorStage)
    (limit : Nat) :
    ((findCoordinatorTaskCandidates s.store stage limit s.now).map (·.id)).Nodup := by
  have perm := List.perm_insertionSort queueOrder (s.store.filter (isCandidate stage s.now))
  have filtered : ((s.store.filter (isCandidate stage s.now)).map (·.id)).Nodup :=
    (List.filter_sublist.map _).nodup nodup
  have sorted := (perm.map (·.id)).nodup_iff.mpr filtered
  exact ((List.take_sublist limit _).map _).nodup sorted

theorem mem_listing {stage : CoordinatorStage} {limit : Nat} {candidate : TaskRow}
    (inside : candidate ∈ findCoordinatorTaskCandidates s.store stage limit s.now) :
    candidate ∈ s.store ∧ isEligible stage candidate = true := by
  have sorted := List.mem_of_mem_take inside
  rw [List.mem_insertionSort, List.mem_filter] at sorted
  obtain ⟨stored, chosen⟩ := sorted
  simp only [isCandidate, Bool.and_eq_true] at chosen
  refine ⟨stored, ?_⟩
  rw [isEligible, Bool.and_eq_true]
  exact ⟨chosen.1.1.1, chosen.1.2⟩

theorem nobodyTakes_of_own {op : PollOp} (own : isOwnStep op = true) : NobodyTakes s op := by
  cases op with
  | write taskId patch => cases own
  | _ => trivial

theorem pollInv_start (start : (pollSystem coordinatorId).init s) : PollInv s := by
  obtain ⟨nodup, queue, claimed, started⟩ := start
  refine ⟨nodup, ?_, ?_, ?_, ?_⟩ <;> simp [queue, claimed, started]

/-- The pass moves on to the next candidate. -/
theorem PollInv.tail {candidate : TaskRow} {queue : List TaskRow} (inv : PollInv s)
    (head : s.queue = candidate :: queue) :
    candidate.id ∉ queue.map (·.id) ∧ (queue.map (·.id)).Nodup ∧
      ∀ other ∈ queue, ∀ row, findTaskById s.store other.id = some row →
        isEligible s.stage row = true := by
  have distinct := inv.distinct
  rw [head, List.map_cons, List.nodup_cons] at distinct
  refine ⟨distinct.1, distinct.2, fun other inside => ?_⟩
  exact inv.queue_eligible other (head ▸ List.mem_cons_of_mem candidate inside)

theorem PollInv.write {taskId : TaskId} {patch : TaskFieldsPatch} (inv : PollInv s)
    (nobody : NobodyTakes s (.write taskId patch)) :
    PollInv (execPoll coordinatorId s (.write taskId patch)) := by
  have keepsId : ∀ row : TaskRow, (row.set patch).id = row.id := fun _ => rfl
  refine ⟨(map_id_updateWhereId keepsId).symm ▸ inv.nodup, inv.distinct, ?_,
    inv.claimed_eligible, inv.started_eligible⟩
  intro candidate inside row found
  simp only [execPoll] at found ⊢
  rw [findTaskById_updateWhereId keepsId] at found
  obtain ⟨old, foundOld, rfl⟩ := Option.map_eq_some_iff.mp found
  have before := inv.queue_eligible candidate inside old foundOld
  split
  next same => exact nobody candidate inside same old (same ▸ foundOld) before
  next => exact before

theorem PollInv.list (inv : PollInv s) (idle : s.claimed = none) (stage : CoordinatorStage)
    (limit : Nat) : PollInv (execPoll coordinatorId s (.list stage limit)) := by
  refine ⟨inv.nodup, listing_nodup inv.nodup stage limit, ?_, ?_, inv.started_eligible⟩
  · intro candidate inside row found
    obtain ⟨stored, eligible⟩ := mem_listing inside
    simp only [execPoll] at found ⊢
    rw [findTaskById_of_mem inv.nodup stored] at found
    rwa [← Option.some.inj found]
  · intro start claimed
    simp [execPoll, idle] at claimed

theorem PollInv.skip (inv : PollInv s) : PollInv (execPoll coordinatorId s .skip) := by
  have later : s.queue.tail ⊆ s.queue := List.tail_subset s.queue
  refine ⟨inv.nodup, ((List.tail_sublist s.queue).map _).nodup inv.distinct, ?_, ?_,
    inv.started_eligible⟩
  · exact fun candidate inside => inv.queue_eligible candidate (later inside)
  · intro start claimed
    obtain ⟨eligible, other⟩ := inv.claimed_eligible start claimed
    exact ⟨eligible, fun inside => other (List.map_subset _ later inside)⟩

theorem PollInv.gate (inv : PollInv s) (idle : s.claimed = none) (blockedReason : String)
    (retryAfter : Option Nat) :
    PollInv (execPoll coordinatorId s (.gate blockedReason retryAfter)) := by
  simp only [execPoll]
  split
  · exact inv
  next candidate queue head =>
    obtain ⟨other, distinct, eligible⟩ := inv.tail head
    refine ⟨map_id_updateWhere.symm ▸ inv.nodup, distinct, ?_, by simp [idle],
      inv.started_eligible⟩
    refine queue_eligible_updateWhere eligible fun later inside row found holds => ?_
    have named : row.id = candidate.id := by
      simp only [isGateEligible, runtimeGateBlock, Bool.and_eq_true, beq_iff_eq] at holds
      exact holds.1.1.1.1.1.1
    rw [(findTaskById_some found).2] at named
    exact absurd (List.mem_map.mpr ⟨later, inside, named⟩) other

theorem PollInv.blockNoRuntime (inv : PollInv s) (idle : s.claimed = none)
    (blockedReason : String) :
    PollInv (execPoll coordinatorId s (.blockNoRuntime blockedReason)) := by
  simp only [execPoll]
  split
  · exact inv
  next candidate queue head =>
    obtain ⟨other, distinct, eligible⟩ := inv.tail head
    refine ⟨(map_id_updateWhereId fun row => id_updateTaskStatus row _ _ _).symm ▸ inv.nodup,
      distinct, ?_, by simp [idle], inv.started_eligible⟩
    exact queue_eligible_updateWhereId (fun row => id_updateTaskStatus row _ _ _) eligible other

theorem PollInv.claim (inv : PollInv s) (lockDurationMs : Nat) :
    PollInv (execPoll coordinatorId s (.claim lockDurationMs)) := by
  simp only [execPoll]
  split
  · exact inv
  next candidate queue head =>
    obtain ⟨other, distinct, eligible⟩ := inv.tail head
    refine ⟨map_id_updateWhere.symm ▸ inv.nodup, distinct, ?_, ?_, inv.started_eligible⟩
    · exact queue_eligible_updateWhere eligible fun _ _ _ _ _ => isEligible_set rfl rfl rfl
    · intro start claimed
      dsimp only at claimed
      split at claimed
      next =>
        obtain ⟨row, found, rfl⟩ := Option.map_eq_some_iff.mp claimed
        refine ⟨?_, other⟩
        exact inv.queue_eligible candidate (head ▸ List.mem_cons_self) row found
      next => cases claimed

theorem PollInv.release (inv : PollInv s) : PollInv (execPoll coordinatorId s .release) := by
  simp only [execPoll]
  split
  · exact inv
  next start claimed =>
    refine ⟨map_id_updateWhere.symm ▸ inv.nodup, inv.distinct, ?_, by simp, inv.started_eligible⟩
    exact queue_eligible_updateWhere inv.queue_eligible fun _ _ _ _ _ => isEligible_set rfl rfl rfl

theorem PollInv.start (inv : PollInv s) (env : StartEnv) :
    PollInv (execPoll coordinatorId s (.start env)) := by
  simp only [execPoll]
  split
  · exact inv
  next start claimed =>
    obtain ⟨eligible, other⟩ := inv.claimed_eligible start claimed
    split
    · refine ⟨(map_id_updateWhereId fun row => id_updateTaskStatus row _ _ _).symm ▸ inv.nodup,
        inv.distinct, ?_, by simp, ?_⟩
      · exact queue_eligible_updateWhereId (fun row => id_updateTaskStatus row _ _ _)
          inv.queue_eligible other
      · intro begun inside
        rcases List.mem_append.mp inside with before | now
        · exact inv.started_eligible begun before
        · rw [List.mem_singleton.mp now]
          exact eligible
    · exact ⟨inv.nodup, inv.distinct, inv.queue_eligible, by simp, inv.started_eligible⟩

theorem PollInv.step {op : PollOp} (inv : PollInv s) (may : mayPoll s op = true)
    (nobody : NobodyTakes s op) : PollInv (execPoll coordinatorId s op) := by
  have idle : s.claimed.isNone = true → s.claimed = none := Option.isNone_iff_eq_none.mp
  cases op with
  | tick ms =>
    exact ⟨inv.nodup, inv.distinct, inv.queue_eligible, inv.claimed_eligible,
      inv.started_eligible⟩
  | write taskId patch => exact inv.write nobody
  | list stage limit => exact inv.list (idle may) stage limit
  | skip => exact inv.skip
  | gate blockedReason retryAfter => exact inv.gate (idle may) blockedReason retryAfter
  | blockNoRuntime blockedReason => exact inv.blockNoRuntime (idle may) blockedReason
  | claim lockDurationMs => exact inv.claim lockDurationMs
  | release => exact inv.release
  | start env => exact inv.start env

/-- In a pass during which nobody takes a listed task out of its stage before its
turn, every stage starts on a task whose row was eligible when it was claimed. -/
theorem started_eligible_of_reaches (reached : Reaches (pollSystem coordinatorId) NobodyTakes s) :
    ∀ start ∈ s.started, stageFilter start.stage start.stored = true ∧
      start.stored.paused = false := by
  have inv : PollInv s := by
    refine reached.invariant (fun s => pollInv_start) ?_
    rintro s op _ inv nobody ⟨may, rfl⟩
    exact inv.step may nobody
  intro start begun
  simpa [isEligible] using inv.started_eligible start begun

end Invariant

/-! ### A cancelled candidate -/

/-- One task in planning, and a pass that has not begun. -/
def beforePass : PollState where
  now := 0
  store := [{ id := "task", projectId := "project", status := .planning }]

/-- The pass lists the task, claims it and starts the planner. -/
def undisturbedPass : List PollOp := [.list .planner 5, .claim 1000, .start {}]

/-- The same pass, but the operator cancels the task after it was listed. -/
def cancelledPass : List PollOp :=
  [.list .planner 5,
    .write "task" (StateMachine.cancelPatch
      { id := "task", projectId := "project", status := .planning }),
    .claim 1000, .start {}]

theorem beforePass_init : (pollSystem "coordinator").init beforePass :=
  ⟨by decide, rfl, rfl, rfl⟩

/-- An admitted pass: the planner starts on a task in planning. -/
theorem started_eligible_undisturbed :
    ((undisturbedPass.foldl (execPoll "coordinator") beforePass).started.all fun start =>
      stageFilter start.stage start.stored && !start.stored.paused) = true := by
  refine List.all_eq_true.mpr fun start inside => ?_
  have eligible := started_eligible_of_reaches (reaches_runs
    (fun s op => mayPoll s op && isOwnStep op) (execPoll "coordinator") (fun s op checked => by
      rw [Bool.and_eq_true] at checked
      exact ⟨nobodyTakes_of_own checked.2, checked.1, rfl⟩)
    (.init beforePass_init) (by decide)) start inside
  rw [eligible.1, eligible.2]
  rfl

/-- The claim succeeds on the cancelled and paused task, and the planner starts. -/
theorem cancelled_candidate_started :
    ¬ ∀ s : PollState, Reachable (pollSystem "coordinator") s → ∀ start ∈ s.started,
      stageFilter start.stage start.stored = true ∧ start.stored.paused = false := by
  intro eligible
  have reached : Reachable (pollSystem "coordinator")
      (cancelledPass.foldl (execPoll "coordinator") beforePass) := by
    refine reaches_runs mayPoll (execPoll "coordinator") ?_ (.init beforePass_init)
      (by decide)
    intro s op may
    exact ⟨trivial, may, rfl⟩
  have paused : ((cancelledPass.foldl (execPoll "coordinator") beforePass).started.map
      (·.stored.paused)) = [true] := by decide
  obtain ⟨start, inside, isPaused⟩ := List.mem_map.mp (paused ▸ List.mem_singleton_self true)
  rw [(eligible _ reached start inside).2] at isPaused
  cases isPaused

end AifHandoff.System
