import AifHandoff.Data.Claims
import AifHandoff.Lib.Lease
import AifHandoff.Lib.Transition

/-!
Coordinator runs that claim tasks.

Any number of runs list, claim, renew and release tasks while time passes and stale
claims are swept; each statement is one step. A run is one pass of a coordinator
process over a task: overlapping passes of one process are different runs with one
`coordinatorId`. What the runs believe stands beside the rows, as a lease per task
(`AifHandoff.Lease`) whose tags are the coordinator ids.
-/

namespace AifHandoff.System

open Transition Data

abbrev RunId := Nat

/-- The table, the clock, what each run has listed, and the lease of each task. -/
structure ClaimState where
  now : Nat
  store : TaskStore
  candidates : RunId → List TaskRow
  lease : TaskId → Lease RunId String

inductive ClaimOp where
  | tick (ms : Nat)
  | find (run : RunId) (stage : CoordinatorStage) (limit : Nat)
  | claim (run : RunId) (taskId : TaskId) (lockDurationMs : Nat) (stage : CoordinatorStage)
  | renew (run : RunId) (taskId : TaskId) (lockDurationMs : Nat)
  | release (run : RunId) (taskId : TaskId)
  | releaseStale

section Runs

variable (coordinatorOf : RunId → String)

/-- One statement. The lease follows the result that the statement returns. -/
def execClaim (s : ClaimState) : ClaimOp → ClaimState
  | .tick ms => { s with now := s.now + ms }
  | .find run stage limit =>
    { s with
      candidates := Function.update s.candidates run
        (findCoordinatorTaskCandidates s.store stage limit s.now) }
  | .claim run taskId lockDurationMs stage =>
    let (store, claimed) := claimTask s.store taskId (coordinatorOf run) lockDurationMs stage s.now
    { s with
      store
      lease := if claimed then
        Function.update s.lease taskId (Lease.claim coordinatorOf run (s.lease taskId))
        else s.lease }
  | .renew run taskId lockDurationMs =>
    { s with store := renewTaskClaim s.store taskId (coordinatorOf run) lockDurationMs s.now }
  | .release run taskId =>
    { s with
      store := (releaseTaskClaim s.store taskId (coordinatorOf run) s.now).1
      lease := Function.update s.lease taskId
        (Lease.release coordinatorOf run (s.lease taskId)) }
  | .releaseStale =>
    { s with
      store := releaseStaleTaskClaims s.store s.now
      lease := fun taskId =>
        if (findTaskById s.store taskId).any (isStaleClaim s.now) then
          Lease.lose .swept (s.lease taskId)
        else s.lease taskId }

/-- A run claims what it has listed, and renews and releases what it believes to
have claimed. -/
def mayClaim (s : ClaimState) : ClaimOp → Bool
  | .claim run taskId _ _ => (s.candidates run).any (·.id == taskId)
  | .renew run taskId _ => ((s.lease taskId).claims run).isSome
  | .release run taskId => ((s.lease taskId).claims run).isSome
  | _ => true

/-- Nobody has claimed yet; locks of earlier processes may be left. -/
def ClaimState.Start (s : ClaimState) : Prop :=
  (s.store.map (·.id)).Nodup ∧ (∀ run, s.candidates run = []) ∧
    ∀ taskId, s.lease taskId =
      ⟨(findTaskById s.store taskId).bind (·.lockedBy), none, fun _ => none⟩

def claimSystem : System ClaimState ClaimOp where
  init := ClaimState.Start
  step s op s' := mayClaim s op = true ∧ s' = execClaim coordinatorOf s op

/-- The leases describe the table. -/
structure ClaimsInv (s : ClaimState) : Prop where
  distinct : (s.store.map (·.id)).Nodup
  lock_eq : ∀ taskId, (s.lease taskId).lock = (findTaskById s.store taskId).bind (·.lockedBy)
  sound : ∀ taskId, Lease.Sound coordinatorOf (s.lease taskId)

end Runs

/-! ### The invariant -/

section Invariant

variable {coordinatorOf : RunId → String} {s : ClaimState}

/-- The lock column of a task after a statement. -/
theorem lockedBy_updateWhere {store : TaskStore} {condition : TaskRow → Bool}
    {patch : TaskFieldsPatch} {taskId : TaskId} :
    (findTaskById (updateWhere store condition patch) taskId).bind (·.lockedBy) =
      (findTaskById store taskId).bind fun row =>
        if condition row then patch.lockedBy.getD row.lockedBy else row.lockedBy := by
  rw [findTaskById_updateWhere]
  cases findTaskById store taskId with
  | none => rfl
  | some row =>
    simp only [Option.map_some, Option.bind_some]
    split <;> rfl

theorem claimsInv_start (start : ClaimState.Start s) : ClaimsInv coordinatorOf s := by
  obtain ⟨distinct, -, leases⟩ := start
  refine ⟨distinct, fun taskId => by rw [leases], fun taskId => ?_⟩
  rw [leases]
  exact ⟨by simp, by simp, fun _ _ _ => rfl⟩

theorem ClaimsInv.claim (inv : ClaimsInv coordinatorOf s) (run : RunId) (taskId : TaskId)
    (lockDurationMs : Nat) (stage : CoordinatorStage) :
    ClaimsInv coordinatorOf
      (execClaim coordinatorOf s (.claim run taskId lockDurationMs stage)) := by
  refine ⟨by simpa [execClaim, claimTask, map_id_updateWhere] using inv.distinct, ?_, ?_⟩
  · intro other
    simp only [execClaim]
    by_cases claimed : (claimTask s.store taskId (coordinatorOf run) lockDurationMs stage
        s.now).2 = true
    · rw [if_pos claimed]
      obtain ⟨row, found, executable, unlocked⟩ := (claimTask_iff inv.distinct _ _ _).mp claimed
      rw [claimTask, lockedBy_updateWhere]
      by_cases same : other = taskId
      · subst same
        have claimable : isClaimable other s.now row = true := by
          simp [isClaimable, (findTaskById_some found).2, executable, unlocked]
        simp [found, claimable, claimPatch, Lease.claim]
      · rw [Function.update_of_ne same, inv.lock_eq]
        apply Option.bind_congr
        intro row' found'
        have notNamed : isClaimable taskId s.now row' = false := by
          simp [isClaimable, (findTaskById_some found').2, same]
        simp [notNamed]
    · rw [if_neg claimed, inv.lock_eq, claimTask, lockedBy_updateWhere]
      apply Option.bind_congr
      intro row' found'
      have missed : isClaimable taskId s.now row' = false := by
        by_contra hit
        rw [Bool.not_eq_false] at hit
        exact claimed (List.any_eq_true.mpr ⟨row', List.mem_of_find?_eq_some found', hit⟩)
      simp [missed]
  · intro other
    simp only [execClaim]
    split
    · by_cases same : other = taskId
      · subst same
        rw [Function.update_self]
        exact (inv.sound other).claim run
      · rw [Function.update_of_ne same]
        exact inv.sound other
    · exact inv.sound other

theorem ClaimsInv.renew (inv : ClaimsInv coordinatorOf s) (run : RunId) (taskId : TaskId)
    (lockDurationMs : Nat) :
    ClaimsInv coordinatorOf (execClaim coordinatorOf s (.renew run taskId lockDurationMs)) := by
  refine ⟨by simpa [execClaim, renewTaskClaim, map_id_updateWhere] using inv.distinct, ?_,
    inv.sound⟩
  intro other
  simp only [execClaim]
  rw [inv.lock_eq, renewTaskClaim, lockedBy_updateWhere]
  simp

theorem ClaimsInv.release (inv : ClaimsInv coordinatorOf s) (run : RunId) (taskId : TaskId) :
    ClaimsInv coordinatorOf (execClaim coordinatorOf s (.release run taskId)) := by
  refine ⟨by simpa [execClaim, releaseTaskClaim, map_id_updateWhere] using inv.distinct, ?_, ?_⟩
  · intro other
    simp only [execClaim]
    rw [releaseTaskClaim, lockedBy_updateWhere]
    by_cases same : other = taskId
    · subst same
      rw [Function.update_self, Lease.lock_release, inv.lock_eq]
      cases found : findTaskById s.store other with
      | none => simp
      | some row => simp [isOwned, (findTaskById_some found).2, releasePatch]
    · rw [Function.update_of_ne same, inv.lock_eq]
      apply Option.bind_congr
      intro row found
      have notNamed : isOwned taskId (coordinatorOf run) row = false := by
        simp [isOwned, (findTaskById_some found).2, same]
      simp [notNamed]
  · intro other
    simp only [execClaim]
    by_cases same : other = taskId
    · subst same
      rw [Function.update_self]
      exact (inv.sound other).release run
    · rw [Function.update_of_ne same]
      exact inv.sound other

theorem ClaimsInv.releaseStale (inv : ClaimsInv coordinatorOf s) :
    ClaimsInv coordinatorOf (execClaim coordinatorOf s .releaseStale) := by
  refine ⟨by simpa [execClaim, releaseStaleTaskClaims, map_id_updateWhere] using inv.distinct,
    ?_, ?_⟩
  · intro other
    simp only [execClaim]
    rw [releaseStaleTaskClaims, lockedBy_updateWhere]
    cases found : findTaskById s.store other with
    | none => simp [inv.lock_eq, found]
    | some row =>
      cases stale : isStaleClaim s.now row <;>
        simp [inv.lock_eq, found, stale, releasePatch, Lease.lose]
  · intro other
    simp only [execClaim]
    split
    · exact (inv.sound other).lose .swept
    · exact inv.sound other

theorem ClaimsInv.step (inv : ClaimsInv coordinatorOf s) (op : ClaimOp) :
    ClaimsInv coordinatorOf (execClaim coordinatorOf s op) := by
  cases op with
  | tick ms => exact ⟨inv.distinct, inv.lock_eq, inv.sound⟩
  | find run stage limit => exact ⟨inv.distinct, inv.lock_eq, inv.sound⟩
  | claim run taskId lockDurationMs stage => exact inv.claim run taskId lockDurationMs stage
  | renew run taskId lockDurationMs => exact inv.renew run taskId lockDurationMs
  | release run taskId => exact inv.release run taskId
  | releaseStale => exact inv.releaseStale

theorem claimsInv_of_reaches {ok : ClaimState → ClaimOp → Prop}
    (reached : Reaches (claimSystem coordinatorOf) ok s) : ClaimsInv coordinatorOf s := by
  refine reached.invariant (fun s => claimsInv_start) ?_
  rintro s op _ inv - ⟨-, rfl⟩
  exact inv.step op

end Invariant

/-! ### Fencing -/

section Fencing

variable (coordinatorOf : RunId → String)

/-- The run has claimed the task and not released it. -/
def Believes (s : ClaimState) (run : RunId) (taskId : TaskId) : Prop :=
  (s.lease taskId).claims run ≠ none

/-- The run's claim is the live one. -/
def HoldsLive (s : ClaimState) (run : RunId) (taskId : TaskId) : Prop :=
  (s.lease taskId).claims run = some .live

/-- A release or a renewal that the run may issue would change the table. -/
def ReleaseOrRenewChanges (s : ClaimState) (run : RunId) (taskId : TaskId) : Prop :=
  (releaseTaskClaim s.store taskId (coordinatorOf run) s.now).1 ≠ s.store ∨
    ∃ lockDurationMs,
      renewTaskClaim s.store taskId (coordinatorOf run) lockDurationMs s.now ≠ s.store

/-- The steps that take a live claim from a run. -/
inductive TakesClaim (s : ClaimState) (run : RunId) (taskId : TaskId) : ClaimOp → Prop where
  | own : TakesClaim s run taskId (.release run taskId)
  | expired {other : RunId} {lockDurationMs : Nat} {stage : CoordinatorStage} {row : TaskRow} :
      findTaskById s.store taskId = some row → row.lockedUntil.any (· ≤ s.now) = true →
      TakesClaim s run taskId (.claim other taskId lockDurationMs stage)
  | swept {row : TaskRow} : findTaskById s.store taskId = some row → isStaleClaim s.now row = true →
      TakesClaim s run taskId .releaseStale
  | freed {other : RunId} {how : Lease.Loss} : coordinatorOf other = coordinatorOf run →
      (s.lease taskId).claims other = some (.lost how) →
      TakesClaim s run taskId (.release other taskId)

variable {coordinatorOf} {s : ClaimState} {run : RunId} {taskId : TaskId}

theorem ClaimsInv.lock_of_changes (inv : ClaimsInv coordinatorOf s)
    (changes : ReleaseOrRenewChanges coordinatorOf s run taskId) :
    (s.lease taskId).lock = some (coordinatorOf run) := by
  have owned : ∃ row ∈ s.store, isOwned taskId (coordinatorOf run) row = true := by
    rcases changes with released | ⟨lockDurationMs, renewed⟩
    · exact exists_of_updateWhere_ne released
    · exact exists_of_updateWhere_ne renewed
  obtain ⟨row, inside, holds⟩ := owned
  obtain ⟨named, locked⟩ : row.id = taskId ∧ row.lockedBy = some (coordinatorOf run) := by
    simpa [isOwned] using holds
  rw [inv.lock_eq, ← named, findTaskById_of_mem inv.distinct inside]
  exact locked

/-- What takes a live claim from a run: its own release, a claim after the lock has
expired, the sweep of stale claims, or a release by a run of the same coordinator
whose own claim was lost. -/
theorem ClaimsInv.takes (inv : ClaimsInv coordinatorOf s) {op : ClaimOp}
    (may : mayClaim s op = true) (live : HoldsLive s run taskId)
    (gone : ¬ HoldsLive (execClaim coordinatorOf s op) run taskId) :
    TakesClaim coordinatorOf s run taskId op := by
  have held := ((inv.sound taskId).live_iff run).mp live
  have stored := (inv.sound taskId).lock_of_holder held
  rw [inv.lock_eq] at stored
  obtain ⟨row, found, locked⟩ := Option.bind_eq_some_iff.mp stored
  cases op with
  | tick ms => exact absurd live gone
  | find other stage limit => exact absurd live gone
  | renew other taskId' lockDurationMs => exact absurd live gone
  | claim other taskId' lockDurationMs stage =>
    simp only [HoldsLive, execClaim] at gone
    by_cases claimed : (claimTask s.store taskId' (coordinatorOf other) lockDurationMs stage
        s.now).2 = true
    · rw [if_pos claimed] at gone
      by_cases same : taskId = taskId'
      · subst same
        obtain ⟨row', found', -, unlocked⟩ := (claimTask_iff inv.distinct _ _ _).mp claimed
        rw [found] at found'
        obtain rfl := Option.some.inj found'
        refine .expired found ?_
        simpa [isUnlocked, locked] using unlocked
      · rw [Function.update_of_ne same] at gone
        exact absurd live gone
    · rw [if_neg claimed] at gone
      exact absurd live gone
  | release other taskId' =>
    simp only [HoldsLive, execClaim] at gone
    by_cases same : taskId = taskId'
    · subst same
      rw [Function.update_self] at gone
      by_cases own : run = other
      · subst own
        exact .own
      · have tags := (inv.sound taskId).live_of_release own live gone
        have believes : (s.lease taskId).claims other ≠ none := by
          simpa [mayClaim, Option.isSome_iff_ne_none] using may
        have stored' : (s.lease taskId).lock = some (coordinatorOf other) := by
          rw [inv.lock_eq, stored, tags]
        obtain ⟨h, held', -, mine | ⟨how, lost⟩⟩ := (inv.sound taskId).fence believes stored'
        · rw [held, mine] at held'
          exact absurd (Option.some.inj held') own
        · exact .freed tags lost
    · rw [Function.update_of_ne same] at gone
      exact absurd live gone
  | releaseStale =>
    refine .swept found ?_
    by_contra fresh
    apply gone
    simp only [HoldsLive, execClaim, found, Option.any_some]
    rw [if_neg fresh]
    exact live

/-- Claims are fenced by coordinator. A release or renewal changes a task's row only
if the live claim belongs to the issuing run, or to a run of its coordinator after
its own claim was lost; one claim at a time is live; and a run's live claim goes only
by its own release, by expiry, by the sweep, or by such a late release. -/
theorem claims_fenced_by_coordinator
    (reached : Reachable (claimSystem coordinatorOf) s) :
    (∀ run taskId, Believes s run taskId → ReleaseOrRenewChanges coordinatorOf s run taskId →
      ∃ holder, HoldsLive s holder taskId ∧ coordinatorOf holder = coordinatorOf run ∧
        (holder = run ∨ ∃ how, (s.lease taskId).claims run = some (.lost how))) ∧
    (∀ left right taskId, HoldsLive s left taskId → HoldsLive s right taskId → left = right) ∧
    (∀ op s' run taskId, (claimSystem coordinatorOf).step s op s' → HoldsLive s run taskId →
      ¬ HoldsLive s' run taskId → TakesClaim coordinatorOf s run taskId op) := by
  have inv := claimsInv_of_reaches reached
  refine ⟨?_, ?_, ?_⟩
  · intro run taskId believes changes
    obtain ⟨holder, held, sameTag, standing⟩ :=
      (inv.sound taskId).fence believes (inv.lock_of_changes changes)
    exact ⟨holder, ((inv.sound taskId).live_iff holder).mpr held, sameTag, standing⟩
  · intro left right taskId live live'
    exact (inv.sound taskId).live_unique live live'
  · rintro op _ run taskId ⟨may, rfl⟩ live gone
    exact inv.takes may live gone

end Fencing

/-! ### Two passes of one coordinator -/

/-- A task in planning that nobody has locked. -/
def planningState : ClaimState where
  now := 0
  store := [{ id := "task", projectId := "project", status := .planning }]
  candidates := fun _ => []
  lease := fun _ => ⟨none, none, fun _ => none⟩

theorem planningState_start : ClaimState.Start planningState := by
  refine ⟨by decide, fun _ => rfl, fun taskId => ?_⟩
  by_cases named : taskId = "task"
  · subst named
    rfl
  · have unknown : findTaskById planningState.store taskId = none := by
      simp [findTaskById, planningState, Ne.symm named]
    rw [unknown]
    rfl

/-- Run 1 claims the task, its lock expires, and run 2 lists and claims it. -/
def overlap : List ClaimOp :=
  [.find 1 .planner 1, .claim 1 "task" 1000 .planner, .tick 1000, .find 2 .planner 1,
    .claim 2 "task" 1000 .planner]

def overlapState : ClaimState := overlap.foldl (execClaim fun _ => "coordinator") planningState

theorem overlapState_reachable : Reachable (claimSystem fun _ => "coordinator") overlapState := by
  refine reaches_runs mayClaim (execClaim fun _ => "coordinator") ?_ (.init planningState_start)
    (by decide)
  intro s op may
  exact ⟨trivial, may, rfl⟩

theorem overlapState_believes : Believes overlapState 1 "task" := by
  unfold Believes
  decide

theorem overlapState_changes :
    ReleaseOrRenewChanges (fun _ => "coordinator") overlapState 1 "task" :=
  .inl (by decide +kernel)

theorem claims_fenced_by_coordinator_overlap : ∃ holder, HoldsLive overlapState holder "task" ∧
    (holder = 1 ∨ ∃ how, (overlapState.lease "task").claims 1 = some (.lost how)) := by
  obtain ⟨fence, -, -⟩ := claims_fenced_by_coordinator overlapState_reachable
  obtain ⟨holder, live, -, standing⟩ := fence 1 "task" overlapState_believes overlapState_changes
  exact ⟨holder, live, standing⟩

/-- Both passes believe to own the task, and the late release of the first would free
the claim of the second. -/
theorem shared_coordinator_unfenced :
    ∃ (coordinatorOf : RunId → String) (s : ClaimState) (first second : RunId) (taskId : TaskId),
      Reachable (claimSystem coordinatorOf) s ∧ first ≠ second ∧
        Believes s first taskId ∧ Believes s second taskId ∧
        ReleaseOrRenewChanges coordinatorOf s first taskId ∧ ¬ HoldsLive s first taskId ∧
        HoldsLive s second taskId := by
  refine ⟨fun _ => "coordinator", overlapState, 1, 2, "task", overlapState_reachable, by decide,
    overlapState_believes, ?_, overlapState_changes, ?_, ?_⟩
  · unfold Believes
    decide
  · unfold HoldsLive
    decide
  · unfold HoldsLive
    decide

end AifHandoff.System
