import AifHandoff.Lib.Transition
import Mathlib.Data.List.Nodup
import Mathlib.Tactic.SplitIfs

/-!
Split proposals and their decisions (`packages/data/src/index.ts`).

A creation reads the pending proposal of its key and inserts one when there is none; a
rejection reads the proposal, updates it if it is still pending and reads it again; an
approval is one transaction around the callback that creates the tasks. Every statement, and
the transaction, is one step, and the calls of several processes take their steps in any
order.

The JSON columns hold typed values. What the callback writes is a store of its own.
-/

namespace AifHandoff.Data.SplitProposals

open Transition

inductive ProposalStatus where
  | pending
  | approved
  | rejected
  deriving DecidableEq, Repr

/-- What at most one pending proposal shares. -/
structure ProposalKey where
  projectId : String
  sourceKind : String
  roadmapAlias : String
  taskIntent : String
  deriving DecidableEq

structure TaskSplitProposal (χ : Type) where
  id : String
  parentTaskId : Option String
  key : ProposalKey
  sourceRef : String
  sourceFingerprint : String
  status : ProposalStatus
  summary : String
  proposedChildren : List χ
  createdTaskIds : List String
  containerTaskId : Option String
  approvedBy : Option String
  rejectedReason : Option String
  createdAt : String
  updatedAt : String
  approvedAt : Option String
  rejectedAt : Option String

structure CreateTaskSplitProposalInput (χ : Type) where
  key : ProposalKey
  parentTaskId : Option String
  sourceRef : String
  sourceFingerprint : String
  summary : String
  proposedChildren : List χ

/-- What a callback hands back. -/
structure CreatedTasks where
  taskIds : List String
  containerTaskId : Option String

/-- What a call returns. -/
inductive Result (χ : Type) where
  | created (input : CreateTaskSplitProposalInput χ) (proposal : TaskSplitProposal χ)
  | reused (input : CreateTaskSplitProposalInput χ) (proposal : TaskSplitProposal χ)
  | createConflict (input : CreateTaskSplitProposalInput χ) (proposal : TaskSplitProposal χ)
  | rejected (proposal : TaskSplitProposal χ)
  | alreadyRejected (proposal : TaskSplitProposal χ)
  | rejectConflict (proposal : TaskSplitProposal χ)
  | approved (proposal : TaskSplitProposal χ)
  | alreadyApproved (proposal : TaskSplitProposal χ)
  | approveConflict (proposal : TaskSplitProposal χ)
  | notFound (projectId proposalId : String)
  | thrown

/-- Where a call is between its statements. -/
inductive CallState (χ : Type) where
  | idle
  /-- No pending proposal was read. -/
  | inserting (input : CreateTaskSplitProposalInput χ)
  | inserted (input : CreateTaskSplitProposalInput χ) (id : String)
  /-- A pending proposal was read. -/
  | rejecting (projectId proposalId : String) (reason : Option String)
  | updated (projectId proposalId : String)
  | returned (result : Result χ)

/-- The proposals, the callback's store, the calls, and the approvals that have committed,
each with its caller and its proposal. -/
structure State (χ τ : Type) where
  rows : List (TaskSplitProposal χ)
  tasks : τ
  calls : Nat → CallState χ
  commits : List (Nat × String)

/-- A statement of a call, with what it draws. -/
inductive Label (χ τ : Type) where
  | createRead (caller : Nat) (input : CreateTaskSplitProposalInput χ)
  | createInsert (caller : Nat) (id nowIso : String)
  | createResult (caller : Nat)
  | rejectRead (caller : Nat) (projectId proposalId : String) (reason : Option String)
  | rejectUpdate (caller : Nat) (nowIso : String)
  | rejectResult (caller : Nat)
  | approve (caller : Nat) (projectId proposalId : String) (approvedBy : Option String)
      (createTasks : TaskSplitProposal χ → τ → Except String (τ × CreatedTasks)) (nowIso : String)

section Statements

variable {χ τ : Type}

def findTaskSplitProposalRow (rows : List (TaskSplitProposal χ)) (projectId proposalId : String) :
    Option (TaskSplitProposal χ) :=
  rows.find? fun row => row.key.projectId = projectId && row.id = proposalId

/-- The pending proposal of a key, the latest one. -/
def findPending (rows : List (TaskSplitProposal χ)) (key : ProposalKey) :
    Option (TaskSplitProposal χ) :=
  ((rows.filter fun row => row.key = key && row.status = .pending).mergeSort
    fun left right => right.createdAt ≤ left.createdAt).head?

def newProposal (input : CreateTaskSplitProposalInput χ) (id nowIso : String) :
    TaskSplitProposal χ where
  id
  parentTaskId := input.parentTaskId
  key := input.key
  sourceRef := input.sourceRef
  sourceFingerprint := input.sourceFingerprint
  status := .pending
  summary := input.summary
  proposedChildren := input.proposedChildren
  createdTaskIds := []
  containerTaskId := none
  approvedBy := none
  rejectedReason := none
  createdAt := nowIso
  updatedAt := nowIso
  approvedAt := none
  rejectedAt := none

/-- The rows that a decision updates. -/
def isPendingRow (projectId proposalId : String) (row : TaskSplitProposal χ) : Bool :=
  row.id = proposalId && row.key.projectId = projectId && row.status = .pending

def decide_ (change : TaskSplitProposal χ → TaskSplitProposal χ) (projectId proposalId : String)
    (rows : List (TaskSplitProposal χ)) : List (TaskSplitProposal χ) :=
  rows.map fun row => if isPendingRow projectId proposalId row then change row else row

def rejection (reason : Option String) (nowIso : String) (row : TaskSplitProposal χ) :
    TaskSplitProposal χ :=
  { row with
    status := .rejected
    rejectedReason := reason
    rejectedAt := some nowIso
    updatedAt := nowIso }

/-- The container and the tasks, each once. -/
def createdTaskIds (created : CreatedTasks) : List String :=
  ((created.containerTaskId.toList ++ created.taskIds).filter (!·.isEmpty)).eraseDups

def approval (created : CreatedTasks) (approvedBy : Option String) (nowIso : String)
    (row : TaskSplitProposal χ) : TaskSplitProposal χ :=
  { row with
    status := .approved
    createdTaskIds := createdTaskIds created
    containerTaskId := created.containerTaskId
    approvedBy
    approvedAt := some nowIso
    updatedAt := nowIso }

/-- What the transaction of an approval commits: the rows, the store and the approved row. -/
def approveTaskSplitProposal (projectId proposalId : String) (approvedBy : Option String)
    (createTasks : TaskSplitProposal χ → τ → Except String (τ × CreatedTasks)) (nowIso : String)
    (rows : List (TaskSplitProposal χ)) (tasks : τ) :
    Except (Result χ) (List (TaskSplitProposal χ) × τ × TaskSplitProposal χ) :=
  match findTaskSplitProposalRow rows projectId proposalId with
  | none => .error (.notFound projectId proposalId)
  | some existing => match existing.status with
    | .approved => .error (.alreadyApproved existing)
    | .rejected => .error (.approveConflict existing)
    | .pending => match createTasks existing tasks with
      | .error _ => .error .thrown
      | .ok (tasks, created) =>
        if (rows.filter (isPendingRow projectId proposalId)).length ≠ 1 then .error .thrown
        else
          let rows := decide_ (approval created approvedBy nowIso) projectId proposalId rows
          match findTaskSplitProposalRow rows projectId proposalId with
          | none => .error .thrown
          | some approved => .ok (rows, tasks, approved)

def setCall (s : State χ τ) (caller : Nat) (call : CallState χ) : State χ τ :=
  { s with calls := fun other => if other = caller then call else s.calls other }

/-- A call that returns. -/
def finish (s : State χ τ) (caller : Nat) (result : Result χ) : State χ τ :=
  setCall s caller (.returned result)

/-- One statement, if the call is where the statement stands. -/
def exec (s : State χ τ) : Label χ τ → Option (State χ τ)
  | .createRead caller input => match s.calls caller with
    | .idle => match findPending s.rows input.key with
      | none => some (setCall s caller (.inserting input))
      | some existing =>
        if existing.sourceFingerprint = input.sourceFingerprint then
          some (finish s caller (.reused input existing))
        else some (finish s caller (.createConflict input existing))
    | _ => none
  | .createInsert caller id nowIso => match s.calls caller with
    | .inserting input =>
      -- the id is the primary key
      if s.rows.any (·.id = id) then some (finish s caller .thrown)
      else some (setCall { s with rows := s.rows ++ [newProposal input id nowIso] } caller
        (.inserted input id))
    | _ => none
  | .createResult caller => match s.calls caller with
    | .inserted input id => match findTaskSplitProposalRow s.rows input.key.projectId id with
      | none => some (finish s caller .thrown)
      | some created => some (finish s caller (.created input created))
    | _ => none
  | .rejectRead caller projectId proposalId reason => match s.calls caller with
    | .idle => match findTaskSplitProposalRow s.rows projectId proposalId with
      | none => some (finish s caller (.notFound projectId proposalId))
      | some existing => match existing.status with
        | .rejected => some (finish s caller (.alreadyRejected existing))
        | .approved => some (finish s caller (.rejectConflict existing))
        | .pending => some (setCall s caller (.rejecting projectId proposalId reason))
    | _ => none
  | .rejectUpdate caller nowIso => match s.calls caller with
    | .rejecting projectId proposalId reason => some (setCall
        { s with rows := decide_ (rejection reason nowIso) projectId proposalId s.rows } caller
        (.updated projectId proposalId))
    | _ => none
  | .rejectResult caller => match s.calls caller with
    | .updated projectId proposalId =>
      match findTaskSplitProposalRow s.rows projectId proposalId with
      | none => some (finish s caller (.notFound projectId proposalId))
      | some rejected => some (finish s caller (.rejected rejected))
    | _ => none
  | .approve caller projectId proposalId approvedBy createTasks nowIso =>
    match s.calls caller with
    | .idle =>
      match approveTaskSplitProposal projectId proposalId approvedBy createTasks nowIso
          s.rows s.tasks with
      | .error result => some (finish s caller result)
      | .ok (rows, tasks, approved) => some (finish
          { s with rows, tasks, commits := s.commits ++ [(caller, proposalId)] } caller
          (.approved approved))
    | _ => none

/-- Nothing is proposed and nothing is called. -/
def Initial (s : State χ τ) : Prop := s.rows = [] ∧ s.commits = [] ∧ ∀ caller, s.calls caller = .idle

def proposalSystem (χ τ : Type) : System (State χ τ) (Label χ τ) :=
  ⟨Initial, fun s label s' => exec s label = some s'⟩

end Statements

/-! ### Rows -/

section Rows

variable {χ : Type} {rows : List (TaskSplitProposal χ)} {row : TaskSplitProposal χ}
  {projectId proposalId : String} {change : TaskSplitProposal χ → TaskSplitProposal χ}

theorem mem_of_findTaskSplitProposalRow
    (found : findTaskSplitProposalRow rows projectId proposalId = some row) :
    row ∈ rows ∧ row.key.projectId = projectId ∧ row.id = proposalId := by
  have matches_ := List.find?_some found
  rw [Bool.and_eq_true, decide_eq_true_eq, decide_eq_true_eq] at matches_
  exact ⟨List.mem_of_find?_eq_some found, matches_.1, matches_.2⟩

theorem eq_of_id (distinct : (rows.map (·.id)).Nodup) {other : TaskSplitProposal χ}
    (inside : row ∈ rows) (inside' : other ∈ rows) (same : row.id = other.id) : row = other :=
  List.inj_on_of_nodup_map distinct inside inside' same

theorem findTaskSplitProposalRow_of_mem (distinct : (rows.map (·.id)).Nodup) (inside : row ∈ rows) :
    findTaskSplitProposalRow rows row.key.projectId row.id = some row := by
  cases found : findTaskSplitProposalRow rows row.key.projectId row.id with
  | none =>
    have absent := List.find?_eq_none.mp found row inside
    simp at absent
  | some other =>
    obtain ⟨inside', -, same⟩ := mem_of_findTaskSplitProposalRow found
    rw [eq_of_id distinct inside' inside same]

theorem findPending_mem {key : ProposalKey} (found : findPending rows key = some row) :
    row ∈ rows ∧ row.key = key ∧ row.status = .pending := by
  have listed := List.mem_of_mem_head? (Option.mem_def.mpr found)
  rw [List.mem_mergeSort, List.mem_filter, Bool.and_eq_true, decide_eq_true_eq,
    decide_eq_true_eq] at listed
  exact ⟨listed.1, listed.2.1, listed.2.2⟩

theorem isPendingRow_iff : isPendingRow projectId proposalId row = true ↔
    row.id = proposalId ∧ row.key.projectId = projectId ∧ row.status = .pending := by
  simp [isPendingRow, and_assoc]

/-- A change that keeps what a proposal is. -/
structure KeepsIdentity (change : TaskSplitProposal χ → TaskSplitProposal χ) : Prop where
  id : ∀ row, (change row).id = row.id
  key : ∀ row, (change row).key = row.key
  fingerprint : ∀ row, (change row).sourceFingerprint = row.sourceFingerprint

theorem rejection_keeps (reason : Option String) (nowIso : String) :
    KeepsIdentity (rejection (χ := χ) reason nowIso) where
  id _ := rfl
  key _ := rfl
  fingerprint _ := rfl

theorem approval_keeps (created : CreatedTasks) (approvedBy : Option String) (nowIso : String) :
    KeepsIdentity (approval (χ := χ) created approvedBy nowIso) where
  id _ := rfl
  key _ := rfl
  fingerprint _ := rfl

theorem mem_decide_ : row ∈ decide_ change projectId proposalId rows ↔
    ∃ old ∈ rows, (isPendingRow projectId proposalId old = true ∧ row = change old) ∨
      (isPendingRow projectId proposalId old = false ∧ row = old) := by
  rw [decide_, List.mem_map]
  constructor
  · rintro ⟨old, inside, rfl⟩
    cases pending : isPendingRow projectId proposalId old with
    | true => exact ⟨old, inside, .inl ⟨pending, rfl⟩⟩
    | false => exact ⟨old, inside, .inr ⟨pending, rfl⟩⟩
  · rintro ⟨old, inside, ⟨pending, rfl⟩ | ⟨pending, rfl⟩⟩
    · exact ⟨old, inside, by rw [if_pos pending]⟩
    · exact ⟨row, inside, by rw [pending, if_neg Bool.false_ne_true]⟩

theorem map_id_decide_ (keeps : KeepsIdentity change) :
    (decide_ change projectId proposalId rows).map (·.id) = rows.map (·.id) := by
  rw [decide_, List.map_map]
  refine List.map_congr_left fun row _ => ?_
  rw [Function.comp_apply]
  split_ifs
  · exact keeps.id row
  · rfl

/-- Every proposal is still there, a decided one as it was. -/
def Extends (rows rows' : List (TaskSplitProposal χ)) : Prop :=
  ∀ row ∈ rows, ∃ row' ∈ rows', row'.id = row.id ∧ row'.key = row.key ∧
    row'.sourceFingerprint = row.sourceFingerprint ∧ (row.status ≠ .pending → row' = row)

theorem Extends.refl (rows : List (TaskSplitProposal χ)) : Extends rows rows :=
  fun row inside => ⟨row, inside, rfl, rfl, rfl, fun _ => rfl⟩

theorem extends_append (more : List (TaskSplitProposal χ)) : Extends rows (rows ++ more) :=
  fun row inside => ⟨row, List.mem_append_left _ inside, rfl, rfl, rfl, fun _ => rfl⟩

theorem extends_decide_ (keeps : KeepsIdentity change) :
    Extends rows (decide_ change projectId proposalId rows) := by
  intro row inside
  cases pending : isPendingRow projectId proposalId row with
  | true =>
    refine ⟨change row, mem_decide_.mpr ⟨row, inside, .inl ⟨pending, rfl⟩⟩, keeps.id row,
      keeps.key row, keeps.fingerprint row, fun decided => ?_⟩
    exact absurd (isPendingRow_iff.mp pending).2.2 decided
  | false =>
    exact ⟨row, mem_decide_.mpr ⟨row, inside, .inr ⟨pending, rfl⟩⟩, rfl, rfl, rfl, fun _ => rfl⟩

/-- A decided proposal stays as it is. -/
theorem Extends.decided {rows' : List (TaskSplitProposal χ)} (extends_ : Extends rows rows')
    (inside : row ∈ rows) (decided : row.status ≠ .pending) : row ∈ rows' := by
  obtain ⟨row', inside', -, -, -, same⟩ := extends_ row inside
  rw [← same decided]
  exact inside'

end Rows

/-! ### What holds between the steps -/

section Sound

variable {χ τ : Type}

/-- What a call between two statements relies on. -/
def CallSound (rows : List (TaskSplitProposal χ)) : CallState χ → Prop
  | .inserted input id => ∃ row ∈ rows, row.id = id ∧ row.key = input.key ∧
      row.sourceFingerprint = input.sourceFingerprint
  | .rejecting projectId proposalId _ => ∃ row ∈ rows, row.id = proposalId ∧
      row.key.projectId = projectId
  | .updated projectId proposalId => ∃ row ∈ rows, row.id = proposalId ∧
      row.key.projectId = projectId ∧ row.status = .rejected
  | _ => True

/-- The approvals of a proposal that have committed. -/
def commitsOf (commits : List (Nat × String)) (proposalId : String) : Nat :=
  (commits.filter (·.2 = proposalId)).length

/-- One approval has committed for an approved proposal, and none for another; at most one
proposal of a key is pending. -/
structure Sound (s : State χ τ) : Prop where
  ids : (s.rows.map (·.id)).Nodup
  commits : ∀ row ∈ s.rows, commitsOf s.commits row.id = if row.status = .approved then 1 else 0
  committed : ∀ commit ∈ s.commits, commit.2 ∈ s.rows.map (·.id)
  onePending : ∀ left ∈ s.rows, ∀ right ∈ s.rows, left.status = .pending →
    right.status = .pending → left.key = right.key → left = right
  calls : ∀ caller, CallSound s.rows (s.calls caller)

/-- The stored proposals are as the result says. -/
def Agrees (rows : List (TaskSplitProposal χ)) : Result χ → Prop
  | .created input proposal => proposal ∈ rows ∧ proposal.key = input.key ∧
      proposal.sourceFingerprint = input.sourceFingerprint
  | .reused input proposal => proposal ∈ rows ∧ proposal.key = input.key ∧
      proposal.sourceFingerprint = input.sourceFingerprint ∧ proposal.status = .pending
  | .createConflict input proposal => proposal ∈ rows ∧ proposal.key = input.key ∧
      proposal.sourceFingerprint ≠ input.sourceFingerprint ∧ proposal.status = .pending
  | .rejected proposal | .alreadyRejected proposal | .approveConflict proposal =>
    proposal ∈ rows ∧ proposal.status = .rejected
  | .approved proposal | .alreadyApproved proposal | .rejectConflict proposal =>
    proposal ∈ rows ∧ proposal.status = .approved
  | .notFound projectId proposalId => findTaskSplitProposalRow rows projectId proposalId = none
  | .thrown => True

/-- An approval that commits what its callback has made of the store. -/
def Commits (s : State χ τ) (label : Label χ τ) (s' : State χ τ) : Prop :=
  ∃ caller projectId proposalId approvedBy createTasks nowIso existing created,
    label = .approve caller projectId proposalId approvedBy createTasks nowIso ∧
    existing ∈ s.rows ∧ existing.id = proposalId ∧ existing.status = .pending ∧
    createTasks existing s.tasks = .ok (s'.tasks, created) ∧
    approval created approvedBy nowIso existing ∈ s'.rows ∧
    s'.calls caller = .returned (.approved (approval created approvedBy nowIso existing)) ∧
    s'.commits = s.commits ++ [(caller, proposalId)]

/-- Decided proposals stay as they are; the store changes with an approval that commits, and
nothing is approved without one; and what a call returns is what is stored. -/
structure Truthful (s : State χ τ) (label : Label χ τ) (s' : State χ τ) : Prop where
  decided : ∀ row ∈ s.rows, row.status ≠ .pending → row ∈ s'.rows
  creations : Commits s label s' ∨ (s'.tasks = s.tasks ∧ s'.commits = s.commits ∧
    ∀ row ∈ s'.rows, row.status = .approved → row ∈ s.rows)
  returns : ∀ caller result, s'.calls caller = .returned result →
    s.calls caller = .returned result ∨ Agrees s'.rows result

/-- No pending proposal of the key has come up since a creation read, and the proposal has
not been approved since a rejection read. -/
def Meets (s : State χ τ) : Label χ τ → Prop
  | .createInsert caller _ _ => ∀ input, s.calls caller = .inserting input →
      ∀ row ∈ s.rows, row.key = input.key → row.status ≠ .pending
  | .rejectUpdate caller _ => ∀ projectId proposalId reason,
      s.calls caller = .rejecting projectId proposalId reason →
      ∀ row ∈ s.rows, row.id = proposalId → row.key.projectId = projectId → row.status ≠ .approved
  | _ => True

theorem CallSound.extends {rows rows' : List (TaskSplitProposal χ)} {call : CallState χ}
    (sound : CallSound rows call) (extends_ : Extends rows rows') : CallSound rows' call := by
  cases call with
  | idle => trivial
  | inserting input => trivial
  | returned result => trivial
  | inserted input id =>
    obtain ⟨row, inside, same, key, fingerprint⟩ := sound
    obtain ⟨row', inside', same', key', fingerprint', -⟩ := extends_ row inside
    exact ⟨row', inside', same'.trans same, key'.trans key, fingerprint'.trans fingerprint⟩
  | rejecting projectId proposalId reason =>
    obtain ⟨row, inside, same, project⟩ := sound
    obtain ⟨row', inside', same', key', -, -⟩ := extends_ row inside
    exact ⟨row', inside', same'.trans same, (congrArg ProposalKey.projectId key').trans project⟩
  | updated projectId proposalId =>
    obtain ⟨row, inside, same, project, rejected⟩ := sound
    have decided : row.status ≠ .pending := by
      rw [rejected]
      decide
    exact ⟨row, extends_.decided inside decided, same, project, rejected⟩

theorem calls_setCall {rows rows' : List (TaskSplitProposal χ)} {calls : Nat → CallState χ}
    {caller : Nat} {call : CallState χ} (sound : ∀ other, CallSound rows (calls other))
    (extends_ : Extends rows rows') (next : CallSound rows' call) (other : Nat) :
    CallSound rows' (if other = caller then call else calls other) := by
  split_ifs
  · exact next
  · exact (sound other).extends extends_

theorem Sound.setCall {s : State χ τ} (sound : Sound s) (caller : Nat) {call : CallState χ}
    (next : CallSound s.rows call) : Sound (setCall s caller call) where
  ids := sound.ids
  commits := sound.commits
  committed := sound.committed
  onePending := sound.onePending
  calls := calls_setCall sound.calls (Extends.refl _) next

theorem truthful_finish {s : State χ τ} {label : Label χ τ} {caller : Nat} {result : Result χ}
    (agrees : Agrees s.rows result) : Truthful s label (finish s caller result) where
  decided _ inside _ := inside
  creations := .inr ⟨rfl, rfl, fun _ inside _ => inside⟩
  returns := by
    intro other found isReturned
    rw [finish, SplitProposals.setCall] at isReturned
    dsimp only at isReturned
    split_ifs at isReturned with same
    · obtain rfl := CallState.returned.inj isReturned
      exact .inr agrees
    · exact .inl isReturned

theorem truthful_setCall {s : State χ τ} {label : Label χ τ} {caller : Nat} {call : CallState χ}
    {rows' : List (TaskSplitProposal χ)} (goesOn : ∀ result, call ≠ .returned result)
    (extends_ : Extends s.rows rows')
    (approved : ∀ row ∈ rows', row.status = .approved → row ∈ s.rows) :
    Truthful s label (setCall { s with rows := rows' } caller call) where
  decided _ inside decided := extends_.decided inside decided
  creations := .inr ⟨rfl, rfl, approved⟩
  returns := by
    intro other found isReturned
    rw [SplitProposals.setCall] at isReturned
    dsimp only at isReturned
    split_ifs at isReturned with same
    · exact absurd isReturned (goesOn found)
    · exact .inl isReturned

/-! ### The writes -/

variable {rows : List (TaskSplitProposal χ)} {tasks : τ} {projectId proposalId nowIso : String}
  {approvedBy : Option String}
  {createTasks : TaskSplitProposal χ → τ → Except String (τ × CreatedTasks)}

/-- A transaction that does not commit says why. -/
theorem agrees_of_approve_error {result : Result χ}
    (failed : approveTaskSplitProposal projectId proposalId approvedBy createTasks nowIso rows
      tasks = .error result) : Agrees rows result := by
  rw [approveTaskSplitProposal] at failed
  cases found : findTaskSplitProposalRow rows projectId proposalId with
  | none =>
    rw [found] at failed
    obtain rfl := Except.error.inj failed
    exact found
  | some existing =>
    have inside := (mem_of_findTaskSplitProposalRow found).1
    rw [found] at failed
    dsimp only at failed
    cases status : existing.status with
    | approved =>
      rw [status] at failed
      obtain rfl := Except.error.inj failed
      exact ⟨inside, status⟩
    | rejected =>
      rw [status] at failed
      obtain rfl := Except.error.inj failed
      exact ⟨inside, status⟩
    | pending =>
      rw [status] at failed
      dsimp only at failed
      cases called : createTasks existing tasks with
      | error message =>
        rw [called] at failed
        obtain rfl := Except.error.inj failed
        trivial
      | ok creations =>
        rw [called] at failed
        dsimp only at failed
        split_ifs at failed
        · obtain rfl := Except.error.inj failed
          trivial
        · split at failed
          · obtain rfl := Except.error.inj failed
            trivial
          · cases failed

/-- A transaction that commits approves the pending proposal with what the callback created. -/
theorem approve_commits (distinct : (rows.map (·.id)).Nodup)
    {rows' : List (TaskSplitProposal χ)} {tasks' : τ} {approved : TaskSplitProposal χ}
    (committed : approveTaskSplitProposal projectId proposalId approvedBy createTasks nowIso rows
      tasks = .ok (rows', tasks', approved)) :
    ∃ existing created, existing ∈ rows ∧ isPendingRow projectId proposalId existing = true ∧
      createTasks existing tasks = .ok (tasks', created) ∧
      rows' = decide_ (approval created approvedBy nowIso) projectId proposalId rows ∧
      approved = approval created approvedBy nowIso existing := by
  rw [approveTaskSplitProposal] at committed
  cases found : findTaskSplitProposalRow rows projectId proposalId with
  | none =>
    rw [found] at committed
    cases committed
  | some existing =>
    obtain ⟨inside, project, same⟩ := mem_of_findTaskSplitProposalRow found
    rw [found] at committed
    dsimp only at committed
    cases status : existing.status with
    | approved =>
      rw [status] at committed
      cases committed
    | rejected =>
      rw [status] at committed
      cases committed
    | pending =>
      rw [status] at committed
      dsimp only at committed
      cases called : createTasks existing tasks with
      | error message =>
        rw [called] at committed
        cases committed
      | ok creations =>
        obtain ⟨tasks'', created⟩ := creations
        rw [called] at committed
        dsimp only at committed
        split_ifs at committed
        have pending : isPendingRow projectId proposalId existing = true :=
          isPendingRow_iff.mpr ⟨same, project, status⟩
        have distinct' : ((decide_ (approval created approvedBy nowIso) projectId proposalId
            rows).map (·.id)).Nodup := by
          rw [map_id_decide_ (approval_keeps created approvedBy nowIso)]
          exact distinct
        have read := findTaskSplitProposalRow_of_mem distinct'
          (mem_decide_.mpr ⟨existing, inside, .inl ⟨pending, rfl⟩⟩)
        have where_ : (approval created approvedBy nowIso existing).key.projectId =
            projectId := project
        have id : (approval created approvedBy nowIso existing).id = proposalId := same
        rw [where_, id] at read
        rw [read] at committed
        dsimp only at committed
        obtain ⟨rfl, rfl, rfl⟩ := Except.ok.inj committed
        exact ⟨existing, created, inside, pending, called, rfl, rfl⟩

theorem mem_of_pending_decide_ {change : TaskSplitProposal χ → TaskSplitProposal χ}
    {row : TaskSplitProposal χ} (decides : ∀ row, (change row).status ≠ .pending)
    (inside : row ∈ decide_ change projectId proposalId rows) (pending : row.status = .pending) :
    row ∈ rows := by
  obtain ⟨old, stored, ⟨-, rfl⟩ | ⟨-, rfl⟩⟩ := mem_decide_.mp inside
  · exact absurd pending (decides old)
  · exact stored

theorem commitsOf_append (commits : List (Nat × String)) (caller : Nat) (id id' : String) :
    commitsOf (commits ++ [(caller, id)]) id' =
      commitsOf commits id' + if id = id' then 1 else 0 := by
  rw [commitsOf, commitsOf, List.filter_append, List.length_append]
  by_cases same : id = id'
  · simp [same]
  · simp [same]

/-- A new proposal, with an id of its own and no pending one of its key. -/
theorem Sound.insert {s : State χ τ} (sound : Sound s) {caller : Nat}
    {input : CreateTaskSplitProposalInput χ} {id nowIso : String}
    (fresh : ¬ s.rows.any (·.id = id) = true)
    (free : ∀ row ∈ s.rows, row.key = input.key → row.status ≠ .pending) :
    Sound (SplitProposals.setCall { s with rows := s.rows ++ [newProposal input id nowIso] } caller
      (.inserted input id)) where
  ids := by
    have absent : id ∉ s.rows.map (·.id) := by
      intro inside
      obtain ⟨row, stored, same⟩ := List.mem_map.mp inside
      exact fresh (List.any_eq_true.mpr ⟨row, stored, decide_eq_true same⟩)
    simp only [SplitProposals.setCall, List.map_append, List.map_cons, List.map_nil]
    exact List.nodup_append.mpr ⟨sound.ids, List.nodup_singleton _, by
      rintro a inside b new rfl
      obtain rfl := List.mem_singleton.mp new
      exact absent inside⟩
  commits := by
    intro row inside
    rcases List.mem_append.mp inside with stored | new
    · exact sound.commits row stored
    · obtain rfl := List.mem_singleton.mp new
      have none_ : commitsOf s.commits id = 0 := by
        rw [commitsOf, List.length_eq_zero_iff, List.filter_eq_nil_iff]
        intro commit committed
        rw [decide_eq_true_eq]
        intro same
        obtain ⟨row, stored, rowId⟩ := List.mem_map.mp (sound.committed commit committed)
        exact fresh (List.any_eq_true.mpr ⟨row, stored, decide_eq_true (rowId.trans same)⟩)
      exact none_
  committed := by
    intro commit committed
    simp only [SplitProposals.setCall, List.map_append]
    exact List.mem_append_left _ (sound.committed commit committed)
  onePending := by
    intro left inLeft right inRight pendingLeft pendingRight same
    rcases List.mem_append.mp inLeft with storedLeft | newLeft
    · rcases List.mem_append.mp inRight with storedRight | newRight
      · exact sound.onePending left storedLeft right storedRight pendingLeft pendingRight same
      · obtain rfl := List.mem_singleton.mp newRight
        exact absurd pendingLeft (free left storedLeft same)
    · obtain rfl := List.mem_singleton.mp newLeft
      rcases List.mem_append.mp inRight with storedRight | newRight
      · exact absurd pendingRight (free right storedRight same.symm)
      · exact (List.mem_singleton.mp newRight).symm
  calls := calls_setCall sound.calls (extends_append _)
    ⟨_, List.mem_append_right _ (List.mem_singleton_self _), rfl, rfl, rfl⟩

/-- A decision on the pending proposal, with the approvals behind it. -/
theorem Sound.decide {s : State χ τ} (sound : Sound s) {caller : Nat} {call : CallState χ}
    {change : TaskSplitProposal χ → TaskSplitProposal χ} {tasks' : τ}
    {commits' : List (Nat × String)} (keeps : KeepsIdentity change)
    (decides : ∀ row, (change row).status ≠ .pending)
    (counts : ∀ row ∈ decide_ change projectId proposalId s.rows,
      commitsOf commits' row.id = if row.status = .approved then 1 else 0)
    (committed : ∀ commit ∈ commits', commit.2 ∈ s.rows.map (·.id))
    (next : CallSound (decide_ change projectId proposalId s.rows) call) :
    Sound (SplitProposals.setCall { s with
      rows := decide_ change projectId proposalId s.rows
      tasks := tasks'
      commits := commits' } caller call) where
  ids := by
    simp only [SplitProposals.setCall]
    rw [map_id_decide_ keeps]
    exact sound.ids
  commits := counts
  committed := by
    intro commit inside
    simp only [SplitProposals.setCall]
    rw [map_id_decide_ keeps]
    exact committed commit inside
  onePending := by
    intro left inLeft right inRight pendingLeft pendingRight same
    exact sound.onePending left (mem_of_pending_decide_ decides inLeft pendingLeft) right
      (mem_of_pending_decide_ decides inRight pendingRight) pendingLeft pendingRight same
  calls := calls_setCall sound.calls (extends_decide_ keeps) next

/-- A rejection counts no approval. -/
theorem Sound.reject {s : State χ τ} (sound : Sound s) {caller : Nat} {reason : Option String}
    (stored : CallSound s.rows (.rejecting projectId proposalId reason))
    (open_ : ∀ row ∈ s.rows, row.id = proposalId → row.key.projectId = projectId →
      row.status ≠ .approved) :
    Sound (SplitProposals.setCall { s with
      rows := decide_ (rejection reason nowIso) projectId proposalId s.rows } caller
      (.updated projectId proposalId)) := by
  refine sound.decide (rejection_keeps reason nowIso) ?_ ?_ sound.committed ?_
  · intro row pending
    cases pending
  · intro row inside
    obtain ⟨old, storedOld, ⟨pending, rfl⟩ | ⟨-, rfl⟩⟩ := mem_decide_.mp inside
    · have counted := sound.commits old storedOld
      rw [if_neg (by rw [(isPendingRow_iff.mp pending).2.2]; decide)] at counted
      exact counted
    · exact sound.commits row storedOld
  · obtain ⟨row, inside, same, project⟩ := stored
    cases status : row.status with
    | approved => exact absurd status (open_ row inside same project)
    | rejected =>
      have decided : row.status ≠ .pending := by
        rw [status]
        decide
      have extends_ : Extends s.rows (decide_ (rejection reason nowIso) projectId proposalId
        s.rows) := extends_decide_ (rejection_keeps reason nowIso)
      exact ⟨row, extends_.decided inside decided, same, project, status⟩
    | pending =>
      exact ⟨_, mem_decide_.mpr ⟨row, inside, .inl
        ⟨isPendingRow_iff.mpr ⟨same, project, status⟩, rfl⟩⟩, same, project, rfl⟩

/-- An approval counts itself. -/
theorem Sound.approve {s : State χ τ} (sound : Sound s) {caller : Nat} {tasks' : τ}
    {existing : TaskSplitProposal χ} {created : CreatedTasks} (inside : existing ∈ s.rows)
    (pending : isPendingRow projectId proposalId existing = true) :
    Sound (SplitProposals.setCall { s with
      rows := decide_ (approval created approvedBy nowIso) projectId proposalId s.rows
      tasks := tasks'
      commits := s.commits ++ [(caller, proposalId)] } caller
      (.returned (.approved (approval created approvedBy nowIso existing)))) := by
  obtain ⟨same, -, status⟩ := isPendingRow_iff.mp pending
  refine sound.decide (approval_keeps created approvedBy nowIso) ?_ ?_ ?_ trivial
  · intro row isPending
    cases isPending
  · intro row stored
    rw [commitsOf_append]
    obtain ⟨old, storedOld, ⟨pendingOld, rfl⟩ | ⟨other, rfl⟩⟩ := mem_decide_.mp stored
    · have counted := sound.commits old storedOld
      obtain ⟨sameOld, -, statusOld⟩ := isPendingRow_iff.mp pendingOld
      have notApproved : ¬ old.status = .approved := by
        rw [statusOld]
        decide
      rw [if_neg notApproved] at counted
      have id : (approval created approvedBy nowIso old).id = old.id := rfl
      have approved : (approval created approvedBy nowIso old).status = .approved := rfl
      rw [id, counted, if_pos sameOld.symm, if_pos approved]
    · have differs : proposalId ≠ row.id := by
        rintro rfl
        have one := eq_of_id sound.ids inside storedOld same
        rw [one] at pending
        rw [pending] at other
        cases other
      rw [sound.commits row storedOld, if_neg differs, Nat.add_zero]
  · intro commit committed
    rcases List.mem_append.mp committed with earlier | new
    · exact sound.committed commit earlier
    · obtain rfl := List.mem_singleton.mp new
      exact List.mem_map.mpr ⟨existing, inside, same⟩

/-- What one step keeps, and what it shows. -/
theorem Sound.exec {s s' : State χ τ} {label : Label χ τ} (sound : Sound s)
    (meets : Meets s label) (step : exec s label = some s') :
    Sound s' ∧ Truthful s label s' := by
  cases label with
  | createRead caller input =>
    rw [SplitProposals.exec] at step
    split at step
    · split at step
      · obtain rfl := Option.some.inj step
        exact ⟨sound.setCall caller trivial, truthful_setCall (by intro result returned; cases returned)
          (Extends.refl _) fun _ inside _ => inside⟩
      · rename_i existing found
        obtain ⟨inside, key, pending⟩ := findPending_mem found
        split_ifs at step with same
        · obtain rfl := Option.some.inj step
          exact ⟨sound.setCall caller trivial, truthful_finish ⟨inside, key, same, pending⟩⟩
        · obtain rfl := Option.some.inj step
          exact ⟨sound.setCall caller trivial, truthful_finish ⟨inside, key, same, pending⟩⟩
    · cases step
  | createInsert caller id nowIso =>
    rw [SplitProposals.exec] at step
    split at step
    · rename_i input at_
      split_ifs at step with used
      · obtain rfl := Option.some.inj step
        exact ⟨sound.setCall caller trivial, truthful_finish trivial⟩
      · obtain rfl := Option.some.inj step
        refine ⟨sound.insert used (meets input at_), truthful_setCall
          (by intro result returned; cases returned) (extends_append _) fun row inside approved => ?_⟩
        rcases List.mem_append.mp inside with stored | new
        · exact stored
        · obtain rfl := List.mem_singleton.mp new
          cases approved
    · cases step
  | createResult caller =>
    rw [SplitProposals.exec] at step
    split at step
    · rename_i input id at_
      have called := sound.calls caller
      rw [at_] at called
      obtain ⟨row, inside, rfl, key, fingerprint⟩ := called
      have found := findTaskSplitProposalRow_of_mem sound.ids inside
      rw [key] at found
      rw [found] at step
      obtain rfl := Option.some.inj step
      exact ⟨sound.setCall caller trivial, truthful_finish ⟨inside, key, fingerprint⟩⟩
    · cases step
  | rejectRead caller projectId proposalId reason =>
    rw [SplitProposals.exec] at step
    split at step
    · split at step
      · rename_i found
        obtain rfl := Option.some.inj step
        exact ⟨sound.setCall caller trivial, truthful_finish found⟩
      · rename_i existing found
        obtain ⟨inside, project, same⟩ := mem_of_findTaskSplitProposalRow found
        split at step
        · rename_i status
          obtain rfl := Option.some.inj step
          exact ⟨sound.setCall caller trivial, truthful_finish ⟨inside, status⟩⟩
        · rename_i status
          obtain rfl := Option.some.inj step
          exact ⟨sound.setCall caller trivial, truthful_finish ⟨inside, status⟩⟩
        · obtain rfl := Option.some.inj step
          exact ⟨sound.setCall caller ⟨existing, inside, same, project⟩, truthful_setCall
            (by intro result returned; cases returned) (Extends.refl _) fun _ inside _ => inside⟩
    · cases step
  | rejectUpdate caller nowIso =>
    rw [SplitProposals.exec] at step
    split at step
    · rename_i projectId proposalId reason at_
      have called := sound.calls caller
      rw [at_] at called
      obtain rfl := Option.some.inj step
      refine ⟨sound.reject called (meets projectId proposalId reason at_), truthful_setCall
        (by intro result returned; cases returned) (extends_decide_ (rejection_keeps reason nowIso))
        fun row inside approved => ?_⟩
      obtain ⟨old, stored, ⟨-, rfl⟩ | ⟨-, rfl⟩⟩ := mem_decide_.mp inside
      · cases approved
      · exact stored
    · cases step
  | rejectResult caller =>
    rw [SplitProposals.exec] at step
    split at step
    · rename_i projectId proposalId at_
      have called := sound.calls caller
      rw [at_] at called
      obtain ⟨row, inside, rfl, rfl, status⟩ := called
      rw [findTaskSplitProposalRow_of_mem sound.ids inside] at step
      obtain rfl := Option.some.inj step
      exact ⟨sound.setCall caller trivial, truthful_finish ⟨inside, status⟩⟩
    · cases step
  | approve caller projectId proposalId approvedBy createTasks nowIso =>
    rw [SplitProposals.exec] at step
    split at step
    · split at step
      · rename_i result failed
        obtain rfl := Option.some.inj step
        exact ⟨sound.setCall caller trivial, truthful_finish (agrees_of_approve_error failed)⟩
      · rename_i rows tasks approved committed
        obtain ⟨existing, created, inside, pending, called, rfl, rfl⟩ :=
          approve_commits sound.ids committed
        obtain rfl := Option.some.inj step
        obtain ⟨same, -, status⟩ := isPendingRow_iff.mp pending
        have stored : approval created approvedBy nowIso existing ∈
            decide_ (approval created approvedBy nowIso) projectId proposalId s.rows :=
          mem_decide_.mpr ⟨existing, inside, .inl ⟨pending, rfl⟩⟩
        refine ⟨sound.approve inside pending, ⟨?_, .inl ?_, ?_⟩⟩
        · intro row stored decided
          exact (extends_decide_ (approval_keeps created approvedBy nowIso)).decided stored decided
        · exact ⟨caller, projectId, proposalId, approvedBy, createTasks, nowIso, existing, created,
            rfl, inside, same, status, called, stored, if_pos rfl, rfl⟩
        · intro other found isReturned
          rw [finish, SplitProposals.setCall] at isReturned
          dsimp only at isReturned
          split_ifs at isReturned with self
          · obtain rfl := CallState.returned.inj isReturned
            exact .inr ⟨stored, rfl⟩
          · exact .inl isReturned
    · cases step

theorem sound_initial {s : State χ τ} (initial : Initial s) : Sound s := by
  obtain ⟨rows, commits, calls⟩ := initial
  constructor
  · rw [rows]
    exact List.nodup_nil
  · rw [rows]
    intro row inside
    cases inside
  · rw [commits]
    intro commit inside
    cases inside
  · rw [rows]
    intro left inside
    cases inside
  · intro caller
    rw [calls caller]
    trivial

end Sound

/-- In every order of the statements of any calls: as long as no creation and no rejection is
overtaken between its read and its write, at most one proposal of a key is pending, an approved
proposal has one committed approval and another none, decided proposals stay as they are, the
store changes with the approval that commits and with nothing else, and what a call returns is
what is stored. -/
theorem decisions_exclusive_and_truthful {χ τ : Type} {s : State χ τ}
    (reached : Reaches (proposalSystem χ τ) Meets s) :
    Sound s ∧ ∀ label s', Meets s label → exec s label = some s' → Truthful s label s' := by
  have sound : Sound s := by
    refine reached.invariant (fun state initial => sound_initial (show Initial state from initial)) ?_
    intro s label s' sound meets step
    exact (sound.exec meets step).1
  exact ⟨sound, fun label s' meets step => (sound.exec meets step).2⟩

section Sample

def noProposals : State Unit (List String) := ⟨[], [], fun _ => .idle, []⟩

def splitAsk : CreateTaskSplitProposalInput Unit :=
  ⟨⟨"P", "roadmap_import", "auth", "feature"⟩, none, "docs/auth.md", "f1", "Split auth", [()]⟩

def createOneTask (_ : TaskSplitProposal Unit) (tasks : List String) :
    Except String (List String × CreatedTasks) :=
  .ok (tasks ++ ["T"], ⟨["T"], none⟩)

theorem noProposals_initial : Initial noProposals := ⟨rfl, rfl, fun _ => rfl⟩

theorem createRead_noProposals : exec noProposals (.createRead 0 splitAsk) =
    some (setCall noProposals 0 (.inserting splitAsk)) := by
  simp [exec, noProposals, findPending]

theorem reaches_inserting (ok : State Unit (List String) → Label Unit (List String) → Prop)
    (admits : ok noProposals (.createRead 0 splitAsk)) :
    Reaches (proposalSystem Unit (List String)) ok (setCall noProposals 0 (.inserting splitAsk)) :=
  .step (.init noProposals_initial) admits createRead_noProposals

theorem reachable_exec {s s' : State Unit (List String)} {label : Label Unit (List String)}
    (reached : Reachable (proposalSystem Unit (List String)) s) (step : exec s label = some s') :
    Reachable (proposalSystem Unit (List String)) s' :=
  .step reached trivial step

end Sample

/-- A caller that has read no pending proposal inserts its own. -/
theorem decisions_exclusive_and_truthful_created :
    Truthful (setCall noProposals 0 (.inserting splitAsk)) (.createInsert 0 "S" "t1")
    (setCall
      (setCall { noProposals with rows := [newProposal splitAsk "S" "t1"] } 0 (.inserting splitAsk))
      0 (.inserted splitAsk "S")) := by
  refine (decisions_exclusive_and_truthful (reaches_inserting Meets trivial)).2 _ _ ?_ ?_
  · intro input at_ row inside
    cases inside
  · rfl

/-- The rejection of a proposal that another caller approves between its read and its update
returns it as rejected. -/
theorem overtaken_rejection_reports_rejected : ¬ ∀ s s' label,
    Reachable (proposalSystem Unit (List String)) s → exec s label = some s' →
      Truthful s label s' := by
  intro truthful
  have asked := reaches_inserting (fun _ _ => True) trivial
  have inserted := reachable_exec asked (show exec _ (.createInsert 0 "S" "t1") = some _ from rfl)
  have read := reachable_exec inserted (show exec _ (.rejectRead 1 "P" "S" none) = some _ from rfl)
  have approved := reachable_exec read
    (show exec _ (.approve 2 "P" "S" none createOneTask "t2") = some _ from rfl)
  have updated := reachable_exec approved (show exec _ (.rejectUpdate 1 "t3") = some _ from rfl)
  rcases (truthful _ _ (.rejectResult 1) updated rfl).returns 1 _ rfl with before | ⟨-, status⟩
  · cases before
  · cases status

end AifHandoff.Data.SplitProposals
