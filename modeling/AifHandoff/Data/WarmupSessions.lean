import AifHandoff.Lib.Lifecycle
import Mathlib.Data.String.Basic

/-!
Warm-up sessions of runtimes (`data/index.ts`).

A session is created for a scope, becomes ready or fails when the runtime has answered,
and ends cleared or expired. Calls for one scope may overlap; each is one SQL statement or
one transaction, and they interleave.
-/

namespace AifHandoff.Data.Warmup

open Lifecycle Transition

inductive RuntimeWarmupSessionStatus where
  | creating | ready | failed | cleared | expired
  deriving DecidableEq

structure RuntimeWarmupScopeInput where
  projectId : String
  runtimeProfileId : Option String
  runtimeId : String
  providerId : String
  transport : Option String
  model : Option String
  stage : Option String
  deriving DecidableEq

/-- A row of `runtime_warmup_sessions`. Instants are stored and compared as texts. -/
structure RuntimeWarmupSessionRow extends RuntimeWarmupScopeInput where
  id : String
  sourceSessionId : Option String
  status : RuntimeWarmupSessionStatus
  ttlSeconds : Int
  expiresAt : String
  summary : Option String
  errorMessage : Option String
  createdAt : String
  updatedAt : String
  deriving DecidableEq

abbrev Table := List RuntimeWarmupSessionRow

/-- `ACTIVE_RUNTIME_WARMUP_STATUSES`. -/
def activeRuntimeWarmupStatuses : List RuntimeWarmupSessionStatus := [.creating, .ready]

def RuntimeWarmupSessionRow.isActive (row : RuntimeWarmupSessionRow) : Bool :=
  activeRuntimeWarmupStatuses.contains row.status

/-! ### Calls -/

/-- `input == null ? isNull(column) : eq(column, input)`; `NULL` equals nothing. -/
def nullOrEq (input column : Option String) : Bool :=
  match input, column with
  | none, column => column.isNone
  | some _, none => false
  | some value, some stored => stored == value

def runtimeWarmupScopeConditions (input : RuntimeWarmupScopeInput)
    (row : RuntimeWarmupSessionRow) : Bool :=
  row.projectId == input.projectId && nullOrEq input.runtimeProfileId row.runtimeProfileId &&
    row.runtimeId == input.runtimeId && row.providerId == input.providerId &&
    nullOrEq input.transport row.transport && nullOrEq input.model row.model &&
    nullOrEq input.stage row.stage

def findRuntimeWarmupSessionById (rows : Table) (id : String) : Option RuntimeWarmupSessionRow :=
  rows.find? (·.id == id)

structure CreateRuntimeWarmupSessionInput extends RuntimeWarmupScopeInput where
  ttlSeconds : Int
  expiresAt : String
  sourceSessionId : Option String
  summary : Option String
  createdAt : Option String

/-- The row that a creation inserts. -/
def newRow (input : CreateRuntimeWarmupSessionInput) (id nowIso : String) :
    RuntimeWarmupSessionRow where
  toRuntimeWarmupScopeInput := input.toRuntimeWarmupScopeInput
  id := id
  sourceSessionId := input.sourceSessionId
  status := .creating
  ttlSeconds := input.ttlSeconds
  expiresAt := input.expiresAt
  summary := input.summary
  errorMessage := none
  createdAt := input.createdAt.getD nowIso
  updatedAt := input.createdAt.getD nowIso

/-- `none` where the insertion throws: the drawn id is a stored one. -/
def createRuntimeWarmupSession (rows : Table) (input : CreateRuntimeWarmupSessionInput)
    (randomUUID nowIso : String) : Option (Table × Option RuntimeWarmupSessionRow) :=
  if randomUUID ∈ rows.map (·.id) then none
  else
    let stored := rows ++ [newRow input randomUUID nowIso]
    some (stored, findRuntimeWarmupSessionById stored randomUUID)

structure ReadyInput where
  sourceSessionId : String
  summary : Option String
  expiresAt : Option String
  ttlSeconds : Option Int
  updatedAt : Option String

/-- The `SET` of the statement that makes a session ready. -/
def readyRow (input : ReadyInput) (now : String) (row : RuntimeWarmupSessionRow) :
    RuntimeWarmupSessionRow :=
  { row with
    status := .ready
    sourceSessionId := some input.sourceSessionId
    summary := input.summary
    errorMessage := none
    expiresAt := input.expiresAt.getD row.expiresAt
    ttlSeconds := input.ttlSeconds.getD row.ttlSeconds
    updatedAt := now }

/-- `SET status, updatedAt`. -/
def withStatus (status : RuntimeWarmupSessionStatus) (now : String)
    (row : RuntimeWarmupSessionRow) : RuntimeWarmupSessionRow :=
  { row with status := status, updatedAt := now }

/-- The session and its status are checked by the update itself. -/
def isPending (id : String) (row : RuntimeWarmupSessionRow) : Bool :=
  row.id == id && row.status == .creating

/-- The other active sessions of the scope of `existing`. -/
def isSibling (existing : RuntimeWarmupSessionRow) (id : String) (row : RuntimeWarmupSessionRow) :
    Bool :=
  runtimeWarmupScopeConditions existing.toRuntimeWarmupScopeInput row && row.isActive &&
    row.id != id

def markRuntimeWarmupSessionReady (rows : Table) (id : String) (input : ReadyInput)
    (nowIso : String) : Table × Option RuntimeWarmupSessionRow :=
  let now := input.updatedAt.getD nowIso
  let after :=
    match findRuntimeWarmupSessionById rows id with
    | none => rows
    | some existing =>
      let updated := updateWhere rows (isPending id) (readyRow input now)
      if changes rows (isPending id) = 0 then updated
      else updateWhere updated (isSibling existing id) (withStatus .cleared now)
  (after, findRuntimeWarmupSessionById after id)

/-- The `SET` of the statement that makes a session failed. -/
def failedRow (errorMessage updatedAt : String) (row : RuntimeWarmupSessionRow) :
    RuntimeWarmupSessionRow :=
  { row with status := .failed, errorMessage := some errorMessage, updatedAt := updatedAt }

/-- The statement has no condition on the status. -/
def markRuntimeWarmupSessionFailed (rows : Table) (id errorMessage updatedAt : String) :
    Table × Option RuntimeWarmupSessionRow :=
  let after := updateWhere rows (·.id == id) (failedRow errorMessage updatedAt)
  (after, findRuntimeWarmupSessionById after id)

def clearActiveRuntimeWarmupSessions (rows : Table) (input : RuntimeWarmupScopeInput)
    (updatedAt : String) : Table × Nat :=
  let clears row := runtimeWarmupScopeConditions input row && row.isActive
  (updateWhere rows clears (withStatus .cleared updatedAt), changes rows clears)

/-- `status IN (creating, ready) AND expires_at <= now`. -/
def isStale (nowIso : String) (row : RuntimeWarmupSessionRow) : Bool :=
  row.isActive && decide (row.expiresAt ≤ nowIso)

def expireStaleRuntimeWarmupSessions (rows : Table) (nowIso : String) : Table × Nat :=
  (updateWhere rows (isStale nowIso) (withStatus .expired nowIso), changes rows (isStale nowIso))

/-! ### Sequences of calls -/

/-- A call, with the clock and the id that it reads. -/
inductive WarmupOp where
  | create (input : CreateRuntimeWarmupSessionInput) (randomUUID nowIso : String)
  | markReady (id : String) (input : ReadyInput) (nowIso : String)
  | markFailed (id errorMessage updatedAt : String)
  | clearActive (input : RuntimeWarmupScopeInput) (updatedAt : String)
  | expireStale (nowIso : String)

/-- The table after a call. -/
def exec (rows : Table) : WarmupOp → Table
  | .create input randomUUID nowIso =>
    (createRuntimeWarmupSession rows input randomUUID nowIso).elim rows (·.1)
  | .markReady id input nowIso => (markRuntimeWarmupSessionReady rows id input nowIso).1
  | .markFailed id errorMessage updatedAt =>
    (markRuntimeWarmupSessionFailed rows id errorMessage updatedAt).1
  | .clearActive input updatedAt => (clearActiveRuntimeWarmupSessions rows input updatedAt).1
  | .expireStale nowIso => (expireStaleRuntimeWarmupSessions rows nowIso).1

/-- The table after a sequence of calls on an empty one. -/
def run (ops : List WarmupOp) : Table := ops.foldl exec []

/-- Cleared, expired and failed sessions. -/
def RuntimeWarmupSessionStatus.isTerminal (status : RuntimeWarmupSessionStatus) : Bool :=
  status == .cleared || status == .expired || status == .failed

/-- At most one session of a scope is ready. -/
def OneReady (rows : Table) : Prop :=
  ∀ row ∈ rows, ∀ other ∈ rows, row.status = .ready → other.status = .ready →
    row.toRuntimeWarmupScopeInput = other.toRuntimeWarmupScopeInput → row = other

/-- A session that has ended at some point of the sequence is not ready at a later one. -/
def NoResurrection (ops : List WarmupOp) : Prop :=
  ∀ front middle back, ops = front ++ middle ++ back → ∀ row ∈ run front,
    row.status.isTerminal = true → ∀ later ∈ run (front ++ middle), later.id = row.id →
    later.status ≠ .ready

/-- A session that has ended at some point of the sequence has the same status at every
later one. -/
def TerminalFinal (ops : List WarmupOp) : Prop :=
  ∀ front middle back, ops = front ++ middle ++ back → ∀ row ∈ run front,
    row.status.isTerminal = true → ∀ later ∈ run (front ++ middle), later.id = row.id →
    later.status = row.status

/-- No failure is reported for a session that was cleared or has expired. -/
def failsUnended (rows : Table) : WarmupOp → Bool
  | .markFailed id _ _ =>
    (findRuntimeWarmupSessionById rows id).all fun row =>
      row.status != .cleared && row.status != .expired
  | _ => true

/-! ### Rows -/

section Rows

variable {rows : Table} {row row' : RuntimeWarmupSessionRow}

theorem nullOrEq_iff {input column : Option String} :
    nullOrEq input column = true ↔ column = input := by
  cases input <;> cases column <;> simp [nullOrEq]

theorem runtimeWarmupScopeConditions_iff {input : RuntimeWarmupScopeInput} :
    runtimeWarmupScopeConditions input row = true ↔ row.toRuntimeWarmupScopeInput = input := by
  obtain ⟨scope⟩ := row
  cases scope
  cases input
  simp only [runtimeWarmupScopeConditions, Bool.and_eq_true, beq_iff_eq, nullOrEq_iff, and_assoc,
    RuntimeWarmupScopeInput.mk.injEq]

theorem isActive_iff : row.isActive = true ↔ row.status = .creating ∨ row.status = .ready := by
  rw [RuntimeWarmupSessionRow.isActive, activeRuntimeWarmupStatuses]
  cases row.status <;> decide

theorem not_active_iff : row.isActive = false ↔ row.status.isTerminal = true := by
  rw [RuntimeWarmupSessionRow.isActive, activeRuntimeWarmupStatuses]
  cases row.status <;> decide

theorem isPending_iff {id : String} :
    isPending id row = true ↔ row.id = id ∧ row.status = .creating := by
  rw [isPending, Bool.and_eq_true, beq_iff_eq, beq_iff_eq]

theorem isSibling_iff {existing : RuntimeWarmupSessionRow} {id : String} :
    isSibling existing id row = true ↔
      row.toRuntimeWarmupScopeInput = existing.toRuntimeWarmupScopeInput ∧ row.isActive = true ∧
        row.id ≠ id := by
  rw [isSibling, Bool.and_eq_true, Bool.and_eq_true, runtimeWarmupScopeConditions_iff, and_assoc,
    bne_iff_ne]

theorem mem_of_findRuntimeWarmupSessionById {id : String}
    (found : findRuntimeWarmupSessionById rows id = some row) : row ∈ rows ∧ row.id = id := by
  refine ⟨List.mem_of_find?_eq_some found, ?_⟩
  simpa using List.find?_some found

theorem findRuntimeWarmupSessionById_of_mem (distinct : (rows.map (·.id)).Nodup)
    (inside : row ∈ rows) : findRuntimeWarmupSessionById rows row.id = some row := by
  unfold findRuntimeWarmupSessionById
  cases found : rows.find? (·.id == row.id) with
  | none => exact absurd (List.find?_eq_none.mp found row inside) (by simp)
  | some other =>
    obtain ⟨inOther, same⟩ := mem_of_findRuntimeWarmupSessionById found
    rw [List.inj_on_of_nodup_map distinct inOther inside same]

/-- What a completion does: nothing, or it makes one pending session ready and clears its
siblings. -/
theorem markRuntimeWarmupSessionReady_cases (distinct : (rows.map (·.id)).Nodup) (id : String)
    (input : ReadyInput) (nowIso : String) :
    (markRuntimeWarmupSessionReady rows id input nowIso).1 = rows ∨
      ∃ existing ∈ rows, existing.id = id ∧ existing.status = .creating ∧
        (markRuntimeWarmupSessionReady rows id input nowIso).1 =
          updateWhere
            (updateWhere rows (isPending id) (readyRow input (input.updatedAt.getD nowIso)))
            (isSibling existing id) (withStatus .cleared (input.updatedAt.getD nowIso)) := by
  unfold markRuntimeWarmupSessionReady
  cases found : findRuntimeWarmupSessionById rows id with
  | none => exact .inl rfl
  | some existing =>
    obtain ⟨inside, named⟩ := mem_of_findRuntimeWarmupSessionById found
    dsimp only
    split
    next unchanged =>
      refine .inl (updateWhere_of_none fun row inside => ?_)
      exact Bool.eq_false_iff.mpr (List.countP_eq_zero.mp unchanged row inside)
    next changed =>
      obtain ⟨row, inRow, pending⟩ := List.countP_pos_iff.mp (Nat.pos_of_ne_zero changed)
      obtain ⟨sameId, creating⟩ := isPending_iff.mp pending
      have same := List.inj_on_of_nodup_map distinct inRow inside (sameId.trans named.symm)
      exact .inr ⟨existing, inside, named, same ▸ creating, rfl⟩

end Rows

/-! ### Invariants -/

/-- Ids are unique and at most one session of a scope is ready. -/
structure Consistent (rows : Table) : Prop where
  ids : (rows.map (·.id)).Nodup
  oneReady : OneReady rows

section Invariants

variable {rows rows' : Table} {row : RuntimeWarmupSessionRow}

theorem OneReady.of_subset (one : OneReady rows)
    (old : ∀ row ∈ rows', row.status = .ready → row ∈ rows) : OneReady rows' :=
  fun row inside other inOther ready ready' =>
    one row (old row inside ready) other (old other inOther ready') ready ready'

theorem mem_of_ready_updateWhere {p : RuntimeWarmupSessionRow → Bool}
    {f : RuntimeWarmupSessionRow → RuntimeWarmupSessionRow} (ends : ∀ row, (f row).status ≠ .ready)
    (inside : row ∈ updateWhere rows p f) (ready : row.status = .ready) :
    row ∈ rows ∧ p row = false := by
  obtain ⟨before, inBefore, ⟨-, rfl⟩ | ⟨unselected, rfl⟩⟩ := mem_updateWhere.mp inside
  · exact absurd ready (ends before)
  · exact ⟨inBefore, unselected⟩

theorem exec_create_cases (rows : Table) (input : CreateRuntimeWarmupSessionInput)
    (randomUUID nowIso : String) :
    exec rows (.create input randomUUID nowIso) = rows ∨
      randomUUID ∉ rows.map (·.id) ∧
        exec rows (.create input randomUUID nowIso) = rows ++ [newRow input randomUUID nowIso] := by
  by_cases used : randomUUID ∈ rows.map (·.id)
  · exact .inl (by rw [exec, createRuntimeWarmupSession, if_pos used]; rfl)
  · exact .inr ⟨used, by rw [exec, createRuntimeWarmupSession, if_neg used]; rfl⟩

theorem nodup_exec (distinct : (rows.map (·.id)).Nodup) (op : WarmupOp) :
    ((exec rows op).map (·.id)).Nodup := by
  cases op with
  | create input randomUUID nowIso =>
    obtain same | ⟨fresh, same⟩ := exec_create_cases rows input randomUUID nowIso
    · rwa [same]
    · rw [same, List.map_append]
      simpa [newRow] using (List.nodup_concat _ _).mpr ⟨fresh, distinct⟩
  | markReady id input nowIso =>
    obtain same | ⟨existing, -, -, -, same⟩ :=
      markRuntimeWarmupSessionReady_cases distinct id input nowIso
    · rwa [exec, same]
    · rw [exec, same]
      exact nodup_updateWhere (fun _ => rfl) (nodup_updateWhere (fun _ => rfl) distinct)
  | markFailed id errorMessage updatedAt => exact nodup_updateWhere (fun _ => rfl) distinct
  | clearActive input updatedAt => exact nodup_updateWhere (fun _ => rfl) distinct
  | expireStale nowIso => exact nodup_updateWhere (fun _ => rfl) distinct

/-- After a completion the ready sessions are the completed one and those of other scopes. -/
theorem ready_markReady (distinct : (rows.map (·.id)).Nodup)
    {existing : RuntimeWarmupSessionRow} {id now : String} {input : ReadyInput}
    (inside : existing ∈ rows) (named : existing.id = id) (creating : existing.status = .creating)
    (among : row ∈ updateWhere (updateWhere rows (isPending id) (readyRow input now))
      (isSibling existing id) (withStatus .cleared now)) (ready : row.status = .ready) :
    row = readyRow input now existing ∨
      row ∈ rows ∧ row.toRuntimeWarmupScopeInput ≠ existing.toRuntimeWarmupScopeInput := by
  obtain ⟨updated, notSibling⟩ :=
      mem_of_ready_updateWhere (fun _ other => by cases other) among ready
  obtain ⟨before, inBefore, ⟨pending, rfl⟩ | ⟨-, rfl⟩⟩ := mem_updateWhere.mp updated
  · have sameId := (isPending_iff.mp pending).1.trans named.symm
    exact .inl (by rw [List.inj_on_of_nodup_map distinct inBefore inside sameId])
  · refine .inr ⟨inBefore, fun sameScope => ?_⟩
    refine Bool.eq_false_iff.mp notSibling (isSibling_iff.mpr ⟨sameScope, ?_, fun sameId => ?_⟩)
    · exact isActive_iff.mpr (.inr ready)
    · -- the completed session was not ready before
      rw [List.inj_on_of_nodup_map distinct inBefore inside (sameId.trans named.symm)] at ready
      exact absurd (creating.symm.trans ready) (by decide)

/-- Every call keeps the table consistent. -/
theorem Consistent.exec (inv : Consistent rows) (op : WarmupOp) :
    Consistent (exec rows op) := by
  refine ⟨nodup_exec inv.ids op, ?_⟩
  cases op with
  | create input randomUUID nowIso =>
    obtain same | ⟨-, same⟩ := exec_create_cases rows input randomUUID nowIso
    · rw [same]
      exact inv.oneReady
    · rw [same]
      refine inv.oneReady.of_subset fun row inside ready => ?_
      rcases List.mem_append.mp inside with old | new
      · exact old
      · rw [List.mem_singleton.mp new] at ready
        cases ready
  | markReady id input nowIso =>
    obtain same | ⟨existing, inside, named, creating, same⟩ :=
      markRuntimeWarmupSessionReady_cases inv.ids id input nowIso
    · rw [Warmup.exec, same]
      exact inv.oneReady
    · rw [Warmup.exec, same]
      intro row among other amongOther ready ready' sameScope
      obtain rfl | ⟨old, differs⟩ := ready_markReady inv.ids inside named creating among ready <;>
        obtain rfl | ⟨old', differs'⟩ :=
          ready_markReady inv.ids inside named creating amongOther ready'
      · rfl
      · exact absurd sameScope.symm differs'
      · exact absurd sameScope differs
      · exact inv.oneReady row old other old' ready ready' sameScope
  | markFailed id errorMessage updatedAt =>
    exact inv.oneReady.of_subset fun row inside ready =>
      (mem_of_ready_updateWhere (fun _ other => by cases other) inside ready).1
  | clearActive input updatedAt =>
    exact inv.oneReady.of_subset fun row inside ready =>
      (mem_of_ready_updateWhere (fun _ other => by cases other) inside ready).1
  | expireStale nowIso =>
    exact inv.oneReady.of_subset fun row inside ready =>
      (mem_of_ready_updateWhere (fun _ other => by cases other) inside ready).1

theorem Consistent.foldl (inv : Consistent rows) (ops : List WarmupOp) :
    Consistent (ops.foldl Warmup.exec rows) := by
  induction ops generalizing rows with
  | nil => exact inv
  | cons op ops ih => exact ih (inv.exec op)

theorem consistent_run (ops : List WarmupOp) : Consistent (run ops) :=
  have start : Consistent [] := ⟨List.nodup_nil, fun _ inside => absurd inside List.not_mem_nil⟩
  start.foldl ops

end Invariants

/-! ### Ended sessions -/

/-- A session keeps its scope, and is active only if it was. -/
structure ActiveBack (row next : RuntimeWarmupSessionRow) : Prop where
  scope : next.toRuntimeWarmupScopeInput = row.toRuntimeWarmupScopeInput
  active : next.isActive = true → row.isActive = true

/-- An ended session keeps its status. -/
def EndedKept (row next : RuntimeWarmupSessionRow) : Prop :=
  row.status.isTerminal = true → next.status = row.status

theorem ActiveBack.refl (row : RuntimeWarmupSessionRow) : ActiveBack row row :=
  ⟨rfl, fun active => active⟩

theorem ActiveBack.trans (a b c : RuntimeWarmupSessionRow) (first : ActiveBack a b)
    (second : ActiveBack b c) : ActiveBack a c :=
  ⟨second.scope.trans first.scope, fun active => first.active (second.active active)⟩

theorem EndedKept.trans (a b c : RuntimeWarmupSessionRow) (first : EndedKept a b)
    (second : EndedKept b c) : EndedKept a c := by
  intro ended
  have same := first ended
  exact (second (by rw [same]; exact ended)).trans same

section Runs

variable {rows : Table}

theorem activeBack_ends {f : RuntimeWarmupSessionRow → RuntimeWarmupSessionRow}
    (scope : ∀ row, (f row).toRuntimeWarmupScopeInput = row.toRuntimeWarmupScopeInput)
    (ends : ∀ row, (f row).isActive = false) (row : RuntimeWarmupSessionRow) :
    ActiveBack row (f row) :=
  ⟨scope row, fun active => by rw [ends row] at active; cases active⟩

/-- No call makes a session active again. -/
theorem evolves_active (distinct : (rows.map (·.id)).Nodup) (op : WarmupOp) :
    Evolves (·.id) ActiveBack rows (exec rows op) := by
  have ends {f : RuntimeWarmupSessionRow → RuntimeWarmupSessionRow}
      {p : RuntimeWarmupSessionRow → Bool} {table : Table}
      (keeps : ∀ row, (f row).id = row.id)
      (scope : ∀ row, (f row).toRuntimeWarmupScopeInput = row.toRuntimeWarmupScopeInput)
      (ends : ∀ row, (f row).isActive = false) :
      Evolves (·.id) ActiveBack table (updateWhere table p f) :=
    evolves_updateWhere ActiveBack.refl keeps fun row _ _ => activeBack_ends scope ends row
  cases op with
  | create input randomUUID nowIso =>
    obtain same | ⟨-, same⟩ := exec_create_cases rows input randomUUID nowIso
    · rw [same]
      exact Evolves.refl ActiveBack.refl
    · rw [same]
      exact evolves_append ActiveBack.refl _
  | markReady id input nowIso =>
    obtain same | ⟨existing, -, -, -, same⟩ :=
      markRuntimeWarmupSessionReady_cases distinct id input nowIso
    · rw [exec, same]
      exact Evolves.refl ActiveBack.refl
    · rw [exec, same]
      have completed : Evolves (·.id) ActiveBack rows
          (updateWhere rows (isPending id) (readyRow input (input.updatedAt.getD nowIso))) :=
        evolves_updateWhere ActiveBack.refl (fun _ => rfl) fun row _ pending =>
          ⟨rfl, fun _ => isActive_iff.mpr (.inl (isPending_iff.mp pending).2)⟩
      exact completed.trans ActiveBack.trans
        (ends (fun _ => rfl) (fun _ => rfl) fun _ => rfl)
  | markFailed id errorMessage updatedAt =>
    exact ends (fun _ => rfl) (fun _ => rfl) fun _ => rfl
  | clearActive input updatedAt => exact ends (fun _ => rfl) (fun _ => rfl) fun _ => rfl
  | expireStale nowIso => exact ends (fun _ => rfl) (fun _ => rfl) fun _ => rfl

theorem evolves_ended_of_active {f : RuntimeWarmupSessionRow → RuntimeWarmupSessionRow}
    {p : RuntimeWarmupSessionRow → Bool} (keeps : ∀ row, (f row).id = row.id)
    (active : ∀ row, p row = true → row.isActive = true) :
    Evolves (·.id) EndedKept rows (updateWhere rows p f) := by
  refine evolves_updateWhere (fun _ _ => rfl) keeps fun row _ selected ended => ?_
  rw [← not_active_iff, active row selected] at ended
  cases ended

/-- Only the report of a failure can change an ended session, and none of a session that was
neither cleared nor has expired. -/
theorem evolves_ended (distinct : (rows.map (·.id)).Nodup) (op : WarmupOp)
    (unended : failsUnended rows op = true) :
    Evolves (·.id) EndedKept rows (exec rows op) := by
  have reflexive (row : RuntimeWarmupSessionRow) : EndedKept row row := fun _ => rfl
  cases op with
  | create input randomUUID nowIso =>
    obtain same | ⟨-, same⟩ := exec_create_cases rows input randomUUID nowIso
    · rw [same]
      exact Evolves.refl reflexive
    · rw [same]
      exact evolves_append reflexive _
  | markReady id input nowIso =>
    obtain same | ⟨existing, -, -, -, same⟩ :=
      markRuntimeWarmupSessionReady_cases distinct id input nowIso
    · rw [exec, same]
      exact Evolves.refl reflexive
    · rw [exec, same]
      have completed : Evolves (·.id) EndedKept rows
          (updateWhere rows (isPending id) (readyRow input (input.updatedAt.getD nowIso))) :=
        evolves_ended_of_active (fun _ => rfl) fun row pending =>
          isActive_iff.mpr (.inl (isPending_iff.mp pending).2)
      exact completed.trans EndedKept.trans
        (evolves_ended_of_active (fun _ => rfl) fun row sibling => (isSibling_iff.mp sibling).2.1)
  | markFailed id errorMessage updatedAt =>
    refine evolves_updateWhere reflexive (fun _ => rfl) fun row inside named ended => ?_
    rw [beq_iff_eq] at named
    have found := findRuntimeWarmupSessionById_of_mem distinct inside
    rw [named] at found
    rw [failsUnended, found, Option.all_some, Bool.and_eq_true, bne_iff_ne, bne_iff_ne] at unended
    show RuntimeWarmupSessionStatus.failed = row.status
    cases is : row.status with
    | creating => rw [is] at ended; cases ended
    | ready => rw [is] at ended; cases ended
    | failed => rfl
    | cleared => exact absurd is unended.1
    | expired => exact absurd is unended.2
  | clearActive input updatedAt =>
    exact evolves_ended_of_active (fun _ => rfl) fun row clears =>
      ((Bool.and_eq_true _ _).mp clears).2
  | expireStale nowIso =>
    exact evolves_ended_of_active (fun _ => rfl) fun row stale =>
      ((Bool.and_eq_true _ _).mp stale).1

/-- The report of a failure for a session that was cleared or has expired changes its status. -/
theorem not_kept_of_fails {id errorMessage updatedAt : String}
    (ended : failsUnended rows (.markFailed id errorMessage updatedAt) = false) :
    ∃ row ∈ rows, row.status.isTerminal = true ∧
      ∃ later ∈ exec rows (.markFailed id errorMessage updatedAt), later.id = row.id ∧
        later.status ≠ row.status := by
  rw [failsUnended] at ended
  cases found : findRuntimeWarmupSessionById rows id with
  | none =>
    rw [found] at ended
    cases ended
  | some row =>
    obtain ⟨inside, named⟩ := mem_of_findRuntimeWarmupSessionById found
    rw [found, Option.all_some] at ended
    refine ⟨row, inside, ?_, failedRow errorMessage updatedAt row, ?_, rfl, ?_⟩
    · cases is : row.status <;> rw [is] at ended <;> first | rfl | cases ended
    · exact mem_updateWhere.mpr ⟨row, inside, .inl ⟨beq_iff_eq.mpr named, rfl⟩⟩
    · show RuntimeWarmupSessionStatus.failed ≠ row.status
      intro same
      rw [← same] at ended
      cases ended

end Runs

/-! ### Every sequence of calls -/

theorem run_append (front middle : List WarmupOp) :
    run (front ++ middle) = middle.foldl exec (run front) := List.foldl_append

theorem along_append {ok : Table → WarmupOp → Prop} {rows : Table} {front back : List WarmupOp} :
    Along ok exec rows (front ++ back) ↔
      Along ok exec rows front ∧ Along ok exec (front.foldl exec rows) back := by
  induction front generalizing rows with
  | nil => exact (true_and _).symm ▸ Iff.rfl
  | cons op front ih =>
    rw [List.cons_append, Along, Along, ih, and_assoc]
    rfl

theorem along_any (rows : Table) (ops : List WarmupOp) :
    Along (fun _ _ => True) exec rows ops := by
  induction ops generalizing rows with
  | nil => trivial
  | cons op ops ih => exact ⟨trivial, ih (exec rows op)⟩

theorem along_nodup {rows : Table} (distinct : (rows.map (·.id)).Nodup) (ops : List WarmupOp)
    {ok : Table → WarmupOp → Prop} (holds : Along ok exec rows ops) :
    Along (fun rows op => (rows.map (·.id)).Nodup ∧ ok rows op) exec rows ops := by
  induction ops generalizing rows with
  | nil => trivial
  | cons op ops ih => exact ⟨⟨distinct, holds.1⟩, ih (nodup_exec distinct op) holds.2⟩

theorem noResurrection (ops : List WarmupOp) : NoResurrection ops := by
  intro front middle back _ row inside ended later inLater same ready
  have evolves : Evolves (·.id) ActiveBack (run front) (run (front ++ middle)) := by
    rw [run_append]
    exact evolves_foldl ActiveBack.refl ActiveBack.trans
      (fun rows op ok => evolves_active ok.1 op)
      (along_nodup (consistent_run front).ids middle (along_any _ middle))
  have back := evolves.of_key (consistent_run _).ids inside inLater same
  have active := back.active (isActive_iff.mpr (.inr ready))
  rw [← not_active_iff, active] at ended
  cases ended

/-- In every sequence of calls a scope has at most one ready session and no ended session
becomes ready; and ended sessions keep their status exactly if no failure is reported for a
session that was cleared or has expired. -/
theorem oneReady_and_final_iff (ops : List WarmupOp) :
    OneReady (run ops) ∧ NoResurrection ops ∧
      (TerminalFinal ops ↔ Along (fun rows op => failsUnended rows op = true) exec [] ops) := by
  refine ⟨(consistent_run ops).oneReady, noResurrection ops, ?_, ?_⟩
  · intro final
    suffices each : ∀ front back, ops = front ++ back →
        Along (fun rows op => failsUnended rows op = true) exec (run front) back from
      each [] ops rfl
    intro front back split
    induction back generalizing front with
    | nil => trivial
    | cons op back ih =>
      have later : ops = (front ++ [op]) ++ back := by rw [split, List.append_assoc]; rfl
      have rest := ih (front ++ [op]) later
      rw [run_append] at rest
      refine ⟨?_, rest⟩
      by_contra fails
      rw [Bool.not_eq_true] at fails
      cases op with
      | markFailed id errorMessage updatedAt =>
        obtain ⟨row, inside, ended, next, inNext, same, changed⟩ := not_kept_of_fails fails
        refine changed (final front [_] back later row inside ended next ?_ same)
        rw [run_append]
        exact inNext
      | create | markReady | clearActive | expireStale => cases fails
  · rintro along front middle back rfl row inside ended later inLater same
    have ahead := (along_append.mp (along_append.mp along).1).2
    have evolves := evolves_foldl (fun _ _ => rfl) EndedKept.trans
      (fun rows op ok => evolves_ended ok.1 op ok.2)
      (along_nodup (consistent_run front).ids middle ahead)
    rw [run_append] at inLater
    have ids := (consistent_run (front ++ middle)).ids
    rw [run_append] at ids
    exact evolves.of_key ids inside inLater same ended

/-- A creation for the scope of one profile. -/
def creation (id : String) : WarmupOp :=
  .create
    { projectId := "project", runtimeProfileId := none, runtimeId := "runtime"
      providerId := "provider", transport := none, model := none, stage := none
      ttlSeconds := 60, expiresAt := "2026-01-01T00:01:00.000Z", sourceSessionId := none
      summary := none, createdAt := none }
    id "2026-01-01T00:00:00.000Z"

/-- Two creations overlap; the second completes and the first fails after it. -/
def lateFailure : List WarmupOp :=
  [creation "first", creation "second",
    .markReady "second" ⟨"seed", none, none, none, none⟩ "2026-01-01T00:00:10.000Z",
    .markFailed "first" "timeout" "2026-01-01T00:00:20.000Z"]

/-- The session that the completion cleared is failed in the end. -/
theorem lateFailure_not_final :
    ¬ ∀ ops, OneReady (run ops) ∧ NoResurrection ops ∧ TerminalFinal ops := by
  intro holds
  have cleared : (run (lateFailure.take 3)).map (fun row => (row.id, row.status)) =
      [("first", .cleared), ("second", .ready)] := by decide
  have failed : (run lateFailure).map (fun row => (row.id, row.status)) =
      [("first", .failed), ("second", .ready)] := by decide
  obtain ⟨row, inside, is⟩ := List.mem_map.mp (cleared ▸ List.mem_cons_self)
  obtain ⟨later, inLater, isLater⟩ := List.mem_map.mp (failed ▸ List.mem_cons_self)
  obtain ⟨id, status⟩ := Prod.mk.inj is
  obtain ⟨id', status'⟩ := Prod.mk.inj isLater
  have kept := (holds lateFailure).2.2 (lateFailure.take 3) (lateFailure.drop 3) [] rfl row inside
    (by rw [status]; rfl) later inLater (id'.trans id.symm)
  rw [status, status'] at kept
  cases kept

end AifHandoff.Data.Warmup
