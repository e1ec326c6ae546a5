import AifHandoff.Data.ActivityLog

/-!
The activity log queue of the agent process (`agent/hooks.ts`).

In the mode `sync` every entry is appended to the log of its task at once. In the mode
`batch` the entries of a task wait in a queue, and a flush appends the whole queue as one
text: when the queue reaches the batch size, when the timer of the task fires, and on
request.
-/

namespace AifHandoff.Agent.ActivityQueue

open Data.ActivityLog Shared

/-! ### Entries -/

inductive ActivityCategory where
  | tool
  | agent
  | subagent
  deriving DecidableEq

def ActivityCategory.name : ActivityCategory → String
  | .tool => "Tool"
  | .agent => "Agent"
  | .subagent => "Subagent"

structure QueueEntry where
  timestamp : String
  category : ActivityCategory
  detail : String
  deriving DecidableEq

/-- `[timestamp] Category: detail`. -/
def QueueEntry.line (e : QueueEntry) : String :=
  "[" ++ e.timestamp ++ "] " ++ e.category.name ++ ": " ++ e.detail

/-- The text that a flush of the entries appends. -/
def newLines (entries : List QueueEntry) : String := Text.join "\n" (entries.map QueueEntry.line)

inductive ActivityLogMode where
  | sync
  | batch
  deriving DecidableEq

/-- The settings; both numbers are checked to be positive when they are read. -/
structure ActivityLogEnv where
  mode : ActivityLogMode
  batchSize : Nat
  queueLimit : Nat
  batchSize_pos : 1 ≤ batchSize
  queueLimit_pos : 1 ≤ queueLimit

/-! ### The queue -/

/-- The queues of the process, `[]` for a task without one, and the logs of the tasks. -/
structure Hooks where
  taskQueues : String → List QueueEntry
  agentActivityLog : String → Option String

def appendActivityLogToDb (s : Hooks) (taskId newLines : String) : Hooks :=
  { s with
    agentActivityLog := Function.update s.agentActivityLog taskId
      (appendTaskActivityLog (s.agentActivityLog taskId) newLines) }

def flushActivityQueue (s : Hooks) (taskId : String) : Hooks :=
  let queue := s.taskQueues taskId
  if queue = [] then s
  else
    appendActivityLogToDb { s with taskQueues := Function.update s.taskQueues taskId [] } taskId
      (newLines queue)

/-- Every queue is flushed; the order of the tasks makes no difference to any log. -/
def flushAllActivityQueues (s : Hooks) : Hooks where
  taskQueues _ := []
  agentActivityLog taskId := (flushActivityQueue s taskId).agentActivityLog taskId

/-- The queue with one more entry; a full one loses its oldest. -/
def enqueue (env : ActivityLogEnv) (queue : List QueueEntry) (e : QueueEntry) : List QueueEntry :=
  (if env.queueLimit ≤ queue.length then queue.tail else queue) ++ [e]

def logActivity (env : ActivityLogEnv) (s : Hooks) (taskId : String) (e : QueueEntry) : Hooks :=
  match env.mode with
  | .sync => appendActivityLogToDb s taskId e.line
  | .batch =>
    let queue := enqueue env (s.taskQueues taskId) e
    let s := { s with taskQueues := Function.update s.taskQueues taskId queue }
    if env.batchSize ≤ queue.length then flushActivityQueue s taskId else s

inductive ActivityCall where
  | logActivity (taskId : String) (e : QueueEntry)
  | flushActivityQueue (taskId : String)
  | flushAllActivityQueues
  | disposeActivityQueue (taskId : String)
  /-- The timer of a task fires. -/
  | maxAge (taskId : String)

/-- One call. An emptied queue and a deleted one are the same. -/
def exec (env : ActivityLogEnv) (s : Hooks) : ActivityCall → Hooks
  | .logActivity taskId e => logActivity env s taskId e
  | .flushActivityQueue taskId => flushActivityQueue s taskId
  | .flushAllActivityQueues => flushAllActivityQueues s
  | .disposeActivityQueue taskId => flushActivityQueue s taskId
  | .maxAge taskId => flushActivityQueue s taskId

def execAll (env : ActivityLogEnv) (s : Hooks) (calls : List ActivityCall) : Hooks :=
  calls.foldl (exec env) s

/-- No task has a queue. -/
def idleHooks (logs : String → Option String) : Hooks := ⟨fun _ => [], logs⟩

/-! ### What a run logs and what it flushes -/

/-- The entry that a call logs for the task. -/
def loggedBy (taskId : String) : ActivityCall → Option QueueEntry
  | .logActivity id e => if id = taskId then some e else none
  | _ => none

def logged (taskId : String) (calls : List ActivityCall) : List QueueEntry :=
  calls.filterMap (loggedBy taskId)

/-- The entries of the task that a call takes out of the queue in the mode `batch`. -/
def taken (env : ActivityLogEnv) (taskId : String) (s : Hooks) : ActivityCall → List QueueEntry
  | .logActivity id e =>
    let queue := enqueue env (s.taskQueues taskId) e
    if id = taskId ∧ env.batchSize ≤ queue.length then queue else []
  | .flushAllActivityQueues => s.taskQueues taskId
  | .flushActivityQueue id | .disposeActivityQueue id | .maxAge id =>
    if id = taskId then s.taskQueues taskId else []

/-- The batches of the task that a run flushes, in order. -/
def batches (env : ActivityLogEnv) (taskId : String) : Hooks → List ActivityCall →
    List (List QueueEntry)
  | _, [] => []
  | s, call :: rest =>
    let batch := taken env taskId s call
    (if batch = [] then [] else [batch]) ++ batches env taskId (exec env s call) rest

/-- The log with the entries behind it, each as it was logged. -/
def withEntries (agentActivityLog : Option String) (entries : List QueueEntry) : Option String :=
  entries.foldl (fun log e => some (updatedLog (log.getD "") e.line)) agentActivityLog

/-! ### Texts -/

section Texts

variable {log : Option String} {e : QueueEntry} {entries : List QueueEntry}

theorem utf16Length_line : 4 ≤ Text.utf16Length e.line := by
  have opening : Text.utf16Length "[" = 1 := by decide
  have closing : Text.utf16Length "] " = 2 := by decide
  have colon : Text.utf16Length ": " = 2 := by decide
  rw [QueueEntry.line]
  simp only [Text.utf16Length_append, opening, closing, colon]
  omega

theorem line_ne_empty : e.line ≠ "" := by
  intro empty
  have length := utf16Length_line (e := e)
  rw [empty] at length
  exact absurd length (by decide)

theorem newLines_singleton : newLines [e] = e.line := by
  simp [newLines, Text.join]

theorem newLines_cons (some_ : entries ≠ []) :
    newLines (e :: entries) = e.line ++ "\n" ++ newLines entries := by
  cases entries with
  | nil => exact absurd rfl some_
  | cons e' rest => simp [newLines, Text.join, String.intercalate_cons_cons]

theorem updatedLog_append {current first second : String} (some_ : first ≠ "") :
    updatedLog current (first ++ "\n" ++ second) = updatedLog (updatedLog current first) second := by
  unfold updatedLog
  by_cases empty : current = ""
  · simp [empty, some_]
  · simp [empty, String.append_eq_empty_iff, String.append_assoc]

theorem updatedLog_injective (current : String) : Function.Injective (updatedLog current) := by
  intro first second same
  unfold updatedLog at same
  split at same
  · exact same
  · exact (String.append_right_inj _).mp same

theorem updatedLog_newLines (some_ : entries ≠ []) :
    some (updatedLog (log.getD "") (newLines entries)) = withEntries log entries := by
  induction entries generalizing log with
  | nil => exact absurd rfl some_
  | cons e rest ih =>
    change _ = withEntries (some (updatedLog (log.getD "") e.line)) rest
    cases rest with
    | nil => rw [newLines_singleton]; rfl
    | cons e' rest =>
      rw [newLines_cons (List.cons_ne_nil _ _), updatedLog_append line_ne_empty,
        ← ih (List.cons_ne_nil _ _), Option.getD_some]

theorem withEntries_append (first second : List QueueEntry) :
    withEntries log (first ++ second) = withEntries (withEntries log first) second := by
  rw [withEntries, List.foldl_append]
  rfl

theorem utf16Length_newLines_cons (some_ : entries ≠ []) :
    Text.utf16Length (newLines (e :: entries)) =
      Text.utf16Length e.line + 1 + Text.utf16Length (newLines entries) := by
  have newline : Text.utf16Length "\n" = 1 := by decide
  rw [newLines_cons some_]
  simp only [Text.utf16Length_append, newline]

theorem utf16Length_newLines (some_ : entries ≠ []) : 4 ≤ Text.utf16Length (newLines entries) := by
  cases entries with
  | nil => exact absurd rfl some_
  | cons e rest =>
    have first := utf16Length_line (e := e)
    cases rest with
    | nil => rwa [newLines_singleton]
    | cons e' rest =>
      rw [utf16Length_newLines_cons (List.cons_ne_nil _ _)]
      omega

theorem line_of_newLines (inside : e ∈ entries) : newLines entries = e.line ∨
    Text.utf16Length e.line + 5 ≤ Text.utf16Length (newLines entries) := by
  induction entries with
  | nil => cases inside
  | cons e' rest ih =>
    cases rest with
    | nil => exact .inl (by rw [List.mem_singleton.mp inside, newLines_singleton])
    | cons e'' rest =>
      right
      have some_ : e'' :: rest ≠ [] := List.cons_ne_nil _ _
      have first := utf16Length_line (e := e')
      have others := utf16Length_newLines some_
      rw [utf16Length_newLines_cons some_]
      rcases List.mem_cons.mp inside with rfl | later
      · omega
      · rcases ih later with same | fits
        · rw [same]
          omega
        · omega

theorem fitsLimit_line (inside : e ∈ entries) (fits : FitsLimit (newLines entries)) :
    FitsLimit e.line := by
  rcases line_of_newLines inside with same | shorter
  · rwa [← same]
  · left
    rcases fits with short | ⟨cut, _⟩
    · omega
    · omega

end Texts

/-! ### Runs in the mode `batch` -/

section Runs

variable {env : ActivityLogEnv} {taskId : String} {s : Hooks} {call : ActivityCall}
  {calls : List ActivityCall}

theorem taskQueues_flushActivityQueue (s : Hooks) (id taskId : String) :
    (flushActivityQueue s id).taskQueues taskId =
      if id = taskId then [] else s.taskQueues taskId := by
  rw [flushActivityQueue]
  by_cases same : id = taskId
  · subst same
    by_cases empty : s.taskQueues id = []
    · simp [empty]
    · simp [empty, appendActivityLogToDb]
  · rw [if_neg same]
    split
    · rfl
    · exact Function.update_of_ne (Ne.symm same) _ _

/-- The log behind a batch, the same log without one. -/
def withBatch (log : Option String) (batch : List QueueEntry) : Option String :=
  if batch = [] then log else appendTaskActivityLog log (newLines batch)

theorem agentActivityLog_flushActivityQueue (s : Hooks) (id taskId : String) :
    (flushActivityQueue s id).agentActivityLog taskId =
      withBatch (s.agentActivityLog taskId) (if id = taskId then s.taskQueues taskId else []) := by
  rw [flushActivityQueue, withBatch]
  by_cases same : id = taskId
  · subst same
    by_cases empty : s.taskQueues id = []
    · simp [empty]
    · simp [empty, appendActivityLogToDb]
  · rw [if_neg same, if_pos rfl]
    split
    · rfl
    · exact Function.update_of_ne (Ne.symm same) _ _

theorem enqueue_of_short (enough : env.batchSize ≤ env.queueLimit) {queue : List QueueEntry}
    (short : queue.length < env.batchSize) (e : QueueEntry) : enqueue env queue e = queue ++ [e] := by
  rw [enqueue, if_neg (by omega)]

/-- What a step takes out of the queue of a task, what it leaves in it, and what it
appends to the log. -/
structure Takes (env : ActivityLogEnv) (taskId : String) (before after : Hooks)
    (entry : Option QueueEntry) (batch : List QueueEntry) : Prop where
  queue : before.taskQueues taskId ++ entry.toList = batch ++ after.taskQueues taskId
  short : (after.taskQueues taskId).length < env.batchSize
  log : after.agentActivityLog taskId = withBatch (before.agentActivityLog taskId) batch

theorem takes_flushActivityQueue (short : (s.taskQueues taskId).length < env.batchSize)
    (id : String) : Takes env taskId s (flushActivityQueue s id) none
      (if id = taskId then s.taskQueues taskId else []) where
  queue := by
    rw [taskQueues_flushActivityQueue]
    split <;> simp
  short := by
    rw [taskQueues_flushActivityQueue]
    split
    · exact env.batchSize_pos
    · exact short
  log := agentActivityLog_flushActivityQueue s id taskId

theorem takes_logActivity (batched : env.mode = .batch) (enough : env.batchSize ≤ env.queueLimit)
    (short : (s.taskQueues taskId).length < env.batchSize) (id : String) (e : QueueEntry) :
    Takes env taskId s (logActivity env s id e) (loggedBy taskId (.logActivity id e))
      (taken env taskId s (.logActivity id e)) := by
  simp only [logActivity, batched, loggedBy, taken]
  by_cases same : id = taskId
  · subst same
    rw [enqueue_of_short enough short]
    generalize grown : s.taskQueues id ++ [e] = queue
    by_cases full : env.batchSize ≤ queue.length
    · rw [if_pos full, if_pos rfl, if_pos ⟨rfl, full⟩]
      refine ⟨?_, ?_, ?_⟩
      · simpa [taskQueues_flushActivityQueue] using grown
      · simp only [taskQueues_flushActivityQueue, if_true]
        exact env.batchSize_pos
      · simp [agentActivityLog_flushActivityQueue]
    · rw [if_neg full, if_pos rfl, if_neg fun both => full both.2]
      refine ⟨?_, ?_, rfl⟩
      · simpa using grown
      · simpa using full
  · rw [if_neg same, if_neg (show ¬ (id = taskId ∧ _) from fun both => same both.1)]
    generalize enqueue env (s.taskQueues id) e = queue
    have others : Function.update s.taskQueues id queue taskId = s.taskQueues taskId :=
      Function.update_of_ne (Ne.symm same) _ _
    split
    · have flushed := takes_flushActivityQueue
        (show (Hooks.taskQueues ⟨Function.update s.taskQueues id queue, s.agentActivityLog⟩
          taskId).length < env.batchSize by simpa only [others] using short) id
      rw [if_neg same] at flushed
      exact ⟨by simpa [others] using flushed.queue, flushed.short, flushed.log⟩
    · exact ⟨by simp [others], by simpa only [others] using short, rfl⟩

theorem taken_of_call (batched : env.mode = .batch) (enough : env.batchSize ≤ env.queueLimit)
    (short : (s.taskQueues taskId).length < env.batchSize) (call : ActivityCall) :
    Takes env taskId s (exec env s call) (loggedBy taskId call) (taken env taskId s call) := by
  cases call with
  | logActivity id e => exact takes_logActivity batched enough short id e
  | flushActivityQueue id => exact takes_flushActivityQueue short id
  | flushAllActivityQueues =>
    refine ⟨by simp [loggedBy, taken, exec, flushAllActivityQueues], env.batchSize_pos, ?_⟩
    have all := agentActivityLog_flushActivityQueue s taskId taskId
    rwa [if_pos rfl] at all
  | disposeActivityQueue id => exact takes_flushActivityQueue short id
  | maxAge id => exact takes_flushActivityQueue short id

theorem logged_cons : logged taskId (call :: calls) =
    (loggedBy taskId call).toList ++ logged taskId calls := by
  cases found : loggedBy taskId call <;> simp [logged, found]

theorem flatten_batches_cons : (batches env taskId s (call :: calls)).flatten =
    taken env taskId s call ++ (batches env taskId (exec env s call) calls).flatten := by
  rw [batches]
  split
  · rename_i none_
    simp [none_]
  · simp

theorem takes_of_calls (batched : env.mode = .batch) (enough : env.batchSize ≤ env.queueLimit)
    (short : (s.taskQueues taskId).length < env.batchSize) (calls : List ActivityCall) :
    s.taskQueues taskId ++ logged taskId calls =
        (batches env taskId s calls).flatten ++ (execAll env s calls).taskQueues taskId ∧
      (execAll env s calls).agentActivityLog taskId =
        (batches env taskId s calls).foldl withBatch (s.agentActivityLog taskId) := by
  induction calls generalizing s with
  | nil => simp [batches, logged, execAll]
  | cons call rest ih =>
    have first := taken_of_call batched enough short call
    obtain ⟨queue, log⟩ := ih first.short
    constructor
    · rw [logged_cons, flatten_batches_cons, ← List.append_assoc, first.queue,
        List.append_assoc, queue, ← List.append_assoc]
      rfl
    · refine log.trans ?_
      rw [first.log, batches, List.foldl_append]
      split
      · rename_i none_
        simp [withBatch, none_]
      · rfl

theorem withBatch_eq_iff {log : Option String} {batch : List QueueEntry} (some_ : batch ≠ [])
    (quiet : Quiet (newLines batch)) :
    withBatch log batch = withEntries log batch ↔ FitsLimit (newLines batch) := by
  rw [withBatch, if_neg some_, ← updatedLog_newLines some_, appendTaskActivityLog,
    Option.some_inj, (updatedLog_injective _).eq_iff]
  exact redactProviderText_eq_self_iff quiet

/-- In every state of the run the log has the entries flushed so far, each as it was
logged. -/
def EntriesKept (env : ActivityLogEnv) (taskId : String) (s : Hooks)
    (calls : List ActivityCall) : Prop :=
  ∀ before, before <+: calls → (execAll env s before).agentActivityLog taskId =
    withEntries (s.agentActivityLog taskId) (batches env taskId s before).flatten

theorem entriesKept_cons : EntriesKept env taskId s (call :: calls) ↔
    (exec env s call).agentActivityLog taskId =
        withEntries (s.agentActivityLog taskId) (taken env taskId s call) ∧
      EntriesKept env taskId (exec env s call) calls := by
  have later (before : List ActivityCall)
      (first : (exec env s call).agentActivityLog taskId =
        withEntries (s.agentActivityLog taskId) (taken env taskId s call)) :
      withEntries (s.agentActivityLog taskId) (batches env taskId s (call :: before)).flatten =
        withEntries ((exec env s call).agentActivityLog taskId)
          (batches env taskId (exec env s call) before).flatten := by
    rw [flatten_batches_cons, withEntries_append, first]
  constructor
  · intro kept
    have first : (exec env s call).agentActivityLog taskId =
        withEntries (s.agentActivityLog taskId) (taken env taskId s call) := by
      have one := kept [call] (by simp)
      rwa [flatten_batches_cons, batches, List.flatten_nil, List.append_nil] at one
    refine ⟨first, fun before inside => ?_⟩
    rw [← later before first]
    exact kept (call :: before) ((List.prefix_cons_inj call).mpr inside)
  · rintro ⟨first, rest⟩ before inside
    cases before with
    | nil => rfl
    | cons call' before =>
      obtain ⟨rfl, shorter⟩ := List.cons_prefix_cons.mp inside
      rw [later before first]
      exact rest before shorter

theorem entriesKept_iff (batched : env.mode = .batch) (enough : env.batchSize ≤ env.queueLimit)
    (short : (s.taskQueues taskId).length < env.batchSize)
    (quiet : ∀ batch ∈ batches env taskId s calls, Quiet (newLines batch)) :
    EntriesKept env taskId s calls ↔
      ∀ batch ∈ batches env taskId s calls, FitsLimit (newLines batch) := by
  induction calls generalizing s with
  | nil =>
    refine iff_of_true (fun before inside => ?_) (fun batch among => ?_)
    · rw [List.prefix_nil.mp inside]
      rfl
    · cases among
  | cons call rest ih =>
    have first := taken_of_call batched enough short call
    rw [entriesKept_cons, first.log]
    rw [batches] at quiet ⊢
    split at quiet
    · rename_i none_
      rw [none_, if_pos rfl]
      simpa [withBatch, withEntries] using ih first.short quiet
    · rename_i some_
      rw [if_neg some_]
      rw [List.singleton_append, List.forall_mem_cons] at quiet ⊢
      rw [withBatch_eq_iff some_ quiet.1, ih first.short quiet.2]

end Runs

/-! ### The two modes -/

section Modes

variable {env : ActivityLogEnv} {logs : String → Option String} {taskId : String}
  {calls : List ActivityCall}

def ActivityLogEnv.inMode (env : ActivityLogEnv) (mode : ActivityLogMode) : ActivityLogEnv :=
  { env with mode }

/-- The log of a task after the calls and a final flush, from empty queues. -/
def finalLog (env : ActivityLogEnv) (logs : String → Option String) (taskId : String)
    (calls : List ActivityCall) : Option String :=
  (execAll env (idleHooks logs) (calls ++ [.flushActivityQueue taskId])).agentActivityLog taskId

/-- The mode makes no difference, and every entry is in the log, in order, as it was
logged. -/
def BatchingChangesNothing (env : ActivityLogEnv) (logs : String → Option String)
    (taskId : String) (calls : List ActivityCall) : Prop :=
  finalLog (env.inMode .batch) logs taskId calls = finalLog (env.inMode .sync) logs taskId calls ∧
    finalLog (env.inMode .batch) logs taskId calls =
      withEntries (logs taskId) (logged taskId calls)

/-- The log with the entries behind it, each appended on its own. -/
def withAppends (log : Option String) (entries : List QueueEntry) : Option String :=
  entries.foldl (fun log e => appendTaskActivityLog log e.line) log

theorem exec_sync (taskId : String) (synced : env.mode = .sync) {s : Hooks}
    (empty : ∀ id, s.taskQueues id = []) (call : ActivityCall) :
    (∀ id, (exec env s call).taskQueues id = []) ∧
      (exec env s call).agentActivityLog taskId =
        withAppends (s.agentActivityLog taskId) (loggedBy taskId call).toList := by
  have still (id : String) : flushActivityQueue s id = s := by
    rw [flushActivityQueue, if_pos (empty id)]
  cases call with
  | logActivity id e =>
    simp only [exec, logActivity, synced]
    refine ⟨empty, ?_⟩
    by_cases same : id = taskId
    · subst same
      simp [loggedBy, appendActivityLogToDb, withAppends]
    · simp [loggedBy, same, appendActivityLogToDb, withAppends,
        Function.update_of_ne (Ne.symm same)]
  | flushAllActivityQueues => exact ⟨fun _ => rfl, by simp [exec, flushAllActivityQueues, still]; rfl⟩
  | flushActivityQueue id => exact ⟨by simpa [exec, still] using empty, by rw [exec, still]; rfl⟩
  | disposeActivityQueue id => exact ⟨by simpa [exec, still] using empty, by rw [exec, still]; rfl⟩
  | maxAge id => exact ⟨by simpa [exec, still] using empty, by rw [exec, still]; rfl⟩

theorem execAll_sync (synced : env.mode = .sync) {s : Hooks} (empty : ∀ id, s.taskQueues id = [])
    (calls : List ActivityCall) : (execAll env s calls).agentActivityLog taskId =
      withAppends (s.agentActivityLog taskId) (logged taskId calls) := by
  induction calls generalizing s with
  | nil => rfl
  | cons call rest ih =>
    obtain ⟨empty', first⟩ := exec_sync taskId synced empty call
    change (execAll env (exec env s call) rest).agentActivityLog taskId = _
    rw [ih empty', first, logged_cons, withAppends, withAppends, withAppends, List.foldl_append]

theorem withAppends_eq_withEntries {entries : List QueueEntry}
    (quiet : ∀ e ∈ entries, Quiet e.line) (fits : ∀ e ∈ entries, FitsLimit e.line)
    (log : Option String) :
    withAppends log entries = withEntries log entries := by
  induction entries generalizing log with
  | nil => simp only [withAppends, withEntries, List.foldl_nil]
  | cons e rest ih =>
    have first : e ∈ e :: rest := List.mem_cons_self ..
    have same : redactProviderText e.line = e.line :=
      (redactProviderText_eq_self_iff (quiet e first)).mpr (fits e first)
    have kept : appendTaskActivityLog log e.line = some (updatedLog (log.getD "") e.line) := by
      simp only [appendTaskActivityLog, same]
    change withAppends (appendTaskActivityLog log e.line) rest = _
    rw [kept]
    exact ih (fun e' among => quiet e' (List.mem_cons_of_mem _ among))
      (fun e' among => fits e' (List.mem_cons_of_mem _ among)) _

theorem logged_concat_flush :
    logged taskId (calls ++ [.flushActivityQueue taskId]) = logged taskId calls := by
  simp [logged, loggedBy]

theorem flatten_batches_of_flush (batched : env.mode = .batch)
    (enough : env.batchSize ≤ env.queueLimit) :
    (batches env taskId (idleHooks logs) (calls ++ [.flushActivityQueue taskId])).flatten =
      logged taskId calls := by
  have idle : ((idleHooks logs).taskQueues taskId).length < env.batchSize := env.batchSize_pos
  have all := (takes_of_calls batched enough idle (calls ++ [.flushActivityQueue taskId])).1
  have flushed : (execAll env (idleHooks logs)
      (calls ++ [.flushActivityQueue taskId])).taskQueues taskId = [] := by
    rw [execAll, List.foldl_append]
    simp [exec, taskQueues_flushActivityQueue]
  rw [flushed, logged_concat_flush] at all
  simpa [idleHooks] using all.symm

/-- Where no pattern is found in the text of a batch, every state of a run keeps the
entries exactly when the text of each batch fits, and then the mode changes nothing. -/
theorem batching_changes_nothing_of_fits (enough : env.batchSize ≤ env.queueLimit)
    (quiet : ∀ e ∈ logged taskId calls, Quiet e.line)
    (joined : ∀ batch ∈ batches (env.inMode .batch) taskId (idleHooks logs)
      (calls ++ [.flushActivityQueue taskId]), Quiet (newLines batch)) :
    (EntriesKept (env.inMode .batch) taskId (idleHooks logs)
        (calls ++ [.flushActivityQueue taskId]) ↔
      ∀ batch ∈ batches (env.inMode .batch) taskId (idleHooks logs)
        (calls ++ [.flushActivityQueue taskId]), FitsLimit (newLines batch)) ∧
    ((∀ batch ∈ batches (env.inMode .batch) taskId (idleHooks logs)
        (calls ++ [.flushActivityQueue taskId]), FitsLimit (newLines batch)) →
      BatchingChangesNothing env logs taskId calls) := by
  have idle : ((idleHooks logs).taskQueues taskId).length < (env.inMode .batch).batchSize :=
    env.batchSize_pos
  have batched : (env.inMode .batch).mode = .batch := rfl
  have enough' : (env.inMode .batch).batchSize ≤ (env.inMode .batch).queueLimit := enough
  have iff_ := entriesKept_iff batched enough' idle joined
  refine ⟨iff_, fun fits => ?_⟩
  have flushed : (batches (env.inMode .batch) taskId (idleHooks logs)
      (calls ++ [.flushActivityQueue taskId])).flatten = logged taskId calls :=
    flatten_batches_of_flush rfl enough
  have kept := iff_.mpr fits _ (List.prefix_refl _)
  rw [flushed] at kept
  have fitting (e : QueueEntry) (inside : e ∈ logged taskId calls) : FitsLimit e.line := by
    rw [← flushed] at inside
    obtain ⟨batch, among, inBatch⟩ := List.mem_flatten.mp inside
    exact fitsLimit_line inBatch (fits batch among)
  have synced : finalLog (env.inMode .sync) logs taskId calls =
      withEntries (logs taskId) (logged taskId calls) := by
    rw [finalLog, execAll_sync rfl fun _ => rfl, logged_concat_flush]
    exact withAppends_eq_withEntries quiet fitting _
  exact ⟨kept.trans synced.symm, kept⟩

/-- The default settings of the mode `batch`. -/
def defaultEnv : ActivityLogEnv := ⟨.batch, 20, 500, by decide, by decide⟩

/-- Two entries and a flush between them. -/
def twoEntries : List ActivityCall :=
  [.logActivity "task" ⟨"1", .tool, "a"⟩, .flushActivityQueue "task",
    .logActivity "task" ⟨"2", .agent, "b"⟩]

theorem batching_changes_nothing_of_fits_twoEntries :
    BatchingChangesNothing defaultEnv (fun _ => none) "task" twoEntries := by
  have flushes : batches (defaultEnv.inMode .batch) "task" (idleHooks fun _ => none)
      (twoEntries ++ [.flushActivityQueue "task"]) =
        [[⟨"1", .tool, "a"⟩], [⟨"2", .agent, "b"⟩]] := by decide
  refine (batching_changes_nothing_of_fits (by decide) ?_ ?_).2 ?_
  · decide
  · rw [flushes]
    decide
  · rw [flushes]
    decide

def readEntry : QueueEntry := ⟨"2026-01-01T00:00:00.000Z", .tool, "Read"⟩

theorem utf16Length_newLines_replicate (e : QueueEntry) (n : Nat) :
    Text.utf16Length (newLines (List.replicate (n + 1) e)) + 1 =
      (n + 1) * (Text.utf16Length e.line + 1) := by
  induction n with
  | zero => simp [newLines_singleton]
  | succ n ih =>
    have some_ : List.replicate (n + 1) e ≠ [] := by simp
    rw [List.replicate_succ, utf16Length_newLines_cons some_, Nat.add_assoc, ih]
    rw [Nat.succ_mul (n + 1), Nat.add_comm]

theorem toList_readEntry :
    readEntry.line.toList = "[2026-01-01T00:00:00.000Z] Tool: Read".toList := by
  simp only [QueueEntry.line, readEntry, String.toList_append]
  rfl

theorem quiet_readEntry : Quiet readEntry.line :=
  quiet_of_toList toList_readEntry (by decide)

/-- With the default settings twenty short entries become one text, and most of it is cut
off. -/
theorem batching_cuts_twenty_entries :
    ¬ ∀ (env : ActivityLogEnv) (logs : String → Option String) (taskId : String)
      (calls : List ActivityCall), env.batchSize ≤ env.queueLimit →
      (∀ e ∈ logged taskId calls, Quiet e.line) →
      BatchingChangesNothing env logs taskId calls := by
  intro all
  let calls : List ActivityCall := List.replicate 20 (.logActivity "task" readEntry)
  have loggedEntries : logged "task" calls = List.replicate 20 readEntry := by decide
  have flushes : batches (defaultEnv.inMode .batch) "task" (idleHooks fun _ => none)
      (calls ++ [.flushActivityQueue "task"]) = [List.replicate 20 readEntry] := by decide
  have quiet : ∀ e ∈ logged "task" calls, Quiet e.line := by
    rw [loggedEntries]
    intro e inside
    rw [List.eq_of_mem_replicate inside]
    exact quiet_readEntry
  have kept := (all defaultEnv (fun _ => none) "task" calls (by decide) quiet).2
  have some_ : List.replicate 20 readEntry ≠ [] := by decide
  have idle : ((idleHooks fun _ => none).taskQueues "task").length <
      (defaultEnv.inMode .batch).batchSize := by decide
  have batched : (defaultEnv.inMode .batch).mode = .batch := rfl
  have stored := (takes_of_calls batched (by decide) idle
    (calls ++ [.flushActivityQueue "task"])).2
  rw [loggedEntries, ← updatedLog_newLines some_] at kept
  rw [flushes, List.foldl_cons, List.foldl_nil, withBatch, if_neg some_] at stored
  have same := kept.symm.trans stored
  have cut := updatedLog_injective _ (Option.some.inj same)
  have short := utf16Length_redactProviderText_le (newLines (List.replicate 20 readEntry))
  have long : Text.utf16Length (newLines (List.replicate 20 readEntry)) + 1 =
      20 * (Text.utf16Length readEntry.line + 1) := by
    have twenty : 20 = 19 + 1 := rfl
    rw [twenty]
    exact utf16Length_newLines_replicate readEntry 19
  have line : Text.utf16Length readEntry.line = 37 := by
    rw [Text.utf16Length, toList_readEntry]
    decide
  have limit : maxProviderMetaStringLength = 256 := rfl
  rw [← cut] at short
  omega

end Modes

end AifHandoff.Agent.ActivityQueue
