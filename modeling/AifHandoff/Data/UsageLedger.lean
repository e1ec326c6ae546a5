import AifHandoff.Lib.Transition
import AifHandoff.Shared.UsageSchema

/-!
Usage events and the totals they are rolled up into (`recordUsageEvent`, `data/index.ts`),
across upgrades of the database.
-/

namespace AifHandoff.Data

open Shared Transition

/-! ### Events -/

structure UsageContext where
  source : String
  projectId : Option String
  taskId : Option String
  chatSessionId : Option String
deriving DecidableEq

structure Usage where
  inputTokens : Int
  outputTokens : Int
  totalTokens : Int
  costUsd : Option Rat
deriving DecidableEq

structure DbUsageEvent where
  context : UsageContext
  runtimeId : String
  providerId : String
  profileId : Option String
  transport : Option String
  workflowKind : Option String
  usageReporting : String
  outcome : Option String
  errorCategory : Option String
  usage : Usage
deriving DecidableEq

def usageEventRow (event : DbUsageEvent) : UsageEventRow where
  source := event.context.source
  projectId := event.context.projectId
  taskId := event.context.taskId
  chatSessionId := event.context.chatSessionId
  runtimeId := event.runtimeId
  providerId := event.providerId
  profileId := event.profileId
  transport := event.transport
  workflowKind := event.workflowKind
  usageReporting := event.usageReporting
  outcome := event.outcome.getD "success"
  errorCategory := event.errorCategory
  inputTokens := event.usage.inputTokens
  outputTokens := event.usage.outputTokens
  totalTokens := event.usage.totalTokens
  costUsd := event.usage.costUsd

/-- What an event adds. -/
def DbUsageEvent.delta (event : DbUsageEvent) : Totals where
  tokenInput := event.usage.inputTokens
  tokenOutput := event.usage.outputTokens
  tokenTotal := event.usage.totalTokens
  costUsd := event.usage.costUsd.getD 0

/-- An id that is given and not empty. -/
def scope (id : Option String) : Option String := id.filter (· != "")

def taskScope (event : DbUsageEvent) : Option String := scope event.context.taskId

def projectScope (event : DbUsageEvent) : Option String := scope event.context.projectId

def chatScope (event : DbUsageEvent) : Option String := scope event.context.chatSessionId

section Code

variable (arithmetic : Arithmetic)

/-- The totals of a row behind an update of the row that is named. -/
def updated (named : Option String) (delta : Totals) (id : String) (totals : Totals) : Totals :=
  if named = some id then totals.plus arithmetic delta else totals

def addToTasks (event : DbUsageEvent) (db : Database) : Except SqliteError Database :=
  if (taskScope event).isNone then .ok db
  else if !hasTokenColumns db .tasks then .error (.noSuchColumn .tasks)
  else .ok { db with tasks := db.tasks.map fun row =>
    { row with totals := updated arithmetic (taskScope event) event.delta row.id row.totals } }

def addToProjects (event : DbUsageEvent) (db : Database) : Except SqliteError Database :=
  if (projectScope event).isNone then .ok db
  else if !hasTokenColumns db .projects then .error (.noSuchColumn .projects)
  else .ok { db with projects := db.projects.map fun row =>
    { row with totals := updated arithmetic (projectScope event) event.delta row.id row.totals } }

def addToChatSessions (event : DbUsageEvent) (db : Database) : Except SqliteError Database :=
  if (chatScope event).isNone then .ok db
  else if !hasTokenColumns db .chatSessions then .error (.noSuchColumn .chatSessions)
  else .ok { db with chatSessions := db.chatSessions.map fun row =>
    { row with totals := updated arithmetic (chatScope event) event.delta row.id row.totals } }

/-- One transaction: all of it, or nothing. -/
def recordUsageEvent (event : DbUsageEvent) (db : Database) : Except SqliteError Database :=
  ((addToTasks arithmetic event
      { db with usageEvents := db.usageEvents ++ [usageEventRow event] }).bind
    (addToProjects arithmetic event)).bind (addToChatSessions arithmetic event)

/-- The database with the rows updated that the event names. -/
def recorded (event : DbUsageEvent) (db : Database) : Database :=
  { db with
    usageEvents := db.usageEvents ++ [usageEventRow event]
    tasks := db.tasks.map fun row =>
      { row with totals := updated arithmetic (taskScope event) event.delta row.id row.totals }
    projects := db.projects.map fun row =>
      { row with totals := updated arithmetic (projectScope event) event.delta row.id row.totals }
    chatSessions := db.chatSessions.map fun row =>
      { row with totals := updated arithmetic (chatScope event) event.delta row.id row.totals } }

end Code

/-! ### What an event adds -/

/-- What goes to a row of the id. -/
def share (named : Option String) (delta : Totals) (id : String) : Totals :=
  if named = some id then delta else 0

/-- The database with the event added to the rows it names. -/
def added (event : DbUsageEvent) (db : Database) : Database :=
  { db with
    usageEvents := db.usageEvents ++ [usageEventRow event]
    tasks := db.tasks.map fun row =>
      { row with totals := row.totals + share (taskScope event) event.delta row.id }
    projects := db.projects.map fun row =>
      { row with totals := row.totals + share (projectScope event) event.delta row.id }
    chatSessions := db.chatSessions.map fun row =>
      { row with totals := row.totals + share (chatScope event) event.delta row.id } }

/-- The columns hold the new totals of the rows that the event names. -/
structure Fitting (event : DbUsageEvent) (db : Database) : Prop where
  tasks : ∀ row ∈ db.tasks, taskScope event = some row.id → (row.totals + event.delta).Fits
  projects : ∀ row ∈ db.projects, projectScope event = some row.id →
    (row.totals + event.delta).Fits
  chatSessions : ∀ row ∈ db.chatSessions, chatScope event = some row.id →
    (row.totals + event.delta).Fits

section Recording

variable {arithmetic : Arithmetic} {event : DbUsageEvent} {db db' : Database}

theorem share_none (delta : Totals) (id : String) : share none delta id = 0 := if_neg (by simp)

theorem updated_none (delta : Totals) (id : String) (totals : Totals) :
    updated arithmetic none delta id totals = totals := if_neg (by simp)

theorem updated_eq {named : Option String} {delta : Totals} {id : String} {totals : Totals}
    (fits : named = some id → (totals + delta).Fits) :
    updated arithmetic named delta id totals = totals + share named delta id := by
  unfold updated share
  split
  next isNamed => exact Totals.plus_of_fits arithmetic (fits isNamed)
  next => exact (add_zero totals).symm

theorem recorded_of_fitting (fitting : Fitting event db) :
    recorded arithmetic event db = added event db := by
  unfold recorded added
  congr 1
  · exact List.map_congr_left fun row inside => by rw [updated_eq (fitting.projects row inside)]
  · exact List.map_congr_left fun row inside => by rw [updated_eq (fitting.tasks row inside)]
  · exact List.map_congr_left fun row inside => by rw [updated_eq (fitting.chatSessions row inside)]

theorem addToTasks_ok (added_ : addToTasks arithmetic event db = .ok db') :
    db' = { db with tasks := db.tasks.map fun row => { row with
      totals := updated arithmetic (taskScope event) event.delta row.id row.totals } } := by
  unfold addToTasks at added_
  split at added_
  next none_ =>
    cases added_
    rw [Option.isNone_iff_eq_none.mp none_, map_self fun row => by rw [updated_none]]
  · split at added_ <;> cases added_
    rfl

theorem addToProjects_ok (added_ : addToProjects arithmetic event db = .ok db') :
    db' = { db with projects := db.projects.map fun row => { row with
      totals := updated arithmetic (projectScope event) event.delta row.id row.totals } } ∧
      (hasTokenColumns db .projects = true ∨ projectScope event = none) := by
  unfold addToProjects at added_
  split at added_
  next none_ =>
    cases added_
    rw [Option.isNone_iff_eq_none.mp none_, map_self fun row => by rw [updated_none]]
    exact ⟨rfl, .inr rfl⟩
  · split at added_
    · cases added_
    next columns =>
      cases added_
      exact ⟨rfl, .inl (by simpa using columns)⟩

theorem addToChatSessions_ok (added_ : addToChatSessions arithmetic event db = .ok db') :
    db' = { db with chatSessions := db.chatSessions.map fun row => { row with
      totals := updated arithmetic (chatScope event) event.delta row.id row.totals } } ∧
      (hasTokenColumns db .chatSessions = true ∨ chatScope event = none) := by
  unfold addToChatSessions at added_
  split at added_
  next none_ =>
    cases added_
    rw [Option.isNone_iff_eq_none.mp none_, map_self fun row => by rw [updated_none]]
    exact ⟨rfl, .inr rfl⟩
  · split at added_
    · cases added_
    next columns =>
      cases added_
      exact ⟨rfl, .inl (by simpa using columns)⟩

theorem record_eq (returned : recordUsageEvent arithmetic event db = .ok db') :
    db' = recorded arithmetic event db ∧ (hasTokenColumns db .projects = true ∨ projectScope event = none) ∧
      (hasTokenColumns db .chatSessions = true ∨ chatScope event = none) := by
  unfold recordUsageEvent at returned
  cases tasks : addToTasks arithmetic event
      { db with usageEvents := db.usageEvents ++ [usageEventRow event] } with
  | error error =>
    rw [tasks] at returned
    cases returned
  | ok afterTasks =>
    rw [tasks] at returned
    cases projects : addToProjects arithmetic event afterTasks with
    | error error =>
      rw [Except.bind, projects] at returned
      cases returned
    | ok afterProjects =>
      rw [Except.bind, projects] at returned
      change addToChatSessions arithmetic event afterProjects = _ at returned
      obtain rfl := addToTasks_ok tasks
      obtain ⟨rfl, columns⟩ := addToProjects_ok projects
      obtain ⟨rfl, columns'⟩ := addToChatSessions_ok returned
      exact ⟨rfl, columns, columns'⟩

end Recording

/-! ### Histories -/

/-- What the events of a scope add up to. -/
def named (scopeOf : DbUsageEvent → Option String) (events : List DbUsageEvent) (id : String) :
    Totals :=
  (events.map fun event => share (scopeOf event) event.delta id).sum

/-- A database with what happened to it. -/
structure History where
  db : Database
  /-- The tasks it started with. -/
  tasksAtStart : List Shared.TaskRow
  /-- The projects with the totals of their tasks when the token columns came. -/
  introduced : List ProjectRow
  /-- The chat sessions as they were then. -/
  chatSessions : List ChatSessionRow
  events : List DbUsageEvent
  /-- The events since then. -/
  since : List DbUsageEvent
deriving DecidableEq

/-- The projects with the totals of their tasks. -/
def withTasksTotals (db : Database) : List ProjectRow :=
  db.projects.map fun row => { row with totals := tasksTotal db.tasks row.id }

/-- At version 10 and later the columns hold what was counted before. -/
def History.start (db : Database) : History where
  db
  tasksAtStart := db.tasks
  introduced := if 10 ≤ db.userVersion then db.projects else withTasksTotals db
  chatSessions := (withUsage db).chatSessions
  events := []
  since := []

inductive Action where
  | record (event : DbUsageEvent)
  | upgrade

/-- An event is counted from the columns on. -/
def History.record (h : History) (event : DbUsageEvent) (db : Database) : History :=
  { h with
    db
    events := h.events ++ [event]
    since := if countsUsage h.db then h.since ++ [event] else h.since }

/-- The columns come with an upgrade where there are none. -/
def History.upgrade (h : History) (db : Database) : History :=
  { h with
    db
    introduced := if countsUsage h.db then h.introduced else withTasksTotals h.db }

/-- Histories that start at any version; at version 9 with the columns just added. -/
def histories (arithmetic : Arithmetic) : System History Action where
  init h := ∃ db, Schema db ∧ (db.userVersion = 9 → countsUsage db = true →
    ∀ row ∈ db.projects, row.totals = 0) ∧ h = .start db
  step h action h' := match action with
    | .record event => ∃ db, 9 ≤ h.db.userVersion ∧ recordUsageEvent arithmetic event h.db = .ok db ∧
        h' = h.record event db
    | .upgrade => ∃ db, ensureTables arithmetic h.db = .ok db ∧ h' = h.upgrade db

/-- What the tasks of a project hold goes to it without loss: where none has a positive token
total there is nothing, and no cost is rounded where one has. -/
structure Backfills (tasks : List Shared.TaskRow) (row : ProjectRow) : Prop where
  none_ : hasCountedTask tasks row.id = false → tasksTotal tasks row.id = 0
  addsUp : hasCountedTask tasks row.id = true → AddsUp ((tasksTotals tasks row.id).map Totals.costUsd)
  cost : hasCountedTask tasks row.id = true →
    IsReal (row.totals + tasksTotal tasks row.id).costUsd

/-- The new totals fit in their columns; between the columns and the totals of the tasks no event
names a task. -/
def CountsOnce (h : History) : Action → Prop
  | .record event => Fitting event h.db ∧ (10 ≤ h.db.userVersion ∨ countsUsage h.db = false ∨
      ∀ row ∈ h.db.tasks, taskScope event ≠ some row.id)
  | .upgrade => 10 ≤ h.db.userVersion ∨ ∀ row ∈ (withUsage h.db).projects,
      Backfills h.db.tasks row

/-- Every usage is counted once. -/
structure Counted (arithmetic : Arithmetic) (h : History) : Prop where
  tasks : h.db.tasks.map Shared.TaskRow.counted = h.tasksAtStart.map fun row =>
    (row.id, row.projectId, row.totals + named taskScope h.events row.id)
  chatSessions : countsUsage h.db = true → h.db.chatSessions = h.chatSessions.map fun row =>
    { row with totals := row.totals + named chatScope h.since row.id }
  projects : 10 ≤ h.db.userVersion → h.db.projects = h.introduced.map fun row =>
    { row with totals := row.totals + named projectScope h.since row.id }
  again : latestVersion ≤ h.db.userVersion → ensureTables arithmetic h.db = .ok h.db

/-- What every step keeps. -/
structure Counting (h : History) : Prop where
  schema : Schema h.db
  tasks : h.db.tasks.map Shared.TaskRow.counted = h.tasksAtStart.map fun row =>
    (row.id, row.projectId, row.totals + named taskScope h.events row.id)
  lacking : countsUsage h.db = false → h.since = [] ∧ h.chatSessions = (withUsage h.db).chatSessions
  chatSessions : countsUsage h.db = true → h.db.chatSessions = h.chatSessions.map fun row =>
    { row with totals := row.totals + named chatScope h.since row.id }
  /-- Before the totals of the tasks are added. -/
  before : countsUsage h.db = true → h.db.userVersion < 10 → h.introduced = withTasksTotals h.db ∧
    h.db.projects = h.introduced.map fun row =>
      { row with totals := named projectScope h.since row.id }
  projects : 10 ≤ h.db.userVersion → h.db.projects = h.introduced.map fun row =>
    { row with totals := row.totals + named projectScope h.since row.id }

section Steps

variable {arithmetic : Arithmetic} {h : History}

@[simp] theorem named_nil (scopeOf : DbUsageEvent → Option String) (id : String) :
    named scopeOf [] id = 0 := rfl

theorem named_concat (scopeOf : DbUsageEvent → Option String) (events : List DbUsageEvent)
    (event : DbUsageEvent) (id : String) : named scopeOf (events ++ [event]) id =
      named scopeOf events id + share (scopeOf event) event.delta id := by
  rw [named, List.map_append, List.sum_append, List.map_singleton, List.sum_singleton]
  rfl

theorem counts_of_ten (schema : Schema h.db) (ten : 10 ≤ h.db.userVersion) :
    countsUsage h.db = true := by
  rcases schema.usage with ⟨-, counts, -⟩ | ⟨old, -⟩
  · exact counts
  · omega

theorem map_same {α : Type} (l : List α) {f : α → α} (same : ∀ a ∈ l, f a = a) : l.map f = l := by
  rw [List.map_congr_left same, List.map_id']

theorem counting_start {db : Database} (schema : Schema db)
    (fresh : db.userVersion = 9 → countsUsage db = true → ∀ row ∈ db.projects, row.totals = 0) :
    Counting (.start db) where
  schema := schema
  tasks := by
    refine List.map_congr_left fun row _ => ?_
    rw [History.start, named_nil, add_zero]
    rfl
  lacking := fun _ => ⟨rfl, rfl⟩
  chatSessions := fun counts => by
    change db.chatSessions = (withUsage db).chatSessions.map _
    change countsUsage db = true at counts
    rw [withUsage_of_counts counts]
    exact (map_same _ fun row _ => by rw [History.start, named_nil, add_zero]).symm
  before := fun counts old => by
    change countsUsage db = true at counts
    change db.userVersion < 10 at old
    have nine : db.userVersion = 9 := by
      rcases schema.usage with ⟨new, -⟩ | ⟨-, lacks⟩
      · omega
      · rw [counts_of_lacks lacks] at counts
        cases counts
    have introduced : (History.start db).introduced = withTasksTotals db :=
      if_neg (Nat.not_le.mpr old)
    refine ⟨introduced, ?_⟩
    rw [introduced]
    change db.projects = ((db.projects).map _).map _
    rw [List.map_map]
    refine (map_same _ fun row inside => ?_).symm
    dsimp only [Function.comp, History.start]
    rw [named_nil, ← fresh nine counts row inside]
  projects := fun ten => by
    have introduced : (History.start db).introduced = db.projects := if_pos ten
    rw [introduced]
    exact (map_same _ fun row _ => by rw [History.start, named_nil, add_zero]).symm

theorem hasTokenColumns_of_lacks {db : Database} (lacks : lacksUsage db = true) {table : Table}
    (counted : table = .projects ∨ table = .chatSessions) : hasTokenColumns db table = false := by
  have absent := List.all_eq_true.mp lacks "token_input" List.mem_cons_self
  rw [Bool.and_eq_true, Bool.not_eq_true', Bool.not_eq_true'] at absent
  rw [← Bool.not_eq_true, hasTokenColumns_iff]
  intro all
  have present := all "token_input" List.mem_cons_self
  rcases counted with rfl | rfl
  · rw [absent.1] at present
    cases present
  · rw [absent.2] at present
    cases present

theorem counted_added (event : DbUsageEvent) (db : Database) :
    (added event db).tasks.map Shared.TaskRow.counted =
      (db.tasks.map Shared.TaskRow.counted).map fun row =>
        (row.1, row.2.1, row.2.2 + share (taskScope event) event.delta row.1) := by
  rw [List.map_map]
  change (db.tasks.map _).map _ = _
  rw [List.map_map]
  rfl

theorem counting_record {event : DbUsageEvent} {db : Database} (counting : Counting h)
    (ok : CountsOnce h (.record event)) (returned : recordUsageEvent arithmetic event h.db = .ok db) :
    Counting (h.record event db) := by
  obtain ⟨same, projectColumns, chatColumns⟩ := record_eq returned
  rw [same, recorded_of_fitting ok.1]
  have tasks : (added event h.db).tasks.map Shared.TaskRow.counted =
      h.tasksAtStart.map fun row =>
      (row.id, row.projectId, row.totals + named taskScope (h.events ++ [event]) row.id) := by
    rw [counted_added, counting.tasks, List.map_map]
    refine List.map_congr_left fun row _ => ?_
    dsimp only [Function.comp]
    rw [named_concat, add_assoc]
  cases counts : countsUsage h.db with
  | false =>
    have lacks : lacksUsage h.db = true := by
      rcases counting.schema.usage with ⟨-, present, -⟩ | ⟨-, lacks⟩
      · rw [counts] at present
        cases present
      · exact lacks
    have since : (h.record event (added event h.db)).since = h.since :=
      if_neg (by rw [counts]; exact Bool.false_ne_true)
    have noChat : chatScope event = none :=
      chatColumns.resolve_left fun columns => by
        rw [hasTokenColumns_of_lacks lacks (.inr rfl)] at columns
        cases columns
    have chats : (added event h.db).chatSessions = h.db.chatSessions :=
      map_same _ fun row _ => by rw [noChat, share_none, add_zero]
    have noProject : projectScope event = none :=
      projectColumns.resolve_left fun columns => by
        rw [hasTokenColumns_of_lacks lacks (.inl rfl)] at columns
        cases columns
    have projects : (added event h.db).projects = h.db.projects :=
      map_same _ fun row _ => by rw [noProject, share_none, add_zero]
    have absent : countsUsage (h.record event (added event h.db)).db = false := counts
    exact {
      schema := ⟨counting.schema.tasks, counting.schema.usage⟩
      tasks
      lacking := fun _ => by
        refine ⟨since.trans (counting.lacking counts).1, (counting.lacking counts).2.trans ?_⟩
        exact (@withUsage_congr h.db (added event h.db) rfl projects chats).2.symm
      chatSessions := fun present => by
        rw [absent] at present
        cases present
      before := fun present => by
        rw [absent] at present
        cases present
      projects := fun ten => by
        have present := counts_of_ten counting.schema ten
        rw [counts] at present
        cases present }
  | true =>
    have since : (h.record event (added event h.db)).since = h.since ++ [event] :=
      if_pos counts
    exact {
      schema := ⟨counting.schema.tasks, counting.schema.usage⟩
      tasks
      lacking := fun absent => by
        change countsUsage h.db = false at absent
        rw [counts] at absent
        cases absent
      chatSessions := fun _ => by
        rw [since]
        change h.db.chatSessions.map _ = h.chatSessions.map _
        rw [counting.chatSessions counts, List.map_map]
        refine List.map_congr_left fun row _ => ?_
        dsimp only [Function.comp]
        rw [named_concat, add_assoc]
      before := fun _ old => by
        change h.db.userVersion < 10 at old
        obtain ⟨introduced, projects⟩ := counting.before counts old
        have unnamed : ∀ row ∈ h.db.tasks, taskScope event ≠ some row.id := by
          rcases ok.2 with ten | absent | unnamed
          · exact absurd old (Nat.not_lt.mpr ten)
          · rw [counts] at absent
            cases absent
          · exact unnamed
        have sameTasks : (added event h.db).tasks = h.db.tasks :=
          map_same _ fun row inside => by rw [share, if_neg (unnamed row inside), add_zero]
        constructor
        · change h.introduced = withTasksTotals (added event h.db)
          rw [introduced, withTasksTotals, withTasksTotals, sameTasks]
          change _ = (h.db.projects.map _).map _
          rw [List.map_map]
          rfl
        · rw [since]
          change h.db.projects.map _ = h.introduced.map _
          rw [projects, List.map_map]
          refine List.map_congr_left fun row _ => ?_
          dsimp only [Function.comp]
          rw [named_concat]
      projects := fun ten => by
        rw [since]
        change h.db.projects.map _ = h.introduced.map _
        rw [counting.projects ten, List.map_map]
        refine List.map_congr_left fun row _ => ?_
        dsimp only [Function.comp]
        rw [named_concat, add_assoc] }

/-- An upgrade. -/
theorem counting_upgrade {db : Database} (counting : Counting h) (ok : CountsOnce h .upgrade)
    (returned : ensureTables arithmetic h.db = .ok db) : Counting (h.upgrade db) := by
  have upgraded := ensureTables_upgrade counting.schema returned
  have ten : 10 ≤ db.userVersion := le_trans (by decide) upgraded.userVersion
  have tasks : db.tasks.map Shared.TaskRow.counted = h.tasksAtStart.map fun row =>
      (row.id, row.projectId, row.totals + named taskScope h.events row.id) :=
    upgraded.tasks.trans counting.tasks
  have absent (none_ : countsUsage (h.upgrade db).db = false) : False := by
    change countsUsage db = false at none_
    rw [upgraded.counts] at none_
    cases none_
  have backfilled_ (old : ¬ 10 ≤ h.db.userVersion) (row : ProjectRow)
      (inside : row ∈ (withUsage h.db).projects) : backfill arithmetic h.db.tasks row =
        { row with totals := row.totals + tasksTotal h.db.tasks row.id } := by
    have backfills := ok.resolve_left old row inside
    rw [backfill]
    split
    next some_ =>
      rw [Totals.plusSums_of_exact arithmetic (backfills.addsUp some_) (backfills.cost some_)]
      rfl
    next none_ => rw [backfills.none_ (Bool.eq_false_of_not_eq_true none_), add_zero]
  exact {
    schema := ⟨fun _ => upgraded.tasksCount, .inl ⟨le_trans (by decide) ten, upgraded.counts,
      upgraded.tasksCount⟩⟩
    tasks
    lacking := fun none_ => (absent none_).elim
    chatSessions := fun _ => by
      change db.chatSessions = h.chatSessions.map _
      rw [upgraded.chatSessions]
      cases counts : countsUsage h.db with
      | true =>
        rw [withUsage_of_counts counts]
        exact counting.chatSessions counts
      | false =>
        obtain ⟨since, chats⟩ := counting.lacking counts
        rw [chats]
        refine (map_same _ fun row _ => ?_).symm
        change { row with totals := row.totals + named chatScope h.since row.id } = row
        rw [since, named_nil, add_zero]
    before := fun _ old => absurd old (Nat.not_lt.mpr ten)
    projects := fun _ => by
      change db.projects = (h.upgrade db).introduced.map fun row =>
        { row with totals := row.totals + named projectScope h.since row.id }
      rw [upgraded.projects]
      split
      next newer =>
        have counts := counts_of_ten counting.schema newer
        have introduced : (h.upgrade db).introduced = h.introduced := if_pos counts
        rw [introduced]
        exact counting.projects newer
      next older =>
        cases counts : countsUsage h.db with
        | true =>
          have introduced : (h.upgrade db).introduced = h.introduced := if_pos counts
          obtain ⟨withTasks, projects⟩ := counting.before counts (Nat.not_le.mp older)
          rw [introduced, withUsage_of_counts counts, withTasks, withTasksTotals, List.map_map]
          refine List.map_congr_left fun row inside => ?_
          have totals : row.totals = named projectScope h.since row.id := by
            rw [projects] at inside
            obtain ⟨given, -, rfl⟩ := List.mem_map.mp inside
            rfl
          refine (backfilled_ older row (by rwa [withUsage_of_counts counts])).trans ?_
          dsimp only [Function.comp]
          rw [totals, add_comm]
        | false =>
          have introduced : (h.upgrade db).introduced = withTasksTotals h.db :=
            if_neg (by rw [counts]; exact Bool.false_ne_true)
          have zeroed : (withUsage h.db).projects = h.db.projects.map zeroProject := by
            rw [withUsage, if_neg (by rw [counts]; exact Bool.false_ne_true)]
          rw [introduced, zeroed, withTasksTotals, List.map_map, List.map_map]
          refine List.map_congr_left fun row inside => ?_
          have zero : zeroProject row ∈ (withUsage h.db).projects := by
            rw [zeroed]
            exact List.mem_map_of_mem inside
          refine (backfilled_ older _ zero).trans ?_
          dsimp only [Function.comp, zeroProject]
          rw [(counting.lacking counts).1, named_nil, zero_add, add_zero] }

theorem counted_of_counting (counting : Counting h) : Counted arithmetic h where
  tasks := counting.tasks
  chatSessions := counting.chatSessions
  projects := counting.projects
  again := fun latest => by
    have ten : 10 ≤ h.db.userVersion := le_trans (by decide) latest
    refine ensureTables_of_upgraded ?_ latest
    rcases counting.schema.usage with ⟨-, counts, tasks⟩ | ⟨old, -⟩
    · exact hasTables_of_counts counts tasks
    · omega

/-- In every history whose events and upgrades count once, every usage is counted once. -/
theorem usage_counted (reached : Reaches (histories arithmetic) CountsOnce h) :
    Counted arithmetic h := by
  refine counted_of_counting (reached.invariant ?_ ?_)
  · rintro _ ⟨db, schema, fresh, rfl⟩
    exact counting_start schema fresh
  · intro h action h' counting ok step
    cases action with
    | record event =>
      obtain ⟨db, -, returned, rfl⟩ := step
      exact counting_record counting ok returned
    | upgrade =>
      obtain ⟨db, returned, rfl⟩ := step
      exact counting_upgrade counting ok returned

end Steps

/-! ### Two histories -/

/-- A project with a task, at a version, with more columns than at first. -/
def smallDatabase (userVersion : Nat) (columns : List String) (used : Totals) : Database where
  userVersion
  projectColumns := some (projectsBaseColumns ++ columns)
  taskColumns := some tasksBaseColumns
  chatSessionColumns := some (chatSessionsBaseColumns ++ columns)
  projects := [⟨"p", 0⟩]
  tasks := [⟨"t", "p", "general", false, used⟩]
  chatSessions := []
  usageEvents := []

/-- Ten tokens for the task and its project. -/
def tenTokens : DbUsageEvent where
  context := { source := "agent", projectId := some "p", taskId := some "t", chatSessionId := none }
  runtimeId := "claude"
  providerId := "anthropic"
  profileId := none
  transport := none
  workflowKind := none
  usageReporting := "full"
  outcome := none
  errorCategory := none
  usage := { inputTokens := 8, outputTokens := 2, totalTokens := 10, costUsd := none }

theorem exists_of_toOption {α β : Type} {result : Except SqliteError α} {view : α → β} {seen : β}
    (found : result.toOption.map view = some seen) : ∃ a, result = .ok a ∧ view a = seen := by
  cases result with
  | error error => cases found
  | ok a => exact ⟨a, rfl, Option.some.inj found⟩

theorem hasTokenColumns_of_columns {table : Table} {db db' : Database}
    (same : db'.columns table = db.columns table) :
    hasTokenColumns db' table = hasTokenColumns db table := by
  rw [hasTokenColumns, hasTokenColumns]
  congr 1
  funext column
  rw [Database.hasColumn, Database.hasColumn, same]

section Columns

variable {arithmetic : Arithmetic} {db : Database} {event : DbUsageEvent}

theorem addToTasks_of_columns (columns : hasTokenColumns db .tasks = true) :
    addToTasks arithmetic event db = .ok { db with tasks := db.tasks.map fun row => { row with
      totals := updated arithmetic (taskScope event) event.delta row.id row.totals } } := by
  unfold addToTasks
  split
  next none_ =>
    rw [Option.isNone_iff_eq_none.mp none_, map_self fun row => by rw [updated_none]]
  · rw [columns]
    rfl

theorem addToProjects_of_columns (columns : hasTokenColumns db .projects = true) :
    addToProjects arithmetic event db = .ok { db with projects := db.projects.map fun row =>
      { row with
        totals := updated arithmetic (projectScope event) event.delta row.id row.totals } } := by
  unfold addToProjects
  split
  next none_ =>
    rw [Option.isNone_iff_eq_none.mp none_, map_self fun row => by rw [updated_none]]
  · rw [columns]
    rfl

theorem recordUsageEvent_of_columns (tasks : hasTokenColumns db .tasks = true)
    (projects : hasTokenColumns db .projects = true) (noChat : chatScope event = none) :
    recordUsageEvent arithmetic event db = .ok (recorded arithmetic event db) := by
  let logged : Database := { db with usageEvents := db.usageEvents ++ [usageEventRow event] }
  have task : hasTokenColumns logged .tasks = true := hasTokenColumns_of_columns rfl ▸ tasks
  rw [recordUsageEvent, addToTasks_of_columns task]
  let counted : Database := { logged with tasks := logged.tasks.map fun row =>
    { row with totals := updated arithmetic (taskScope event) event.delta row.id row.totals } }
  have project : hasTokenColumns counted .projects = true :=
    hasTokenColumns_of_columns rfl ▸ projects
  change (addToProjects arithmetic event counted).bind _ = _
  rw [addToProjects_of_columns project]
  have chats : (db.chatSessions.map fun row =>
      { row with totals := updated arithmetic none event.delta row.id row.totals }) =
        db.chatSessions :=
    map_same _ fun row _ => by rw [updated_none]
  change addToChatSessions arithmetic event _ = _
  rw [addToChatSessions, noChat, if_pos (by rfl), recorded, noChat, chats]

end Columns

/-- An upgrade from version 8, and an event. -/
theorem usage_counted_from_eight : ∃ h, Reaches (histories binaryArithmetic) CountsOnce h ∧
    Counted binaryArithmetic h ∧ h.db.projects = [⟨"p", ⟨12, 3, 15, 1⟩⟩] := by
  let db := smallDatabase 8 [] ⟨4, 1, 5, 1⟩
  have start : Reaches (histories binaryArithmetic) CountsOnce (.start db) :=
    .init ⟨db, ⟨fun _ => by decide, .inr ⟨by decide, by decide⟩⟩,
      fun nine => absurd nine (by decide), rfl⟩
  have upgradable : CountsOnce (.start db) .upgrade := by
    refine .inr fun row inside => ?_
    have projects : (withUsage (History.start db).db).projects = [⟨"p", 0⟩] := by decide
    rw [projects, List.mem_singleton] at inside
    rw [inside]
    exact ⟨by decide, by decide +kernel, by decide +kernel⟩
  obtain ⟨upgraded, returned, seen⟩ := @exists_of_toOption _ _ (ensureTables binaryArithmetic db)
    (fun db => (db.projects, db.tasks.map Shared.TaskRow.counted, db.userVersion))
    ([⟨"p", ⟨4, 1, 5, 1⟩⟩], [("t", "p", ⟨4, 1, 5, 1⟩)], 38) (by decide +kernel)
  have first : Reaches (histories binaryArithmetic) CountsOnce
      ((History.start db).upgrade upgraded) :=
    .step start (i := .upgrade) upgradable ⟨upgraded, returned, rfl⟩
  have schema : Schema db := ⟨fun _ => by decide, .inr ⟨by decide, by decide⟩⟩
  have columns := ensureTables_upgrade schema returned
  have counts := columns.counts
  rw [countsUsage, Bool.and_eq_true] at counts
  obtain ⟨projects, rest⟩ := Prod.mk.inj seen
  obtain ⟨tasks, version⟩ := Prod.mk.inj rest
  have fitting : Fitting tenTokens upgraded := by
    refine ⟨fun row inside _ => ?_, fun row inside _ => ?_, fun row inside named => ?_⟩
    · have counted := List.mem_map_of_mem (f := Shared.TaskRow.counted) inside
      rw [tasks, List.mem_singleton] at counted
      have totals : row.totals = ⟨4, 1, 5, 1⟩ := congrArg (·.2.2) counted
      rw [totals]
      decide +kernel
    · rw [projects, List.mem_singleton] at inside
      rw [inside]
      decide +kernel
    · cases named
  have second : Reaches (histories binaryArithmetic) CountsOnce
      (((History.start db).upgrade upgraded).record tenTokens
        (recorded binaryArithmetic tenTokens upgraded)) := by
    refine .step first (i := .record tenTokens) ⟨fitting, .inl ?_⟩ ⟨_, ?_, ?_, rfl⟩
    · exact version ▸ by decide
    · exact version ▸ by decide
    · exact recordUsageEvent_of_columns columns.tasksCount counts.1 rfl
  refine ⟨_, second, usage_counted second, ?_⟩
  change upgraded.projects.map _ = _
  rw [projects]
  decide +kernel

/-- An event of a task that was recorded at version 9 is in the totals of the tasks that
migration 10 adds, and so counted twice. -/
theorem event_at_version_nine : ¬ ∀ arithmetic h, Reachable (histories arithmetic) h →
    Counted arithmetic h := by
  intro counted
  let db := smallDatabase 9 tokenColumns 0
  have start : Reachable (histories binaryArithmetic) (.start db) :=
    .init ⟨db, ⟨fun _ => by decide, .inl ⟨by decide, by decide, by decide⟩⟩,
      fun _ _ => by decide, rfl⟩
  have first : Reachable (histories binaryArithmetic) ((History.start db).record tenTokens
      (recorded binaryArithmetic tenTokens db)) :=
    .step start (i := .record tenTokens) trivial
      ⟨_, by decide, recordUsageEvent_of_columns (by decide) (by decide) rfl, rfl⟩
  obtain ⟨upgraded, returned, seen⟩ := @exists_of_toOption _ _
    (ensureTables binaryArithmetic (recorded binaryArithmetic tenTokens db))
    (fun db => (db.projects, db.userVersion)) ([⟨"p", ⟨16, 4, 20, 0⟩⟩], 38) (by decide +kernel)
  have second : Reachable (histories binaryArithmetic) (((History.start db).record tenTokens
      (recorded binaryArithmetic tenTokens db)).upgrade upgraded) :=
    .step first (i := .upgrade) trivial ⟨upgraded, returned, rfl⟩
  have version : upgraded.userVersion = 38 := (Prod.mk.inj seen).2
  have once := (counted _ _ second).projects (by
    change 10 ≤ upgraded.userVersion
    rw [version]
    decide)
  change upgraded.projects = (withTasksTotals db).map
    (fun row => { row with totals := row.totals + named projectScope [tenTokens] row.id }) at once
  rw [(Prod.mk.inj seen).1] at once
  exact absurd once (by decide)

end AifHandoff.Data
