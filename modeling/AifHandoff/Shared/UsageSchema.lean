import AifHandoff.Lib.Doubles
import AifHandoff.Lib.Migrations
import Mathlib.Algebra.Group.Basic
import Mathlib.Algebra.Order.Ring.Rat
import Mathlib.Data.List.Infix

/-!
The tables that count usage and how they are upgraded (`shared/db.ts`).

Tasks have always had token columns. Projects and chat sessions get theirs from migration 9
or, in a history that used version 9 for something else, from migration 10, which then adds
the totals of the tasks to whatever the columns of their project hold.
-/

namespace AifHandoff.Shared

open Migrations (Migration Engine runStatement runStatements pending statementsOf)

/-! ### Totals -/

/-- The four token columns. -/
@[ext]
structure Totals where
  tokenInput : Int
  tokenOutput : Int
  tokenTotal : Int
  costUsd : Rat
deriving DecidableEq

namespace Totals

instance : Zero Totals := ⟨⟨0, 0, 0, 0⟩⟩

instance : Add Totals := ⟨fun a b =>
  ⟨a.tokenInput + b.tokenInput, a.tokenOutput + b.tokenOutput, a.tokenTotal + b.tokenTotal,
    a.costUsd + b.costUsd⟩⟩

theorem zero_def : (0 : Totals) = ⟨0, 0, 0, 0⟩ := rfl

theorem add_def (a b : Totals) : a + b =
    ⟨a.tokenInput + b.tokenInput, a.tokenOutput + b.tokenOutput, a.tokenTotal + b.tokenTotal,
      a.costUsd + b.costUsd⟩ := rfl

instance : AddCommMonoid Totals where
  add_assoc a b c := by simp only [add_def, add_assoc]
  zero_add a := by simp only [zero_def, add_def, zero_add]
  add_zero a := by simp only [zero_def, add_def, add_zero]
  add_comm a b := by simp only [add_def, add_comm]
  nsmul := nsmulRec

end Totals

/-! ### Sums of the database -/

/-- A REAL can hold the number. -/
def IsReal (q : Rat) : Prop := Double.round q = .finite q

instance (q : Rat) : Decidable (IsReal q) := inferInstanceAs (Decidable (_ = _))

/-- The numbers nearest to 0.1 and 0.2 have no REAL as their sum. -/
example : IsReal (3602879701896397 / 2 ^ 55) ∧ IsReal (3602879701896397 / 2 ^ 54) ∧
    ¬ IsReal (3602879701896397 / 2 ^ 55 + 3602879701896397 / 2 ^ 54) := by decide +kernel

/-- Every sum of the first costs is one that a REAL can hold. -/
def AddsUp (costs : List Rat) : Prop := ∀ first, first <+: costs → IsReal first.sum

instance (costs : List Rat) : Decidable (AddsUp costs) :=
  decidable_of_iff (∀ first ∈ costs.inits, IsReal first.sum)
    (forall_congr' fun first => by rw [List.mem_inits])

/-- What the database makes of a sum. A bound number is a REAL, and so is what is added to it. -/
structure Arithmetic where
  /-- An INTEGER column and a bound number. -/
  addTokens : Int → Int → Int
  addReal : Rat → Rat → Rat
  /-- `sum` of a REAL column. -/
  sumReal : List Rat → Rat
  addTokens_exact : ∀ a b, |a + b| ≤ 2 ^ 53 → addTokens a b = a + b
  addReal_exact : ∀ a b, IsReal (a + b) → addReal a b = a + b
  sumReal_exact : ∀ costs, AddsUp costs → sumReal costs = costs.sum

theorem addsUp_concat {costs : List Rat} {cost : Rat} (addsUp : AddsUp (costs ++ [cost])) :
    AddsUp costs ∧ IsReal (costs.sum + cost) := by
  constructor
  · intro first begins
    exact addsUp first (begins.trans (List.prefix_append costs [cost]))
  · have all := addsUp _ List.prefix_rfl
    rwa [List.sum_append, List.sum_singleton] at all

theorem value_round {q : Rat} (real : IsReal q) : (Double.round q).value 0 = q := by
  rw [IsReal] at real
  rw [real, Double.value]

/-- Every sum is rounded to the nearest REAL, and a query adds one cost after another. -/
def binaryArithmetic : Arithmetic where
  addTokens a b := ⌊(Double.round ((a + b : Int) : Rat)).value 0⌋
  addReal a b := (Double.round (a + b)).value 0
  sumReal costs := costs.foldl (fun total cost => (Double.round (total + cost)).value 0) 0
  addTokens_exact a b small := by rw [Double.round_intCast small, Double.value, Int.floor_intCast]
  addReal_exact a b real := value_round real
  sumReal_exact costs addsUp := by
    induction costs using List.reverseRecOn with
    | nil => rfl
    | append_singleton costs cost ih =>
      obtain ⟨before, real⟩ := addsUp_concat addsUp
      rw [List.foldl_concat, ih before, value_round real, List.sum_append, List.sum_singleton]

namespace Totals

/-- What an event adds to the columns. -/
def plus (arithmetic : Arithmetic) (a b : Totals) : Totals where
  tokenInput := arithmetic.addTokens a.tokenInput b.tokenInput
  tokenOutput := arithmetic.addTokens a.tokenOutput b.tokenOutput
  tokenTotal := arithmetic.addTokens a.tokenTotal b.tokenTotal
  costUsd := arithmetic.addReal a.costUsd b.costUsd

/-- The columns plus the sums of a query. -/
def plusSums (arithmetic : Arithmetic) (a : Totals) (rows : List Totals) : Totals where
  tokenInput := a.tokenInput + (rows.map tokenInput).sum
  tokenOutput := a.tokenOutput + (rows.map tokenOutput).sum
  tokenTotal := a.tokenTotal + (rows.map tokenTotal).sum
  costUsd := arithmetic.addReal a.costUsd (arithmetic.sumReal (rows.map costUsd))

/-- The columns hold the totals without rounding. -/
structure Fits (totals : Totals) : Prop where
  tokenInput : |totals.tokenInput| ≤ 2 ^ 53
  tokenOutput : |totals.tokenOutput| ≤ 2 ^ 53
  tokenTotal : |totals.tokenTotal| ≤ 2 ^ 53
  costUsd : IsReal totals.costUsd

instance (totals : Totals) : Decidable totals.Fits :=
  decidable_of_iff (|totals.tokenInput| ≤ 2 ^ 53 ∧ |totals.tokenOutput| ≤ 2 ^ 53 ∧
      |totals.tokenTotal| ≤ 2 ^ 53 ∧ IsReal totals.costUsd)
    ⟨fun fits => ⟨fits.1, fits.2.1, fits.2.2.1, fits.2.2.2⟩,
      fun fits => ⟨fits.tokenInput, fits.tokenOutput, fits.tokenTotal, fits.costUsd⟩⟩

theorem plus_of_fits (arithmetic : Arithmetic) {a b : Totals} (fits : (a + b).Fits) :
    a.plus arithmetic b = a + b := by
  obtain ⟨input, output, total, cost⟩ := fits
  apply Totals.ext
  · exact arithmetic.addTokens_exact _ _ input
  · exact arithmetic.addTokens_exact _ _ output
  · exact arithmetic.addTokens_exact _ _ total
  · exact arithmetic.addReal_exact _ _ cost

theorem sum_def (rows : List Totals) : rows.sum =
    ⟨(rows.map tokenInput).sum, (rows.map tokenOutput).sum, (rows.map tokenTotal).sum,
      (rows.map costUsd).sum⟩ := by
  induction rows with
  | nil => rfl
  | cons row rows ih =>
    rw [List.sum_cons, ih, add_def]
    rfl

theorem plusSums_of_exact (arithmetic : Arithmetic) {a : Totals} {rows : List Totals}
    (addsUp : AddsUp (rows.map costUsd)) (cost : IsReal (a + rows.sum).costUsd) :
    a.plusSums arithmetic rows = a + rows.sum := by
  rw [sum_def, add_def] at cost
  rw [sum_def, add_def, plusSums, arithmetic.sumReal_exact _ addsUp,
    arithmetic.addReal_exact _ _ cost]

end Totals

/-! ### Tables -/

inductive Table where
  | projects
  | tasks
  | chatSessions
deriving DecidableEq

structure ProjectRow where
  id : String
  totals : Totals
deriving DecidableEq

structure TaskRow where
  id : String
  projectId : String
  taskIntent : String
  isFix : Bool
  totals : Totals
deriving DecidableEq

structure ChatSessionRow where
  id : String
  totals : Totals
deriving DecidableEq

/-- A row of the log of usage events. -/
structure UsageEventRow where
  source : String
  projectId : Option String
  taskId : Option String
  chatSessionId : Option String
  runtimeId : String
  providerId : String
  profileId : Option String
  transport : Option String
  workflowKind : Option String
  usageReporting : String
  outcome : String
  errorCategory : Option String
  inputTokens : Int
  outputTokens : Int
  totalTokens : Int
  costUsd : Option Rat
deriving DecidableEq

/-- A table that does not exist has no columns. The value of a column that does not exist
yet is not read. -/
structure Database where
  userVersion : Nat
  projectColumns : Option (List String)
  taskColumns : Option (List String)
  chatSessionColumns : Option (List String)
  projects : List ProjectRow
  tasks : List TaskRow
  chatSessions : List ChatSessionRow
  usageEvents : List UsageEventRow
deriving DecidableEq

namespace Database

def columns (db : Database) : Table → Option (List String)
  | .projects => db.projectColumns
  | .tasks => db.taskColumns
  | .chatSessions => db.chatSessionColumns

def setColumns (db : Database) (table : Table) (columns : List String) : Database :=
  match table with
  | .projects => { db with projectColumns := some columns }
  | .tasks => { db with taskColumns := some columns }
  | .chatSessions => { db with chatSessionColumns := some columns }

def hasColumn (db : Database) (table : Table) (column : String) : Bool :=
  ((db.columns table).getD []).contains column

end Database

def tokenColumns : List String := ["token_input", "token_output", "token_total", "cost_usd"]

/-- The table has all token columns. -/
def hasTokenColumns (db : Database) (table : Table) : Bool := tokenColumns.all (db.hasColumn table)

/-! ### Statements -/

/-- The statements on these tables; of the fix marker, that on tasks whose `is_fix` is 1. -/
inductive Statement where
  | createTable (table : Table) (columns : List String)
  | addColumn (table : Table) (column : String)
  | backfillProjectTotals
  | markFixTasks
deriving DecidableEq

inductive SqliteError where
  | noSuchTable (table : Table)
  | noSuchColumn (table : Table)
  | duplicateColumn (column : String)
deriving DecidableEq

/-- A new column has its default in every row. -/
def Totals.reset (column : String) (totals : Totals) : Totals :=
  if column = "token_input" then { totals with tokenInput := 0 }
  else if column = "token_output" then { totals with tokenOutput := 0 }
  else if column = "token_total" then { totals with tokenTotal := 0 }
  else if column = "cost_usd" then { totals with costUsd := 0 }
  else totals

def setDefault (db : Database) (table : Table) (column : String) : Database :=
  match table with
  | .projects =>
    { db with projects := db.projects.map fun row => { row with totals := row.totals.reset column } }
  | .chatSessions =>
    { db with chatSessions := db.chatSessions.map fun row =>
        { row with totals := row.totals.reset column } }
  | .tasks =>
    { db with tasks := db.tasks.map fun row =>
        { row with
          taskIntent := if column = "task_intent" then "general" else row.taskIntent
          isFix := if column = "is_fix" then false else row.isFix
          totals := row.totals.reset column } }

/-- The totals of the tasks of a project. -/
def tasksTotals (tasks : List TaskRow) (projectId : String) : List Totals :=
  (tasks.filter (·.projectId == projectId)).map (·.totals)

def tasksTotal (tasks : List TaskRow) (projectId : String) : Totals :=
  (tasksTotals tasks projectId).sum

/-- Some task of the project has a positive token total. -/
def hasCountedTask (tasks : List TaskRow) (projectId : String) : Bool :=
  tasks.any fun task => task.projectId == projectId && decide (0 < task.totals.tokenTotal)

section Engine

variable (arithmetic : Arithmetic)

def backfill (tasks : List TaskRow) (row : ProjectRow) : ProjectRow :=
  if hasCountedTask tasks row.id then
    { row with totals := row.totals.plusSums arithmetic (tasksTotals tasks row.id) }
  else row

def exec (statement : Statement) (db : Database) : Except SqliteError Database :=
  match statement with
  | .createTable table columns =>
    match db.columns table with
    | none => .ok (db.setColumns table columns)
    | some _ => .ok db
  | .addColumn table column =>
    match db.columns table with
    | none => .error (.noSuchTable table)
    | some columns =>
      if columns.contains column then .error (.duplicateColumn column)
      else .ok (setDefault (db.setColumns table (columns ++ [column])) table column)
  | .backfillProjectTotals =>
    if !hasTokenColumns db .projects then .error (.noSuchColumn .projects)
    else if !hasTokenColumns db .tasks then .error (.noSuchColumn .tasks)
    else .ok { db with projects := db.projects.map (backfill arithmetic db.tasks) }
  | .markFixTasks =>
    if !(db.hasColumn .tasks "task_intent" && db.hasColumn .tasks "is_fix") then
      .error (.noSuchColumn .tasks)
    else .ok { db with tasks := db.tasks.map fun row =>
      if row.isFix then { row with taskIntent := "fix" } else row }

/-- The error says that the statement was applied already. -/
def isIgnorableMigrationError : SqliteError → Bool
  | .duplicateColumn _ => true
  | _ => false

/-- The fix marker is skipped where tasks have no `is_fix`. -/
def skipIfMissingColumns (statement : Statement) (db : Database) : Bool :=
  match statement with
  | .markFixTasks => !db.hasColumn .tasks "is_fix"
  | _ => false

def engine : Engine Database Statement SqliteError where
  skips := skipIfMissingColumns
  exec := exec arithmetic
  ignorable := isIgnorableMigrationError

end Engine

/-! ### Migrations -/

/-- The token columns of projects and chat sessions. -/
def addTokenColumns : List Statement :=
  tokenColumns.map (.addColumn .projects) ++ tokenColumns.map (.addColumn .chatSessions)

/-- The migrations before the token columns. -/
def olderMigrations : List (Migration Statement) :=
  [⟨1, [.addColumn .tasks "session_id"]⟩,
    ⟨2, [.createTable .chatSessions
      ["id", "project_id", "title", "agent_session_id", "created_at", "updated_at"]]⟩,
    ⟨3, []⟩,
    ⟨4, [.addColumn .projects "parallel_enabled"]⟩,
    ⟨5, [.addColumn .tasks "locked_by", .addColumn .tasks "locked_until"]⟩,
    ⟨6, [.addColumn .projects "default_task_runtime_profile_id",
      .addColumn .projects "default_chat_runtime_profile_id",
      .addColumn .tasks "runtime_profile_id", .addColumn .tasks "model_override",
      .addColumn .tasks "runtime_options_json", .addColumn .chatSessions "runtime_profile_id",
      .addColumn .chatSessions "runtime_session_id"]⟩,
    ⟨7, []⟩,
    ⟨8, [.addColumn .projects "default_plan_runtime_profile_id",
      .addColumn .projects "default_review_runtime_profile_id"]⟩]

/-- The migrations behind them. -/
def newerMigrations : List (Migration Statement) :=
  [⟨11, [.addColumn .tasks "manual_review_required", .addColumn .tasks "auto_review_state_json"]⟩,
    ⟨12, [.addColumn .tasks "scheduled_at", .addColumn .projects "auto_queue_mode"]⟩,
    ⟨13, [.addColumn .tasks "runtime_limit_snapshot_json",
      .addColumn .tasks "runtime_limit_updated_at"]⟩,
    ⟨14, []⟩,
    ⟨15, [.addColumn .tasks "runtime_limit_snapshot_json",
      .addColumn .tasks "runtime_limit_updated_at"]⟩,
    ⟨17, []⟩, ⟨18, []⟩,
    ⟨19, [.addColumn .tasks "branch_name"]⟩,
    ⟨20, [.addColumn .tasks "worktree_path"]⟩,
    ⟨21, []⟩,
    ⟨22, [.addColumn .tasks "task_intent", .markFixTasks]⟩,
    ⟨23, []⟩, ⟨24, []⟩, ⟨25, []⟩, ⟨26, []⟩,
    ⟨27, [.addColumn .tasks "implementation_manifest_json"]⟩,
    ⟨28, []⟩, ⟨29, []⟩, ⟨30, []⟩,
    ⟨31, [.addColumn .tasks "lock_stage", .addColumn .tasks "coordinator_id"]⟩,
    ⟨32, [.addColumn .tasks "source_ref"]⟩,
    ⟨33, []⟩,
    ⟨34, [.addColumn .tasks "parent_task_id", .addColumn .tasks "root_task_id",
      .addColumn .tasks "hierarchy_depth", .addColumn .tasks "hierarchy_role",
      .addColumn .tasks "hierarchy_position", .addColumn .tasks "parent_closeout_policy"]⟩,
    ⟨35, []⟩,
    ⟨36, [.addColumn .tasks "requirements_cycle_count", .addColumn .tasks "requirements_confidence",
      .addColumn .tasks "requirements_snapshot_id", .addColumn .tasks "needs_input_batch_id",
      .addColumn .tasks "needs_input_stage", .addColumn .tasks "needs_input_reason",
      .addColumn .tasks "last_human_answer_at", .addColumn .tasks "last_auto_resume_at"]⟩,
    ⟨37, []⟩, ⟨38, []⟩]

/-- `MIGRATIONS`; statements on other tables are left out. -/
def migrations : List (Migration Statement) :=
  olderMigrations ++
    ([⟨9, addTokenColumns⟩, ⟨10, addTokenColumns ++ [.backfillProjectTotals]⟩] ++ newerMigrations)

def latestVersion : Nat := 38

/-- `runMigrations`: all pending ones in one transaction, or none. -/
def runMigrations (arithmetic : Arithmetic) (db : Database) : Except SqliteError Database :=
  if (pending migrations db.userVersion).isEmpty then .ok db
  else
    (runStatements (engine arithmetic)
        (statementsOf (pending migrations db.userVersion)) db).map fun db =>
      { db with userVersion := latestVersion }

def projectsBaseColumns : List String :=
  ["id", "name", "root_path", "planner_max_budget_usd", "plan_checker_max_budget_usd",
    "implementer_max_budget_usd", "review_sidecar_max_budget_usd", "parallel_enabled",
    "auto_queue_mode", "default_task_runtime_profile_id", "default_plan_runtime_profile_id",
    "default_review_runtime_profile_id", "default_chat_runtime_profile_id", "created_at",
    "updated_at"]

def tasksBaseColumns : List String :=
  ["id", "project_id", "title", "description", "attachments", "auto_mode", "task_intent", "is_fix",
    "planner_mode", "plan_path", "source_ref", "plan_docs", "plan_tests", "skip_review",
    "use_subagents", "status", "requirements_cycle_count", "requirements_confidence",
    "requirements_snapshot_id", "needs_input_batch_id", "needs_input_stage", "needs_input_reason",
    "last_human_answer_at", "last_auto_resume_at", "priority", "position", "parent_task_id",
    "root_task_id", "hierarchy_depth", "hierarchy_role", "hierarchy_position",
    "parent_closeout_policy", "plan", "implementation_log", "implementation_manifest_json",
    "review_comments", "agent_activity_log", "blocked_reason", "blocked_from_status",
    "retry_after", "retry_count", "token_input", "token_output", "token_total", "cost_usd",
    "roadmap_alias", "tags", "rework_requested", "review_iteration_count", "max_review_iterations",
    "manual_review_required", "auto_review_state_json", "paused", "last_heartbeat_at",
    "last_synced_at", "runtime_profile_id", "model_override", "runtime_options_json", "session_id",
    "runtime_limit_snapshot_json", "runtime_limit_updated_at", "locked_by", "locked_until",
    "lock_stage", "coordinator_id", "scheduled_at", "branch_name", "worktree_path", "created_at",
    "updated_at"]

def chatSessionsBaseColumns : List String :=
  ["id", "project_id", "title", "agent_session_id", "runtime_profile_id", "runtime_session_id",
    "created_at", "updated_at"]

/-- The tables as they are created in a new database. -/
def baseTables : List Statement :=
  [.createTable .projects projectsBaseColumns, .createTable .tasks tasksBaseColumns,
    .createTable .chatSessions chatSessionsBaseColumns]

def ensureTables (arithmetic : Arithmetic) (db : Database) : Except SqliteError Database :=
  (runStatements (engine arithmetic) baseTables db).bind (runMigrations arithmetic)

/-! ### What statements leave alone -/

variable {arithmetic : Arithmetic}

/-- The part of a task that is counted. -/
def TaskRow.counted (row : TaskRow) : String × String × Totals := (row.id, row.projectId, row.totals)

def hasTables (db : Database) : Prop := ∀ table, (db.columns table).isSome = true

/-- Tables that exist still do, and neither the totals nor the token columns are changed. -/
structure SameTotals (db db' : Database) : Prop where
  userVersion : db'.userVersion = db.userVersion
  usageEvents : db'.usageEvents = db.usageEvents
  projects : db'.projects = db.projects
  chatSessions : db'.chatSessions = db.chatSessions
  tasks : db'.tasks.map TaskRow.counted = db.tasks.map TaskRow.counted
  columns : ∀ table, ∀ column ∈ tokenColumns, db'.hasColumn table column = db.hasColumn table column
  tables : ∀ table, (db'.columns table).isSome = true

theorem SameTotals.refl {db : Database} (tables : hasTables db) : SameTotals db db where
  userVersion := rfl
  usageEvents := rfl
  projects := rfl
  chatSessions := rfl
  tasks := rfl
  columns := fun _ _ _ => rfl
  tables := tables

theorem SameTotals.trans {a b c : Database} (ab : SameTotals a b) (bc : SameTotals b c) :
    SameTotals a c where
  userVersion := bc.userVersion.trans ab.userVersion
  usageEvents := bc.usageEvents.trans ab.usageEvents
  projects := bc.projects.trans ab.projects
  chatSessions := bc.chatSessions.trans ab.chatSessions
  tasks := bc.tasks.trans ab.tasks
  columns := fun table column inside =>
    (bc.columns table column inside).trans (ab.columns table column inside)
  tables := bc.tables

/-- Statements that neither add a token column nor read one. -/
def countsNothing : Statement → Bool
  | .createTable _ _ => true
  | .addColumn _ column => !tokenColumns.contains column
  | .backfillProjectTotals => false
  | .markFixTasks => true

theorem reset_of_not_token {column : String} (other : column ∉ tokenColumns) (totals : Totals) :
    totals.reset column = totals := by
  simp only [tokenColumns, List.mem_cons, List.not_mem_nil, or_false, not_or] at other
  rw [Totals.reset, if_neg other.1, if_neg other.2.1, if_neg other.2.2.1, if_neg other.2.2.2]

@[simp] theorem columns_setColumns_self (db : Database) (table : Table) (columns : List String) :
    (db.setColumns table columns).columns table = some columns := by
  cases table <;> rfl

theorem columns_setColumns_of_ne (db : Database) {table other : Table} (ne : other ≠ table)
    (columns : List String) : (db.setColumns table columns).columns other = db.columns other := by
  cases table <;> cases other <;> first | rfl | exact absurd rfl ne

@[simp] theorem columns_setDefault (db : Database) (table : Table) (column : String) (other : Table) :
    (setDefault db table column).columns other = db.columns other := by
  cases table <;> cases other <;> rfl

theorem map_self {α : Type} {f : α → α} (same : ∀ a, f a = a) (l : List α) : l.map f = l := by
  rw [show f = id from funext same, List.map_id]

/-- A new column that counts nothing. -/
theorem sameTotals_addColumn {db : Database} (tables : hasTables db) {table : Table}
    {columns : List String} (exist : db.columns table = some columns) {column : String}
    (other : column ∉ tokenColumns) :
    SameTotals db (setDefault (db.setColumns table (columns ++ [column])) table column) where
  userVersion := by cases table <;> rfl
  usageEvents := by cases table <;> rfl
  projects := by
    cases table with
    | projects => exact map_self (fun row => by rw [reset_of_not_token other]) _
    | tasks | chatSessions => rfl
  chatSessions := by
    cases table with
    | chatSessions => exact map_self (fun row => by rw [reset_of_not_token other]) _
    | tasks | projects => rfl
  tasks := by
    cases table with
    | tasks =>
      change (db.tasks.map _).map _ = _
      rw [List.map_map]
      refine List.map_congr_left fun row _ => ?_
      dsimp only [Function.comp, TaskRow.counted]
      rw [reset_of_not_token other]
    | projects | chatSessions => rfl
  columns := by
    intro table' column' inside
    have ne : column' ≠ column := by
      rintro rfl
      exact other inside
    rw [Database.hasColumn, Database.hasColumn, columns_setDefault]
    by_cases same : table' = table
    · subst same
      rw [columns_setColumns_self, exist, Option.getD_some, Option.getD_some, Bool.eq_iff_iff,
        List.contains_iff_mem, List.contains_iff_mem, List.mem_append, List.mem_singleton,
        or_iff_left ne]
    · rw [columns_setColumns_of_ne _ same]
  tables := by
    intro table'
    rw [columns_setDefault]
    by_cases same : table' = table
    · rw [same, columns_setColumns_self]
      rfl
    · rw [columns_setColumns_of_ne _ same]
      exact tables table'

/-- Such a statement changes no totals. -/
theorem sameTotals_exec {statement : Statement} (nothing : countsNothing statement = true)
    {db db' : Database} (executed : exec arithmetic statement db = .ok db') (tables : hasTables db) :
    SameTotals db db' := by
  cases statement with
  | createTable table columns =>
    rw [exec] at executed
    cases exist : db.columns table with
    | none =>
      have none_ := tables table
      rw [exist] at none_
      cases none_
    | some _ =>
      rw [exist] at executed
      cases executed
      exact .refl tables
  | addColumn table column =>
    have other : column ∉ tokenColumns := by simpa [countsNothing] using nothing
    rw [exec] at executed
    cases exist : db.columns table with
    | none =>
      rw [exist] at executed
      cases executed
    | some columns =>
      rw [exist] at executed
      dsimp only at executed
      split at executed
      · cases executed
      · cases executed
        exact sameTotals_addColumn tables exist other
  | backfillProjectTotals => cases nothing
  | markFixTasks =>
    rw [exec] at executed
    split at executed
    · cases executed
    · cases executed
      refine { SameTotals.refl tables with tasks := ?_ }
      change (db.tasks.map _).map _ = _
      rw [List.map_map]
      refine List.map_congr_left fun row _ => ?_
      dsimp only [Function.comp]
      split <;> rfl

theorem sameTotals_run {statements : List Statement}
    (nothing : ∀ statement ∈ statements, countsNothing statement = true) {db db' : Database}
    (ran : runStatements (engine arithmetic) statements db = .ok db') (tables : hasTables db) :
    SameTotals db db' := by
  refine @Migrations.runStatements_changes _ _ _ (engine arithmetic)
    (fun db db' => hasTables db → SameTotals db db') (fun _ => .refl)
    (fun ab bc tables => (ab tables).trans (bc (ab tables).tables)) statements ?_ db db' ran tables
  exact fun statement inside db db' executed => sameTotals_exec (nothing statement inside) executed

theorem older_counts_nothing (version : Nat) :
    ∀ statement ∈ statementsOf (pending olderMigrations version), countsNothing statement = true := by
  have all : ∀ statement ∈ statementsOf olderMigrations, countsNothing statement = true := by decide
  exact fun statement inside => all statement (Migrations.mem_statementsOf_pending inside)

theorem newer_counts_nothing (version : Nat) :
    ∀ statement ∈ statementsOf (pending newerMigrations version), countsNothing statement = true := by
  have all : ∀ statement ∈ statementsOf newerMigrations, countsNothing statement = true := by decide
  exact fun statement inside => all statement (Migrations.mem_statementsOf_pending inside)

/-! ### The token columns -/

/-- Projects and chat sessions have all token columns. -/
def countsUsage (db : Database) : Bool :=
  hasTokenColumns db .projects && hasTokenColumns db .chatSessions

/-- Neither has any. -/
def lacksUsage (db : Database) : Bool :=
  tokenColumns.all fun column => !db.hasColumn .projects column && !db.hasColumn .chatSessions column

theorem run_addColumns_existing {db : Database} {table : Table} {columns : List String}
    (existing : ∀ column ∈ columns, db.hasColumn table column = true) :
    runStatements (engine arithmetic) (columns.map (.addColumn table)) db = .ok db := by
  induction columns with
  | nil => rfl
  | cons column rest ih =>
    rw [List.forall_mem_cons] at existing
    have applied : runStatement (engine arithmetic) db (.addColumn table column) = .ok db := by
      have here := existing.1
      rw [Database.hasColumn] at here
      cases exist : db.columns table with
      | none =>
        rw [exist] at here
        cases here
      | some columns =>
        rw [exist, Option.getD_some] at here
        have failed : exec arithmetic (.addColumn table column) db =
            .error (.duplicateColumn column) := by
          rw [exec, exist]
          exact if_pos here
        exact Migrations.runStatement_of_applied rfl failed rfl
    rw [List.map_cons, Migrations.runStatements_cons, applied]
    exact ih existing.2

theorem runStatement_addColumn_new {db : Database} {table : Table} {columns : List String}
    {column : String} (exist : db.columns table = some columns) (new : column ∉ columns) :
    runStatement (engine arithmetic) db (.addColumn table column) =
      .ok (setDefault (db.setColumns table (columns ++ [column])) table column) := by
  refine Migrations.runStatement_of_ok rfl ?_
  change exec arithmetic (.addColumn table column) db = _
  rw [exec, exist]
  exact if_neg (by simpa using new)

/-- The table with the token columns, zero in every row. -/
def withTokenColumns (db : Database) (table : Table) (columns : List String) : Database :=
  match table with
  | .projects => { db with
      projectColumns := some (columns ++ tokenColumns)
      projects := db.projects.map fun row => { row with totals := 0 } }
  | .chatSessions => { db with
      chatSessionColumns := some (columns ++ tokenColumns)
      chatSessions := db.chatSessions.map fun row => { row with totals := 0 } }
  | .tasks => { db with
      taskColumns := some (columns ++ tokenColumns)
      tasks := db.tasks.map fun row => { row with totals := 0 } }

theorem run_addColumns_new {db : Database} {table : Table} {columns : List String}
    (exist : db.columns table = some columns) (new : ∀ column ∈ tokenColumns, column ∉ columns) :
    runStatements (engine arithmetic) (tokenColumns.map (.addColumn table)) db =
      .ok (withTokenColumns db table columns) := by
  simp only [tokenColumns, List.forall_mem_cons, List.not_mem_nil, false_implies, implies_true,
    and_true] at new
  obtain ⟨input, output, total, cost⟩ := new
  have reset_all (totals : Totals) : (((totals.reset "token_input").reset "token_output").reset
      "token_total").reset "cost_usd" = 0 := by
    simp [Totals.reset, Totals.zero_def]
  rw [tokenColumns, List.map_cons, List.map_cons, List.map_cons, List.map_cons, List.map_nil,
    Migrations.runStatements_cons_of_ok (runStatement_addColumn_new exist input),
    Migrations.runStatements_cons_of_ok (@runStatement_addColumn_new _ _ _
      (columns ++ ["token_input"]) _ (by simp) (by simp [output])),
    Migrations.runStatements_cons_of_ok (@runStatement_addColumn_new _ _ _
      (columns ++ ["token_input"] ++ ["token_output"]) _ (by simp) (by simp [total])),
    Migrations.runStatements_cons_of_ok (@runStatement_addColumn_new _ _ _
      (columns ++ ["token_input"] ++ ["token_output"] ++ ["token_total"]) _ (by simp)
      (by simp [cost])), Migrations.runStatements_nil]
  cases table <;>
    simp [setDefault, Database.setColumns, withTokenColumns, tokenColumns, reset_all]

def zeroProject (row : ProjectRow) : ProjectRow := { row with totals := 0 }

def zeroChatSession (row : ChatSessionRow) : ChatSessionRow := { row with totals := 0 }

/-- Projects and chat sessions with the token columns. -/
def withUsage (db : Database) : Database :=
  if countsUsage db then db
  else { db with
    projectColumns := some (db.projectColumns.getD [] ++ tokenColumns)
    projects := db.projects.map zeroProject
    chatSessionColumns := some (db.chatSessionColumns.getD [] ++ tokenColumns)
    chatSessions := db.chatSessions.map zeroChatSession }

theorem hasTokenColumns_iff {db : Database} {table : Table} : hasTokenColumns db table = true ↔
    ∀ column ∈ tokenColumns, db.hasColumn table column = true := List.all_eq_true

theorem countsUsage_withUsage (db : Database) : countsUsage (withUsage db) = true := by
  unfold withUsage
  split
  · assumption
  · have appended (columns : List String) : ∀ column ∈ tokenColumns,
        (columns ++ tokenColumns).contains column = true := by
      intro column inside
      rw [List.contains_iff_mem]
      exact List.mem_append_right _ inside
    rw [countsUsage, Bool.and_eq_true, hasTokenColumns_iff, hasTokenColumns_iff]
    exact ⟨appended _, appended _⟩

theorem counts_of_lacks {db : Database} (lacks : lacksUsage db = true) : countsUsage db = false := by
  have first : "token_input" ∈ tokenColumns := List.mem_cons_self
  have absent := List.all_eq_true.mp lacks _ first
  rw [Bool.and_eq_true, Bool.not_eq_true'] at absent
  rw [← Bool.not_eq_true, countsUsage, Bool.and_eq_true, hasTokenColumns_iff]
  intro counts
  have present := counts.1 _ first
  rw [absent.1] at present
  cases present

/-- The token columns are added where there is none, and left as they are. -/
theorem run_addTokenColumns {db : Database} (tables : hasTables db)
    (uniform : countsUsage db = true ∨ lacksUsage db = true) :
    runStatements (engine arithmetic) addTokenColumns db = .ok (withUsage db) := by
  rw [addTokenColumns, Migrations.runStatements_append, withUsage]
  rcases uniform with counts | lacks
  · rw [if_pos counts]
    rw [countsUsage, Bool.and_eq_true, hasTokenColumns_iff, hasTokenColumns_iff] at counts
    rw [run_addColumns_existing counts.1]
    exact run_addColumns_existing counts.2
  · have each : ∀ column ∈ tokenColumns, db.hasColumn .projects column = false ∧
        db.hasColumn .chatSessions column = false := by
      intro column inside
      have here := List.all_eq_true.mp lacks column inside
      rwa [Bool.and_eq_true, Bool.not_eq_true', Bool.not_eq_true'] at here
    obtain ⟨projectColumns, projects⟩ := Option.isSome_iff_exists.mp (tables .projects)
    obtain ⟨chatColumns, chats⟩ := Option.isSome_iff_exists.mp (tables .chatSessions)
    have absent (table : Table) (columns : List String) (exist : db.columns table = some columns)
        (none_ : ∀ column ∈ tokenColumns, db.hasColumn table column = false) :
        ∀ column ∈ tokenColumns, column ∉ columns := by
      intro column inside listed
      have here := none_ column inside
      rw [Database.hasColumn, exist, Option.getD_some, List.contains_eq_mem,
        decide_eq_false_iff_not] at here
      exact here listed
    rw [if_neg (by rw [counts_of_lacks lacks]; exact Bool.false_ne_true), run_addColumns_new projects
      (absent _ _ projects fun column inside => (each column inside).1), Except.bind,
      @run_addColumns_new _ (withTokenColumns db .projects projectColumns) .chatSessions
        chatColumns chats (absent _ _ chats fun column inside => (each column inside).2)]
    change db.projectColumns = _ at projects
    change db.chatSessionColumns = _ at chats
    rw [projects, chats]
    rfl

/-- The totals of the tasks added to those of their project. -/
def backfilled (arithmetic : Arithmetic) (db : Database) : Database :=
  { db with projects := db.projects.map (backfill arithmetic db.tasks) }

theorem run_backfill {db : Database} (counts : countsUsage db = true)
    (tasks : hasTokenColumns db .tasks = true) :
    runStatements (engine arithmetic) [.backfillProjectTotals] db =
      .ok (backfilled arithmetic db) := by
  rw [countsUsage, Bool.and_eq_true] at counts
  refine Migrations.runStatements_cons_of_ok (Migrations.runStatement_of_ok rfl ?_)
  change exec arithmetic .backfillProjectTotals db = _
  rw [exec, counts.1, tasks]
  rfl

theorem hasTables_withUsage {db : Database} (tables : hasTables db) : hasTables (withUsage db) := by
  unfold withUsage
  split
  · exact tables
  · intro table
    cases table with
    | tasks => exact tables .tasks
    | projects | chatSessions => rfl

theorem hasTokenColumns_tasks_withUsage (db : Database) :
    hasTokenColumns (withUsage db) .tasks = hasTokenColumns db .tasks := by
  unfold withUsage
  split <;> rfl

theorem withUsage_of_counts {db : Database} (counts : countsUsage db = true) : withUsage db = db :=
  if_pos counts

/-- Migration 10, or 9 and 10. -/
theorem run_usageMigrations {db : Database} (tables : hasTables db)
    (uniform : countsUsage db = true ∨ lacksUsage db = true)
    (tasks : hasTokenColumns db .tasks = true) {version : Nat} (old : version ≤ 9) :
    runStatements (engine arithmetic) (statementsOf (pending [⟨9, addTokenColumns⟩,
        ⟨10, addTokenColumns ++ [.backfillProjectTotals]⟩] version)) db =
      .ok (backfilled arithmetic (withUsage db)) := by
  have ten {db : Database} (tables : hasTables db)
      (uniform : countsUsage db = true ∨ lacksUsage db = true)
      (tasks : hasTokenColumns db .tasks = true) :
      runStatements (engine arithmetic) (addTokenColumns ++ [.backfillProjectTotals]) db =
        .ok (backfilled arithmetic (withUsage db)) := by
    rw [Migrations.runStatements_append, run_addTokenColumns tables uniform]
    exact run_backfill (countsUsage_withUsage db) (by rwa [hasTokenColumns_tasks_withUsage])
  rcases Nat.lt_or_eq_of_le old with before | rfl
  · have both : pending [⟨9, addTokenColumns⟩, ⟨10, addTokenColumns ++ [.backfillProjectTotals]⟩]
        version = [⟨9, addTokenColumns⟩, ⟨10, addTokenColumns ++ [.backfillProjectTotals]⟩] := by
      refine Migrations.pending_of_newer fun migration inside => ?_
      rcases List.mem_cons.mp inside with rfl | last
      · exact before
      · rw [List.mem_singleton.mp last]
        exact Nat.lt_succ_of_lt before
    rw [both, statementsOf, List.flatMap_cons, List.flatMap_singleton, Migrations.runStatements_append,
      run_addTokenColumns tables uniform]
    have again := ten (hasTables_withUsage tables) (.inl (countsUsage_withUsage db))
      (by rwa [hasTokenColumns_tasks_withUsage])
    rw [withUsage_of_counts (countsUsage_withUsage db)] at again
    exact again
  · exact ten tables uniform tasks

/-! ### An upgrade -/

/-- The schema of a version: the token columns of projects and chat sessions come with
version 9, but in one history version 9 was something else. -/
structure Schema (db : Database) : Prop where
  tasks : db.taskColumns.isSome = true → hasTokenColumns db .tasks = true
  usage : (9 ≤ db.userVersion ∧ countsUsage db = true ∧ hasTokenColumns db .tasks = true) ∨
    (db.userVersion ≤ 9 ∧ lacksUsage db = true)

/-- The tables that do not exist yet. -/
def withBaseTables (db : Database) : Database :=
  { db with
    projectColumns := some (db.projectColumns.getD projectsBaseColumns)
    taskColumns := some (db.taskColumns.getD tasksBaseColumns)
    chatSessionColumns := some (db.chatSessionColumns.getD chatSessionsBaseColumns) }

theorem run_baseTables (db : Database) :
    runStatements (engine arithmetic) baseTables db = .ok (withBaseTables db) := by
  obtain ⟨version, projectColumns, taskColumns, chatColumns, projects, tasks, chats, events⟩ := db
  cases projectColumns <;> cases taskColumns <;> cases chatColumns <;> rfl

theorem hasTables_withBaseTables (db : Database) : hasTables (withBaseTables db) := by
  intro table
  cases table <;> rfl

theorem hasColumn_withBaseTables (db : Database) {column : String} (inside : column ∈ tokenColumns) :
    (withBaseTables db).hasColumn .projects column = db.hasColumn .projects column ∧
      (withBaseTables db).hasColumn .chatSessions column = db.hasColumn .chatSessions column := by
  have absent : ∀ column ∈ tokenColumns, projectsBaseColumns.contains column = false ∧
      chatSessionsBaseColumns.contains column = false := by decide
  constructor
  · change ((some (db.projectColumns.getD projectsBaseColumns)).getD []).contains column =
      (db.projectColumns.getD []).contains column
    cases db.projectColumns with
    | none => exact (absent column inside).1
    | some columns => rfl
  · change ((some (db.chatSessionColumns.getD chatSessionsBaseColumns)).getD []).contains column =
      (db.chatSessionColumns.getD []).contains column
    cases db.chatSessionColumns with
    | none => exact (absent column inside).2
    | some columns => rfl

theorem all_congr_of_mem {p q : String → Bool} {l : List String} (same : ∀ a ∈ l, p a = q a) :
    l.all p = l.all q := by
  rw [Bool.eq_iff_iff, List.all_eq_true, List.all_eq_true]
  exact forall₂_congr fun a inside => by rw [same a inside]

theorem countsUsage_congr {db db' : Database} (same : ∀ column ∈ tokenColumns,
      db'.hasColumn .projects column = db.hasColumn .projects column ∧
        db'.hasColumn .chatSessions column = db.hasColumn .chatSessions column) :
    countsUsage db' = countsUsage db ∧ lacksUsage db' = lacksUsage db := by
  constructor
  · rw [countsUsage, countsUsage, hasTokenColumns, hasTokenColumns, hasTokenColumns, hasTokenColumns,
      all_congr_of_mem fun column inside => (same column inside).1,
      all_congr_of_mem fun column inside => (same column inside).2]
  · refine all_congr_of_mem fun column inside => ?_
    rw [(same column inside).1, (same column inside).2]

/-- What an upgrade does: totals of tasks are kept, those of projects and chat sessions
begin with the totals of the tasks and with nothing. -/
structure Upgrade (arithmetic : Arithmetic) (db db' : Database) : Prop where
  userVersion : latestVersion ≤ db'.userVersion
  usageEvents : db'.usageEvents = db.usageEvents
  tasks : db'.tasks.map TaskRow.counted = db.tasks.map TaskRow.counted
  projects : db'.projects =
    if 10 ≤ db.userVersion then db.projects
    else (withUsage db).projects.map (backfill arithmetic db.tasks)
  chatSessions : db'.chatSessions = (withUsage db).chatSessions
  counts : countsUsage db' = true
  tasksCount : hasTokenColumns db' .tasks = true

theorem backfill_congr {tasks tasks' : List TaskRow}
    (same : tasks'.map TaskRow.counted = tasks.map TaskRow.counted) :
    backfill arithmetic tasks' = backfill arithmetic tasks := by
  have totals (tasks : List TaskRow) (projectId : String) : tasksTotals tasks projectId =
      ((tasks.map TaskRow.counted).filter (·.2.1 == projectId)).map (·.2.2) := by
    rw [List.filter_map, List.map_map]
    rfl
  have some_ (tasks : List TaskRow) (projectId : String) : hasCountedTask tasks projectId =
      (tasks.map TaskRow.counted).any fun task =>
        task.2.1 == projectId && decide (0 < task.2.2.tokenTotal) := by
    rw [List.any_map]
    rfl
  funext row
  rw [backfill, backfill, totals, totals, some_, some_, same]

/-- Projects and chat sessions with the token columns depend on the columns and the rows. -/
theorem withUsage_congr {db db' : Database} (counts : countsUsage db' = countsUsage db)
    (projects : db'.projects = db.projects) (chats : db'.chatSessions = db.chatSessions) :
    (withUsage db').projects = (withUsage db).projects ∧
      (withUsage db').chatSessions = (withUsage db).chatSessions := by
  rw [withUsage, withUsage, counts]
  split
  · exact ⟨projects, chats⟩
  · dsimp only
    rw [projects, chats]
    exact ⟨rfl, rfl⟩

theorem tasks_withUsage (db : Database) : (withUsage db).tasks = db.tasks ∧
    (withUsage db).usageEvents = db.usageEvents := by
  unfold withUsage
  split <;> exact ⟨rfl, rfl⟩

theorem latest_le_of_pending {version : Nat} (none_ : (pending migrations version).isEmpty = true) :
    latestVersion ≤ version := by
  rw [List.isEmpty_iff, pending, List.filter_eq_nil_iff] at none_
  have last := none_ ⟨38, []⟩ (by simp [migrations, newerMigrations])
  simpa [latestVersion] using last

theorem statementsOf_pending (version : Nat) : statementsOf (pending migrations version) =
    statementsOf (pending olderMigrations version) ++
      (statementsOf (pending [⟨9, addTokenColumns⟩, ⟨10, addTokenColumns ++ [.backfillProjectTotals]⟩]
        version) ++ statementsOf (pending newerMigrations version)) := by
  rw [migrations, Migrations.pending_append, Migrations.pending_append,
    Migrations.statementsOf_append, Migrations.statementsOf_append]

theorem run_append_ok {first second : List Statement} {db db' : Database}
    (ran : runStatements (engine arithmetic) (first ++ second) db = .ok db') :
    ∃ between, runStatements (engine arithmetic) first db = .ok between ∧
      runStatements (engine arithmetic) second between = .ok db' := by
  rw [Migrations.runStatements_append] at ran
  cases front : runStatements (engine arithmetic) first db with
  | error error =>
    rw [front] at ran
    cases ran
  | ok between =>
    rw [front] at ran
    exact ⟨between, rfl, ran⟩

theorem run_between {db db' : Database} (tables : hasTables db)
    (uniform : countsUsage db = true ∨ lacksUsage db = true)
    (tasks : hasTokenColumns db .tasks = true) {version : Nat}
    (ran : runStatements (engine arithmetic) (statementsOf (pending [⟨9, addTokenColumns⟩,
        ⟨10, addTokenColumns ++ [.backfillProjectTotals]⟩] version)) db = .ok db') :
    db' = if 10 ≤ version then db else backfilled arithmetic (withUsage db) := by
  split
  next newer =>
    have none_ : pending [⟨9, addTokenColumns⟩, ⟨10, addTokenColumns ++ [.backfillProjectTotals]⟩]
        version = [] := by
      refine Migrations.pending_of_older fun migration inside => ?_
      rcases List.mem_cons.mp inside with rfl | last
      · exact Nat.le_of_succ_le newer
      · rw [List.mem_singleton.mp last]
        exact newer
    rw [none_] at ran
    cases ran
    rfl
  next older =>
    rw [run_usageMigrations tables uniform tasks (Nat.le_of_lt_succ (Nat.not_le.mp older))] at ran
    cases ran
    rfl

theorem hasTokenColumns_congr {db db' : Database} {table : Table}
    (same : ∀ column ∈ tokenColumns, db'.hasColumn table column = db.hasColumn table column) :
    hasTokenColumns db' table = hasTokenColumns db table :=
  all_congr_of_mem same

/-- An upgrade from any version. -/
theorem ensureTables_upgrade {db db' : Database} (schema : Schema db)
    (returned : ensureTables arithmetic db = .ok db') : Upgrade arithmetic db db' := by
  rw [ensureTables, run_baseTables] at returned
  change runMigrations arithmetic (withBaseTables db) = .ok db' at returned
  have tables := hasTables_withBaseTables db
  have columns := countsUsage_congr fun column inside => hasColumn_withBaseTables db inside
  have tasksCount : hasTokenColumns (withBaseTables db) .tasks = true := by
    have kept := schema.tasks
    change tokenColumns.all (((some (db.taskColumns.getD tasksBaseColumns)).getD []).contains) = true
    change _ → tokenColumns.all ((db.taskColumns.getD []).contains) = true at kept
    cases exist : db.taskColumns with
    | none => decide
    | some columns =>
      rw [exist] at kept
      exact kept rfl
  have uniform : countsUsage (withBaseTables db) = true ∨ lacksUsage (withBaseTables db) = true := by
    rw [columns.1, columns.2]
    exact schema.usage.imp (fun counts => counts.2.1) And.right
  have usage := @withUsage_congr db (withBaseTables db) columns.1 rfl rfl
  have counted (newer : 10 ≤ db.userVersion) : countsUsage db = true := by
    rcases schema.usage with ⟨-, counts, -⟩ | ⟨old, -⟩
    · exact counts
    · omega
  rw [runMigrations] at returned
  split at returned
  next none_ =>
    cases returned
    have latest := latest_le_of_pending none_
    have newer : 10 ≤ db.userVersion := le_trans (by decide) latest
    exact {
      userVersion := latest
      usageEvents := rfl
      tasks := rfl
      projects := (if_pos newer).symm
      chatSessions := by
        rw [withUsage_of_counts (counted newer)]
        rfl
      counts := columns.1.trans (counted newer)
      tasksCount }
  next =>
    cases ran : runStatements (engine arithmetic)
        (statementsOf (pending migrations (withBaseTables db).userVersion)) (withBaseTables db) with
    | error error =>
      rw [ran] at returned
      cases returned
    | ok last =>
      rw [ran] at returned
      cases returned
      rw [statementsOf_pending] at ran
      obtain ⟨older, ranOlder, ran⟩ := run_append_ok ran
      obtain ⟨between, ranBetween, ranNewer⟩ := run_append_ok ran
      have before := sameTotals_run (older_counts_nothing _) ranOlder tables
      have sameColumns := countsUsage_congr fun column inside =>
        ⟨before.columns .projects column inside, before.columns .chatSessions column inside⟩
      have tasksBefore : hasTokenColumns older .tasks = true := by
        rw [hasTokenColumns_congr (before.columns .tasks)]
        exact tasksCount
      have middle : between = if 10 ≤ db.userVersion then older
          else backfilled arithmetic (withUsage older) :=
        run_between before.tables
        (by rw [sameColumns.1, sameColumns.2]; exact uniform) tasksBefore ranBetween
      have tablesBetween : hasTables between := by
        rw [middle]
        split
        · exact before.tables
        · exact hasTables_withUsage before.tables
      have behind := sameTotals_run (newer_counts_nothing _) ranNewer tablesBetween
      have sameUsage := withUsage_congr sameColumns.1 before.projects before.chatSessions
      have countsBetween : countsUsage between = true := by
        rw [middle]
        split
        next newer => rw [sameColumns.1, columns.1, counted newer]
        next => exact countsUsage_withUsage older
      have tasksBetween : hasTokenColumns between .tasks = true := by
        rw [middle]
        split
        · exact tasksBefore
        · exact (hasTokenColumns_tasks_withUsage older).trans tasksBefore
      have finalColumns := countsUsage_congr fun column inside =>
        ⟨behind.columns .projects column inside, behind.columns .chatSessions column inside⟩
      exact {
        userVersion := Nat.le_refl _
        usageEvents := by
          refine behind.usageEvents.trans (Eq.trans ?_ before.usageEvents)
          rw [middle]
          split
          · rfl
          · exact (tasks_withUsage older).2
        tasks := by
          refine behind.tasks.trans (Eq.trans ?_ before.tasks)
          rw [middle]
          split
          · rfl
          · exact congrArg _ (tasks_withUsage older).1
        projects := by
          refine behind.projects.trans ?_
          by_cases newer : 10 ≤ db.userVersion
          · rw [middle, if_pos newer, if_pos newer]
            exact before.projects
          · rw [middle, if_neg newer, if_neg newer]
            change (withUsage older).projects.map (backfill arithmetic (withUsage older).tasks) = _
            rw [(tasks_withUsage older).1, backfill_congr before.tasks, sameUsage.1, usage.1]
            rfl
        chatSessions := by
          refine behind.chatSessions.trans ?_
          rw [middle]
          split
          next newer =>
            rw [withUsage_of_counts (counted newer)]
            exact before.chatSessions
          next => exact sameUsage.2.trans usage.2
        counts := finalColumns.1.trans countsBetween
        tasksCount := (hasTokenColumns_congr (behind.columns .tasks)).trans tasksBetween }

theorem ensureTables_of_upgraded {db : Database} (tables : hasTables db)
    (latest : latestVersion ≤ db.userVersion) : ensureTables arithmetic db = .ok db := by
  have base : withBaseTables db = db := by
    obtain ⟨version, projectColumns, taskColumns, chatColumns, projects, tasks, chats, events⟩ := db
    obtain ⟨_, rfl⟩ := Option.isSome_iff_exists.mp (tables .projects)
    obtain ⟨_, rfl⟩ := Option.isSome_iff_exists.mp (tables .tasks)
    obtain ⟨_, rfl⟩ := Option.isSome_iff_exists.mp (tables .chatSessions)
    rfl
  have none_ : pending migrations db.userVersion = [] := by
    have all : ∀ migration ∈ migrations, migration.version ≤ latestVersion := by decide
    exact Migrations.pending_of_older fun migration inside => (all migration inside).trans latest
  rw [ensureTables, run_baseTables, base]
  change runMigrations arithmetic db = _
  rw [runMigrations, none_]
  rfl

theorem hasTables_of_counts {db : Database} (counts : countsUsage db = true)
    (tasks : hasTokenColumns db .tasks = true) : hasTables db := by
  have present (table : Table) (all : hasTokenColumns db table = true) :
      (db.columns table).isSome = true := by
    have first := hasTokenColumns_iff.mp all "token_input" List.mem_cons_self
    rw [Database.hasColumn] at first
    cases exist : db.columns table with
    | none =>
      rw [exist] at first
      cases first
    | some columns => rfl
  rw [countsUsage, Bool.and_eq_true] at counts
  intro table
  cases table with
  | projects => exact present _ counts.1
  | chatSessions => exact present _ counts.2
  | tasks => exact present _ tasks

end AifHandoff.Shared
