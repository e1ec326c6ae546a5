import AifHandoff.Lib.Json
import AifHandoff.Lib.Text

/-!
Stage artifacts and their attempts (`packages/data/src/index.ts`).

An attempt is a row of its own; the artifact of its task, stage and kind holds the latest one.
The metadata are stored as JSON text. No reader of them looks at a number, so that the
numbers in them are one value.
-/

namespace AifHandoff.Data.StageArtifacts

open AifHandoff.Json

/-- The metadata of an attempt. -/
abbrev Metadata := Json Unit

def anyNumber : NumberTexts Unit := ⟨fun _ => ['0'], fun _ => ()⟩

theorem anyNumber_lawful : LawfulNumbers anyNumber where
  isNumber := by
    intro n
    rfl
  read := by
    intro n
    rfl

inductive TaskStageArtifactState where
  | expected
  | accepted
  | rejected
  | missing
  | inconclusive
  | blocked
  | manualException
  deriving DecidableEq, Repr

inductive ClaimOutcome where
  | supported
  | refuted
  | inconclusive
  | blocked
  | waived
  | notEvaluated
  deriving DecidableEq, Repr

inductive TrustLevel where
  | trusted
  | weak
  | untrusted
  deriving DecidableEq, Repr

structure TaskStageArtifactRow where
  id : String
  taskId : String
  stage : String
  kind : String
  label : String
  artifactPath : Option String
  state : TaskStageArtifactState
  currentAttemptNumber : Nat
  summary : String
  markdown : Option String
  sourceSnapshotId : Option String
  metadataJson : List Char
  createdAt : String
  updatedAt : String

structure TaskStageArtifactAttemptRow where
  id : String
  artifactId : String
  taskId : String
  stage : String
  kind : String
  attemptNumber : Nat
  state : TaskStageArtifactState
  outcome : ClaimOutcome
  trustLevel : TrustLevel
  summary : String
  markdown : Option String
  sourceSnapshotId : Option String
  metadataJson : List Char
  createdAt : String

/-- The two tables. -/
structure Tables where
  artifacts : List TaskStageArtifactRow
  attempts : List TaskStageArtifactAttemptRow

/-! ### Reading attempts -/

structure TaskStageArtifactAttempt where
  id : String
  artifactId : String
  taskId : String
  stage : String
  kind : String
  attemptNumber : Nat
  state : TaskStageArtifactState
  outcome : ClaimOutcome
  trustLevel : TrustLevel
  summary : String
  markdown : Option String
  sourceSnapshotId : Option String
  metadata : Metadata
  createdAt : String

def isObject : Metadata → Bool
  | .obj _ => true
  | _ => false

def parseRuntimeObject (raw : List Char) : Option Metadata :=
  if raw.isEmpty then none else (parse anyNumber.read raw).filter isObject

def toTaskStageArtifactAttempt (row : TaskStageArtifactAttemptRow) : TaskStageArtifactAttempt where
  id := row.id
  artifactId := row.artifactId
  taskId := row.taskId
  stage := row.stage
  kind := row.kind
  attemptNumber := row.attemptNumber
  state := row.state
  outcome := row.outcome
  trustLevel := row.trustLevel
  summary := row.summary
  markdown := row.markdown
  sourceSnapshotId := row.sourceSnapshotId
  metadata := (parseRuntimeObject row.metadataJson).getD (.obj [])
  createdAt := row.createdAt

/-- The attempts of a task, the oldest first. -/
def listTaskStageArtifactAttempts (tables : Tables) (taskId : String) :
    List TaskStageArtifactAttempt :=
  ((tables.attempts.filter (·.taskId = taskId)).mergeSort
    (fun left right => left.createdAt ≤ right.createdAt)).map toTaskStageArtifactAttempt

theorem mem_listTaskStageArtifactAttempts {tables : Tables} {taskId : String}
    {attempt : TaskStageArtifactAttempt} :
    attempt ∈ listTaskStageArtifactAttempts tables taskId ↔
      ∃ row ∈ tables.attempts, row.taskId = taskId ∧ attempt = toTaskStageArtifactAttempt row := by
  rw [listTaskStageArtifactAttempts, List.mem_map]
  constructor
  · rintro ⟨row, listed, rfl⟩
    obtain ⟨stored, owner⟩ := List.mem_filter.mp (List.mem_mergeSort.mp listed)
    exact ⟨row, stored, of_decide_eq_true owner, rfl⟩
  · rintro ⟨row, stored, owner, rfl⟩
    exact ⟨row, List.mem_mergeSort.mpr (List.mem_filter.mpr ⟨stored, decide_eq_true owner⟩), rfl⟩

/-! ### Recording attempts -/

def defaultOutcomeForTaskStageState : TaskStageArtifactState → ClaimOutcome
  | .accepted => .supported
  | .rejected | .missing => .refuted
  | .blocked => .blocked
  | .inconclusive => .inconclusive
  | .manualException => .waived
  | .expected => .notEvaluated

def defaultTrustForTaskStageState : TaskStageArtifactState → TrustLevel
  | .accepted => .trusted
  | .expected | .manualException => .weak
  | _ => .untrusted

/-- What a caller records; a field left out stands as `none`. -/
structure RecordTaskStageArtifactAttemptInput where
  taskId : String
  stage : String
  kind : String
  label : Option String := none
  path : Option (Option String) := none
  state : Option TaskStageArtifactState := none
  outcome : Option ClaimOutcome := none
  trustLevel : Option TrustLevel := none
  summary : Option String := none
  markdown : Option (Option String) := none
  sourceSnapshotId : Option (Option String) := none
  metadata : Option Metadata := none

/-- The instant of a recording and the identifiers it draws. -/
structure Draw where
  attemptId : String
  artifactId : String
  nowIso : String

def metadataText (input : RecordTaskStageArtifactAttemptInput) : List Char :=
  stringify anyNumber.write (input.metadata.getD (.obj []))

def isCurrentArtifact (input : RecordTaskStageArtifactAttemptInput) (row : TaskStageArtifactRow) :
    Bool :=
  row.taskId = input.taskId && row.stage = input.stage && row.kind = input.kind

/-- The artifact behind a new attempt. -/
def updatedArtifact (input : RecordTaskStageArtifactAttemptInput) (draw : Draw)
    (current : TaskStageArtifactRow) : TaskStageArtifactRow :=
  { current with
    label := input.label.getD current.label
    artifactPath := input.path.getD current.artifactPath
    state := input.state.getD .accepted
    currentAttemptNumber := current.currentAttemptNumber + 1
    summary := (input.summary.map Text.trim).getD current.summary
    markdown := input.markdown.getD current.markdown
    sourceSnapshotId := input.sourceSnapshotId.getD current.sourceSnapshotId
    metadataJson := if input.metadata.isNone then current.metadataJson else metadataText input
    updatedAt := draw.nowIso }

/-- The artifact of a first attempt. -/
def insertedArtifact (input : RecordTaskStageArtifactAttemptInput) (draw : Draw) :
    TaskStageArtifactRow where
  id := draw.artifactId
  taskId := input.taskId
  stage := input.stage
  kind := input.kind
  label := input.label.getD
    (String.ofList (input.kind.toList.map fun c => if c = '_' then ' ' else c))
  artifactPath := input.path.join
  state := input.state.getD .accepted
  currentAttemptNumber := 1
  summary := (input.summary.map Text.trim).getD ""
  markdown := input.markdown.join
  sourceSnapshotId := input.sourceSnapshotId.join
  metadataJson := metadataText input
  createdAt := draw.nowIso
  updatedAt := draw.nowIso

def attemptRow (input : RecordTaskStageArtifactAttemptInput) (draw : Draw) (artifactId : String)
    (attemptNumber : Nat) : TaskStageArtifactAttemptRow where
  id := draw.attemptId
  artifactId
  taskId := input.taskId
  stage := input.stage
  kind := input.kind
  attemptNumber
  state := input.state.getD .accepted
  outcome := input.outcome.getD (defaultOutcomeForTaskStageState (input.state.getD .accepted))
  trustLevel := input.trustLevel.getD (defaultTrustForTaskStageState (input.state.getD .accepted))
  summary := (input.summary.map Text.trim).getD ""
  markdown := input.markdown.join
  sourceSnapshotId := input.sourceSnapshotId.join
  metadataJson := metadataText input
  createdAt := draw.nowIso

/-- `taskIds` are the tasks that exist. -/
def recordTaskStageArtifactAttempt (taskIds : List String)
    (input : RecordTaskStageArtifactAttemptInput) (draw : Draw) (tables : Tables) :
    Except String Tables :=
  if input.taskId ∉ taskIds then .error "Task not found"
  else match tables.artifacts.find? (isCurrentArtifact input) with
    | some current => .ok {
        artifacts := tables.artifacts.map fun row =>
          if row.id = current.id then updatedArtifact input draw row else row
        attempts := tables.attempts ++
          [attemptRow input draw current.id (current.currentAttemptNumber + 1)] }
    | none => .ok {
        artifacts := tables.artifacts ++ [insertedArtifact input draw]
        attempts := tables.attempts ++ [attemptRow input draw draw.artifactId 1] }

/-- A recording on an existing task adds one attempt, and on another task it throws. -/
theorem recordTaskStageArtifactAttempt_attempts (taskIds : List String)
    (input : RecordTaskStageArtifactAttemptInput) (draw : Draw) (tables : Tables) :
    (input.taskId ∉ taskIds ∧
        recordTaskStageArtifactAttempt taskIds input draw tables = .error "Task not found") ∨
      (input.taskId ∈ taskIds ∧ ∃ next artifactId attemptNumber,
        recordTaskStageArtifactAttempt taskIds input draw tables = .ok next ∧
        next.attempts = tables.attempts ++ [attemptRow input draw artifactId attemptNumber]) := by
  by_cases known : input.taskId ∈ taskIds
  · right
    refine ⟨known, ?_⟩
    rw [recordTaskStageArtifactAttempt, if_neg (not_not_intro known)]
    cases tables.artifacts.find? (isCurrentArtifact input) with
    | some current => exact ⟨_, _, _, rfl, rfl⟩
    | none => exact ⟨_, _, _, rfl, rfl⟩
  · left
    exact ⟨known, if_pos known⟩

theorem metadata_recorded {input : RecordTaskStageArtifactAttemptInput} {draw : Draw}
    {artifactId : String} {attemptNumber : Nat} {fields : List (String × Json Unit)}
    (given : input.metadata = some (.obj fields)) (distinct : Distinct (.obj fields)) :
    (toTaskStageArtifactAttempt (attemptRow input draw artifactId attemptNumber)).metadata =
      .obj fields := by
  have written : metadataText input = stringify anyNumber.write (.obj fields) := by
    rw [metadataText, given]
    rfl
  have parsed : parse anyNumber.read (metadataText input) = some (.obj fields) := by
    rw [written]
    exact parse_stringify anyNumber_lawful distinct
  have nonempty : (metadataText input).isEmpty = false := by
    rw [written]
    rfl
  have read : parseRuntimeObject (metadataText input) = some (.obj fields) := by
    rw [parseRuntimeObject, nonempty, parsed]
    rfl
  rw [toTaskStageArtifactAttempt, attemptRow]
  dsimp only
  rw [read]
  rfl

end AifHandoff.Data.StageArtifacts
