import AifHandoff.Data.RequirementQuestions
import AifHandoff.Data.RollupOps
import AifHandoff.Data.SplitProposals
import AifHandoff.Data.StageArtifacts

/-!
The tables that hang on a task, and the calls that write them (`data/index.ts`).

The calls on the tasks, the roadmap batches, the questions, the stage artifacts and the
split proposals are those of the modules about them; here they work on all tables at once.
No table has a foreign key.

The callback of an approval creates tasks and a batch; it stands as the list of what it
creates. Titles and descriptions are no columns of the tasks here and come with a snapshot.
-/

namespace AifHandoff.Data

open Text StageArtifacts SplitProposals Transition

/-! ### Tables -/

inductive CommentAuthor where
  | human | agent
deriving DecidableEq, Repr

structure TaskComment where
  id : String
  taskId : TaskId
  author : CommentAuthor
  message : String
  attachments : List String
  createdAt : Nat
deriving DecidableEq, Repr

structure RequirementsSnapshotRow where
  id : String
  taskId : TaskId
  projectId : String
  version : Nat
  markdown : String
  summary : String
  sourceQuestionIds : List String
  redactionCount : Nat
  createdAt : Nat
  updatedAt : Nat
deriving DecidableEq, Repr

/-- The columns of a task that only the questions and the snapshots use. -/
structure TaskColumns where
  requirementsCycleCount : Nat := 0
  needsInputBatchId : Option String := none
  needsInputStage : Option RequirementQuestionStage := none
  needsInputReason : Option String := none
  lastHumanAnswerAt : Option Nat := none
  lastAutoResumeAt : Option Nat := none
  requirementsSnapshotId : Option String := none
deriving DecidableEq, Repr

structure DataStore (δ χ : Type) where
  roadmap : RoadmapStore δ := {}
  columns : TaskId → TaskColumns := fun _ => {}
  comments : List TaskComment := []
  questions : List RequirementQuestionRow := []
  snapshots : List RequirementsSnapshotRow := []
  stages : StageArtifacts.Tables := ⟨[], []⟩
  proposals : List (TaskSplitProposal χ) := []

variable {δ χ : Type} [ValidationDetails δ]

omit [ValidationDetails δ] in
def existingTaskIds (db : DataStore δ χ) : List TaskId := db.roadmap.tasks.map (·.id)

/-! ### Comments -/

structure CreateTaskCommentInput where
  taskId : TaskId
  author : CommentAuthor
  message : String
  attachments : List String := []
  createdAt : Option Nat := none
deriving DecidableEq, Repr

section Comments

variable (db : DataStore δ χ)

/-- The task is not looked up. -/
def createTaskComment (input : CreateTaskCommentInput) (id : String) (now : Nat) :
    DataStore δ χ :=
  { db with comments := db.comments ++ [{
      id
      taskId := input.taskId
      author := input.author
      message := input.message
      attachments := input.attachments
      createdAt := input.createdAt.getD now }] }

def updateTaskComment (commentId : String) (attachments : Option (List String)) : DataStore δ χ :=
  { db with comments := db.comments.map fun row =>
      if row.id = commentId then { row with attachments := attachments.getD row.attachments }
      else row }

def deleteTaskComment (commentId : String) : DataStore δ χ :=
  { db with comments := db.comments.filter (·.id ≠ commentId) }

end Comments

/-! ### Questions -/

section Questions

variable (db : DataStore δ χ)

/-- A task as the question calls see it. -/
def questionStore (task : TaskRow) : QuestionStore where
  task := {
    row := task
    requirementsCycleCount := (db.columns task.id).requirementsCycleCount
    needsInputBatchId := (db.columns task.id).needsInputBatchId
    needsInputStage := (db.columns task.id).needsInputStage
    needsInputReason := (db.columns task.id).needsInputReason
    lastHumanAnswerAt := (db.columns task.id).lastHumanAnswerAt
    lastAutoResumeAt := (db.columns task.id).lastAutoResumeAt }
  questions := db.questions

/-- The task's own columns after a call. -/
def columnsAfter (task : RequirementTask) (columns : TaskColumns) : TaskColumns :=
  { columns with
    requirementsCycleCount := task.requirementsCycleCount
    needsInputBatchId := task.needsInputBatchId
    needsInputStage := task.needsInputStage
    needsInputReason := task.needsInputReason
    lastHumanAnswerAt := task.lastHumanAnswerAt
    lastAutoResumeAt := task.lastAutoResumeAt }

/-- What a call leaves of the task and the questions, and the rollups above the task. The
refresh of the log line finds nothing new. -/
def writeQuestions (taskId : TaskId) (after : QuestionStore) (now : Nat) : DataStore δ χ :=
  { db with
    roadmap := refreshAncestors { db.roadmap with
      tasks := updateWhereId db.roadmap.tasks taskId fun _ => after.task.row } taskId now
    columns := fun id =>
      if id = taskId then columnsAfter after.task (db.columns id) else db.columns id
    questions := after.questions }

/-- A call on the questions of a task; one that writes nothing refreshes nothing. -/
def onQuestions (taskId : TaskId) (call : QuestionStore → Except String QuestionStore)
    (now : Nat) : Except String (DataStore δ χ) :=
  match findTaskById db.roadmap.tasks taskId with
  | none => .error "Task not found"
  | some task =>
    match call (questionStore db task) with
    | .error error => .error error
    | .ok after =>
      .ok (if after = questionStore db task then db else writeQuestions db taskId after now)

end Questions

/-- The calls on the questions of a task. -/
inductive QuestionCall where
  | create (input : CreateQuestionBatchInput) (randomUUID : Nat → String)
  | answer (parsers : AnswerParsers) (answer : QuestionAnswer)
  | answerBatch (parsers : AnswerParsers) (autoResumeDefault : Bool) (batchId : String)
      (answers : List QuestionAnswer) (autoResume : Option Bool)
  | resolveOpen (reason : String)

def callQuestions (s : QuestionStore) (now : Nat) : QuestionCall → Except String QuestionStore
  | .create input randomUUID =>
    (createTaskRequirementQuestionBatch s input now randomUUID).map (·.1)
  | .answer parsers answer => answerTaskRequirementQuestion parsers s answer now
  | .answerBatch parsers autoResumeDefault batchId answers autoResume =>
    (answerTaskRequirementQuestionBatch parsers s autoResumeDefault batchId answers autoResume
      now).map (·.1)
  | .resolveOpen reason => .ok (resolveOpenRequirementQuestionsForTask s reason now).1

/-! ### Snapshots -/

/-- The texts of a task. -/
structure TaskTexts where
  title : String
  description : Option String
deriving DecidableEq, Repr

structure SnapshotText where
  markdown : String
  summary : String
  sourceQuestionIds : List String
  redactionCount : Nat
deriving DecidableEq, Repr

def stageText : RequirementQuestionStage → String
  | .requirementsAnalysis => "requirements_analysis"
  | .research => "research"
  | .design => "design"
  | .planning => "planning"
  | .implementing => "implementing"
  | .review => "review"
  | .qa => "qa"
  | .acceptance => "acceptance"

/-- The answer in a snapshot, and whether it was redacted. -/
def redactRequirementAnswerForSnapshot (answer : Option String) : Option String × Bool :=
  match answer.map trim with
  | none => (none, false)
  | some trimmed =>
    if trimmed.isEmpty then (some "", false)
    else if containsSecretLikeAnswer trimmed then (some "[REDACTED_SECRET_LIKE_ANSWER]", true)
    else (some trimmed, false)

def answeredLines (question : RequirementQuestionRow) : List String :=
  ["", "### " ++ question.question, "", "Why needed: " ++ question.whyNeeded,
    "Stage: " ++ stageText question.stage,
    "Answer: " ++
      (redactRequirementAnswerForSnapshot question.answer).1.getD "(No answer recorded.)"]

def buildRequirementsSnapshotMarkdown (texts : TaskTexts) (task : TaskRow)
    (questions : List RequirementQuestionRow) : SnapshotText :=
  let answered := questions.filter fun question =>
    question.status == .answered || question.status == .resolved
  let redactionCount := answered.countP fun question =>
    (redactRequirementAnswerForSnapshot question.answer).2
  let lines := ["# Requirements Snapshot: " ++ texts.title, "", "Task: " ++ task.id,
    "Status: " ++ task.status.text, "", "## Task Description",
    ((texts.description.map trim).filter (!·.isEmpty)).getD "(No description provided.)",
    "", "## Answered Requirements"] ++
    if answered.isEmpty then ["", "(No answered requirements questions.)"]
    else answered.flatMap answeredLines
  { markdown := join "\n" lines
    summary :=
      if 0 < redactionCount then toString answered.length ++ " answered requirement(s); " ++
        toString redactionCount ++ " answer(s) redacted."
      else toString answered.length ++ " answered requirement(s)."
    sourceQuestionIds := answered.map (·.id)
    redactionCount }

structure SnapshotOptions where
  summary : Option String := none
  sourceStage : Option String := none
  sourceQuestionBatchId : Option String := none
deriving DecidableEq, Repr

/-- `orderBy(asc(cycleNumber), asc(createdAt))`. -/
def questionOrder (a b : RequirementQuestionRow) : Prop :=
  a.cycleNumber < b.cycleNumber ∨ (a.cycleNumber = b.cycleNumber ∧ a.createdAt ≤ b.createdAt)

instance : DecidableRel questionOrder := fun _ _ => inferInstanceAs (Decidable (_ ∨ _ ∧ _))

/-- The attempt that a snapshot is recorded as. -/
def snapshotAttempt (taskId : TaskId) (built : SnapshotText) (options : SnapshotOptions)
    (summary snapshotId : String) : RecordTaskStageArtifactAttemptInput where
  taskId
  stage := "requirements_analysis"
  kind := "requirements"
  label := some "Requirements snapshot"
  path := some (some "requirements.md")
  state := some .accepted
  outcome := some .supported
  trustLevel := some .trusted
  summary := some summary
  markdown := some (some built.markdown)
  sourceSnapshotId := some (some snapshotId)
  metadata := some (.obj [("snapshotVersion", .num ()), ("redactionCount", .num ()),
    ("sourceQuestionIds", .arr (built.sourceQuestionIds.map .str)),
    ("sourceStage", options.sourceStage.elim .null .str),
    ("sourceQuestionBatchId", options.sourceQuestionBatchId.elim .null .str)])

def createCurrentRequirementsSnapshot (db : DataStore δ χ) (taskId : TaskId) (texts : TaskTexts)
    (options : SnapshotOptions) (snapshotId : String) (draw : StageArtifacts.Draw) (now : Nat) :
    Except String (DataStore δ χ) :=
  match findTaskById db.roadmap.tasks taskId with
  | none => .error "Task not found"
  | some task =>
    let built := buildRequirementsSnapshotMarkdown texts task
      ((db.questions.filter (·.taskId == taskId)).insertionSort questionOrder)
    let summary := ((options.summary.map trim).filter (!·.isEmpty)).getD built.summary
    let versions := (db.snapshots.filter (·.taskId == taskId)).map (·.version)
    let row : RequirementsSnapshotRow :=
      { id := snapshotId
        taskId
        projectId := task.projectId
        version := versions.foldl max 0 + 1
        markdown := built.markdown
        summary
        sourceQuestionIds := built.sourceQuestionIds
        redactionCount := built.redactionCount
        createdAt := now
        updatedAt := now }
    (recordTaskStageArtifactAttempt (existingTaskIds db)
      (snapshotAttempt taskId built options summary snapshotId) draw db.stages).map fun stages =>
        { db with
          roadmap := { db.roadmap with
            tasks := updateWhereId db.roadmap.tasks taskId ({ · with updatedAt := now }) }
          columns := fun id =>
            if id = taskId then { db.columns id with requirementsSnapshotId := some snapshotId }
            else db.columns id
          snapshots := db.snapshots ++ [row]
          stages }

/-! ### Proposals -/

/-- What the callback of an approval may call. -/
inductive Creation where
  | task (agentMaxReviewIterations : Nat) (id : TaskId) (input : CreateTaskInput) (now : Nat)
  | batch (input : CreateRoadmapBatchContractInput) (now : Nat) (randomUUID : Nat → String)

def Creation.op : Creation → RollupOp δ
  | .task agentMaxReviewIterations id input now =>
    .createTask agentMaxReviewIterations id input now
  | .batch input now randomUUID => .createBatch input now randomUUID

def create (db : RoadmapStore δ) (creation : Creation) : Except String (RoadmapStore δ) :=
  callRollup db creation.op

/-- Everything a callback creates, one after the other. -/
def createAll (db : RoadmapStore δ) : List Creation → Except String (RoadmapStore δ)
  | [] => .ok db
  | creation :: creations =>
    match create db creation with
    | .error error => .error error
    | .ok next => createAll next creations

section Proposals

variable (db : DataStore δ χ)

def createOrReusePendingTaskSplitProposal (input : CreateTaskSplitProposalInput χ)
    (id nowIso : String) : Except String (DataStore δ χ) :=
  match findPending db.proposals input.key with
  | some _ => .ok db
  | none =>
    if db.proposals.any (·.id = id) then
      .error "UNIQUE constraint failed: task_split_proposals.id"
    else .ok { db with proposals := db.proposals ++ [newProposal input id nowIso] }

def rejectTaskSplitProposal (projectId proposalId : String) (reason : Option String)
    (nowIso : String) : DataStore δ χ :=
  if (findTaskSplitProposalRow db.proposals projectId proposalId).any (·.status = .pending) then
    { db with proposals := decide_ (rejection reason nowIso) projectId proposalId db.proposals }
  else db

/-- A call that throws is rolled back. -/
def approveProposal (projectId proposalId : String) (approvedBy : Option String)
    (creations : List Creation) (created : CreatedTasks) (nowIso : String) : DataStore δ χ :=
  match approveTaskSplitProposal projectId proposalId approvedBy
      (fun _ roadmap => (createAll roadmap creations).map fun roadmap => (roadmap, created)) nowIso
      db.proposals db.roadmap with
  | .error _ => db
  | .ok (proposals, roadmap, _) => { db with proposals, roadmap }

end Proposals

/-! ### The system -/

inductive DataOp (δ χ : Type) where
  | create (creation : Creation)
  | updateArtifact (input : RoadmapArtifactStateInput δ) (now : Nat) (randomUUID : String)
  | deleteTask (id : TaskId) (allowAttachedChild : Bool) (now : Nat)
  | createComment (input : CreateTaskCommentInput) (id : String) (now : Nat)
  | updateComment (commentId : String) (attachments : Option (List String))
  | deleteComment (commentId : String)
  | questions (taskId : TaskId) (call : QuestionCall) (now : Nat)
  | createSnapshot (taskId : TaskId) (texts : TaskTexts) (options : SnapshotOptions)
      (snapshotId : String) (draw : StageArtifacts.Draw) (now : Nat)
  | recordStageArtifact (input : RecordTaskStageArtifactAttemptInput) (draw : StageArtifacts.Draw)
  | createProposal (input : CreateTaskSplitProposalInput χ) (id nowIso : String)
  | rejectProposal (projectId proposalId : String) (reason : Option String) (nowIso : String)
  | approveProposal (projectId proposalId : String) (approvedBy : Option String)
      (creations : List Creation) (created : CreatedTasks) (nowIso : String)

/-- The tables after a call, unless it throws. -/
def callData (db : DataStore δ χ) : DataOp δ χ → Except String (DataStore δ χ)
  | .create creation => (create db.roadmap creation).map fun roadmap => { db with roadmap }
  | .updateArtifact input now randomUUID =>
    (updateArtifact db.roadmap input now randomUUID).map fun roadmap => { db with roadmap }
  | .deleteTask id allowAttachedChild now =>
    (deleteTask db.roadmap id allowAttachedChild now).map fun roadmap => { db with
      roadmap
      comments :=
        if (findTaskById db.roadmap.tasks id).isSome then db.comments.filter (·.taskId ≠ id)
        else db.comments }
  | .createComment input id now => .ok (createTaskComment db input id now)
  | .updateComment commentId attachments => .ok (updateTaskComment db commentId attachments)
  | .deleteComment commentId => .ok (deleteTaskComment db commentId)
  | .questions taskId call now => onQuestions db taskId (callQuestions · now call) now
  | .createSnapshot taskId texts options snapshotId draw now =>
    createCurrentRequirementsSnapshot db taskId texts options snapshotId draw now
  | .recordStageArtifact input draw =>
    (recordTaskStageArtifactAttempt (existingTaskIds db) input draw db.stages).map
      fun stages => { db with stages }
  | .createProposal input id nowIso => createOrReusePendingTaskSplitProposal db input id nowIso
  | .rejectProposal projectId proposalId reason nowIso =>
    .ok (rejectTaskSplitProposal db projectId proposalId reason nowIso)
  | .approveProposal projectId proposalId approvedBy creations created nowIso =>
    .ok (approveProposal db projectId proposalId approvedBy creations created nowIso)

/-- Everything a callback creates draws new ids. -/
def CreatesFresh (db : RoadmapStore δ) : List Creation → Prop
  | [] => True
  | creation :: creations => DrawsFresh db creation.op ∧
      ∀ next, create db creation = .ok next → CreatesFresh next creations

/-- The ids a call draws are new. -/
def DrawsNew (db : DataStore δ χ) : DataOp δ χ → Prop
  | .create creation => DrawsFresh db.roadmap creation.op
  | .updateArtifact input now randomUUID =>
    DrawsFresh db.roadmap (.updateArtifact input now randomUUID)
  | .approveProposal _ _ _ creations _ _ => CreatesFresh db.roadmap creations
  | _ => True

/-- Successful calls from empty tables. -/
def dataSystem : System (DataStore δ χ) (DataOp δ χ) where
  init db := db = {}
  step db op db' := DrawsNew db op ∧ callData db op = .ok db'

end AifHandoff.Data
