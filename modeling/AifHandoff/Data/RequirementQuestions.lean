import AifHandoff.Shared.RequirementsQuestions
import AifHandoff.Data.TaskFields
import Mathlib.Data.List.Sort

/-!
Requirement questions of one task (`createTaskRequirementQuestionBatch`,
`answerTaskRequirementQuestion`, `answerTaskRequirementQuestionBatch` and
`resolveOpenRequirementQuestionsForTask` of `data/index.ts`).

A batch with a blocking question moves the task to `needs_input` and is recorded as the
batch it waits for. Only an answer to that batch moves the task on.
`AifHandoff.Data.RequirementWait` is about runs of these calls.

Drawn ids are inputs. The listing of the questions in the answers of the calls and the
metrics are left out.
-/

namespace AifHandoff.Data

open Text

structure RequirementQuestionRow where
  id : String
  taskId : TaskId
  projectId : String
  stage : RequirementQuestionStage
  targetResumeStage : RequirementQuestionStage
  cycleNumber : Nat
  batchId : String
  idempotencyKey : Option String
  question : String
  whyNeeded : String
  blocking : Bool
  answerType : RequirementAnswerType
  options : Option (List String)
  defaultAnswer : Option String
  placeholder : Option String
  status : RequirementQuestionStatus := .open
  answer : Option String := none
  answerAttachments : Option (List String) := none
  answeredAt : Option Nat := none
  resolvedAt : Option Nat := none
  resolutionNote : Option String := none
  sourceAgent : String
  sourcePromptHash : Option String
  createdAt : Nat
  updatedAt : Nat
deriving DecidableEq, Repr

/-- A task with the columns of its question protocol. -/
structure RequirementTask where
  row : TaskRow
  requirementsCycleCount : Nat := 0
  needsInputBatchId : Option String := none
  needsInputStage : Option RequirementQuestionStage := none
  needsInputReason : Option String := none
  lastHumanAnswerAt : Option Nat := none
  lastAutoResumeAt : Option Nat := none
deriving DecidableEq, Repr

/-- The task and the question table. -/
structure QuestionStore where
  task : RequirementTask
  questions : List RequirementQuestionRow := []
deriving DecidableEq, Repr

structure RequirementQuestionInput where
  stage : Option RequirementQuestionStage := none
  targetResumeStage : Option RequirementQuestionStage := none
  idempotencyKey : Option String := none
  question : String
  whyNeeded : String
  blocking : Option Bool := none
  answerType : Option RequirementAnswerType := none
  options : Option (List String) := none
  defaultAnswer : Option String := none
  placeholder : Option String := none
  sourceAgent : Option String := none
  sourcePromptHash : Option String := none
deriving DecidableEq, Repr

structure CreateQuestionBatchInput where
  stage : RequirementQuestionStage
  targetResumeStage : Option RequirementQuestionStage := none
  reason : Option String := none
  questions : List RequirementQuestionInput
  sourceAgent : Option String := none
  sourcePromptHash : Option String := none
deriving DecidableEq, Repr

structure QuestionAnswer where
  questionId : String
  answer : String
  attachments : List String := []
deriving DecidableEq, Repr

/-! ### Creating a batch -/

/-- `assertRequirementQuestionInput` on a question completed from its batch. -/
def assertRequirementQuestionInput (question : RequirementQuestionInput) :
    Except String RequirementQuestionInput :=
  let answerType := question.answerType.getD .textarea
  if (trim question.question).isEmpty then .error "Question text is required"
  else if (trim question.whyNeeded).isEmpty then .error "Question whyNeeded is required"
  else if asksForRawSecret question.question then
    .error "Question appears to request a raw secret; ask for a credential reference"
  else if (answerType = .singleChoice || answerType = .multiChoice) &&
      question.options.all (·.isEmpty) then
    .error "Choice questions require options"
  else .ok { question with
    question := trim question.question
    whyNeeded := trim question.whyNeeded
    answerType := some answerType
    blocking := some (question.blocking.getD true)
    sourceAgent := some (question.sourceAgent.getD "requirements-analyst")
    targetResumeStage := question.targetResumeStage.orElse fun _ => question.stage
    idempotencyKey := (question.idempotencyKey.map trim).filter (!·.isEmpty) }

/-- A question with the defaults of its batch. -/
def completeQuestion (input : CreateQuestionBatchInput) (question : RequirementQuestionInput) :
    RequirementQuestionInput :=
  { question with
    stage := some (question.stage.getD input.stage)
    targetResumeStage := some (question.targetResumeStage.getD
      (input.targetResumeStage.getD input.stage))
    sourceAgent := some (question.sourceAgent.getD
      (input.sourceAgent.getD "requirements-analyst"))
    sourcePromptHash := question.sourcePromptHash.orElse fun _ => input.sourcePromptHash }

def normalizeQuestions (input : CreateQuestionBatchInput) :
    Except String (List RequirementQuestionInput) :=
  input.questions.mapM fun question =>
    assertRequirementQuestionInput (completeQuestion input question)

def hasActiveRequirementQuestionKey (s : QuestionStore) (idempotencyKey : String) : Bool :=
  let key := trim idempotencyKey
  !key.isEmpty && s.questions.any fun row => row.taskId == s.task.row.id &&
    row.idempotencyKey == some key &&
    (row.status == .open || row.status == .answered || row.status == .resolved)

/-- The questions whose key is not in use. -/
def dedupQuestions (s : QuestionStore) (questions : List RequirementQuestionInput) :
    List RequirementQuestionInput :=
  questions.filter fun question =>
    question.idempotencyKey.all fun key => key.isEmpty || !hasActiveRequirementQuestionKey s key

def newQuestionRow (s : QuestionStore) (input : CreateQuestionBatchInput) (now : Nat)
    (randomUUID : Nat → String) (index : Nat) (question : RequirementQuestionInput) :
    RequirementQuestionRow where
  id := randomUUID (index + 1)
  taskId := s.task.row.id
  projectId := s.task.row.projectId
  stage := question.stage.getD input.stage
  targetResumeStage :=
    question.targetResumeStage.getD (input.targetResumeStage.getD input.stage)
  cycleNumber := s.task.requirementsCycleCount + 1
  batchId := randomUUID 0
  idempotencyKey := question.idempotencyKey
  question := question.question
  whyNeeded := question.whyNeeded
  blocking := question.blocking.getD true
  answerType := question.answerType.getD .textarea
  options := question.options
  defaultAnswer := question.defaultAnswer
  placeholder := question.placeholder
  sourceAgent := question.sourceAgent.getD (input.sourceAgent.getD "requirements-analyst")
  sourcePromptHash := question.sourcePromptHash.orElse fun _ => input.sourcePromptHash
  createdAt := now
  updatedAt := now

/-- The insert refuses an id in use. -/
def insertQuestions (questions rows : List RequirementQuestionRow) :
    Except String (List RequirementQuestionRow) :=
  if ((questions ++ rows).map (·.id)).Nodup then .ok (questions ++ rows)
  else .error "UNIQUE constraint failed: task_requirement_questions.id"

/-- A write to the task's own columns, then the line in its activity log. -/
def RequirementTask.write (task : RequirementTask) (patch : TaskFieldsPatch) (now : Nat) :
    RequirementTask :=
  { task with row := appendTaskActivityLog (setTaskFields task.row patch) now }

def waitFor (task : RequirementTask) (input : CreateQuestionBatchInput) (batchId : String)
    (now : Nat) : RequirementTask :=
  { task.write { status := some .needsInput
                 lastHeartbeatAt := some (some now)
                 updatedAt := some now } now with
    needsInputBatchId := some batchId
    needsInputStage := some input.stage
    needsInputReason := some (input.reason.getD "requirements questions required")
    requirementsCycleCount := task.requirementsCycleCount + 1 }

/-- The answer is the id of the new batch, if there is one. -/
def createTaskRequirementQuestionBatch (s : QuestionStore) (input : CreateQuestionBatchInput)
    (now : Nat) (randomUUID : Nat → String) : Except String (QuestionStore × Option String) :=
  match normalizeQuestions input with
  | .error error => .error error
  | .ok normalized =>
    let deduped := dedupQuestions s normalized
    if deduped.isEmpty then .ok (s, none)
    else match insertQuestions s.questions
        (deduped.mapIdx (newQuestionRow s input now randomUUID)) with
      | .error error => .error error
      | .ok questions =>
        let hasBlocking := deduped.any (·.blocking.getD true)
        let task :=
          if hasBlocking then waitFor s.task input (randomUUID 0) now
          else { s.task.write { lastHeartbeatAt := some (some now), updatedAt := some now } now
            with requirementsCycleCount := s.task.requirementsCycleCount + 1 }
        .ok ({ task, questions }, some (randomUUID 0))

/-! ### Answering -/

/-- An empty batch id is no condition. -/
def findRequirementQuestionForAnswer (s : QuestionStore) (questionId : String)
    (batchId : Option String) : Except String RequirementQuestionRow :=
  match s.questions.find? (fun row => row.taskId == s.task.row.id && row.id == questionId &&
    (batchId.filter (!·.isEmpty)).all (row.batchId == ·)) with
  | none => .error "Question not found for task"
  | some question =>
    if question.status ≠ .open then
      .error ("Question cannot be answered from status " ++ question.status.text)
    else .ok question

section Answering

variable (parsers : AnswerParsers) (s : QuestionStore)

/-- The open question of an answer, or why the answer is refused. -/
def acceptAnswer (batchId : Option String) (answer : QuestionAnswer) :
    Except String RequirementQuestionRow :=
  match findRequirementQuestionForAnswer s answer.questionId batchId with
  | .error error => .error error
  | .ok question =>
    match validateRequirementAnswer parsers question.answerType answer.answer
      question.options with
    | .error error => .error error
    | .ok _ => .ok question

/-- The update of `answerRequirementQuestionRow`. -/
def answerQuestionRow (questions : List RequirementQuestionRow) (answer : QuestionAnswer)
    (now : Nat) : List RequirementQuestionRow :=
  questions.map fun row =>
    if row.id = answer.questionId then
      { row with
        status := .answered
        answer := some (trim answer.answer)
        answerAttachments := some answer.attachments
        answeredAt := some now
        updatedAt := now }
    else row

def answerTaskRequirementQuestion (answer : QuestionAnswer) (now : Nat) :
    Except String QuestionStore :=
  match acceptAnswer parsers s none answer with
  | .error error => .error error
  | .ok _ => .ok {
      task := { s.task.write { updatedAt := some now } now with lastHumanAnswerAt := some now }
      questions := answerQuestionRow s.questions answer now }

/-- The number of rows is returned. -/
def resolveOpenRequirementQuestionsForTask (reason : String) (now : Nat) : QuestionStore × Nat :=
  let isOpen := fun row : RequirementQuestionRow =>
    row.taskId == s.task.row.id && row.status == .open
  let resolvedCount := s.questions.countP isOpen
  ({ task :=
      if resolvedCount = 0 then s.task
      else { s.task with row := appendTaskActivityLog s.task.row now }
     questions := s.questions.map fun row =>
      if isOpen row then
        { row with
          status := .resolved
          resolvedAt := some now
          resolutionNote := some (trim reason)
          updatedAt := now }
      else row }, resolvedCount)

/-- The first loop of the batch: every answer has an open question of its own. -/
def findBatchQuestions (batchId : String) :
    List String → List QuestionAnswer → Except String (List RequirementQuestionRow)
  | _, [] => .ok []
  | seen, answer :: answers =>
    if seen.contains answer.questionId then .error "Duplicate question answer in batch"
    else match findRequirementQuestionForAnswer s answer.questionId (some batchId) with
      | .error error => .error error
      | .ok question =>
        match findBatchQuestions batchId (answer.questionId :: seen) answers with
        | .error error => .error error
        | .ok questions => .ok (question :: questions)

/-- The second loop: every answer suits its question. -/
def validateBatchAnswers : List RequirementQuestionRow → List QuestionAnswer → Except String Unit
  | question :: questions, answer :: answers =>
    match validateRequirementAnswer parsers question.answerType answer.answer
      question.options with
    | .error error => .error error
    | .ok _ => validateBatchAnswers questions answers
  | _, _ => .ok ()

/-- The checks before anything is written. -/
def acceptBatch (batchId : String) (answers : List QuestionAnswer) : Except String Unit :=
  if answers.isEmpty then .error "At least one answer is required"
  else match findBatchQuestions s batchId [] answers with
    | .error error => .error error
    | .ok questions => validateBatchAnswers parsers questions answers

def isOpenBlocking (taskId : TaskId) (row : RequirementQuestionRow) : Bool :=
  row.taskId == taskId && row.status == .open && row.blocking

def taskStatusForRequirementResume : RequirementQuestionStage → TaskStatus
  | .requirementsAnalysis => .requirementsAnalysis
  | .research => .research
  | .design => .design
  | .planning => .planning
  | .implementing => .implementing
  | .review => .review
  | .qa => .qa
  | .acceptance => .requirementsAnalysis

/-- The status a batch resumes to: that of its oldest question. -/
def batchResumeStatus (questions : List RequirementQuestionRow) (taskId : TaskId)
    (batchId : String) : TaskStatus :=
  let ofBatch := questions.filter fun row => row.taskId == taskId && row.batchId == batchId
  taskStatusForRequirementResume
    (((ofBatch.insertionSort fun a b => a.createdAt ≤ b.createdAt).head?.map
      (·.targetResumeStage)).getD .requirementsAnalysis)

/-- The condition under which an answered batch resumes the task. -/
def resumesTask (questions : List RequirementQuestionRow) (batchId : String)
    (autoResume : Bool) : Bool :=
  let openBlocking := questions.filter (isOpenBlocking s.task.row.id)
  autoResume && s.task.needsInputBatchId == some batchId &&
    (openBlocking.filter (·.batchId == batchId)).isEmpty && openBlocking.isEmpty &&
    s.task.row.status == .needsInput

def resumePatch (target : TaskStatus) (now : Nat) : TaskFieldsPatch where
  status := some target
  lastHeartbeatAt := some (some now)
  lockedBy := some none
  lockedUntil := some none
  coordinatorId := some none
  lockStage := some none
  updatedAt := some now

/-- The resume status is returned when the task is resumed. `autoResumeDefault` is the
setting `AIF_REQUIREMENTS_AUTO_RESUME_ON_ANSWER`. -/
def answerTaskRequirementQuestionBatch (autoResumeDefault : Bool) (batchId : String)
    (answers : List QuestionAnswer) (autoResume : Option Bool) (now : Nat) :
    Except String (QuestionStore × Option TaskStatus) :=
  match acceptBatch parsers s batchId answers with
  | .error error => .error error
  | .ok _ =>
    let questions := answers.foldl (answerQuestionRow · · now) s.questions
    if resumesTask s questions batchId (autoResume.getD autoResumeDefault) then
      let target := batchResumeStatus questions s.task.row.id batchId
      .ok ({ task := { s.task.write (resumePatch target now) now with
               needsInputBatchId := none
               needsInputStage := none
               needsInputReason := none
               lastHumanAnswerAt := some now
               lastAutoResumeAt := some now }
             questions }, some target)
    else
      .ok ({ task := { s.task.write { updatedAt := some now } now with
               lastHumanAnswerAt := some now }
             questions }, none)

end Answering

end AifHandoff.Data
