import AifHandoff.Lib.Transition
import AifHandoff.Data.RequirementQuestions

/-!
What a task in `needs_input` waits for.

`isOpenBlocking` questions are what it waits for; a call closes questions
(`closedIds`), and one kind of call opens some.
-/

namespace AifHandoff.Data

open Transition

/-- The calls on one task; batches are answered with automatic resumption. -/
inductive QuestionOp where
  | create (input : CreateQuestionBatchInput) (now : Nat) (randomUUID : Nat → String)
  | answer (answer : QuestionAnswer) (now : Nat)
  | answerBatch (batchId : String) (answers : List QuestionAnswer) (now : Nat)
  | resolve (reason : String) (now : Nat)

section Calls

variable (parsers : AnswerParsers)

/-- A call that throws has written nothing. -/
def execQuestion (s : QuestionStore) : QuestionOp → QuestionStore
  | .create input now randomUUID =>
    match createTaskRequirementQuestionBatch s input now randomUUID with
    | .ok (s', _) => s'
    | .error _ => s
  | .answer answer now =>
    match answerTaskRequirementQuestion parsers s answer now with
    | .ok s' => s'
    | .error _ => s
  | .answerBatch batchId answers now =>
    match answerTaskRequirementQuestionBatch parsers s true batchId answers (some true) now with
    | .ok (s', _) => s'
    | .error _ => s
  | .resolve reason now => (resolveOpenRequirementQuestionsForTask s reason now).1

def openBlocking (s : QuestionStore) : List RequirementQuestionRow :=
  s.questions.filter (isOpenBlocking s.task.row.id)

/-- A task in `needs_input` has an open blocking question. -/
def Waits (s : QuestionStore) : Prop :=
  s.task.row.status = .needsInput → openBlocking s ≠ []

/-- The ids of the questions that a call answers or resolves. -/
def closedIds (s : QuestionStore) : QuestionOp → List String
  | .create _ _ _ => []
  | .answer answer _ =>
    match acceptAnswer parsers s none answer with
    | .ok _ => [answer.questionId]
    | .error _ => []
  | .answerBatch batchId answers _ =>
    match acceptBatch parsers s batchId answers with
    | .ok _ => answers.map (·.questionId)
    | .error _ => []
  | .resolve _ _ => (openBlocking s).map (·.id)

/-- The call closes every open blocking question there is. -/
def closesLast (s : QuestionStore) (op : QuestionOp) : Bool :=
  (openBlocking s).all fun row => (closedIds parsers s op).contains row.id

/-- The call answers the batch that the task waits for. -/
def answersRecordedBatch (s : QuestionStore) : QuestionOp → Bool
  | .answerBatch batchId _ _ => s.task.needsInputBatchId == some batchId
  | _ => false

/-- Whatever closes the last question of a task in `needs_input` answers its batch. -/
def resumeOk (s : QuestionStore) (op : QuestionOp) : Bool :=
  s.task.row.status != .needsInput || !closesLast parsers s op || answersRecordedBatch s op

end Calls

/-! ### What the calls write -/

section Writes

variable {parsers : AnswerParsers} {s s' : QuestionStore} {now : Nat}

@[simp] theorem write_status (task : RequirementTask) (patch : TaskFieldsPatch) :
    (task.write patch now).row.status = patch.status.getD task.row.status := by
  simp [RequirementTask.write, appendTaskActivityLog]

theorem taskStatusForRequirementResume_ne (stage : RequirementQuestionStage) :
    taskStatusForRequirementResume stage ≠ .needsInput := by
  cases stage <;> simp [taskStatusForRequirementResume]

theorem isOpenBlocking_answered {taskId : TaskId} {row : RequirementQuestionRow}
    (answered : row.status = .answered) : isOpenBlocking taskId row = false := by
  simp [isOpenBlocking, answered]

theorem filter_answerQuestionRow (taskId : TaskId) (answer : QuestionAnswer)
    (questions : List RequirementQuestionRow) :
    (answerQuestionRow questions answer now).filter (isOpenBlocking taskId) =
      (questions.filter (isOpenBlocking taskId)).filter (!([answer.questionId]).contains ·.id) := by
  induction questions with
  | nil => rfl
  | cons row questions ih =>
    simp only [answerQuestionRow, List.map_cons, List.filter_cons] at ih ⊢
    rw [ih]
    by_cases same : row.id = answer.questionId
    · rw [if_pos same, isOpenBlocking_answered rfl]
      cases isOpenBlocking taskId row <;> simp [same]
    · rw [if_neg same]
      cases isOpenBlocking taskId row <;> simp [same]

theorem filter_answerQuestionRows (now : Nat) (taskId : TaskId) (answers : List QuestionAnswer)
    (questions : List RequirementQuestionRow) :
    (answers.foldl (answerQuestionRow · · now) questions).filter (isOpenBlocking taskId) =
      (questions.filter (isOpenBlocking taskId)).filter
        (!(answers.map (·.questionId)).contains ·.id) := by
  induction answers generalizing questions with
  | nil => simp
  | cons answer answers ih =>
    rw [List.foldl_cons, ih, filter_answerQuestionRow, List.filter_filter]
    apply List.filter_congr
    intro row _
    simp [Bool.and_comm]

theorem filter_resolved (taskId : TaskId) (resolve : RequirementQuestionRow → RequirementQuestionRow)
    (resolved : ∀ row, (resolve row).status = .resolved) (questions : List RequirementQuestionRow) :
    (questions.map fun row =>
      if (row.taskId == taskId && row.status == .open) = true then resolve row
      else row).filter (isOpenBlocking taskId) = [] := by
  rw [List.filter_eq_nil_iff]
  intro row inside
  obtain ⟨old, _, rfl⟩ := List.mem_map.mp inside
  split
  next => simp [isOpenBlocking, resolved]
  next other =>
    rw [Bool.not_eq_true] at other
    simp [isOpenBlocking, other]

end Writes

/-! ### One call -/

section Step

variable {parsers : AnswerParsers} {s : QuestionStore} {op : QuestionOp}

/-- A creation that does something adds questions. A blocking one is waited for. -/
theorem create_cases {input : CreateQuestionBatchInput} {now : Nat} {randomUUID : Nat → String}
    {s' : QuestionStore} {batchId : Option String}
    (created : createTaskRequirementQuestionBatch s input now randomUUID = .ok (s', batchId)) :
    s' = s ∨ ∃ rows, s'.questions = s.questions ++ rows ∧ s'.task.row.id = s.task.row.id ∧
      (s'.task.row.status = s.task.row.status ∨
        ∃ row ∈ rows, isOpenBlocking s.task.row.id row = true) := by
  unfold createTaskRequirementQuestionBatch at created
  split at created
  · cases created
  next normalized _ =>
    dsimp only at created
    split at created
    · cases created
      exact .inl rfl
    unfold insertQuestions at created
    split at created
    · cases created
    next questions inserted =>
      split at inserted
      case isFalse => cases inserted
      cases inserted
      cases created
      right
      cases blocking : (dedupQuestions s normalized).any (·.blocking.getD true) with
      | false =>
        refine ⟨_, rfl, rfl, .inl ?_⟩
        simp
      | true =>
        refine ⟨_, rfl, rfl, .inr ?_⟩
        obtain ⟨question, inside, isBlocking⟩ := List.any_eq_true.mp blocking
        obtain ⟨index, bound, same⟩ := List.getElem_of_mem inside
        refine ⟨_, List.mem_mapIdx.mpr ⟨index, bound, rfl⟩, ?_⟩
        rw [same]
        simpa [isOpenBlocking, newQuestionRow] using isBlocking

theorem filter_open_ne_nil (questions : List RequirementQuestionRow) (ids : List String) :
    questions.filter (!ids.contains ·.id) ≠ [] ↔
      (questions.all fun row => ids.contains row.id) = false := by
  rw [Ne, List.filter_eq_nil_iff, ← Bool.not_eq_true, List.all_eq_true]
  refine not_congr (forall₂_congr fun row _ => ?_)
  simp

theorem waits_iff_of_closes {s' : QuestionStore}
    (status : s'.task.row.status = s.task.row.status)
    (left : openBlocking s' =
      (openBlocking s).filter (!(closedIds parsers s op).contains ·.id))
    (other : answersRecordedBatch s op = false) : Waits s' ↔ resumeOk parsers s op = true := by
  unfold Waits resumeOk
  rw [left, filter_open_ne_nil, status, other, ← closesLast, Bool.or_false]
  by_cases asks : s.task.row.status = .needsInput <;> simp [asks]

theorem waits_create (waits : Waits s) (input : CreateQuestionBatchInput) (now : Nat)
    (randomUUID : Nat → String) :
    Waits (execQuestion parsers s (.create input now randomUUID)) := by
  simp only [execQuestion]
  split
  next s' batchId created =>
    rcases create_cases created with rfl | ⟨rows, questions, id, status⟩
    · exact waits
    · intro asks
      unfold openBlocking
      rw [questions, id, List.filter_append]
      rcases status with same | ⟨row, inside, blocking⟩
      · exact List.append_ne_nil_of_left_ne_nil (waits (same ▸ asks)) _
      · exact List.append_ne_nil_of_right_ne_nil _
          (List.ne_nil_of_mem (List.mem_filter.mpr ⟨inside, blocking⟩))
  next => exact waits

section Answers

variable {batchId : String} {answers : List QuestionAnswer} (now : Nat)

/-- What an accepted answer to a batch leaves. It resumes the task when the batch is the
recorded one and no blocking question is left. -/
theorem answerBatch_cases (accepted : acceptBatch parsers s batchId answers = .ok ()) :
    openBlocking (execQuestion parsers s (.answerBatch batchId answers now)) =
        (openBlocking s).filter (!(answers.map (·.questionId)).contains ·.id) ∧
      (s.task.needsInputBatchId = some batchId ∧
          (execQuestion parsers s (.answerBatch batchId answers now)).task.row.status ≠
            .needsInput ∨
        (execQuestion parsers s (.answerBatch batchId answers now)).task.row.status =
            s.task.row.status ∧
          (s.task.row.status = .needsInput → s.task.needsInputBatchId = some batchId →
            (openBlocking s).filter (!(answers.map (·.questionId)).contains ·.id) ≠ [])) := by
  have left := filter_answerQuestionRows now s.task.row.id answers s.questions
  simp only [execQuestion, answerTaskRequirementQuestionBatch, accepted, Option.getD_some]
  cases resumes : resumesTask s (answers.foldl (answerQuestionRow · · now) s.questions) batchId
    true with
  | true =>
    rw [if_pos rfl]
    refine ⟨left, .inl ⟨?_, ?_⟩⟩
    · simp only [resumesTask, Bool.and_eq_true, beq_iff_eq] at resumes
      exact resumes.1.1.1.2
    · rw [write_status]
      exact taskStatusForRequirementResume_ne _
  | false =>
    rw [if_neg Bool.false_ne_true]
    refine ⟨left, .inr ⟨by simp, fun asks recorded none_ => ?_⟩⟩
    rw [openBlocking, ← left] at none_
    simp [resumesTask, asks, recorded, none_] at resumes

end Answers

/-- A call leaves the task with a question to wait for exactly when it does not close
the last one without answering the recorded batch. -/
theorem waits_exec_iff (waits : Waits s) :
    Waits (execQuestion parsers s op) ↔ resumeOk parsers s op = true := by
  have refused (nothing : closedIds parsers s op = []) : resumeOk parsers s op = true := by
    unfold resumeOk closesLast
    rw [nothing]
    by_cases asks : s.task.row.status = .needsInput
    · obtain ⟨row, rest, some_⟩ := List.exists_cons_of_ne_nil (waits asks)
      simp [some_]
    · simp [asks]
  cases op with
  | create input now randomUUID =>
    exact ⟨fun _ => refused rfl, fun _ => waits_create waits input now randomUUID⟩
  | answer answer now =>
    cases accepted : acceptAnswer parsers s none answer with
    | error error =>
      have nothing : closedIds parsers s (.answer answer now) = [] := by
        simp [closedIds, accepted]
      simp only [execQuestion, answerTaskRequirementQuestion, accepted]
      exact ⟨fun _ => refused nothing, fun _ => waits⟩
    | ok row =>
      simp only [execQuestion, answerTaskRequirementQuestion, accepted]
      refine waits_iff_of_closes (by simp) ?_ rfl
      simp only [closedIds, accepted]
      exact filter_answerQuestionRow _ _ _
  | answerBatch batchId answers now =>
    cases accepted : acceptBatch parsers s batchId answers with
    | error error =>
      have nothing : closedIds parsers s (.answerBatch batchId answers now) = [] := by
        simp [closedIds, accepted]
      simp only [execQuestion, answerTaskRequirementQuestionBatch, accepted]
      exact ⟨fun _ => refused nothing, fun _ => waits⟩
    | ok _ =>
      obtain ⟨left, status⟩ := answerBatch_cases now accepted
      have closes : closesLast parsers s (.answerBatch batchId answers now) =
          (openBlocking s).all fun row => (answers.map (·.questionId)).contains row.id := by
        simp [closesLast, closedIds, accepted]
      unfold Waits resumeOk
      rw [left, filter_open_ne_nil, closes]
      by_cases asks : s.task.row.status = .needsInput
      · by_cases recorded : s.task.needsInputBatchId = some batchId
        · simp only [asks, answersRecordedBatch, recorded, beq_self_eq_true, Bool.or_true,
            iff_true]
          rcases status with ⟨_, moved⟩ | ⟨_, waits'⟩
          · exact fun asks' => absurd asks' moved
          · exact fun _ => (filter_open_ne_nil _ _).mp (waits' asks recorded)
        · rcases status with ⟨recorded', _⟩ | ⟨same, _⟩
          · exact absurd recorded' recorded
          · simp [same, asks, answersRecordedBatch, recorded]
      · have stays : (execQuestion parsers s (.answerBatch batchId answers now)).task.row.status ≠
            .needsInput := by
          rcases status with ⟨_, moved⟩ | ⟨same, _⟩
          · exact moved
          · rwa [same]
        simp [stays, asks]
  | resolve reason now =>
    refine waits_iff_of_closes ?_ ?_ rfl
    · simp only [execQuestion, resolveOpenRequirementQuestionsForTask]
      split <;> simp [appendTaskActivityLog]
    · have all : (openBlocking s).filter
          (!(closedIds parsers s (.resolve reason now)).contains ·.id) = [] := by
        rw [List.filter_eq_nil_iff]
        intro row inside
        have closed : row.id ∈ (openBlocking s).map (·.id) := List.mem_map_of_mem inside
        simpa [closedIds] using closed
      rw [all]
      have id : (execQuestion parsers s (.resolve reason now)).task.row.id = s.task.row.id := by
        simp only [execQuestion, resolveOpenRequirementQuestionsForTask]
        split <;> rfl
      unfold openBlocking
      rw [id]
      exact filter_resolved _ _ (fun _ => rfl) _

end Step

/-! ### Runs -/

/-- A run never strands the task exactly when no call of it closes the last question of
the waiting task without answering the recorded batch. -/
theorem waits_along_iff (parsers : AnswerParsers) {s : QuestionStore} (waits : Waits s)
    (ops : List QuestionOp) :
    Along (fun s op => Waits (execQuestion parsers s op)) (execQuestion parsers) s ops ↔
      Along (fun s op => resumeOk parsers s op = true) (execQuestion parsers) s ops := by
  induction ops generalizing s with
  | nil => exact Iff.rfl
  | cons op ops ih =>
    constructor
    · rintro ⟨kept, rest⟩
      exact ⟨(waits_exec_iff waits).mp kept, (ih kept).mp rest⟩
    · rintro ⟨ok, rest⟩
      have kept := (waits_exec_iff waits).mpr ok
      exact ⟨kept, (ih kept).mpr rest⟩

/-- Every number, date and URL is accepted. -/
def anyAnswer : AnswerParsers := ⟨fun _ => true, fun _ => true, fun _ => true⟩

/-- A task without questions. -/
def unasked : QuestionStore where
  task := { row := { id := "task", projectId := "project", status := .requirementsAnalysis } }

/-- One question, drawn with the batch `"batch"`. -/
def askOnce : QuestionOp :=
  .create
    { stage := .requirementsAnalysis
      questions := [{ question := "Which rows?", whyNeeded := "Scope" }] }
    1 fun index => if index = 0 then "batch" else "question"

/-- The answered batch moves the task on. -/
theorem waits_along_answeredBatch :
    Along (fun s op => Waits (execQuestion anyAnswer s op)) (execQuestion anyAnswer) unasked
      [askOnce, .answerBatch "batch" [⟨"question", "All", []⟩] 2] :=
  (waits_along_iff anyAnswer (fun asks => by cases asks) _).mpr (by decide)

/-- The only question, answered on its own, leaves the task waiting for nothing. -/
theorem single_answer_strands :
    ¬ ∀ (s : QuestionStore) (ops : List QuestionOp), Waits s →
      Along (fun s op => Waits (execQuestion anyAnswer s op)) (execQuestion anyAnswer) s ops := by
  intro all
  have kept := all unasked [askOnce, .answer ⟨"question", "All", []⟩ 2] fun asks => by cases asks
  exact absurd (kept.2.1 (by decide)) (by decide)

end AifHandoff.Data
