import AifHandoff.Data.RequirementWait

/-!
The idempotency keys of a task's questions.

A new batch leaves out the questions whose key the store already has in use. Its own
questions are not compared with each other.
-/

namespace AifHandoff.Data

open Text Transition

/-- A question that counts as asked. -/
def RequirementQuestionStatus.isActive (status : RequirementQuestionStatus) : Bool :=
  status == .open || status == .answered || status == .resolved

/-- The key that a question occupies, trimmed. -/
def activeKey (taskId : TaskId) (row : RequirementQuestionRow) : Option String :=
  if row.taskId == taskId && RequirementQuestionStatus.isActive row.status then
    (row.idempotencyKey.map trim).filter (!·.isEmpty)
  else none

def activeKeys (s : QuestionStore) : List String := s.questions.filterMap (activeKey s.task.row.id)

/-- No two questions of the task that are open, answered or resolved have the same
trimmed key. -/
def AskedOnce (s : QuestionStore) : Prop := (activeKeys s).Nodup

instance (s : QuestionStore) : Decidable (AskedOnce s) :=
  inferInstanceAs (Decidable (activeKeys s).Nodup)

/-- The question table as the calls write it: ids are unique, keys are stored trimmed. -/
structure QuestionTable (s : QuestionStore) : Prop where
  ids : (s.questions.map (·.id)).Nodup
  trimmed : ∀ row ∈ s.questions, ∀ key ∈ row.idempotencyKey, trim key = key

/-- The key of a question given to a batch. -/
def inputKey (question : RequirementQuestionInput) : Option String :=
  (question.idempotencyKey.map trim).filter (!·.isEmpty)

/-- The keys of a batch that are not in use. -/
def freshKeys (s : QuestionStore) (input : CreateQuestionBatchInput) : List String :=
  (input.questions.filterMap inputKey).filter (!hasActiveRequirementQuestionKey s ·)

/-- The rows of a batch whose questions pass their checks. -/
def batchRows (s : QuestionStore) (input : CreateQuestionBatchInput) (now : Nat)
    (randomUUID : Nat → String) (normalized : List RequirementQuestionInput) :
    List RequirementQuestionRow :=
  (dedupQuestions s normalized).mapIdx (newQuestionRow s input now randomUUID)

/-- The questions pass their checks, and the drawn ids are new. -/
def acceptsBatch (s : QuestionStore) (input : CreateQuestionBatchInput)
    (randomUUID : Nat → String) : Bool :=
  match normalizeQuestions input with
  | .error _ => false
  | .ok normalized =>
    decide (s.questions.map (·.id) ++
      (dedupQuestions s normalized).mapIdx fun index _ => randomUUID (index + 1)).Nodup

/-- An accepted batch brings no key twice. -/
def bringsKeysOnce (s : QuestionStore) : QuestionOp → Bool
  | .create input _ randomUUID => !acceptsBatch s input randomUUID || decide (freshKeys s input).Nodup
  | _ => true

/-! ### Keys -/

section Keys

variable {s : QuestionStore}

theorem trim_of_mem_key {raw : Option String} {key : String}
    (found : (raw.map trim).filter (!·.isEmpty) = some key) :
    trim key = key ∧ key.isEmpty = false := by
  obtain ⟨there, some_⟩ := Option.filter_eq_some_iff.mp found
  obtain ⟨text, -, rfl⟩ := Option.map_eq_some_iff.mp there
  exact ⟨trim_trim text, by simpa using some_⟩

theorem activeKey_eq_some_iff {taskId : TaskId} {row : RequirementQuestionRow}
    (trimmed : ∀ key ∈ row.idempotencyKey, trim key = key) {key : String}
    (some_ : key.isEmpty = false) :
    activeKey taskId row = some key ↔
      row.taskId = taskId ∧ row.idempotencyKey = some key ∧
        RequirementQuestionStatus.isActive row.status = true := by
  have stored : row.idempotencyKey.map trim = row.idempotencyKey := by
    cases raw : row.idempotencyKey with
    | none => rfl
    | some text => exact congrArg some (trimmed text raw)
  unfold activeKey
  rw [stored]
  split
  next counts =>
    obtain ⟨here, active⟩ := (Bool.and_eq_true _ _).mp counts
    simp only [Option.filter_eq_some_iff, some_, Bool.not_false, and_true]
    exact ⟨fun same => ⟨eq_of_beq here, same, active⟩, fun same => same.2.1⟩
  next other =>
    refine ⟨fun found => (by cases found), fun ⟨here, _, active⟩ => absurd ?_ other⟩
    rw [here, active, beq_self_eq_true, Bool.and_self]

theorem mem_activeKeys_iff (table : QuestionTable s) {key : String} (trimmed : trim key = key)
    (some_ : key.isEmpty = false) :
    key ∈ activeKeys s ↔ hasActiveRequirementQuestionKey s key = true := by
  unfold activeKeys hasActiveRequirementQuestionKey
  rw [List.mem_filterMap]
  simp only [trimmed, some_, Bool.not_false, Bool.true_and, List.any_eq_true, Bool.and_eq_true,
    beq_iff_eq]
  refine exists_congr fun row => and_congr_right fun inside => ?_
  rw [activeKey_eq_some_iff (table.trimmed row inside) some_, and_assoc]
  simp [RequirementQuestionStatus.isActive, or_assoc]

end Keys

/-! ### One batch -/

section Batch

variable {s : QuestionStore} {input : CreateQuestionBatchInput} {now : Nat}
  {randomUUID : Nat → String} {normalized : List RequirementQuestionInput}

theorem assert_key {question checked : RequirementQuestionInput}
    (passed : assertRequirementQuestionInput question = .ok checked) :
    checked.idempotencyKey = inputKey question := by
  unfold assertRequirementQuestionInput at passed
  dsimp only at passed
  split at passed
  · cases passed
  split at passed
  · cases passed
  split at passed
  · cases passed
  split at passed
  · cases passed
  · cases passed
    rfl

theorem normalizeQuestions_keys (passed : normalizeQuestions input = .ok normalized) :
    normalized.map (·.idempotencyKey) = input.questions.map inputKey := by
  unfold normalizeQuestions at passed
  generalize input.questions = questions at passed
  induction questions generalizing normalized with
  | nil =>
    cases passed
    rfl
  | cons question questions ih =>
    rw [List.mapM_cons] at passed
    cases first : assertRequirementQuestionInput (completeQuestion input question) with
    | error error => rw [first] at passed; cases passed
    | ok checked =>
      rw [first] at passed
      cases others : questions.mapM fun question =>
          assertRequirementQuestionInput (completeQuestion input question) with
      | error error => rw [others] at passed; cases passed
      | ok rest =>
        rw [others] at passed
        cases passed
        rw [List.map_cons, List.map_cons, ih others, assert_key first]
        rfl

theorem normalized_key (passed : normalizeQuestions input = .ok normalized)
    {question : RequirementQuestionInput} (inside : question ∈ normalized) {key : String}
    (has : question.idempotencyKey = some key) : trim key = key ∧ key.isEmpty = false := by
  have among : some key ∈ input.questions.map inputKey := by
    rw [← normalizeQuestions_keys passed, ← has]
    exact List.mem_map_of_mem inside
  obtain ⟨given, -, same⟩ := List.mem_map.mp among
  exact trim_of_mem_key same

/-- The keys that the rows of a batch occupy. -/
theorem activeKeys_batchRows (passed : normalizeQuestions input = .ok normalized) :
    (batchRows s input now randomUUID normalized).filterMap (activeKey s.task.row.id) =
      freshKeys s input := by
  have row (index : Nat) (question : RequirementQuestionInput) (inside : question ∈ normalized) :
      activeKey s.task.row.id (newQuestionRow s input now randomUUID index question) =
        question.idempotencyKey := by
    cases has : question.idempotencyKey with
    | none => simp [activeKey, newQuestionRow, has]
    | some key =>
      obtain ⟨trimmed, some_⟩ := normalized_key passed inside has
      simp [activeKey, newQuestionRow, RequirementQuestionStatus.isActive, has, trimmed, some_]
  have rows : (batchRows s input now randomUUID normalized).map (activeKey s.task.row.id) =
      (dedupQuestions s normalized).map (·.idempotencyKey) := by
    refine List.ext_getElem (by simp [batchRows]) fun index bound bound' => ?_
    rw [List.length_map] at bound'
    simp only [batchRows, List.getElem_mapIdx, List.getElem_map]
    exact row index _ (List.mem_of_mem_filter (List.getElem_mem bound'))
  have rows' := congrArg (List.filterMap id) rows
  have given := congrArg (List.filterMap id) (normalizeQuestions_keys passed)
  simp only [List.filterMap_map, Function.id_comp] at rows' given
  rw [rows', freshKeys, ← given, dedupQuestions, List.filter_filterMap, List.filterMap_filter]
  refine List.filterMap_congr fun question inside => ?_
  cases has : question.idempotencyKey with
  | none => simp
  | some key =>
    obtain ⟨-, some_⟩ := normalized_key passed inside has
    simp [some_, Option.filter]

theorem map_id_batch (s : QuestionStore) (input : CreateQuestionBatchInput) (now : Nat)
    (randomUUID : Nat → String) (normalized : List RequirementQuestionInput) :
    (s.questions ++ batchRows s input now randomUUID normalized).map (·.id) =
      s.questions.map (·.id) ++
        (dedupQuestions s normalized).mapIdx fun index _ => randomUUID (index + 1) := by
  rw [List.map_append]
  congr 1
  refine List.ext_getElem (by simp [batchRows]) fun index _ _ => ?_
  simp only [batchRows, List.getElem_mapIdx, List.getElem_map]
  rfl

/-- A creation adds the rows of an accepted batch. -/
theorem questions_create (parsers : AnswerParsers) (s : QuestionStore)
    (input : CreateQuestionBatchInput) (now : Nat) (randomUUID : Nat → String) :
    (execQuestion parsers s (.create input now randomUUID)).task.row.id = s.task.row.id ∧
    ((acceptsBatch s input randomUUID = true ∧ ∃ normalized,
        normalizeQuestions input = .ok normalized ∧
        (execQuestion parsers s (.create input now randomUUID)).questions =
          s.questions ++ batchRows s input now randomUUID normalized) ∨
      acceptsBatch s input randomUUID = false ∧
        (execQuestion parsers s (.create input now randomUUID)).questions = s.questions) := by
  cases passed : normalizeQuestions input with
  | error error =>
    simp [execQuestion, createTaskRequirementQuestionBatch, acceptsBatch, passed]
  | ok normalized =>
    rw [acceptsBatch, passed]
    dsimp only
    rw [← map_id_batch s input now randomUUID normalized]
    simp only [execQuestion, createTaskRequirementQuestionBatch, passed]
    by_cases empty : (dedupQuestions s normalized).isEmpty = true
    · have none_ : dedupQuestions s normalized = [] := List.isEmpty_iff.mp empty
      rw [if_pos empty]
      refine ⟨rfl, ?_⟩
      by_cases distinct :
          ((s.questions ++ batchRows s input now randomUUID normalized).map (·.id)).Nodup
      · exact .inl ⟨decide_eq_true distinct, normalized, rfl, by simp [batchRows, none_]⟩
      · exact .inr ⟨decide_eq_false distinct, rfl⟩
    · rw [if_neg empty]
      unfold insertQuestions
      by_cases distinct :
          ((s.questions ++ batchRows s input now randomUUID normalized).map (·.id)).Nodup
      · rw [← batchRows, if_pos distinct]
        refine ⟨?_, .inl ⟨decide_eq_true distinct, normalized, rfl, rfl⟩⟩
        dsimp only
        split <;> rfl
      · rw [← batchRows, if_neg distinct]
        exact ⟨rfl, .inr ⟨decide_eq_false distinct, rfl⟩⟩

end Batch

/-! ### The other calls -/

/-- What the keys in use are read from. -/
def keyView (row : RequirementQuestionRow) : String × TaskId × Option String × Bool :=
  (row.id, row.taskId, row.idempotencyKey, RequirementQuestionStatus.isActive row.status)

section Answers

variable {parsers : AnswerParsers} {s s' : QuestionStore}

theorem activeKeys_of_view (task : s'.task.row.id = s.task.row.id)
    (same : s'.questions.map keyView = s.questions.map keyView) : activeKeys s' = activeKeys s := by
  have reads (rows : List RequirementQuestionRow) (taskId : TaskId) :
      rows.filterMap (activeKey taskId) = (rows.map keyView).filterMap fun view =>
        if view.2.1 == taskId && view.2.2.2 then (view.2.2.1.map trim).filter (!·.isEmpty)
        else none := by
    rw [List.filterMap_map]
    rfl
  rw [activeKeys, activeKeys, task, reads, reads, same]

theorem QuestionTable.of_view (table : QuestionTable s)
    (same : s'.questions.map keyView = s.questions.map keyView) : QuestionTable s' where
  ids := by
    have ids := congrArg (List.map Prod.fst) same
    rw [List.map_map, List.map_map] at ids
    exact (show s'.questions.map (·.id) = s.questions.map (·.id) from ids) ▸ table.ids
  trimmed row inside key has := by
    have among : keyView row ∈ s.questions.map keyView := same ▸ List.mem_map_of_mem inside
    obtain ⟨row', inside', sameView⟩ := List.mem_map.mp among
    have sameKey : row'.idempotencyKey = row.idempotencyKey := congrArg (·.2.2.1) sameView
    exact table.trimmed row' inside' key (sameKey ▸ has)

theorem map_keyView_answerQuestionRow {questions : List RequirementQuestionRow}
    {answer : QuestionAnswer} (now : Nat)
    (asked : ∀ view ∈ questions.map keyView, view.1 = answer.questionId → view.2.2.2 = true) :
    (answerQuestionRow questions answer now).map keyView = questions.map keyView := by
  rw [answerQuestionRow, List.map_map]
  refine List.map_congr_left fun row inside => ?_
  rw [Function.comp_apply]
  split
  next same =>
    have active := asked (keyView row) (List.mem_map_of_mem inside) same
    simp only [keyView] at active ⊢
    rw [active]
    rfl
  next => rfl

theorem map_keyView_answerQuestionRows {questions : List RequirementQuestionRow}
    {answers : List QuestionAnswer} (now : Nat)
    (asked : ∀ answer ∈ answers, ∀ view ∈ questions.map keyView,
      view.1 = answer.questionId → view.2.2.2 = true) :
    (answers.foldl (answerQuestionRow · · now) questions).map keyView = questions.map keyView := by
  induction answers generalizing questions with
  | nil => rfl
  | cons answer answers ih =>
    have first := map_keyView_answerQuestionRow now (asked answer List.mem_cons_self)
    rw [List.foldl_cons, ih, first]
    rw [first]
    exact fun answer inside => asked answer (List.mem_cons_of_mem _ inside)

theorem asked_of_find (table : QuestionTable s) {questionId : String} {batchId : Option String}
    {question : RequirementQuestionRow}
    (found : findRequirementQuestionForAnswer s questionId batchId = .ok question) :
    ∀ view ∈ s.questions.map keyView, view.1 = questionId → view.2.2.2 = true := by
  unfold findRequirementQuestionForAnswer at found
  split at found
  · cases found
  next row here =>
    split at found
    · cases found
    next isOpen =>
      cases found
      have matched := List.find?_some here
      simp only [Bool.and_eq_true, beq_iff_eq] at matched
      have distinct := List.inj_on_of_nodup_map table.ids
      intro view among same
      obtain ⟨other, inside, rfl⟩ := List.mem_map.mp among
      have one : other = question :=
        distinct inside (List.mem_of_find?_eq_some here) (same.trans matched.1.2.symm)
      rw [one]
      simp only [keyView, RequirementQuestionStatus.isActive, not_not.mp isOpen, beq_self_eq_true,
        Bool.true_or]

theorem asked_of_findBatch (table : QuestionTable s) {batchId : String} {seen : List String}
    {answers : List QuestionAnswer} {questions : List RequirementQuestionRow}
    (found : findBatchQuestions s batchId seen answers = .ok questions) :
    ∀ answer ∈ answers, ∀ view ∈ s.questions.map keyView,
      view.1 = answer.questionId → view.2.2.2 = true := by
  induction answers generalizing seen questions with
  | nil => exact fun answer inside => absurd inside List.not_mem_nil
  | cons answer answers ih =>
    rw [findBatchQuestions] at found
    split at found
    · cases found
    split at found
    · cases found
    next question here =>
      split at found
      · cases found
      next rest others =>
        intro other inside
        rcases List.mem_cons.mp inside with rfl | inRest
        · exact asked_of_find table here
        · exact ih others other inRest

/-- Calls that create nothing leave the keys in use as they are. -/
theorem view_exec (table : QuestionTable s) (op : QuestionOp)
    (other : ∀ input now randomUUID, op ≠ .create input now randomUUID) :
    (execQuestion parsers s op).task.row.id = s.task.row.id ∧
      (execQuestion parsers s op).questions.map keyView = s.questions.map keyView := by
  cases op with
  | create input now randomUUID => exact absurd rfl (other input now randomUUID)
  | answer answer now =>
    simp only [execQuestion, answerTaskRequirementQuestion]
    cases accepted : acceptAnswer parsers s none answer with
    | error error => exact ⟨rfl, rfl⟩
    | ok row =>
      refine ⟨rfl, map_keyView_answerQuestionRow now ?_⟩
      unfold acceptAnswer at accepted
      split at accepted
      · cases accepted
      next question found => exact asked_of_find table found
  | answerBatch batchId answers now =>
    simp only [execQuestion, answerTaskRequirementQuestionBatch]
    cases accepted : acceptBatch parsers s batchId answers with
    | error error => exact ⟨rfl, rfl⟩
    | ok _ =>
      have asked : ∀ answer ∈ answers, ∀ view ∈ s.questions.map keyView,
          view.1 = answer.questionId → view.2.2.2 = true := by
        unfold acceptBatch at accepted
        split at accepted
        · cases accepted
        split at accepted
        · cases accepted
        next questions found => exact asked_of_findBatch table found
      have same := map_keyView_answerQuestionRows now asked
      cases resumes : resumesTask s (answers.foldl (answerQuestionRow · · now) s.questions)
          batchId true with
      | true =>
        simp only [Option.getD_some, resumes, if_true]
        exact ⟨rfl, same⟩
      | false =>
        simp only [Option.getD_some, resumes, Bool.false_eq_true, if_false]
        exact ⟨rfl, same⟩
  | resolve reason now =>
    simp only [execQuestion, resolveOpenRequirementQuestionsForTask]
    refine ⟨by split <;> rfl, ?_⟩
    rw [List.map_map]
    refine List.map_congr_left fun row _ => ?_
    rw [Function.comp_apply]
    split
    next isOpen =>
      simp only [Bool.and_eq_true, beq_iff_eq] at isOpen
      simp [keyView, RequirementQuestionStatus.isActive, isOpen.2]
    next => rfl

end Answers

/-! ### Runs -/

section Runs

variable {parsers : AnswerParsers} {s : QuestionStore}

/-- What a call adds to the keys in use. -/
def addedKeys (s : QuestionStore) : QuestionOp → List String
  | .create input _ randomUUID => if acceptsBatch s input randomUUID then freshKeys s input else []
  | _ => []

theorem activeKeys_exec (table : QuestionTable s) (op : QuestionOp) :
    activeKeys (execQuestion parsers s op) = activeKeys s ++ addedKeys s op := by
  cases op with
  | create input now randomUUID =>
    obtain ⟨task, ⟨accepted, normalized, passed, questions⟩ | ⟨refused, questions⟩⟩ :=
      questions_create parsers s input now randomUUID
    · rw [activeKeys, task, questions, List.filterMap_append, activeKeys_batchRows passed,
        addedKeys, if_pos accepted, activeKeys]
    · rw [activeKeys, task, questions, addedKeys, if_neg (by simp [refused]), List.append_nil,
        activeKeys]
  | answer answer now =>
    obtain ⟨task, view⟩ := @view_exec parsers s table (.answer answer now) (by simp)
    exact (activeKeys_of_view task view).trans (List.append_nil _).symm
  | answerBatch batchId answers now =>
    obtain ⟨task, view⟩ :=
      @view_exec parsers s table (.answerBatch batchId answers now) (by simp)
    exact (activeKeys_of_view task view).trans (List.append_nil _).symm
  | resolve reason now =>
    obtain ⟨task, view⟩ := @view_exec parsers s table (.resolve reason now) (by simp)
    exact (activeKeys_of_view task view).trans (List.append_nil _).symm

theorem QuestionTable.exec (table : QuestionTable s) (op : QuestionOp) :
    QuestionTable (execQuestion parsers s op) := by
  cases op with
  | create input now randomUUID =>
    obtain ⟨-, ⟨accepted, normalized, passed, questions⟩ | ⟨-, questions⟩⟩ :=
      questions_create parsers s input now randomUUID
    · refine ⟨?_, fun row inside key has => ?_⟩
      · rw [questions]
        rw [acceptsBatch, passed] at accepted
        exact map_id_batch s input now randomUUID normalized ▸ of_decide_eq_true accepted
      · rw [questions] at inside
        rcases List.mem_append.mp inside with old | new
        · exact table.trimmed row old key has
        · obtain ⟨index, bound, rfl⟩ := List.mem_mapIdx.mp new
          have among := List.mem_of_mem_filter (List.getElem_mem bound)
          exact (normalized_key passed among has).1
    · exact table.of_view (by rw [questions])
  | answer answer now => exact table.of_view (view_exec table _ (by simp)).2
  | answerBatch batchId answers now => exact table.of_view (view_exec table _ (by simp)).2
  | resolve reason now => exact table.of_view (view_exec table _ (by simp)).2

/-- A call keeps every key in use once exactly if an accepted batch brings no key twice. -/
theorem askedOnce_exec_iff (table : QuestionTable s) (once : AskedOnce s) (op : QuestionOp) :
    AskedOnce (execQuestion parsers s op) ↔ bringsKeysOnce s op = true := by
  have kept : (activeKeys s).Nodup := once
  rw [AskedOnce, activeKeys_exec table, List.nodup_append]
  cases op with
  | create input now randomUUID =>
    rw [bringsKeysOnce, addedKeys]
    cases accepted : acceptsBatch s input randomUUID with
    | false => simpa using kept
    | true =>
      simp only [if_true, Bool.not_true, Bool.false_or, decide_eq_true_eq]
      refine ⟨fun ⟨_, brought, _⟩ => brought, fun brought => ⟨kept, brought, ?_⟩⟩
      rintro key inUse key' fresh rfl
      obtain ⟨given, unused⟩ := List.mem_filter.mp fresh
      obtain ⟨question, -, has⟩ := List.mem_filterMap.mp given
      obtain ⟨trimmed, some_⟩ := trim_of_mem_key has
      rw [(mem_activeKeys_iff table trimmed some_).mp inUse] at unused
      cases unused
  | answer answer now => simpa [addedKeys, bringsKeysOnce] using kept
  | answerBatch batchId answers now => simpa [addedKeys, bringsKeysOnce] using kept
  | resolve reason now => simpa [addedKeys, bringsKeysOnce] using kept

/-- Along a run every key is in use once exactly if no accepted batch brings a key
twice. -/
theorem askedOnce_along_iff (parsers : AnswerParsers) {s : QuestionStore} (table : QuestionTable s)
    (once : AskedOnce s) (ops : List QuestionOp) :
    Along (fun s op => AskedOnce (execQuestion parsers s op)) (execQuestion parsers) s ops ↔
      Along (fun s op => bringsKeysOnce s op = true) (execQuestion parsers) s ops := by
  induction ops generalizing s with
  | nil => exact Iff.rfl
  | cons op ops ih =>
    constructor
    · rintro ⟨kept, rest⟩
      exact ⟨(askedOnce_exec_iff table once op).mp kept, (ih (table.exec op) kept).mp rest⟩
    · rintro ⟨ok, rest⟩
      have kept := (@askedOnce_exec_iff parsers s table once op).mpr ok
      exact ⟨kept, (ih (table.exec op) kept).mpr rest⟩

end Runs

/-- Two different questions under one key, which one of them has with white space. -/
def askTwice : QuestionOp :=
  .create
    { stage := .requirementsAnalysis
      questions := [
        { idempotencyKey := some "rows", question := "Which rows?", whyNeeded := "Scope" },
        { idempotencyKey := some " rows", question := "All rows?", whyNeeded := "Scope" }] }
    1 fun index => if index = 0 then "batch" else if index = 1 then "first" else "second"

theorem questionTable_unasked : QuestionTable unasked :=
  ⟨List.nodup_nil, fun _ inside => absurd inside List.not_mem_nil⟩

/-- A key asked for again in a later batch is left out there. -/
theorem askedOnce_along_laterBatch :
    Along (fun s op => AskedOnce (execQuestion anyAnswer s op)) (execQuestion anyAnswer) unasked
      [.create
        { stage := .requirementsAnalysis
          questions := [{ idempotencyKey := some "rows", question := "Which?", whyNeeded := "Scope" }] }
        1 (fun index => if index = 0 then "batch" else "first"),
       .create
        { stage := .requirementsAnalysis
          questions := [{ idempotencyKey := some "rows ", question := "All?", whyNeeded := "Scope" }] }
        2 (fun index => if index = 0 then "later" else "second")] :=
  (askedOnce_along_iff anyAnswer questionTable_unasked List.nodup_nil _).mpr
    (by decide)

/-- A batch is not compared with itself. -/
theorem repeated_key_asked_twice :
    ¬ ∀ (s : QuestionStore) (ops : List QuestionOp), QuestionTable s → AskedOnce s →
      Along (fun s op => AskedOnce (execQuestion anyAnswer s op)) (execQuestion anyAnswer) s ops := by
  intro all
  have kept := all unasked [askTwice] questionTable_unasked List.nodup_nil
  exact absurd kept.1 (by decide)

end AifHandoff.Data
