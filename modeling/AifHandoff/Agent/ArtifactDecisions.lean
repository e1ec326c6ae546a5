import AifHandoff.Data.RoadmapRuns

/-!
The coordinator's decisions about an audit artifact
(`terminalizeRoadmapSourceReportAsInconclusive`, `holdSynthesisTask`,
`returnAuditTaskToRework` and the acceptance of `blockTaskForCompletionEvidenceIfNeeded`
in `agent/coordinator.ts`), as far as they write the roadmap tables. What they write to
the task is part of the stage programs.

Only the acceptance passes the boundary of the artifact along. The others name none, so
after a rework, which opens a boundary, their attempts are stale.
-/

namespace AifHandoff.Agent

open Data Transition

variable {δ : Type} [ValidationDetails δ]

/-- What a decision about the artifact of a task brings along: the task, its project root,
the hash of the artifact, the details of the verdict, the clock, and the uuid that is
drawn when it opens a boundary. -/
structure ArtifactDecision (δ : Type) where
  task : TaskRow
  projectRoot : String
  contentSha : Option String
  details : δ
  now : Nat
  randomUUID : String

section Decisions

variable (db : RoadmapStore δ) (decision : ArtifactDecision δ)

/-- The input of an update, with the columns that every decision passes. -/
def decisionInput (input : RoadmapArtifactStateInput δ) : RoadmapArtifactStateInput δ :=
  { input with
    taskId := decision.task.id
    validationDetails := some decision.details
    branchName := decision.task.branchName
    worktreePath := decision.task.worktreePath
    projectRoot := some decision.projectRoot }

def terminalInput : RoadmapArtifactStateInput δ where
  taskId := decision.task.id
  state := .sourceInconclusive
  failureFamily := some (some .sourceInconclusive)
  classification := some "source_inconclusive"
  reworkStatus := some .terminalInconclusive
  contentSha := decision.contentSha

def holdInput : RoadmapArtifactStateInput δ where
  taskId := decision.task.id
  state := .synthesisNotReady
  failureFamily := some (some .synthesisNotReady)

def acceptInput (artifact : RoadmapBatchArtifactRow δ) : RoadmapArtifactStateInput δ where
  taskId := decision.task.id
  state := .valid
  failureFamily := some none
  reworkStatus := some .accepted
  attemptBoundaryId := artifact.attemptBoundaryId
  contentSha := decision.contentSha

/-- A rework opens a boundary. The state is that of a failure family. -/
def reworkInput (state : AuditArtifactState) (family : AuditFailureFamily) :
    RoadmapArtifactStateInput δ where
  taskId := decision.task.id
  state
  failureFamily := some (some family)
  reworkStatus := some .reworkRequested
  createAttemptBoundary := true
  contentSha := decision.contentSha

def writeDecision (input : RoadmapArtifactStateInput δ) : RoadmapStore δ :=
  execRoadmap db (.updateArtifact (decisionInput decision input) decision.now decision.randomUUID)

/-- The tables, and whether the report was terminalized. -/
def terminalizeRoadmapSourceReportAsInconclusive : RoadmapStore δ × Bool :=
  match findRoadmapBatchArtifactByTaskId db decision.task.id with
  | none => (db, false)
  | some artifact =>
    if artifact.role ≠ .report then (db, false)
    else (writeDecision db decision (terminalInput decision), true)

/-- The tables, and whether the synthesis was held. -/
def holdSynthesisTask : RoadmapStore δ × Bool :=
  match findRoadmapBatchArtifactByTaskId db decision.task.id with
  | none => (db, false)
  | some artifact =>
    if artifact.role ≠ .synthesis then (db, false)
    else (writeDecision db decision (holdInput decision), true)

/-- The tables, and whether the completion evidence was recorded as accepted. -/
def acceptCompletionEvidence : RoadmapStore δ × Bool :=
  match findRoadmapBatchArtifactByTaskId db decision.task.id with
  | none => (db, false)
  | some artifact => (writeDecision db decision (acceptInput decision artifact), true)

def returnAuditTaskToRework (state : AuditArtifactState) (family : AuditFailureFamily) :
    RoadmapStore δ :=
  writeDecision db decision (reworkInput decision state family)

end Decisions

/-! ### What the decisions are for -/

section Landing

/-- The report of the task is closed as inconclusive, by its newest attempt. -/
def Terminalized (db : RoadmapStore δ) (taskId : TaskId) : Prop :=
  ∃ artifact, findRoadmapBatchArtifactByTaskId db taskId = some artifact ∧
    artifact.state = .sourceInconclusive ∧
    (latestAttempt db artifact.id).map (·.attemptNumber) = some artifact.attemptNumber ∧
    roadmapSourceArtifactTerminalForSynthesis db artifact = true

/-- The artifact of the task has the state. -/
def HasArtifactState (db : RoadmapStore δ) (taskId : TaskId) (state : AuditArtifactState) : Prop :=
  ∃ artifact, findRoadmapBatchArtifactByTaskId db taskId = some artifact ∧ artifact.state = state

/-- Every decision that says it is made has landed on the artifact. -/
structure DecisionsLand (db : RoadmapStore δ) (decision : ArtifactDecision δ) : Prop where
  terminalized : (terminalizeRoadmapSourceReportAsInconclusive db decision).2 = true →
    Terminalized (terminalizeRoadmapSourceReportAsInconclusive db decision).1 decision.task.id
  held : (holdSynthesisTask db decision).2 = true →
    HasArtifactState (holdSynthesisTask db decision).1 decision.task.id .synthesisNotReady
  accepted : (acceptCompletionEvidence db decision).2 = true →
    HasArtifactState (acceptCompletionEvidence db decision).1 decision.task.id .valid

/-- The artifact has no boundary yet, or it is a synthesis that is held already. -/
def isOpenToDecisions (artifact : RoadmapBatchArtifactRow δ) : Bool :=
  artifact.attemptBoundaryId.isNone ||
    (artifact.role == .synthesis && artifact.state == .synthesisNotReady)

variable {db : RoadmapStore δ} {decision : ArtifactDecision δ}
  {artifact : RoadmapBatchArtifactRow δ} {input : RoadmapArtifactStateInput δ}

theorem writeDecision_eq
    (found : findRoadmapBatchArtifactByTaskId db decision.task.id = some artifact)
    (noException : input.state ≠ .manualException) :
    writeDecision db decision input = (refreshRoadmapBatchSummary
      (recordAttempt db artifact (decisionInput decision input) decision.now decision.randomUUID)
      artifact.batchId decision.now).1 := by
  rcases updateArtifact_cases db (decisionInput decision input) decision.now
    decision.randomUUID with ⟨-, rejected⟩ | ⟨row, found', -, done⟩
  · have lacks := rejected artifact found
    have accepted : lacksJustification artifact (decisionInput decision input) = false := by
      simp [lacksJustification, decisionInput, noException]
    rw [accepted] at lacks
    cases lacks
  · obtain rfl := Option.some.inj (found.symm.trans found')
    exact done

theorem writeDecision_reached (reached : Reaches roadmapSystem FreshIds db)
    (fresh : decision.randomUUID ∉ storedIds db) (input : RoadmapArtifactStateInput δ) :
    Reaches roadmapSystem FreshIds (writeDecision db decision input) :=
  .step reached (show FreshIds db (.updateArtifact (decisionInput decision input) decision.now
    decision.randomUUID) from fresh) rfl

/-- The artifact after a decision. -/
theorem find_writeDecision
    (found : findRoadmapBatchArtifactByTaskId db decision.task.id = some artifact)
    (noException : input.state ≠ .manualException) :
    findRoadmapBatchArtifactByTaskId (writeDecision db decision input) decision.task.id =
      some (if staleBoundary artifact (decisionInput decision input) then artifact
        else writeArtifact artifact (decisionInput decision input)
          (recordedAttempt db artifact (decisionInput decision input) decision.now
            decision.randomUUID) decision.now artifact) := by
  rw [writeDecision_eq found noException]
  have ofDecision : findRoadmapBatchArtifactByTaskId db (decisionInput decision input).taskId =
      some artifact := found
  exact findRoadmapBatchArtifactByTaskId_updateArtifact _ _ ofDecision

theorem latestAttempt_writeDecision
    (found : findRoadmapBatchArtifactByTaskId db decision.task.id = some artifact)
    (noException : input.state ≠ .manualException) :
    latestAttempt (writeDecision db decision input) artifact.id =
      some (recordedAttempt db artifact (decisionInput decision input) decision.now
        decision.randomUUID) := by
  rw [writeDecision_eq found noException,
    latestAttempt_congr (refreshRoadmapBatchSummary_attempts _ _ _),
    latestAttempt_recordAttempt_self]

omit [ValidationDetails δ] in
theorem staleBoundary_decisionInput (unnamed : input.attemptBoundaryId = none)
    (opensNone : input.createAttemptBoundary = false) :
    staleBoundary artifact (decisionInput decision input) = artifact.attemptBoundaryId.isSome := by
  cases boundary : artifact.attemptBoundaryId <;>
    simp [staleBoundary, decisionInput, unnamed, opensNone, boundary]

theorem hasArtifactState_writeDecision_iff
    (found : findRoadmapBatchArtifactByTaskId db decision.task.id = some artifact)
    (noException : input.state ≠ .manualException) (unnamed : input.attemptBoundaryId = none)
    (opensNone : input.createAttemptBoundary = false) :
    HasArtifactState (writeDecision db decision input) decision.task.id input.state ↔
      artifact.attemptBoundaryId = none ∨ artifact.state = input.state := by
  rw [HasArtifactState, find_writeDecision found noException,
    staleBoundary_decisionInput unnamed opensNone]
  cases boundary : artifact.attemptBoundaryId with
  | none => simp [writeArtifact, decisionInput]
  | some id => simp

/-- A report is terminalized exactly when it has no boundary. -/
theorem terminalized_iff (consistent : db.Consistent)
    (found : findRoadmapBatchArtifactByTaskId db decision.task.id = some artifact)
    (report : artifact.role = .report) :
    Terminalized (terminalizeRoadmapSourceReportAsInconclusive db decision).1 decision.task.id ↔
      artifact.attemptBoundaryId = none := by
  have written : (terminalizeRoadmapSourceReportAsInconclusive db decision).1 =
      writeDecision db decision (terminalInput decision) := by
    simp [terminalizeRoadmapSourceReportAsInconclusive, found, report]
  have latest : latestAttempt (writeDecision db decision (terminalInput decision)) artifact.id =
      some _ := latestAttempt_writeDecision found (by simp [terminalInput])
  rw [written, Terminalized, find_writeDecision found (by simp [terminalInput]),
    staleBoundary_decisionInput rfl rfl]
  cases boundary : artifact.attemptBoundaryId with
  | none =>
    refine ⟨fun _ => rfl, fun _ => ⟨_, rfl, rfl, ?_, ?_⟩⟩
    · rw [Option.isSome_none, if_neg Bool.false_ne_true]
      exact congrArg (Option.map _) latest
    · rw [Option.isSome_none, if_neg Bool.false_ne_true,
        roadmapSourceArtifactTerminalForSynthesis_iff]
      exact ⟨report, rfl, _, latest, rfl⟩
  | some id =>
    -- The row is the old one, and its number is behind that of the stale attempt.
    have bound := consistent.numbered artifact (findRoadmapBatchArtifactByTaskId_some found).1
    refine ⟨?_, fun none_ => by cases none_⟩
    rintro ⟨row, same, -, number, -⟩
    rw [Option.isSome_some, if_pos rfl, Option.some.injEq] at same
    subst same
    rw [latest, Option.map_some, Option.some.injEq] at number
    have newer : maxAttemptNumber db artifact.id + 1 = artifact.attemptNumber := number
    omega

theorem held_iff (found : findRoadmapBatchArtifactByTaskId db decision.task.id = some artifact)
    (synthesis : artifact.role = .synthesis) :
    HasArtifactState (holdSynthesisTask db decision).1 decision.task.id .synthesisNotReady ↔
      artifact.attemptBoundaryId = none ∨ artifact.state = .synthesisNotReady := by
  have written : (holdSynthesisTask db decision).1 =
      writeDecision db decision (holdInput decision) := by
    simp [holdSynthesisTask, found, synthesis]
  rw [written]
  exact hasArtifactState_writeDecision_iff found (by simp [holdInput]) rfl rfl

theorem accepted_lands
    (found : findRoadmapBatchArtifactByTaskId db decision.task.id = some artifact) :
    HasArtifactState (acceptCompletionEvidence db decision).1 decision.task.id .valid := by
  have written : (acceptCompletionEvidence db decision).1 =
      writeDecision db decision (acceptInput decision artifact) := by
    simp [acceptCompletionEvidence, found]
  rw [written, HasArtifactState, find_writeDecision found (by simp [acceptInput])]
  refine ⟨_, rfl, ?_⟩
  rw [if_neg (by simp [staleBoundary, decisionInput, acceptInput])]
  rfl

end Landing

/-- In every state of a run, the decisions about the artifact of a task land exactly when
the task has none, or one that is open to them. -/
theorem decisionsLand_iff {db : RoadmapStore δ} (reached : Reaches roadmapSystem FreshIds db)
    (decision : ArtifactDecision δ) : DecisionsLand db decision ↔
      (findRoadmapBatchArtifactByTaskId db decision.task.id).all isOpenToDecisions = true := by
  have consistent := consistent_of_reaches reached
  cases found : findRoadmapBatchArtifactByTaskId db decision.task.id with
  | none =>
    refine ⟨fun _ => rfl, fun _ => ⟨fun made => ?_, fun made => ?_, fun made => ?_⟩⟩
    · simp [terminalizeRoadmapSourceReportAsInconclusive, found] at made
    · simp [holdSynthesisTask, found] at made
    · simp [acceptCompletionEvidence, found] at made
  | some artifact =>
    rw [Option.all_some]
    cases role : artifact.role with
    | report =>
      have made : (terminalizeRoadmapSourceReportAsInconclusive db decision).2 = true := by
        simp [terminalizeRoadmapSourceReportAsInconclusive, found, role]
      have notHeld : (holdSynthesisTask db decision).2 = false := by
        simp [holdSynthesisTask, found, role]
      have open_ : isOpenToDecisions artifact = true ↔ artifact.attemptBoundaryId = none := by
        simp [isOpenToDecisions, role]
      rw [open_, ← terminalized_iff consistent found role]
      constructor
      · intro lands
        exact lands.terminalized made
      · intro terminalized
        refine ⟨fun _ => terminalized, fun held => ?_, fun _ => accepted_lands found⟩
        rw [notHeld] at held
        cases held
    | synthesis =>
      have made : (holdSynthesisTask db decision).2 = true := by
        simp [holdSynthesisTask, found, role]
      have notTerminalized :
          (terminalizeRoadmapSourceReportAsInconclusive db decision).2 = false := by
        simp [terminalizeRoadmapSourceReportAsInconclusive, found, role]
      have open_ : isOpenToDecisions artifact = true ↔
          artifact.attemptBoundaryId = none ∨ artifact.state = .synthesisNotReady := by
        simp [isOpenToDecisions, role]
      rw [open_, ← held_iff found role]
      constructor
      · intro lands
        exact lands.held made
      · intro held
        refine ⟨fun terminalized => ?_, fun _ => held, fun _ => accepted_lands found⟩
        rw [notTerminalized] at terminalized
        cases terminalized

/-! ### Two runs -/

def reportDecision : ArtifactDecision NoDetails where
  task := { id := "report", projectId := "project" }
  projectRoot := "/project"
  contentSha := none
  details := .null
  now := 2
  randomUUID := "unused"

/-- The contract of the batch. -/
def contractOnly : RoadmapStore NoDetails := execRoadmap {} reportContract

theorem contractOnly_reached : Reaches roadmapSystem FreshIds contractOnly :=
  .step (.init ⟨[], rfl⟩) (by decide) rfl

def firstRework : ArtifactDecision NoDetails :=
  { reportDecision with
    now := 1
    randomUUID := "first" }

/-- The contract, and one rework. -/
def reworkedOnce : RoadmapStore NoDetails :=
  returnAuditTaskToRework contractOnly firstRework .invalid .invalidArtifactContent

theorem reworkedOnce_reached : Reaches roadmapSystem FreshIds reworkedOnce := by
  have fresh : firstRework.randomUUID ∉ storedIds contractOnly := by decide
  exact writeDecision_reached contractOnly_reached fresh
    (reworkInput firstRework .invalid .invalidArtifactContent)

theorem decisionsLand_contractOnly : DecisionsLand contractOnly reportDecision :=
  (decisionsLand_iff contractOnly_reached reportDecision).mpr (by decide)

/-- After a rework the terminalization says it is made, and the report stays invalid. -/
theorem terminalized_after_rework :
    ¬ ∀ db : RoadmapStore NoDetails, Reaches roadmapSystem FreshIds db →
      ∀ decision, DecisionsLand db decision := by
  intro lands
  obtain ⟨artifact, found, inconclusive, -⟩ :=
    (lands reworkedOnce reworkedOnce_reached reportDecision).terminalized (by decide)
  have stays : (findRoadmapBatchArtifactByTaskId (terminalizeRoadmapSourceReportAsInconclusive
      reworkedOnce reportDecision).1 reportDecision.task.id).map (·.state) = some .invalid := by
    decide
  rw [found, Option.map_some, inconclusive] at stays
  cases stays

end AifHandoff.Agent
