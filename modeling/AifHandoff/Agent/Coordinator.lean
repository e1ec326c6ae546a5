import AifHandoff.Data.TaskFields

/-!
The coordinator's pipeline and its guarded status write (`agent/coordinator.ts`).
-/

namespace AifHandoff.Agent

open Data

/-- The requirement flags of the environment. -/
structure CoordinatorEnv where
  requirementsIntakeEnabled : Bool := false
  researchDesignEnabled : Bool := false
  qaEnabled : Bool := false

/-- A stage without its runner. -/
structure StatusTransition where
  from_ : List TaskStatus
  inProgress : TaskStatus
  onSuccess : TaskStatus
  label : CoordinatorStage
  deriving DecidableEq

def pipeline : List StatusTransition :=
  [⟨[.requirementsAnalysis], .requirementsAnalysis, .planning, .requirementsAnalyst⟩,
    ⟨[.research], .research, .design, .researcher⟩,
    ⟨[.design], .design, .planning, .designer⟩,
    ⟨[.planning], .planning, .planReady, .planner⟩,
    ⟨[.planReady], .planReady, .planReady, .planChecker⟩,
    ⟨[.planReady, .implementing], .implementing, .review, .implementer⟩,
    ⟨[.review], .review, .done, .reviewer⟩,
    ⟨[.qa], .qa, .done, .qa⟩]

def researchDesignStagesEnabled (env : CoordinatorEnv) : Bool :=
  env.requirementsIntakeEnabled && env.researchDesignEnabled

def requirementsQaEnabled (env : CoordinatorEnv) : Bool :=
  env.requirementsIntakeEnabled && env.qaEnabled

def activePipeline (env : CoordinatorEnv) : List StatusTransition :=
  (pipeline.filter fun stage =>
    (researchDesignStagesEnabled env || (stage.label != .researcher && stage.label != .designer)) &&
      (requirementsQaEnabled env || stage.label != .qa)).map fun stage =>
    if stage.label = .requirementsAnalyst then
      { stage with
        onSuccess := if researchDesignStagesEnabled env then .research else .planning }
    else if stage.label = .reviewer then
      { stage with onSuccess := if requirementsQaEnabled env then .qa else .done }
    else stage

/-- `blockedReason.startsWith("operator_cancelled:")`. -/
def isOperatorCancelledReason (reason : Option String) : Bool :=
  reason.any (Text.startsWith · "operator_cancelled:")

def isOperatorCancelledTask (task : TaskRow) : Bool :=
  task.status == .blockedExternal && isOperatorCancelledReason task.blockedReason

/-- The guard of the coordinator's `updateTaskStatus`, on the row it has read. -/
def skipsStatusUpdate (currentTask : TaskRow) (status : TaskStatus) (extra : TaskFieldsPatch) :
    Bool :=
  isOperatorCancelledTask currentTask &&
    (status != .blockedExternal || !isOperatorCancelledReason (extra.blockedReason.getD none))

/-- What `processOneTask` finds on its way to the runner. -/
structure StartEnv where
  projectFound : Bool := true
  projectInitialized : Bool := true
  requirementsIntakeEnabled : Bool := false
  hasCurrentRequirementsSnapshotOrWaiver : Bool := true
  researchDesignStagesEnabled : Bool := false
  stageArtifactIssue : Bool := false
  synthesisHeld : Bool := false
  reworkCompletionEvidenceAlreadySatisfied : Bool := false
  completionEvidenceBlocks : Bool := false

/-- Whether `processOneTask` gets to the stage runner. None of its checks asks
whether the stored task is still in the stage's status, or paused. -/
def startsRunner (stage : CoordinatorStage) (env : StartEnv) : Bool :=
  if !env.projectFound then false
  else if !env.projectInitialized then false
  else if stage = .planner && env.requirementsIntakeEnabled &&
      !env.hasCurrentRequirementsSnapshotOrWaiver then false
  else if stage = .planner && env.researchDesignStagesEnabled && env.stageArtifactIssue then false
  else if stage = .implementer && env.synthesisHeld then false
  else if stage = .implementer && env.reworkCompletionEvidenceAlreadySatisfied then false
  else if stage = .implementer && env.completionEvidenceBlocks then false
  else true

/-- The coordinator's `updateTaskStatus` where nothing comes between its read and its
write. -/
def updateTaskStatus (row : TaskRow) (status : TaskStatus) (extra : TaskFieldsPatch) (now : Nat) :
    TaskRow :=
  if skipsStatusUpdate row status extra then row else updateTaskStatusRow row status extra now

end AifHandoff.Agent
