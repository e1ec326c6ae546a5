import AifHandoff.Lib.Json
import AifHandoff.Lib.Regex

/-!
Which runtime profiles may run which stage (`shared/constants.ts`,
`shared/runtimeStagePolicy.ts`).

The options of a profile are a JSON object. The caps that a decision also carries are left
out; nothing here depends on them.
-/

namespace AifHandoff.Shared

/-! ### Stages and modes -/

inductive RuntimeProfileMode where
  | task | plan | review | chat
  deriving DecidableEq, Repr

inductive RuntimeStage where
  | researcher | designer | planner | planChecker | implementer | reviewer | qa | security
  | chat | audit | synthesis
  deriving DecidableEq, Repr

def RuntimeStage.text : RuntimeStage → String
  | .researcher => "researcher"
  | .designer => "designer"
  | .planner => "planner"
  | .planChecker => "plan_checker"
  | .implementer => "implementer"
  | .reviewer => "reviewer"
  | .qa => "qa"
  | .security => "security"
  | .chat => "chat"
  | .audit => "audit"
  | .synthesis => "synthesis"

/-- A stage or a mode; the text `chat` is both. -/
inductive RuntimeStageOrProfileMode where
  | stage (stage : RuntimeStage)
  | mode (mode : RuntimeProfileMode)
  deriving DecidableEq, Repr

/-- `RUNTIME_STAGE_PROFILE_MODE`. -/
def runtimeStageProfileMode : RuntimeStage → RuntimeProfileMode
  | .researcher | .designer | .planner | .planChecker | .audit | .synthesis => .plan
  | .implementer => .task
  | .reviewer | .qa | .security => .review
  | .chat => .chat

def normalizeRuntimeStage : RuntimeStageOrProfileMode → RuntimeStage
  | .stage stage => stage
  | .mode .plan => .planner
  | .mode .review => .reviewer
  | .mode .chat => .chat
  | .mode .task => .implementer

def runtimeProfileModeForStage : RuntimeStageOrProfileMode → RuntimeProfileMode
  | .mode mode => mode
  | .stage stage => runtimeStageProfileMode stage

/-! ### Reading options -/

/-- What the policy needs to know of numbers and dates. -/
structure PolicyEnv (ν : Type) where
  /-- `Number.isFinite(value) && value >= 0`. -/
  isPositiveNumber : ν → Bool
  /-- `Number.isFinite(Date.parse(value))`. -/
  dateParses : String → Bool

namespace RuntimeStagePolicy

variable {ν : Type}

abbrev Record (ν : Type) := List (String × Json ν)

/-- The object at hand, the empty one where there is none. -/
def asRecord : Option (Json ν) → Record ν
  | some (.obj fields) => fields
  | _ => []

def readPositiveInteger (env : PolicyEnv ν) : Option (Json ν) → Option ν
  | some (.num n) => if env.isPositiveNumber n then some n else none
  | _ => none

/-- The number of context tokens, under its first readable name (before rounding down). -/
def readCanaryContextTokens (env : PolicyEnv ν) (canary : Record ν) : Option ν :=
  (readPositiveInteger env (canary.lookup "contextTokens")).or <|
    (readPositiveInteger env (canary.lookup "contextWindowTokens")).or <|
      (readPositiveInteger env (canary.lookup "maxInputTokens")).or <|
        readPositiveInteger env (canary.lookup "context")

def readBoolean : Option (Json ν) → Option Bool
  | some (.bool b) => some b
  | _ => none

def readStageCapability (options : Record ν) (stage : RuntimeStage) : Option Bool :=
  let raw := (asRecord (options.lookup "stageCapabilities")).lookup stage.text
  let record := asRecord raw
  (readBoolean raw).or <| (readBoolean (record.lookup "enabled")).or <|
    (readBoolean (record.lookup "allowed")).or <| readBoolean (record.lookup "capable")

def readString : Json ν → Option String
  | .str s => some s
  | _ => none

def readAllowedStages (options : Record ν) : Option (List String) :=
  match options.lookup "allowedStages" with
  | some (.arr raw) => some (raw.filterMap readString)
  | _ => none

def readNonEmptyString (record : Record ν) (key : String) : Option String :=
  match record.lookup key with
  | some (.str value) => if (Text.trim value).isEmpty then none else some (Text.trim value)
  | _ => none

/-- `/[_\s-]+/g`. -/
def separators : Regex := Regex.some1 (.set fun c => c == '_' || Text.isSpace c || c == '-')

def isPassVerdict : Option (Json ν) → Bool
  | some (.str value) =>
    ["pass", "test_pass", "review_pass"].contains
      (Regex.replaceAll separators (fun _ => "_") (Text.toLowerCase (Text.trim value)))
  | _ => false

def hasValidIsoTimestamp (env : PolicyEnv ν) : Option (Json ν) → Bool
  | some (.str value) => env.dateParses value
  | _ => false

/-- `QWEN_IMPLEMENTATION_CANARY_SOURCES`. -/
def qwenImplementationCanarySources : List String :=
  ["structured_evidence", "aif_implementer_canary"]

def isStructuredQwenImplementationCanaryEvidence (env : PolicyEnv ν) (value : Option (Json ν)) :
    Bool :=
  let canary := asRecord value
  if readBoolean (canary.lookup "passed") ≠ some true then false
  else if (readNonEmptyString canary "canaryId").isNone then false
  else if !hasValidIsoTimestamp env (canary.lookup "passedAt") then false
  else if !(readNonEmptyString canary "source").any qwenImplementationCanarySources.contains then
    false
  else if (readCanaryContextTokens env canary).isNone then false
  else isPassVerdict (canary.lookup "testVerdict") && isPassVerdict (canary.lookup "reviewVerdict")

/-! ### The verdict -/

structure RuntimeProfileStagePolicyInput (ν : Type) where
  id : String
  runtimeId : String
  providerId : String
  options : Record ν

def isQwenLocalRuntimeProfile (profile : RuntimeProfileStagePolicyInput ν) : Bool :=
  let runtimeId := Text.toLowerCase (Text.trim profile.runtimeId)
  let providerId := Text.toLowerCase (Text.trim profile.providerId)
  runtimeId == "qwen-local-agent" || providerId == "qwen" || providerId == "qwen-local" ||
    providerId == "qwen_local"

/-- `QWEN_DEFAULT_ALLOWED_STAGES`. -/
def qwenDefaultAllowedStages : List RuntimeStage :=
  [.researcher, .designer, .planner, .planChecker, .reviewer, .qa, .security, .chat, .audit,
    .synthesis]

inductive RuntimeStageCapabilityReason where
  | allowed | explicitStageAllow | explicitStageDeny | allowedStagesDeny
  | qwenImplementationNotEnabled | qwenImplementationFlag | qwenImplementationCanary
  deriving DecidableEq, Repr

structure RuntimeStageCapabilityDecision where
  allowed : Bool
  reason : RuntimeStageCapabilityReason
  stage : RuntimeStage
  profileId : String
  runtimeId : String
  providerId : String
  deriving DecidableEq, Repr

def qwenImplementationOptInReason (env : PolicyEnv ν) (options : Record ν) :
    Option RuntimeStageCapabilityReason :=
  let qwenOptions := asRecord (options.lookup "qwenLocalAgent")
  if isStructuredQwenImplementationCanaryEvidence env
      (qwenOptions.lookup "implementationCanary") then
    some .qwenImplementationCanary
  else none

def evaluateRuntimeProfileStageCapability (env : PolicyEnv ν)
    (profile : RuntimeProfileStagePolicyInput ν) (stage : RuntimeStage) :
    RuntimeStageCapabilityDecision :=
  let options := profile.options
  let explicitStageCapability := readStageCapability options stage
  let allowedStages := readAllowedStages options
  let decision (allowed : Bool) (reason : RuntimeStageCapabilityReason) :
      RuntimeStageCapabilityDecision :=
    { allowed, reason, stage, profileId := profile.id, runtimeId := profile.runtimeId,
      providerId := profile.providerId }
  if explicitStageCapability = some false then decision false .explicitStageDeny
  else if allowedStages.any (!·.contains stage.text) then decision false .allowedStagesDeny
  else if isQwenLocalRuntimeProfile profile && stage == .implementer then
    let optInReason := qwenImplementationOptInReason env options
    decision optInReason.isSome (optInReason.getD .qwenImplementationNotEnabled)
  else if isQwenLocalRuntimeProfile profile && !qwenDefaultAllowedStages.contains stage then
    decision (explicitStageCapability == some true)
      (if explicitStageCapability = some true then .explicitStageAllow else .allowedStagesDeny)
  else
    decision true (if explicitStageCapability = some true then .explicitStageAllow else .allowed)

end RuntimeStagePolicy

end AifHandoff.Shared
