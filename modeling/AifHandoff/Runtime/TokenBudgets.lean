import AifHandoff.Lib.JsonAlike
import AifHandoff.Runtime.CompactLengths
import AifHandoff.Runtime.QwenSteps
import AifHandoff.Runtime.ToolArguments

/-!
The token budget of an endpoint (`runtime/adapters/qwenLocalAgent/api.ts`): the caps of a request,
its body, and what a compaction does to its estimate.

A cap below one is a cap as well, so it leaves a request without output. A compaction replaces
the transcript by one message of its own, which may be the longer one.
-/

namespace AifHandoff.Runtime.TokenBudgets

open Text Shared

variable {World ν : Type}

/-! ### Numbers of the options -/

/-- The numbers of `input.options` a request reads, each where it is a number. -/
structure TokenOptions where
  contextWindowTokens : Option ConfigNumber
  contextTokens : Option ConfigNumber
  maxInputTokens : Option ConfigNumber
  tokenBudget : Option ConfigNumber
  maxOutputTokens : Option ConfigNumber
  maxTokens : Option ConfigNumber
  temperature : Option ConfigNumber
  topP : Option ConfigNumber

def readNumber : Option ConfigNumber → Option ℚ
  | some (.finite value) => some value
  | some .notFinite | none => none

def readPositiveInteger (value : Option ConfigNumber) : Option Nat :=
  match readNumber value with
  | some parsed => if parsed < 0 then none else some ⌊parsed⌋.toNat
  | none => none

def firstPositiveInteger (values : List (Option ConfigNumber)) : Option Nat :=
  values.findSome? readPositiveInteger

def capPositiveInteger (current : Nat) : Option Nat → Nat
  | none => current
  | some cap => min current cap

/-! ### Budgets -/

structure EndpointLimits extends EndpointBudget where
  maxOutputTokens : Nat
  highInputMaxOutputTokens : Nat
  totalTokens : Nat
deriving DecidableEq

def limits8003 : EndpointLimits where
  maxInputTokens := 20000
  compactTargetInputTokens := 16000
  maxOutputTokens := 4000
  highInputMaxOutputTokens := 2000
  totalTokens := 24000
  toolResultMaxChars := 1500
  ledgerPreviewMaxChars := 320

def limits8005 : EndpointLimits where
  maxInputTokens := 60000
  compactTargetInputTokens := 48000
  maxOutputTokens := 8000
  highInputMaxOutputTokens := 4000
  totalTokens := 68000
  toolResultMaxChars := 3000
  ledgerPreviewMaxChars := 480

/-- `LOCAL_ENDPOINT_BUDGETS`, by ports. -/
def localEndpointBudgets : List (String × EndpointLimits) :=
  [("8003", limits8003), ("8005", limits8005)]

/-- `Math.max(1, Math.floor(tokens * 0.8))`. -/
def softShare (tokens : Nat) : Nat := max 1 ⌊Double.times tokens (8 / 10)⌋.toNat

def TokenOptions.contextCap (options : TokenOptions) : Option Nat :=
  firstPositiveInteger [options.contextWindowTokens, options.contextTokens, options.maxInputTokens,
    options.tokenBudget]

def TokenOptions.outputCap (options : TokenOptions) : Option Nat :=
  firstPositiveInteger [options.maxOutputTokens, options.maxTokens]

/-- The budget of an endpoint without one of its own. -/
def defaultLimits (contextCap outputCap : Option Nat) : EndpointLimits where
  maxInputTokens := contextCap.getD maxSafeInteger
  compactTargetInputTokens := (contextCap.map softShare).getD maxSafeInteger
  maxOutputTokens := outputCap.getD maxSafeInteger
  highInputMaxOutputTokens := outputCap.getD maxSafeInteger
  totalTokens := contextCap.getD maxSafeInteger
  toolResultMaxChars := 1500
  ledgerPreviewMaxChars := 320

def applyEndpointBudgetCaps (options : TokenOptions) (budget : Option EndpointLimits) :
    Option EndpointLimits :=
  let contextCap := options.contextCap
  let outputCap := options.outputCap
  if budget.isNone ∧ contextCap.isNone ∧ outputCap.isNone then none
  else
    let base := budget.getD (defaultLimits contextCap outputCap)
    let maxInputTokens := capPositiveInteger base.maxInputTokens contextCap
    some { base with
      maxInputTokens
      totalTokens := capPositiveInteger base.totalTokens contextCap
      maxOutputTokens := capPositiveInteger base.maxOutputTokens outputCap
      highInputMaxOutputTokens := capPositiveInteger base.highInputMaxOutputTokens outputCap
      compactTargetInputTokens := min base.compactTargetInputTokens (softShare maxInputTokens) }

/-- A base URL, with the port by which `parseEndpoint` names its endpoint. -/
structure BaseUrl where
  text : String
  port : Option String

/-- `resolveEndpointPolicy(input).budget`, where there is a base URL. -/
def endpointBudget (options : TokenOptions) (baseUrl : BaseUrl) : Option EndpointLimits :=
  applyEndpointBudgetCaps options (baseUrl.port.bind fun port => localEndpointBudgets.lookup port)

/-! ### Requests -/

/-- The input of a request: what the loop reads of it, and the rest. -/
structure RequestInput where
  run : RunInput
  /-- Of `input.baseUrl`, `options.baseUrl` and `QWEN_BASE_URL`, the first that is a text. -/
  baseUrl : Option BaseUrl
  /-- Of `input.model`, `options.model` and `QWEN_MODEL`, the first that is a text. -/
  model : Option String
  toolsEnabled : Bool
  options : TokenOptions
  budget_run :
    run.budget = (baseUrl.bind (endpointBudget options)).map EndpointLimits.toEndpointBudget

def finalizationToolNames : List String :=
  ["write_file", "apply_patch", "git_status", "compute_audit_report_hash",
    "finalize_audit_report_manifest", "validate_audit_report", "git_commit"]

def resolveQwenToolsForRequest (input : RequestInput) (disableRepositoryInspectionTools : Bool) :
    List String :=
  let tools := resolveQwenToolsForWorkflow input.run.workflowKind
  if disableRepositoryInspectionTools then tools.filter finalizationToolNames.contains else tools

def toolCallJson (call : ToolCall) : Json ν :=
  .obj [("id", .str call.id), ("type", .str "function"),
    ("function", .obj [("name", .str call.name), ("arguments", .str call.arguments)])]

/-- A message as it is sent. -/
def messageJson : Message → Json ν
  | .system content => .obj [("role", .str "system"), ("content", .str content)]
  | .user content => .obj [("role", .str "user"), ("content", .str content)]
  | .assistant content toolCalls =>
    .obj [("role", .str "assistant"), ("content", (content.map .str).getD .null),
      ("tool_calls", .arr (toolCalls.map toolCallJson))]
  | .tool toolCallId name content =>
    .obj [("role", .str "tool"), ("tool_call_id", .str toolCallId), ("name", .str name),
      ("content", .str content)]

section Requests

-- Halves of pairs, how numbers are written, and the tools of `QWEN_LOCAL_AGENT_TOOLS` by name.
variable (halves : Halves) (write : ν → List Char) (definition : String → Json ν)

/-- `JSON.stringify(value).length`. -/
def jsonLength (value : Json ν) : Nat :=
  ((Json.stringify write value).map (writtenUnits halves)).sum

/-- What is estimated beside the messages. -/
def toolFields (tools : List String) : List (String × Json ν) :=
  if tools.isEmpty then []
  else [("tools", .arr (tools.map definition)), ("tool_choice", .str "auto")]

def estimateMessagesInputTokens (input : RequestInput) (messages : List Message)
    (disableRepositoryInspectionTools : Bool) : Nat :=
  let tools := if input.toolsEnabled then
    resolveQwenToolsForRequest input disableRepositoryInspectionTools else []
  let serialized := jsonLength halves write
    (.obj (("messages", .arr (messages.map messageJson)) :: toolFields definition tools))
  (serialized + 2) / 3

def endpointMaxOutput (limits : EndpointLimits) (estimatedInputTokens : Nat) : Nat :=
  if limits.compactTargetInputTokens ≤ estimatedInputTokens then
    min limits.maxOutputTokens limits.highInputMaxOutputTokens
  else limits.maxOutputTokens

/-- `Math.max(0, totalTokens - estimatedInputTokens)`; the difference is whole when rounded. -/
def remainingEndpointOutputBudget (limits : EndpointLimits) (estimatedInputTokens : Nat) : Nat :=
  ⌊Double.minus limits.totalTokens estimatedInputTokens⌋.toNat

def endpointMaxOutputTokensForInput (limits : EndpointLimits) (estimatedInputTokens : Nat) : Nat :=
  min (endpointMaxOutput limits estimatedInputTokens)
    (remainingEndpointOutputBudget limits estimatedInputTokens)

def TokenOptions.configuredValues (options : TokenOptions) : List ℚ :=
  [readNumber options.maxTokens, readNumber options.maxOutputTokens].filterMap id

def TokenOptions.configured (options : TokenOptions) : Option ℚ := options.configuredValues.min?

def maxOutputTokensForBudget (options : TokenOptions) (budget : Option EndpointLimits)
    (estimatedInputTokens : Nat) : Option ℚ :=
  match budget with
  | none => options.configured
  | some limits =>
    let endpointCap := endpointMaxOutputTokensForInput limits estimatedInputTokens
    let requested := options.configured.getD limits.maxOutputTokens
    some (min requested endpointCap)

def minFinalizationOutputTokens : Nat := 512

/-- Why a request is not sent. -/
inductive RequestError where
  | noBaseUrl
  | noModel
  | inputBudgetExceeded (estimatedInputTokens maxInputTokens : Nat)
  | totalBudgetExceeded (estimatedInputTokens remainingOutputBudget : Nat)
deriving DecidableEq, Repr

def RequestError.message : RequestError → String
  | .noBaseUrl => "qwen-local-agent requires profile baseUrl or QWEN_BASE_URL"
  | .noModel =>
    "qwen-local-agent requires a model from profile defaultModel, options.model, or QWEN_MODEL"
  | .inputBudgetExceeded estimated limit =>
    "qwen-local-agent request estimate " ++ toString estimated ++
      " input token(s) exceeds endpoint input budget " ++ toString limit
  | .totalBudgetExceeded estimated remaining =>
    "qwen-local-agent request estimate " ++ toString estimated ++
      " input token(s) leaves only " ++ toString remaining ++
      " output token(s), below minimum " ++ toString minFinalizationOutputTokens

def RequestError.category : RequestError → String
  | .noBaseUrl => "transport"
  | .noModel => "model_not_found"
  | .inputBudgetExceeded .. | .totalBudgetExceeded .. => "context_length"

/-- The status in `providerMeta`. -/
def RequestError.status : RequestError → Option String
  | .noBaseUrl | .noModel => none
  | .inputBudgetExceeded .. => some "endpoint_input_budget_exceeded"
  | .totalBudgetExceeded .. => some "endpoint_total_budget_exceeded"

structure RequestBody where
  model : String
  messages : List Message
  stream : Bool
  tools : List String
  toolChoice : Option String
  temperature : Option ℚ
  maxTokens : Option Int
  topP : Option ℚ

def buildQwenLocalAgentRequestBody (input : RequestInput) (messages : List Message)
    (disableRepositoryInspectionTools : Bool) : Except RequestError RequestBody :=
  match input.baseUrl with
  | none => .error .noBaseUrl
  | some baseUrl =>
    let budget := endpointBudget input.options baseUrl
    let estimated := estimateMessagesInputTokens halves write definition input messages
      disableRepositoryInspectionTools
    match budget.filter fun limits => limits.maxInputTokens < estimated with
    | some limits => .error (.inputBudgetExceeded estimated limits.maxInputTokens)
    | none => match input.model with
      | none => .error .noModel
      | some model =>
        let tools := if input.toolsEnabled then
          resolveQwenToolsForRequest input disableRepositoryInspectionTools else []
        let maxTokens := maxOutputTokensForBudget input.options budget estimated
        let remaining := budget.map fun limits =>
          remainingEndpointOutputBudget limits estimated
        match remaining.filter fun remaining =>
            maxTokens.isSome ∧ remaining < minFinalizationOutputTokens with
        | some remaining => .error (.totalBudgetExceeded estimated remaining)
        | none =>
          .ok {
            model
            messages
            stream := false
            tools
            toolChoice := if tools.isEmpty then none else some "auto"
            temperature := readNumber input.options.temperature
            maxTokens := maxTokens.map Int.floor
            topP := readNumber input.options.topP }

end Requests

/-! ### Caps -/

section Caps

variable {options : TokenOptions} {limits : EndpointLimits} {baseUrl : BaseUrl} {estimated : Nat}

/-- The caps a body under a budget has to keep. -/
structure Safe (options : TokenOptions) (limits : EndpointLimits) (estimated : Nat)
    (maxTokens : Option Int) : Prop where
  input : estimated ≤ limits.maxInputTokens
  positive : ∀ m ∈ maxTokens, 1 ≤ m
  configured : ∀ m ∈ maxTokens, ∀ cap ∈ options.configuredValues, (m : ℚ) ≤ cap
  endpoint : ∀ m ∈ maxTokens, m ≤ limits.maxOutputTokens
  highInput : ∀ m ∈ maxTokens, limits.compactTargetInputTokens ≤ estimated →
    m ≤ limits.highInputMaxOutputTokens
  total : ∀ m ∈ maxTokens, estimated + m ≤ limits.totalTokens

def NoCapBelowOne (options : TokenOptions) : Prop := ∀ cap ∈ options.configuredValues, 1 ≤ cap

/-- What is left of the total is not rounded up, or another cap is no larger than it. -/
def FitsTotal (options : TokenOptions) (limits : EndpointLimits) (estimated : Nat) : Prop :=
  estimated + remainingEndpointOutputBudget limits estimated ≤ limits.totalTokens ∨
    estimated + endpointMaxOutput limits estimated ≤ limits.totalTokens ∨
    (estimated : ℚ) + options.configured.getD limits.maxOutputTokens < limits.totalTokens + 1

/-- The `max_tokens` of a body under a budget. -/
def granted (options : TokenOptions) (limits : EndpointLimits) (estimated : Nat) : Int :=
  ⌊min (options.configured.getD limits.maxOutputTokens)
    (endpointMaxOutputTokensForInput limits estimated : ℚ)⌋

theorem minus_natCast {a b : Nat} (left : a ≤ 2 ^ 53) (right : b ≤ 2 ^ 53) :
    Double.minus a b = (a - b : ℤ) := by
  have small : |(a - b : ℤ)| ≤ 2 ^ 53 := by
    rw [abs_le]
    constructor <;> omega
  have exact_ := Double.round_intCast small
  have cast : (a : ℚ) + -(b : ℚ) = ((a - b : ℤ) : ℚ) := by
    push_cast
    ring
  rw [Double.minus, Double.add, cast, exact_, Double.value]

theorem configured_le {cap : ℚ} (inside : cap ∈ options.configuredValues) :
    options.configured.getD limits.maxOutputTokens ≤ cap := by
  cases least : options.configured with
  | none =>
    rw [TokenOptions.configured, List.min?_eq_none_iff] at least
    rw [least] at inside
    cases inside
  | some value => exact (List.min?_eq_some_iff.mp least).2 cap inside

theorem one_le_configured (caps : NoCapBelowOne options) (positive : 1 ≤ limits.maxOutputTokens) :
    1 ≤ options.configured.getD limits.maxOutputTokens := by
  cases least : options.configured with
  | none => exact Nat.one_le_cast.mpr positive
  | some value => exact caps value (List.min?_eq_some_iff.mp least).1

theorem one_le_outputCap (caps : NoCapBelowOne options) {cap : Nat}
    (read : options.outputCap = some cap) : 1 ≤ cap := by
  obtain ⟨value, inside, readValue⟩ := List.exists_of_findSome?_eq_some read
  rw [readPositiveInteger] at readValue
  cases number : readNumber value with
  | none => simp [number] at readValue
  | some parsed =>
    have configured : parsed ∈ options.configuredValues := by
      rw [TokenOptions.configuredValues, List.mem_filterMap]
      refine ⟨some parsed, ?_, rfl⟩
      rcases List.mem_pair.mp inside with same | same <;> simp [← same, number]
    have whole : (1 : ℤ) ≤ ⌊parsed⌋ := Int.le_floor.mpr (by exact_mod_cast caps parsed configured)
    rw [number] at readValue
    dsimp only at readValue
    split at readValue
    · cases readValue
    · have same := Option.some.inj readValue
      omega

theorem capPositiveInteger_pos {current : Nat} {cap : Option Nat} (positive : 1 ≤ current)
    (caps : ∀ c, cap = some c → 1 ≤ c) : 1 ≤ capPositiveInteger current cap := by
  cases cap with
  | none => exact positive
  | some c => exact le_min positive (caps c rfl)

theorem localEndpointBudgets_pos {port : String} {base : EndpointLimits}
    (found : localEndpointBudgets.lookup port = some base) :
    1 ≤ base.maxOutputTokens ∧ 1 ≤ base.highInputMaxOutputTokens := by
  simp only [localEndpointBudgets, List.lookup_cons, List.lookup_nil] at found
  split at found
  · rw [← Option.some.inj found]
    decide
  · split at found
    · rw [← Option.some.inj found]
      decide
    · cases found

theorem outputs_pos (caps : NoCapBelowOne options)
    (budget : endpointBudget options baseUrl = some limits) :
    1 ≤ limits.maxOutputTokens ∧ 1 ≤ limits.highInputMaxOutputTokens := by
  have cap (c : Nat) : options.outputCap = some c → 1 ≤ c := one_le_outputCap caps
  rw [endpointBudget, applyEndpointBudgetCaps] at budget
  dsimp only at budget
  split at budget
  · cases budget
  · have base_pos : 1 ≤ ((baseUrl.port.bind fun port => localEndpointBudgets.lookup port).getD
          (defaultLimits options.contextCap options.outputCap)).maxOutputTokens ∧
        1 ≤ ((baseUrl.port.bind fun port => localEndpointBudgets.lookup port).getD
          (defaultLimits options.contextCap options.outputCap)).highInputMaxOutputTokens := by
      cases found : baseUrl.port.bind fun port => localEndpointBudgets.lookup port with
      | some base =>
        obtain ⟨port, _, lookup⟩ := Option.bind_eq_some_iff.mp found
        exact localEndpointBudgets_pos lookup
      | none =>
        have positive : 1 ≤ options.outputCap.getD maxSafeInteger := by
          cases read : options.outputCap with
          | none => decide
          | some c => exact cap c read
        exact ⟨positive, positive⟩
    rw [← Option.some.inj budget]
    exact ⟨capPositiveInteger_pos base_pos.1 cap, capPositiveInteger_pos base_pos.2 cap⟩

theorem granted_le : granted options limits estimated ≤
    (endpointMaxOutputTokensForInput limits estimated : ℤ) := by
  rw [granted]
  exact_mod_cast Int.floor_le_floor (min_le_right _ _) |>.trans_eq (Int.floor_natCast _)

theorem granted_total_iff : estimated + granted options limits estimated ≤ limits.totalTokens ↔
    FitsTotal options limits estimated := by
  have below : estimated + granted options limits estimated ≤ limits.totalTokens ↔
      min (options.configured.getD limits.maxOutputTokens)
        (endpointMaxOutputTokensForInput limits estimated : ℚ) <
          ((limits.totalTokens - estimated + 1 : ℤ) : ℚ) := by
    rw [← Int.floor_lt, ← granted]
    omega
  rw [below, endpointMaxOutputTokensForInput, min_lt_iff, FitsTotal, Nat.cast_min, min_lt_iff]
  have whole (n : Nat) : (n : ℚ) < ((limits.totalTokens - estimated + 1 : ℤ) : ℚ) ↔
      estimated + n ≤ limits.totalTokens := by
    rw [← Int.cast_natCast n, Int.cast_lt]
    omega
  have fraction (q : ℚ) : q < ((limits.totalTokens - estimated + 1 : ℤ) : ℚ) ↔
      (estimated : ℚ) + q < limits.totalTokens + 1 := by
    push_cast
    constructor <;> intro small <;> linarith
  rw [whole, whole, fraction]
  tauto

theorem fitsTotal_of_le (whole : limits.totalTokens ≤ 2 ^ 53)
    (within : estimated ≤ limits.totalTokens) : FitsTotal options limits estimated := by
  have difference := minus_natCast whole (within.trans whole)
  refine .inl ?_
  rw [remainingEndpointOutputBudget, difference, Int.floor_intCast]
  omega

/-- The caps are kept exactly where none is below one and the total is not rounded over. -/
theorem safe_granted_iff (budget : endpointBudget options baseUrl = some limits)
    (input : estimated ≤ limits.maxInputTokens)
    (remaining : minFinalizationOutputTokens ≤ remainingEndpointOutputBudget limits estimated) :
    Safe options limits estimated (some (granted options limits estimated)) ↔
      NoCapBelowOne options ∧ FitsTotal options limits estimated := by
  have configured (cap : ℚ) (inside : cap ∈ options.configuredValues) :
      (granted options limits estimated : ℚ) ≤ cap :=
    (Int.floor_le _).trans ((min_le_left _ _).trans (configured_le inside))
  constructor
  · intro safe
    refine ⟨fun cap inside => ?_, granted_total_iff.mp (safe.total _ rfl)⟩
    have one : ((1 : ℤ) : ℚ) ≤ granted options limits estimated :=
      Int.cast_le.mpr (safe.positive _ rfl)
    exact_mod_cast one.trans (configured cap inside)
  · rintro ⟨caps, fits⟩
    obtain ⟨outputs, highOutputs⟩ := outputs_pos caps budget
    have endpoint : endpointMaxOutput limits estimated ≤ limits.maxOutputTokens := by
      rw [endpointMaxOutput]
      split
      · exact min_le_left _ _
      · exact le_rfl
    have endpoint_pos : 1 ≤ endpointMaxOutput limits estimated := by
      rw [endpointMaxOutput]
      split
      · exact le_min outputs highOutputs
      · exact outputs
    have bounded : granted options limits estimated ≤ (endpointMaxOutput limits estimated : ℤ) :=
      granted_le.trans (Int.ofNat_le.mpr (min_le_left _ _))
    have remaining_pos : 1 ≤ remainingEndpointOutputBudget limits estimated :=
      le_trans (by decide) remaining
    constructor
    · exact input
    · rintro _ ⟨⟩
      refine Int.le_floor.mpr (le_min ?_ ?_)
      · exact_mod_cast one_le_configured caps outputs
      · exact_mod_cast le_min endpoint_pos remaining_pos
    · rintro _ ⟨⟩
      exact configured
    · rintro _ ⟨⟩
      exact bounded.trans (Int.ofNat_le.mpr endpoint)
    · rintro _ ⟨⟩ high
      refine bounded.trans (Int.ofNat_le.mpr ?_)
      rw [endpointMaxOutput, if_pos high]
      exact min_le_right _ _
    · rintro _ ⟨⟩
      exact granted_total_iff.mpr fits

end Caps

/-! ### Bodies -/

section Bodies

variable {halves : Halves} {write : ν → List Char} {definition : String → Json ν} {input : RequestInput}
  {messages : List Message} {disable : Bool} {baseUrl : BaseUrl} {limits : EndpointLimits}

/-- A body is returned: there is a model, and the estimate leaves room for an answer. -/
def Accepted (input : RequestInput) (limits : EndpointLimits) (estimated : Nat) : Prop :=
  input.model.isSome ∧ estimated ≤ limits.maxInputTokens ∧
    minFinalizationOutputTokens ≤ remainingEndpointOutputBudget limits estimated

theorem build_of_accepted (url : input.baseUrl = some baseUrl)
    (budget : endpointBudget input.options baseUrl = some limits)
    (accepted : Accepted input limits
      (estimateMessagesInputTokens halves write definition input messages disable)) :
    ∃ body, buildQwenLocalAgentRequestBody halves write definition input messages disable = .ok body ∧
      body.maxTokens = some (granted input.options limits
        (estimateMessagesInputTokens halves write definition input messages disable)) := by
  obtain ⟨model, inside, remaining⟩ := accepted
  obtain ⟨name, model⟩ := Option.isSome_iff_exists.mp model
  rw [buildQwenLocalAgentRequestBody]
  simp only [url, budget, model, Option.filter_some, not_lt.mpr inside, decide_false,
    Bool.false_eq_true, if_false, Option.map_some, not_lt.mpr remaining, and_false]
  exact ⟨_, rfl, rfl⟩

theorem accepted_of_build {body : RequestBody} (url : input.baseUrl = some baseUrl)
    (budget : endpointBudget input.options baseUrl = some limits)
    (built : buildQwenLocalAgentRequestBody halves write definition input messages disable = .ok body) :
    Accepted input limits
      (estimateMessagesInputTokens halves write definition input messages disable) := by
  rw [buildQwenLocalAgentRequestBody] at built
  simp only [url, budget, Option.filter_some, Option.map_some, maxOutputTokensForBudget,
    Option.isSome_some, true_and] at built
  split at built
  · cases built
  · rename_i inside
    split at built
    · cases built
    · rename_i model
      split at built
      · cases built
      · rename_i remaining
        simp only [ite_eq_right_iff, reduceCtorEq, imp_false, decide_eq_true_eq, not_lt]
          at inside remaining
        exact ⟨by rw [model]; rfl, inside, remaining⟩

/-- Whatever body is returned keeps every cap, exactly under the condition on the caps. -/
theorem safe_iff (url : input.baseUrl = some baseUrl)
    (budget : endpointBudget input.options baseUrl = some limits) :
    (∀ body, buildQwenLocalAgentRequestBody halves write definition input messages disable = .ok body →
        Safe input.options limits
          (estimateMessagesInputTokens halves write definition input messages disable) body.maxTokens) ↔
      (Accepted input limits (estimateMessagesInputTokens halves write definition input messages disable) →
        NoCapBelowOne input.options ∧ FitsTotal input.options limits
          (estimateMessagesInputTokens halves write definition input messages disable)) := by
  constructor
  · intro safe accepted
    obtain ⟨body, built, maxTokens⟩ := build_of_accepted url budget accepted
    have kept := safe body built
    rw [maxTokens] at kept
    exact (safe_granted_iff budget accepted.2.1 accepted.2.2).mp kept
  · intro condition body built
    have accepted := accepted_of_build url budget built
    obtain ⟨other, same, maxTokens⟩ := build_of_accepted url budget accepted
    cases Except.ok.inj (built.symm.trans same)
    rw [maxTokens]
    exact (safe_granted_iff budget accepted.2.1 accepted.2.2).mpr (condition accepted)

end Bodies

/-! ### Compactions -/

section Compactions

variable (halves : Halves) (write : ν → List Char) (definition : String → Json ν)

/-- A message of a list, with a comma. -/
def messageCost (message : Message) : Nat := jsonLength halves write (messageJson message) + 1

theorem jsonLength_arr (items : List (Json ν)) :
    jsonLength halves write (.arr items) =
      2 + ((items.map fun item => jsonLength halves write item + 1).sum - 1) := by
  have opening : writtenUnits halves '[' = 1 := writtenUnits_ascii (by decide)
  have closing : writtenUnits halves ']' = 1 := writtenUnits_ascii (by decide)
  have comma : writtenUnits halves ',' = 1 := writtenUnits_ascii (by decide)
  rw [jsonLength, Json.stringify, Json.stringifyItems_eq]
  simp only [List.cons_append, List.map_cons, List.map_append, List.map_nil, List.sum_cons,
    List.sum_append, List.sum_nil, opening, closing]
  by_cases none_ : items = []
  · simp [none_]
  · have texts : items.map (Json.stringify write) ≠ [] := by simpa using none_
    have counted := sum_intercalate (writtenUnits halves) [','] texts
    rw [List.map_singleton, List.sum_singleton, comma, List.map_map] at counted
    change _ = (items.map fun item => jsonLength halves write item + 1).sum at counted
    omega

theorem messageCost_user (content : String) :
    messageCost halves write (.user content) = 29 + escapedLength halves content := by
  have opening : (("\x7b\"role\":\"user\",\"content\":\"".toList).map (writtenUnits halves)).sum =
      26 := by
    rw [sum_writtenUnits_ascii (by decide)]
    decide
  have closing : (['"', '\x7d'].map (writtenUnits halves)).sum = 2 :=
    sum_writtenUnits_ascii (by decide)
  have same : Json.stringify write (messageJson (.user content)) =
      "\x7b\"role\":\"user\",\"content\":\"".toList ++ Json.escape content.toList ++
        ['"', '\x7d'] := by
    simp [messageJson, Json.stringify, Json.stringifyFields, Json.quote, Json.escape,
      Json.escapeChar]
  rw [messageCost, jsonLength, same, List.map_append, List.map_append, List.sum_append,
    List.sum_append, opening, closing, sum_escape, ← escapedLength]
  omega

theorem jsonLength_obj_cons (key : String) (value value' : Json ν)
    (fields : List (String × Json ν)) :
    jsonLength halves write (.obj ((key, value) :: fields)) + jsonLength halves write value' =
      jsonLength halves write (.obj ((key, value') :: fields)) + jsonLength halves write value := by
  simp only [jsonLength, Json.stringify, Json.stringifyFields, List.cons_append, List.append_assoc,
    List.map_cons, List.map_append, List.sum_cons, List.sum_append]
  omega

variable (input : RequestInput) (messages : List Message) (disable : Bool)

/-- The length of the request without messages. -/
def emptyLength : Nat :=
  jsonLength halves write (.obj (("messages", .arr []) :: toolFields definition
    (if input.toolsEnabled then resolveQwenToolsForRequest input disable else [])))

theorem estimate_eq : estimateMessagesInputTokens halves write definition input messages disable =
    (emptyLength halves write definition input disable +
      ((messages.map (messageCost halves write)).sum - 1) + 2) / 3 := by
  have empty : jsonLength halves write (.arr []) = 2 := by
    rw [jsonLength_arr]
    rfl
  have first := jsonLength_obj_cons halves write "messages" (.arr (messages.map messageJson)) (.arr [])
    (toolFields definition
      (if input.toolsEnabled then resolveQwenToolsForRequest input disable else []))
  rw [empty, jsonLength_arr, List.map_map] at first
  have cost : (messages.map (messageCost halves write)).sum =
      (messages.map ((fun item => jsonLength halves write item + 1) ∘ messageJson)).sum := rfl
  rw [estimateMessagesInputTokens, emptyLength, cost]
  omega

/-- The message a compaction keeps. -/
def keptMessage : Option Message := (messages.find? Message.isSystem).or messages.head?

/-- The messages a compaction replaces. -/
def replacedMessages : List Message :=
  match keptMessage messages with
  | some kept => messages.erase kept
  | none => []

theorem messageCosts (messages : List Message) : (messages.map (messageCost halves write)).sum =
    ((keptMessage messages).toList.map (messageCost halves write)).sum +
      ((replacedMessages messages).map (messageCost halves write)).sum := by
  rw [replacedMessages]
  cases kept : keptMessage messages with
  | none =>
    have nil : messages = [] := by
      rw [keptMessage, Option.or_eq_none_iff] at kept
      exact List.head?_eq_none_iff.mp kept.2
    rw [nil]
    rfl
  | some message =>
    have inside : message ∈ messages := by
      rw [keptMessage, Option.or_eq_some_iff] at kept
      rcases kept with found | ⟨_, first⟩
      · exact List.mem_of_find?_eq_some found
      · exact List.mem_of_mem_head? first
    rw [((List.perm_cons_erase inside).map (messageCost halves write)).sum_eq]
    simp

section Message

variable (numberText : ℚ → String) (host : Host World ν) (units : List AuditEvidenceUnit)
  (reason : CompactionReason) (budget : EndpointBudget)

/-- The compact message takes no more than the messages it replaces, in blocks of three characters
with the rest of the request. -/
def CompactionShrinks : Prop :=
  let rest := emptyLength halves write definition input disable +
    ((keptMessage messages).toList.map (messageCost halves write)).sum
  let compact := 29 + compactLength halves numberText input.run (originalPrompt input.run messages)
    units reason budget
  let replaced := ((replacedMessages messages).map (messageCost halves write)).sum
  (rest + compact + 1) / 3 ≤ (rest + replaced + 1) / 3

theorem two_le_emptyLength : 2 ≤ emptyLength halves write definition input disable := by
  have opening : writtenUnits halves '{' = 1 := writtenUnits_ascii (by decide)
  have closing : writtenUnits halves '}' = 1 := writtenUnits_ascii (by decide)
  simp only [emptyLength, jsonLength, Json.stringify, List.cons_append, List.map_cons,
    List.map_append, List.map_nil, List.sum_cons, List.sum_append, List.sum_nil, opening, closing]
  omega

theorem estimate_compact_le_iff :
    estimateMessagesInputTokens halves write definition input
        (compactMessagesForEndpointBudget (cutting halves numberText host) input.run messages units
          reason budget) disable ≤
      estimateMessagesInputTokens halves write definition input messages disable ↔
    CompactionShrinks halves write definition input messages disable numberText units reason
      budget := by
  have costs := messageCosts halves write messages
  have some_ := two_le_emptyLength halves write definition input disable
  rw [estimate_eq, estimate_eq, compactMessagesForEndpointBudget, CompactionShrinks]
  rw [← keptMessage, List.map_append, List.sum_append, List.map_cons, List.map_nil, List.sum_cons,
    List.sum_nil, messageCost_user, escapedLength_compactUserText, costs]
  by_cases none_ : messages = []
  · have nil : replacedMessages messages = [] ∧ keptMessage messages = none := by
      rw [none_]
      exact ⟨rfl, rfl⟩
    rw [nil.1, nil.2]
    simp only [Option.toList_none, List.map_nil, List.sum_nil]
    omega
  · have one : 1 ≤ ((keptMessage messages).toList.map (messageCost halves write)).sum +
        ((replacedMessages messages).map (messageCost halves write)).sum := by
      rw [← costs]
      obtain ⟨message, rest, same⟩ := List.exists_cons_of_ne_nil none_
      rw [same, List.map_cons, List.sum_cons, messageCost]
      omega
    omega

end Message

end Compactions

/-! ### The budget of a request -/

/-- A request under a budget and a compaction of its transcript are safe exactly where no cap of
the output is below one, the total is not rounded over, and the compact message is not longer
than what it replaces. -/
theorem budgets_safe_iff (halves : Halves) (write : ν → List Char) (definition : String → Json ν)
    (numberText : ℚ → String) (host : Host World ν) (input : RequestInput)
    (messages : List Message) (disable : Bool) (units : List AuditEvidenceUnit)
    (reason : CompactionReason) {baseUrl : BaseUrl} {limits : EndpointLimits}
    (url : input.baseUrl = some baseUrl)
    (budget : endpointBudget input.options baseUrl = some limits) :
    ((∀ body,
        buildQwenLocalAgentRequestBody halves write definition input messages disable = .ok body →
        Safe input.options limits
          (estimateMessagesInputTokens halves write definition input messages disable)
          body.maxTokens) ∧
      estimateMessagesInputTokens halves write definition input
          (compactMessagesForEndpointBudget (cutting halves numberText host) input.run messages units
            reason limits.toEndpointBudget) disable ≤
        estimateMessagesInputTokens halves write definition input messages disable) ↔
    (Accepted input limits
        (estimateMessagesInputTokens halves write definition input messages disable) →
      NoCapBelowOne input.options ∧ FitsTotal input.options limits
        (estimateMessagesInputTokens halves write definition input messages disable)) ∧
      CompactionShrinks halves write definition input messages disable numberText units reason
        limits.toEndpointBudget :=
  and_congr (safe_iff url budget)
    (estimate_compact_le_iff halves write definition input messages disable numberText host units
      reason limits.toEndpointBudget)

def noTokenOptions : TokenOptions :=
  ⟨none, none, none, none, none, none, none, none⟩

def localBaseUrl : BaseUrl := ⟨"http://localhost:8003/v1", some "8003"⟩

/-- A request to the first local endpoint, without tools. -/
def localRequest (options : TokenOptions) : RequestInput where
  run :=
    { scriptedInput with
      budget := (endpointBudget options localBaseUrl).map EndpointLimits.toEndpointBudget }
  baseUrl := some localBaseUrl
  model := some "qwen"
  toolsEnabled := false
  options := options
  budget_run := rfl

/-- What a transcript is estimated at, without tools. -/
def estimatedTokens (options : TokenOptions) (messages : List Message) : Nat :=
  estimateMessagesInputTokens privateHalves Json.decimalNumbers.write (fun _ => .null)
    (localRequest options) messages false

/-- A transcript of some letters. -/
def letterTranscript (n : Nat) : List Message :=
  [.system "Be brief.", .user (String.ofList (List.replicate n 'a'))]

theorem escapedLength_letters (n : Nat) :
    escapedLength privateHalves (String.ofList (List.replicate n 'a')) = n := by
  rw [escapedLength, String.toList_ofList, charsLength_plain, List.length_replicate]
  intro c inside
  rw [List.eq_of_mem_replicate inside]
  decide

theorem replacedMessages_letterTranscript (n : Nat) :
    replacedMessages (letterTranscript n) = [.user (String.ofList (List.replicate n 'a'))] := by
  have kept : keptMessage (letterTranscript n) = some (.system "Be brief.") := rfl
  rw [replacedMessages, kept]
  exact List.erase_cons_head _ _

/-- With the endpoint's own caps a body is safe, and a transcript of two thousand letters is
estimated lower when it is compacted. -/
theorem budgets_safe_of_long_transcript :
    (∀ body, buildQwenLocalAgentRequestBody privateHalves Json.decimalNumbers.write
          (fun _ => .null) (localRequest noTokenOptions) (letterTranscript 2000) false = .ok body →
        Safe noTokenOptions limits8003 (estimatedTokens noTokenOptions (letterTranscript 2000))
          body.maxTokens) ∧
      estimatedTokens noTokenOptions (compactMessagesForEndpointBudget
          (cutting privateHalves (fun q => toString ⌊q⌋) scriptedHost)
          (localRequest noTokenOptions).run (letterTranscript 2000) [] .endpointInputSoftBudget
          limits8003.toEndpointBudget) ≤
        estimatedTokens noTokenOptions (letterTranscript 2000) := by
  have budget : endpointBudget noTokenOptions localBaseUrl = some limits8003 := by decide +kernel
  have length : compactLength privateHalves (fun q => toString ⌊q⌋)
      (localRequest noTokenOptions).run "Check the tree." [] .endpointInputSoftBudget
      limits8003.toEndpointBudget ≤ 1000 := by decide +kernel
  have prompt : originalPrompt (localRequest noTokenOptions).run (letterTranscript 2000) =
      "Check the tree." := by
    rw [originalPrompt, if_neg (by decide)]
    rfl
  refine (budgets_safe_iff privateHalves Json.decimalNumbers.write (fun _ => .null)
    (fun q => toString ⌊q⌋) scriptedHost (localRequest noTokenOptions) (letterTranscript 2000) false
    [] .endpointInputSoftBudget rfl budget).mpr ⟨fun accepted => ⟨?_, ?_⟩, ?_⟩
  · intro cap inside
    cases inside
  · exact fitsTotal_of_le (by decide) (accepted.2.1.trans (by decide))
  · rw [CompactionShrinks, replacedMessages_letterTranscript, List.map_singleton,
      List.sum_singleton, messageCost_user, escapedLength_letters, prompt]
    omega

def shortTranscript : List Message := [.system "Be brief.", .user "Hi."]

def zeroOutput : TokenOptions := { noTokenOptions with maxTokens := some (.finite 0) }

/-- With `maxTokens: 0` the body is sent, and asks for no token at all. -/
theorem zero_output_not_safe :
    ¬ ∀ body, buildQwenLocalAgentRequestBody privateHalves Json.decimalNumbers.write
          (fun _ => .null) (localRequest zeroOutput) shortTranscript false = .ok body →
        Safe zeroOutput
          { limits8003 with maxOutputTokens := 0, highInputMaxOutputTokens := 0 }
          (estimatedTokens zeroOutput shortTranscript) body.maxTokens := by
  intro safe
  have budget : endpointBudget zeroOutput localBaseUrl =
      some { limits8003 with maxOutputTokens := 0, highInputMaxOutputTokens := 0 } := by
    decide +kernel
  have accepted : Accepted (localRequest zeroOutput)
      { limits8003 with maxOutputTokens := 0, highInputMaxOutputTokens := 0 }
      (estimatedTokens zeroOutput shortTranscript) := by
    have estimated : estimatedTokens zeroOutput shortTranscript = 29 := by
      rw [estimatedTokens, estimate_eq]
      decide
    have left : (24000 : ℕ) ≤ 2 ^ 53 := by decide
    have remaining := minus_natCast left (show 29 ≤ 2 ^ 53 by decide)
    refine ⟨rfl, ?_, ?_⟩
    · rw [estimated]
      decide
    · rw [estimated, remainingEndpointOutputBudget]
      change minFinalizationOutputTokens ≤ ⌊Double.minus (24000 : ℕ) (29 : ℕ)⌋.toNat
      rw [remaining, Int.floor_intCast]
      decide
  have caps := ((safe_iff rfl budget).mp safe accepted).1
  have zero : (0 : ℚ) ∈ zeroOutput.configuredValues := by
    simp [TokenOptions.configuredValues, zeroOutput, noTokenOptions, readNumber]
  exact absurd (caps 0 zero) (by norm_num)

end AifHandoff.Runtime.TokenBudgets
