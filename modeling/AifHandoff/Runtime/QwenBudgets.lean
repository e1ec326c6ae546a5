import AifHandoff.Runtime.QwenTranscript

/-!
The bounds of the tool loop (`runtime/adapters/qwenLocalAgent/api.ts`).
-/

namespace AifHandoff.Runtime

open StopLoop

variable {World ν : Type}

/-! ### What is counted -/

/-- A call of the model that was executed. -/
def Deed.executedCall? : Deed ν → Option (CallRecord ν)
  | .toolCall record => if record.executed then some record else none
  | _ => none

def executedCalls (deeds : List (Deed ν)) : List (CallRecord ν) :=
  deeds.filterMap Deed.executedCall?

def CallRecord.inspects (input : RunInput) (record : CallRecord ν) : Bool :=
  isRepositoryInspectionToolCall input record.call.name record.args

def CallRecord.signature (host : Host World ν) (input : RunInput) (record : CallRecord ν) : String :=
  buildToolCallFingerprint host input record.call.name record.args record.fileStates

/-- The same tool, the same target and arguments up to the order of keys and the spelling of paths,
and the same contents of the files the tool works on. -/
structure SameEffect (localeLe : String → String → Bool) (a b : CallRecord ν) : Prop where
  tool : a.call.name = b.call.name
  target : buildToolLoopTargetPath localeLe (sanitizeQwenToolNameForLog a.call.name) a.args =
    buildToolLoopTargetPath localeLe (sanitizeQwenToolNameForLog b.call.name) b.args
  arguments : normalizeToolLoopArgs localeLe (sanitizeQwenToolNameForLog a.call.name) a.args =
    normalizeToolLoopArgs localeLe (sanitizeQwenToolNameForLog b.call.name) b.args
  files : a.fileStates = b.fileStates

/-- A validation of a report that failed, by a call of the model or of the run. -/
def Deed.isFailedValidation : Deed ν → Bool
  | .toolCall record =>
    record.toolAllowed &&
      (auditReportValidationFailurePayload record.call.name record.result).isSome
  | .finalization toolName _ result =>
    (auditReportValidationFailurePayload toolName result).isSome
  | .request _ _ => false

def failedValidations (deeds : List (Deed ν)) : Nat := deeds.countP Deed.isFailedValidation

def requests (deeds : List (Deed ν)) : List (List Message × Option (Json ν)) :=
  deeds.filterMap Deed.request?

/-- The bounds of a run that has done `deeds`. -/
structure LoopBounds (localeLe : String → String → Bool) (input : RunInput)
    (deeds : List (Deed ν)) : Prop where
  requests : (requests deeds).length ≤ readMaxToolTurns input
  inspections : ∀ budget, readRepositoryInspectionToolBudget input = some budget →
    (executedCalls deeds).countP (CallRecord.inspects input) ≤ budget
  repeated : ∀ call ∈ executedCalls deeds,
    call.call.name ∈ nonconsecutiveSignatureLimitTools →
    ∀ group : List (CallRecord ν), group.Sublist (executedCalls deeds) →
      (∀ other ∈ group, SameEffect localeLe call other) →
      group.length ≤ toolCallLimit input call.call.name
  validations : input.workflowKind = "audit" →
    failedValidations deeds ≤ auditReportValidationFailurePassLimit

/-! ### Inspections and repeated calls -/

section Counts

variable (host : Host World ν) (input : RunInput) {s s' : LoopState World ν}

theorem SameEffect.signature {a b : CallRecord ν} (same : SameEffect host.localeLe a b) :
    a.signature host input = b.signature host input := by
  unfold CallRecord.signature buildToolCallFingerprint fingerprintInput
  dsimp only
  rw [same.target, same.arguments, same.files, same.tool]

/-- A call of the tool with the signature. -/
def CallRecord.matches (record : CallRecord ν) (toolName signature : String) : Bool :=
  record.call.name = toolName && record.signature host input = signature

/-- The counters are not below what was executed, and not above their limits. -/
structure Counted (s : LoopState World ν) : Prop where
  inspections : (executedCalls s.deeds).countP (CallRecord.inspects input) ≤
    s.repositoryInspectionToolCalls
  budget : ∀ budget, readRepositoryInspectionToolBudget input = some budget →
    s.repositoryInspectionToolCalls ≤ budget
  signatures : ∀ toolName signature,
    (executedCalls s.deeds).countP (CallRecord.matches host input · toolName signature) ≤
      s.toolCallSignatureCounts signature
  limits : ∀ toolName ∈ nonconsecutiveSignatureLimitTools, ∀ signature,
    (executedCalls s.deeds).countP (CallRecord.matches host input · toolName signature) ≤
      toolCallLimit input toolName

theorem Counted.of_finalizes {tools : List String} (counted : Counted host input s)
    (finalizes : Finalizes tools s s') : Counted host input s' := by
  obtain ⟨world, deeds, named, rfl⟩ := finalizes
  have none_ : executedCalls deeds = [] := by
    refine List.filterMap_eq_nil_iff.mpr fun deed inside => ?_
    have called : deed.finalizedTool? ∈ tools.map some := named ▸ List.mem_map_of_mem inside
    obtain ⟨tool, _, isTool⟩ := List.mem_map.mp called
    cases deed with
    | finalization toolName args result => rfl
    | request messages answer => cases isTool
    | toolCall record => cases isTool
  have same : executedCalls (s.deeds ++ deeds) = executedCalls s.deeds := by
    unfold executedCalls at *
    rw [List.filterMap_append, none_, List.append_nil]
  constructor
  · simpa only [same] using counted.inspections
  · exact counted.budget
  · simpa only [same] using counted.signatures
  · simpa only [same] using counted.limits

theorem Counted.quiet (counted : Counted host input s) (quiet : Quiet s s') :
    Counted host input s' := by
  constructor
  · rw [quiet.deeds, quiet.inspections]
    exact counted.inspections
  · rw [quiet.inspections]
    exact counted.budget
  · intro toolName signature
    rw [quiet.deeds]
    exact Nat.le_trans (counted.signatures toolName signature) (quiet.signatures signature)
  · rw [quiet.deeds]
    exact counted.limits

theorem repeatedLoop_eq_none {toolName signature : String}
    (goes : repeatedLoop input s toolName signature = none)
    (limited : toolName ∈ nonconsecutiveSignatureLimitTools) :
    s.toolCallSignatureCounts signature ≤ toolCallLimit input toolName := by
  have known : sanitizeQwenToolNameForLog toolName = toolName := by
    revert limited
    clear goes
    revert toolName
    decide
  unfold repeatedLoop at goes
  dsimp only at goes
  rw [known] at goes
  by_contra above
  rw [if_pos (by simp [limited, Nat.lt_of_not_le above])] at goes
  cases goes

theorem executedCalls_concat (deeds : List (Deed ν)) (record : CallRecord ν) :
    executedCalls (deeds ++ [.toolCall record]) =
      executedCalls deeds ++ if record.executed then [record] else [] := by
  unfold executedCalls
  rw [List.filterMap_append]
  cases executed : record.executed <;> simp [Deed.executedCall?, executed]

section Answered

variable {call : ToolCall} {args : Fields ν} {fileStates : List (Json ν)} {signature : String}

theorem settledState_executed_inspection
    (executed : (recordOf host input s call args fileStates signature).executed = true)
    (inspects : isRepositoryInspectionToolCall input call.name args = true) :
    (settledState host input s call args fileStates signature).repositoryInspectionToolCalls =
      s.repositoryInspectionToolCalls + 1 := by
  rw [recordOf_executed, Option.isNone_iff_eq_none] at executed
  rw [settledState_inspections]
  unfold denial at executed
  dsimp only at executed
  rw [inspects] at executed ⊢
  cases allowed : isQwenToolAllowedForWorkflow input.workflowKind call.name <;>
    cases exhausted : budgetExhausted input s <;>
    cases locked : s.auditLowQualityRepairLock <;>
    simp_all

theorem settledState_inspections_le :
    s.repositoryInspectionToolCalls ≤
      (settledState host input s call args fileStates signature).repositoryInspectionToolCalls := by
  rw [settledState_inspections]
  split
  · exact Nat.le_succ _
  · exact Nat.le_refl _

theorem settledState_budget {budget : Nat}
    (isBudget : readRepositoryInspectionToolBudget input = some budget)
    (within : s.repositoryInspectionToolCalls ≤ budget) :
    (settledState host input s call args fileStates signature).repositoryInspectionToolCalls ≤
      budget := by
  rw [settledState_inspections]
  split
  · rename_i counts
    have open_ : budgetExhausted input s = false := by
      simp only [Bool.and_eq_true, Bool.not_eq_true'] at counts
      exact counts.1.2
    rw [budgetExhausted, isBudget] at open_
    simp only [Option.any_some, decide_eq_false_iff_not, not_le] at open_
    exact open_
  · exact within

theorem settledState_matches_le
    (isSignature : buildToolCallFingerprint host input call.name args fileStates = signature)
    (toolName other : String) :
    (executedCalls (settledState host input s call args fileStates signature).deeds).countP
        (CallRecord.matches host input · toolName other) ≤
      (executedCalls s.deeds).countP (CallRecord.matches host input · toolName other) +
        if call.name = toolName ∧ signature = other then 1 else 0 := by
  rw [settledState_deeds, executedCalls_concat, List.countP_append]
  refine Nat.add_le_add_left ?_ _
  have own : CallRecord.matches host input
      (recordOf host input s call args fileStates signature) toolName other =
        decide (call.name = toolName ∧ signature = other) := by
    unfold CallRecord.matches
    rw [recordOf_call, show (recordOf host input s call args fileStates signature).signature host
      input = signature from isSignature, Bool.decide_and]
  split
  · rw [List.countP_singleton, own]
    by_cases same : call.name = toolName ∧ signature = other <;> simp [same]
  · exact Nat.zero_le _

/-- A call that is not blocked keeps the counters. -/
theorem Counted.settle (counted : Counted host input s)
    (isSignature : buildToolCallFingerprint host input call.name args fileStates = signature)
    (goes : repeatedLoop input (s.noteSignature signature) call.name signature = none) :
    Counted host input
      (settledState host input (s.noteSignature signature) call args fileStates signature) := by
  have noted := counted.quiet host input (quiet_noteSignature s signature)
  have own : (recordOf host input (s.noteSignature signature) call args fileStates
      signature).signature host input = signature := isSignature
  constructor
  · rw [settledState_deeds, executedCalls_concat, List.countP_append]
    by_cases executed : (recordOf host input (s.noteSignature signature) call args fileStates
      signature).executed = true
    · rw [if_pos executed, List.countP_singleton]
      by_cases inspects : isRepositoryInspectionToolCall input call.name args = true
      · rw [settledState_executed_inspection host input executed inspects]
        refine Nat.add_le_add noted.inspections ?_
        split <;> decide
      · change ¬CallRecord.inspects input (recordOf host input (s.noteSignature signature) call args
          fileStates signature) = true at inspects
        rw [if_neg inspects]
        exact Nat.le_trans noted.inspections (settledState_inspections_le host input)
    · rw [if_neg executed]
      exact Nat.le_trans noted.inspections (settledState_inspections_le host input)
  · intro budget isBudget
    exact settledState_budget host input isBudget (noted.budget budget isBudget)
  · intro toolName other
    refine Nat.le_trans (settledState_matches_le host input isSignature toolName other) ?_
    rw [settledState_signatureCounts]
    have before := counted.signatures toolName other
    change _ ≤ bump s.toolCallSignatureCounts signature other
    unfold bump
    by_cases same : other = signature
    · rw [if_pos same]
      refine Nat.add_le_add before ?_
      split <;> decide
    · rw [if_neg same, if_neg fun both => same both.2.symm]
      exact before
  · intro toolName limited other
    refine Nat.le_trans (settledState_matches_le host input isSignature toolName other) ?_
    by_cases same : call.name = toolName ∧ signature = other
    · -- the counter counts this call already, and it is not above the limit
      obtain ⟨rfl, rfl⟩ := same
      have within := repeatedLoop_eq_none input goes limited
      have before := counted.signatures call.name signature
      rw [if_pos ⟨rfl, rfl⟩]
      refine Nat.le_trans (Nat.succ_le_succ before) ?_
      change bump s.toolCallSignatureCounts signature signature ≤ _ at within
      rwa [bump, if_pos rfl] at within
    · rw [if_neg same]
      exact noted.limits toolName limited other

end Answered

theorem Counted.request {world : World} {messages : List Message} {answer : Option (Json ν)}
    (counted : Counted host input s) :
    Counted host input { s with world, deeds := s.deeds ++ [.request messages answer] } := by
  have calls : executedCalls (s.deeds ++ [.request messages answer]) = executedCalls s.deeds := by
    unfold executedCalls
    rw [List.filterMap_append]
    exact List.append_nil _
  constructor
  · simpa only [calls] using counted.inspections
  · exact counted.budget
  · simpa only [calls] using counted.signatures
  · simpa only [calls] using counted.limits

theorem counted_invariant : LoopInvariant host input (Counted host input) where
  quiet := fun counted quiet => counted.quiet host input quiet
  request := fun _ _ _ _ counted => counted.request host input
  finalizes := fun counted finalizes => counted.of_finalizes host input finalizes
  settle := fun counted isSignature goes => counted.settle host input isSignature goes

theorem counted_initial (world : World) : Counted (ν := ν) host input (initialState input world) :=
  ⟨Nat.le_refl _, fun _ _ => Nat.zero_le _, fun _ _ => Nat.zero_le _, fun _ _ _ => Nat.zero_le _⟩

end Counts

/-! ### Requests -/

section Requests

variable (host : Host World ν) (input : RunInput) {s s' : LoopState World ν}

theorem turnStep_posted (turn : Nat) :
    (turnStep host input s turn).1.posted.length ≤ s.posted.length + 1 := by
  unfold turnStep
  split
  · split
    · exact Nat.le_succ _
    · obtain ⟨tools, others, _, _, finalizes⟩ :=
        completeBudgetFinalizationFromExistingAuditReport_finalizes host input s
      dsimp only
      rw [finalizes.posted]
      exact Nat.le_succ _
  have requested := (request_state host (s := s.compact host input)).1
  have grown : ((s.compact host input).request host).1.posted.length = s.posted.length + 1 := by
    rw [requested, compact_posted, List.length_append, List.length_singleton]
  revert grown
  cases (s.compact host input).request host with
  | mk now answer =>
    intro grown
    cases answer with
    | none => exact Nat.le_of_eq grown
    | some payload =>
      dsimp only
      rw [(processResponse_transcript host input now payload).1]
      exact Nat.le_of_eq grown

theorem turns_posted (world : World) :
    (run (turnStep host input) (initialState input world)
      (List.range (readMaxToolTurns input))).1.posted.length ≤ readMaxToolTurns input := by
  have leads : Leads
      (fun now : LoopState World ν =>
        now.posted.length ≤ ([] ++ List.range (readMaxToolTurns input)).length)
      (fun now => now.posted.length ≤ readMaxToolTurns input)
      (run (turnStep host input) (initialState input world)
        (List.range (readMaxToolTurns input))) := by
    refine run_leads (fun done (now : LoopState World ν) => now.posted.length ≤ done.length) _ (Nat.le_refl _) ?_
    intro before turn now inside within
    have step := Nat.le_trans (turnStep_posted host input turn) (Nat.succ_le_succ within)
    have bound := inside.length_le
    rw [List.length_append, List.length_singleton] at bound
    rw [List.nil_append, List.length_range] at bound
    refine Leads.of_both ?_ (Nat.le_trans step bound)
    rw [List.length_append, List.length_singleton]
    exact step
  by_cases goes : (run (turnStep host input) (initialState input world)
      (List.range (readMaxToolTurns input))).2 = none
  · have within := leads.going goes
    rwa [List.nil_append, List.length_range] at within
  · exact leads.left goes

end Requests

/-! ### Failed validations -/

section Validations

variable (host : Host World ν) (input : RunInput) {s s' : LoopState World ν}

/-- Only a validation that the run makes by itself can fail one. -/
theorem Finalizes.failedValidations {tools : List String} (finalizes : Finalizes tools s s') :
    failedValidations s'.deeds ≤ failedValidations s.deeds + tools.count "validate_audit_report" := by
  obtain ⟨world, deeds, named, rfl⟩ := finalizes
  unfold AifHandoff.Runtime.failedValidations
  rw [List.countP_append]
  refine Nat.add_le_add_left ?_ _
  induction deeds generalizing tools with
  | nil => exact Nat.zero_le _
  | cons deed deeds ih =>
    cases tools with
    | nil => cases named
    | cons tool tools =>
      rw [List.map_cons, List.map_cons, List.cons.injEq] at named
      obtain ⟨isTool, named⟩ := named
      have later := ih named
      rw [List.countP_cons, List.count_cons]
      refine Nat.add_le_add later ?_
      cases deed with
      | request messages answer => cases isTool
      | toolCall record => cases isTool
      | finalization toolName args result =>
        cases isTool
        by_cases validates : tool = "validate_audit_report"
        · rw [validates, if_pos (beq_self_eq_true _)]
          split <;> decide
        · rw [if_neg]
          · exact Nat.zero_le _
          · simp [Deed.isFailedValidation, auditReportValidationFailurePayload, validates]

/-- The passes of a run that goes on, in an audit. -/
structure Passing (s : LoopState World ν) : Prop where
  counted : failedValidations s.deeds ≤ s.failedAuditReportValidationPasses
  few : s.failedAuditReportValidationPasses < auditReportValidationFailurePassLimit

/-- The passes of a run that has ended. -/
def Passed (s : LoopState World ν) : Prop :=
  failedValidations s.deeds ≤ auditReportValidationFailurePassLimit

theorem Passing.passed (passing : Passing s) : Passed s :=
  Nat.le_of_lt (Nat.lt_of_le_of_lt passing.counted passing.few)

theorem passed_of_existing (passing : Passing s) :
    Passed (completeBudgetFinalizationFromExistingAuditReport host input s).1 := by
  obtain ⟨tools, others, known, commits, finalizes⟩ :=
    completeBudgetFinalizationFromExistingAuditReport_finalizes host input s
  have one : tools.count "validate_audit_report" ≤ 1 := by
    rcases known with rfl | rfl | rfl <;> decide
  have none_ : others.count "validate_audit_report" = 0 :=
    List.count_eq_zero.mpr fun inside => absurd (commits inside) (by decide)
  have bound := finalizes.failedValidations
  rw [List.count_append, none_] at bound
  have counted := passing.counted
  have few := passing.few
  unfold Passed
  omega

theorem Passing.congr (passing : Passing s) (deeds : s'.deeds = s.deeds)
    (passes : s'.failedAuditReportValidationPasses = s.failedAuditReportValidationPasses) :
    Passing s' := by
  constructor
  · rw [deeds, passes]
    exact passing.counted
  · rw [passes]
    exact passing.few

theorem isFailedValidation_toolCall {record : CallRecord ν} (audit : input.workflowKind = "audit") :
    (Deed.toolCall record).isFailedValidation = (countedValidation input record).isSome := by
  unfold Deed.isFailedValidation countedValidation
  cases allowed : record.toolAllowed <;> simp [audit, allowed]

variable {call : ToolCall} {args : Fields ν} {fileStates : List (Json ν)} {signature : String}

/-- A call that has a result: the run goes on with fewer than four failed passes. -/
theorem settledState_passes (audit : input.workflowKind = "audit") (passing : Passing s) :
    Passed (settledState host input s call args fileStates signature) ∧
      (endAfterResult input (settledState host input s call args fileStates signature)
          (recordOf host input s call args fileStates signature) = none →
        Passing (settledState host input s call args fileStates signature)) := by
  have deeds : failedValidations
      (settledState host input s call args fileStates signature).deeds =
        failedValidations s.deeds + if (countedValidation input
          (recordOf host input s call args fileStates signature)).isSome then 1 else 0 := by
    unfold failedValidations
    rw [settledState_deeds, List.countP_append, List.countP_singleton,
      isFailedValidation_toolCall input audit]
  have counted := passing.counted
  have few := passing.few
  constructor
  · unfold Passed
    rw [deeds]
    split <;> omega
  · intro goes
    have passes := @settledState_failures World ν host input s call args fileStates signature
    unfold endAfterResult at goes
    by_cases violates : (recordOf host input s call args fileStates signature).result.policyViolation
        = true
    · rw [if_pos violates] at goes
      cases goes
    rw [if_neg violates] at goes
    unfold countedFailure at passes
    rw [if_neg violates] at passes
    cases failed : countedValidation input (recordOf host input s call args fileStates signature) with
    | none =>
      rw [failed] at passes deeds
      constructor
      · rw [deeds, passes]
        exact counted
      · rw [passes]
        exact few
    | some fingerprint =>
      rw [failed] at passes deeds goes
      constructor
      · rw [deeds, passes]
        exact Nat.succ_le_succ counted
      · -- the fourth failed pass would have ended the run
        by_contra many
        dsimp only at goes
        rw [if_pos (Nat.le_of_not_lt many)] at goes
        split at goes <;> cases goes

theorem answerToolCall_passes (audit : input.workflowKind = "audit") (passing : Passing s) :
    Leads Passing Passed (answerToolCall host input s call args fileStates signature) := by
  obtain ⟨passed, goesOn⟩ := @settledState_passes World ν host input s call args fileStates
    signature audit passing
  rcases answerToolCall_cases host input s call args fileStates signature with
    ⟨end_, _, ended⟩ | ⟨goes, content, denied, answered⟩
  · rw [ended]
    exact ⟨fun none_ => absurd none_ (by simp), fun _ => passed⟩
  · rw [answered]
    obtain ⟨tools, commits, finalizes, same⟩ := endAfterAnswer_finalizes host input
      ((settledState host input s call args fileStates signature).push
        (.tool call.id call.name content))
      (recordOf host input s call args fileStates signature) denied
    have pushed : Passing ((settledState host input s call args fileStates signature).push
        (.tool call.id call.name content)) := (goesOn goes).congr rfl rfl
    have none_ : tools.count "validate_audit_report" = 0 :=
      List.count_eq_zero.mpr fun inside => absurd (commits inside) (by decide)
    have bound := finalizes.failedValidations
    rw [none_] at bound
    constructor
    · intro _
      constructor
      · refine Nat.le_trans bound ?_
        obtain ⟨world, deeds, _, shape⟩ := finalizes
        rw [shape]
        exact pushed.counted
      · obtain ⟨world, deeds, _, shape⟩ := finalizes
        rw [shape]
        exact pushed.few
    · intro _
      exact Nat.le_trans bound pushed.passed

theorem processToolCall_passes (audit : input.workflowKind = "audit") (passing : Passing s)
    (call : ToolCall) : Leads Passing Passed (processToolCall host input s call) := by
  rcases processToolCall_cases host input s call with
    ⟨_, failed⟩ | ⟨args, _, ⟨end_, finalized⟩ | ⟨_, end_, _, blocked⟩ | ⟨_, answered⟩⟩
  · rw [failed]
    have same : Passing (answerParseFailure host s call) := passing.congr rfl rfl
    exact Leads.of_both same same.passed
  · rw [finalized]
    exact ⟨fun none_ => absurd none_ (by simp), fun _ => passed_of_existing host input passing⟩
  · rw [blocked]
    have same : Passing (s.noteSignature (signatureOf host input s call.name args)) :=
      passing.congr rfl rfl
    exact Leads.of_both same same.passed
  · rw [answered]
    exact answerToolCall_passes host input audit (passing.congr rfl rfl)

theorem processResponse_passes (audit : input.workflowKind = "audit") (passing : Passing s)
    (payload : Json ν) : Leads Passing Passed (processResponse host input s payload) := by
  unfold processResponse
  dsimp only
  split
  · exact Leads.of_both passing passing.passed
  have pushed : Passing (s.push (.assistant (filled (some (responseContent payload)))
      (responseToolCalls host payload))) := passing.congr rfl rfl
  have worked : Leads Passing Passed (run (processToolCall host input)
      (s.push (.assistant (filled (some (responseContent payload)))
        (responseToolCalls host payload))) (responseToolCalls host payload)) :=
    run_rule _ _ pushed fun call now _ holds => processToolCall_passes host input audit holds call
  revert worked
  cases run (processToolCall host input)
    (s.push (.assistant (filled (some (responseContent payload))) (responseToolCalls host payload)))
    (responseToolCalls host payload) with
  | mk now outcome =>
    intro worked
    cases outcome with
    | some end_ => exact worked
    | none =>
      have goes := worked.going rfl
      dsimp only
      split
      · exact ⟨fun none_ => absurd none_ (by simp), fun _ => passed_of_existing host input goes⟩
      · exact Leads.of_both goes goes.passed

theorem turnStep_passes (audit : input.workflowKind = "audit") (passing : Passing s) (turn : Nat) :
    Leads Passing Passed (turnStep host input s turn) := by
  unfold turnStep
  split
  · split
    · exact Leads.of_both passing passing.passed
    · exact ⟨fun none_ => absurd none_ (by simp), fun _ => passed_of_existing host input passing⟩
  have requested : Passing ((s.compact host input).request host).1 := by
    have compacted : Passing (s.compact host input) := by
      unfold LoopState.compact
      split
      · exact passing
      split
      · exact passing
      · exact passing.congr rfl rfl
    refine ⟨?_, compacted.few⟩
    change failedValidations ((s.compact host input).deeds ++ [.request _ _]) ≤ _
    unfold failedValidations
    rw [List.countP_append]
    exact compacted.counted
  revert requested
  cases (s.compact host input).request host with
  | mk now answer =>
    intro requested
    cases answer with
    | none => exact Leads.of_both requested requested.passed
    | some payload => exact processResponse_passes host input audit requested payload

end Validations

/-! ### The bounds -/

/-- Every run keeps the bounds, whatever the model and the tools do. -/
theorem loop_bounded (host : Host World ν) (input : RunInput) (world : World) :
    LoopBounds host.localeLe input (runQwenLocalAgentApi host input world).1.deeds := by
  have counted := (counted_invariant host input).run world (counted_initial host input world)
  rw [runQwenLocalAgentApi_state] at counted ⊢
  constructor
  · exact turns_posted host input world
  · intro budget isBudget
    exact Nat.le_trans counted.inspections (counted.budget budget isBudget)
  · intro call inside limited group sub same
    refine Nat.le_trans ?_ (counted.limits call.call.name limited (call.signature host input))
    have all : ∀ other ∈ group, CallRecord.matches host input other call.call.name
        (call.signature host input) = true := by
      intro other member
      have effect := same other member
      unfold CallRecord.matches
      rw [← effect.tool, ← effect.signature host input]
      simp
    rw [← List.countP_eq_length.mpr all]
    exact sub.countP_le
  · intro audit
    have passing : Passing (initialState (ν := ν) input world) := ⟨Nat.le_refl _, Nat.zero_lt_succ 3⟩
    have leads : Leads Passing Passed (run (turnStep host input) (initialState input world)
        (List.range (readMaxToolTurns input))) :=
      run_rule _ _ passing fun turn now _ holds => turnStep_passes host input audit holds turn
    by_cases goes : (run (turnStep host input) (initialState input world)
        (List.range (readMaxToolTurns input))).2 = none
    · exact (leads.going goes).passed
    · exact leads.left goes

/-! ### Calls with the same arguments -/

/-- A response with one call of a tool. -/
def oneCall (id toolName arguments : String) : Json Nat :=
  .obj [("choices", .arr [.obj [("message", .obj [("tool_calls", .arr [.obj
    [("id", .str id), ("function", .obj
      [("name", .str toolName), ("arguments", .str arguments)])]])])]])]

def commitArguments : String := "\x7b\"paths\":[\"a.md\"],\"message\":\"m\"\x7d"

/-- What a tool answers that succeeds. -/
def succeeded (output : String) : ToolResult Nat :=
  { (failedResult "" : ToolResult Nat) with ok := true, output, error := none, exitCode := none }

/-- Two commits of one file, with the same arguments; the file changed in between. -/
def twoCommits : List (Deed Nat) :=
  (runQwenLocalAgentApi scriptedHost scriptedInput
    ⟨[oneCall "a" "git_commit" commitArguments, oneCall "b" "git_commit" commitArguments, .obj []],
      [succeeded "one", succeeded "two"]⟩).1.deeds

theorem executedCalls_twoCommits :
    (executedCalls twoCommits).map (fun record => (record.call.name, record.call.arguments)) =
      [("git_commit", commitArguments), ("git_commit", commitArguments)] := by
  decide +kernel

/-- Calls with one and the same text of arguments are executed more often than the limit allows,
where the files have changed. -/
theorem same_arguments_executed_twice :
    ¬∀ call ∈ executedCalls twoCommits, call.call.name ∈ nonconsecutiveSignatureLimitTools →
      ∀ group : List (CallRecord Nat), group.Sublist (executedCalls twoCommits) →
        (∀ other ∈ group, other.call.name = call.call.name ∧
          other.call.arguments = call.call.arguments) →
        group.length ≤ toolCallLimit scriptedInput call.call.name := by
  intro bounded
  have same : ∀ record ∈ executedCalls twoCommits, record.call.name = "git_commit" ∧
      record.call.arguments = commitArguments := by
    intro record inside
    have pair : (record.call.name, record.call.arguments) ∈ (executedCalls twoCommits).map
        (fun record => (record.call.name, record.call.arguments)) := List.mem_map.mpr
      ⟨record, inside, rfl⟩
    rw [executedCalls_twoCommits] at pair
    rwa [List.mem_cons, List.mem_singleton, or_self, Prod.mk.injEq] at pair
  have two := congrArg List.length executedCalls_twoCommits
  rw [List.length_map] at two
  obtain ⟨call, inside⟩ : ∃ call, call ∈ executedCalls twoCommits :=
    List.exists_mem_of_length_pos (by rw [two]; exact Nat.zero_lt_two)
  have limited := bounded call inside (by rw [(same call inside).1]; decide)
    (executedCalls twoCommits) (List.Sublist.refl _) fun other member =>
      ⟨(same other member).1.trans (same call inside).1.symm,
        (same other member).2.trans (same call inside).2.symm⟩
  rw [two, (same call inside).1] at limited
  revert limited
  decide

end AifHandoff.Runtime
