import AifHandoff.Lib.JsonTexts
import AifHandoff.Runtime.QwenLoop
import Mathlib.Data.String.Basic

/-!
What the steps of the tool loop do to its state.

Each lemma states everything one function of the loop can do, so that the invariants of a run need
not look into it again.
-/

namespace AifHandoff.Runtime

open StopLoop

variable {World ν : Type} {host : Host World ν} {input : RunInput} {s s' s'' : LoopState World ν}

/-! ### Calls at the end -/

def Deed.finalizedTool? : Deed ν → Option String
  | .finalization toolName _ _ => some toolName
  | _ => none

/-- The run called these tools by itself, and nothing else happened. -/
def Finalizes (tools : List String) (s s' : LoopState World ν) : Prop :=
  ∃ world deeds, deeds.map Deed.finalizedTool? = tools.map some ∧
    s' = { s with world, deeds := s.deeds ++ deeds }

theorem Finalizes.refl (s : LoopState World ν) : Finalizes [] s s :=
  ⟨s.world, [], rfl, by rw [List.append_nil]⟩

theorem Finalizes.trans {tools others : List String} (first : Finalizes tools s s')
    (second : Finalizes others s' s'') : Finalizes (tools ++ others) s s'' := by
  obtain ⟨world, deeds, named, rfl⟩ := first
  obtain ⟨world', deeds', named', rfl⟩ := second
  refine ⟨world', deeds ++ deeds', ?_, ?_⟩
  · rw [List.map_append, List.map_append, named, named']
  · rw [List.append_assoc]

theorem finalize_finalizes (host : Host World ν) (toolName : String) (args : Fields ν) :
    Finalizes [toolName] s (s.finalize host toolName args).1 :=
  ⟨_, [.finalization toolName args _], rfl, rfl⟩

theorem completeBudgetFinalizedAuditReport_finalizes (host : Host World ν) (input : RunInput) 
    (s : LoopState World ν) (args : Fields ν) :
    ∃ tools, tools ⊆ ["git_commit"] ∧
      Finalizes tools s (completeBudgetFinalizedAuditReport host input s args).1 := by
  have nothing : ∃ tools, tools ⊆ ["git_commit"] ∧ Finalizes tools s s :=
    ⟨[], List.nil_subset _, Finalizes.refl s⟩
  unfold completeBudgetFinalizedAuditReport
  dsimp only
  split
  · exact nothing
  · rename_i artifactPath _
    by_cases aborted : host.aborted s.world = true
    · rw [if_pos aborted]
      exact nothing
    rw [if_neg aborted]
    refine ⟨["git_commit"], List.Subset.refl _, ?_⟩
    split <;> exact finalize_finalizes host "git_commit" _

theorem completeBudgetFinalizationFromExistingAuditReport_finalizes (host : Host World ν) (input : RunInput) 
    (s : LoopState World ν) :
    ∃ tools others, (tools = [] ∨ tools = ["finalize_audit_report_manifest"] ∨
        tools = ["finalize_audit_report_manifest", "validate_audit_report"]) ∧
      others ⊆ ["git_commit"] ∧
      Finalizes (tools ++ others) s
        (completeBudgetFinalizationFromExistingAuditReport host input s).1 := by
  unfold completeBudgetFinalizationFromExistingAuditReport
  dsimp only
  by_cases aborted : host.aborted s.world = true
  · rw [if_pos aborted]
    exact ⟨[], [], .inl rfl, List.nil_subset _, Finalizes.refl s⟩
  rw [if_neg aborted]
  split
  · exact ⟨[], [], .inl rfl, List.nil_subset _, Finalizes.refl s⟩
  · rename_i artifactPath _
    have finalized := finalize_finalizes (s := s) host "finalize_audit_report_manifest"
      [("path", .str artifactPath)]
    split
    · exact ⟨_, [], .inr (.inl rfl), List.nil_subset _, finalized⟩
    have validated := finalized.trans (finalize_finalizes host "validate_audit_report"
      [("path", .str artifactPath)])
    split
    · exact ⟨_, [], .inr (.inr rfl), List.nil_subset _, validated⟩
    split
    · obtain ⟨others, commits, committed⟩ :=
        completeBudgetFinalizedAuditReport_finalizes host input _
          [("path", .str artifactPath)]
      exact ⟨_, others, .inr (.inr rfl), commits, validated.trans committed⟩
    · exact ⟨_, [], .inr (.inr rfl), List.nil_subset _, validated⟩

/-! ### Calls of the model -/

/-- The signature of a call in a state. -/
def signatureOf (host : Host World ν) (input : RunInput) (s : LoopState World ν)
    (toolName : String) (args : Fields ν) : String :=
  buildToolCallFingerprint host input toolName args
    (toolLoopFileStates host s.world toolName args)

/-- A call is answered without its arguments, ends the run by the budget, is blocked as repeated,
or is answered with a result. -/
theorem processToolCall_cases (host : Host World ν) (input : RunInput) (s : LoopState World ν)
    (call : ToolCall) :
    parseToolArguments host.numbers call.arguments = none ∧
        processToolCall host input s call = (answerParseFailure host s call, none) ∨
      ∃ args, parseToolArguments host.numbers call.arguments = some args ∧
        ((∃ end_, processToolCall host input s call =
            ((completeBudgetFinalizationFromExistingAuditReport host input s).1, some end_)) ∨
          (∃ repeatedCount end_,
            repeatedLoop input (s.noteSignature (signatureOf host input s call.name args)) call.name
              (signatureOf host input s call.name args) = some repeatedCount ∧
            processToolCall host input s call =
              (s.noteSignature (signatureOf host input s call.name args), some end_)) ∨
          repeatedLoop input (s.noteSignature (signatureOf host input s call.name args)) call.name
              (signatureOf host input s call.name args) = none ∧
            processToolCall host input s call =
              answerToolCall host input
                (s.noteSignature (signatureOf host input s call.name args)) call args
                (toolLoopFileStates host s.world call.name args)
                (signatureOf host input s call.name args)) := by
  cases parsed : parseToolArguments host.numbers call.arguments with
  | none =>
    refine .inl ⟨rfl, ?_⟩
    rw [processToolCall, parsed]
  | some args =>
    refine .inr ⟨args, rfl, ?_⟩
    rw [processToolCall, parsed]
    dsimp only
    split
    · exact .inl ⟨_, rfl⟩
    cases repeated : repeatedLoop input
        (s.noteSignature (signatureOf host input s call.name args)) call.name
        (signatureOf host input s call.name args) with
    | some repeatedCount =>
      refine .inr (.inl ⟨repeatedCount, ?_⟩)
      unfold signatureOf at repeated
      rw [repeated]
      exact ⟨_, rfl, rfl⟩
    | none =>
      refine .inr (.inr ⟨rfl, ?_⟩)
      unfold signatureOf at repeated
      rw [repeated]
      rfl

/-! ### Answered calls -/

/-- What was found out about an answered call. -/
def recordOf (host : Host World ν) (input : RunInput) (s : LoopState World ν) (call : ToolCall)
    (args : Fields ν) (fileStates : List (Json ν)) (signature : String) : CallRecord ν :=
  (settleResult host input s call args fileStates signature).2.1

/-- The state behind a call, before it is answered. -/
def settledState (host : Host World ν) (input : RunInput) (s : LoopState World ν) (call : ToolCall)
    (args : Fields ν) (fileStates : List (Json ν)) (signature : String) : LoopState World ν :=
  (settleResult host input s call args fileStates signature).1.countFailure input
    (recordOf host input s call args fileStates signature)

section Answered

variable {call : ToolCall} {args : Fields ν} {fileStates : List (Json ν)} {signature : String}

theorem recordOf_call : (recordOf host input s call args fileStates signature).call = call := rfl

theorem recordOf_args : (recordOf host input s call args fileStates signature).args = args := rfl

theorem recordOf_executed :
    (recordOf host input s call args fileStates signature).executed =
      (denial input s call.name args).isNone := rfl

theorem settledState_messages :
    (settledState host input s call args fileStates signature).messages = s.messages := by
  unfold settledState LoopState.countFailure
  split <;> rfl

theorem settledState_deeds :
    (settledState host input s call args fileStates signature).deeds =
      s.deeds ++ [.toolCall (recordOf host input s call args fileStates signature)] := by
  unfold settledState LoopState.countFailure
  split <;> rfl

theorem settledState_signatureCounts :
    (settledState host input s call args fileStates signature).toolCallSignatureCounts =
      s.toolCallSignatureCounts := by
  unfold settledState LoopState.countFailure
  split <;> rfl

theorem settledState_inspections :
    (settledState host input s call args fileStates signature).repositoryInspectionToolCalls =
      if isQwenToolAllowedForWorkflow input.workflowKind call.name &&
          isRepositoryInspectionToolCall input call.name args && !budgetExhausted input s &&
          !s.auditLowQualityRepairLock then
        s.repositoryInspectionToolCalls + 1
      else s.repositoryInspectionToolCalls := by
  unfold settledState LoopState.countFailure
  split <;> rfl

theorem settledState_units :
    (settledState host input s call args fileStates signature).auditEvidenceUnits =
      s.auditEvidenceUnits ++ (recordOf host input s call args fileStates signature).unit.toList := by
  unfold settledState LoopState.countFailure
  split <;> rfl

theorem settledState_failures :
    (settledState host input s call args fileStates signature).failedAuditReportValidationPasses =
      s.failedAuditReportValidationPasses +
        if (countedFailure input
          (recordOf host input s call args fileStates signature)).isSome then 1 else 0 := by
  unfold settledState LoopState.countFailure
  cases countedFailure input (recordOf host input s call args fileStates signature) <;> rfl

theorem endAfterAnswer_finalizes (host : Host World ν) (input : RunInput) 
    (s : LoopState World ν) (record : CallRecord ν) (denied : Bool) :
    ∃ tools, tools ⊆ ["git_commit"] ∧
      Finalizes tools s (endAfterAnswer host input s record denied).1 ∧
      ((endAfterAnswer host input s record denied).2 = none → tools = []) := by
  have nothing : ∃ tools : List String, tools ⊆ ["git_commit"] ∧ Finalizes tools s s ∧
      tools = [] := ⟨[], List.nil_subset _, Finalizes.refl s, rfl⟩
  obtain ⟨tools, commits, committed⟩ :=
    completeBudgetFinalizedAuditReport_finalizes host input s record.args
  obtain ⟨none_, nil_, refl_, isNil⟩ := nothing
  unfold endAfterAnswer
  split
  · split
    · exact ⟨tools, commits, committed, fun goes => absurd goes (by simp)⟩
    · exact ⟨none_, nil_, refl_, fun _ => isNil⟩
  · split
    · exact ⟨none_, nil_, refl_, fun _ => isNil⟩
    · exact ⟨none_, nil_, refl_, fun _ => isNil⟩

/-- The run ends with the result of the call, or the call is answered. -/
theorem answerToolCall_cases (host : Host World ν) (input : RunInput) (s : LoopState World ν)
    (call : ToolCall) (args : Fields ν) (fileStates : List (Json ν)) (signature : String) :
    (∃ end_, endAfterResult input (settledState host input s call args fileStates signature)
          (recordOf host input s call args fileStates signature) = some end_ ∧
        answerToolCall host input s call args fileStates signature =
          (settledState host input s call args fileStates signature, some end_)) ∨
      endAfterResult input (settledState host input s call args fileStates signature)
          (recordOf host input s call args fileStates signature) = none ∧
        ∃ content denied, answerToolCall host input s call args fileStates signature =
          endAfterAnswer host input
            ((settledState host input s call args fileStates signature).push
              (.tool call.id call.name content))
            (recordOf host input s call args fileStates signature) denied := by
  cases ends : endAfterResult input (settledState host input s call args fileStates signature)
      (recordOf host input s call args fileStates signature) with
  | some end_ =>
    refine .inl ⟨end_, rfl, ?_⟩
    unfold settledState recordOf at *
    simp only [answerToolCall, ends]
  | none =>
    refine .inr ⟨rfl, ?_⟩
    unfold settledState recordOf at *
    simp only [answerToolCall, ends]
    exact ⟨_, _, rfl⟩

end Answered

theorem runQwenLocalAgentApi_state (host : Host World ν) (input : RunInput) (world : World) :
    (runQwenLocalAgentApi host input world).1 =
      (run (turnStep host input) (initialState input world)
        (List.range (readMaxToolTurns input))).1 := by
  unfold runQwenLocalAgentApi
  split <;> rename_i shape <;> rw [shape]

/-! ### Invariants of a run -/

/-- The deeds, the ledger and the counters are as before; signatures may have been noted. -/
structure Quiet (s s' : LoopState World ν) : Prop where
  deeds : s'.deeds = s.deeds
  units : s'.auditEvidenceUnits = s.auditEvidenceUnits
  inspections : s'.repositoryInspectionToolCalls = s.repositoryInspectionToolCalls
  signatures : ∀ signature, s.toolCallSignatureCounts signature ≤ s'.toolCallSignatureCounts signature

/-- What the parts of a turn keep. -/
structure LoopInvariant (host : Host World ν) (input : RunInput) (holds : LoopState World ν → Prop) :
    Prop where
  quiet : ∀ {s s'}, holds s → Quiet s s' → holds s'
  request : ∀ s world messages answer, holds s →
    holds { s with world, deeds := s.deeds ++ [.request messages answer] }
  finalizes : ∀ {s s' tools}, holds s → Finalizes tools s s' → holds s'
  settle : ∀ {s call args fileStates signature}, holds s →
    buildToolCallFingerprint host input call.name args fileStates = signature →
    repeatedLoop input (s.noteSignature signature) call.name signature = none →
    holds (settledState host input (s.noteSignature signature) call args fileStates signature)

theorem quiet_noteSignature (s : LoopState World ν) (signature : String) :
    Quiet s (s.noteSignature signature) := by
  refine ⟨rfl, rfl, rfl, fun other => ?_⟩
  change _ ≤ bump s.toolCallSignatureCounts signature other
  unfold bump
  split
  · exact Nat.le_succ _
  · exact Nat.le_refl _

theorem quiet_push (s : LoopState World ν) (message : Message) : Quiet s (s.push message) :=
  ⟨rfl, rfl, rfl, fun _ => Nat.le_refl _⟩

theorem quiet_compact (s : LoopState World ν) : Quiet s (s.compact host input) := by
  have same : Quiet s s := ⟨rfl, rfl, rfl, fun _ => Nat.le_refl _⟩
  unfold LoopState.compact
  split
  · exact same
  split
  · exact same
  · exact ⟨rfl, rfl, rfl, fun _ => Nat.le_refl _⟩

namespace LoopInvariant

variable {holds : LoopState World ν → Prop} (invariant : LoopInvariant host input holds)
include invariant

theorem answerToolCall {call : ToolCall} {args : Fields ν} {fileStates : List (Json ν)}
    {signature : String} (here : holds s)
    (isSignature : buildToolCallFingerprint host input call.name args fileStates = signature)
    (goes : repeatedLoop input (s.noteSignature signature) call.name signature = none) :
    holds (answerToolCall host input (s.noteSignature signature) call args fileStates signature).1 := by
  have settled := invariant.settle here isSignature goes
  rcases answerToolCall_cases host input (s.noteSignature signature) call args fileStates signature
    with ⟨end_, _, ended⟩ | ⟨_, content, denied, answered⟩
  · rw [ended]
    exact settled
  · obtain ⟨tools, _, finalizes, _⟩ := endAfterAnswer_finalizes host input
      ((settledState host input (s.noteSignature signature) call args fileStates signature).push
        (.tool call.id call.name content))
      (recordOf host input (s.noteSignature signature) call args fileStates signature) denied
    rw [answered]
    exact invariant.finalizes (invariant.quiet settled (quiet_push _ _)) finalizes

theorem processToolCall (here : holds s) (call : ToolCall) :
    holds (processToolCall host input s call).1 := by
  rcases processToolCall_cases host input s call with
    ⟨_, failed⟩ | ⟨args, _, ⟨end_, finalized⟩ | ⟨_, end_, _, blocked⟩ | ⟨goes, answered⟩⟩
  · rw [failed]
    exact invariant.quiet here (quiet_push _ _)
  · obtain ⟨tools, others, _, _, finalizes⟩ :=
      completeBudgetFinalizationFromExistingAuditReport_finalizes host input s
    rw [finalized]
    exact invariant.finalizes here finalizes
  · rw [blocked]
    exact invariant.quiet here (quiet_noteSignature s _)
  · rw [answered]
    exact invariant.answerToolCall here rfl goes

theorem processResponse (here : holds s) (payload : Json ν) :
    holds (processResponse host input s payload).1 := by
  unfold AifHandoff.Runtime.processResponse
  dsimp only
  split
  · exact here
  have kept (call : ToolCall) (now : LoopState World ν) (_ : call ∈ responseToolCalls host payload)
      (here : holds now) : holds (AifHandoff.Runtime.processToolCall host input now call).1 :=
    invariant.processToolCall here call
  have worked := run_keeps holds (invariant.quiet here (quiet_push _
    (.assistant (filled (some (responseContent payload))) (responseToolCalls host payload)))) kept
  revert worked
  cases run (AifHandoff.Runtime.processToolCall host input)
    (s.push (.assistant (filled (some (responseContent payload))) (responseToolCalls host payload)))
    (responseToolCalls host payload) with
  | mk now outcome =>
    intro worked
    cases outcome with
    | some end_ => exact worked
    | none =>
      dsimp only
      split
      · obtain ⟨tools, others, _, _, finalizes⟩ :=
          completeBudgetFinalizationFromExistingAuditReport_finalizes host input now
        exact invariant.finalizes worked finalizes
      · exact worked

theorem turnStep (here : holds s) (turn : Nat) : holds (turnStep host input s turn).1 := by
  unfold AifHandoff.Runtime.turnStep
  split
  · split
    · exact here
    · obtain ⟨tools, others, _, _, finalizes⟩ :=
        completeBudgetFinalizationFromExistingAuditReport_finalizes host input s
      exact invariant.finalizes here finalizes
  have compacted : holds (s.compact host input) := invariant.quiet here (quiet_compact s)
  have requested : holds ((s.compact host input).request host).1 := 
    invariant.request (s.compact host input) _ _ _ compacted
  revert requested
  cases (s.compact host input).request host with
  | mk now answer =>
    intro requested
    cases answer with
    | none => exact requested
    | some payload => exact invariant.processResponse requested payload

theorem run (world : World) (start : holds (initialState input world)) :
    holds (runQwenLocalAgentApi host input world).1 := by
  have kept (turn : Nat) (now : LoopState World ν) (_ : turn ∈ List.range (readMaxToolTurns input))
      (here : holds now) : holds (AifHandoff.Runtime.turnStep host input now turn).1 :=
    invariant.turnStep here turn
  have done := run_keeps holds start kept
  rwa [← runQwenLocalAgentApi_state] at done

end LoopInvariant

/-! ### A host with a script -/

/-- The responses and the results of the tools that are still to come. -/
structure Script where
  responses : List (Json Nat)
  results : List (ToolResult Nat)

/-- An endpoint and tools that answer from a script. -/
def scriptedHost : Host Script Nat where
  numbers := Json.decimalNumbers
  number := Int.toNat
  localeLe := fun a b => decide (a.toList ≤ b.toList)
  ledger := ⟨id, fun _ => false⟩
  estimateTokens := List.length
  truncateTextForRequest := fun text _ => text
  safeModelText := fun text _ => text
  parseError := fun _ => "Unexpected end of JSON input"
  post := fun script _ => ({ script with responses := script.responses.tail },
    script.responses.head?)
  fileState := fun script path => .obj [("path", .str path), ("status", .str "file"),
    ("size", .num script.results.length)]
  executeQwenLocalTool := fun script _ _ _ =>
    ({ script with results := script.results.tail },
      script.results.head?.getD (failedResult "no result"))
  aborted := fun _ => false
  randomId := fun script => (script, "ev_" ++ toString script.results.length)

/-- The input of an implementer without a budget for inspections. -/
def scriptedInput : RunInput where
  workflowKind := "implementer"
  systemPrompt := none
  systemPromptAppend := none
  prompt := "Check the tree."
  cwd := "/project"
  executionMaxTurns := none
  optionMaxToolTurns := none
  executionRepositoryInspectionToolBudget := none
  optionRepositoryInspectionToolBudget := none
  executionFinalResponseTimeoutMs := none
  optionFinalResponseTimeoutMs := none
  executionFinalizationMode := none
  optionFinalizationMode := none
  optionRepeatedToolCallLimit := none
  auditReportArtifactPath := none
  requestedWritePaths := []
  allowedWritePaths := []
  expectedReportArtifactPath := none
  evidenceLinks := some []
  initialEvidenceUnits := []
  maxOutputChars := 4000
  budget := none

end AifHandoff.Runtime
