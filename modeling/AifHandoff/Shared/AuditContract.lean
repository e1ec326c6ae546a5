import AifHandoff.Lib.Text
import Mathlib.Data.List.Sort
import Mathlib.Data.String.Basic

/-!
The contract of audit artifacts, and the verdicts of the completion guard and of the
plan guard (`auditRoadmapContract.ts`, `taskCompletionEvidence.ts`, `planQuality.ts`).

The evaluations themselves read the work tree; their verdicts are inputs of whoever
asks for them.
-/

namespace AifHandoff

open Text

inductive AuditArtifactRole where
  | report | synthesis
deriving DecidableEq, Repr

inductive AuditArtifactState where
  | expected | valid | invalid | missing | synthesisNotReady | externalBlocked
  | sourceInconclusive | terminalInconclusive | manualException
deriving DecidableEq, Repr

def AuditArtifactState.text : AuditArtifactState → String
  | .expected => "expected"
  | .valid => "valid"
  | .invalid => "invalid"
  | .missing => "missing"
  | .synthesisNotReady => "synthesis_not_ready"
  | .externalBlocked => "external_blocked"
  | .sourceInconclusive => "source_inconclusive"
  | .terminalInconclusive => "terminal_inconclusive"
  | .manualException => "manual_exception"

inductive AuditArtifactReworkStatus where
  | accepted | reworkRequested | manualReviewRequired | terminalInconclusive | manualException
  | notApplicable
deriving DecidableEq, Repr

def AuditArtifactReworkStatus.text : AuditArtifactReworkStatus → String
  | .accepted => "accepted"
  | .reworkRequested => "rework_requested"
  | .manualReviewRequired => "manual_review_required"
  | .terminalInconclusive => "terminal_inconclusive"
  | .manualException => "manual_exception"
  | .notApplicable => "not_applicable"

def isTerminalAuditArtifactState (state : AuditArtifactState) : Bool :=
  state ∈ [.invalid, .missing, .sourceInconclusive, .terminalInconclusive, .manualException]

inductive AuditFailureFamily where
  | invalidArtifactContent | invalidArtifactContract | invalidArtifactIntegrity
  | invalidInventoryOnly | insufficientSubstantiveEvidence | sourceInconclusive | manualException
  | missingArtifact | missingToolEvidence | reworkNeeded | inconclusiveBatchEvidence
  | synthesisNotReady | manualReviewRequired | externalBlocker
deriving DecidableEq, Repr

def AuditFailureFamily.text : AuditFailureFamily → String
  | .invalidArtifactContent => "invalid_artifact_content"
  | .invalidArtifactContract => "invalid_artifact_contract"
  | .invalidArtifactIntegrity => "invalid_artifact_integrity"
  | .invalidInventoryOnly => "invalid_inventory_only"
  | .insufficientSubstantiveEvidence => "insufficient_substantive_evidence"
  | .sourceInconclusive => "source_inconclusive"
  | .manualException => "manual_exception"
  | .missingArtifact => "missing_artifact"
  | .missingToolEvidence => "missing_tool_evidence"
  | .reworkNeeded => "rework_needed"
  | .inconclusiveBatchEvidence => "inconclusive_batch_evidence"
  | .synthesisNotReady => "synthesis_not_ready"
  | .manualReviewRequired => "manual_review_required"
  | .externalBlocker => "external_blocker"

def isRecoverableAuditFailureFamily (family : AuditFailureFamily) : Bool :=
  family ∈ [.invalidArtifactContent, .invalidArtifactContract, .invalidArtifactIntegrity,
    .invalidInventoryOnly, .insufficientSubstantiveEvidence, .sourceInconclusive,
    .missingArtifact, .missingToolEvidence, .reworkNeeded]

structure CompletionIssue where
  code : String
  message : String
deriving DecidableEq, Repr

/-- The verdict of `evaluateTaskCompletionEvidence`, with the failure family the
handlers derive from it and whether the artifact already failed with the same
fingerprint (`repeatedAuditFailureCount > 0`). -/
structure CompletionEvidence where
  ok : Bool := true
  issues : List CompletionIssue := []
  failureFamily : AuditFailureFamily := .externalBlocker
  repeatedAuditFailure : Bool := false
deriving DecidableEq, Repr

def formatTaskCompletionBlockedReason (result : CompletionEvidence)
    (suppressManualReviewWhenActionable : Bool) : String :=
  let actionableIssues :=
    if suppressManualReviewWhenActionable && 1 < result.issues.length then
      result.issues.filter (·.code ≠ "manual_review_required")
    else result.issues
  let issues := if actionableIssues.isEmpty then result.issues else actionableIssues
  "Completion evidence guard (" ++ join ", " (issues.map (·.code)).eraseDups ++ "): " ++
    join " " (issues.map (·.message))

/-- A failing verdict of `evaluateTaskPlanQuality`. -/
structure PlanQualityFailure where
  categories : List String
  details : String
deriving DecidableEq, Repr

def formatTaskPlanQualityBlockedReason (failure : PlanQualityFailure) : String :=
  "Plan quality guard (" ++ join ", " failure.categories ++ "): " ++ failure.details

end AifHandoff
