import AifHandoff.Lib.Text

/-!
Findings of the automatic review (`shared/types.ts`).
-/

namespace AifHandoff

inductive AutoReviewStrategy where
  | fullReReview | closureFirst
deriving DecidableEq, Repr

def AutoReviewStrategy.text : AutoReviewStrategy → String
  | .fullReReview => "full_re_review"
  | .closureFirst => "closure_first"

inductive SpecializedReviewerRole where
  | correctness | securityDataLoss | regressionApiContract | auditEvidence
deriving DecidableEq, Repr

inductive AutoReviewFindingSource where
  | codeReview | securityAudit | reviewGate
  | specialized (role : SpecializedReviewerRole)
deriving DecidableEq, Repr

def SpecializedReviewerRole.text : SpecializedReviewerRole → String
  | .correctness => "correctness"
  | .securityDataLoss => "security_data_loss"
  | .regressionApiContract => "regression_api_contract"
  | .auditEvidence => "audit_evidence"

def AutoReviewFindingSource.text : AutoReviewFindingSource → String
  | .codeReview => "code_review"
  | .securityAudit => "security_audit"
  | .reviewGate => "review_gate"
  | .specialized role => role.text

/-- `AUTO_REVIEW_FINDING_SOURCES`. -/
def autoReviewFindingSources : List AutoReviewFindingSource :=
  [.codeReview, .securityAudit, .reviewGate, .specialized .correctness,
    .specialized .securityDataLoss, .specialized .regressionApiContract,
    .specialized .auditEvidence]

inductive AutoReviewPreviousFindingStatus where
  | resolved | stillBlocking | newBlocker | notReproducible | manualReviewRequired
deriving DecidableEq, Repr

def AutoReviewPreviousFindingStatus.text : AutoReviewPreviousFindingStatus → String
  | .resolved => "resolved"
  | .stillBlocking => "still_blocking"
  | .newBlocker => "new_blocker"
  | .notReproducible => "not_reproducible"
  | .manualReviewRequired => "manual_review_required"

def autoReviewPreviousFindingStatuses : List AutoReviewPreviousFindingStatus :=
  [.resolved, .stillBlocking, .newBlocker, .notReproducible, .manualReviewRequired]

/-- The status of a finding that still blocks. -/
def AutoReviewPreviousFindingStatus.isBlocking (status : AutoReviewPreviousFindingStatus) : Bool :=
  status == .stillBlocking || status == .newBlocker || status == .manualReviewRequired

inductive AutoReviewSecurityCoverageArea where
  | secretLeaks | permissionsSandbox | unsafeShellNetworkFile | dependencyConfig
deriving DecidableEq, Repr

def AutoReviewSecurityCoverageArea.text : AutoReviewSecurityCoverageArea → String
  | .secretLeaks => "secret_leaks"
  | .permissionsSandbox => "permissions_sandbox"
  | .unsafeShellNetworkFile => "unsafe_shell_network_file"
  | .dependencyConfig => "dependency_config"

inductive AutoReviewSecurityCoverageStatus where
  | covered | issueFound | notApplicable | notChecked
deriving DecidableEq, Repr

def AutoReviewSecurityCoverageStatus.text : AutoReviewSecurityCoverageStatus → String
  | .covered => "covered"
  | .issueFound => "issue_found"
  | .notApplicable => "not_applicable"
  | .notChecked => "not_checked"

structure AutoReviewSecurityCoverage where
  area : AutoReviewSecurityCoverageArea
  status : AutoReviewSecurityCoverageStatus
  note : String
deriving DecidableEq, Repr

inductive AutoReviewFindingSeverity where
  | low | medium | high | critical
deriving DecidableEq, Repr

structure AutoReviewFinding where
  id : String
  text : String
  source : AutoReviewFindingSource
  status : Option AutoReviewPreviousFindingStatus := none
  severity : Option AutoReviewFindingSeverity := none
  location : Option String := none
  claim : Option String := none
  requiredFix : Option String := none
  verification : Option String := none
  closureEvidence : Option String := none
  firstSeenIteration : Option Nat := none
  lastSeenIteration : Option Nat := none
  streak : Option Nat := none
deriving DecidableEq, Repr

/-- A previous finding as a reviewer reports it. -/
structure AutoReviewPreviousFinding where
  id : String
  source : AutoReviewFindingSource
  status : AutoReviewPreviousFindingStatus
  note : String
  text : String
  closureEvidence : Option String
deriving DecidableEq, Repr

structure AutoReviewAdvisory where
  source : AutoReviewFindingSource
  text : String
deriving DecidableEq, Repr

structure AutoReviewBlockerHistoryEntry where
  id : String
  source : AutoReviewFindingSource
  status : AutoReviewPreviousFindingStatus
  note : String
  iteration : Nat
  closureEvidence : String
deriving DecidableEq, Repr

/-- What a rework is compared with. `none` is an absent field. -/
structure AutoReviewReworkSnapshot where
  iteration : Nat
  artifactPath : String
  artifactContentSha : Option String
  findingIds : List String
  baselineHeadSha : Option String := none
  changedFilesDigest : Option String := none
  changedFilesSummary : Option (List String) := none
  requiredEvidenceByFindingId : Option (List (String × String)) := none
  forbiddenChanges : Option (List String) := none
deriving DecidableEq, Repr

structure AutoReviewState where
  strategy : AutoReviewStrategy
  iteration : Nat
  findings : List AutoReviewFinding
  securityCoverage : Option (List AutoReviewSecurityCoverage) := none
  blockerHistory : Option (List AutoReviewBlockerHistoryEntry) := none
  reworkSnapshot : Option AutoReviewReworkSnapshot := none
deriving DecidableEq, Repr

end AifHandoff
