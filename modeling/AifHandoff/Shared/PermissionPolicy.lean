import AifHandoff.Lib.Regex

/-!
Permission policies (`shared/permissionPolicy.ts`): the policy of each task intent, the
classification of a shell command, and the decision on running one.

`decideShellPermission` goes through its rules in the order of the source. Each rule is a
function of the verdict so far, so what a rule keeps and what it overwrites can be read off.
-/

namespace AifHandoff.Shared.PermissionPolicy

open Regex

/-! ### Policies -/

inductive PermissionMode where
  | dangerFullAccess | workspaceWrite | readOnly | reviewOnly | auditDiagnosticOnly
deriving DecidableEq, Repr

def PermissionMode.text : PermissionMode → String
  | .dangerFullAccess => "danger_full_access"
  | .workspaceWrite => "workspace_write"
  | .readOnly => "read_only"
  | .reviewOnly => "review_only"
  | .auditDiagnosticOnly => "audit_diagnostic_only"

inductive PermissionPolicyIntent where
  | general | feature | fix | tests | docs | spike | audit
deriving DecidableEq, Repr

def PermissionPolicyIntent.text : PermissionPolicyIntent → String
  | .general => "general"
  | .feature => "feature"
  | .fix => "fix"
  | .tests => "tests"
  | .docs => "docs"
  | .spike => "spike"
  | .audit => "audit"

structure PermissionFileBoundaryPolicy where
  allowedPathGlobs : List String
  forbiddenPathGlobs : List String

structure PermissionShellPolicy where
  allowShell : Bool
  dangerousCommandsRequireHumanApproval : Bool
  allowNetworkTransferCommands : Bool

structure PermissionBypassVisibilityPolicy where
  allowBypass : Bool
  requiresHumanApproval : Bool
  auditMetadataRequired : Bool
  auditFields : List String

structure PermissionExecutionPolicy where
  intent : PermissionPolicyIntent
  defaultMode : PermissionMode
  allowedModeExceptions : List PermissionMode
  fileBoundary : PermissionFileBoundaryPolicy
  shellPolicy : PermissionShellPolicy
  requiresHumanApproval : Bool
  bypassVisibility : PermissionBypassVisibilityPolicy

/-- The shell policy all intents share. -/
def approvedShell : PermissionShellPolicy where
  allowShell := true
  dangerousCommandsRequireHumanApproval := true
  allowNetworkTransferCommands := false

/-- The bypass policy all intents but one share. -/
def recordedBypass : PermissionBypassVisibilityPolicy where
  allowBypass := true
  requiresHumanApproval := true
  auditMetadataRequired := true
  auditFields := ["intent", "requestedMode", "reason", "approvedBy", "approvedAt"]

/-- The file boundary of the intents that write anywhere in the task's scope. -/
def taskScope : PermissionFileBoundaryPolicy where
  allowedPathGlobs := ["**/*"]
  forbiddenPathGlobs := [".git/**", "**/.env*", "**/*secret*", "**/*credential*"]

/-- `PERMISSION_EXECUTION_POLICIES`. -/
def getPermissionExecutionPolicy : PermissionPolicyIntent → PermissionExecutionPolicy
  | .general =>
    { intent := .general
      defaultMode := .workspaceWrite
      allowedModeExceptions := [.readOnly, .reviewOnly, .dangerFullAccess]
      fileBoundary := taskScope
      shellPolicy := approvedShell
      requiresHumanApproval := false
      bypassVisibility := recordedBypass }
  | .feature =>
    { intent := .feature
      defaultMode := .workspaceWrite
      allowedModeExceptions := [.readOnly, .reviewOnly, .dangerFullAccess]
      fileBoundary := taskScope
      shellPolicy := approvedShell
      requiresHumanApproval := false
      bypassVisibility := recordedBypass }
  | .fix =>
    { intent := .fix
      defaultMode := .workspaceWrite
      allowedModeExceptions := [.readOnly, .reviewOnly, .dangerFullAccess]
      fileBoundary := taskScope
      shellPolicy := approvedShell
      requiresHumanApproval := false
      bypassVisibility := recordedBypass }
  | .tests =>
    { intent := .tests
      defaultMode := .workspaceWrite
      allowedModeExceptions := [.readOnly, .reviewOnly]
      fileBoundary :=
        { allowedPathGlobs := ["**/*.test.*", "**/*.spec.*", "**/__tests__/**", "**/fixtures/**"]
          forbiddenPathGlobs := [".git/**", "src/**", "packages/*/src/**/!(*.test|*.spec).*"] }
      shellPolicy := approvedShell
      requiresHumanApproval := false
      bypassVisibility := recordedBypass }
  | .docs =>
    { intent := .docs
      defaultMode := .workspaceWrite
      allowedModeExceptions := [.readOnly, .reviewOnly]
      fileBoundary :=
        { allowedPathGlobs := ["docs/**", "**/*.md", "**/*.mdx", "README*", "CHANGELOG*"]
          forbiddenPathGlobs := ["src/**", "packages/**/src/**", ".git/**"] }
      shellPolicy := approvedShell
      requiresHumanApproval := false
      bypassVisibility := recordedBypass }
  | .spike =>
    { intent := .spike
      defaultMode := .readOnly
      allowedModeExceptions := [.reviewOnly, .workspaceWrite]
      fileBoundary :=
        { allowedPathGlobs := ["docs/rdpi/**", "docs/intake/**", "docs/research/**"]
          forbiddenPathGlobs := ["src/**", "packages/**/src/**", ".git/**"] }
      shellPolicy := approvedShell
      requiresHumanApproval := false
      bypassVisibility := recordedBypass }
  | .audit =>
    { intent := .audit
      defaultMode := .auditDiagnosticOnly
      allowedModeExceptions := [.readOnly, .reviewOnly]
      fileBoundary :=
        { allowedPathGlobs := ["docs/rdpi/**/result.md", "docs/rdpi/**/audit*.md", "reports/**"]
          forbiddenPathGlobs := ["src/**", "packages/**/src/**", "docs/**/*.ts", ".git/**"] }
      shellPolicy := approvedShell
      requiresHumanApproval := false
      bypassVisibility := { recordedBypass with allowBypass := false } }

def isPermissionModeAllowedForIntent (intent : PermissionPolicyIntent) (mode : PermissionMode) :
    Bool :=
  let policy := getPermissionExecutionPolicy intent
  policy.defaultMode == mode || policy.allowedModeExceptions.contains mode

/-! ### Dangerous commands -/

inductive DangerousShellCategory where
  | destructiveFilesystem | privilegePermissionChange | secretRead | shellMetacharacterChain
  | networkTransfer | processServiceKill | gitDestructiveHistory
deriving DecidableEq, Repr

structure DangerousPattern where
  category : DangerousShellCategory
  pattern : Regex
  reason : String

structure DangerousShellCommandClassification where
  dangerous : Bool
  categories : List DangerousShellCategory
  reasons : List String

/-- A letter of the text under the `i` flag. -/
def letterOf (s : String) : Regex := .set fun c => s.toList.contains c.toLower

/-- `[a-z]*` under the `i` flag. -/
def letters : Regex := many (.set Char.isAlpha)

/-- `\S` and `[^\s]`. -/
def noSpace : Regex := .set fun c => !Text.isSpace c

def destructivePattern : Regex :=
  cat [.wordBoundary,
    anyOf [
      cat [litI "rm", some1 space, litI "-",
        anyOf [cat [letters, litI "r", letters, litI "f"],
          cat [letters, litI "f", letters, litI "r"]]],
      cat [litI "remove-item", .wordBoundary, many dot, anyOf [.startAnchor, space],
        litI "-recurse", .wordBoundary],
      cat [litI "del", some1 space, litI "/", letterOf "sq"],
      cat [litI "rmdir", some1 space, litI "/s"],
      cat [litI "rd", some1 space, litI "/s"],
      cat [litI "format", .wordBoundary],
      cat [litI "shred", .wordBoundary],
      cat [litI "dd", some1 space, many dot, .wordBoundary, litI "of="],
      cat [litI "git", some1 space, litI "clean", some1 space, litI "-", many noSpace,
        letterOf "fd"]]]

def privilegePattern : Regex :=
  words [litI "chmod", litI "chown", litI "chgrp", litI "icacls", litI "takeown", litI "setfacl",
    litI "attrib", litI "sudo", litI "runas"]

def secretReadPattern : Regex :=
  cat [.wordBoundary,
    anyOf [litI "cat", litI "type", litI "get-content", litI "gc", litI "more", litI "less",
      litI "select-string"],
    .wordBoundary, many dot,
    anyOf [cat [litI ".env", .wordBoundary], litI "id_rsa", litI "id_dsa", litI "id_ed25519",
      cat [litI ".pem", .wordBoundary], cat [litI ".pfx", .wordBoundary],
      cat [litI ".p12", .wordBoundary], cat [litI "npmrc", .wordBoundary],
      cat [litI "credential", optional (litI "s")], cat [litI "secret", optional (litI "s")],
      cat [litI "token", optional (litI "s")]]]

def chainPattern : Regex :=
  cat [anyOf [.startAnchor, noneOf "&|"],
    anyOf [lit ";", lit "&&", lit "||", lit "`", lit "$(", lit "|"],
    anyOf [noneOf "&|", .endAnchor]]

def networkPattern : Regex :=
  words [litI "curl", litI "wget", litI "invoke-webrequest", litI "iwr",
    litI "invoke-restmethod", litI "irm", litI "scp", litI "sftp", litI "ftp", litI "rsync",
    litI "nc", litI "netcat", cat [litI "certutil", some1 space, litI "-urlcache"]]

def processPattern : Regex :=
  words [cat [litI "kill", some1 space, litI "-9"], litI "pkill", litI "killall", litI "taskkill",
    litI "stop-process",
    cat [litI "systemctl", some1 space, anyOf [litI "stop", litI "restart", litI "disable"]],
    cat [litI "service", some1 space, some1 noSpace, some1 space,
      anyOf [litI "stop", litI "restart"]],
    cat [litI "net", some1 space, litI "stop"], cat [litI "sc", some1 space, litI "stop"]]

def gitHistoryPattern : Regex :=
  cat [.wordBoundary, litI "git", some1 space,
    anyOf [cat [litI "reset", some1 space, litI "--hard"],
      cat [litI "checkout", some1 space, litI "--"],
      cat [litI "restore", some1 space, many dot, space, litI "--source="],
      cat [litI "rebase", .wordBoundary],
      cat [litI "push", some1 space, many dot, litI "--force"],
      cat [litI "branch", some1 space, litI "-D"],
      cat [litI "reflog", some1 space, litI "expire"], litI "filter-branch"],
    .wordBoundary]

/-- `DANGEROUS_SHELL_PATTERNS`. -/
def dangerousShellPatterns : List DangerousPattern :=
  [⟨.destructiveFilesystem, destructivePattern,
      "Command can recursively or forcefully delete filesystem content."⟩,
    ⟨.privilegePermissionChange, privilegePattern,
      "Command can change privileges, ownership, or permissions."⟩,
    ⟨.secretRead, secretReadPattern,
      "Command appears to read secret-bearing files or credentials."⟩,
    ⟨.shellMetacharacterChain, chainPattern,
      "Command uses shell metacharacters that can chain or inject commands."⟩,
    ⟨.networkTransfer, networkPattern, "Command can transfer data over the network."⟩,
    ⟨.processServiceKill, processPattern, "Command can kill processes or stop services."⟩,
    ⟨.gitDestructiveHistory, gitHistoryPattern,
      "Command can rewrite or discard git history or working tree state."⟩]

/-- One round of the loop of `classifyDangerousShellCommand`. -/
def classifyEntry (command : String)
    (found : List DangerousShellCategory × List String) (entry : DangerousPattern) :
    List DangerousShellCategory × List String :=
  if !test entry.pattern command then found
  else if !found.1.contains entry.category then
    (found.1 ++ [entry.category], found.2 ++ [entry.reason])
  else found

def classifyDangerousShellCommand (command : String) : DangerousShellCommandClassification :=
  let (categories, reasons) := dangerousShellPatterns.foldl (classifyEntry command) ([], [])
  { dangerous := decide (0 < categories.length), categories, reasons }

theorem categories_foldl_ne_nil_iff (command : String) (entries : List DangerousPattern)
    (found : List DangerousShellCategory × List String) :
    (entries.foldl (classifyEntry command) found).1 ≠ [] ↔
      found.1 ≠ [] ∨ ∃ entry ∈ entries, test entry.pattern command = true := by
  induction entries generalizing found with
  | nil => simp
  | cons entry entries ih =>
    rw [List.foldl_cons, ih]
    have once : (classifyEntry command found entry).1 ≠ [] ↔
        found.1 ≠ [] ∨ test entry.pattern command = true := by
      rw [classifyEntry]
      cases finds : test entry.pattern command with
      | false => simp
      | true =>
        simp only [Bool.not_true, Bool.false_eq_true, if_false, or_true, iff_true]
        split
        · exact List.append_ne_nil_of_right_ne_nil _ (List.cons_ne_nil _ _)
        · rename_i known
          intro nothing
          rw [nothing] at known
          exact known rfl
    rw [once, or_assoc, List.exists_mem_cons_iff]

theorem dangerous_iff (command : String) :
    (classifyDangerousShellCommand command).dangerous = true ↔
      ∃ entry ∈ dangerousShellPatterns, test entry.pattern command = true := by
  have found := categories_foldl_ne_nil_iff command dangerousShellPatterns ([], [])
  have dangerous : (classifyDangerousShellCommand command).dangerous = true ↔
      (dangerousShellPatterns.foldl (classifyEntry command) ([], [])).1 ≠ [] := by
    rw [← List.length_pos_iff]
    exact decide_eq_true_iff
  rw [dangerous, found]
  exact or_iff_right fun absurd_ => absurd_ rfl

/-! ### Decisions -/

inductive PermissionDecisionOutcome where
  | allow | deny | requiresHumanApproval
deriving DecidableEq, Repr

structure ApprovalDecisionInput where
  requiresHumanApproval : Bool
  humanApprovalBridgeAvailable : Bool
  humanApproved : Bool
  reason : String

structure ApprovalDecision where
  outcome : PermissionDecisionOutcome
  allowed : Bool
  reasons : List String

def decideHumanApproval (input : ApprovalDecisionInput) : ApprovalDecision :=
  if !input.requiresHumanApproval then { outcome := .allow, allowed := true, reasons := [] }
  else if !input.humanApprovalBridgeAvailable then
    { outcome := .deny
      allowed := false
      reasons := [input.reason ++ " requires human approval, but no human approval bridge is " ++
        "available; failing closed."] }
  else if !input.humanApproved then
    { outcome := .requiresHumanApproval
      allowed := false
      reasons := [input.reason ++ " requires human approval."] }
  else
    { outcome := .allow, allowed := true, reasons := [input.reason ++ " approved by human."] }

structure BypassDecisionInput where
  intent : PermissionPolicyIntent
  humanApprovalBridgeAvailable : Bool
  humanApproved : Bool
  reason : Option String

structure BypassDecision where
  outcome : PermissionDecisionOutcome
  allowed : Bool
  requiresHumanApproval : Bool
  auditMetadataRequired : Bool
  auditFields : List String
  reasons : List String

def decidePolicyBypass (input : BypassDecisionInput) : BypassDecision :=
  let bypass := (getPermissionExecutionPolicy input.intent).bypassVisibility
  if !bypass.allowBypass then
    { outcome := .deny
      allowed := false
      requiresHumanApproval := bypass.requiresHumanApproval
      auditMetadataRequired := bypass.auditMetadataRequired
      auditFields := bypass.auditFields
      reasons := ["Bypass is not allowed for " ++ input.intent.text ++ " tasks."] }
  else
    let approval := decideHumanApproval
      { requiresHumanApproval := bypass.requiresHumanApproval
        humanApprovalBridgeAvailable := input.humanApprovalBridgeAvailable
        humanApproved := input.humanApproved
        reason := input.reason.getD ("Policy bypass for " ++ input.intent.text) }
    { outcome := approval.outcome
      allowed := approval.allowed
      requiresHumanApproval := bypass.requiresHumanApproval
      auditMetadataRequired := bypass.auditMetadataRequired
      auditFields := bypass.auditFields
      reasons := approval.reasons }

/-- The flags count as absent when they are `undefined`, which is how the source reads them. -/
structure ShellPermissionDecisionInput where
  intent : PermissionPolicyIntent
  command : String
  requestedMode : Option PermissionMode := none
  humanApprovalBridgeAvailable : Bool := false
  humanApproved : Bool := false
  bypassRequested : Bool := false

structure PermissionAuditMetadata where
  intent : PermissionPolicyIntent
  requestedMode : PermissionMode
  defaultMode : PermissionMode
  requiresHumanApproval : Bool
  bypassRequested : Bool
  bypassAllowed : Bool
  dangerousCategories : List DangerousShellCategory

structure ShellPermissionDecision where
  outcome : PermissionDecisionOutcome
  allowed : Bool
  mode : PermissionMode
  requiresHumanApproval : Bool
  reasons : List String
  classification : DangerousShellCommandClassification
  auditMetadata : PermissionAuditMetadata

/-- The local variables of `decideShellPermission`. -/
structure ShellVerdict where
  outcome : PermissionDecisionOutcome
  allowed : Bool
  requiresHumanApproval : Bool
  bypassAllowed : Bool
  reasons : List String

namespace ShellPermissionDecisionInput

variable (input : ShellPermissionDecisionInput)

def policy : PermissionExecutionPolicy := getPermissionExecutionPolicy input.intent

def mode : PermissionMode := input.requestedMode.getD input.policy.defaultMode

def start : ShellVerdict where
  outcome := .allow
  allowed := true
  requiresHumanApproval := input.policy.requiresHumanApproval
  bypassAllowed := false
  reasons := []

def applyShellRule (verdict : ShellVerdict) : ShellVerdict :=
  if !input.policy.shellPolicy.allowShell then
    { verdict with
      outcome := .deny
      allowed := false
      reasons := verdict.reasons ++
        ["Shell execution is not allowed for " ++ input.intent.text ++ " tasks."] }
  else verdict

def bypass : BypassDecision :=
  decidePolicyBypass
    { intent := input.intent
      humanApprovalBridgeAvailable := input.humanApprovalBridgeAvailable
      humanApproved := input.humanApproved
      reason := some ("Mode " ++ input.mode.text ++ " bypass for " ++ input.intent.text) }

def applyModeRule (verdict : ShellVerdict) : ShellVerdict :=
  if !isPermissionModeAllowedForIntent input.intent input.mode then
    if !input.bypassRequested then
      { verdict with
        outcome := .deny
        allowed := false
        reasons := verdict.reasons ++ ["Mode " ++ input.mode.text ++ " is not allowed for " ++
          input.intent.text ++ " tasks without a bypass."] }
    else
      { verdict with
        bypassAllowed := input.bypass.allowed
        reasons := verdict.reasons ++ input.bypass.reasons
        outcome := if !input.bypass.allowed then input.bypass.outcome else verdict.outcome
        allowed := if !input.bypass.allowed then false else verdict.allowed }
  else verdict

def applyNetworkRule (classification : DangerousShellCommandClassification)
    (verdict : ShellVerdict) : ShellVerdict :=
  if classification.categories.contains .networkTransfer &&
      !input.policy.shellPolicy.allowNetworkTransferCommands then
    { verdict with
      requiresHumanApproval := true
      reasons := verdict.reasons ++
        ["Network transfer shell commands require human approval."] }
  else verdict

def dangerApproval : ApprovalDecision :=
  decideHumanApproval
    { requiresHumanApproval := true
      humanApprovalBridgeAvailable := input.humanApprovalBridgeAvailable
      humanApproved := input.humanApproved
      reason := "Dangerous shell command" }

def applyDangerRule (classification : DangerousShellCommandClassification)
    (verdict : ShellVerdict) : ShellVerdict :=
  if classification.dangerous && input.policy.shellPolicy.dangerousCommandsRequireHumanApproval then
    { verdict with
      requiresHumanApproval := true
      reasons := verdict.reasons ++ (classification.reasons ++ input.dangerApproval.reasons)
      outcome :=
        if !input.dangerApproval.allowed then input.dangerApproval.outcome else verdict.outcome
      allowed := if !input.dangerApproval.allowed then false else verdict.allowed }
  else verdict

/-- The verdict of the shell rule and the mode rule. -/
def rulesVerdict : ShellVerdict := input.applyModeRule (input.applyShellRule input.start)

end ShellPermissionDecisionInput

def decideShellPermission (input : ShellPermissionDecisionInput) : ShellPermissionDecision :=
  let classification := classifyDangerousShellCommand input.command
  let verdict := input.applyDangerRule classification
    (input.applyNetworkRule classification input.rulesVerdict)
  { outcome := verdict.outcome
    allowed := verdict.allowed
    mode := input.mode
    requiresHumanApproval := verdict.requiresHumanApproval
    reasons := verdict.reasons
    classification
    auditMetadata :=
      { intent := input.intent
        requestedMode := input.mode
        defaultMode := input.policy.defaultMode
        requiresHumanApproval := verdict.requiresHumanApproval
        bypassRequested := input.bypassRequested
        bypassAllowed := verdict.bypassAllowed
        dangerousCategories := classification.categories } }

/-! ### What the decisions guarantee -/

section Approval

theorem decideHumanApproval_allowed_iff (input : ApprovalDecisionInput) :
    (decideHumanApproval input).allowed = true ↔ (decideHumanApproval input).outcome = .allow := by
  rw [decideHumanApproval]
  split
  · simp
  · split
    · simp
    · split
      · simp
      · simp

theorem decidePolicyBypass_allowed_iff (input : BypassDecisionInput) :
    (decidePolicyBypass input).allowed = true ↔ (decidePolicyBypass input).outcome = .allow := by
  rw [decidePolicyBypass]
  dsimp only
  split
  · simp
  · exact decideHumanApproval_allowed_iff _

end Approval

section Shell

variable (input : ShellPermissionDecisionInput)

/-- The outcome and the flag of a verdict agree. -/
def ShellVerdict.Consistent (verdict : ShellVerdict) : Prop :=
  verdict.allowed = true ↔ verdict.outcome = .allow

variable {verdict : ShellVerdict}

theorem consistent_of_overwrite {allowed : Bool} {outcome : PermissionDecisionOutcome}
    (agree : allowed = true ↔ outcome = .allow) (consistent : verdict.Consistent) :
    (if !allowed then false else verdict.allowed) = true ↔
      (if !allowed then outcome else verdict.outcome) = .allow := by
  cases allowed with
  | true => exact consistent
  | false => exact agree

theorem consistent_applyShellRule (consistent : verdict.Consistent) :
    (input.applyShellRule verdict).Consistent := by
  rw [ShellPermissionDecisionInput.applyShellRule]
  split
  · exact ⟨nofun, nofun⟩
  · exact consistent

theorem consistent_applyModeRule (consistent : verdict.Consistent) :
    (input.applyModeRule verdict).Consistent := by
  rw [ShellPermissionDecisionInput.applyModeRule]
  split
  · split
    · exact ⟨nofun, nofun⟩
    · exact consistent_of_overwrite (decidePolicyBypass_allowed_iff _) consistent
  · exact consistent

theorem consistent_applyNetworkRule (classification : DangerousShellCommandClassification)
    (consistent : verdict.Consistent) :
    (input.applyNetworkRule classification verdict).Consistent := by
  rw [ShellPermissionDecisionInput.applyNetworkRule]
  split
  · exact consistent
  · exact consistent

theorem consistent_applyDangerRule (classification : DangerousShellCommandClassification)
    (consistent : verdict.Consistent) :
    (input.applyDangerRule classification verdict).Consistent := by
  rw [ShellPermissionDecisionInput.applyDangerRule]
  split
  · exact consistent_of_overwrite (decideHumanApproval_allowed_iff _) consistent
  · exact consistent

theorem decideShellPermission_allowed_iff :
    (decideShellPermission input).allowed = true ↔
      (decideShellPermission input).outcome = .allow := by
  have start : input.start.Consistent := ⟨fun _ => rfl, fun _ => rfl⟩
  have rules := consistent_applyModeRule input (consistent_applyShellRule input start)
  exact consistent_applyDangerRule input _ (consistent_applyNetworkRule input _ rules)

theorem shellPolicy_eq (intent : PermissionPolicyIntent) :
    (getPermissionExecutionPolicy intent).shellPolicy = approvedShell := by
  cases intent <;> rfl

theorem bypass_requiresHumanApproval (intent : PermissionPolicyIntent) :
    (getPermissionExecutionPolicy intent).bypassVisibility.requiresHumanApproval = true := by
  cases intent <;> rfl

/-- The shell rule or the mode rule denies on its own: no shell for the intent, or a mode that
is not allowed for it with no bypass asked for, none possible or nobody to approve it. -/
def RulesDeny : Prop :=
  input.policy.shellPolicy.allowShell = false ∨
    isPermissionModeAllowedForIntent input.intent input.mode = false ∧
      (input.bypassRequested = false ∨ input.policy.bypassVisibility.allowBypass = false ∨
        input.humanApprovalBridgeAvailable = false)

theorem bypass_outcome_deny_iff : input.bypass.outcome = .deny ↔
    input.policy.bypassVisibility.allowBypass = false ∨
      input.humanApprovalBridgeAvailable = false := by
  rw [ShellPermissionDecisionInput.bypass, decidePolicyBypass]
  dsimp only
  rw [bypass_requiresHumanApproval, ShellPermissionDecisionInput.policy]
  cases (getPermissionExecutionPolicy input.intent).bypassVisibility.allowBypass with
  | false => simp
  | true =>
    simp only [Bool.not_true, Bool.false_eq_true, if_false, Bool.true_eq_false, false_or,
      decideHumanApproval]
    cases input.humanApprovalBridgeAvailable with
    | false => simp
    | true => cases input.humanApproved <;> simp

theorem rulesVerdict_deny_iff : input.rulesVerdict.outcome = .deny ↔ RulesDeny input := by
  have shell : input.policy.shellPolicy.allowShell = true :=
    congrArg PermissionShellPolicy.allowShell (shellPolicy_eq input.intent)
  have afterShell : input.applyShellRule input.start = input.start := by
    rw [ShellPermissionDecisionInput.applyShellRule, shell]
    rfl
  rw [ShellPermissionDecisionInput.rulesVerdict, afterShell,
    ShellPermissionDecisionInput.applyModeRule, RulesDeny, shell]
  cases isPermissionModeAllowedForIntent input.intent input.mode with
  | true => simp [ShellPermissionDecisionInput.start]
  | false =>
    cases input.bypassRequested with
    | false => simp
    | true =>
      simp only [Bool.not_false, Bool.not_true, Bool.false_eq_true, if_true, if_false,
        Bool.true_eq_false, false_or, true_and]
      rw [← bypass_outcome_deny_iff]
      cases allowed : input.bypass.allowed with
      | false => simp
      | true =>
        have outcome := (decidePolicyBypass_allowed_iff _).mp allowed
        rw [← ShellPermissionDecisionInput.bypass] at outcome
        simp [outcome, ShellPermissionDecisionInput.start]

theorem decideShellPermission_outcome : (decideShellPermission input).outcome =
    if (classifyDangerousShellCommand input.command).dangerous && !input.dangerApproval.allowed
    then input.dangerApproval.outcome else input.rulesVerdict.outcome := by
  have shell : input.policy.shellPolicy.dangerousCommandsRequireHumanApproval = true :=
    congrArg PermissionShellPolicy.dangerousCommandsRequireHumanApproval
      (shellPolicy_eq input.intent)
  have network : (input.applyNetworkRule (classifyDangerousShellCommand input.command)
      input.rulesVerdict).outcome = input.rulesVerdict.outcome := by
    rw [ShellPermissionDecisionInput.applyNetworkRule]
    split
    · rfl
    · rfl
  rw [decideShellPermission]
  dsimp only
  rw [ShellPermissionDecisionInput.applyDangerRule, shell, Bool.and_true]
  cases (classifyDangerousShellCommand input.command).dangerous with
  | false => exact network
  | true =>
    simp only [if_true, Bool.true_and]
    rw [network]

theorem overwritten_deny_iff (dangerous bridge approved : Bool) (reason : String) :
    (if dangerous && !(decideHumanApproval ⟨true, bridge, approved, reason⟩).allowed
      then (decideHumanApproval ⟨true, bridge, approved, reason⟩).outcome
      else .deny) = PermissionDecisionOutcome.deny ↔
      ¬ (dangerous = true ∧ bridge = true ∧ approved = false) := by
  cases dangerous with
  | false => simp
  | true =>
    cases bridge with
    | false => simp [decideHumanApproval]
    | true => cases approved <;> simp [decideHumanApproval]

/-- A denial by the shell rule or the mode rule is lost when the command is dangerous and waits
for an approval that a bridge could still bring, and only then. -/
theorem denial_stays_iff :
    (RulesDeny input → (decideShellPermission input).outcome = .deny) ↔
      ¬ (RulesDeny input ∧ (classifyDangerousShellCommand input.command).dangerous = true ∧
        input.humanApprovalBridgeAvailable = true ∧ input.humanApproved = false) := by
  rw [not_and]
  refine imp_congr_right fun denied => ?_
  rw [decideShellPermission_outcome, (rulesVerdict_deny_iff input).mpr denied]
  exact overwritten_deny_iff _ _ _ _

end Shell

end AifHandoff.Shared.PermissionPolicy
