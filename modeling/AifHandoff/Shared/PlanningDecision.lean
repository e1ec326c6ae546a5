import AifHandoff.Shared.ManifestBlocks

/-!
The planning decision contract (`shared/planningDecisionContract.ts`).

A planner answers with one block of the language `aif-planning-decision`. Every field is
checked, and the issues of all of them are collected before the contract is refused.
-/

namespace AifHandoff.Shared.Manifest

open Regex Json

def planningDecisionLanguage : String := "aif-planning-decision"

def planningDecisions : List String := ["ready_plan", "split_required", "needs_input", "blocked"]

def planningDecisionChildIntents : List String := ["feature", "fix", "docs", "tests", "audit"]

structure AifPlanningDecisionChild where
  title : String
  taskIntent : String
  scope : List String
  acceptanceCriteria : List String
  verificationCommands : List String
  forbiddenChanges : List String
  deriving DecidableEq

structure AifPlanningDecisionContract where
  decision : String
  taskId : String
  reason : String
  proposedChildren : List AifPlanningDecisionChild
  deriving DecidableEq

/-- `BROAD_OR_WILDCARD_SCOPE_PATTERN`. -/
def broadOrWildcardScopePattern : Regex :=
  anyOf [
    cat [.alt .startAnchor (lit "/"), anyOf [cat [lit "*", optional (lit "*")], lit "*"],
      .endAnchor],
    oneOf "*\x7b\x7d[]",
    cat [.startAnchor, optional (cat [optional (lit "."), lit "/"]),
      anyOf [litI "repo", litI "repository", litI "project", litI "codebase", litI "app",
        litI "application", litI "src", litI "packages", litI "apps",
        cat [litI "test", optional (litI "s")], cat [litI "doc", optional (litI "s")]],
      .endAnchor]]

variable {ν : Type} (N : NumberTexts ν)

/-- A value with the issues that came up. -/
abbrev Checked (α : Type) := α × List String

def normalizeNonEmptyString (value : Option (Json ν)) (label : String) : Checked String :=
  match (value.bind asText).filter isUseful with
  | none => ("", [label ++ " must be a non-empty string"])
  | some text => (Text.trim text, [])

def normalizeStringArray (value : Option (Json ν)) (label : String) : Checked (List String) :=
  match value.bind asItems with
  | none => ([], [label ++ " must be a non-empty string array"])
  | some items =>
    let entries := ((items.map fun item => ((asText item).map Text.trim).getD "").filter
      (!·.isEmpty)).eraseDups
    (entries, if entries.isEmpty then [label ++ " must be a non-empty string array"] else [])

/-- `entry.replace(/\/+$/g, "")`. -/
def stripTrailingSlashes (s : String) : String :=
  String.ofList (s.toList.reverse.dropWhile (· == '/')).reverse

def normalizeScopeArray (value : Option (Json ν)) (label : String) : Checked (List String) :=
  let (raw, issues) := normalizeStringArray value label
  let entries := raw.map fun entry =>
    stripTrailingSlashes (Text.stripDotSlash (Text.forwardSlashes entry))
  (entries, issues ++ (entries.filter (test broadOrWildcardScopePattern)).map fun entry =>
    label ++ " must contain concrete file paths; invalid entry: " ++ entry)

def normalizeProposedChild (value : Json ν) (index : Nat) :
    Checked (Option AifPlanningDecisionChild) :=
  let label := "proposedChildren[" ++ toString index ++ "]"
  if !isObject value then (none, [label ++ " must be an object"])
  else
    let (title, titleIssues) := normalizeNonEmptyString (value.get? "title") (label ++ ".title")
    let taskIntent := (textField value "taskIntent").filter planningDecisionChildIntents.contains
    let intentIssues := if taskIntent.isSome then [] else
      [label ++ ".taskIntent must be one of " ++ Text.join ", " planningDecisionChildIntents]
    let (scope, scopeIssues) := normalizeScopeArray (value.get? "scope") (label ++ ".scope")
    let (acceptanceCriteria, criteriaIssues) :=
      normalizeStringArray (value.get? "acceptanceCriteria") (label ++ ".acceptanceCriteria")
    let (verificationCommands, commandIssues) :=
      normalizeStringArray (value.get? "verificationCommands") (label ++ ".verificationCommands")
    let (forbiddenChanges, forbiddenIssues) :=
      normalizeStringArray (value.get? "forbiddenChanges") (label ++ ".forbiddenChanges")
    let issues := titleIssues ++ intentIssues ++ scopeIssues ++ criteriaIssues ++ commandIssues ++
      forbiddenIssues
    match taskIntent with
    | none => (none, issues)
    | some taskIntent =>
      if title.isEmpty then (none, issues)
      else (some ⟨title, taskIntent, scope, acceptanceCriteria, verificationCommands,
        forbiddenChanges⟩, issues)

/-- The contract that a decision block states, or its issues. -/
def planningDecisionOf (taskId : String) (parsed : Json ν) :
    Except (List String) AifPlanningDecisionContract :=
  if !isObject parsed then .error ["decision block must be a JSON object"]
  else
    let decision := (textField parsed "decision").filter planningDecisions.contains
    let decisionIssues := if decision.isSome then [] else
      ["decision must be one of " ++ Text.join ", " planningDecisions]
    let (named, taskIssues) := normalizeNonEmptyString (parsed.get? "taskId") "taskId"
    let mismatch := if !named.isEmpty && named ≠ taskId then
      ["taskId mismatch: expected " ++ taskId ++ ", got " ++ named] else []
    let (reason, reasonIssues) := normalizeNonEmptyString (parsed.get? "reason") "reason"
    let rawChildren := (parsed.get? "proposedChildren").bind asItems
    let childrenIssues := if rawChildren.isSome then [] else ["proposedChildren must be an array"]
    let children := (rawChildren.getD []).zipIdx.map fun (child, index) =>
      normalizeProposedChild child index
    let proposedChildren := children.filterMap (·.1)
    let splitIssues := if decision = some "split_required" && proposedChildren.isEmpty then
      ["split_required requires at least one proposed child"] else []
    let issues := decisionIssues ++ taskIssues ++ mismatch ++ reasonIssues ++ childrenIssues ++
      children.flatMap (·.2) ++ splitIssues
    if issues.isEmpty then .ok ⟨decision.getD "", named, reason, proposedChildren⟩
    else .error issues

/-- The text of a `JSON.parse` error is the platform's. -/
def parseAifPlanningDecisionContract (jsonError : String → String) (text taskId : String) :
    Except (List String) AifPlanningDecisionContract :=
  match blocks planningDecisionLanguage text with
  | [] => .error ["missing_aif_planning_decision"]
  | [block] =>
    match parse N.read block.toList with
    | none => .error ["invalid_json: " ++ jsonError block]
    | some parsed => planningDecisionOf taskId parsed
  | _ => .error ["multiple_aif_planning_decision_blocks"]

end AifHandoff.Shared.Manifest
