import AifHandoff.Lib.FencedBlocks
import AifHandoff.Lib.JsonPrefix
import AifHandoff.Lib.SortedSet
import Mathlib.Data.List.Lex

/-!
The contracts that agents write into their texts as fenced JSON
(`shared/implementationManifest.ts`, `shared/planQuality.ts`).

An implementation manifest is looked for as a block of its language, then as a `json` block
behind a mention of the language, then as a bare object behind the only mention. A plan has
its manifest in the only block of that language.
-/

namespace AifHandoff.Shared.Manifest

open Regex Json

/-- What the manifests take from the platform. -/
structure Env where
  toLowerCase : String → String
  localeCompare : Collation String
  sha256 : List Char → String

variable {ν : Type} (N : NumberTexts ν)

/-! ### Reading JSON values -/

def isObject : Json ν → Bool
  | .obj _ => true
  | _ => false

def parseJsonObject (raw : String) : Option (Json ν) :=
  (parse N.read raw.toList).filter isObject

/-- The text of a string value. -/
def asText : Json ν → Option String
  | .str text => some text
  | _ => none

/-- The texts of an array of strings. -/
def asTexts : Json ν → Option (List String)
  | .arr items => items.mapM asText
  | _ => none

def asItems : Json ν → Option (List (Json ν))
  | .arr items => some items
  | _ => none

/-- `usefulString(value)`. -/
def isUseful (text : String) : Bool := !(Text.trim text).isEmpty

/-- A field that is a string, useful or not. -/
def textField (value : Json ν) (key : String) : Option String := (value.get? key).bind asText

def usefulField (value : Json ν) (key : String) : Option String :=
  (textField value key).filter isUseful

/-- A field that is an array of strings, `[]` for anything else. -/
def textsField (value : Json ν) (key : String) : List String :=
  ((value.get? key).bind asTexts).getD []

/-! ### JSON text with sorted keys -/

/-- The order of `sort()` without a comparison: by UTF-16 code units. -/
def codeUnitOrder : Collation String where
  le left right := decide (left.toList.flatMap Text.codeUnits ≤ right.toList.flatMap Text.codeUnits)
  total left right := by
    simpa using le_total (left.toList.flatMap Text.codeUnits)
      (right.toList.flatMap Text.codeUnits)
  trans left middle right first second := by
    simpa using le_trans (of_decide_eq_true first) (of_decide_eq_true second)

mutual

def stableStringify : Json ν → List Char
  | .arr items => '[' :: List.intercalate [','] (stableItems items) ++ [']']
  | .obj fields =>
    let entries := (stableFields fields).mergeSort fun left right =>
      codeUnitOrder.le left.1 right.1
    '\x7b' :: List.intercalate [','] (entries.map fun (key, text) => quote key ++ ':' :: text)
      ++ ['\x7d']
  | value => stringify N.write value

def stableItems : List (Json ν) → List (List Char)
  | [] => []
  | item :: rest => stableStringify item :: stableItems rest

def stableFields : List (String × Json ν) → List (String × List Char)
  | [] => []
  | (key, value) :: rest => (key, stableStringify value) :: stableFields rest

end

/-! ### Paths -/

def normalizePath (path : String) : String :=
  Text.trim (Text.stripDotSlash (Text.forwardSlashes path))

def sortedUniquePaths (env : Env) (paths : List String) : List String :=
  sortedSet env.localeCompare ((paths.map normalizePath).filter (!·.isEmpty))

/-! ### The implementation manifest block -/

def implementationManifestLanguage : String := "aif-implementation-manifest"

def planManifestLanguage : String := "aif-plan-manifest"

/-- `\baif-implementation-manifest\b` under the `i` flag. -/
def implementationManifestLabel : Regex :=
  cat [.wordBoundary, litI implementationManifestLanguage, .wordBoundary]

/-- The matches of a global pattern, each with all the text before it. -/
def matchesWithPrefix (r : Regex) (text : String) : List (List Char × Hit) :=
  ((matchAll r text).foldl (fun (seen, found) hit =>
    (seen ++ hit.skipped ++ hit.matched, found ++ [(seen ++ hit.skipped, hit)])) ([], [])).2

/-- The state of `extractBalancedJsonObject` in its loop. -/
structure Scan where
  depth : Nat := 0
  inString : Bool := false
  escaping : Bool := false

/-- The text up to the brace that closes the first one. -/
def extractBalanced : Scan → List Char → Option (List Char)
  | _, [] => none
  | scan, c :: rest =>
    if scan.inString then
      let next :=
        if scan.escaping then { scan with escaping := false }
        else if c = '\\' then { scan with escaping := true }
        else if c = '"' then { scan with inString := false }
        else scan
      (extractBalanced next rest).map (c :: ·)
    else if c = '"' then (extractBalanced { scan with inString := true } rest).map (c :: ·)
    else if c = '\x7b' then
      (extractBalanced { scan with depth := scan.depth + 1 } rest).map (c :: ·)
    else if c = '\x7d' then
      match scan.depth with
      | 0 => none
      | 1 => some [c]
      | depth + 1 => (extractBalanced { scan with depth } rest).map (c :: ·)
    else (extractBalanced scan rest).map (c :: ·)

def extractBalancedJsonObject (text : List Char) : Option String :=
  (extractBalanced {} text).map String.ofList

/-- What may stand between the label and the object. -/
def isSeparatorChar (c : Char) : Bool := Text.isSpace c || [':', '*', '-', '#', '>'].contains c

def extractLabeledBareImplementationManifest (text : String) : Option String :=
  match matchAll implementationManifestLabel text with
  | [label] =>
    let separator := label.next.after.takeWhile (· != '\x7b')
    let object := label.next.after.dropWhile (· != '\x7b')
    if object.isEmpty then none
    else if !separator.all isSeparatorChar then none
    else match extractBalancedJsonObject object with
      | none => none
      | some rawJson =>
        if rawJson.isEmpty || (parseJsonObject N rawJson).isNone then none
        else some (Text.trim rawJson)
  | _ => none

def extractImplementationManifestBlock (text : Option String) : Option String :=
  match text.filter (!·.isEmpty) with
  | none => none
  | some text =>
    match blocks implementationManifestLanguage text with
    | [block] => some (Text.trim block)
    | _ :: _ :: _ => none
    | [] =>
      let jsonMatches := (matchesWithPrefix (fence "json") text).filter fun (before, _) =>
        test implementationManifestLabel (String.ofList (Text.lastUnits 240 before))
      match jsonMatches with
      | [(_, hit)] => some (Text.trim (hit.group 1))
      | _ :: _ :: _ => none
      | [] => extractLabeledBareImplementationManifest N text

/-! ### The plan manifest -/

structure AifPlanManifestSnapshot where
  hash : Option String
  acceptanceCriterionIds : List String
  scope : List String
  expectedArtifactPaths : List String
  verificationCommands : List String

def emptySnapshot : AifPlanManifestSnapshot := ⟨none, [], [], [], []⟩

def expectedArtifactPathsFromManifest (parsed : Option (Json ν)) : List String :=
  match parsed.bind fun value => (value.get? "expectedArtifacts").bind asItems with
  | none => []
  | some artifacts => (artifacts.filter isObject).flatMap fun artifact =>
    match textField artifact "path" with
    | some path => [path]
    | none => textsField artifact "paths"

/-- The trimmed ids of the criteria that have one. -/
def criterionIds (parsed : Json ν) : List String :=
  (((parsed.get? "acceptanceCriteria").bind asItems).getD []).filterMap fun entry =>
    if isObject entry then (usefulField entry "id").map Text.trim else none

/-- What a plan manifest says, from its text. -/
def snapshotOf (env : Env) (raw : String) : AifPlanManifestSnapshot :=
  let parsed := parseJsonObject N raw
  { hash := some (env.sha256 (match parsed with
      | some value => stableStringify N value
      | none => raw.toList))
    acceptanceCriterionIds := sortedSet env.localeCompare ((parsed.map criterionIds).getD [])
    scope := sortedUniquePaths env ((parsed.map (textsField · "scope")).getD [])
    expectedArtifactPaths := sortedUniquePaths env (expectedArtifactPathsFromManifest parsed)
    verificationCommands :=
      ((((parsed.map (textsField · "verificationCommands")).getD []).map Text.trim).filter
        (!·.isEmpty)).eraseDups }

def readAifPlanManifestSnapshot (env : Env) (plan : Option String) : AifPlanManifestSnapshot :=
  match plan.filter (!·.isEmpty) with
  | none => emptySnapshot
  | some plan =>
    match blocks planManifestLanguage plan with
    | [block] => snapshotOf N env (Text.trim block)
    | _ => emptySnapshot

/-- `extractPlanManifestBlocks` of `planQuality.ts`. -/
def extractPlanManifestBlocks (plan : String) : List String :=
  (blocks planManifestLanguage plan).map Text.trim

end AifHandoff.Shared.Manifest
