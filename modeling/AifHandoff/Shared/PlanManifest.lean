import AifHandoff.Shared.ManifestBlocks

/-!
What the plan gate asks of the texts and paths of a plan manifest
(`shared/planQuality.ts`).
-/

namespace AifHandoff.Shared.PlanQuality

open Regex Json Manifest

/-- `/^(?:n\/?a|none|no(?:ne)?|tbd|todo|placeholder|manual|not applicable|unknown|later)$/i`. -/
def placeholder : Regex :=
  cat [.startAnchor,
    anyOf [cat [litI "n", optional (lit "/"), litI "a"], litI "none", .seq (litI "no")
      (optional (litI "ne")), litI "tbd", litI "todo", litI "placeholder", litI "manual",
      litI "not applicable", litI "unknown", litI "later"],
    .endAnchor]

def isUsefulManifestString (value : String) : Bool :=
  isUseful value && !test placeholder (Text.trim value)

/-- What stands behind a path in a sentence. -/
def isPathEnd (c : Char) : Bool := [')', ',', '.', ';', ']'].contains c

def normalizePath (path : String) : String :=
  let bare := Text.stripDotSlash (Text.forwardSlashes path)
  String.ofList (bare.toList.reverse.dropWhile isPathEnd).reverse

variable {ν : Type}

/-- The texts of an array that has some, all of them useful. -/
def usefulTexts (value : Json ν) : Option (List String) :=
  (asTexts value).filter fun texts => !texts.isEmpty && texts.all isUsefulManifestString

structure AifPlanManifestExpectedArtifact where
  kind : String
  paths : List String
  deriving DecidableEq

/-- `isExpectedArtifact(value)`, with what it is then. -/
def expectedArtifact (value : Json ν) : Option AifPlanManifestExpectedArtifact :=
  if isObject value then
    match (textField value "kind").filter isUsefulManifestString,
        (value.get? "paths").bind usefulTexts with
    | some kind, some paths => some ⟨kind, paths⟩
    | _, _ => none
  else none

/-- The expected artifacts of a manifest, if it lists some and each of them is one. -/
def expectedArtifacts (manifest : Json ν) : Option (List AifPlanManifestExpectedArtifact) :=
  match (manifest.get? "expectedArtifacts").bind asItems with
  | none => none
  | some items => if items.isEmpty then none else items.mapM expectedArtifact

/-- The scope of a manifest, if it names one. -/
def usefulScope (manifest : Json ν) : Option (List String) :=
  (manifest.get? "scope").bind usefulTexts

end AifHandoff.Shared.PlanQuality
