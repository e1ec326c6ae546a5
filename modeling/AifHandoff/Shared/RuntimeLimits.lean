import AifHandoff.Shared.ProviderMeta

/-!
Runtime-limit snapshots (`shared/types.ts`, `shared/runtimeLimitUtils.ts`).

A snapshot says what a provider reported about its limits, with one window for each of
them and metadata in the provider's own shape. A snapshot is normalised by sanitising the
metadata; its signature is the JSON text of what it says, apart from when it was taken,
with windows and keys in a fixed order.
-/

namespace AifHandoff.Shared

/-- The enumerations are cast when a snapshot is read back, so any text stands in them. An
absent value and `null` are one. -/
structure RuntimeLimitWindow (ν : Type) where
  scope : String
  name : Option String
  unit : Option String
  limit : Option ν
  remaining : Option ν
  used : Option ν
  percentUsed : Option ν
  percentRemaining : Option ν
  resetAt : Option String
  retryAfterSeconds : Option ν
  warningThreshold : Option ν
deriving DecidableEq

structure RuntimeLimitSnapshot (ν : Type) where
  source : String
  status : String
  precision : String
  checkedAt : String
  providerId : String
  runtimeId : Option String
  profileId : Option String
  primaryScope : Option String
  resetAt : Option String
  retryAfterSeconds : Option ν
  warningThreshold : Option ν
  windows : List (RuntimeLimitWindow ν)
  providerMeta : Json ν

/-! ### Normalising -/

section Normalizing

variable {ν : Type} (host : MetaHost ν)

def normalizeRuntimeLimitSnapshot (snapshot : RuntimeLimitSnapshot ν) :
    Except String (RuntimeLimitSnapshot ν) :=
  match sanitizeProviderMeta host (some snapshot.providerId) snapshot.providerMeta with
  | .ok providerMeta => .ok { snapshot with providerMeta }
  | .error error => .error error

inductive RuntimeLimitSnapshotExposure where
  | internal
  | task
  | chat
  | runtimeProfile
deriving DecidableEq

def externalProviderMetaKeys : List String :=
  toNormalizedKeySet ["accountId", "accountName", "accountLabel", "accountFingerprint"]

def sanitizeProviderMetaForExposure (providerMeta : Json ν)
    (exposure : RuntimeLimitSnapshotExposure) : Json ν :=
  match providerMeta with
  | .obj fields =>
    if exposure = .internal ∨ exposure = .runtimeProfile then .obj fields
    else
      let sanitized := fields.filter fun (key, _) =>
        !externalProviderMetaKeys.contains (normalizeMetaKey key)
      if sanitized.isEmpty then .null else .obj sanitized
  | _ => .null

def sanitizeRuntimeLimitSnapshotForExposure (snapshot : RuntimeLimitSnapshot ν)
    (exposure : RuntimeLimitSnapshotExposure) : Except String (RuntimeLimitSnapshot ν) :=
  match normalizeRuntimeLimitSnapshot host snapshot with
  | .ok normalized => .ok { normalized with
      providerMeta := sanitizeProviderMetaForExposure normalized.providerMeta exposure }
  | .error error => .error error

end Normalizing

/-! ### Signatures -/

section Signature

variable {ν : Type}

def JsScalars.toFiniteNumber (numbers : JsScalars ν) (value : Option ν) : Option ν :=
  value.filter numbers.isFinite

variable (host : MetaHost ν)

def normalizeWindowForSignature (window : RuntimeLimitWindow ν) : RuntimeLimitWindow ν where
  scope := window.scope
  name := window.name
  unit := window.unit
  limit := host.toFiniteNumber window.limit
  remaining := host.toFiniteNumber window.remaining
  used := host.toFiniteNumber window.used
  percentUsed := host.toFiniteNumber window.percentUsed
  percentRemaining := host.toFiniteNumber window.percentRemaining
  resetAt := window.resetAt
  retryAfterSeconds := host.toFiniteNumber window.retryAfterSeconds
  warningThreshold := host.toFiniteNumber window.warningThreshold

/-- `String(value ?? "")` of a finite number. -/
def numberKey (value : Option ν) : String := (value.map host.text).getD ""

def windowSortKey (window : RuntimeLimitWindow ν) : String :=
  "|".intercalate [window.scope, window.name.getD "", window.unit.getD "",
    numberKey host window.limit, numberKey host window.remaining, numberKey host window.used,
    numberKey host window.percentRemaining, window.resetAt.getD "",
    numberKey host window.retryAfterSeconds]

def textOrNull : Option String → Json ν
  | some s => .str s
  | none => .null

def numberOrNull : Option ν → Json ν
  | some n => .num n
  | none => .null

def windowRecord (window : RuntimeLimitWindow ν) : Json ν :=
  .obj [("scope", .str window.scope),
    ("name", textOrNull window.name),
    ("unit", textOrNull window.unit),
    ("limit", numberOrNull window.limit),
    ("remaining", numberOrNull window.remaining),
    ("used", numberOrNull window.used),
    ("percentUsed", numberOrNull window.percentUsed),
    ("percentRemaining", numberOrNull window.percentRemaining),
    ("resetAt", textOrNull window.resetAt),
    ("retryAfterSeconds", numberOrNull window.retryAfterSeconds),
    ("warningThreshold", numberOrNull window.warningThreshold)]

/-- The normalised windows in the order of their sort keys; the sort is stable. -/
def sortedWindows (windows : List (RuntimeLimitWindow ν)) : List (RuntimeLimitWindow ν) :=
  (windows.map (normalizeWindowForSignature host)).insertionSort fun left right =>
    (host.localeCompare (windowSortKey host left) (windowSortKey host right)).isLE

/-- What the signature is the text of. -/
def signatureRecord (snapshot : RuntimeLimitSnapshot ν) : Json ν :=
  .obj [("source", .str snapshot.source),
    ("status", .str snapshot.status),
    ("precision", .str snapshot.precision),
    ("providerId", .str snapshot.providerId),
    ("runtimeId", textOrNull snapshot.runtimeId),
    ("profileId", textOrNull snapshot.profileId),
    ("primaryScope", textOrNull snapshot.primaryScope),
    ("resetAt", textOrNull snapshot.resetAt),
    ("retryAfterSeconds", numberOrNull (host.toFiniteNumber snapshot.retryAfterSeconds)),
    ("warningThreshold", numberOrNull (host.toFiniteNumber snapshot.warningThreshold)),
    ("windows", .arr ((sortedWindows host snapshot.windows).map windowRecord)),
    ("providerMeta", snapshot.providerMeta)]

def signatureText (snapshot : RuntimeLimitSnapshot ν) : String :=
  String.ofList ((stableSortObjectKeys host (signatureRecord host snapshot)).stringify host.write)

def buildRuntimeLimitSignature (snapshot : RuntimeLimitSnapshot ν) : Except String String :=
  match sanitizeRuntimeLimitSnapshotForExposure host snapshot .internal with
  | .ok normalized => .ok (signatureText host normalized)
  | .error error => .error error

theorem sanitizeProviderMeta_cases {providerId : Option String} {providerMeta safe : Json ν}
    (returned : sanitizeProviderMeta host providerId providerMeta = .ok safe) :
    safe = .null ∨ ∃ fields, safe = .obj fields := by
  cases providerMeta with
  | obj fields =>
    cases found : allowedProviderMetaKeys providerId with
    | error error => simp [sanitizeProviderMeta, found] at returned
    | ok allowedKeys =>
      rw [sanitizeProviderMeta_obj host found] at returned
      cases returned
      split
      · exact .inl rfl
      split
      · exact .inr ⟨_, rfl⟩
      · exact .inr ⟨_, rfl⟩
  | null | bool _ | num _ | str _ | arr _ =>
    cases returned
    exact .inl rfl

theorem normalize_eq_ok_iff (snapshot normalized : RuntimeLimitSnapshot ν) :
    normalizeRuntimeLimitSnapshot host snapshot = .ok normalized ↔
      ∃ safe, sanitizeProviderMeta host (some snapshot.providerId) snapshot.providerMeta = .ok safe ∧
        normalized = { snapshot with providerMeta := safe } := by
  unfold normalizeRuntimeLimitSnapshot
  split
  next safe sanitized => simp [sanitized, eq_comm]
  next error sanitized => simp [sanitized]

theorem buildRuntimeLimitSignature_eq {snapshot normalized : RuntimeLimitSnapshot ν}
    (returned : normalizeRuntimeLimitSnapshot host snapshot = .ok normalized) :
    buildRuntimeLimitSignature host snapshot = .ok (signatureText host normalized) := by
  obtain ⟨safe, sanitized, rfl⟩ := (normalize_eq_ok_iff host _ _).mp returned
  rw [buildRuntimeLimitSignature, sanitizeRuntimeLimitSnapshotForExposure, returned]
  dsimp only
  rcases sanitizeProviderMeta_cases host sanitized with rfl | ⟨fields, rfl⟩
  · rfl
  · rfl

end Signature

end AifHandoff.Shared
