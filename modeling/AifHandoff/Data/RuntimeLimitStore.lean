import AifHandoff.Shared.ProviderMetaPlain
import AifHandoff.Shared.RuntimeLimits

/-!
Runtime-limit snapshots written to the database and read back
(`serializeRuntimeLimitSnapshot`, `parseRuntimeLimitSnapshot`, `data/index.ts`).

A snapshot is stored as its JSON text, normalised before and normalised again when it is
read. Redaction marks its own marks, texts are cut a second time, and the marker of
metadata that were too long is itself no allowed key, so the second pass is not always
without effect.
-/

namespace AifHandoff.Data

open Shared
open Json (Distinct FiniteNumbers Plain finiteOrNull)

section Store

variable {ν : Type} (host : MetaHost ν) (read : List Char → ν)

/-! ### Writing and reading -/

def snapshotRecord (snapshot : RuntimeLimitSnapshot ν) : Json ν :=
  .obj [("source", .str snapshot.source),
    ("status", .str snapshot.status),
    ("precision", .str snapshot.precision),
    ("checkedAt", .str snapshot.checkedAt),
    ("providerId", .str snapshot.providerId),
    ("runtimeId", textOrNull snapshot.runtimeId),
    ("profileId", textOrNull snapshot.profileId),
    ("primaryScope", textOrNull snapshot.primaryScope),
    ("resetAt", textOrNull snapshot.resetAt),
    ("retryAfterSeconds", numberOrNull snapshot.retryAfterSeconds),
    ("warningThreshold", numberOrNull snapshot.warningThreshold),
    ("windows", .arr (snapshot.windows.map windowRecord)),
    ("providerMeta", snapshot.providerMeta)]

def serializeRuntimeLimitSnapshot (snapshot : Option (RuntimeLimitSnapshot ν)) : Option String :=
  snapshot.map fun snapshot => String.ofList ((snapshotRecord snapshot).stringify host.write)

def readStoredOptionalFiniteNumber (record : List (String × Json ν)) (key : String) : Option ν :=
  match record.lookup key with
  | some (.num n) => if host.isFinite n then some n else none
  | _ => none

def readStoredOptionalString (record : List (String × Json ν)) (key : String) : Option String :=
  match record.lookup key with
  | some (.str s) => some s
  | _ => none

def parseRuntimeLimitWindow (value : Json ν) : Option (RuntimeLimitWindow ν) :=
  match value with
  | .obj record =>
    match record.lookup "scope" with
    | some (.str scope) => some {
        scope
        name := readStoredOptionalString record "name"
        unit := readStoredOptionalString record "unit"
        limit := readStoredOptionalFiniteNumber host record "limit"
        remaining := readStoredOptionalFiniteNumber host record "remaining"
        used := readStoredOptionalFiniteNumber host record "used"
        percentUsed := readStoredOptionalFiniteNumber host record "percentUsed"
        percentRemaining := readStoredOptionalFiniteNumber host record "percentRemaining"
        resetAt := readStoredOptionalString record "resetAt"
        retryAfterSeconds := readStoredOptionalFiniteNumber host record "retryAfterSeconds"
        warningThreshold := readStoredOptionalFiniteNumber host record "warningThreshold" }
    | _ => none
  | _ => none

/-- A snapshot of the record, or nothing where a required field is missing or a window is
malformed. -/
def readRuntimeLimitSnapshot (parsed : Json ν) : Option (RuntimeLimitSnapshot ν) :=
  match parsed with
  | .obj record =>
    match record.lookup "source", record.lookup "status", record.lookup "precision",
      record.lookup "checkedAt", record.lookup "providerId", record.lookup "windows" with
    | some (.str source), some (.str status), some (.str precision), some (.str checkedAt),
        some (.str providerId), some (.arr windows) =>
        (windows.mapM (parseRuntimeLimitWindow host)).map fun windows => {
          source, status, precision, checkedAt, providerId
          runtimeId := readStoredOptionalString record "runtimeId"
          profileId := readStoredOptionalString record "profileId"
          primaryScope := readStoredOptionalString record "primaryScope"
          resetAt := readStoredOptionalString record "resetAt"
          retryAfterSeconds := readStoredOptionalFiniteNumber host record "retryAfterSeconds"
          warningThreshold := readStoredOptionalFiniteNumber host record "warningThreshold"
          windows
          providerMeta := match record.lookup "providerMeta" with
            | some (.obj fields) => .obj fields
            | _ => .null }
    | _, _, _, _, _, _ => none
  | _ => none

/-- An exception of the parser or of the sanitising is caught. -/
def parseRuntimeLimitSnapshot (raw : Option String) : Option (RuntimeLimitSnapshot ν) :=
  match raw with
  | none => none
  | some raw =>
    if raw.isEmpty then none
    else ((Json.parse read raw.toList).bind (readRuntimeLimitSnapshot host)).bind fun snapshot =>
      (normalizeRuntimeLimitSnapshot host snapshot).toOption

/-! ### The stored form -/

/-- What is left of a snapshot in the text: numbers that are not finite are written as
`null`. -/
def storedForm (snapshot : RuntimeLimitSnapshot ν) : RuntimeLimitSnapshot ν :=
  { snapshot with
    retryAfterSeconds := host.toFiniteNumber snapshot.retryAfterSeconds
    warningThreshold := host.toFiniteNumber snapshot.warningThreshold
    windows := snapshot.windows.map (normalizeWindowForSignature host) }

theorem bind_textOrNull (s : Option String) :
    Json.bind (finiteOrNull host.isFinite) (textOrNull s) = textOrNull s := by
  cases s <;> rw [textOrNull, Json.bind]

theorem bind_numberOrNull (n : Option ν) :
    Json.bind (finiteOrNull host.isFinite) (numberOrNull n) =
      numberOrNull (host.toFiniteNumber n) := by
  cases n with
  | none => rw [numberOrNull, Json.bind, JsScalars.toFiniteNumber, Option.filter_none, numberOrNull]
  | some n =>
    rw [numberOrNull, Json.bind, finiteOrNull, JsScalars.toFiniteNumber, Option.filter_some]
    split <;> rfl

theorem bind_windowRecord (window : RuntimeLimitWindow ν) :
    Json.bind (finiteOrNull host.isFinite) (windowRecord window) =
      windowRecord (normalizeWindowForSignature host window) := by
  rw [windowRecord, Json.bind, Json.bindFields_eq]
  simp only [List.map_cons, List.map_nil, bind_textOrNull, bind_numberOrNull, Json.bind]
  rfl

theorem bind_snapshotRecord {snapshot : RuntimeLimitSnapshot ν}
    (plain : Plain host.isFinite snapshot.providerMeta) :
    Json.bind (finiteOrNull host.isFinite) (snapshotRecord snapshot) =
      snapshotRecord (storedForm host snapshot) := by
  rw [snapshotRecord, Json.bind, Json.bindFields_eq]
  simp only [List.map_cons, List.map_nil, bind_textOrNull, bind_numberOrNull, Json.bind,
    Json.bindItems_eq, List.map_map, plain.finite]
  have windows : Json.bind (finiteOrNull host.isFinite) ∘ windowRecord =
      windowRecord ∘ normalizeWindowForSignature host :=
    funext (bind_windowRecord host)
  rw [windows, ← List.map_map]
  rfl

theorem toFiniteNumber_idem (n : Option ν) :
    host.toFiniteNumber (host.toFiniteNumber n) = host.toFiniteNumber n := by
  rw [JsScalars.toFiniteNumber, JsScalars.toFiniteNumber, Option.filter_filter]
  simp only [Bool.and_self]

theorem normalizeWindowForSignature_idem (window : RuntimeLimitWindow ν) :
    normalizeWindowForSignature host (normalizeWindowForSignature host window) =
      normalizeWindowForSignature host window := by
  simp only [normalizeWindowForSignature, toFiniteNumber_idem]

theorem readText_textOrNull {record : List (String × Json ν)} {key : String} {s : Option String}
    (found : record.lookup key = some (textOrNull s)) : readStoredOptionalString record key = s := by
  rw [readStoredOptionalString, found]
  cases s <;> rfl

theorem readNumber_numberOrNull {record : List (String × Json ν)} {key : String} {n : Option ν}
    (found : record.lookup key = some (numberOrNull n)) :
    readStoredOptionalFiniteNumber host record key = host.toFiniteNumber n := by
  rw [readStoredOptionalFiniteNumber, found]
  cases n with
  | none => rfl
  | some n => rw [JsScalars.toFiniteNumber, Option.filter_some, numberOrNull]

theorem parseWindow_record (window : RuntimeLimitWindow ν) :
    parseRuntimeLimitWindow host (windowRecord window) =
      some (normalizeWindowForSignature host window) := by
  unfold parseRuntimeLimitWindow windowRecord
  dsimp only
  rw [readText_textOrNull (s := window.name) rfl, readText_textOrNull (s := window.unit) rfl,
    readText_textOrNull (s := window.resetAt) rfl,
    readNumber_numberOrNull host (n := window.limit) rfl,
    readNumber_numberOrNull host (n := window.remaining) rfl,
    readNumber_numberOrNull host (n := window.used) rfl,
    readNumber_numberOrNull host (n := window.percentUsed) rfl,
    readNumber_numberOrNull host (n := window.percentRemaining) rfl,
    readNumber_numberOrNull host (n := window.retryAfterSeconds) rfl,
    readNumber_numberOrNull host (n := window.warningThreshold) rfl]
  rfl

theorem storedForm_idem (snapshot : RuntimeLimitSnapshot ν) :
    storedForm host (storedForm host snapshot) = storedForm host snapshot := by
  simp only [storedForm, toFiniteNumber_idem, List.map_map]
  have windows : normalizeWindowForSignature host ∘ normalizeWindowForSignature host =
      normalizeWindowForSignature host := funext (normalizeWindowForSignature_idem host)
  rw [windows]

theorem mapM_parseWindow (windows : List (RuntimeLimitWindow ν)) :
    (windows.map windowRecord).mapM (parseRuntimeLimitWindow host) =
      some (windows.map (normalizeWindowForSignature host)) := by
  induction windows with
  | nil => rfl
  | cons window rest ih =>
    rw [List.map_cons, List.mapM_cons, parseWindow_record, ih]
    rfl

theorem readSnapshot_record {snapshot : RuntimeLimitSnapshot ν}
    (container : snapshot.providerMeta = .null ∨ ∃ fields, snapshot.providerMeta = .obj fields) :
    readRuntimeLimitSnapshot host (snapshotRecord snapshot) = some (storedForm host snapshot) := by
  have windows := mapM_parseWindow host snapshot.windows
  unfold readRuntimeLimitSnapshot snapshotRecord
  dsimp only
  rw [readText_textOrNull (s := snapshot.runtimeId) rfl,
    readText_textOrNull (s := snapshot.profileId) rfl,
    readText_textOrNull (s := snapshot.primaryScope) rfl,
    readText_textOrNull (s := snapshot.resetAt) rfl,
    readNumber_numberOrNull host (n := snapshot.retryAfterSeconds) rfl,
    readNumber_numberOrNull host (n := snapshot.warningThreshold) rfl]
  simp only [List.lookup_cons, String.reduceBEq, windows, Option.map_some]
  obtain ⟨source, status, precision, checkedAt, providerId, runtimeId, profileId, primaryScope,
    resetAt, retryAfterSeconds, warningThreshold, windows, providerMeta⟩ := snapshot
  rcases container with rfl | ⟨fields, rfl⟩
  · rfl
  · rfl

/-- What is read back is the stored form, normalised. -/
theorem parse_serialize (numbers : FiniteNumbers host.isFinite host.text read)
    {snapshot : RuntimeLimitSnapshot ν} (plain : Plain host.isFinite snapshot.providerMeta)
    (container : snapshot.providerMeta = .null ∨ ∃ fields, snapshot.providerMeta = .obj fields) :
    parseRuntimeLimitSnapshot host read (serializeRuntimeLimitSnapshot host (some snapshot)) =
      (normalizeRuntimeLimitSnapshot host (storedForm host snapshot)).toOption := by
  have distinct : Distinct (snapshotRecord snapshot) := by
    rw [snapshotRecord, Distinct, Json.distinctFields_iff]
    refine ⟨by simp, ?_⟩
    have text (s : Option String) : Distinct (textOrNull s : Json ν) := by cases s <;> exact trivial
    have number (n : Option ν) : Distinct (numberOrNull n) := by cases n <;> exact trivial
    have windows : Distinct (.arr (snapshot.windows.map windowRecord) : Json ν) := by
      rw [Distinct, Json.distinctItems_iff]
      intro record inside
      obtain ⟨window, -, rfl⟩ := List.mem_map.mp inside
      rw [windowRecord, Distinct, Json.distinctFields_iff]
      refine ⟨by simp, ?_⟩
      simp only [List.forall_mem_cons, text, number, List.not_mem_nil, false_implies, implies_true,
        and_true]
      exact trivial
    simp only [List.forall_mem_cons, text, number, windows, plain.distinct, List.not_mem_nil,
      false_implies, implies_true, and_true]
    exact ⟨trivial, trivial, trivial, trivial, trivial⟩
  have parsed := Json.parse_stringify_finite numbers distinct
  rw [bind_snapshotRecord host plain] at parsed
  have written : ((snapshotRecord snapshot).stringify host.write) ≠ [] := by
    rw [snapshotRecord, Json.stringify]
    exact List.cons_ne_nil _ _
  rw [serializeRuntimeLimitSnapshot, Option.map_some, parseRuntimeLimitSnapshot, if_neg (by simpa),
    String.toList_ofList]
  change ((Json.parse read ((snapshotRecord snapshot).stringify
    (Json.writeFinite host.isFinite host.text))).bind _).bind _ = _
  rw [parsed, Option.bind_some, @readSnapshot_record _ host (storedForm host snapshot) container,
    storedForm_idem, Option.bind_some]

theorem signatureText_storedForm (snapshot : RuntimeLimitSnapshot ν) :
    signatureText host (storedForm host snapshot) = signatureText host snapshot := by
  have windows : normalizeWindowForSignature host ∘ normalizeWindowForSignature host =
      normalizeWindowForSignature host := funext (normalizeWindowForSignature_idem host)
  rw [signatureText, signatureText, signatureRecord, signatureRecord, sortedWindows, sortedWindows]
  simp only [storedForm, toFiniteNumber_idem, List.map_map, windows]

/-! ### Normalising twice -/

/-- A snapshot normalised twice, or stored and read back, is as it was after the first time
exactly if its metadata fit without truncation and their kept entries are settled. A
provider id that names an inherited property is refused with an exception. -/
theorem normalizeRuntimeLimitSnapshot_twice_iff
    (numbers : FiniteNumbers host.isFinite host.text read) (snapshot : RuntimeLimitSnapshot ν)
    (keysOnce : Distinct snapshot.providerMeta) :
    (∃ normalized, normalizeRuntimeLimitSnapshot host snapshot = .ok normalized ∧
        normalizeRuntimeLimitSnapshot host normalized = .ok normalized ∧
        ∃ back, parseRuntimeLimitSnapshot host read
            (serializeRuntimeLimitSnapshot host (some normalized)) = some back ∧
          buildRuntimeLimitSignature host back = buildRuntimeLimitSignature host snapshot ∧
          back.providerMeta = normalized.providerMeta) ↔
      ∀ fields, snapshot.providerMeta = .obj fields →
        ∃ allowedKeys, allowedProviderMetaKeys (some snapshot.providerId) = .ok allowedKeys ∧
          jsonBytes host (.obj (sanitizedMeta host allowedKeys fields)) ≤ maxProviderMetaBytes ∧
            settledMeta host allowedKeys fields = true := by
  rw [← sanitizeProviderMeta_twice_iff]
  constructor
  · rintro ⟨normalized, once, twice, -⟩
    obtain ⟨safe, sanitized, rfl⟩ := (normalize_eq_ok_iff host _ _).mp once
    obtain ⟨again, sanitized', same⟩ := (normalize_eq_ok_iff host _ _).mp twice
    have unchanged : safe = again := congrArg RuntimeLimitSnapshot.providerMeta same
    exact ⟨safe, sanitized, unchanged ▸ sanitized'⟩
  · rintro ⟨safe, sanitized, sanitized'⟩
    have once : normalizeRuntimeLimitSnapshot host snapshot =
        .ok { snapshot with providerMeta := safe } :=
      (normalize_eq_ok_iff host _ _).mpr ⟨safe, sanitized, rfl⟩
    generalize stored : { snapshot with providerMeta := safe } = normalized at once
    have providerId : normalized.providerId = snapshot.providerId := by rw [← stored]
    have providerMeta : normalized.providerMeta = safe := by rw [← stored]
    have stays (other : RuntimeLimitSnapshot ν) (id : other.providerId = snapshot.providerId)
        (safe_ : other.providerMeta = safe) : normalizeRuntimeLimitSnapshot host other = .ok other := by
      refine (normalize_eq_ok_iff host _ _).mpr ⟨safe, ?_, ?_⟩
      · rw [id, safe_, sanitized']
      · rw [← safe_]
    have plain : Plain host.isFinite normalized.providerMeta :=
      providerMeta ▸ plain_sanitizeProviderMeta host keysOnce sanitized
    have container := providerMeta ▸ sanitizeProviderMeta_cases host sanitized
    have back := stays (storedForm host normalized) providerId providerMeta
    refine ⟨normalized, once, stays normalized providerId providerMeta, storedForm host normalized, ?_, ?_, rfl⟩
    · rw [parse_serialize host read numbers plain container, back]
      rfl
    · rw [buildRuntimeLimitSignature_eq host back, buildRuntimeLimitSignature_eq host once,
        signatureText_storedForm]

end Store

/-! ### A redacted status -/

/-- A snapshot of Codex with a status. -/
def statusSnapshot (status : String) : RuntimeLimitSnapshot Nat where
  source := "sdk_event"
  status := "blocked"
  precision := "heuristic"
  checkedAt := "2026-04-17T10:00:00.000Z"
  providerId := "codex"
  runtimeId := none
  profileId := none
  primaryScope := none
  resetAt := none
  retryAfterSeconds := none
  warningThreshold := none
  windows := []
  providerMeta := .obj [("status", .str status)]

theorem keysOnce_statusSnapshot (status : String) : Distinct (statusSnapshot status).providerMeta :=
  ⟨by simp, trivial, trivial⟩

/-- A status without a secret is stored as it is. -/
theorem normalizeRuntimeLimitSnapshot_twice_plainStatus :
    ∃ normalized,
      normalizeRuntimeLimitSnapshot asciiHost (statusSnapshot "limited") = .ok normalized ∧
      normalizeRuntimeLimitSnapshot asciiHost normalized = .ok normalized ∧
      ∃ back, parseRuntimeLimitSnapshot asciiHost Json.decimalNumbers.read
          (serializeRuntimeLimitSnapshot asciiHost (some normalized)) = some back ∧
        buildRuntimeLimitSignature asciiHost back =
          buildRuntimeLimitSignature asciiHost (statusSnapshot "limited") ∧
        back.providerMeta = normalized.providerMeta := by
  refine (normalizeRuntimeLimitSnapshot_twice_iff asciiHost Json.decimalNumbers.read
    finiteNumbers_ascii (statusSnapshot "limited") (keysOnce_statusSnapshot "limited")).mpr ?_
  rintro fields same
  cases same
  refine ⟨_, rfl, ?_, ?_⟩
  · decide +kernel
  · decide +kernel

theorem redacted_status_changes :
    ¬ ∀ snapshot : RuntimeLimitSnapshot Nat, Distinct snapshot.providerMeta →
      ∃ normalized, normalizeRuntimeLimitSnapshot asciiHost snapshot = .ok normalized ∧
        normalizeRuntimeLimitSnapshot asciiHost normalized = .ok normalized := by
  intro unchanging
  obtain ⟨normalized, once, twice⟩ := unchanging (statusSnapshot "token=abc") (keysOnce_statusSnapshot _)
  obtain ⟨safe, sanitized, rfl⟩ := (normalize_eq_ok_iff asciiHost _ _).mp once
  obtain ⟨again, sanitized', same⟩ := (normalize_eq_ok_iff asciiHost _ _).mp twice
  have unchanged : safe = again := congrArg RuntimeLimitSnapshot.providerMeta same
  have condition := (sanitizeProviderMeta_twice_iff asciiHost (some "codex")
    (.obj [("status", .str "token=abc")])).mp ⟨safe, sanitized, unchanged ▸ sanitized'⟩
  obtain ⟨allowedKeys, found, -, settled⟩ := condition _ rfl
  have noSchema : providerMetaNestedSchemas.lookup (normalizeMetaKey "status") = none := by
    decide
  have value : settledValue asciiHost.toJsScalars (.str "token=abc") 0 none =
      settles asciiHost.toJsScalars "token=abc" := rfl
  have redactedAgain : settles asciiHost.toJsScalars "token=abc" = false := by decide +kernel
  rw [settledMeta, List.all_cons, keepsMetaKey_status found, noSchema, value, redactedAgain] at settled
  cases settled

end AifHandoff.Data
