import AifHandoff.Lib.JsonKeys
import AifHandoff.Lib.JsonTexts
import AifHandoff.Lib.Utf8
import AifHandoff.Shared.ProviderText

/-!
Sanitised provider metadata (`sanitizeProviderMeta`, `shared/runtimeLimitUtils.ts`).

Allowed keys are kept. Texts are redacted and cut, the two usage summaries are read by
their schemas, and any other array or object becomes the redacted text of its JSON. What
takes more than 4096 bytes is replaced by a record of its status.
-/

namespace AifHandoff.Shared

open Text

/-! ### Keys -/

def maxProviderMetaBytes : Nat := 4096

def maxProviderMetaDepth : Nat := 4

def maxProviderMetaObjectKeys : Nat := 24

def maxProviderMetaArrayItems : Nat := 24

def normalizeMetaKey (value : String) : String := toLowerCase (trim value)

def toNormalizedKeySet (values : List String) : List String := values.map normalizeMetaKey

def genericAllowedProviderMetaKeys : List String :=
  toNormalizedKeySet ["status", "reason", "category", "providerFamily", "providerLabel",
    "quotaSource", "limitId", "planType", "accountId", "accountName", "accountLabel",
    "accountFingerprint", "isUsingOverage", "surpassedThreshold", "rateLimitType",
    "retryAfterSeconds", "resetAt", "windowHours", "modelUsageSummary", "toolUsageSummary"]

/-- The keys of Anthropic and Claude. -/
def anthropicKeys : List String :=
  toNormalizedKeySet ["providerFamily", "providerLabel", "quotaSource", "planType", "accountId",
    "accountName", "accountLabel", "accountFingerprint", "isUsingOverage", "surpassedThreshold",
    "rateLimitType", "retryAfterSeconds", "resetAt", "modelUsageSummary", "toolUsageSummary"]

/-- The keys of OpenAI and OpenRouter. -/
def openaiKeys : List String :=
  toNormalizedKeySet ["status", "reason", "category", "retryAfterSeconds", "resetAt",
    "rateLimitType"]

def providerMetaAllowlist : List (String × List String) :=
  [("anthropic", anthropicKeys), ("claude", anthropicKeys), ("openai", openaiKeys),
    ("openrouter", openaiKeys),
    ("codex", toNormalizedKeySet ["status", "reason", "category", "retryAfterSeconds", "resetAt",
      "rateLimitType", "limitId", "accountLabel", "accountFingerprint", "providerLabel",
      "planType", "modelUsageSummary", "toolUsageSummary"])]

def forbiddenProviderMetaKeys : List String :=
  toNormalizedKeySet ["headers", "header", "body", "raw", "response", "request", "payload",
    "stderr", "stdout", "stack", "trace", "traceback", "dump", "diagnostics", "debug",
    "authorization", "cookie", "set-cookie", "token", "apiKey", "api_key", "secret",
    "secret_token", "password", "credentials"]

/-! ### Schemas -/

inductive ProviderMetaSchema where
  | array (item : Option ProviderMetaSchema)
  | object (allowedKeys : List String) (nested : List (String × ProviderMetaSchema))

def normalizeSchemaRecord (values : List (String × ProviderMetaSchema)) :
    List (String × ProviderMetaSchema) :=
  values.map fun (key, value) => (normalizeMetaKey key, value)

def modelUsageItemSchema : ProviderMetaSchema :=
  .object (toNormalizedKeySet ["modelName", "totalTokens"]) []

def toolUsageItemSchema : ProviderMetaSchema :=
  .object (toNormalizedKeySet ["toolName", "totalCount"]) []

def providerMetaNestedSchemas : List (String × ProviderMetaSchema) :=
  normalizeSchemaRecord
    [("modelUsageSummary",
        .object
          (toNormalizedKeySet ["granularity", "sampledAt", "totalModelCallCount",
            "totalTokensUsage", "topModels", "windowHours"])
          (normalizeSchemaRecord [("topModels", .array (some modelUsageItemSchema))])),
      ("toolUsageSummary",
        .object
          (toNormalizedKeySet ["granularity", "sampledAt", "totalNetworkSearchCount",
            "totalWebReadMcpCount", "totalZreadMcpCount", "totalSearchMcpCount", "tools",
            "windowHours"])
          (normalizeSchemaRecord [("tools", .array (some toolUsageItemSchema))]))]

/-- The status is no forbidden key, and has no schema of its own. -/
theorem status_unreserved :
    forbiddenProviderMetaKeys.contains (normalizeMetaKey "status") = false ∧
      providerMetaNestedSchemas.lookup (normalizeMetaKey "status") = none := by
  decide

/-! ### Values -/

/-- The numbers of the language: which are finite, and the text of a finite one. And what stands
for half a surrogate pair in a text that was cut. -/
structure JsScalars (ν : Type) where
  isFinite : ν → Bool
  text : ν → String
  halves : Halves

/-- What `JSON.stringify` writes for a number. -/
def JsScalars.write {ν : Type} (numbers : JsScalars ν) (n : ν) : List Char :=
  if numbers.isFinite n then (numbers.text n).toList else ['n', 'u', 'l', 'l']

section Sanitizing

variable {ν : Type} (numbers : JsScalars ν)

/-- The redacted JSON text of the value, however long. -/
def opaqueText (value : Json ν) : String :=
  redactValues (String.ofList (value.stringify numbers.write))

def sanitizeOpaqueProviderMetaContainer (value : Json ν) : Json ν := .str (opaqueText numbers value)

/-- `sanitizeProviderMetaValue`, given what the structured sanitising of the value is. -/
def sanitizeProviderMetaValueBy (structured : ProviderMetaSchema → Json ν) (value : Json ν)
    (depth : Nat) (schema : Option ProviderMetaSchema) : Json ν :=
  if maxProviderMetaDepth < depth then .str "[TRUNCATED_DEPTH]"
  else match value with
    | .str s => .str (redactProviderTextBy numbers.halves.high s)
    | .num n => if numbers.isFinite n then .num n else .null
    | .bool b => .bool b
    | .null => .null
    | .arr _ | .obj _ =>
      match schema with
      | some schema => structured schema
      | none => sanitizeOpaqueProviderMetaContainer numbers value

mutual

def sanitizeStructuredProviderMetaValue : Json ν → ProviderMetaSchema → Nat → Json ν
  | .arr items, .array item, depth =>
    .arr ((sanitizeItems items item depth).take maxProviderMetaArrayItems ++
      if maxProviderMetaArrayItems < items.length then [.str "[TRUNCATED_ARRAY]"] else [])
  | .obj fields, .object allowedKeys nested, depth =>
    let sanitizedObject :=
      ((sanitizeEntries fields allowedKeys nested depth).take
        maxProviderMetaObjectKeys).filterMap id ++
      if maxProviderMetaObjectKeys < fields.length then [("_truncated", .bool true)] else []
    if sanitizedObject.isEmpty then .null else .obj sanitizedObject
  | _, _, _ => .null

/-- The items of an array, each by the item schema. -/
def sanitizeItems : List (Json ν) → Option ProviderMetaSchema → Nat → List (Json ν)
  | [], _, _ => []
  | item :: rest, schema, depth =>
    (match schema with
      | some schema => sanitizeStructuredProviderMetaValue item schema (depth + 1)
      | none => .null) :: sanitizeItems rest schema depth

/-- The entries of an object; one with a key that is not allowed is skipped. -/
def sanitizeEntries : List (String × Json ν) → List String → List (String × ProviderMetaSchema) →
    Nat → List (Option (String × Json ν))
  | [], _, _, _ => []
  | (key, nestedValue) :: rest, allowedKeys, nested, depth =>
    (if !allowedKeys.contains (normalizeMetaKey key) then none
      else if forbiddenProviderMetaKeys.contains (normalizeMetaKey key) then none
      else some (key, sanitizeProviderMetaValueBy numbers
        (fun schema => sanitizeStructuredProviderMetaValue nestedValue schema (depth + 1))
        nestedValue (depth + 1) (nested.lookup (normalizeMetaKey key)))) ::
      sanitizeEntries rest allowedKeys nested depth

end

def sanitizeProviderMetaValue (value : Json ν) (depth : Nat)
    (schema : Option ProviderMetaSchema) : Json ν :=
  sanitizeProviderMetaValueBy numbers
    (fun schema => sanitizeStructuredProviderMetaValue numbers value schema depth) value depth schema

end Sanitizing

/-- The numbers, and `localeCompare`. -/
structure MetaHost (ν : Type) extends JsScalars ν where
  localeCompare : String → String → Ordering

section Meta

variable {ν : Type} (host : MetaHost ν)

/-- `stableSortObjectKeys`. -/
def stableSortObjectKeys (value : Json ν) : Json ν :=
  value.sortKeys fun left right => (host.localeCompare left right).isLE

/-- The bytes of a character in a JSON text, where half a pair stands as an escape of six. -/
def charBytes (halves : Halves) (c : Char) : Nat :=
  if halves.isHalf c then 6 else (Utf8.encodeChar c).length

/-- `estimateUtf8Bytes` of a JSON text. -/
def estimateUtf8Bytes (halves : Halves) (value : List Char) : Nat :=
  (value.map (charBytes halves)).sum

/-- Names that every object has, in lower case: not the keys of an allow-list, but found
by a lookup all the same. -/
def inheritedNames : List String := ["constructor", "__proto__"]

def normalizeProviderId (value : Option String) : String := toLowerCase (trim (value.getD ""))

/-- The spread of an inherited property is refused. -/
def allowedProviderMetaKeys (providerId : Option String) : Except String (List String) :=
  match providerMetaAllowlist.lookup (normalizeProviderId providerId) with
  | some providerAllowlist => .ok (genericAllowedProviderMetaKeys ++ providerAllowlist)
  | none =>
    if inheritedNames.contains (normalizeProviderId providerId) then
      .error "TypeError: providerAllowlist is not iterable"
    else .ok genericAllowedProviderMetaKeys

/-- The entries with an allowed key, sanitised. -/
def sanitizedMeta (allowedKeys : List String) (fields : List (String × Json ν)) :
    List (String × Json ν) :=
  fields.filterMap fun (key, value) =>
    if !allowedKeys.contains (normalizeMetaKey key) then none
    else if forbiddenProviderMetaKeys.contains (normalizeMetaKey key) then none
    else some (key, sanitizeProviderMetaValue host.toJsScalars value 0
      (providerMetaNestedSchemas.lookup (normalizeMetaKey key)))

/-- What is left of metadata that takes too many bytes. -/
def truncatedMeta (sanitized : List (String × Json ν)) : Json ν :=
  .obj [("_truncated", .bool true),
    ("status", match sanitized.lookup "status" with
      | some (.str status) => .str status
      | _ => .str "provider_meta_truncated")]

def sanitizeProviderMeta (providerId : Option String) (providerMeta : Json ν) : Except String (Json ν) :=
  match providerMeta with
  | .obj fields =>
    match allowedProviderMetaKeys providerId with
    | .error error => .error error
    | .ok allowedKeys =>
      let sanitized := sanitizedMeta host allowedKeys fields
      if sanitized.isEmpty then .ok .null
      else
        let serialized := (stableSortObjectKeys host (.obj sanitized)).stringify host.write
        if maxProviderMetaBytes < estimateUtf8Bytes host.halves serialized then .ok (truncatedMeta sanitized)
        else .ok (.obj sanitized)
  | _ => .ok .null

end Meta

/-! ### Bytes -/

section Bytes

variable (halves : Halves)

theorem estimateUtf8Bytes_append (cs ds : List Char) :
    estimateUtf8Bytes halves (cs ++ ds) = estimateUtf8Bytes halves cs + estimateUtf8Bytes halves ds := by
  rw [estimateUtf8Bytes, List.map_append, List.sum_append]
  rfl

theorem estimateUtf8Bytes_cons (c : Char) (cs : List Char) :
    estimateUtf8Bytes halves (c :: cs) = charBytes halves c + estimateUtf8Bytes halves cs := by
  rw [estimateUtf8Bytes, List.map_cons, List.sum_cons]
  rfl

variable {halves}

theorem estimateUtf8Bytes_perm {cs ds : List Char} (same : cs.Perm ds) :
    estimateUtf8Bytes halves cs = estimateUtf8Bytes halves ds :=
  (same.map _).sum_nat

theorem one_le_unitsOf (c : Char) : 1 ≤ unitsOf c := by
  unfold unitsOf
  split <;> omega

theorem charBytes_ascii {c : Char} (ascii : c.toNat ≤ 0x7F) : charBytes halves c = 1 := by
  have whole : halves.isHalf c = false := by
    rw [Bool.eq_false_iff]
    intro half
    have beyond := halves.beyond c half
    omega
  unfold charBytes Utf8.encodeChar
  rw [whole, if_neg Bool.false_ne_true, if_pos (by omega)]
  rfl

theorem estimateUtf8Bytes_ascii {cs : List Char} (ascii : ∀ c ∈ cs, c.toNat ≤ 0x7F) :
    estimateUtf8Bytes halves cs = cs.length := by
  induction cs with
  | nil => rfl
  | cons c cs ih =>
    obtain ⟨first, rest⟩ := List.forall_mem_cons.mp ascii
    rw [estimateUtf8Bytes_cons, charBytes_ascii first, ih rest, List.length_cons, Nat.add_comm]

theorem charBytes_le (c : Char) : charBytes halves c ≤ 6 * unitsOf c := by
  have units := one_le_unitsOf c
  unfold charBytes
  split
  · omega
  · unfold Utf8.encodeChar unitsOf
    dsimp only
    split_ifs
    all_goals simp only [List.length]
    all_goals omega

theorem toNat_hexDigit_le {n : Nat} (digit : n < 16) : (Json.hexDigit n).toNat ≤ 0x7F := by
  revert n
  decide

/-- In a JSON text a code unit takes six bytes at most. -/
theorem estimateUtf8Bytes_escapeChar_le (c : Char) :
    estimateUtf8Bytes halves (Json.escapeChar c) ≤ 6 * unitsOf c := by
  have units := one_le_unitsOf c
  have pair (d : Char) (ascii : d.toNat ≤ 0x7F) :
      estimateUtf8Bytes halves ['\\', d] ≤ 6 * unitsOf c := by
    rw [estimateUtf8Bytes_ascii (by simpa using ascii)]
    change 2 ≤ _
    omega
  unfold Json.escapeChar
  split_ifs with h1 h2 h3 h4 h5 h6 h7 control
  · exact pair _ (by decide)
  · exact pair _ (by decide)
  · exact pair _ (by decide)
  · exact pair _ (by decide)
  · exact pair _ (by decide)
  · exact pair _ (by decide)
  · exact pair _ (by decide)
  · have high := @toNat_hexDigit_le (c.toNat / 16) (by omega)
    have low := @toNat_hexDigit_le (c.toNat % 16) (by omega)
    rw [estimateUtf8Bytes_ascii (by simpa using ⟨high, low⟩)]
    change 6 ≤ _
    omega
  · have plain := @charBytes_le halves c
    rw [estimateUtf8Bytes_cons]
    change _ + 0 ≤ _
    omega

theorem estimateUtf8Bytes_quote_le (s : String) :
    estimateUtf8Bytes halves (Json.quote s) ≤ 6 * utf16Length s + 2 := by
  have inner (cs : List Char) :
      estimateUtf8Bytes halves (Json.escape cs) ≤ 6 * (cs.map unitsOf).sum := by
    induction cs with
    | nil => exact Nat.le_refl 0
    | cons c cs ih =>
      have first := @estimateUtf8Bytes_escapeChar_le halves c
      rw [Json.escape, List.flatMap_cons, estimateUtf8Bytes_append, List.map_cons, List.sum_cons]
      rw [Json.escape] at ih
      omega
  have mark : charBytes halves '"' = 1 := charBytes_ascii (by decide)
  have last : estimateUtf8Bytes halves ['"'] = 1 := estimateUtf8Bytes_ascii (by decide)
  have whole := inner s.toList
  rw [Json.quote, List.cons_append, estimateUtf8Bytes_cons, estimateUtf8Bytes_append, mark, last,
    utf16Length]
  omega

theorem length_le_estimateUtf8Bytes (cs : List Char) :
    cs.length ≤ estimateUtf8Bytes halves cs := by
  induction cs with
  | nil => exact Nat.le_refl 0
  | cons c cs ih =>
    have one : 1 ≤ charBytes halves c := by
      unfold charBytes Utf8.encodeChar
      dsimp only
      split_ifs <;> simp
    rw [estimateUtf8Bytes_cons, List.length_cons]
    omega

theorem length_le_quote (s : String) : s.toList.length ≤ (Json.quote s).length := by
  have escaped (cs : List Char) : cs.length ≤ (Json.escape cs).length := by
    induction cs with
    | nil => exact Nat.le_refl 0
    | cons c cs ih =>
      have one := List.length_pos_iff.mpr (Json.escapeChar_ne_nil c)
      rw [Json.escape] at ih ⊢
      rw [List.flatMap_cons, List.length_append, List.length_cons]
      omega
  have inner := escaped s.toList
  rw [Json.quote, List.length_append, List.length_cons]
  omega

end Bytes

/-! ### The limit -/

section Limit

variable {ν : Type} (host : MetaHost ν)

/-- The bytes of the JSON text. -/
def jsonBytes (value : Json ν) : Nat := estimateUtf8Bytes host.halves (value.stringify host.write)

theorem jsonBytes_stableSortObjectKeys (value : Json ν) :
    estimateUtf8Bytes host.halves ((stableSortObjectKeys host value).stringify host.write) =
      jsonBytes host value :=
  estimateUtf8Bytes_perm (Json.stringify_sortKeys_perm _ _ value)

/-- The three outcomes for an object. -/
theorem sanitizeProviderMeta_obj {providerId : Option String} {allowedKeys : List String}
    (found : allowedProviderMetaKeys providerId = .ok allowedKeys)
    (fields : List (String × Json ν)) :
    sanitizeProviderMeta host providerId (.obj fields) =
      .ok (if (sanitizedMeta host allowedKeys fields).isEmpty then .null
        else if maxProviderMetaBytes <
            jsonBytes host (.obj (sanitizedMeta host allowedKeys fields)) then
          truncatedMeta (sanitizedMeta host allowedKeys fields)
        else .obj (sanitizedMeta host allowedKeys fields)) := by
  simp only [sanitizeProviderMeta, found, jsonBytes_stableSortObjectKeys]
  split_ifs <;> rfl

theorem jsonBytes_nil_le :
    jsonBytes host (.obj ([] : List (String × Json ν))) ≤ maxProviderMetaBytes := by
  rw [jsonBytes, Json.stringify, Json.stringifyFields, estimateUtf8Bytes_ascii (by decide)]
  decide

/-- An array or an object. -/
def isContainer : Json ν → Bool
  | .arr _ | .obj _ => true
  | _ => false

/-- The record of a status. -/
def statusRecord (status : String) : Json ν :=
  .obj [("_truncated", .bool true), ("status", .str status)]

theorem stringify_statusRecord (status : String) :
    (statusRecord status : Json ν).stringify host.write =
      ('\x7b' :: Json.quote "_truncated" ++ [':', 't', 'r', 'u', 'e', ','] ++
        Json.quote "status" ++ [':']) ++ (Json.quote status ++ ['\x7d']) := by
  simp only [statusRecord, Json.stringify, Json.stringifyFields, List.append_assoc,
    List.cons_append, List.nil_append, List.isEmpty_cons, List.isEmpty_nil, Bool.false_eq_true,
    if_false, if_true]

theorem jsonBytes_statusRecord_le (status : String) :
    jsonBytes host (statusRecord status) ≤ 6 * utf16Length status + 31 := by
  have front : estimateUtf8Bytes host.halves ('\x7b' :: Json.quote "_truncated" ++
      [':', 't', 'r', 'u', 'e', ','] ++ Json.quote "status" ++ [':']) = 28 :=
    (estimateUtf8Bytes_ascii (by decide)).trans (by decide)
  have last : estimateUtf8Bytes host.halves ['\x7d'] = 1 := estimateUtf8Bytes_ascii (by decide)
  have quoted := @estimateUtf8Bytes_quote_le host.halves status
  rw [jsonBytes, stringify_statusRecord, estimateUtf8Bytes_append _ _ (Json.quote status ++ ['\x7d']), front,
    estimateUtf8Bytes_append, last]
  omega

/-- A key that is allowed and not forbidden. -/
def keepsMetaKey (allowedKeys : List String) (key : String) : Bool :=
  allowedKeys.contains (normalizeMetaKey key) &&
    !forbiddenProviderMetaKeys.contains (normalizeMetaKey key)

/-- The sanitised value of a kept entry. -/
def sanitizedMetaValue (key : String) (value : Json ν) : Json ν :=
  sanitizeProviderMetaValue host.toJsScalars value 0
    (providerMetaNestedSchemas.lookup (normalizeMetaKey key))

theorem sanitizedMeta_cons (allowedKeys : List String) (field : String × Json ν)
    (rest : List (String × Json ν)) :
    sanitizedMeta host allowedKeys (field :: rest) =
      if keepsMetaKey allowedKeys field.1 then
        (field.1, sanitizedMetaValue host field.1 field.2) :: sanitizedMeta host allowedKeys rest
      else sanitizedMeta host allowedKeys rest := by
  obtain ⟨key, value⟩ := field
  rw [sanitizedMeta, List.filterMap_cons, keepsMetaKey]
  cases allowed : allowedKeys.contains (normalizeMetaKey key) with
  | false =>
    simp only [allowed, Bool.not_false, if_true, Bool.false_and, Bool.false_eq_true, if_false]
    rfl
  | true =>
    cases forbidden : forbiddenProviderMetaKeys.contains (normalizeMetaKey key) with
    | false =>
      simp only [allowed, forbidden, Bool.not_true, Bool.not_false, Bool.false_eq_true,
        if_false, Bool.and_self, if_true]
      rfl
    | true =>
      simp only [allowed, forbidden, Bool.not_true, Bool.false_eq_true, if_false, if_true,
        Bool.and_false]
      rfl

theorem lookup_sanitizedMeta {allowedKeys : List String} {key : String}
    (kept : keepsMetaKey allowedKeys key = true) (fields : List (String × Json ν)) :
    (sanitizedMeta host allowedKeys fields).lookup key =
      (fields.lookup key).map (sanitizedMetaValue host key) := by
  induction fields with
  | nil => rfl
  | cons field rest ih =>
    rw [sanitizedMeta_cons, List.lookup_cons]
    cases same : key == field.1 with
    | true =>
      obtain rfl := eq_of_beq same
      rw [if_pos kept, List.lookup_cons, same]
      rfl
    | false =>
      split
      · rw [List.lookup_cons, same, ih]
      · exact ih

theorem keepsMetaKey_status {providerId : Option String} {allowedKeys : List String}
    (found : allowedProviderMetaKeys providerId = .ok allowedKeys) :
    keepsMetaKey allowedKeys "status" = true := by
  have generic : normalizeMetaKey "status" ∈ genericAllowedProviderMetaKeys :=
    List.mem_map_of_mem List.mem_cons_self
  have allowed : allowedKeys.contains (normalizeMetaKey "status") = true := by
    rw [List.contains_iff_mem]
    unfold allowedProviderMetaKeys at found
    split at found
    · cases found
      exact List.mem_append_left _ generic
    · split at found
      · cases found
      · cases found
        exact generic
  rw [keepsMetaKey, allowed, status_unreserved.1]
  rfl

/-- A status of 259 code units leaves room in the record. -/
theorem jsonBytes_truncatedMeta_le {fields : List (String × Json ν)} {allowedKeys : List String}
    (kept : keepsMetaKey allowedKeys "status" = true)
    (plain : ∀ status, fields.lookup "status" = some status → isContainer status = false) :
    jsonBytes host (truncatedMeta (sanitizedMeta host allowedKeys fields)) ≤
      maxProviderMetaBytes := by
  have limit : 6 * (maxProviderMetaStringLength + 3) + 31 ≤ maxProviderMetaBytes := by decide
  have fallback : jsonBytes host (statusRecord "provider_meta_truncated") ≤ maxProviderMetaBytes :=
    (jsonBytes_statusRecord_le host _).trans (by decide)
  unfold truncatedMeta
  rw [lookup_sanitizedMeta host kept]
  cases found : fields.lookup "status" with
  | none => exact fallback
  | some status =>
    have notContainer := plain status found
    rw [Option.map_some, sanitizedMetaValue, status_unreserved.2]
    cases status with
    | str text =>
      have short := utf16Length_redactProviderTextBy_le host.halves.unitsOf_high text
      have record := jsonBytes_statusRecord_le host (redactProviderTextBy host.halves.high text)
      exact record.trans (by omega)
    | num n =>
      have value : sanitizeProviderMetaValue host.toJsScalars (.num n) 0 none =
          if host.isFinite n then .num n else .null := rfl
      rw [value]
      cases host.isFinite n with
      | true => exact fallback
      | false => exact fallback
    | bool b => exact fallback
    | null => exact fallback
    | arr items => cases notContainer
    | obj nested => cases notContainer

theorem sanitizedMetaValue_status {status : Json ν} (container : isContainer status = true) :
    sanitizedMetaValue host "status" status = .str (opaqueText host.toJsScalars status) := by
  rw [sanitizedMetaValue, status_unreserved.2]
  cases status with
  | arr items => rfl
  | obj nested => rfl
  | str text => cases container
  | num n => cases container
  | bool b => cases container
  | null => cases container

theorem truncatedMeta_of_container {fields : List (String × Json ν)} {allowedKeys : List String}
    (kept : keepsMetaKey allowedKeys "status" = true) {status : Json ν}
    (found : fields.lookup "status" = some status) (container : isContainer status = true) :
    truncatedMeta (sanitizedMeta host allowedKeys fields) =
      statusRecord (opaqueText host.toJsScalars status) := by
  unfold truncatedMeta
  rw [lookup_sanitizedMeta host kept, found, Option.map_some,
    sanitizedMetaValue_status host container]
  rfl

theorem allowedProviderMetaKeys_eq_ok_iff (providerId : Option String) :
    (∃ allowedKeys, allowedProviderMetaKeys providerId = .ok allowedKeys) ↔
      inheritedNames.contains (normalizeProviderId providerId) = false := by
  unfold allowedProviderMetaKeys
  split
  next keys found =>
    refine ⟨fun _ => ?_, fun _ => ⟨_, rfl⟩⟩
    by_contra inherited
    rw [Bool.not_eq_false, List.contains_iff_mem] at inherited
    have none_ : ∀ name ∈ inheritedNames, providerMetaAllowlist.lookup name = none := by
      decide
    rw [none_ _ inherited] at found
    cases found
  next =>
    cases inherited : inheritedNames.contains (normalizeProviderId providerId) with
    | true => simp
    | false => simp

/-- The sanitised metadata keep to the limit exactly if they fit without truncation, or
the status is no array or object, or the text of that one fits into the record. A provider
id that names an inherited property is refused with an exception. -/
theorem sanitizeProviderMeta_bytes_iff (providerId : Option String) (providerMeta : Json ν) :
    (∃ safe, sanitizeProviderMeta host providerId providerMeta = .ok safe ∧
        jsonBytes host safe ≤ maxProviderMetaBytes) ↔
      ∀ fields, providerMeta = .obj fields →
        ∃ allowedKeys, allowedProviderMetaKeys providerId = .ok allowedKeys ∧
          (jsonBytes host (.obj (sanitizedMeta host allowedKeys fields)) ≤ maxProviderMetaBytes ∨
            ∀ status, fields.lookup "status" = some status → isContainer status = true →
              jsonBytes host (statusRecord (opaqueText host.toJsScalars status)) ≤ maxProviderMetaBytes) := by
  have none_ : jsonBytes host (.null : Json ν) ≤ maxProviderMetaBytes := by
    rw [jsonBytes, Json.stringify, estimateUtf8Bytes_ascii (by decide)]
    decide
  cases providerMeta with
  | obj fields =>
    have single (P : List (String × Json ν) → Prop) :
        (∀ fields', Json.obj fields = .obj fields' → P fields') ↔ P fields :=
      ⟨fun all => all fields rfl, fun holds fields' same => by cases same; exact holds⟩
    rw [single]
    cases found : allowedProviderMetaKeys providerId with
    | error error => simp [sanitizeProviderMeta, found]
    | ok allowedKeys =>
      have kept := keepsMetaKey_status found
      simp only [sanitizeProviderMeta, found, jsonBytes_stableSortObjectKeys, Except.ok.injEq,
        exists_eq_left']
      cases empty : (sanitizedMeta host allowedKeys fields).isEmpty with
      | true =>
        simp [List.isEmpty_iff.mp empty, none_, jsonBytes_nil_le]
      | false =>
        by_cases fits : jsonBytes host (.obj (sanitizedMeta host allowedKeys fields)) ≤
            maxProviderMetaBytes
        · simp [fits, Nat.not_lt.mpr fits]
        · simp only [Bool.false_eq_true, if_false, if_pos (Nat.not_le.mp fits),
            Except.ok.injEq, exists_eq_left', fits, false_or]
          constructor
          · intro short status is container
            rwa [truncatedMeta_of_container host kept is container] at short
          · intro short
            by_cases plain : ∀ status, fields.lookup "status" = some status →
                isContainer status = false
            · exact jsonBytes_truncatedMeta_le host kept plain
            · push Not at plain
              obtain ⟨status, is, container⟩ := plain
              rw [Ne, Bool.not_eq_false] at container
              rw [truncatedMeta_of_container host kept is container]
              exact short status is container
  | null => simp [sanitizeProviderMeta, none_]
  | bool b => simp [sanitizeProviderMeta, none_]
  | num n => simp [sanitizeProviderMeta, none_]
  | str s => simp [sanitizeProviderMeta, none_]
  | arr items => simp [sanitizeProviderMeta, none_]

theorem length_lt_jsonBytes_statusRecord (status : String) :
    status.toList.length < jsonBytes host (statusRecord status) := by
  have quoted := length_le_quote status
  refine Nat.lt_of_lt_of_le ?_ (length_le_estimateUtf8Bytes _)
  rw [stringify_statusRecord]
  simp only [List.length_append, List.length_cons]
  omega

theorem sanitizeProviderMeta_long_status {providerId : Option String} {status : Json ν}
    (known : inheritedNames.contains (normalizeProviderId providerId) = false)
    (container : isContainer status = true)
    (long : maxProviderMetaBytes < (opaqueText host.toJsScalars status).toList.length) :
    sanitizeProviderMeta host providerId (.obj [("status", status)]) =
      .ok (statusRecord (opaqueText host.toJsScalars status)) := by
  obtain ⟨allowedKeys, found⟩ := (allowedProviderMetaKeys_eq_ok_iff providerId).mpr known
  have kept := keepsMetaKey_status found
  have sanitized : sanitizedMeta host allowedKeys [("status", status)] =
      [("status", .str (opaqueText host.toJsScalars status))] := by
    rw [sanitizedMeta_cons, if_pos kept, sanitizedMetaValue_status host container]
    rfl
  have overflow : maxProviderMetaBytes <
      jsonBytes host (.obj [("status", .str (opaqueText host.toJsScalars status))]) := by
    have quoted := length_le_quote (opaqueText host.toJsScalars status)
    refine (long.trans_le quoted).trans_le (le_trans ?_ (length_le_estimateUtf8Bytes _))
    simp only [Json.stringify, Json.stringifyFields, List.length_append, List.length_cons]
    omega
  have truncated : truncatedMeta [("status", .str (opaqueText host.toJsScalars status))] =
      (statusRecord (opaqueText host.toJsScalars status) : Json ν) := rfl
  simp only [sanitizeProviderMeta, found, jsonBytes_stableSortObjectKeys, sanitized,
    List.isEmpty_cons, Bool.false_eq_true, if_false, if_pos overflow, truncated]

end Limit

/-! ### A status that is an array -/

/-- Natural numbers, and the order of code points. -/
def asciiHost : MetaHost Nat where
  isFinite := fun _ => true
  text := Nat.repr
  halves := privateHalves
  localeCompare := fun left right => compare left right

def ones (n : Nat) : Json Nat := .arr (List.replicate (n + 1) (.num 1))

theorem stringify_ones (n : Nat) :
    (ones n).stringify asciiHost.write =
      '[' :: '1' :: (List.replicate n [',', '1']).flatten ++ [']'] := by
  have one : Json.stringify asciiHost.write (.num 1) = ['1'] := by
    rw [Json.stringify]
    decide
  have items : Json.stringifyItems asciiHost.write (List.replicate (n + 1) (.num 1)) =
      '1' :: (List.replicate n [',', '1']).flatten := by
    induction n with
    | zero => simp [Json.stringifyItems, one]
    | succ n ih =>
      rw [List.replicate_succ, Json.stringifyItems, ih, one]
      simp [List.replicate_succ]
  rw [ones, Json.stringify, items]

theorem opaqueText_ones (n : Nat) :
    (opaqueText asciiHost.toJsScalars (ones n)).toList =
      '[' :: '1' :: (List.replicate n [',', '1']).flatten ++ [']'] := by
  have alphabet : ∀ c ∈ (ones n).stringify asciiHost.write, c ∈ ['[', '1', ',', ']'] := by
    rw [stringify_ones]
    intro c inside
    simp only [List.cons_append, List.mem_cons, List.mem_append, List.mem_flatten,
      List.mem_replicate] at inside
    rcases inside with rfl | rfl | ⟨pair, ⟨-, rfl⟩, inPair⟩ | rfl | none_
    · decide
    · decide
    · simp only [List.mem_cons, List.not_mem_nil, or_false] at inPair ⊢
      tauto
    · decide
    · cases none_
  have quiet : Quiet (String.ofList ((ones n).stringify asciiHost.write)) := by
    intro pattern among
    refine @Regex.test_of_lacks ['[', '1', ',', ']'] _ _ ?_ (by simpa using alphabet)
    revert pattern
    decide
  rw [opaqueText, redactValues_of_quiet quiet, String.toList_ofList, stringify_ones]

theorem length_opaqueText_ones (n : Nat) :
    (opaqueText asciiHost.toJsScalars (ones n)).toList.length = 2 * n + 3 := by
  rw [opaqueText_ones, List.length_append, List.length_cons, List.length_cons, List.length_flatten,
    List.map_replicate, List.sum_replicate_nat]
  simp only [List.length_cons, List.length_nil]
  omega

/-- Six thousand characters of an array stand in the record. -/
theorem container_status_too_long :
    ¬ ∀ (providerId : Option String) (providerMeta : Json Nat),
      ∃ safe, sanitizeProviderMeta asciiHost providerId providerMeta = .ok safe ∧
        jsonBytes asciiHost safe ≤ maxProviderMetaBytes := by
  intro keeps
  obtain ⟨safe, returned, short⟩ := keeps (some "codex") (.obj [("status", ones 3000)])
  have long : maxProviderMetaBytes < (opaqueText asciiHost.toJsScalars (ones 3000)).toList.length := by
    rw [length_opaqueText_ones]
    decide
  have known : inheritedNames.contains (normalizeProviderId (some "codex")) = false := by
    decide
  have record := sanitizeProviderMeta_long_status asciiHost known rfl long
  rw [record] at returned
  cases returned
  exact absurd short (Nat.not_le.mpr (long.trans (length_lt_jsonBytes_statusRecord _ _)))

end AifHandoff.Shared
