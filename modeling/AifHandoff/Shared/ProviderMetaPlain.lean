import AifHandoff.Shared.ProviderMetaTwice

/-!
What sanitised metadata are made of: each key once, and finite numbers only.
-/

namespace AifHandoff.Shared

open Json (Distinct Plain plain_arr_iff plain_obj_iff plain_null plain_bool plain_str plain_num)

section Values

variable {ν : Type} {numbers : JsScalars ν}

theorem nodup_keys_filterMap {fields : List (String × Json ν)}
    {keep : String × Json ν → Option (String × Json ν)} (keys : (fields.map (·.1)).Nodup)
    (sameKey : ∀ field kept, keep field = some kept → kept.1 = field.1) :
    ((fields.filterMap keep).map (·.1)).Nodup := by
  refine List.Nodup.sublist ?_ keys
  induction fields with
  | nil => exact List.Sublist.slnil
  | cons field rest ih =>
    have later := ih (List.Nodup.of_cons keys)
    rw [List.filterMap_cons]
    cases made : keep field with
    | none => exact later.trans (List.sublist_cons_self _ _)
    | some kept =>
      rw [List.map_cons, List.map_cons, sameKey field kept made]
      exact later.cons_cons _

/-- A value is plain if its array or object is. -/
theorem plain_value {value : Json ν} {depth : Nat} {schema : Option ProviderMetaSchema}
    (structured : ∀ inner, schema = some inner →
      Plain numbers.isFinite (sanitizeStructuredProviderMetaValue numbers value inner depth)) :
    Plain numbers.isFinite (sanitizeProviderMetaValue numbers value depth schema) := by
  by_cases deep : maxProviderMetaDepth < depth
  · rw [value_of_deep deep]
    exact plain_str _
  cases container : isContainer value with
  | true =>
    rw [value_of_container deep container]
    cases schema with
    | none => exact plain_str _
    | some inner => exact structured inner rfl
  | false =>
    unfold sanitizeProviderMetaValue sanitizeProviderMetaValueBy
    rw [if_neg deep]
    cases value with
    | arr items => cases container
    | obj fields => cases container
    | str text => exact plain_str _
    | bool b => exact plain_bool b
    | null => exact plain_null
    | num n =>
      dsimp only
      split
      next finite => exact plain_num finite
      next => exact plain_null

theorem sanitizeEntry_key {allowedKeys : List String} {nested : List (String × ProviderMetaSchema)}
    {depth : Nat} {field kept : String × Json ν}
    (made : sanitizeEntry numbers allowedKeys nested depth field = some kept) :
    kept.1 = field.1 := by
  rw [sanitizeEntry] at made
  split at made
  · cases made
    rfl
  · cases made

theorem plain_structured (value : Json ν) {schema : ProviderMetaSchema} (unmarked : Unmarked schema)
    (distinct : Distinct value) (depth : Nat) :
    Plain numbers.isFinite (sanitizeStructuredProviderMetaValue numbers value schema depth) := by
  induction size : Json.size value using Nat.strong_induction_on generalizing value schema depth with
  | h n ih =>
    subst size
    rcases fitsSchema_cases value schema with
      ⟨items, item, rfl, rfl⟩ | ⟨fields, allowedKeys, nested, rfl, rfl⟩ | misfit
    · cases unmarked with | array inner =>
      rw [Distinct, Json.distinctItems_iff] at distinct
      rw [structured_arr, plain_arr_iff]
      intro made inside
      rcases List.mem_append.mp inside with given | marker
      · obtain ⟨x, among, rfl⟩ := List.mem_map.mp given
        have among := List.mem_of_mem_take among
        cases item with
        | none => exact plain_null
        | some schema =>
          exact ih _ (Json.size_lt_of_mem_items among) x (inner schema rfl) (distinct x among)
            (depth + 1) rfl
      · split at marker
        · rw [List.mem_singleton.mp marker]
          exact plain_str _
        · cases marker
    · cases unmarked with | object marker inner =>
      rw [Distinct, Json.distinctFields_iff] at distinct
      have kept : ((keptEntries numbers allowedKeys nested depth fields).map (·.1)).Nodup :=
        nodup_keys_filterMap (((List.take_sublist _ _).map _).nodup distinct.1)
          fun field kept => sanitizeEntry_key
      rw [structured_obj, objectOrNull]
      split
      · exact plain_null
      rw [plain_obj_iff]
      constructor
      · rw [List.map_append, List.nodup_append]
        refine ⟨kept, ?_, ?_⟩
        · unfold cutMarker
          split <;> simp
        · intro key inKept other inMarker
          obtain ⟨field, inside, rfl⟩ := List.mem_map.mp inKept
          have allowed := keeps_of_mem_keptEntries inside
          rintro rfl
          unfold cutMarker at inMarker
          split at inMarker
          · rw [List.map_singleton, List.mem_singleton] at inMarker
            rw [inMarker, keepsMetaKey, marker] at allowed
            cases allowed
          · cases inMarker
      · intro field inside
        rcases List.mem_append.mp inside with given | marked
        · obtain ⟨entry, among, made⟩ := List.mem_filterMap.mp given
          have among := List.mem_of_mem_take among
          rw [sanitizeEntry] at made
          split at made
          · cases made
            exact plain_value fun schema found => ih _ (Json.size_lt_of_mem_fields among) entry.2
              (inner _ schema found) (distinct.2 entry among) (depth + 1) rfl
          · cases made
        · unfold cutMarker at marked
          split at marked
          · rw [List.mem_singleton.mp marked]
            exact plain_bool true
          · cases marked
    · rw [structured_of_misfit misfit]
      exact plain_null

end Values

section Meta

variable {ν : Type} (host : MetaHost ν)

theorem plain_sanitizedMetaValue (key : String) {value : Json ν} (distinct : Distinct value) :
    Plain host.isFinite (sanitizedMetaValue host key value) := by
  unfold sanitizedMetaValue
  exact plain_value fun schema found =>
    plain_structured value (unmarked_of_summary found) distinct 0

theorem sanitizedMeta_entry {allowedKeys : List String} {fields : List (String × Json ν)}
    {entry : String × Json ν} (inside : entry ∈ sanitizedMeta host allowedKeys fields) :
    ∃ field ∈ fields, entry = (field.1, sanitizedMetaValue host field.1 field.2) := by
  rw [sanitizedMeta_eq_filterMap] at inside
  obtain ⟨field, among, made⟩ := List.mem_filterMap.mp inside
  rw [Option.ite_none_right_eq_some] at made
  exact ⟨field, among, (Option.some.inj made.2).symm⟩

theorem plain_sanitizedMeta (allowedKeys : List String) {fields : List (String × Json ν)}
    (distinct : Distinct (.obj fields)) :
    Plain host.isFinite (.obj (sanitizedMeta host allowedKeys fields)) := by
  rw [Distinct, Json.distinctFields_iff] at distinct
  rw [plain_obj_iff]
  constructor
  · rw [sanitizedMeta_eq_filterMap]
    refine nodup_keys_filterMap distinct.1 fun field kept made => ?_
    rw [Option.ite_none_right_eq_some] at made
    rw [← Option.some.inj made.2]
  · intro entry inside
    obtain ⟨field, among, rfl⟩ := sanitizedMeta_entry host inside
    dsimp only
    exact plain_sanitizedMetaValue host field.1 (distinct.2 field among)

theorem plain_statusRecord (status : String) : Plain host.isFinite (statusRecord status : Json ν) := by
  rw [statusRecord, plain_obj_iff]
  refine ⟨by simp, fun field inside => ?_⟩
  rcases List.mem_cons.mp inside with rfl | last
  · exact plain_bool true
  · rw [List.mem_singleton.mp last]
    exact plain_str status

theorem plain_sanitizeProviderMeta {providerId : Option String} {providerMeta safe : Json ν}
    (distinct : Distinct providerMeta)
    (returned : sanitizeProviderMeta host providerId providerMeta = .ok safe) :
    Plain host.isFinite safe := by
  cases providerMeta with
  | obj fields =>
    cases found : allowedProviderMetaKeys providerId with
    | error error => simp [sanitizeProviderMeta, found] at returned
    | ok allowedKeys =>
      rw [sanitizeProviderMeta_obj host found] at returned
      cases returned
      split
      · exact plain_null
      split
      · obtain ⟨status, record⟩ := truncatedMeta_eq (sanitizedMeta host allowedKeys fields)
        rw [record]
        exact plain_statusRecord host status
      · exact plain_sanitizedMeta host allowedKeys distinct
  | null | bool _ | num _ | str _ | arr _ =>
    cases returned
    exact plain_null

end Meta

theorem finiteNumbers_ascii :
    Json.FiniteNumbers asciiHost.isFinite asciiHost.text Json.decimalNumbers.read :=
  Json.finiteNumbers_decimal

end AifHandoff.Shared
