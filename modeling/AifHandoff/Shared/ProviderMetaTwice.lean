import AifHandoff.Shared.ProviderMeta

/-!
Sanitised provider metadata, sanitised again.
-/

namespace AifHandoff.Shared

open Text

section Settled

variable {ν : Type} (numbers : JsScalars ν)

/-- The redacted text is redacted to itself. -/
def settles (text : String) : Bool :=
  redactProviderTextBy numbers.halves.high (redactProviderTextBy numbers.halves.high text) ==
    redactProviderTextBy numbers.halves.high text

/-- The opaque text is redacted to itself, as a text that may be cut. -/
def opaqueSettles (value : Json ν) : Bool :=
  redactProviderTextBy numbers.halves.high (opaqueText numbers value) == opaqueText numbers value

def settledValueBy (structured : ProviderMetaSchema → Bool) (value : Json ν) (depth : Nat)
    (schema : Option ProviderMetaSchema) : Bool :=
  if maxProviderMetaDepth < depth then true
  else match value with
    | .str s => settles numbers s
    | .arr _ | .obj _ =>
      match schema with
      | some schema => structured schema
      | none => opaqueSettles numbers value
    | _ => true

mutual

/-- What a second pass over a value with a schema leaves alone. -/
def settledStructured : Json ν → ProviderMetaSchema → Nat → Bool
  | .arr items, .array item, depth =>
    ((settledItems items item depth).take maxProviderMetaArrayItems).all id
  | .obj fields, .object allowedKeys nested, depth =>
    (decide (fields.length ≤ maxProviderMetaObjectKeys) ||
      (fields.take maxProviderMetaObjectKeys).all (keepsMetaKey allowedKeys ·.1)) &&
    ((settledEntries fields allowedKeys nested depth).take maxProviderMetaObjectKeys).all id
  | _, _, _ => true

def settledItems : List (Json ν) → Option ProviderMetaSchema → Nat → List Bool
  | [], _, _ => []
  | item :: rest, schema, depth =>
    (match schema with
      | some schema => settledStructured item schema (depth + 1)
      | none => true) :: settledItems rest schema depth

def settledEntries : List (String × Json ν) → List String → List (String × ProviderMetaSchema) →
    Nat → List Bool
  | [], _, _, _ => []
  | (key, nestedValue) :: rest, allowedKeys, nested, depth =>
    (!keepsMetaKey allowedKeys key || settledValueBy numbers
      (fun schema => settledStructured nestedValue schema (depth + 1))
      nestedValue (depth + 1) (nested.lookup (normalizeMetaKey key))) ::
      settledEntries rest allowedKeys nested depth

end

def settledValue (value : Json ν) (depth : Nat) (schema : Option ProviderMetaSchema) : Bool :=
  settledValueBy numbers (fun schema => settledStructured numbers value schema depth) value depth
    schema

/-- Every list of allowed keys of the schema has the property. -/
inductive EveryList (P : List String → Prop) : ProviderMetaSchema → Prop where
  | array {item : Option ProviderMetaSchema}
      (inner : ∀ schema, item = some schema → EveryList P schema) : EveryList P (.array item)
  | object {allowedKeys : List String} {nested : List (String × ProviderMetaSchema)}
      (here : P allowedKeys)
      (inner : ∀ key schema, nested.lookup key = some schema → EveryList P schema) :
      EveryList P (.object allowedKeys nested)

/-- The marker of a cut object is no key of the schema. -/
abbrev Unmarked : ProviderMetaSchema → Prop :=
  EveryList fun allowedKeys => allowedKeys.contains (normalizeMetaKey "_truncated") = false

end Settled

/-! ### Items and entries one by one -/

section Pointwise

variable {ν : Type} {numbers : JsScalars ν}

/-- An item, by the item schema. -/
def sanitizeItem (numbers : JsScalars ν) (schema : Option ProviderMetaSchema) (depth : Nat)
    (item : Json ν) : Json ν :=
  match schema with
  | some schema => sanitizeStructuredProviderMetaValue numbers item schema (depth + 1)
  | none => .null

/-- The value of a kept entry. -/
def sanitizeEntryValue (numbers : JsScalars ν) (nested : List (String × ProviderMetaSchema))
    (depth : Nat) (field : String × Json ν) : Json ν :=
  sanitizeProviderMetaValue numbers field.2 (depth + 1) (nested.lookup (normalizeMetaKey field.1))

def sanitizeEntry (numbers : JsScalars ν) (allowedKeys : List String)
    (nested : List (String × ProviderMetaSchema)) (depth : Nat) (field : String × Json ν) :
    Option (String × Json ν) :=
  if keepsMetaKey allowedKeys field.1 then
    some (field.1, sanitizeEntryValue numbers nested depth field)
  else none

theorem sanitizeItems_eq (items : List (Json ν)) (schema : Option ProviderMetaSchema) (depth : Nat) :
    sanitizeItems numbers items schema depth = items.map (sanitizeItem numbers schema depth) := by
  induction items with
  | nil => rw [sanitizeItems, List.map_nil]
  | cons item rest ih =>
    rw [sanitizeItems.eq_def, List.map_cons, ← ih]
    rfl

theorem sanitizeEntries_eq (fields : List (String × Json ν)) (allowedKeys : List String)
    (nested : List (String × ProviderMetaSchema)) (depth : Nat) :
    sanitizeEntries numbers fields allowedKeys nested depth =
      fields.map (sanitizeEntry numbers allowedKeys nested depth) := by
  induction fields with
  | nil => rw [sanitizeEntries, List.map_nil]
  | cons field rest ih =>
    obtain ⟨key, value⟩ := field
    rw [sanitizeEntries, ih, List.map_cons, sanitizeEntry, keepsMetaKey]
    congr 1
    cases allowedKeys.contains (normalizeMetaKey key) with
    | false => rfl
    | true => cases forbiddenProviderMetaKeys.contains (normalizeMetaKey key) <;> rfl

theorem settledItems_eq (items : List (Json ν)) (schema : Option ProviderMetaSchema) (depth : Nat) :
    settledItems numbers items schema depth = items.map fun item =>
      match schema with
      | some schema => settledStructured numbers item schema (depth + 1)
      | none => true := by
  induction items with
  | nil => rw [settledItems, List.map_nil]
  | cons item rest ih =>
    rw [settledItems.eq_def, List.map_cons, ← ih]

theorem settledEntries_eq (fields : List (String × Json ν)) (allowedKeys : List String)
    (nested : List (String × ProviderMetaSchema)) (depth : Nat) :
    settledEntries numbers fields allowedKeys nested depth = fields.map fun field =>
      !keepsMetaKey allowedKeys field.1 || settledValue numbers field.2 (depth + 1)
        (nested.lookup (normalizeMetaKey field.1)) := by
  induction fields with
  | nil => rw [settledEntries, List.map_nil]
  | cons field rest ih =>
    rw [settledEntries, ih, List.map_cons]
    rfl

/-- The kept ones among the first entries of an object. -/
def keptEntries (numbers : JsScalars ν) (allowedKeys : List String)
    (nested : List (String × ProviderMetaSchema)) (depth : Nat) (fields : List (String × Json ν)) :
    List (String × Json ν) :=
  (fields.take maxProviderMetaObjectKeys).filterMap (sanitizeEntry numbers allowedKeys nested depth)

/-- The marker of an object with too many entries. -/
def cutMarker (fields : List (String × Json ν)) : List (String × Json ν) :=
  if maxProviderMetaObjectKeys < fields.length then [("_truncated", .bool true)] else []

def objectOrNull (fields : List (String × Json ν)) : Json ν :=
  if fields.isEmpty then .null else .obj fields

theorem structured_arr (items : List (Json ν)) (item : Option ProviderMetaSchema) (depth : Nat) :
    sanitizeStructuredProviderMetaValue numbers (.arr items) (.array item) depth =
      .arr ((items.take maxProviderMetaArrayItems).map (sanitizeItem numbers item depth) ++
        if maxProviderMetaArrayItems < items.length then [.str "[TRUNCATED_ARRAY]"] else []) := by
  rw [sanitizeStructuredProviderMetaValue, sanitizeItems_eq, List.map_take]

theorem structured_obj (fields : List (String × Json ν)) (allowedKeys : List String)
    (nested : List (String × ProviderMetaSchema)) (depth : Nat) :
    sanitizeStructuredProviderMetaValue numbers (.obj fields) (.object allowedKeys nested) depth =
      objectOrNull (keptEntries numbers allowedKeys nested depth fields ++ cutMarker fields) := by
  rw [sanitizeStructuredProviderMetaValue, sanitizeEntries_eq, keptEntries, ← List.map_take,
    List.filterMap_map]
  rfl

theorem filterMap_sanitizeEntry {allowedKeys : List String}
    {nested : List (String × ProviderMetaSchema)} {depth : Nat} {fields : List (String × Json ν)}
    (kept : ∀ field ∈ fields, keepsMetaKey allowedKeys field.1 = true) :
    fields.filterMap (sanitizeEntry numbers allowedKeys nested depth) =
      fields.map fun field => (field.1, sanitizeEntryValue numbers nested depth field) := by
  rw [← List.filterMap_eq_map]
  refine List.filterMap_congr fun field inside => ?_
  rw [sanitizeEntry, if_pos (kept field inside)]
  rfl

theorem keeps_of_mem_keptEntries {allowedKeys : List String}
    {nested : List (String × ProviderMetaSchema)} {depth : Nat} {fields : List (String × Json ν)}
    {field : String × Json ν} (inside : field ∈ keptEntries numbers allowedKeys nested depth fields) :
    keepsMetaKey allowedKeys field.1 = true := by
  obtain ⟨given, -, made⟩ := List.mem_filterMap.mp inside
  rw [sanitizeEntry] at made
  split at made
  · cases made
    assumption
  · cases made

theorem map_twice_iff {α : Type} (f : α → α) (l : List α) :
    (l.map f).map f = l.map f ↔ ∀ x ∈ l, f (f x) = f x := by
  rw [List.map_map, List.map_inj_left]
  rfl

theorem structured_arr_twice_iff (items : List (Json ν)) (item : Option ProviderMetaSchema)
    (depth : Nat) :
    sanitizeStructuredProviderMetaValue numbers
        (sanitizeStructuredProviderMetaValue numbers (.arr items) (.array item) depth)
        (.array item) depth =
      sanitizeStructuredProviderMetaValue numbers (.arr items) (.array item) depth ↔
    ∀ x ∈ items.take maxProviderMetaArrayItems, sanitizeItem numbers item depth
      (sanitizeItem numbers item depth x) = sanitizeItem numbers item depth x := by
  rw [structured_arr, structured_arr, Json.arr.injEq]
  by_cases long : maxProviderMetaArrayItems < items.length
  · have full : ((items.take maxProviderMetaArrayItems).map (sanitizeItem numbers item depth)).length =
        maxProviderMetaArrayItems := by
      rw [List.length_map, List.length_take, Nat.min_eq_left long.le]
    rw [if_pos long, List.take_left' full, if_pos (by rw [List.length_append, full]; simp),
      List.append_left_inj, map_twice_iff]
  · have short : ((items.take maxProviderMetaArrayItems).map (sanitizeItem numbers item depth)).length ≤
        maxProviderMetaArrayItems := by
      rw [List.length_map]
      exact List.length_take_le _ _
    rw [if_neg long, List.append_nil, List.take_of_length_le short, if_neg (Nat.not_lt.mpr short),
      List.append_nil, map_twice_iff]

section Objects

variable {allowedKeys : List String} {nested : List (String × ProviderMetaSchema)} {depth : Nat}
  {fields : List (String × Json ν)}

theorem map_keptEntries_iff :
    ((keptEntries numbers allowedKeys nested depth fields).map fun field =>
        (field.1, sanitizeEntryValue numbers nested depth field)) =
      keptEntries numbers allowedKeys nested depth fields ↔
    ∀ field ∈ fields.take maxProviderMetaObjectKeys, keepsMetaKey allowedKeys field.1 = true →
      sanitizeEntryValue numbers nested depth
          (field.1, sanitizeEntryValue numbers nested depth field) =
        sanitizeEntryValue numbers nested depth field := by
  rw [Json.map_eq_self_iff]
  constructor
  · intro same field inside kept
    have among : (field.1, sanitizeEntryValue numbers nested depth field) ∈
        keptEntries numbers allowedKeys nested depth fields :=
      List.mem_filterMap.mpr ⟨field, inside, by rw [sanitizeEntry, if_pos kept]⟩
    exact (Prod.mk.inj (same _ among)).2
  · intro settled entry among
    obtain ⟨field, inside, made⟩ := List.mem_filterMap.mp among
    rw [sanitizeEntry] at made
    split at made
    next kept =>
      cases made
      exact Prod.ext rfl (settled field inside kept)
    next => cases made

theorem length_keptEntries_eq_iff (long : maxProviderMetaObjectKeys < fields.length) :
    (keptEntries numbers allowedKeys nested depth fields).length = maxProviderMetaObjectKeys ↔
      ∀ field ∈ fields.take maxProviderMetaObjectKeys, keepsMetaKey allowedKeys field.1 = true := by
  have whole : (fields.take maxProviderMetaObjectKeys).length = maxProviderMetaObjectKeys := by
    rw [List.length_take, Nat.min_eq_left long.le]
  rw [keptEntries, List.length_filterMap_eq_countP]
  nth_rewrite 2 [← whole]
  rw [List.countP_eq_length]
  refine forall₂_congr fun field _ => ?_
  rw [sanitizeEntry]
  cases keepsMetaKey allowedKeys field.1 <;> simp

theorem length_keptEntries_le :
    (keptEntries numbers allowedKeys nested depth fields).length ≤ maxProviderMetaObjectKeys :=
  (List.length_filterMap_le _ _).trans (List.length_take_le _ _)

/-- An object settles when its kept entries do, unless it is marked as cut: the marker
comes back only where all the entries before it were kept. -/
theorem structured_obj_twice_iff
    (marker : allowedKeys.contains (normalizeMetaKey "_truncated") = false) :
    sanitizeStructuredProviderMetaValue numbers
        (sanitizeStructuredProviderMetaValue numbers (.obj fields) (.object allowedKeys nested) depth)
        (.object allowedKeys nested) depth =
      sanitizeStructuredProviderMetaValue numbers (.obj fields) (.object allowedKeys nested) depth ↔
    (fields.length ≤ maxProviderMetaObjectKeys ∨
        ∀ field ∈ fields.take maxProviderMetaObjectKeys, keepsMetaKey allowedKeys field.1 = true) ∧
      ∀ field ∈ fields.take maxProviderMetaObjectKeys, keepsMetaKey allowedKeys field.1 = true →
        sanitizeEntryValue numbers nested depth
            (field.1, sanitizeEntryValue numbers nested depth field) =
          sanitizeEntryValue numbers nested depth field := by
  rw [← map_keptEntries_iff, structured_obj]
  have few : (keptEntries numbers allowedKeys nested depth fields).length ≤
      maxProviderMetaObjectKeys := length_keptEntries_le
  have allKept : ∀ field ∈ keptEntries numbers allowedKeys nested depth fields,
      keepsMetaKey allowedKeys field.1 = true := fun field => keeps_of_mem_keptEntries
  have again (entries : List (String × Json ν)) (kept : ∀ field ∈ entries,
      keepsMetaKey allowedKeys field.1 = true) :=
    @filterMap_sanitizeEntry _ numbers _ nested depth _ kept
  by_cases long : maxProviderMetaObjectKeys < fields.length
  · have full := @length_keptEntries_eq_iff _ numbers allowedKeys nested depth fields long
    have marked : cutMarker fields = [("_truncated", (.bool true : Json ν))] := if_pos long
    rw [or_iff_right (Nat.not_le.mpr long), ← full, marked]
    generalize keptEntries numbers allowedKeys nested depth fields = entries at few allKept ⊢
    have object : objectOrNull (entries ++ [("_truncated", .bool true)]) =
        .obj (entries ++ [("_truncated", .bool true)]) := by
      rw [objectOrNull, if_neg (by simp)]
    rw [object, structured_obj, keptEntries]
    by_cases all : entries.length = maxProviderMetaObjectKeys
    · -- Twenty-five entries again: the marker is put back.
      have cut : cutMarker (entries ++ [("_truncated", (.bool true : Json ν))]) =
          [("_truncated", .bool true)] := by
        rw [cutMarker, if_pos (by rw [List.length_append, all]; simp)]
      rw [List.take_left' all, again entries allKept, cut, objectOrNull, if_neg (by simp),
        Json.obj.injEq, List.append_left_inj, and_iff_right all]
    · -- The marker is dropped as a key that is not allowed.
      have notCut : cutMarker (entries ++ [("_truncated", (.bool true : Json ν))]) = [] := by
        rw [cutMarker, if_neg (by rw [List.length_append, List.length_singleton]; omega)]
      have dropped : sanitizeEntry numbers allowedKeys nested depth
          ("_truncated", .bool true) = none := by
        rw [sanitizeEntry, keepsMetaKey, marker]
        rfl
      have taken : (entries ++ [("_truncated", (.bool true : Json ν))]).take
          maxProviderMetaObjectKeys = entries ++ [("_truncated", .bool true)] :=
        List.take_of_length_le (by rw [List.length_append, List.length_singleton]; omega)
      rw [taken, List.filterMap_append, again entries allKept, notCut, List.filterMap_cons, dropped]
      refine iff_of_false (fun same => ?_) fun settled => all settled.1
      rw [List.filterMap_nil, List.append_nil, List.append_nil, objectOrNull] at same
      split at same
      · cases same
      · have lengths := congrArg List.length (Json.obj.inj same)
        rw [List.length_map, List.length_append, List.length_singleton] at lengths
        omega
  · have unmarked : cutMarker fields = [] := if_neg long
    rw [or_iff_left_of_imp fun _ => Nat.not_lt.mp long, and_iff_right (Nat.not_lt.mp long), unmarked,
      List.append_nil]
    generalize keptEntries numbers allowedKeys nested depth fields = entries at few allKept ⊢
    cases entries with
    | nil => exact iff_of_true rfl rfl
    | cons entry rest =>
      have notCut : cutMarker (entry :: rest) = [] := if_neg (Nat.not_lt.mpr few)
      rw [show objectOrNull (entry :: rest) = .obj (entry :: rest) from rfl, structured_obj,
        keptEntries, List.take_of_length_le few, again _ allKept, notCut, List.append_nil]
      exact Json.obj.injEq _ _ ▸ Iff.rfl

end Objects

/-- An array with the schema of an array, or an object with the schema of an object. -/
def fitsSchema : Json ν → ProviderMetaSchema → Bool
  | .arr _, .array _ => true
  | .obj _, .object _ _ => true
  | _, _ => false

theorem fitsSchema_cases (value : Json ν) (schema : ProviderMetaSchema) :
    (∃ items item, value = .arr items ∧ schema = .array item) ∨
      (∃ fields allowedKeys nested, value = .obj fields ∧ schema = .object allowedKeys nested) ∨
      fitsSchema value schema = false := by
  cases value with
  | arr items =>
    cases schema with
    | array item => exact .inl ⟨items, item, rfl, rfl⟩
    | object allowedKeys nested => exact .inr (.inr rfl)
  | obj fields =>
    cases schema with
    | array item => exact .inr (.inr rfl)
    | object allowedKeys nested => exact .inr (.inl ⟨fields, allowedKeys, nested, rfl, rfl⟩)
  | null | bool _ | num _ | str _ => exact .inr (.inr rfl)

/-- Anything but an array or an object of the right kind becomes `null`. -/
theorem structured_of_misfit {value : Json ν} {schema : ProviderMetaSchema}
    (misfit : fitsSchema value schema = false) (depth : Nat) :
    sanitizeStructuredProviderMetaValue numbers value schema depth = .null := by
  rw [sanitizeStructuredProviderMetaValue]
  · rintro items item rfl rfl
    cases misfit
  · rintro fields allowedKeys nested rfl rfl
    cases misfit

theorem structured_null (schema : ProviderMetaSchema) (depth : Nat) :
    sanitizeStructuredProviderMetaValue numbers .null schema depth = .null :=
  structured_of_misfit (by cases schema <;> rfl) depth

theorem settledStructured_of_misfit {value : Json ν} {schema : ProviderMetaSchema}
    (misfit : fitsSchema value schema = false) (depth : Nat) :
    settledStructured numbers value schema depth = true := by
  rw [settledStructured]
  · rintro items item rfl rfl
    cases misfit
  · rintro fields allowedKeys nested rfl rfl
    cases misfit

theorem structured_cases (value : Json ν) (schema : ProviderMetaSchema) (depth : Nat) :
    isContainer (sanitizeStructuredProviderMetaValue numbers value schema depth) = true ∨
      sanitizeStructuredProviderMetaValue numbers value schema depth = .null := by
  rcases fitsSchema_cases value schema with
    ⟨items, item, rfl, rfl⟩ | ⟨fields, allowedKeys, nested, rfl, rfl⟩ | misfit
  · exact .inl (by rw [structured_arr]; rfl)
  · rw [structured_obj, objectOrNull]
    split
    · exact .inr rfl
    · exact .inl rfl
  · exact .inr (structured_of_misfit misfit depth)

section Values

variable {value : Json ν} {depth : Nat} {schema : Option ProviderMetaSchema}

theorem value_of_deep (deep : maxProviderMetaDepth < depth) :
    sanitizeProviderMetaValue numbers value depth schema = .str "[TRUNCATED_DEPTH]" :=
  if_pos deep

theorem value_of_container (shallow : ¬ maxProviderMetaDepth < depth)
    (container : isContainer value = true) :
    sanitizeProviderMetaValue numbers value depth schema =
      match schema with
      | some inner => sanitizeStructuredProviderMetaValue numbers value inner depth
      | none => .str (opaqueText numbers value) := by
  unfold sanitizeProviderMetaValue sanitizeProviderMetaValueBy
  rw [if_neg shallow]
  cases value with
  | arr items => cases schema <;> rfl
  | obj fields => cases schema <;> rfl
  | null => cases container
  | bool b => cases container
  | num n => cases container
  | str text => cases container

theorem value_of_text (shallow : ¬ maxProviderMetaDepth < depth) (text : String) :
    sanitizeProviderMetaValue numbers (.str text) depth schema =
      .str (redactProviderTextBy numbers.halves.high text) := by
  unfold sanitizeProviderMetaValue sanitizeProviderMetaValueBy
  rw [if_neg shallow]

theorem value_of_null (shallow : ¬ maxProviderMetaDepth < depth) :
    sanitizeProviderMetaValue numbers .null depth schema = .null := by
  unfold sanitizeProviderMetaValue sanitizeProviderMetaValueBy
  rw [if_neg shallow]

theorem settledValue_of_container (shallow : ¬ maxProviderMetaDepth < depth)
    (container : isContainer value = true) :
    settledValue numbers value depth schema =
      match schema with
      | some inner => settledStructured numbers value inner depth
      | none => opaqueSettles numbers value := by
  unfold settledValue settledValueBy
  rw [if_neg shallow]
  cases value with
  | arr items => cases schema <;> rfl
  | obj fields => cases schema <;> rfl
  | null => cases container
  | bool b => cases container
  | num n => cases container
  | str text => cases container

/-- A sanitised value settles when its text does, or its array or object. -/
theorem value_twice_iff
    (structured : ∀ inner, schema = some inner →
      (sanitizeStructuredProviderMetaValue numbers
          (sanitizeStructuredProviderMetaValue numbers value inner depth) inner depth =
        sanitizeStructuredProviderMetaValue numbers value inner depth ↔
      settledStructured numbers value inner depth = true)) :
    sanitizeProviderMetaValue numbers (sanitizeProviderMetaValue numbers value depth schema) depth
        schema = sanitizeProviderMetaValue numbers value depth schema ↔
      settledValue numbers value depth schema = true := by
  by_cases deep : maxProviderMetaDepth < depth
  · unfold settledValue settledValueBy
    rw [value_of_deep deep, value_of_deep deep, if_pos deep]
    exact iff_of_true rfl rfl
  cases isContainer_ : isContainer value with
  | true =>
    rw [value_of_container deep isContainer_, settledValue_of_container deep isContainer_]
    cases schema with
    | none =>
      dsimp only
      rw [value_of_text deep, opaqueSettles, beq_iff_eq, Json.str.injEq]
    | some inner =>
      dsimp only
      rw [← structured inner rfl]
      rcases @structured_cases _ numbers value inner depth with again | null
      · rw [value_of_container deep again]
      · rw [null, value_of_null deep, structured_null]
  | false =>
    cases value with
    | arr items => cases isContainer_
    | obj fields => cases isContainer_
    | str text =>
      unfold settledValue settledValueBy
      rw [value_of_text deep, value_of_text deep, if_neg deep, Json.str.injEq]
      exact beq_iff_eq.symm
    | null =>
      unfold settledValue settledValueBy
      rw [value_of_null deep, value_of_null deep, if_neg deep]
      exact iff_of_true rfl rfl
    | bool b =>
      simp [sanitizeProviderMetaValue, sanitizeProviderMetaValueBy, settledValue, settledValueBy,
        deep]
    | num n =>
      cases finite : numbers.isFinite n <;>
        simp [sanitizeProviderMetaValue, sanitizeProviderMetaValueBy, settledValue,
          settledValueBy, deep, finite]

end Values

/-- The second pass over a value with a schema changes nothing exactly if the value is
settled. -/
theorem structured_twice_iff (value : Json ν) {schema : ProviderMetaSchema}
    (unmarked : Unmarked schema) (depth : Nat) :
    sanitizeStructuredProviderMetaValue numbers
        (sanitizeStructuredProviderMetaValue numbers value schema depth) schema depth =
      sanitizeStructuredProviderMetaValue numbers value schema depth ↔
    settledStructured numbers value schema depth = true := by
  induction size : Json.size value using Nat.strong_induction_on generalizing value schema depth with
  | h n ih =>
    subst size
    rcases fitsSchema_cases value schema with
      ⟨items, item, rfl, rfl⟩ | ⟨fields, allowedKeys, nested, rfl, rfl⟩ | misfit
    · cases unmarked with | array inner =>
      rw [structured_arr_twice_iff, settledStructured, settledItems_eq, ← List.map_take,
        List.all_map, List.all_eq_true]
      refine forall₂_congr fun x inside => ?_
      cases item with
      | none => simp [sanitizeItem]
      | some schema =>
        exact ih _ (Json.size_lt_of_mem_items (List.mem_of_mem_take inside)) x
          (inner schema rfl) (depth + 1) rfl
    · cases unmarked with | object marker inner =>
      rw [structured_obj_twice_iff marker, settledStructured, settledEntries_eq,
        ← List.map_take, List.all_map, Bool.and_eq_true, Bool.or_eq_true,
        decide_eq_true_eq, List.all_eq_true, List.all_eq_true]
      refine and_congr_right fun _ => forall₂_congr fun field inside => ?_
      have smaller := Json.size_lt_of_mem_fields (List.mem_of_mem_take inside)
      have value := @value_twice_iff _ numbers field.2 (depth + 1)
        (nested.lookup (normalizeMetaKey field.1))
        fun schema found => ih _ smaller field.2 (inner _ schema found) (depth + 1) rfl
      rw [Function.comp_apply, id_eq, Bool.or_eq_true, Bool.not_eq_true', ← value]
      cases keepsMetaKey allowedKeys field.1 <;> simp [sanitizeEntryValue]
    · rw [structured_of_misfit misfit, structured_null, settledStructured_of_misfit misfit]
      exact iff_of_true rfl rfl

end Pointwise

/-! ### The metadata -/

section Meta

variable {ν : Type} (host : MetaHost ν)

/-- The kept entries are settled. -/
def settledMeta (allowedKeys : List String) (fields : List (String × Json ν)) : Bool :=
  fields.all fun field => !keepsMetaKey allowedKeys field.1 ||
    settledValue host.toJsScalars field.2 0
      (providerMetaNestedSchemas.lookup (normalizeMetaKey field.1))

theorem everyList_of_summary {P : List String → Prop}
    (modelItem : P (toNormalizedKeySet ["modelName", "totalTokens"]))
    (toolItem : P (toNormalizedKeySet ["toolName", "totalCount"]))
    (models : P (toNormalizedKeySet ["granularity", "sampledAt", "totalModelCallCount",
      "totalTokensUsage", "topModels", "windowHours"]))
    (tools : P (toNormalizedKeySet ["granularity", "sampledAt", "totalNetworkSearchCount",
      "totalWebReadMcpCount", "totalZreadMcpCount", "totalSearchMcpCount", "tools",
      "windowHours"]))
    {key : String} {schema : ProviderMetaSchema}
    (found : providerMetaNestedSchemas.lookup key = some schema) : EveryList P schema := by
  have list (name : String) {item : ProviderMetaSchema} (inner : EveryList P item) (key : String)
      (schema : ProviderMetaSchema)
      (found : (normalizeSchemaRecord [(name, .array (some item))]).lookup key = some schema) :
      EveryList P schema := by
    simp only [normalizeSchemaRecord, List.map_cons, List.map_nil, List.lookup_cons,
      List.lookup_nil] at found
    split at found
    · cases found
      exact .array fun _ same => Option.some.inj same ▸ inner
    · cases found
  have modelSchema : EveryList P modelUsageItemSchema :=
    .object modelItem fun _ _ none_ => by cases none_
  have toolSchema : EveryList P toolUsageItemSchema :=
    .object toolItem fun _ _ none_ => by cases none_
  simp only [providerMetaNestedSchemas, normalizeSchemaRecord, List.map_cons, List.map_nil,
    List.lookup_cons, List.lookup_nil] at found
  split at found
  · cases found
    exact .object models (list "topModels" modelSchema)
  · split at found
    · cases found
      exact .object tools (list "tools" toolSchema)
    · cases found

theorem unmarked_of_summary {key : String} {schema : ProviderMetaSchema}
    (found : providerMetaNestedSchemas.lookup key = some schema) : Unmarked schema :=
  everyList_of_summary (by decide) (by decide) (by decide) (by decide) found

theorem sanitizedMeta_eq_filterMap (allowedKeys : List String) (fields : List (String × Json ν)) :
    sanitizedMeta host allowedKeys fields = fields.filterMap fun field =>
      if keepsMetaKey allowedKeys field.1 then
        some (field.1, sanitizedMetaValue host field.1 field.2)
      else none := by
  induction fields with
  | nil => rfl
  | cons field rest ih =>
    rw [sanitizedMeta_cons, List.filterMap_cons, ih]
    split <;> rfl

theorem keeps_of_mem_sanitizedMeta {allowedKeys : List String} {fields : List (String × Json ν)}
    {field : String × Json ν} (inside : field ∈ sanitizedMeta host allowedKeys fields) :
    keepsMetaKey allowedKeys field.1 = true := by
  rw [sanitizedMeta_eq_filterMap] at inside
  obtain ⟨given, -, made⟩ := List.mem_filterMap.mp inside
  split at made
  · cases made
    assumption
  · cases made

theorem sanitizedMeta_twice (allowedKeys : List String) (fields : List (String × Json ν)) :
    sanitizedMeta host allowedKeys (sanitizedMeta host allowedKeys fields) =
      (sanitizedMeta host allowedKeys fields).map fun field =>
        (field.1, sanitizedMetaValue host field.1 field.2) := by
  rw [sanitizedMeta_eq_filterMap host allowedKeys (sanitizedMeta host allowedKeys fields),
    ← List.filterMap_eq_map]
  refine List.filterMap_congr fun field inside => ?_
  rw [if_pos (keeps_of_mem_sanitizedMeta host inside)]
  rfl

theorem sanitizedMetaValue_twice_iff (key : String) (value : Json ν) :
    sanitizedMetaValue host key (sanitizedMetaValue host key value) =
        sanitizedMetaValue host key value ↔
      settledValue host.toJsScalars value 0
        (providerMetaNestedSchemas.lookup (normalizeMetaKey key)) = true :=
  value_twice_iff fun _ found => structured_twice_iff value (unmarked_of_summary found) 0

theorem sanitizedMeta_twice_iff (allowedKeys : List String) (fields : List (String × Json ν)) :
    sanitizedMeta host allowedKeys (sanitizedMeta host allowedKeys fields) =
        sanitizedMeta host allowedKeys fields ↔
      settledMeta host allowedKeys fields = true := by
  rw [sanitizedMeta_twice, settledMeta, List.all_eq_true, Json.map_eq_self_iff]
  constructor
  · intro same field inside
    cases kept : keepsMetaKey allowedKeys field.1 with
    | false => rfl
    | true =>
      have among : (field.1, sanitizedMetaValue host field.1 field.2) ∈
          sanitizedMeta host allowedKeys fields := by
        rw [sanitizedMeta_eq_filterMap]
        exact List.mem_filterMap.mpr ⟨field, inside, if_pos kept⟩
      have settled := (Prod.mk.inj (same _ among)).2
      rw [(sanitizedMetaValue_twice_iff host field.1 field.2).mp settled, Bool.or_true]
  · intro settled entry among
    rw [sanitizedMeta_eq_filterMap] at among
    obtain ⟨field, inside, made⟩ := List.mem_filterMap.mp among
    split at made
    next kept =>
      cases made
      have here := settled field inside
      rw [kept, Bool.not_true, Bool.false_or] at here
      have fixed := (sanitizedMetaValue_twice_iff host field.1 field.2).mpr here
      exact congrArg (Prod.mk field.1) fixed
    next => cases made

theorem keepsMetaKey_truncated {providerId : Option String} {allowedKeys : List String}
    (found : allowedProviderMetaKeys providerId = .ok allowedKeys) :
    keepsMetaKey allowedKeys "_truncated" = false := by
  have generic : normalizeMetaKey "_truncated" ∉ genericAllowedProviderMetaKeys := by
    decide
  have lists : ∀ entry ∈ providerMetaAllowlist, normalizeMetaKey "_truncated" ∉ entry.2 := by
    decide
  have absent : normalizeMetaKey "_truncated" ∉ allowedKeys := by
    unfold allowedProviderMetaKeys at found
    split at found
    next providerAllowlist listed =>
      cases found
      obtain ⟨front, back, split, -⟩ := List.lookup_eq_some_iff.mp listed
      have among : (normalizeProviderId providerId, providerAllowlist) ∈ providerMetaAllowlist := by
        rw [split]
        simp
      exact fun inside => (List.mem_append.mp inside).elim generic (lists _ among)
    · split at found
      · cases found
      · cases found
        exact generic
  rw [keepsMetaKey, List.contains_eq_mem, decide_eq_false absent, Bool.false_and]

theorem truncatedMeta_eq (entries : List (String × Json ν)) :
    ∃ status, truncatedMeta entries = statusRecord status := by
  unfold truncatedMeta
  split
  · exact ⟨_, rfl⟩
  · exact ⟨_, rfl⟩

/-- The record of a status loses its marker in the second pass. -/
theorem sanitizeProviderMeta_statusRecord {providerId : Option String} {allowedKeys : List String}
    (found : allowedProviderMetaKeys providerId = .ok allowedKeys) (status : String) :
    sanitizeProviderMeta host providerId (statusRecord status) =
      .ok (.obj [("status", .str (redactProviderTextBy host.halves.high status))]) := by
  have schema : providerMetaNestedSchemas.lookup (normalizeMetaKey "status") = none := by
    decide
  have value : sanitizedMetaValue host "status" (.str status) =
      .str (redactProviderTextBy host.halves.high status) := by
    rw [sanitizedMetaValue, schema]
    rfl
  have entries : sanitizedMeta host allowedKeys
      [("_truncated", .bool true), ("status", .str status)] =
      [("status", .str (redactProviderTextBy host.halves.high status))] := by
    rw [sanitizedMeta_cons, sanitizedMeta_cons, if_pos (keepsMetaKey_status found), value,
      keepsMetaKey_truncated found]
    rfl
  have short : jsonBytes host (.obj [("status", .str (redactProviderTextBy host.halves.high status))]) ≤
      maxProviderMetaBytes := by
    have text : (Json.obj [("status", .str (redactProviderTextBy host.halves.high status))]).stringify
        host.write =
        ('\x7b' :: Json.quote "status" ++ [':']) ++
          (Json.quote (redactProviderTextBy host.halves.high status) ++ ['\x7d']) := by
      simp [Json.stringify, Json.stringifyFields]
    have front : estimateUtf8Bytes host.halves ('\x7b' :: Json.quote "status" ++ [':']) = 10 :=
      (estimateUtf8Bytes_ascii (by decide)).trans (by decide)
    have last : estimateUtf8Bytes host.halves ['\x7d'] = 1 := estimateUtf8Bytes_ascii (by decide)
    have quoted := @estimateUtf8Bytes_quote_le host.halves
      (redactProviderTextBy host.halves.high status)
    have units := utf16Length_redactProviderTextBy_le host.halves.unitsOf_high status
    have limit : 6 * (maxProviderMetaStringLength + 3) + 13 ≤ maxProviderMetaBytes := by decide
    rw [jsonBytes, text, estimateUtf8Bytes_append, front, estimateUtf8Bytes_append, last]
    omega
  rw [statusRecord, sanitizeProviderMeta_obj host found, entries, if_neg (by simp),
    if_neg (Nat.not_lt.mpr short)]

/-- The sanitised metadata, sanitised again, are the same exactly if they fit without
truncation and their kept entries are settled. -/
theorem sanitizeProviderMeta_twice_iff (providerId : Option String) (providerMeta : Json ν) :
    (∃ safe, sanitizeProviderMeta host providerId providerMeta = .ok safe ∧
        sanitizeProviderMeta host providerId safe = .ok safe) ↔
      ∀ fields, providerMeta = .obj fields →
        ∃ allowedKeys, allowedProviderMetaKeys providerId = .ok allowedKeys ∧
          jsonBytes host (.obj (sanitizedMeta host allowedKeys fields)) ≤ maxProviderMetaBytes ∧
            settledMeta host allowedKeys fields = true := by
  have null : ∃ safe, sanitizeProviderMeta host providerId .null = .ok safe ∧
      sanitizeProviderMeta host providerId safe = .ok safe := ⟨.null, rfl, rfl⟩
  cases providerMeta with
  | obj fields =>
    have single (P : List (String × Json ν) → Prop) :
        (∀ fields', Json.obj fields = .obj fields' → P fields') ↔ P fields :=
      ⟨fun all => all fields rfl, fun holds fields' same => by cases same; exact holds⟩
    rw [single]
    cases found : allowedProviderMetaKeys providerId with
    | error error => simp [sanitizeProviderMeta, found]
    | ok allowedKeys =>
      have first := sanitizeProviderMeta_obj host found fields
      have twice := sanitizedMeta_twice host allowedKeys fields
      have kept : ∀ field ∈ sanitizedMeta host allowedKeys fields,
          keepsMetaKey allowedKeys field.1 = true :=
        fun field => keeps_of_mem_sanitizedMeta host
      rw [first]
      simp only [Except.ok.injEq, exists_eq_left']
      rw [← sanitizedMeta_twice_iff, twice]
      generalize sanitizedMeta host allowedKeys fields = entries at twice kept ⊢
      by_cases empty : entries = []
      · rw [empty]
        exact iff_of_true rfl ⟨jsonBytes_nil_le host, rfl⟩
      rw [if_neg (by simpa using empty)]
      by_cases long : maxProviderMetaBytes < jsonBytes host (.obj entries)
      · obtain ⟨status, record⟩ := truncatedMeta_eq entries
        rw [if_pos long, record, sanitizeProviderMeta_statusRecord host found, statusRecord]
        exact iff_of_false (by simp) fun settled => Nat.not_lt.mpr settled.1 long
      · rw [if_neg long, sanitizeProviderMeta_obj host found, twice, if_neg (by simpa using empty),
          and_iff_right (Nat.not_lt.mp long)]
        split
        next longer =>
          obtain ⟨status, record⟩ := truncatedMeta_eq
            (entries.map fun field => (field.1, sanitizedMetaValue host field.1 field.2))
          refine iff_of_false (fun same => ?_) fun same => long (same ▸ longer)
          rw [record, statusRecord] at same
          have marked := kept ("_truncated", .bool true)
            (Json.obj.inj (Except.ok.inj same) ▸ List.mem_cons_self)
          rw [keepsMetaKey_truncated found] at marked
          cases marked
        next => rw [Except.ok.injEq, Json.obj.injEq]
  | null => simpa using null
  | bool b => simp [sanitizeProviderMeta]
  | num n => simp [sanitizeProviderMeta]
  | str s => simp [sanitizeProviderMeta]
  | arr items => simp [sanitizeProviderMeta]

end Meta

end AifHandoff.Shared
