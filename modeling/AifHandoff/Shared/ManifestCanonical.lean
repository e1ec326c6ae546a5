import AifHandoff.Lib.JsonTexts
import AifHandoff.Shared.ManifestNormalizers

/-!
The normal form of implementation manifests is canonical as far as no field is missing.
-/

namespace AifHandoff.Shared.Manifest

open Json

section Canonical

variable {ν : Type} {numbers : ManifestNumbers ν} {v w : JsValue ν}
  {fields fields' : List (String × JsValue ν)}

/-! ### Missing fields -/

theorem noHoles_arr_iff (items : List (JsValue ν)) :
    NoHoles (.arr items) ↔ ∀ item ∈ items, NoHoles item := by
  unfold NoHoles
  rw [leaves, itemLeaves_eq]
  simp only [List.mem_flatMap, forall_exists_index, and_imp]
  exact ⟨fun none_ item inside leaf among => none_ leaf item inside among,
    fun none_ leaf item inside among => none_ item inside leaf among⟩

theorem noHoles_obj_iff (fields : List (String × JsValue ν)) :
    NoHoles (.obj fields) ↔ ∀ field ∈ fields, NoHoles field.2 := by
  unfold NoHoles
  rw [leaves, fieldLeaves_eq]
  simp only [List.mem_flatMap, forall_exists_index, and_imp]
  exact ⟨fun none_ field inside leaf among => none_ leaf field inside among,
    fun none_ leaf field inside among => none_ field inside leaf among⟩

theorem noHoles_str (text : String) : NoHoles (.str text : JsValue ν) := by
  intro leaf inside
  rw [leaves] at inside
  cases inside

theorem not_noHoles_undefined : ¬ NoHoles (undefined : JsValue ν) := by
  intro none_
  exact none_ none (by rw [undefined, leaves]; exact List.mem_cons_self) rfl

theorem noHoles_stringsOrNone (v : JsValue ν) : NoHoles (stringsOrNone v) := by
  unfold stringsOrNone
  split
  next strings =>
    cases v with
    | arr items =>
      rw [noHoles_arr_iff]
      intro item inside
      have text := List.all_eq_true.mp strings item inside
      cases item with
      | str s => exact noHoles_str s
      | _ => cases text
    | _ => cases strings
  next => exact (noHoles_arr_iff []).mpr fun _ inside => nomatch inside

theorem noHoles_fields {fields : List (String × JsValue ν)} (keys : (fields.map (·.1)).Nodup) :
    NoHoles (.obj fields) ↔ ∀ key value, fields.lookup key = some value → NoHoles value := by
  rw [noHoles_obj_iff]
  exact ⟨fun each key value found => each _ ((lookup_eq_some_iff_mem keys).mp found),
    fun each field inside => each field.1 field.2 ((lookup_eq_some_iff_mem keys).mpr inside)⟩

theorem noHoles_foldl_putField (values : List (String × JsValue ν)) :
    ∀ fields : List (String × JsValue ν), (∀ value ∈ values, NoHoles value.2) →
      NoHoles (.obj fields) → NoHoles (.obj (values.foldl putField fields)) := by
  induction values with
  | nil => exact fun _ _ none_ => none_
  | cons value rest ih =>
    intro fields each none_
    rw [List.forall_mem_cons] at each
    refine ih _ each.2 ((noHoles_obj_iff _).mpr fun field inside => ?_)
    obtain rfl | among := mem_putField inside
    · exact each.1
    · exact (noHoles_obj_iff fields).mp none_ field among

theorem noHoles_of_rebuilt {shapes : List (String × (JsValue ν → JsValue ν))}
    (none_ : NoHoles (.obj fields))
    (each : ∀ shape ∈ shapes, NoHoles (shape.2 (property fields shape.1))) :
    NoHoles (.obj (rebuilt shapes fields)) :=
  noHoles_foldl_putField _ _ (List.forall_mem_map.mpr each) none_

theorem noHoles_rebuilt {shapes : List (String × (JsValue ν → JsValue ν))}
    (names : (shapes.map (·.1)).Nodup) (keys : (fields.map (·.1)).Nodup)
    (none_ : NoHoles (.obj fields)) : NoHoles (.obj (rebuilt shapes fields)) ↔
      ∀ shape ∈ shapes, NoHoles (shape.2 (property fields shape.1)) := by
  rw [noHoles_fields (nodup_rebuilt shapes keys)]
  constructor
  · intro each shape inside
    refine each shape.1 _ ?_
    rw [lookup_rebuilt names, (lookup_eq_some_iff_mem names).mpr inside]
    rfl
  · intro each key value found
    rw [lookup_rebuilt names] at found
    cases shape : shapes.lookup key with
    | none =>
      rw [shape] at found
      exact (noHoles_fields keys).mp none_ key value found
    | some rebuild =>
      rw [shape] at found
      cases found
      exact each (key, rebuild) ((lookup_eq_some_iff_mem names).mp shape)

/-- The manifest has the fields that are rebuilt from what is there, and a status at every
evidence that is an object. -/
structure Complete (fields : List (String × Json ν)) : Prop where
  present : ∀ key ∈ ["changedFiles", "diffSummary", "verificationEvidence", "acceptanceCriteria",
    "planChecklist", "reviewClosure", "commitEvidence"], (fields.lookup key).isSome = true
  statuses : ∀ entries entry, fields.lookup "verificationEvidence" = some (.arr entries) →
    .obj entry ∈ entries → (entry.lookup "status").isSome = true

theorem keys_jsFields (fields : List (String × Json ν)) :
    (jsFields fields).map (·.1) = fields.map (·.1) := by
  rw [jsFields, List.map_map]
  rfl

theorem withHoles_obj (fields : List (String × Json ν)) :
    withHoles (.obj fields) = .obj (jsFields fields) := by
  rw [withHoles, Json.bind, bindFields_eq]
  rfl

theorem withHoles_arr (items : List (Json ν)) :
    withHoles (.arr items) = .arr (items.map withHoles) := by
  rw [withHoles, Json.bind, bindItems_eq]
  rfl

theorem property_jsFields (fields : List (String × Json ν)) (key : String) :
    property (jsFields fields) key = ((fields.lookup key).map withHoles).getD undefined := by
  rw [property, jsFields, lookup_map]

section Present

variable {fields : List (String × Json ν)} {key : String} {shape : JsValue ν → JsValue ν}

theorem noHoles_kept_iff (kept : ∀ v, NoHoles v → NoHoles (shape v))
    (missing : shape undefined = undefined) :
    NoHoles (shape (property (jsFields fields) key)) ↔ (fields.lookup key).isSome = true := by
  rw [property_jsFields]
  cases fields.lookup key with
  | none =>
    rw [Option.map_none, Option.getD_none, missing]
    exact ⟨fun none_ => absurd none_ not_noHoles_undefined, fun is => nomatch is⟩
  | some value => exact ⟨fun _ => rfl, fun _ => kept _ (noHoles_withHoles value)⟩

theorem noHoles_verificationStatus (v : JsValue ν) (none_ : NoHoles v) :
    NoHoles (normalizeVerificationStatus v) := by
  cases v with
  | str status =>
    rw [normalizeVerificationStatus_str]
    exact noHoles_str _
  | _ => exact none_

theorem noHoles_idOr (name : String) (v : JsValue ν) : NoHoles (idOr name v) := by
  unfold idOr
  split
  next useful =>
    cases v with
    | str s => exact noHoles_str s
    | _ => cases useful
  next => exact noHoles_str name

theorem noHoles_verificationEntry_iff (index : Nat) {entry : Json ν} (distinct : Distinct entry) :
    NoHoles (verificationEntry index (withHoles entry)) ↔
      ∀ fields, entry = .obj fields → (fields.lookup "status").isSome = true := by
  cases entry with
  | obj fields =>
    rw [withHoles_obj]
    have whole : NoHoles (.obj (jsFields fields)) := by
      rw [← withHoles_obj]
      exact noHoles_withHoles _
    have keys : ((jsFields fields).map (·.1)).Nodup := by
      rw [keys_jsFields]
      exact distinct.1
    have rebuild := @noHoles_rebuilt _ (jsFields fields)
      [("id", idOr ("ver-" ++ toString (index + 1))), ("status", normalizeVerificationStatus)]
      (show ["id", "status"].Nodup by decide) keys whole
    simp only [List.forall_mem_cons, List.not_mem_nil, false_implies, implies_true,
      and_true] at rebuild
    refine rebuild.trans ?_
    rw [noHoles_kept_iff noHoles_verificationStatus rfl]
    exact ⟨fun both _ is => (by cases is; exact both.2),
      fun status => ⟨noHoles_idOr _ _, status fields rfl⟩⟩
  | null | bool _ | num _ | str _ | arr _ =>
    exact ⟨fun _ _ is => (by cases is), fun _ => noHoles_withHoles _⟩

theorem noHoles_changedFiles (v : JsValue ν) (none_ : NoHoles v) :
    NoHoles (normalizeChangedFilesShape v) := by
  cases v with
  | arr entries =>
    have each := (noHoles_arr_iff entries).mp none_
    rw [normalizeChangedFilesShape, noHoles_arr_iff, List.forall_mem_map]
    intro entry inside
    cases entry with
    | str path =>
      rw [changedFileEntry, noHoles_obj_iff]
      simp only [List.forall_mem_cons, List.not_mem_nil, false_implies, implies_true, and_true]
      exact ⟨noHoles_str _, noHoles_str _⟩
    | _ => exact each _ inside
  | _ => exact none_

theorem noHoles_diffSummary (v : JsValue ν) (none_ : NoHoles v) :
    NoHoles (normalizeDiffSummaryShape v) := by
  cases v with
  | str text =>
    dsimp only [normalizeDiffSummaryShape]
    split
    · rw [noHoles_obj_iff]
      simp only [List.forall_mem_cons, List.not_mem_nil, false_implies, implies_true, and_true]
      exact noHoles_str _
    · exact none_
  | _ => exact none_

theorem noHoles_none : NoHoles (.arr [] : JsValue ν) :=
  (noHoles_arr_iff []).mpr fun _ inside => nomatch inside

theorem noHoles_dispositions (v : JsValue ν) : NoHoles (normalizeChecklistDispositionsShape v) := by
  have text (v : JsValue ν) : NoHoles (textOrEmpty v) := by
    cases v <;> exact noHoles_str _
  cases v with
  | arr entries =>
    rw [normalizeChecklistDispositionsShape, noHoles_arr_iff, List.forall_mem_map]
    intro entry _
    have parts (item reason refs : JsValue ν) (items : NoHoles item) (reasons : NoHoles reason)
        (each : NoHoles refs) :
        NoHoles (.obj [("item", item), ("reason", reason), ("evidenceRefs", refs)]) := by
      rw [noHoles_obj_iff]
      simp only [List.forall_mem_cons, List.not_mem_nil, false_implies, implies_true, and_true]
      exact ⟨items, reasons, each⟩
    cases entry with
    | obj fields => exact parts _ _ _ (text _) (text _) (noHoles_stringsOrNone _)
    | _ => exact parts _ _ _ (noHoles_str _) (noHoles_str _) noHoles_none
  | _ => exact noHoles_none

theorem noHoles_acceptanceCriteria (v : JsValue ν) (none_ : NoHoles v) :
    NoHoles (normalizeAcceptanceCriteriaShape v) := by
  cases v with
  | arr entries =>
    have each := (noHoles_arr_iff entries).mp none_
    rw [normalizeAcceptanceCriteriaShape, noHoles_arr_iff]
    intro rebuilt_ inside
    obtain ⟨index, bound, is⟩ := List.mem_mapIdx.mp inside
    have kept := each _ (List.getElem_mem bound)
    generalize entries[index] = entry at is kept
    subst is
    cases entry with
    | str text =>
      rw [acceptanceEntry, noHoles_obj_iff]
      simp only [List.forall_mem_cons, List.not_mem_nil, false_implies, implies_true, and_true]
      exact ⟨noHoles_str _, noHoles_str _, noHoles_str _, noHoles_none⟩
    | obj fields =>
      refine @noHoles_of_rebuilt _ fields [("id", idOr ("ac-" ++ toString (index + 1))),
        ("evidenceRefs", stringsOrNone)] kept ?_
      simp only [List.forall_mem_cons, List.not_mem_nil, false_implies, implies_true, and_true]
      exact ⟨noHoles_idOr _ _, noHoles_stringsOrNone _⟩
    | _ => exact kept
  | _ => exact none_

theorem noHoles_refs (refs : List (JsValue ν)) : NoHoles (.arr (refs.filter usefulString)) := by
  rw [noHoles_arr_iff]
  intro ref inside
  have useful := (List.mem_filter.mp inside).2
  cases ref with
  | str text => exact noHoles_str text
  | _ => cases useful

theorem noHoles_planChecklist (v : JsValue ν) (none_ : NoHoles v) :
    NoHoles (normalizePlanChecklistShape numbers v) := by
  cases v with
  | arr entries =>
    have number (n : ν) : NoHoles (.num (some n) : JsValue ν) := noHoles_withHoles (.num n)
    have flag : NoHoles (.bool false : JsValue ν) := noHoles_withHoles (.bool false)
    rw [normalizePlanChecklistShape, ← stringsOrNone_filter, noHoles_obj_iff]
    simp only [List.forall_mem_cons, List.not_mem_nil, false_implies, implies_true, and_true]
    exact ⟨number _, number _, number _, flag, noHoles_stringsOrNone _, noHoles_none,
      noHoles_none, noHoles_none⟩
  | obj fields =>
    refine @noHoles_of_rebuilt _ fields checklistShapes none_ ?_
    simp only [checklistShapes, List.forall_mem_cons, List.not_mem_nil, false_implies,
      implies_true, and_true]
    exact ⟨noHoles_stringsOrNone _, noHoles_dispositions _, noHoles_dispositions _,
      noHoles_dispositions _⟩
  | _ => exact none_

theorem noHoles_renameStatus (rename : String → Option String) (v : JsValue ν) (none_ : NoHoles v) :
    NoHoles (renameStatus rename v) := by
  cases v with
  | obj fields =>
    dsimp only [renameStatus]
    split
    · split
      · exact noHoles_foldl_putField [_] fields
          (List.forall_mem_singleton.mpr (noHoles_str _)) none_
      · exact none_
    · exact none_
  | _ => exact none_

theorem noHoles_reviewClosure (v : JsValue ν) (none_ : NoHoles v) :
    NoHoles (normalizeReviewClosureShape v) := by
  cases v with
  | arr refs =>
    rw [normalizeReviewClosureShape, noHoles_obj_iff]
    simp only [List.forall_mem_cons, List.not_mem_nil, false_implies, implies_true, and_true]
    exact ⟨noHoles_str _, noHoles_refs refs⟩
  | _ =>
    rw [reviewClosure_eq_renameStatus rfl]
    exact noHoles_renameStatus _ _ none_

theorem noHoles_commitEvidence (v : JsValue ν) (none_ : NoHoles v) :
    NoHoles (normalizeCommitEvidenceShape v) := by
  cases v with
  | arr refs =>
    rw [normalizeCommitEvidenceShape, noHoles_obj_iff]
    simp only [List.forall_mem_cons, List.not_mem_nil, false_implies, implies_true, and_true]
    exact ⟨noHoles_str _, noHoles_refs refs⟩
  | _ =>
    rw [commitEvidence_eq_renameStatus rfl]
    exact noHoles_renameStatus _ _ none_

theorem noHoles_verificationEvidence_iff {fields : List (String × Json ν)}
    (distinct : Distinct (.obj fields)) :
    NoHoles (normalizeVerificationEvidenceShape
        (property (jsFields fields) "verificationEvidence") : JsValue ν) ↔
      (fields.lookup "verificationEvidence").isSome = true ∧
        ∀ entries entry, fields.lookup "verificationEvidence" = some (.arr entries) →
          .obj entry ∈ entries → (entry.lookup "status").isSome = true := by
  rw [property_jsFields]
  cases found : fields.lookup "verificationEvidence" with
  | none =>
    rw [Option.map_none, Option.getD_none]
    exact ⟨fun none_ => absurd none_ not_noHoles_undefined, fun is => nomatch is.1⟩
  | some value =>
    rw [Option.map_some, Option.getD_some]
    cases value with
    | arr entries =>
      have inside := (lookup_eq_some_iff_mem distinct.1).mp found
      have each := (distinctItems_iff entries).mp
        ((distinctFields_iff fields).mp distinct.2 _ inside)
      rw [withHoles_arr, normalizeVerificationEvidenceShape, noHoles_arr_iff]
      constructor
      · intro none_
        refine ⟨rfl, ?_⟩
        rintro _ entry ⟨⟩ among
        obtain ⟨index, bound, is⟩ := List.mem_iff_getElem.mp among
        refine (noHoles_verificationEntry_iff index (each _ among)).mp (none_ _ ?_) _ rfl
        refine List.mem_mapIdx.mpr ⟨index, by rwa [List.length_map], ?_⟩
        rw [List.getElem_map, is]
      · rintro ⟨-, statuses⟩ rebuilt_ inside_
        obtain ⟨index, bound, rfl⟩ := List.mem_mapIdx.mp inside_
        rw [List.length_map] at bound
        rw [List.getElem_map]
        have among := List.getElem_mem bound
        refine (noHoles_verificationEntry_iff index (each _ among)).mpr fun entry is => ?_
        exact statuses _ entry rfl (is ▸ among)
    | _ =>
      refine ⟨fun _ => ⟨rfl, fun _ _ is => (by cases is)⟩, fun _ => ?_⟩
      exact noHoles_withHoles _

/-- A shape is a JSON value exactly if no field is missing. -/
theorem noHoles_shape_iff {fields : List (String × Json ν)} (distinct : Distinct (.obj fields)) :
    NoHoles (.obj (normalizeImplementationManifestShape numbers (jsFields fields))) ↔
      Complete fields := by
  have whole : NoHoles (.obj (jsFields fields)) := by
    rw [← withHoles_obj]
    exact noHoles_withHoles _
  have keys : ((jsFields fields).map (·.1)).Nodup := by
    rw [keys_jsFields]
    exact distinct.1
  rw [shape_eq_rebuilt, noHoles_rebuilt names_fieldShapes keys whole]
  simp only [fieldShapes, List.forall_mem_cons, List.not_mem_nil, false_implies, implies_true,
    and_true]
  rw [noHoles_kept_iff noHoles_changedFiles rfl, noHoles_kept_iff noHoles_diffSummary rfl,
    noHoles_verificationEvidence_iff distinct, noHoles_kept_iff noHoles_acceptanceCriteria rfl,
    noHoles_kept_iff noHoles_planChecklist rfl, noHoles_kept_iff noHoles_reviewClosure rfl,
    noHoles_kept_iff noHoles_commitEvidence rfl]
  constructor
  · rintro ⟨files, summary, ⟨evidence, statuses⟩, criteria, -, checklist, review, commit, -⟩
    refine ⟨?_, statuses⟩
    simp only [List.forall_mem_cons, List.not_mem_nil, false_implies, implies_true, and_true]
    exact ⟨files, summary, evidence, criteria, checklist, review, commit⟩
  · rintro ⟨present, statuses⟩
    simp only [List.forall_mem_cons, List.not_mem_nil, false_implies, implies_true,
      and_true] at present
    obtain ⟨files, summary, evidence, criteria, checklist, review, commit⟩ := present
    exact ⟨files, summary, ⟨evidence, statuses⟩, criteria, noHoles_stringsOrNone _, checklist,
      review, commit, noHoles_stringsOrNone _⟩

end Present

/-! ### The texts -/

theorem text_of_alike (alike : AlikeJs numbers v w) :
    stableStringify (valueTexts numbers) v = stableStringify (valueTexts numbers) w := by
  have leafText (leaf : Option ν) : stringify (writeLeaf numbers.isFinite numbers.text)
      (finiteOrNull (hasText numbers) leaf) = writeLeaf numbers.isFinite numbers.text leaf := by
    cases leaf with
    | none => rfl
    | some n =>
      rw [writeLeaf, writeFinite, finiteOrNull, hasText]
      cases finite : numbers.isFinite n with
      | true =>
        rw [if_pos rfl, if_pos rfl, stringify, writeLeaf, writeFinite, finite, if_pos rfl]
      | false =>
        rw [if_neg Bool.false_ne_true, if_neg Bool.false_ne_true, stringify]
  have text (u : JsValue ν) : stringify (valueTexts numbers).write (sortKeys codeUnitOrder.le u) =
      stringify (valueTexts numbers).write (canon codeUnitOrder (hasText numbers) u) :=
    (stringify_bind leafText _).symm
  rw [stableStringify_eq _ alike.left, stableStringify_eq _ alike.right, text, text, alike.same]

theorem read_stableStringify
    (finite : FiniteNumbers numbers.isFinite numbers.text numbers.read) (distinct : Distinct v)
    (none_ : NoHoles v) :
    ∃ read, Json.parse numbers.read (stableStringify (valueTexts numbers) v) = some read ∧
      withHoles read = canon codeUnitOrder (hasText numbers) v := by
  have sorted : NoHoles (sortKeys codeUnitOrder.le v) := fun leaf inside =>
    none_ leaf ((mem_leaves_sortKeys v).mp inside)
  have distinct_ : Distinct (sortKeys codeUnitOrder.le v) := distinct_sortKeys distinct
  refine ⟨Json.bind (finiteOrNull numbers.isFinite)
    (withoutHoles (sortKeys codeUnitOrder.le v)), ?_, ?_⟩
  · rw [stableStringify_eq _ distinct]
    exact parse_writeLeaf finite distinct_ sorted
  · rw [withHoles, withoutHoles, bind_bind, bind_bind, canon]
    refine bind_congr _ fun leaf inside => ?_
    cases leaf with
    | none => exact absurd rfl (sorted _ inside)
    | some n =>
      dsimp only
      rw [Json.bind, finiteOrNull, finiteOrNull, hasText]
      split <;> rw [Json.bind]

theorem not_read_stableStringify
    (finite : FiniteNumbers numbers.isFinite numbers.text numbers.read) (distinct : Distinct v)
    (hole : ¬ NoHoles v) :
    Json.parse numbers.read (stableStringify (valueTexts numbers) v) = none := by
  rw [stableStringify_eq _ distinct]
  refine parse_writeLeaf_hole finite (distinct_sortKeys distinct) ?_
  rw [noHoles_iff, not_not] at hole
  exact (mem_leaves_sortKeys v).mpr hole

/-! ### The claim about texts -/

/-- The normal form of the text is there exactly for objects, is a JSON text and its own normal
form, and is the normal form of every text of the same value with other orders of keys. -/
structure Canonical (numbers : ManifestNumbers ν) (raw : String) : Prop where
  objects : normalizeImplementationManifestJson numbers raw = none ↔
    ∀ fields, Json.parse numbers.read raw.toList ≠ some (.obj fields)
  valid : ∀ normal, normalizeImplementationManifestJson numbers raw = some normal →
    (Json.parse numbers.read normal.toList).isSome = true
  again : ∀ normal, normalizeImplementationManifestJson numbers raw = some normal →
    normalizeImplementationManifestJson numbers normal = some normal
  reordered : ∀ raw' value value', Json.parse numbers.read raw.toList = some value →
    Json.parse numbers.read raw'.toList = some value' → Reordered value value' →
    normalizeImplementationManifestJson numbers raw =
      normalizeImplementationManifestJson numbers raw'

theorem parseManifestObject_eq_some_iff {raw : String} {fields : List (String × Json ν)} :
    parseManifestObject numbers raw = some fields ↔
      Json.parse numbers.read raw.toList = some (.obj fields) := by
  unfold parseManifestObject
  split
  next fields' read =>
    rw [read, Option.some.injEq, Option.some.injEq, Json.obj.injEq]
  next other =>
    exact ⟨fun is => (nomatch is), fun read => absurd read (other fields)⟩

theorem parseManifestObject_eq_none_iff {raw : String} :
    parseManifestObject numbers raw = none ↔
      ∀ fields, Json.parse numbers.read raw.toList ≠ some (.obj fields) := by
  rw [Option.eq_none_iff_forall_ne_some]
  exact forall_congr' fun fields => not_congr parseManifestObject_eq_some_iff

theorem normalize_of_parse {raw : String} {fields : List (String × Json ν)}
    (read : Json.parse numbers.read raw.toList = some (.obj fields)) :
    normalizeImplementationManifestJson numbers raw =
      some (String.ofList (stableStringify (valueTexts numbers)
        (.obj (normalizeImplementationManifestShape numbers (jsFields fields))))) := by
  rw [normalizeImplementationManifestJson, parseManifestObject_eq_some_iff.mpr read, Option.map_some]

theorem distinct_jsFields {fields : List (String × Json ν)} (distinct : Distinct (.obj fields)) :
    Distinct (.obj (jsFields fields)) := by
  rw [← withHoles_obj]
  exact distinct_withHoles distinct

theorem distinct_shape {fields : List (String × Json ν)} (distinct : Distinct (.obj fields)) :
    Distinct (.obj (normalizeImplementationManifestShape numbers (jsFields fields))) :=
  ((alike_obj_iff codeUnitOrder_apart).mpr (alike_shape ((alike_obj_iff codeUnitOrder_apart).mp
    (Alike.refl (distinct_jsFields distinct) : AlikeJs numbers _ _)))).left

/-- Texts of one value up to the order of keys have one normal form. -/
theorem normalize_reordered {raw raw' : String} {value value' : Json ν}
    (read : Json.parse numbers.read raw.toList = some value)
    (read' : Json.parse numbers.read raw'.toList = some value') (same : Reordered value value') :
    normalizeImplementationManifestJson numbers raw =
      normalizeImplementationManifestJson numbers raw' := by
  cases value with
  | obj fields =>
    obtain ⟨-, fields', rfl, -, -⟩ := (reordered_obj_iff fields value').mp same
    have holes : Reordered (.obj (jsFields fields)) (.obj (jsFields fields')) := by
      rw [← withHoles_obj, ← withHoles_obj]
      exact reordered_bind _ _ _ same
    have alike : AlikeJs numbers (.obj (jsFields fields)) (.obj (jsFields fields')) :=
      canon_of_reordered codeUnitOrder_apart (distinct_jsFields (distinct_parse read)) holes
    rw [normalize_of_parse read, normalize_of_parse read', text_of_alike
      ((alike_obj_iff codeUnitOrder_apart).mpr
        (alike_shape ((alike_obj_iff codeUnitOrder_apart).mp alike)))]
  | _ =>
    have none_ : parseManifestObject numbers raw = none :=
      parseManifestObject_eq_none_iff.mpr fun fields is => by
        rw [read] at is
        cases is
    have none' : parseManifestObject numbers raw' = none :=
      parseManifestObject_eq_none_iff.mpr fun fields is => by
        rw [read'] at is
        cases is
        simp [Reordered] at same
    rw [normalizeImplementationManifestJson, normalizeImplementationManifestJson, none_, none']

/-- The normal form of an object is canonical exactly if no field is missing. -/
theorem normal_form_iff (finite : FiniteNumbers numbers.isFinite numbers.text numbers.read)
    {raw : String} {fields : List (String × Json ν)}
    (read : Json.parse numbers.read raw.toList = some (.obj fields)) :
    (∃ normal, normalizeImplementationManifestJson numbers raw = some normal ∧
      (Json.parse numbers.read normal.toList).isSome = true ∧
      normalizeImplementationManifestJson numbers normal = some normal) ↔ Complete fields := by
  have distinct := distinct_parse read
  have shaped := @distinct_shape _ numbers fields distinct
  rw [normalize_of_parse read, ← noHoles_shape_iff distinct]
  constructor
  · rintro ⟨normal, ⟨⟩, valid, -⟩
    by_contra hole
    rw [String.toList_ofList, not_read_stableStringify finite shaped hole] at valid
    cases valid
  · intro none_
    obtain ⟨again, read_, same⟩ := read_stableStringify finite shaped none_
    refine ⟨_, rfl, ?_, ?_⟩
    · rw [String.toList_ofList, read_]
      rfl
    · rw [canon_obj] at same
      cases again with
      | obj fields' =>
        rw [withHoles_obj, ← canon_obj] at same
        have alike : AlikeJs numbers (.obj (jsFields fields'))
            (.obj (normalizeImplementationManifestShape numbers (jsFields fields))) := by
          rw [same]
          exact alike_canon shaped
        have twice := (alike_shape ((alike_obj_iff codeUnitOrder_apart).mp alike))
        have once := @shape_shape _ numbers _ (distinct_jsFields distinct)
        have reads : Json.parse numbers.read (String.ofList (stableStringify (valueTexts numbers)
            (.obj (normalizeImplementationManifestShape numbers (jsFields fields))))).toList =
            some (.obj fields') := by
          rw [String.toList_ofList, read_]
        rw [normalize_of_parse reads, text_of_alike (((alike_obj_iff codeUnitOrder_apart).mpr twice).trans
            ((alike_obj_iff codeUnitOrder_apart).mpr once))]
      | arr items => rw [withHoles_arr] at same; cases same
      | null | bool _ | num _ | str _ => rw [withHoles, Json.bind] at same; cases same

/-- The normal form of a text is canonical exactly if the text is no object, or an object with
every field that is rebuilt from what is there. -/
theorem normalization_canonical_iff
    (finite : FiniteNumbers numbers.isFinite numbers.text numbers.read) (raw : String) :
    Canonical numbers raw ↔
      ∀ fields, Json.parse numbers.read raw.toList = some (.obj fields) → Complete fields := by
  constructor
  · intro canonical fields read
    refine (normal_form_iff finite read).mp ⟨_, normalize_of_parse read, ?_, ?_⟩
    · exact canonical.valid _ (normalize_of_parse read)
    · exact canonical.again _ (normalize_of_parse read)
  · intro complete
    have form (normal : String)
        (is : normalizeImplementationManifestJson numbers raw = some normal) :
        (Json.parse numbers.read normal.toList).isSome = true ∧
          normalizeImplementationManifestJson numbers normal = some normal := by
      cases found : parseManifestObject numbers raw with
      | none =>
        rw [normalizeImplementationManifestJson, found] at is
        cases is
      | some fields =>
        have read := parseManifestObject_eq_some_iff.mp found
        obtain ⟨normal', is', valid, again⟩ := (normal_form_iff finite read).mpr
          (complete fields read)
        rw [is] at is'
        cases is'
        exact ⟨valid, again⟩
    refine ⟨?_, fun normal is => (form normal is).1, fun normal is => (form normal is).2,
      fun _ _ _ => normalize_reordered⟩
    rw [normalizeImplementationManifestJson, Option.map_eq_none_iff,
      parseManifestObject_eq_none_iff]

end Canonical

/-! ### Concrete texts -/

/-- Natural numbers in decimal digits. -/
def decimalManifest : ManifestNumbers Nat where
  isFinite := fun _ => true
  text := Nat.repr
  read := decimalNumbers.read
  ofNat := id

/-- A manifest with every field, none of them in its normal form. -/
def completeManifest : List (String × Json Nat) :=
  [("reviewClosure", .arr []), ("changedFiles", .arr [.str "a"]), ("diffSummary", .str "b"),
    ("verificationEvidence", .arr [.obj [("status", .str "error")]]),
    ("acceptanceCriteria", .arr [.str "c"]), ("planChecklist", .arr []),
    ("commitEvidence", .arr [])]

theorem canonical_of_completeManifest : Canonical decimalManifest
    (String.ofList (stringify decimalNumbers.write (.obj completeManifest))) := by
  refine (normalization_canonical_iff finiteNumbers_decimal _).mpr fun fields read => ?_
  have distinct : Distinct (.obj completeManifest) := by
    simp [completeManifest, Distinct, Distinct.DistinctFields, Distinct.DistinctItems]
  have written := parse_stringify lawful_decimalNumbers distinct
  rw [String.toList_ofList] at read
  cases written.symm.trans read
  refine ⟨by decide, fun entries entry found inside => ?_⟩
  cases found
  rw [List.mem_singleton] at inside
  cases inside
  rfl

/-- What is written for the empty object is no JSON text. -/
theorem empty_object_not_canonical : ¬ Canonical decimalManifest "{}" := by
  intro canonical
  have read : Json.parse decimalManifest.read "{}".toList = some (.obj []) := rfl
  have distinct : Distinct (.obj [] : Json Nat) := distinct_parse read
  have hole : ¬ NoHoles (.obj (normalizeImplementationManifestShape decimalManifest
      (jsFields []))) := by
    rw [noHoles_shape_iff distinct]
    intro complete
    have there := complete.present "changedFiles" (by decide)
    cases there
  have valid := canonical.valid _ (normalize_of_parse read)
  rw [String.toList_ofList, not_read_stableStringify finiteNumbers_decimal (distinct_shape distinct)
    hole] at valid
  cases valid

end AifHandoff.Shared.Manifest
