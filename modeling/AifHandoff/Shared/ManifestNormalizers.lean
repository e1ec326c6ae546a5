import AifHandoff.Shared.ManifestShape

/-!
What the normalisers of manifest fields keep: each takes alike values to alike values, and changes
nothing of what it returned.
-/

namespace AifHandoff.Shared.Manifest

open Json

section Canonical

variable {ν : Type} (numbers : ManifestNumbers ν)

/-- Leaves that are written as they are. -/
def hasText : Option ν → Bool
  | some n => numbers.isFinite n
  | none => true

/-- Values that are written with one text. -/
abbrev AlikeJs (v w : JsValue ν) : Prop := Alike codeUnitOrder (hasText numbers) v w

abbrev AlikeObjects (fields fields' : List (String × JsValue ν)) : Prop :=
  AlikeFields codeUnitOrder (hasText numbers) fields fields'

/-- A normaliser of fields: alike values stay alike, and what it returns it keeps. -/
structure Normalizes (shape : JsValue ν → JsValue ν) : Prop where
  alike : ∀ v w, AlikeJs numbers v w → AlikeJs numbers (shape v) (shape w)
  again : ∀ v, Distinct v → AlikeJs numbers (shape (shape v)) (shape v)

variable {numbers} {v w : JsValue ν} {fields fields' : List (String × JsValue ν)}

/-! ### What alike values have in common -/

theorem alike_undefined : AlikeJs numbers undefined undefined := .refl trivial

theorem alike_property (alike : AlikeObjects numbers fields fields') (key : String) :
    AlikeJs numbers (property fields key) (property fields' key) := by
  have found := alike.found key
  unfold property
  generalize fields.lookup key = a at found
  generalize fields'.lookup key = b at found
  cases found with
  | none => exact alike_undefined
  | some related => exact related

theorem isText_of_alike (alike : AlikeJs numbers v w) : isText v = isText w := by
  cases alike.cases codeUnitOrder_apart with
  | text s => rfl
  | list each => rfl
  | object found => rfl
  | scalar left right => cases v <;> cases left <;> cases w <;> cases right <;> rfl

theorem usefulString_of_alike (alike : AlikeJs numbers v w) : usefulString v = usefulString w := by
  cases alike.cases codeUnitOrder_apart with
  | text s => rfl
  | list each => rfl
  | object found => rfl
  | scalar left right => cases v <;> cases left <;> cases w <;> cases right <;> rfl

theorem isStringArray_of_alike (alike : AlikeJs numbers v w) :
    isStringArray v = isStringArray w := by
  cases alike.cases codeUnitOrder_apart with
  | text s => rfl
  | list each =>
    rw [isStringArray, isStringArray]
    clear alike
    induction each with
    | nil => rfl
    | cons first _ ih => rw [List.all_cons, List.all_cons, isText_of_alike first, ih]
  | object found => rfl
  | scalar left right => cases v <;> cases left <;> cases w <;> cases right <;> rfl

theorem alike_filter {keeps : JsValue ν → Bool} {items items' : List (JsValue ν)}
    (same : ∀ v w, AlikeJs numbers v w → keeps v = keeps w)
    (each : List.Forall₂ (AlikeJs numbers) items items') :
    List.Forall₂ (AlikeJs numbers) (items.filter keeps) (items'.filter keeps) := by
  induction each with
  | nil => exact .nil
  | @cons item item' _ _ first _ ih =>
    have kept := same _ _ first
    cases keep : keeps item with
    | true =>
      rw [List.filter_cons_of_pos keep, List.filter_cons_of_pos (kept ▸ keep)]
      exact .cons first ih
    | false =>
      rw [List.filter_cons_of_neg (by rw [keep]; exact Bool.false_ne_true),
        List.filter_cons_of_neg (by rw [← kept, keep]; exact Bool.false_ne_true)]
      exact ih

theorem alike_mapIdx {related : JsValue ν → JsValue ν → Prop} {items items' : List (JsValue ν)}
    (each : List.Forall₂ related items items') :
    ∀ f g : Nat → JsValue ν → JsValue ν,
      (∀ index v w, related v w → AlikeJs numbers (f index v) (g index w)) →
      List.Forall₂ (AlikeJs numbers) (items.mapIdx f) (items'.mapIdx g) := by
  induction each with
  | nil => exact fun _ _ _ => .nil
  | cons first _ ih =>
    intro f g same
    rw [List.mapIdx_cons, List.mapIdx_cons]
    exact .cons (same 0 _ _ first) (ih _ _ fun index => same (index + 1))

theorem forall₂_distinct {items : List (JsValue ν)} (each : ∀ item ∈ items, Distinct item) :
    List.Forall₂ (fun v w => w = v ∧ Distinct v) items items :=
  List.forall₂_same.mpr fun item inside => ⟨rfl, each item inside⟩

/-! ### The parts of the normal form -/

theorem alike_empty : AlikeJs numbers (.arr []) (.arr []) := .refl trivial

theorem alike_stringsOrNone (alike : AlikeJs numbers v w) :
    AlikeJs numbers (stringsOrNone v) (stringsOrNone w) := by
  rw [stringsOrNone, stringsOrNone, isStringArray_of_alike alike]
  split
  · exact alike
  · exact alike_empty

theorem stringsOrNone_again (v : JsValue ν) :
    stringsOrNone (stringsOrNone v) = stringsOrNone v := by
  unfold stringsOrNone
  cases strings : isStringArray v with
  | true => rw [if_pos rfl, strings, if_pos rfl]
  | false =>
    rw [if_neg Bool.false_ne_true]
    rfl

theorem normalizes_stringsOrNone : Normalizes numbers (stringsOrNone : JsValue ν → JsValue ν) where
  alike _ _ := alike_stringsOrNone
  again v distinct := by
    rw [stringsOrNone_again]
    exact .refl (alike_stringsOrNone (Alike.refl distinct : AlikeJs numbers v v)).left

theorem alike_textOrEmpty (alike : AlikeJs numbers v w) :
    AlikeJs numbers (textOrEmpty v) (textOrEmpty w) := by
  cases alike.cases codeUnitOrder_apart with
  | text s => exact alike_str s
  | list each => exact alike_str ""
  | object found => exact alike_str ""
  | scalar left right =>
    cases v <;> cases left <;> cases w <;> cases right <;> exact alike_str ""

theorem textOrEmpty_again (v : JsValue ν) : textOrEmpty (textOrEmpty v) = textOrEmpty v := by
  cases v <;> rfl

/-- A normaliser that rebuilds lists entry by entry, and keeps everything else. -/
theorem normalizes_list {shape : JsValue ν → JsValue ν} {entry : Nat → JsValue ν → JsValue ν}
    (list : ∀ items, shape (.arr items) = .arr (items.mapIdx entry))
    (other : ∀ v, (∀ items, v ≠ .arr items) → shape v = v)
    (entries : ∀ index, Normalizes numbers (entry index)) : Normalizes numbers shape where
  alike v w same := by
    cases same.cases codeUnitOrder_apart with
    | text s => rwa [other _ (fun _ is => by cases is)]
    | list each =>
      rw [list, list]
      exact alike_arr (alike_mapIdx each _ _ fun index => (entries index).alike)
    | object found => rwa [other _ (fun _ is => by cases is), other _ (fun _ is => by cases is)]
    | scalar left right =>
      rwa [other v (by rintro items rfl; cases left), other w (by rintro items rfl; cases right)]
  again v distinct := by
    have kept (otherwise : ∀ items, v ≠ .arr items) : AlikeJs numbers (shape (shape v)) (shape v) := by
      rw [other v otherwise, other v otherwise]
      exact .refl distinct
    cases v with
    | arr items =>
      rw [list, list, List.mapIdx_mapIdx]
      refine alike_arr (alike_mapIdx (forall₂_distinct ((distinctItems_iff items).mp distinct)) _ _ ?_)
      rintro index _ item ⟨rfl, distinct⟩
      exact (entries index).again item distinct
    | _ => exact kept fun _ is => by cases is

/-! ### Objects rebuilt field by field -/

/-- The fields with some of them rebuilt. -/
def rebuilt (shapes : List (String × (JsValue ν → JsValue ν))) (fields : List (String × JsValue ν)) :
    List (String × JsValue ν) :=
  (shapes.map fun (key, shape) => (key, shape (property fields key))).foldl putField fields

/-- A normaliser that rebuilds objects, and keeps everything else. -/
def rebuildObject (shapes : List (String × (JsValue ν → JsValue ν))) : JsValue ν → JsValue ν
  | .obj fields => .obj (rebuilt shapes fields)
  | value => value

theorem lookup_foldl_putField (values : List (String × JsValue ν)) (keys : (values.map (·.1)).Nodup)
    (key : String) : ∀ fields : List (String × JsValue ν),
      (values.foldl putField fields).lookup key = (values.lookup key).or (fields.lookup key) := by
  induction values with
  | nil => exact fun _ => rfl
  | cons value rest ih =>
    intro fields
    rw [List.map_cons, List.nodup_cons] at keys
    rw [List.foldl_cons, ih keys.2, lookup_putField, lookup_cons_eq]
    by_cases same : key = value.1
    · have gone : rest.lookup key = none := by
        rw [List.lookup_eq_none_iff]
        rintro other inside
        exact bne_iff_ne.mpr fun is => keys.1 (List.mem_map.mpr ⟨other, inside, same ▸ is.symm⟩)
      rw [gone, if_pos same, if_pos same]
      rfl
    · rw [if_neg same, if_neg same]

theorem nodup_foldl_putField (values : List (String × JsValue ν)) :
    ∀ fields : List (String × JsValue ν), (fields.map (·.1)).Nodup →
      ((values.foldl putField fields).map (·.1)).Nodup := by
  induction values with
  | nil => exact fun _ keys => keys
  | cons value rest ih => exact fun fields keys => ih _ (nodup_putField value keys)

theorem nodup_rebuilt (shapes : List (String × (JsValue ν → JsValue ν)))
    (keys : (fields.map (·.1)).Nodup) : ((rebuilt shapes fields).map (·.1)).Nodup :=
  nodup_foldl_putField _ _ keys

section Rebuilt

variable {shapes : List (String × (JsValue ν → JsValue ν))} (names : (shapes.map (·.1)).Nodup)
  (each : ∀ shape ∈ shapes, Normalizes numbers shape.2)
include names

/-- A rebuilt field is what its normaliser returns; the others are kept. -/
theorem lookup_rebuilt (fields : List (String × JsValue ν)) (key : String) :
    (rebuilt shapes fields).lookup key =
      ((shapes.lookup key).map fun shape => shape (property fields key)).or (fields.lookup key) := by
  have moved : (shapes.map fun (key, shape) => (key, shape (property fields key))).lookup key =
      (shapes.lookup key).map fun shape => shape (property fields key) := by
    clear names
    induction shapes with
    | nil => rfl
    | cons shape rest ih =>
      rw [List.map_cons, lookup_cons_eq, lookup_cons_eq, ih]
      by_cases is : key = shape.1
      · rw [if_pos is, if_pos is, is]
        rfl
      · rw [if_neg is, if_neg is]
  have keys : ((shapes.map fun (key, shape) => (key, shape (property fields key))).map
      (·.1)).Nodup := by
    rw [List.map_map]
    exact names
  rw [rebuilt, lookup_foldl_putField _ keys, moved]

include each

theorem alike_rebuilt (alike : AlikeObjects numbers fields fields') :
    AlikeObjects numbers (rebuilt shapes fields) (rebuilt shapes fields') := by
  refine ⟨nodup_rebuilt _ alike.left, nodup_rebuilt _ alike.right, fun key => ?_⟩
  rw [lookup_rebuilt names, lookup_rebuilt names]
  cases found : shapes.lookup key with
  | none => exact alike.found key
  | some shape =>
    have inside := (lookup_eq_some_iff_mem names).mp found
    exact .some ((each _ inside).alike _ _ (alike_property alike key))

theorem rebuilt_again (distinct : Distinct (.obj fields)) :
    AlikeObjects numbers (rebuilt shapes (rebuilt shapes fields)) (rebuilt shapes fields) := by
  have same := (alike_obj_iff codeUnitOrder_apart).mp
    (Alike.refl distinct : AlikeJs numbers (.obj fields) _)
  refine ⟨nodup_rebuilt _ (nodup_rebuilt _ distinct.1), nodup_rebuilt _ distinct.1, fun key => ?_⟩
  rw [lookup_rebuilt names (rebuilt shapes fields), lookup_rebuilt names fields]
  cases found : shapes.lookup key with
  | none =>
    exact same.found key
  | some shape =>
    have inside := (lookup_eq_some_iff_mem names).mp found
    have value : property (rebuilt shapes fields) key = shape (property fields key) := by
      rw [property, lookup_rebuilt names fields, found]
      rfl
    rw [value]
    exact .some ((each _ inside).again _ (alike_property same key).left)

theorem normalizes_rebuildObject : Normalizes numbers (rebuildObject shapes) where
  alike v w same := by
    cases same.cases codeUnitOrder_apart with
    | text s => exact same
    | list _ => exact same
    | object found =>
      exact (alike_obj_iff codeUnitOrder_apart).mpr (alike_rebuilt names each found)
    | scalar left right => cases v <;> cases left <;> cases w <;> cases right <;> exact same
  again v distinct := by
    cases v with
    | obj fields => exact (alike_obj_iff codeUnitOrder_apart).mpr (rebuilt_again names each distinct)
    | _ => exact .refl distinct

end Rebuilt

/-- A normaliser that makes something of special values, and leaves the others to another. -/
theorem normalizes_made {shape core : JsValue ν → JsValue ν} {special : JsValue ν → Bool}
    (normalizes : Normalizes numbers core) (others : ∀ v, special v = false → shape v = core v)
    (same : ∀ v w, AlikeJs numbers v w → special v = special w)
    (plain : ∀ v, special (shape v) = false)
    (made : ∀ v w, AlikeJs numbers v w → special v = true → AlikeJs numbers (shape v) (shape w))
    (kept : ∀ v, Distinct v → special v = true → AlikeJs numbers (core (shape v)) (shape v)) :
    Normalizes numbers shape where
  alike v w alike := by
    cases is : special v with
    | true => exact made v w alike is
    | false =>
      rw [others v is, others w ((same v w alike).symm.trans is)]
      exact normalizes.alike v w alike
  again v distinct := by
    rw [others _ (plain v)]
    cases is : special v with
    | true => exact kept v distinct is
    | false =>
      rw [others v is]
      exact normalizes.again v distinct

/-! ### The fields of the normal form -/

theorem isUseful_numbered {start : List Char} (some_ : start.any (!Text.isSpace ·) = true)
    (index : Nat) : isUseful (String.ofList start ++ toString (index + 1)) = true := by
  rw [isUseful, Bool.not_eq_true', Text.trim_isEmpty_iff, String.toList_append, String.toList_ofList,
    List.any_append, some_, Bool.true_or]

/-- The id of an entry, or one made of its place. -/
def idOr (name : String) (id : JsValue ν) : JsValue ν := if usefulString id then id else .str name

theorem normalizes_idOr {name : String} (useful : isUseful name = true) :
    Normalizes numbers (idOr name : JsValue ν → JsValue ν) where
  alike v w same := by
    rw [idOr, idOr, usefulString_of_alike same]
    split
    · exact same
    · exact alike_str name
  again v distinct := by
    unfold idOr
    cases id : usefulString v with
    | true =>
      rw [if_pos rfl, id, if_pos rfl]
      exact .refl distinct
    | false =>
      rw [if_neg Bool.false_ne_true, usefulString, useful, if_pos rfl]
      exact alike_str name

/-- The status a synonym stands for. -/
def verificationStatusText (status : String) : String :=
  if status = "blocked_by_environment" ∨ status = "blocked" ∨ status = "not_run" then "skipped"
  else if status = "completed" ∨ status = "success" then "passed"
  else if status = "error" then "failed"
  else status

theorem normalizeVerificationStatus_str (status : String) :
    (normalizeVerificationStatus (.str status) : JsValue ν) = .str (verificationStatusText status) := by
  dsimp only [normalizeVerificationStatus]
  unfold verificationStatusText
  split_ifs <;> rfl

theorem verificationStatusText_again (status : String) :
    verificationStatusText (verificationStatusText status) = verificationStatusText status := by
  generalize outcome : verificationStatusText status = kept
  unfold verificationStatusText at outcome ⊢
  split_ifs at outcome <;> subst outcome <;> simp_all

theorem normalizes_verificationStatus :
    Normalizes numbers (normalizeVerificationStatus : JsValue ν → JsValue ν) where
  alike v w same := by
    cases same.cases codeUnitOrder_apart with
    | text s =>
      rw [normalizeVerificationStatus_str]
      exact alike_str _
    | list _ => exact same
    | object _ => exact same
    | scalar left right => cases v <;> cases left <;> cases w <;> cases right <;> exact same
  again v distinct := by
    cases v with
    | str status =>
      rw [normalizeVerificationStatus_str, normalizeVerificationStatus_str,
        verificationStatusText_again]
      exact alike_str _
    | _ => exact .refl distinct

theorem normalizes_changedFileEntry :
    Normalizes numbers (changedFileEntry : JsValue ν → JsValue ν) where
  alike v w same := by
    cases same.cases codeUnitOrder_apart with
    | text s => exact .refl (by simp [changedFileEntry, Distinct, Distinct.DistinctFields])
    | list _ => exact same
    | object _ => exact same
    | scalar left right => cases v <;> cases left <;> cases w <;> cases right <;> exact same
  again v distinct := by
    cases v with
    | str path => exact .refl (by simp [changedFileEntry, Distinct, Distinct.DistinctFields])
    | _ => exact .refl distinct

theorem normalizes_changedFiles :
    Normalizes numbers (normalizeChangedFilesShape : JsValue ν → JsValue ν) := by
  refine @normalizes_list _ _ _ (fun _ => changedFileEntry) (fun items => ?_) (fun v other => ?_)
    fun _ => normalizes_changedFileEntry
  · rw [normalizeChangedFilesShape, List.mapIdx_eq_iff.mpr fun _ => List.getElem?_map]
  · cases v with
    | arr items => exact absurd rfl (other items)
    | _ => rfl

theorem normalizes_diffSummary :
    Normalizes numbers (normalizeDiffSummaryShape : JsValue ν → JsValue ν) where
  alike v w same := by
    cases same.cases codeUnitOrder_apart with
    | text s =>
      dsimp only [normalizeDiffSummaryShape]
      split_ifs <;> exact .refl (by simp [Distinct, Distinct.DistinctFields])
    | list _ => exact same
    | object _ => exact same
    | scalar left right => cases v <;> cases left <;> cases w <;> cases right <;> exact same
  again v distinct := by
    cases v with
    | str text =>
      cases useful : isUseful text with
      | true =>
        rw [normalizeDiffSummaryShape, if_pos useful]
        exact .refl (by simp [normalizeDiffSummaryShape, Distinct, Distinct.DistinctFields])
      | false =>
        have kept : normalizeDiffSummaryShape (.str text : JsValue ν) = .str text := by
          rw [normalizeDiffSummaryShape, useful, if_neg Bool.false_ne_true]
        rw [kept, kept]
        exact alike_str text
    | _ => exact .refl distinct

theorem normalizes_verificationEntry (index : Nat) :
    Normalizes numbers (verificationEntry index : JsValue ν → JsValue ν) := by
  have useful := @isUseful_numbered ['v', 'e', 'r', '-'] (by decide) index
  have rebuilds : (verificationEntry index : JsValue ν → JsValue ν) =
      rebuildObject [("id", idOr ("ver-" ++ toString (index + 1))),
        ("status", normalizeVerificationStatus)] := by
    funext v
    cases v <;> rfl
  rw [rebuilds]
  refine normalizes_rebuildObject (show ["id", "status"].Nodup by decide) ?_
  simp only [List.forall_mem_cons, List.not_mem_nil, false_implies, implies_true, and_true]
  exact ⟨normalizes_idOr useful, normalizes_verificationStatus⟩

theorem normalizes_verificationEvidence :
    Normalizes numbers (normalizeVerificationEvidenceShape : JsValue ν → JsValue ν) := by
  refine @normalizes_list _ _ _ verificationEntry (fun _ => rfl) (fun v other => ?_)
    normalizes_verificationEntry
  cases v with
  | arr items => exact absurd rfl (other items)
  | _ => rfl

theorem normalizes_acceptanceEntry (index : Nat) :
    Normalizes numbers (acceptanceEntry index : JsValue ν → JsValue ν) := by
  have useful := @isUseful_numbered ['a', 'c', '-'] (by decide) index
  have entry (text : String) : Distinct (acceptanceEntry index (.str text) : JsValue ν) := by
    simp [acceptanceEntry, Distinct, Distinct.DistinctFields, Distinct.DistinctItems]
  have objects := @normalizes_rebuildObject _ numbers
    [("id", idOr ("ac-" ++ toString (index + 1))), ("evidenceRefs", stringsOrNone)]
    (show ["id", "evidenceRefs"].Nodup by decide) (by
      simp only [List.forall_mem_cons, List.not_mem_nil, false_implies, implies_true, and_true]
      exact ⟨normalizes_idOr useful, normalizes_stringsOrNone⟩)
  refine @normalizes_made _ _ _ _ isText objects (fun v other => ?_) (fun _ _ => isText_of_alike)
    (fun v => ?_) (fun v w same text => ?_) fun v _ text => ?_
  · cases v with
    | str _ => cases other
    | _ => rfl
  · cases v <;> rfl
  · cases v with
    | str s =>
      cases same.cases codeUnitOrder_apart with
      | text _ => exact .refl (entry s)
      | scalar left _ => cases left
    | _ => cases text
  · cases v with
    | str s =>
      have kept : rebuildObject [("id", idOr ("ac-" ++ toString (index + 1))),
          ("evidenceRefs", stringsOrNone)] (acceptanceEntry index (.str s) : JsValue ν) =
          acceptanceEntry index (.str s) := by
        unfold acceptanceEntry
        generalize "ac-" ++ toString (index + 1) = name
        have id : idOr name (.str name : JsValue ν) = .str name := ite_self _
        conv_rhs => rw [← id]
        rfl
      rw [kept]
      exact .refl (entry s)
    | _ => cases text

theorem normalizes_acceptanceCriteria :
    Normalizes numbers (normalizeAcceptanceCriteriaShape : JsValue ν → JsValue ν) := by
  refine @normalizes_list _ _ _ acceptanceEntry (fun _ => rfl) (fun v other => ?_)
    normalizes_acceptanceEntry
  cases v with
  | arr items => exact absurd rfl (other items)
  | _ => rfl

/-! ### Checklists -/

theorem normalizes_textOrEmpty : Normalizes numbers (textOrEmpty : JsValue ν → JsValue ν) where
  alike _ _ same := alike_textOrEmpty same
  again v _ := by
    rw [textOrEmpty_again]
    cases v <;> exact alike_str _

theorem dispositionEntry_alike (item reason refs : JsValue ν) {item' reason' refs' : JsValue ν}
    (items : AlikeJs numbers item item') (reasons : AlikeJs numbers reason reason')
    (each : AlikeJs numbers refs refs') :
    AlikeJs numbers (.obj [("item", item), ("reason", reason), ("evidenceRefs", refs)])
      (.obj [("item", item'), ("reason", reason'), ("evidenceRefs", refs')]) :=
  (alike_obj_iff codeUnitOrder_apart).mpr <| alikeFields_of_forall₂
    (show ["item", "reason", "evidenceRefs"].Nodup by decide)
    (.cons ⟨rfl, items⟩ (.cons ⟨rfl, reasons⟩ (.cons ⟨rfl, each⟩ .nil)))

theorem normalizes_dispositionEntry :
    Normalizes numbers (dispositionEntry : JsValue ν → JsValue ν) where
  alike v w same := by
    have blank := dispositionEntry_alike (.str "") (.str "") (.arr []) (@alike_str _ codeUnitOrder
      (hasText numbers) "") (alike_str "") alike_empty
    cases same.cases codeUnitOrder_apart with
    | text s => exact blank
    | list _ => exact blank
    | object found =>
      exact dispositionEntry_alike _ _ _ (alike_textOrEmpty (alike_property found "item"))
        (alike_textOrEmpty (alike_property found "reason"))
        (alike_stringsOrNone (alike_property found "evidenceRefs"))
    | scalar left right => cases v <;> cases left <;> cases w <;> cases right <;> exact blank
  again v distinct := by
    cases v with
    | obj fields =>
      have same := (alike_obj_iff codeUnitOrder_apart).mp
        (Alike.refl distinct : AlikeJs numbers (.obj fields) _)
      refine dispositionEntry_alike _ _ _ ?_ ?_ ?_
      · exact normalizes_textOrEmpty.again _ (alike_property same "item").left
      · exact normalizes_textOrEmpty.again _ (alike_property same "reason").left
      · exact normalizes_stringsOrNone.again _ (alike_property same "evidenceRefs").left
    | _ => exact dispositionEntry_alike _ _ _ (alike_str "") (alike_str "") alike_empty

theorem normalizes_dispositions :
    Normalizes numbers (normalizeChecklistDispositionsShape : JsValue ν → JsValue ν) where
  alike v w same := by
    cases same.cases codeUnitOrder_apart with
    | text s => exact alike_empty
    | list each => exact alike_arr (List.rel_map (fun _ _ => normalizes_dispositionEntry.alike _ _) each)
    | object found => exact alike_empty
    | scalar left right => cases v <;> cases left <;> cases w <;> cases right <;> exact alike_empty
  again v distinct := by
    cases v with
    | arr items =>
      rw [normalizeChecklistDispositionsShape, normalizeChecklistDispositionsShape, List.map_map]
      refine alike_arr (List.rel_map ?_ (forall₂_distinct ((distinctItems_iff items).mp distinct)))
      rintro _ item ⟨rfl, distinct⟩
      exact normalizes_dispositionEntry.again item distinct
    | _ => exact alike_empty

def isList : JsValue ν → Bool
  | .arr _ => true
  | _ => false

theorem isList_of_alike (alike : AlikeJs numbers v w) : isList v = isList w := by
  cases alike.cases codeUnitOrder_apart with
  | text s => rfl
  | list each => rfl
  | object found => rfl
  | scalar left right => cases v <;> cases left <;> cases w <;> cases right <;> rfl

/-- The parts of a checklist that is an object. -/
def checklistShapes : List (String × (JsValue ν → JsValue ν)) :=
  [("pendingItems", stringsOrNone), ("supersededItems", normalizeChecklistDispositionsShape),
    ("cancelledItems", normalizeChecklistDispositionsShape),
    ("waivedItems", normalizeChecklistDispositionsShape)]

theorem checklist_alike {items items' : List (JsValue ν)}
    (each : List.Forall₂ (AlikeJs numbers) items items') :
    AlikeJs numbers (normalizePlanChecklistShape numbers (.arr items))
      (normalizePlanChecklistShape numbers (.arr items')) := by
  have texts := alike_arr (alike_filter (fun _ _ => isText_of_alike) each)
  refine (alike_obj_iff codeUnitOrder_apart).mpr (alikeFields_of_forall₂
    (show ["total", "completed", "pending", "synced", "pendingItems", "supersededItems",
      "cancelledItems", "waivedItems"].Nodup by decide) ?_)
  rw [each.length_eq]
  exact .cons ⟨rfl, .refl trivial⟩ (.cons ⟨rfl, .refl trivial⟩ (.cons ⟨rfl, .refl trivial⟩
    (.cons ⟨rfl, .refl trivial⟩ (.cons ⟨rfl, texts⟩ (.cons ⟨rfl, alike_empty⟩
      (.cons ⟨rfl, alike_empty⟩ (.cons ⟨rfl, alike_empty⟩ .nil)))))))

theorem stringsOrNone_filter (items : List (JsValue ν)) :
    stringsOrNone (.arr (items.filter isText)) = .arr (items.filter isText) := by
  rw [stringsOrNone, isStringArray, List.all_filter, if_pos]
  simp

theorem normalizes_planChecklist :
    Normalizes numbers (normalizePlanChecklistShape numbers) := by
  have objects := @normalizes_rebuildObject _ numbers checklistShapes
    (show ["pendingItems", "supersededItems", "cancelledItems", "waivedItems"].Nodup by decide) (by
      simp only [checklistShapes, List.forall_mem_cons, List.not_mem_nil, false_implies,
        implies_true, and_true]
      exact ⟨normalizes_stringsOrNone, normalizes_dispositions, normalizes_dispositions,
        normalizes_dispositions⟩)
  refine @normalizes_made _ _ _ _ isList objects (fun v other => ?_) (fun _ _ => isList_of_alike)
    (fun v => ?_) (fun v w same list => ?_) fun v distinct list => ?_
  · cases v with
    | arr _ => cases other
    | _ => rfl
  · cases v <;> rfl
  · cases v with
    | arr items =>
      cases same.cases codeUnitOrder_apart with
      | list each => exact checklist_alike each
      | scalar left _ => cases left
    | _ => cases list
  · cases v with
    | arr items =>
      have kept : rebuildObject checklistShapes (normalizePlanChecklistShape numbers (.arr items)) =
          normalizePlanChecklistShape numbers (.arr items) := by
        conv_rhs => rw [normalizePlanChecklistShape, ← stringsOrNone_filter]
        rfl
      rw [kept]
      exact checklist_alike (List.forall₂_same.mpr fun item inside =>
        .refl ((distinctItems_iff items).mp distinct item inside))
    | _ => cases list

/-! ### Statuses with synonyms -/

/-- A normaliser that renames the status of an object, and keeps everything else. -/
def renameStatus (rename : String → Option String) : JsValue ν → JsValue ν
  | .obj value =>
    match property value "status" with
    | .str status =>
      match rename status with
      | some renamed => withStatus value renamed
      | none => .obj value
    | _ => .obj value
  | value => value

theorem renameStatus_text {rename : String → Option String} {value : List (String × JsValue ν)}
    {status : String} (is : property value "status" = .str status) :
    renameStatus rename (.obj value) =
      match rename status with
      | some renamed => withStatus value renamed
      | none => .obj value := by
  dsimp only [renameStatus]
  rw [is]

theorem renameStatus_other {rename : String → Option String} {value : List (String × JsValue ν)}
    (other : ∀ status, property value "status" ≠ .str status) :
    renameStatus rename (.obj value) = .obj value := by
  dsimp only [renameStatus]
  split
  · next status is => exact absurd is (other status)
  · rfl

theorem alike_withStatus (alike : AlikeObjects numbers fields fields') (status : String) :
    AlikeJs numbers (withStatus fields status) (withStatus fields' status) :=
  (alike_obj_iff codeUnitOrder_apart).mpr (alike.putField "status" (alike_str status))

theorem normalizes_renameStatus {rename : String → Option String}
    (final : ∀ status renamed, rename status = some renamed → rename renamed = none) :
    Normalizes numbers (renameStatus rename : JsValue ν → JsValue ν) where
  alike v w same := by
    cases same.cases codeUnitOrder_apart with
    | text s => exact same
    | list _ => exact same
    | @object fields fields' found =>
      have statuses := alike_property found "status"
      by_cases text : ∃ status, property fields "status" = .str status
      · obtain ⟨status, is⟩ := text
        have is' : property fields' "status" = .str status := by
          rw [is] at statuses
          generalize property fields' "status" = other at statuses
          cases statuses.cases codeUnitOrder_apart with
          | text _ => rfl
          | scalar left _ => cases left
        rw [renameStatus_text is, renameStatus_text is']
        cases rename status with
        | none => exact same
        | some renamed => exact alike_withStatus found renamed
      · have other' : ∀ status, property fields' "status" ≠ .str status := by
          intro status is'
          rw [is'] at statuses
          generalize property fields "status" = other at statuses text
          cases statuses.cases codeUnitOrder_apart with
          | text _ => exact text ⟨_, rfl⟩
          | scalar _ right => cases right
        rw [renameStatus_other (not_exists.mp text), renameStatus_other other']
        exact same
    | scalar left right => cases v <;> cases left <;> cases w <;> cases right <;> exact same
  again v distinct := by
    cases v with
    | obj fields =>
      by_cases text : ∃ status, property fields "status" = .str status
      · obtain ⟨status, is⟩ := text
        rw [renameStatus_text is]
        cases renamed : rename status with
        | none =>
          dsimp only
          rw [renameStatus_text is, renamed]
          exact .refl distinct
        | some status' =>
          have is' : property (putField fields ("status", .str status')) "status" =
              (.str status' : JsValue ν) := by
            rw [property, lookup_putField, if_pos rfl]
            rfl
          dsimp only [withStatus]
          rw [renameStatus_text is', final _ _ renamed]
          exact alike_withStatus ((alike_obj_iff codeUnitOrder_apart).mp (.refl distinct)) status'
      · rw [renameStatus_other (not_exists.mp text), renameStatus_other (not_exists.mp text)]
        exact .refl distinct
    | _ => exact .refl distinct

theorem refs_alike (status : String) {items items' : List (JsValue ν)}
    (each : List.Forall₂ (AlikeJs numbers) items items') :
    AlikeJs numbers
      (.obj [("status", .str status), ("evidenceRefs", .arr (items.filter usefulString))])
      (.obj [("status", .str status), ("evidenceRefs", .arr (items'.filter usefulString))]) :=
  (alike_obj_iff codeUnitOrder_apart).mpr <| alikeFields_of_forall₂
    (show ["status", "evidenceRefs"].Nodup by decide)
    (.cons ⟨rfl, alike_str status⟩ (.cons
      ⟨rfl, alike_arr (alike_filter (fun _ _ => usefulString_of_alike) each)⟩ .nil))

/-- A normaliser that makes an object of a list of references, and else renames the status. -/
theorem normalizes_refs {shape : JsValue ν → JsValue ν} {status : String}
    {rename : String → Option String}
    (list : ∀ refs, shape (.arr refs) =
      .obj [("status", .str status), ("evidenceRefs", .arr (refs.filter usefulString))])
    (others : ∀ v, isList v = false → shape v = renameStatus rename v)
    (plain : rename status = none)
    (final : ∀ status renamed, rename status = some renamed → rename renamed = none) :
    Normalizes numbers shape := by
  refine @normalizes_made _ _ _ _ isList (normalizes_renameStatus final) others
    (fun _ _ => isList_of_alike) (fun v => ?_) (fun v w same is => ?_) fun v distinct is => ?_
  · cases is : isList v with
    | true =>
      cases v with
      | arr refs =>
        rw [list]
        rfl
      | _ => cases is
    | false =>
      rw [others v is]
      cases v with
      | arr _ => cases is
      | obj fields =>
        dsimp only [renameStatus]
        split
        · split <;> rfl
        · rfl
      | _ => rfl
  · cases v with
    | arr refs =>
      cases same.cases codeUnitOrder_apart with
      | list each =>
        rw [list, list]
        exact refs_alike status each
      | scalar left _ => cases left
    | _ => cases is
  · cases v with
    | arr refs =>
      have same := refs_alike status
        (List.forall₂_same.mpr fun item inside =>
          (Alike.refl ((distinctItems_iff refs).mp distinct item inside) :
            AlikeJs numbers item item))
      rw [list, renameStatus_text (show property _ "status" = .str status from rfl), plain]
      exact same
    | _ => cases is

def reviewRenames (status : String) : Option String :=
  if status = "resolved" ∨ status = "complete" ∨ status = "completed" ∨ status = "success" then
    some "passed"
  else if status = "not_required" then some "skipped"
  else none

def commitRenames (status : String) : Option String :=
  if status = "already_committed" then some "committed"
  else if status = "completed" then some "committed"
  else none

theorem reviewClosure_eq_renameStatus {v : JsValue ν} (other : isList v = false) :
    normalizeReviewClosureShape v = renameStatus reviewRenames v := by
  cases v with
  | arr _ => cases other
  | obj value =>
    dsimp only [normalizeReviewClosureShape, renameStatus, reviewRenames]
    generalize property value "status" = status
    cases status with
    | str status =>
      dsimp only
      split_ifs <;> rfl
    | _ => rfl
  | _ => rfl

theorem normalizes_reviewClosure :
    Normalizes numbers (normalizeReviewClosureShape : JsValue ν → JsValue ν) := by
  refine @normalizes_refs _ _ _ "pending" reviewRenames (fun _ => rfl)
    (fun _ => reviewClosure_eq_renameStatus) (by decide) fun status renamed is => ?_
  unfold reviewRenames at is
  split_ifs at is <;> cases is <;> decide

theorem commitEvidence_eq_renameStatus {v : JsValue ν} (other : isList v = false) :
    normalizeCommitEvidenceShape v = renameStatus commitRenames v := by
  cases v with
  | arr _ => cases other
  | obj value =>
    dsimp only [normalizeCommitEvidenceShape, renameStatus, commitRenames]
    generalize property value "status" = status
    cases status with
    | str status =>
      dsimp only
      split_ifs <;> rfl
    | _ => rfl
  | _ => rfl

theorem normalizes_commitEvidence :
    Normalizes numbers (normalizeCommitEvidenceShape : JsValue ν → JsValue ν) := by
  refine @normalizes_refs _ _ _ "not_committed" commitRenames (fun _ => rfl)
    (fun _ => commitEvidence_eq_renameStatus) (by decide) fun status renamed is => ?_
  unfold commitRenames at is
  split_ifs at is <;> cases is <;> decide

/-! ### The whole normal form -/

theorem names_fieldShapes : ((fieldShapes numbers).map (·.1)).Nodup :=
  show ["changedFiles", "diffSummary", "verificationEvidence", "acceptanceCriteria",
    "evidenceRefs", "planChecklist", "reviewClosure", "commitEvidence", "knownLimitations"].Nodup by
    decide

theorem normalizes_fieldShapes : ∀ shape ∈ fieldShapes numbers, Normalizes numbers shape.2 := by
  simp only [fieldShapes, List.forall_mem_cons, List.not_mem_nil, false_implies, implies_true,
    and_true]
  exact ⟨normalizes_changedFiles, normalizes_diffSummary, normalizes_verificationEvidence,
    normalizes_acceptanceCriteria, normalizes_stringsOrNone, normalizes_planChecklist,
    normalizes_reviewClosure, normalizes_commitEvidence, normalizes_stringsOrNone⟩

theorem shape_eq_rebuilt (fields : List (String × JsValue ν)) :
    normalizeImplementationManifestShape numbers fields = rebuilt (fieldShapes numbers) fields := rfl

/-- Alike objects get alike shapes. -/
theorem alike_shape (alike : AlikeObjects numbers fields fields') :
    AlikeObjects numbers (normalizeImplementationManifestShape numbers fields)
      (normalizeImplementationManifestShape numbers fields') :=
  alike_rebuilt names_fieldShapes normalizes_fieldShapes alike

theorem shape_shape (distinct : Distinct (.obj fields)) :
    AlikeObjects numbers (normalizeImplementationManifestShape numbers
        (normalizeImplementationManifestShape numbers fields))
      (normalizeImplementationManifestShape numbers fields) :=
  rebuilt_again names_fieldShapes normalizes_fieldShapes distinct

end Canonical

end AifHandoff.Shared.Manifest
