import AifHandoff.Shared.ManifestBlocks
import AifHandoff.Lib.JsonAlike

/-!
The normal form of implementation manifests (`shared/implementationManifest.ts`).

The object is rebuilt field by field, each field by a normaliser of its own that keeps what it
does not know, and written with sorted keys. A field that is missing is rebuilt as `undefined`,
which is written as it stands.
-/

namespace AifHandoff.Shared.Manifest

open Json

/-! ### Values -/

/-- A value of the language as far as manifests hold it: `undefined` is a leaf. -/
abbrev JsValue (ν : Type) := Json (Option ν)

/-- The numbers of the language. -/
structure ManifestNumbers (ν : Type) where
  isFinite : ν → Bool
  text : ν → String
  read : List Char → ν
  ofNat : Nat → ν

section Normalizers

variable {ν : Type} (numbers : ManifestNumbers ν)

def undefined : JsValue ν := .num none

/-- `value[key]`. -/
def property (fields : List (String × JsValue ν)) (key : String) : JsValue ν :=
  (fields.lookup key).getD undefined

def isText : JsValue ν → Bool
  | .str _ => true
  | _ => false

def isStringArray : JsValue ν → Bool
  | .arr items => items.all isText
  | _ => false

def usefulString : JsValue ν → Bool
  | .str text => isUseful text
  | _ => false

/-- `isStringArray(value) ? value : []`. -/
def stringsOrNone (value : JsValue ν) : JsValue ν := if isStringArray value then value else .arr []

/-- `typeof value === "string" ? value : ""`. -/
def textOrEmpty : JsValue ν → JsValue ν
  | .str text => .str text
  | _ => .str ""

def changedFileEntry : JsValue ν → JsValue ν
  | .str path => .obj [("path", .str (normalizePath path)), ("status", .str "unknown")]
  | entry => entry

def normalizeChangedFilesShape : JsValue ν → JsValue ν
  | .arr entries => .arr (entries.map changedFileEntry)
  | value => value

def normalizeDiffSummaryShape : JsValue ν → JsValue ν
  | .str text => if isUseful text then .obj [("summary", .str (Text.trim text))] else .str text
  | value => value

def normalizeVerificationStatus : JsValue ν → JsValue ν
  | .str status =>
    if status = "blocked_by_environment" ∨ status = "blocked" ∨ status = "not_run" then
      .str "skipped"
    else if status = "completed" ∨ status = "success" then .str "passed"
    else if status = "error" then .str "failed"
    else .str status
  | value => value

def verificationEntry (index : Nat) : JsValue ν → JsValue ν
  | .obj entry =>
    let id := property entry "id"
    .obj (putField
      (putField entry
        ("id", if usefulString id then id else .str ("ver-" ++ toString (index + 1))))
      ("status", normalizeVerificationStatus (property entry "status")))
  | entry => entry

def normalizeVerificationEvidenceShape : JsValue ν → JsValue ν
  | .arr entries => .arr (entries.mapIdx verificationEntry)
  | value => value

def acceptanceEntry (index : Nat) : JsValue ν → JsValue ν
  | .str entry =>
    .obj [("id", .str ("ac-" ++ toString (index + 1))), ("description", .str entry),
      ("status", .str "unsatisfied"), ("evidenceRefs", .arr [])]
  | .obj entry =>
    let id := property entry "id"
    .obj (putField
      (putField entry
        ("id", if usefulString id then id else .str ("ac-" ++ toString (index + 1))))
      ("evidenceRefs", stringsOrNone (property entry "evidenceRefs")))
  | entry => entry

def normalizeAcceptanceCriteriaShape : JsValue ν → JsValue ν
  | .arr entries => .arr (entries.mapIdx acceptanceEntry)
  | value => value

def dispositionEntry : JsValue ν → JsValue ν
  | .obj entry =>
    .obj [("item", textOrEmpty (property entry "item")),
      ("reason", textOrEmpty (property entry "reason")),
      ("evidenceRefs", stringsOrNone (property entry "evidenceRefs"))]
  | _ => .obj [("item", .str ""), ("reason", .str ""), ("evidenceRefs", .arr [])]

def normalizeChecklistDispositionsShape : JsValue ν → JsValue ν
  | .arr entries => .arr (entries.map dispositionEntry)
  | _ => .arr []

def normalizePlanChecklistShape : JsValue ν → JsValue ν
  | .arr entries =>
    let count : JsValue ν := .num (some (numbers.ofNat entries.length))
    .obj [("total", count), ("completed", .num (some (numbers.ofNat 0))), ("pending", count),
      ("synced", .bool false), ("pendingItems", .arr (entries.filter isText)),
      ("supersededItems", .arr []), ("cancelledItems", .arr []), ("waivedItems", .arr [])]
  | .obj value =>
    .obj ([("pendingItems", stringsOrNone (property value "pendingItems")),
      ("supersededItems", normalizeChecklistDispositionsShape (property value "supersededItems")),
      ("cancelledItems", normalizeChecklistDispositionsShape (property value "cancelledItems")),
      ("waivedItems", normalizeChecklistDispositionsShape (property value "waivedItems"))].foldl
        putField value)
  | value => value

/-- `{ ...value, status }`. -/
def withStatus (value : List (String × JsValue ν)) (status : String) : JsValue ν :=
  .obj (putField value ("status", .str status))

def normalizeReviewClosureShape : JsValue ν → JsValue ν
  | .arr refs => .obj [("status", .str "pending"), ("evidenceRefs", .arr (refs.filter usefulString))]
  | .obj value =>
    match property value "status" with
    | .str status =>
      if status = "resolved" ∨ status = "complete" ∨ status = "completed" ∨
        status = "success" then withStatus value "passed"
      else if status = "not_required" then withStatus value "skipped"
      else .obj value
    | _ => .obj value
  | value => value

def normalizeCommitEvidenceShape : JsValue ν → JsValue ν
  | .arr refs =>
    .obj [("status", .str "not_committed"), ("evidenceRefs", .arr (refs.filter usefulString))]
  | .obj value =>
    match property value "status" with
    | .str status =>
      if status = "already_committed" then withStatus value "committed"
      else if status = "completed" then withStatus value "committed"
      else .obj value
    | _ => .obj value
  | value => value

/-- The fields that are rebuilt, with their normalisers. -/
def fieldShapes : List (String × (JsValue ν → JsValue ν)) :=
  [("changedFiles", normalizeChangedFilesShape), ("diffSummary", normalizeDiffSummaryShape),
    ("verificationEvidence", normalizeVerificationEvidenceShape),
    ("acceptanceCriteria", normalizeAcceptanceCriteriaShape), ("evidenceRefs", stringsOrNone),
    ("planChecklist", normalizePlanChecklistShape numbers),
    ("reviewClosure", normalizeReviewClosureShape),
    ("commitEvidence", normalizeCommitEvidenceShape), ("knownLimitations", stringsOrNone)]

def normalizeImplementationManifestShape (parsed : List (String × JsValue ν)) :
    List (String × JsValue ν) :=
  ((fieldShapes numbers).map fun (key, shape) => (key, shape (property parsed key))).foldl putField
    parsed

/-- The texts of values. -/
def valueTexts : NumberTexts (Option ν) where
  write := writeLeaf numbers.isFinite numbers.text
  read cs := some (numbers.read cs)

def parseManifestObject (rawJson : String) : Option (List (String × Json ν)) :=
  match Json.parse numbers.read rawJson.toList with
  | some (.obj fields) => some fields
  | _ => none

/-- The object as a value of the language. -/
def jsFields (fields : List (String × Json ν)) : List (String × JsValue ν) :=
  fields.map fun field => (field.1, withHoles field.2)

def normalizeImplementationManifestJson (rawJson : String) : Option String :=
  (parseManifestObject numbers rawJson).map fun parsed => String.ofList <|
    stableStringify (valueTexts numbers)
      (.obj (normalizeImplementationManifestShape numbers (jsFields parsed)))

end Normalizers

/-! ### The order of keys -/

theorem codeUnits_cons_inj {c d : Char} {cs ds : List Nat}
    (same : Text.codeUnits c ++ cs = Text.codeUnits d ++ ds) : c = d ∧ cs = ds := by
  have validC : c.toNat < 0xD800 ∨ 0xDFFF < c.toNat ∧ c.toNat < 0x110000 := c.valid
  have validD : d.toNat < 0xD800 ∨ 0xDFFF < d.toNat ∧ d.toNat < 0x110000 := d.valid
  unfold Text.codeUnits at same
  split at same <;> split at same <;> rw [List.cons_append, List.cons_append] at same
  · obtain ⟨head, tail⟩ := List.cons.inj same
    exact ⟨Char.toNat_inj.mp head, tail⟩
  · have head := (List.cons.inj same).1
    omega
  · have head := (List.cons.inj same).1
    omega
  · obtain ⟨head, rest⟩ := List.cons.inj same
    obtain ⟨second, tail⟩ := List.cons.inj rest
    exact ⟨Char.toNat_inj.mp (by omega), tail⟩

theorem flatMap_codeUnits_inj {cs ds : List Char}
    (same : cs.flatMap Text.codeUnits = ds.flatMap Text.codeUnits) : cs = ds := by
  have some_ (c : Char) : Text.codeUnits c ≠ [] := by
    unfold Text.codeUnits
    split <;> exact List.cons_ne_nil _ _
  induction cs generalizing ds with
  | nil =>
    cases ds with
    | nil => rfl
    | cons d ds =>
      rw [List.flatMap_nil, List.flatMap_cons] at same
      exact absurd (List.append_eq_nil_iff.mp same.symm).1 (some_ d)
  | cons c cs ih =>
    cases ds with
    | nil =>
      rw [List.flatMap_nil, List.flatMap_cons] at same
      exact absurd (List.append_eq_nil_iff.mp same).1 (some_ c)
    | cons d ds =>
      rw [List.flatMap_cons, List.flatMap_cons] at same
      obtain ⟨rfl, rest⟩ := codeUnits_cons_inj same
      rw [ih rest]

/-- The order of code units tells keys apart. -/
theorem codeUnitOrder_apart (a b : String) (ab : codeUnitOrder.le a b = true)
    (ba : codeUnitOrder.le b a = true) : a = b :=
  String.toList_injective <| flatMap_codeUnits_inj <|
    le_antisymm (of_decide_eq_true ab) (of_decide_eq_true ba)

section Texts

variable {ν : Type} (N : NumberTexts ν)

theorem stableItems_eq (items : List (Json ν)) :
    stableItems N items = items.map (stableStringify N) := by
  induction items with
  | nil => rw [stableItems, List.map_nil]
  | cons item rest ih => rw [stableItems, ih, List.map_cons]

theorem stableFields_eq (fields : List (String × Json ν)) :
    stableFields N fields = fields.map fun field => (field.1, stableStringify N field.2) := by
  induction fields with
  | nil => rw [stableFields, List.map_nil]
  | cons field rest ih =>
    obtain ⟨key, value⟩ := field
    rw [stableFields, ih, List.map_cons]

theorem mergeSort_eq_sortFields {α : Type} {fields : List (String × α)}
    (keys : (fields.map (·.1)).Nodup) :
    (fields.mergeSort fun left right => codeUnitOrder.le left.1 right.1) =
      sortFields codeUnitOrder fields := by
  have perm := List.mergeSort_perm fields fun left right => codeUnitOrder.le left.1 right.1
  have sorted := List.pairwise_mergeSort
    (fun left middle right : String × α => codeUnitOrder.trans left.1 middle.1 right.1)
    (fun left right => codeUnitOrder.total left.1 right.1) fields
  have same := (sortFields_eq_iff codeUnitOrder_apart ((perm.map _).nodup_iff.mpr keys) keys).mpr
    (lookup_perm ((perm.map _).nodup_iff.mpr keys) perm)
  rw [← same]
  exact (List.Pairwise.insertionSort_eq sorted).symm

/-- The text with sorted keys is the text of the value with sorted keys. -/
theorem stableStringify_eq {v : Json ν} (distinct : Distinct v) :
    stableStringify N v = stringify N.write (sortKeys codeUnitOrder.le v) := by
  induction size : Json.size v using Nat.strong_induction_on generalizing v with
  | h n ih =>
    subst size
    cases v with
    | null => rw [stableStringify, sortKeys] <;> simp
    | bool b => rw [stableStringify, sortKeys] <;> simp
    | num n => rw [stableStringify, sortKeys] <;> simp
    | str s => rw [stableStringify, sortKeys] <;> simp
    | arr items =>
      have distinct_ := (distinctItems_iff items).mp distinct
      have each : items.map (stableStringify N) =
          (items.map (sortKeys codeUnitOrder.le)).map (stringify N.write) := by
        rw [List.map_map]
        exact List.map_congr_left fun item inside =>
          ih _ (size_lt_of_mem_items inside) (distinct_ item inside) rfl
      rw [stableStringify, sortKeys, stringify, stableItems_eq, each, stringifyItems_eq,
        sortKeysItems_eq]
    | obj fields =>
      have distinct_ := (distinctFields_iff fields).mp distinct.2
      have each : stableFields N fields =
          (sortKeysFields codeUnitOrder.le fields).map fun field =>
            (field.1, stringify N.write field.2) := by
        rw [stableFields_eq, sortKeysFields_eq, List.map_map]
        exact List.map_congr_left fun field inside => congrArg (Prod.mk field.1)
          (ih _ (size_lt_of_mem_fields inside) (distinct_ field inside) rfl)
      have keys : ((stableFields N fields).map (·.1)).Nodup := by
        rw [stableFields_eq, List.map_map]
        exact distinct.1
      have moved := map_sortFields codeUnitOrder (stringify N.write)
        (sortKeysFields codeUnitOrder.le fields)
      rw [stableStringify, sortKeys, stringify]
      dsimp only
      rw [mergeSort_eq_sortFields keys, each, stringifyFields_eq, ← moved, List.map_map]
      rfl

end Texts

end AifHandoff.Shared.Manifest
