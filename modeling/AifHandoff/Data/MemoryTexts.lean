import AifHandoff.Data.MemoryItems
import AifHandoff.Lib.Keyed

/-!
Texts of memory items, as they are stored and read back.

What is in a tag or a claim is redacted and cut again on every reading, so that the
redaction marker can also come up later.
-/

namespace AifHandoff.Data.Memory

open Shared

/-! ### Texts -/

section Texts

variable {text : String} {maxLength : Nat}

theorem marker_of_truncateText
    (marked : memoryTextHasRedactionMarker (truncateText text maxLength) = true) :
    memoryTextHasRedactionMarker text = true := by
  rw [memoryTextHasRedactionMarker, Text.includes_iff] at marked ⊢
  rw [truncateText] at marked
  have filled : redactionMarker.toList ≠ [] := by decide
  have noDot : ∀ d ∈ "...".toList, d ∉ redactionMarker.toList := by decide
  have noHalf : ∀ c, Text.replacementHalf c ∉ redactionMarker.toList := by
    intro c
    rw [Text.replacementHalf]
    decide
  split at marked
  · exact marked.trans (Text.trim_infix text)
  · rw [String.toList_append] at marked
    have inCut := (Text.infix_of_append noDot filled marked).trans
      (Text.trimEnd_prefix _).isInfix
    obtain ⟨front, half, starts, cut, only⟩ :=
      Text.takeUnitsBy_eq Text.replacementHalf (maxLength - 3) (Text.trim text).toList
    rw [Text.sliceTo, Text.sliceToBy, String.toList_ofList, cut] at inCut
    have inFront := Text.infix_of_append (fun d inside => by
      obtain ⟨c, rfl⟩ := only d inside
      exact noHalf c) filled inCut
    exact (inFront.trans starts.isInfix).trans (Text.trim_infix text)

/-- Some character of the text is no white space. -/
abbrev Visible (text : String) : Prop := text.toList.any (!Text.isSpace ·) = true

theorem visible_iff : Visible text ↔ (Text.trim text).isEmpty = false :=
  Text.trim_isEmpty_iff.symm

theorem visible_marker : Visible redactionMarker := by decide

theorem visible_of_append_right {front : String} (visible : Visible text) :
    Visible (front ++ text) := by
  rw [Visible, String.toList_append, List.any_append, visible, Bool.or_true]

theorem visible_redactProviderText (visible : Visible text) :
    Visible (redactProviderText text) := by
  have marker : Visible redactedValue := by decide
  have kept : Visible (redactValues text) := by
    refine redactValues_induction Visible ?_ fun pattern _ current some_ => ?_
    · refine Regex.any_replaceAll (fun hit => ?_) visible
      rw [redactSensitiveValue]
      split_ifs
      · exact visible_of_append_right (by decide : Visible "\"")
      · exact visible_of_append_right (by decide : Visible "'")
      · exact visible_of_append_right marker
    · exact Regex.any_replaceAll (fun _ => marker) some_
  rw [redactProviderText, redactProviderTextBy]
  split
  · exact visible_of_append_right (by decide)
  · exact kept

theorem visible_redactMemoryText (visible : Visible text) : Visible (redactMemoryText text) := by
  unfold redactMemoryText
  have start := visible_redactProviderText visible
  generalize redactProviderText text = current at start ⊢
  generalize memorySecretPatterns = patterns
  induction patterns generalizing current with
  | nil => simpa only [List.foldl_nil] using start
  | cons pattern rest ih =>
    rw [List.foldl_cons]
    exact ih _ (Regex.any_replaceFirst (fun _ => visible_marker) start)

theorem visible_truncateText (some_ : truncateText text maxLength ≠ "") :
    Visible (truncateText text maxLength) := by
  rw [truncateText] at some_ ⊢
  split
  next fits =>
    rw [if_pos fits] at some_
    rw [Visible, Text.any_trim, ← Text.trim_isEmpty_iff]
    simpa using some_
  next => exact visible_of_append_right (by decide)

theorem truncateText_ne_empty (visible : Visible text) : truncateText text maxLength ≠ "" := by
  rw [truncateText]
  split
  · rw [visible_iff] at visible
    simpa using visible
  · simp [String.append_eq_empty_iff]

theorem storedText_ne_empty (visible : Visible text) : storedText maxLength text ≠ "" :=
  truncateText_ne_empty (visible_redactMemoryText visible)

theorem redactMemoryText_of_clean {texts : List String}
    (clean : (evaluateMemoryRedaction texts).redactionStatus ≠ .blocked) (inside : text ∈ texts)
    (visible : Visible text) : redactMemoryText text = text := by
  by_contra changed
  refine clean ?_
  have populated : text ∈ texts.filter fun text => !(Text.trim text).isEmpty :=
    List.mem_filter.mpr ⟨inside, by simp [visible_iff.mp visible]⟩
  rw [evaluateMemoryRedaction, if_pos]
  exact List.any_eq_true.mpr ⟨text, populated, by simp [changed]⟩

/-! ### Texts that machines write -/

/-- The characters of instants and of random identifiers. -/
def machineChars : List Char := "0123456789abcdef-:.TZ".toList

/-- A short text over the characters of instants and random identifiers. -/
structure Plain (text : String) : Prop where
  chars : ∀ c ∈ text.toList, c ∈ machineChars
  length_le : text.toList.length ≤ 36

theorem providerPatterns_lack :
    ∀ pattern ∈ sensitiveValueKeyPattern :: (secretValuePatterns ++ contactValuePatterns),
      Regex.lacks machineChars pattern = true := by
  decide

theorem memoryPatterns_lack :
    ∀ pattern ∈ memorySecretPatterns, Regex.lacks machineChars pattern = true := by
  decide

theorem machineChars_units : ∀ c ∈ machineChars, Text.unitsOf c = 1 ∧ Text.isSpace c = false := by
  decide

theorem Plain.utf16Length_eq (plain : Plain text) :
    Text.utf16Length text = text.toList.length := by
  obtain ⟨chars, -⟩ := plain
  rw [Text.utf16Length]
  generalize text.toList = cs at chars
  induction cs with
  | nil => rfl
  | cons c cs ih =>
    have single := (machineChars_units c (chars c List.mem_cons_self)).1
    rw [List.map_cons, List.sum_cons, single, List.length_cons,
      ih fun d inside => chars d (List.mem_cons_of_mem c inside)]
    omega

/-- Such a text is stored as it is. -/
theorem Plain.storedText_eq (plain : Plain text) (wide : 36 ≤ maxLength) :
    storedText maxLength text = text := by
  have quiet : Quiet text := fun pattern among =>
    Regex.test_of_lacks (providerPatterns_lack pattern among) plain.chars
  have length := plain.length_le
  have provider : redactProviderText text = text := by
    rw [redactProviderText_eq_self_iff quiet]
    left
    rw [plain.utf16Length_eq, maxProviderMetaStringLength]
    omega
  have memory : redactMemoryText text = text := by
    unfold redactMemoryText
    rw [provider]
    have lack := memoryPatterns_lack
    generalize memorySecretPatterns = patterns at lack ⊢
    induction patterns with
    | nil => simp only [List.foldl_nil]
    | cons pattern rest ih =>
      have absent := Regex.test_of_lacks (lack pattern List.mem_cons_self) plain.chars
      rw [List.foldl_cons, Regex.replaceFirst_of_not_test absent]
      exact ih fun p among => lack p (List.mem_cons_of_mem pattern among)
  have trimmed : Text.trim text = text :=
    Text.trim_of_no_space fun c inside => (machineChars_units c (plain.chars c inside)).2
  rw [storedText, memory, truncateText, trimmed, if_pos]
  rw [plain.utf16Length_eq]
  omega

theorem Plain.unmarked (plain : Plain text) : memoryTextHasRedactionMarker text = false :=
  Text.not_includes_of_char '[' (by decide) fun inside =>
    absurd (plain.chars '[' inside) (by decide)

theorem Uuid.plain (id : Uuid) : Plain id.text :=
  ⟨fun c inside => (by decide : ∀ c ∈ "0123456789abcdef-".toList, c ∈ machineChars) c
    (id.chars c inside), id.length_le⟩

theorem mem_padded {w n : Nat} {c : Char} (inside : c ∈ UtcTime.padded w n) :
    c ∈ machineChars := by
  have digits : ∀ d < 10, UtcTime.digitChar d ∈ machineChars := by decide
  induction w with
  | zero => cases inside
  | succ w ih =>
    rcases List.mem_cons.mp inside with rfl | later
    · exact digits _ (Nat.mod_lt _ (by decide))
    · exact ih later

theorem plain_toISOString (t : UtcTime) : Plain t.toISOString := by
  constructor
  · intro c inside
    have marks : ∀ d ∈ "-:.TZ".toList, d ∈ machineChars := by decide
    simp only [UtcTime.toISOString, String.toList_ofList, List.mem_append, List.mem_cons,
      List.not_mem_nil, or_false] at inside
    rcases inside with d | rfl | d | rfl | d | rfl | d | rfl | d | rfl | d | rfl | d | rfl
    all_goals first
      | exact mem_padded d
      | exact marks _ (by decide)
  · simp [UtcTime.toISOString, UtcTime.length_padded]

end Texts

/-! ### Reading back -/

/-- No marker comes up in the text, however often it is stored and read back. -/
def Settled (maxLength : Nat) (text : String) : Prop :=
  ∀ n, memoryTextHasRedactionMarker ((storedText maxLength)^[n] text) = false

theorem Settled.unmarked {maxLength : Nat} {text : String} (settled : Settled maxLength text) :
    memoryTextHasRedactionMarker text = false := settled 0

theorem Settled.stored {maxLength : Nat} {text : String} (settled : Settled maxLength text) :
    Settled maxLength (storedText maxLength text) := fun n => settled (n + 1)

theorem Plain.settled {maxLength : Nat} {text : String} (plain : Plain text)
    (wide : 36 ≤ maxLength) : Settled maxLength text := by
  intro n
  rw [Function.iterate_fixed (plain.storedText_eq wide)]
  exact plain.unmarked

theorem nonEmpty_eq_some_iff {text kept : String} :
    nonEmpty text = some kept ↔ kept = text ∧ text ≠ "" := by
  rw [nonEmpty]
  split
  next empty => simp_all
  next some_ =>
    rw [Option.some.injEq]
    exact ⟨fun same => ⟨same.symm, by simpa using some_⟩, fun both => both.1.symm⟩

def SourceSettled (source : MemoryClaimSource) : Prop :=
  ∀ key maxLength text, (key, maxLength) ∈ claimSourceFields → (key, some text) ∈ source.fields →
    Settled maxLength text

structure ClaimSettled (claim : MemoryClaim) : Prop where
  claimId : Settled 120 claim.claimId
  text : Settled 1000 claim.text
  supersedes : ∀ text ∈ claim.supersedes, Settled 120 text
  contradicts : ∀ text ∈ claim.contradicts, Settled 120 text
  sources : ∀ source ∈ claim.sources, SourceSettled source
  lastValidatedAt : ∀ text, claim.lastValidatedAt = some text → Settled 100 text

section Reading

variable {ν : Type} {lower : String → String} {fresh : Nat → Uuid} {newId : Uuid}
  {claim claim' : MemoryClaim} {source source' : MemoryClaimSource} {claims : List MemoryClaim}

theorem mem_normalizeTexts {maxLength room : Nat} {seen entries : List String} {text : String}
    (inside : text ∈ normalizeTexts lower maxLength seen room entries) :
    ∃ entry ∈ entries, text = storedText maxLength entry := by
  induction entries generalizing seen room with
  | nil => cases room <;> simp [normalizeTexts] at inside
  | cons entry rest ih =>
    cases room with
    | zero => simp [normalizeTexts] at inside
    | succ room =>
      rw [normalizeTexts] at inside
      split at inside
      · obtain ⟨other, later, same⟩ := ih inside
        exact ⟨other, List.mem_cons_of_mem entry later, same⟩
      · rcases List.mem_cons.mp inside with same | later
        · exact ⟨entry, List.mem_cons_self, same⟩
        · obtain ⟨other, among, same⟩ := ih later
          exact ⟨other, List.mem_cons_of_mem entry among, same⟩

theorem claimSourceFields_unique : ∀ a ∈ claimSourceFields, ∀ b ∈ claimSourceFields,
    a.1 = b.1 → a.2 = b.2 := by decide

theorem kind_not_field : ∀ a ∈ claimSourceFields, a.1 ≠ "kind" := by decide

theorem lookup_toJson_fields {fields : List (String × Option String)} {key raw : String}
    (found : (fields.map fun (key, value) => (key, (textOrNull value : Json ν))).lookup key =
      some (.str raw)) : (key, some raw) ∈ fields := by
  obtain ⟨before, after, split, -⟩ := List.lookup_eq_some_iff.mp found
  have inside : (key, (Json.str raw : Json ν)) ∈
      fields.map fun (key, value) => (key, (textOrNull value : Json ν)) := by
    rw [split]
    simp
  obtain ⟨⟨key', value⟩, among, same⟩ := List.mem_map.mp inside
  cases value with
  | none => simp [textOrNull] at same
  | some text =>
    simp only [textOrNull, Prod.mk.injEq, Json.str.injEq] at same
    rw [← same.1, ← same.2]
    exact among

theorem SourceSettled.readBack (settled : SourceSettled source)
    (read : sanitizeMemoryClaimSource (source.toJson : Json ν) = some source') :
    SourceSettled source' := by
  intro key maxLength text listed inside
  rw [MemoryClaimSource.toJson, sanitizeMemoryClaimSource, List.lookup_cons_self] at read
  obtain ⟨kind, -, rfl⟩ := Option.map_eq_some_iff.mp read
  obtain ⟨⟨key', maxLength'⟩, listed', kept⟩ := List.mem_filterMap.mp inside
  obtain ⟨value, optional, same⟩ := Option.map_eq_some_iff.mp kept
  simp only [Prod.mk.injEq] at same
  obtain ⟨rfl, rfl⟩ := same
  obtain rfl : maxLength = maxLength' := claimSourceFields_unique _ listed _ listed' rfl
  rw [optionalText, Keyed.lookup_cons_of_ne (kind_not_field _ listed)] at optional
  split at optional
  · cases optional
  next raw found =>
    rw [Option.some.injEq, nonEmpty_eq_some_iff] at optional
    rw [optional.1]
    exact (settled _ maxLength raw listed (lookup_toJson_fields found)).stored
  · cases optional

theorem sanitizeMemoryClaim_toJson :
    sanitizeMemoryClaim lower newId (claim.toJson : Json ν) =
      if (storedText 1000 claim.text).isEmpty then none
      else
        some
          { claimId :=
              if (Text.trim claim.claimId).isEmpty then newId.text
              else storedText 120 claim.claimId
            type := normalizeMemoryItemType (some (.str claim.type.text : Json ν))
            status := normalizeMemoryClaimStatus (some (.str claim.status.text : Json ν))
            text := storedText 1000 claim.text
            sources := (claim.sources.map fun source => (source.toJson : Json ν)).filterMap
              sanitizeMemoryClaimSource
            supersedes := normalizeTexts lower 120 [] 20 claim.supersedes
            contradicts := normalizeTexts lower 120 [] 20 claim.contradicts
            lastValidatedAt :=
              claim.lastValidatedAt.bind fun raw => nonEmpty (storedText 100 raw) } := by
  have strings (texts : List String) :
      (texts.map fun text => (Json.str text : Json ν)).filterMap readString = texts := by
    rw [List.filterMap_map]
    exact List.filterMap_some
  cases validated : claim.lastValidatedAt <;>
    simp [sanitizeMemoryClaim, MemoryClaim.toJson, List.lookup_cons, firstPresent, textOrNull,
      normalizeMemoryStringArray, strings, validated]

theorem ClaimSettled.readBack (settled : ClaimSettled claim)
    (read : sanitizeMemoryClaim lower newId (claim.toJson : Json ν) = some claim') :
    ClaimSettled claim' := by
  rw [sanitizeMemoryClaim_toJson] at read
  split at read
  · cases read
  · rw [Option.some.injEq] at read
    subst read
    constructor <;> dsimp only
    · split
      · exact newId.plain.settled (by decide)
      · exact settled.claimId.stored
    · exact settled.text.stored
    · intro text inside
      obtain ⟨entry, among, same⟩ := mem_normalizeTexts inside
      rw [same]
      exact (settled.supersedes entry among).stored
    · intro text inside
      obtain ⟨entry, among, same⟩ := mem_normalizeTexts inside
      rw [same]
      exact (settled.contradicts entry among).stored
    · intro source' inside
      obtain ⟨json, among, read⟩ := List.mem_filterMap.mp inside
      obtain ⟨source, listed, rfl⟩ := List.mem_map.mp among
      exact (settled.sources source listed).readBack read
    · intro text given
      obtain ⟨raw, validated, kept⟩ := Option.bind_eq_some_iff.mp given
      rw [nonEmpty_eq_some_iff] at kept
      rw [kept.1]
      exact (settled.lastValidatedAt raw validated).stored

theorem mem_normalizeClaimsLoop {index room : Nat} {seen : List String} {items : List (Json ν)}
    (inside : claim ∈ normalizeClaimsLoop lower fresh index seen room items) :
    ∃ i, ∃ item ∈ items, sanitizeMemoryClaim lower (fresh i) item = some claim := by
  induction items generalizing index seen room with
  | nil => cases room <;> simp [normalizeClaimsLoop] at inside
  | cons item rest ih =>
    have later (found : ∃ i, ∃ other ∈ rest,
        sanitizeMemoryClaim lower (fresh i) other = some claim) :
        ∃ i, ∃ other ∈ item :: rest,
          sanitizeMemoryClaim lower (fresh i) other = some claim := by
      obtain ⟨i, other, among, read⟩ := found
      exact ⟨i, other, List.mem_cons_of_mem item among, read⟩
    cases room with
    | zero => simp [normalizeClaimsLoop] at inside
    | succ room =>
      rw [normalizeClaimsLoop] at inside
      split at inside
      · exact later (ih inside)
      next sanitized read =>
        split at inside
        · exact later (ih inside)
        · rcases List.mem_cons.mp inside with rfl | among
          · exact ⟨index, item, List.mem_cons_self, read⟩
          · exact later (ih among)

theorem parseMemoryClaims_settled (settled : ∀ claim ∈ claims, ClaimSettled claim) :
    ∀ claim ∈ parseMemoryClaims lower fresh claims, ClaimSettled claim := by
  intro claim' inside
  obtain ⟨i, item, among, read⟩ := mem_normalizeClaimsLoop inside
  obtain ⟨claim, listed, rfl⟩ := List.mem_map.mp among
  exact (settled claim listed).readBack read

theorem parseMemoryClaims_isEmpty (backed : hasOnlySourceBackedClaims claims = true) :
    (parseMemoryClaims lower fresh claims).isEmpty = false := by
  cases claims with
  | nil => cases backed
  | cons claim rest =>
    have visible : Visible claim.text := by
      simp only [hasOnlySourceBackedClaims, memoryClaimIsSourceBacked, List.all_cons,
        Bool.and_eq_true, Bool.not_eq_true'] at backed
      exact visible_iff.mpr backed.2.1.1.1
    have stored : (storedText 1000 claim.text).isEmpty = false := by
      simpa using storedText_ne_empty visible
    simp [parseMemoryClaims, normalizeMemoryClaims, normalizeClaimsLoop,
      sanitizeMemoryClaim_toJson, stored]

theorem parseMemoryTags_settled {tags : List String}
    (settled : ∀ tag ∈ tags, Settled 80 tag) : ∀ tag ∈ parseMemoryTags tags, Settled 80 tag := by
  intro tag inside
  obtain ⟨entry, among, same⟩ :=
    List.mem_map.mp (List.mem_of_mem_filter (List.mem_of_mem_take inside))
  rw [← same]
  exact (settled entry among).stored

end Reading

end AifHandoff.Data.Memory
