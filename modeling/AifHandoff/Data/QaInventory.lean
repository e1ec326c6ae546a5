import AifHandoff.Lib.Keyed
import AifHandoff.Shared.Schema
import AifHandoff.Shared.VerificationCommand
import Mathlib.Data.List.Sort

/-!
The mandatory QA checks of a task (`buildTaskQaMandatoryCheckInventory`,
`data/index.ts`).

The inventory has an item for each verification entry of the implementation
manifest and for each plan command that the manifest does not cover. The items are
collected in a map under ids made from what the authors of the two manifests wrote,
so two checks with one id leave one item.

`toLowerCase`, `localeCompare` and `sha256Text` belong to the platform and stay
open. Manifests are typed as their interfaces say; an absent text is `none`.
-/

namespace AifHandoff.Data

open Shared

inductive VerificationStatus where
  | passed | failed | skipped
  deriving DecidableEq

def VerificationStatus.text : VerificationStatus → String
  | .passed => "passed"
  | .failed => "failed"
  | .skipped => "skipped"

structure ImplementationManifestVerificationEvidence where
  id : Option String
  command : Option String
  status : VerificationStatus
  outputSha256 : Option String := none
  outputPreview : Option String := none
  deriving DecidableEq

structure ImplementationManifest where
  verificationEvidence : List ImplementationManifestVerificationEvidence

structure AifPlanManifestAcceptanceCriterion where
  id : Option String
  verification : Option String
  deriving DecidableEq

structure AifPlanManifest where
  acceptanceCriteria : List AifPlanManifestAcceptanceCriterion
  verificationCommands : List String

inductive QaCheckSource where
  | implementationManifest | planManifest | completionGuard
  deriving DecidableEq

structure TaskQaMandatoryCheck where
  id : String
  label : String
  command : Option String
  source : QaCheckSource
  mandatory : Bool := true
  originalStatus : Option String := none
  outputSha256 : Option String := none
  outputSummary : Option String := none
  blockingReason : Option String := none
  deriving DecidableEq

def usefulString (value : Option String) : Option String :=
  value.bind fun text => if Text.trim text = "" then none else some (Text.trim text)

def normalizeCommand (value : Option String) : String :=
  Text.trim (Regex.replaceAll (Regex.some1 Regex.space) (fun _ => " ") (value.getD ""))

/-- `text || null`. -/
def orNull (text : String) : Option String := if text = "" then none else some text

/-- `id.replace(/[^a-zA-Z0-9:_-]/g, "-")`. A code point of two UTF-16 units becomes
two dashes. -/
def sanitizeCheckId (id : String) : String :=
  String.ofList (id.toList.flatMap fun c =>
    if c.isAlphanum || [':', '_', '-'].contains c then [c]
    else if c.toNat < 0x10000 then ['-'] else ['-', '-'])

/-- `DEVELOPMENT_IMPLEMENTATION_INTENTS.includes(intent)`. -/
def isDevelopmentImplementationIntent (intent : TaskIntent) : Bool :=
  [TaskIntent.feature, .fix, .docs, .tests].contains intent

/-- `criterion.id || index + 1`. -/
def criterionName (criterion : AifPlanManifestAcceptanceCriterion) (index : Nat) : String :=
  (criterion.id.bind orNull).getD (toString (index + 1))

section Inventory

variable (toLowerCase : String → String) (localeCompare : String → String → Int)
  (sha256Text : String → String)

def normalizeMandatoryVerificationCommandKey (value : String) : String :=
  let command := normalizeCommand (some value)
  if command = "" then "" else normalizeImplementationVerificationCommandText toLowerCase command

/-- The item of a verification entry that is filed under `id`. -/
def manifestCheck (id : String) (entry : ImplementationManifestVerificationEvidence) :
    TaskQaMandatoryCheck where
  id := "manifest:" ++ id
  label := "Implementation verification: " ++ id
  command := orNull (normalizeCommand entry.command)
  source := .implementationManifest
  originalStatus := some entry.status.text
  outputSha256 := entry.outputSha256
  outputSummary := entry.outputPreview

/-- One round of the loop over the verification entries. -/
def addManifestCheck (checks : List TaskQaMandatoryCheck)
    (entry : ImplementationManifestVerificationEvidence) : List TaskQaMandatoryCheck :=
  let id := (usefulString entry.id).getD ("verification-" ++ toString (checks.length + 1))
  Keyed.set (·.id) checks (manifestCheck id entry)

/-- `manifestCommandKeys` after the loop. -/
def manifestCommandKeys (evidence : List ImplementationManifestVerificationEvidence) :
    List String :=
  (evidence.map fun entry =>
    normalizeMandatoryVerificationCommandKey toLowerCase (normalizeCommand entry.command)).filter
      (· != "")

def missingEvidenceCheck : TaskQaMandatoryCheck where
  id := "implementation-manifest:verification-evidence"
  label := "Implementation verification evidence"
  command := none
  source := .completionGuard
  originalStatus := some "missing"
  outputSummary := some "Implementation manifest has no verification evidence."
  blockingReason := some "Implementation manifest has no verification evidence."

/-- `!command || manifestCommandKeys.has(commandKey)`, negated. -/
def isUncovered (evidence : List ImplementationManifestVerificationEvidence)
    (commandValue : Option String) : Bool :=
  let command := normalizeCommand (usefulString commandValue)
  command != "" &&
    !(manifestCommandKeys toLowerCase evidence).contains
      (normalizeMandatoryVerificationCommandKey toLowerCase command)

/-- The item of a plan command. -/
def planCheck (id label : String) (commandValue : Option String) : TaskQaMandatoryCheck where
  id := sanitizeCheckId id
  label := label
  command := some (normalizeCommand (usefulString commandValue))
  source := .planManifest

def addPlanCommand (evidence : List ImplementationManifestVerificationEvidence)
    (checks : List TaskQaMandatoryCheck) (id label : String) (commandValue : Option String) :
    List TaskQaMandatoryCheck :=
  if isUncovered toLowerCase evidence commandValue then
    Keyed.set (·.id) checks (planCheck id label commandValue)
  else checks

/-- The first 16 characters of the hash of a plan command. -/
def commandHash (command : String) : String :=
  String.ofList ((sha256Text (normalizeCommand (some command))).toList.take 16)

def buildTaskQaMandatoryCheckInventory (workflowKind : TaskIntent)
    (manifest : Option ImplementationManifest) (planManifest : Option AifPlanManifest) :
    List TaskQaMandatoryCheck :=
  let evidence := (manifest.map (·.verificationEvidence)).getD []
  let fromManifest := evidence.foldl addManifestCheck []
  let guarded :=
    if isDevelopmentImplementationIntent workflowKind && fromManifest.length == 0 then
      Keyed.set (·.id) fromManifest missingEvidenceCheck
    else fromManifest
  let withCommands := ((planManifest.map (·.verificationCommands)).getD []).zipIdx.foldl
    (fun checks (command, index) =>
      addPlanCommand toLowerCase evidence checks
        ("plan:verification:" ++ commandHash sha256Text command)
        ("Plan verification command " ++ toString (index + 1)) (some command))
    guarded
  let withCriteria := ((planManifest.map (·.acceptanceCriteria)).getD []).zipIdx.foldl
    (fun checks (criterion, index) =>
      addPlanCommand toLowerCase evidence checks
        ("plan:acceptance:" ++ criterionName criterion index)
        ("Plan acceptance criterion " ++ criterionName criterion index) criterion.verification)
    withCommands
  withCriteria.insertionSort fun a b => localeCompare a.id b.id ≤ 0

/-! ### The checks an inventory owes -/

/-- An entry of a manifest that calls for a check, with its place in its list. -/
inductive SourceEntry where
  | verification (entry : ImplementationManifestVerificationEvidence) (index : Nat)
  | planCommand (command : String) (index : Nat)
  | acceptance (criterion : AifPlanManifestAcceptanceCriterion) (index : Nat)

/-- The item shows what the entry recorded. -/
def SourceEntry.CarriedBy : SourceEntry → TaskQaMandatoryCheck → Prop
  | .verification entry _, item =>
    item.source = .implementationManifest ∧ item.mandatory = true ∧
      item.command = orNull (normalizeCommand entry.command) ∧
      item.originalStatus = some entry.status.text ∧
      item.outputSha256 = entry.outputSha256 ∧ item.outputSummary = entry.outputPreview
  | .planCommand command _, item =>
    item.source = .planManifest ∧ item.mandatory = true ∧
      item.command = some (normalizeCommand (usefulString (some command)))
  | .acceptance criterion _, item =>
    item.source = .planManifest ∧ item.mandatory = true ∧
      item.command = some (normalizeCommand (usefulString criterion.verification))

/-- The verification entries with their places. -/
def verificationEntries (evidence : List ImplementationManifestVerificationEvidence) :
    List SourceEntry :=
  evidence.zipIdx.map fun (entry, index) => .verification entry index

/-- The plan commands whose key is not among the keys of the implementation
manifest. -/
def commandEntries (evidence : List ImplementationManifestVerificationEvidence)
    (commands : List String) : List SourceEntry :=
  (commands.zipIdx.filter fun (command, _) =>
      isUncovered toLowerCase evidence (some command)).map fun (command, index) =>
    .planCommand command index

/-- The acceptance criteria whose key is not among the keys of the implementation
manifest. -/
def criterionEntries (evidence : List ImplementationManifestVerificationEvidence)
    (criteria : List AifPlanManifestAcceptanceCriterion) : List SourceEntry :=
  (criteria.zipIdx.filter fun (criterion, _) =>
      isUncovered toLowerCase evidence criterion.verification).map fun (criterion, index) =>
    .acceptance criterion index

/-- Every entry has an item of its own that shows what it recorded. -/
def LosesNoCheck (entries : List SourceEntry) (inventory : List TaskQaMandatoryCheck) : Prop :=
  ∃ items : List TaskQaMandatoryCheck, List.Forall₂ SourceEntry.CarriedBy entries items ∧
    (∀ item ∈ items, item ∈ inventory) ∧ (items.map (·.id)).Nodup

/-- What tells an entry from the others of its kind: the trimmed id of a
verification entry, or a name made from its place; the hash prefix of a plan
command; the sanitised name of a criterion. -/
def SourceEntry.name : SourceEntry → String
  | .verification entry index =>
    (usefulString entry.id).getD ("verification-" ++ toString (index + 1))
  | .planCommand command _ => sanitizeCheckId (commandHash sha256Text command)
  | .acceptance criterion index => sanitizeCheckId (criterionName criterion index)

inductive EntryKind where
  | verification | planCommand | acceptance
  deriving DecidableEq

def SourceEntry.kind : SourceEntry → EntryKind
  | .verification _ _ => .verification
  | .planCommand _ _ => .planCommand
  | .acceptance _ _ => .acceptance

/-- The item as the code would file it. -/
def SourceEntry.check (source : SourceEntry) : TaskQaMandatoryCheck :=
  match source with
  | .verification entry _ => manifestCheck (source.name sha256Text) entry
  | .planCommand command index =>
    planCheck ("plan:verification:" ++ commandHash sha256Text command)
      ("Plan verification command " ++ toString (index + 1)) (some command)
  | .acceptance criterion index =>
    planCheck ("plan:acceptance:" ++ criterionName criterion index)
      ("Plan acceptance criterion " ++ criterionName criterion index) criterion.verification

end Inventory

/-! ### Ids -/

section Ids

variable {sha256Text : String → String}

theorem sanitizeCheckId_append (a b : String) :
    sanitizeCheckId (a ++ b) = sanitizeCheckId a ++ sanitizeCheckId b := by
  simp [sanitizeCheckId, String.toList_append]

/-- The text in front of the name in an item id. -/
def EntryKind.idPrefix : EntryKind → String
  | .verification => "manifest:"
  | .planCommand => "plan:verification:"
  | .acceptance => "plan:acceptance:"

theorem id_check (source : SourceEntry) :
    (source.check sha256Text).id = source.kind.idPrefix ++ source.name sha256Text := by
  cases source with
  | verification entry index => rfl
  | planCommand command index => exact sanitizeCheckId_append _ _
  | acceptance criterion index => exact sanitizeCheckId_append _ _

theorem append_right_inj {a b c : String} (same : a ++ b = a ++ c) : b = c := by
  have lists := congrArg String.toList same
  rw [String.toList_append, String.toList_append] at lists
  exact String.toList_inj.mp (List.append_cancel_left lists)

/-- Two ids are equal only for entries of one kind and one name: none of the three
prefixes extends another. -/
theorem id_check_inj {left right : SourceEntry}
    (same : (left.check sha256Text).id = (right.check sha256Text).id) :
    left.kind = right.kind ∧ left.name sha256Text = right.name sha256Text := by
  rw [id_check, id_check] at same
  have kinds : left.kind = right.kind := by
    by_contra differ
    have starts : Text.startsWith (left.kind.idPrefix ++ left.name sha256Text)
        left.kind.idPrefix = true := Text.startsWith_append _ _
    have other := Text.not_startsWith_of_startsWith right.kind.idPrefix starts
      (by cases hl : left.kind <;> cases hr : right.kind <;> simp_all <;> decide)
      (by cases hl : left.kind <;> cases hr : right.kind <;> simp_all <;> decide)
    rw [same, Text.startsWith_append] at other
    cases other
  rw [kinds] at same
  exact ⟨kinds, append_right_inj same⟩

theorem carriedBy_check (source : SourceEntry) : source.CarriedBy (source.check sha256Text) := by
  cases source <;>
    simp only [SourceEntry.CarriedBy, SourceEntry.check, manifestCheck, planCheck, and_self]

theorem nodup_ids_iff {entries : List SourceEntry} {kind : EntryKind}
    (same : ∀ source ∈ entries, source.kind = kind) :
    (entries.map fun source => (source.check sha256Text).id).Nodup ↔
      (entries.map (SourceEntry.name sha256Text)).Nodup := by
  have ids : entries.map (fun source => (source.check sha256Text).id) =
      (entries.map (SourceEntry.name sha256Text)).map (kind.idPrefix ++ ·) := by
    rw [List.map_map]
    apply List.map_congr_left
    intro source inside
    rw [id_check, same source inside]
    rfl
  rw [ids]
  exact List.nodup_map_iff fun _ _ => append_right_inj

end Ids

/-! ### What the loops collect -/

section Loops

variable {toLowerCase : String → String} {localeCompare : String → String → Int}
  {sha256Text : String → String}

theorem verificationEntries_concat (init : List ImplementationManifestVerificationEvidence)
    (entry : ImplementationManifestVerificationEvidence) :
    verificationEntries (init ++ [entry]) =
      verificationEntries init ++ [.verification entry init.length] := by
  simp [verificationEntries, List.zipIdx_append]

theorem length_verificationEntries
    (evidence : List ImplementationManifestVerificationEvidence) :
    (verificationEntries evidence).length = evidence.length := by
  simp [verificationEntries]

theorem kind_of_mem_verificationEntries
    {evidence : List ImplementationManifestVerificationEvidence} {source : SourceEntry}
    (inside : source ∈ verificationEntries evidence) : source.kind = .verification := by
  obtain ⟨entry, -, rfl⟩ := List.mem_map.mp inside
  rfl

theorem nodup_foldl_addManifestCheck
    (evidence : List ImplementationManifestVerificationEvidence) :
    ((evidence.foldl addManifestCheck []).map (·.id)).Nodup := by
  induction evidence using List.reverseRecOn with
  | nil => exact List.nodup_nil
  | append_singleton init entry ih =>
    rw [List.foldl_concat]
    exact Keyed.nodup_set ih

/-- The loop over the verification entries. While all names are distinct it has an
item for each entry; once a name repeats it stays behind the number of entries. -/
theorem foldl_addManifestCheck
    (evidence : List ImplementationManifestVerificationEvidence) :
    (((verificationEntries evidence).map (SourceEntry.name sha256Text)).Nodup →
      evidence.foldl addManifestCheck [] =
        (verificationEntries evidence).map (SourceEntry.check sha256Text)) ∧
    (evidence.foldl addManifestCheck []).length ≤ evidence.length ∧
    (evidence.length ≤ (evidence.foldl addManifestCheck []).length →
      ((verificationEntries evidence).map (SourceEntry.name sha256Text)).Nodup) := by
  induction evidence using List.reverseRecOn with
  | nil => simp [verificationEntries]
  | append_singleton init entry ih =>
    obtain ⟨collected, bounded, grown⟩ := ih
    have loop : (init ++ [entry]).foldl addManifestCheck [] =
        addManifestCheck (init.foldl addManifestCheck []) entry := by
      simp
    rw [verificationEntries_concat, loop]
    set checks := init.foldl addManifestCheck [] with checks_def
    -- While the names of `init` are distinct, the size is the place of `entry`.
    have here : ((verificationEntries init).map (SourceEntry.name sha256Text)).Nodup →
        addManifestCheck checks entry = Keyed.set (·.id)
          ((verificationEntries init).map (SourceEntry.check sha256Text))
          ((SourceEntry.verification entry init.length).check sha256Text) := by
      intro names
      have size : checks.length = init.length := by
        rw [collected names, List.length_map, length_verificationEntries]
      rw [addManifestCheck, size, collected names]
      rfl
    have ids : ((verificationEntries init ++ [SourceEntry.verification entry init.length]).map
          fun source => (SourceEntry.check sha256Text source).id).Nodup ↔
        ((verificationEntries init ++ [SourceEntry.verification entry init.length]).map
          (SourceEntry.name sha256Text)).Nodup := by
      rw [← verificationEntries_concat]
      exact nodup_ids_iff fun source inside => kind_of_mem_verificationEntries inside
    have step : (addManifestCheck checks entry).length ≤ checks.length + 1 := by
      rw [addManifestCheck, Keyed.length_set]
      split <;> omega
    refine ⟨?_, ?_, ?_⟩
    · intro names
      have allIds := ids.mpr names
      rw [List.map_append] at names
      rw [here names.of_append_left, Keyed.set_of_fresh, List.map_append]
      · rfl
      · rw [List.map_append] at allIds
        rw [List.map_map]
        exact fun known => List.disjoint_of_nodup_append allIds known List.mem_cons_self
    · rw [List.length_append, List.length_singleton]
      omega
    · intro full
      rw [List.length_append, List.length_singleton] at full
      have names := grown (by omega)
      apply ids.mp
      rw [here names] at full
      have sized : ((verificationEntries init).map (SourceEntry.check sha256Text)).length =
          init.length := by rw [List.length_map, length_verificationEntries]
      rw [Keyed.length_set] at full
      have fresh : ((SourceEntry.verification entry init.length).check sha256Text).id ∉
          ((verificationEntries init).map (SourceEntry.check sha256Text)).map (·.id) := by
        intro known
        rw [if_pos known] at full
        omega
      rw [List.map_map] at fresh
      rw [List.map_append, List.map_singleton, ← List.concat_eq_append]
      refine (List.nodup_concat _ _).mpr ⟨fresh, ?_⟩
      exact (nodup_ids_iff fun source inside => kind_of_mem_verificationEntries inside).mpr names

theorem foldl_addManifestCheck_ne_nil
    {evidence : List ImplementationManifestVerificationEvidence} (some_ : evidence ≠ []) :
    evidence.foldl addManifestCheck [] ≠ [] := by
  rcases List.eq_nil_or_concat evidence with rfl | ⟨init, entry, rfl⟩
  · exact absurd rfl some_
  · rw [List.concat_eq_append, List.foldl_concat]
    exact List.ne_nil_of_mem Keyed.self_mem_set

theorem foldl_commands (evidence : List ImplementationManifestVerificationEvidence)
    (commands : List String) (checks : List TaskQaMandatoryCheck) :
    commands.zipIdx.foldl (fun checks (command, index) =>
      addPlanCommand toLowerCase evidence checks
        ("plan:verification:" ++ commandHash sha256Text command)
        ("Plan verification command " ++ toString (index + 1)) (some command)) checks =
      Keyed.setAll (·.id) checks
        ((commandEntries toLowerCase evidence commands).map (SourceEntry.check sha256Text)) := by
  rw [commandEntries, List.map_map]
  exact Keyed.foldl_set_eq_setAll _ _ _

theorem foldl_criteria (evidence : List ImplementationManifestVerificationEvidence)
    (criteria : List AifPlanManifestAcceptanceCriterion) (checks : List TaskQaMandatoryCheck) :
    criteria.zipIdx.foldl (fun checks (criterion, index) =>
      addPlanCommand toLowerCase evidence checks
        ("plan:acceptance:" ++ criterionName criterion index)
        ("Plan acceptance criterion " ++ criterionName criterion index) criterion.verification)
        checks =
      Keyed.setAll (·.id) checks
        ((criterionEntries toLowerCase evidence criteria).map (SourceEntry.check sha256Text)) := by
  rw [criterionEntries, List.map_map]
  exact Keyed.foldl_set_eq_setAll _ _ _

end Loops

/-! ### The inventory -/

section Complete

variable (toLowerCase : String → String) (localeCompare : String → String → Int)
  (sha256Text : String → String) (workflowKind : TaskIntent)
  (evidence : List ImplementationManifestVerificationEvidence) (commands : List String)
  (criteria : List AifPlanManifestAcceptanceCriterion)

/-- The item of the completion guard, where it is due. -/
def guardChecks : List TaskQaMandatoryCheck :=
  if isDevelopmentImplementationIntent workflowKind && evidence.isEmpty then [missingEvidenceCheck]
  else []

def planEntries : List SourceEntry :=
  commandEntries toLowerCase evidence commands ++ criterionEntries toLowerCase evidence criteria

/-- No name occurs twice: among the verification entries, among the uncovered plan
commands, and among the uncovered acceptance criteria. -/
def NamesDistinct : Prop :=
  ((verificationEntries evidence).map (SourceEntry.name sha256Text)).Nodup ∧
    ((commandEntries toLowerCase evidence commands).map (SourceEntry.name sha256Text)).Nodup ∧
    ((criterionEntries toLowerCase evidence criteria).map (SourceEntry.name sha256Text)).Nodup

/-- The inventory before it is sorted. -/
theorem buildTaskQaMandatoryCheckInventory_perm :
    (buildTaskQaMandatoryCheckInventory toLowerCase localeCompare sha256Text workflowKind
      (some ⟨evidence⟩) (some ⟨criteria, commands⟩)).Perm
      (Keyed.setAll (·.id) (guardChecks workflowKind evidence ++ evidence.foldl addManifestCheck [])
        ((planEntries toLowerCase evidence commands criteria).map
          (SourceEntry.check sha256Text))) := by
  have guarded : (if isDevelopmentImplementationIntent workflowKind &&
        (evidence.foldl addManifestCheck []).length == 0 then
      Keyed.set (·.id) (evidence.foldl addManifestCheck []) missingEvidenceCheck
      else evidence.foldl addManifestCheck []) =
      guardChecks workflowKind evidence ++ evidence.foldl addManifestCheck [] := by
    by_cases empty : evidence = []
    · subst empty
      cases development : isDevelopmentImplementationIntent workflowKind <;>
        simp [guardChecks, development, Keyed.set]
    · have collected := foldl_addManifestCheck_ne_nil empty
      simp [guardChecks, empty, collected]
  unfold buildTaskQaMandatoryCheckInventory
  simp only [Option.map_some, Option.getD_some]
  rw [guarded, foldl_commands, foldl_criteria, ← Keyed.setAll_append, ← List.map_append]
  exact List.perm_insertionSort _ _

variable {toLowerCase localeCompare sha256Text workflowKind evidence commands criteria}

theorem kind_of_mem_commandEntries {source : SourceEntry}
    (inside : source ∈ commandEntries toLowerCase evidence commands) :
    source.kind = .planCommand := by
  obtain ⟨entry, -, rfl⟩ := List.mem_map.mp inside
  rfl

theorem kind_of_mem_criterionEntries {source : SourceEntry}
    (inside : source ∈ criterionEntries toLowerCase evidence criteria) :
    source.kind = .acceptance := by
  obtain ⟨entry, -, rfl⟩ := List.mem_map.mp inside
  rfl

theorem kind_of_mem_planEntries {source : SourceEntry}
    (inside : source ∈ planEntries toLowerCase evidence commands criteria) :
    source.kind ≠ .verification := by
  rcases List.mem_append.mp inside with inCommands | inCriteria
  · rw [kind_of_mem_commandEntries inCommands]
    simp
  · rw [kind_of_mem_criterionEntries inCriteria]
    simp

theorem id_missingEvidenceCheck_ne (source : SourceEntry) :
    (source.check sha256Text).id ≠ missingEvidenceCheck.id := by
  intro same
  have starts : Text.startsWith (source.kind.idPrefix ++ source.name sha256Text)
      source.kind.idPrefix = true := Text.startsWith_append _ _
  rw [id_check] at same
  rw [same] at starts
  cases kind : source.kind <;> rw [kind] at starts <;> revert starts <;> decide

theorem nodup_planEntries_iff :
    ((planEntries toLowerCase evidence commands criteria).map
        fun source => (source.check sha256Text).id).Nodup ↔
      ((commandEntries toLowerCase evidence commands).map (SourceEntry.name sha256Text)).Nodup ∧
      ((criterionEntries toLowerCase evidence criteria).map
        (SourceEntry.name sha256Text)).Nodup := by
  rw [planEntries, List.map_append, List.nodup_append',
    nodup_ids_iff fun _ inside => kind_of_mem_commandEntries inside,
    nodup_ids_iff fun _ inside => kind_of_mem_criterionEntries inside]
  constructor
  · rintro ⟨left, right, -⟩
    exact ⟨left, right⟩
  · rintro ⟨left, right⟩
    refine ⟨left, right, ?_⟩
    intro id inCommands inCriteria
    obtain ⟨command, inside, rfl⟩ := List.mem_map.mp inCommands
    obtain ⟨criterion, inside', same⟩ := List.mem_map.mp inCriteria
    have kinds := (id_check_inj same).1
    rw [kind_of_mem_commandEntries inside, kind_of_mem_criterionEntries inside'] at kinds
    cases kinds

/-- The items in front of the plan items have distinct ids. -/
theorem nodup_guardChecks_append :
    ((guardChecks workflowKind evidence ++ evidence.foldl addManifestCheck []).map
      (·.id)).Nodup := by
  unfold guardChecks
  split
  next due =>
    have empty : evidence = [] := List.isEmpty_iff.mp (Bool.and_eq_true _ _ ▸ due).2
    simp [empty]
  next => exact nodup_foldl_addManifestCheck evidence

theorem source_of_carriedBy {source : SourceEntry} {item : TaskQaMandatoryCheck}
    (carried : source.CarriedBy item) : item.source ≠ .completionGuard := by
  cases source <;> rw [carried.1] <;> simp

theorem source_of_forall₂ {sources : List SourceEntry} {items : List TaskQaMandatoryCheck}
    (carried : List.Forall₂ SourceEntry.CarriedBy sources items) :
    ∀ item ∈ items, item.source ≠ .completionGuard := by
  induction carried with
  | nil => simp
  | cons first _ ih => exact List.forall_mem_cons.mpr ⟨source_of_carriedBy first, ih⟩

theorem eq_of_mem_guardChecks {item : TaskQaMandatoryCheck}
    (inside : item ∈ guardChecks workflowKind evidence) : item = missingEvidenceCheck := by
  unfold guardChecks at inside
  split at inside
  · exact List.mem_singleton.mp inside
  · cases inside

theorem guardChecks_subset : guardChecks workflowKind evidence ⊆ Keyed.setAll (·.id)
    (guardChecks workflowKind evidence ++ evidence.foldl addManifestCheck [])
    ((planEntries toLowerCase evidence commands criteria).map (SourceEntry.check sha256Text)) := by
  intro item inside
  apply Keyed.mem_setAll_of_ne (List.mem_append_left _ inside)
  rw [List.map_map, eq_of_mem_guardChecks inside]
  intro known
  obtain ⟨source, -, same⟩ := List.mem_map.mp known
  exact id_missingEvidenceCheck_ne source same

/-- With distinct names nothing is overwritten. -/
theorem setAll_of_namesDistinct
    (distinct : NamesDistinct toLowerCase sha256Text evidence commands criteria) :
    Keyed.setAll (·.id) (guardChecks workflowKind evidence ++ evidence.foldl addManifestCheck [])
        ((planEntries toLowerCase evidence commands criteria).map
          (SourceEntry.check sha256Text)) =
      guardChecks workflowKind evidence ++
        (verificationEntries evidence ++ planEntries toLowerCase evidence commands criteria).map
          (SourceEntry.check sha256Text) := by
  obtain ⟨verification, command, criterion⟩ := distinct
  have collected := (foldl_addManifestCheck evidence).1 verification
  rw [Keyed.setAll_of_nodup, collected, List.map_append, List.append_assoc]
  rw [List.map_append, List.nodup_append']
  refine ⟨nodup_guardChecks_append, ?_, ?_⟩
  · rw [List.map_map]
    exact nodup_planEntries_iff.mpr ⟨command, criterion⟩
  · intro id front behind
    rw [List.map_map] at behind
    obtain ⟨source, inside, rfl⟩ := List.mem_map.mp behind
    obtain ⟨item, inFront, same⟩ := List.mem_map.mp front
    rcases List.mem_append.mp inFront with guard_ | among
    · rw [eq_of_mem_guardChecks guard_] at same
      exact id_missingEvidenceCheck_ne source same.symm
    · rw [collected] at among
      obtain ⟨other, inside', rfl⟩ := List.mem_map.mp among
      have kinds := (id_check_inj same).1
      rw [kind_of_mem_verificationEntries inside'] at kinds
      exact kind_of_mem_planEntries inside kinds.symm

/-- Every check has an item of its own exactly if no name occurs twice. -/
theorem losesNoCheck_iff :
    LosesNoCheck (verificationEntries evidence ++ planEntries toLowerCase evidence commands criteria)
      (buildTaskQaMandatoryCheckInventory toLowerCase localeCompare sha256Text workflowKind
        (some ⟨evidence⟩) (some ⟨criteria, commands⟩)) ↔
      NamesDistinct toLowerCase sha256Text evidence commands criteria := by
  set sources := verificationEntries evidence ++ planEntries toLowerCase evidence commands criteria
    with sources_def
  have perm := buildTaskQaMandatoryCheckInventory_perm toLowerCase localeCompare sha256Text
    workflowKind evidence commands criteria
  set checks := Keyed.setAll (·.id)
    (guardChecks workflowKind evidence ++ evidence.foldl addManifestCheck [])
    ((planEntries toLowerCase evidence commands criteria).map (SourceEntry.check sha256Text))
    with checks_def
  have checksDistinct : (checks.map (·.id)).Nodup := Keyed.nodup_setAll nodup_guardChecks_append
  constructor
  · rintro ⟨items, carried, inside, distinct⟩
    have inChecks : ∀ item ∈ guardChecks workflowKind evidence ++ items, item ∈ checks := by
      intro item among
      rcases List.mem_append.mp among with guard_ | own
      · exact guardChecks_subset guard_
      · exact perm.mem_iff.mp (inside item own)
    have ownIds : ((guardChecks workflowKind evidence ++ items).map (·.id)).Nodup := by
      rw [List.map_append, List.nodup_append']
      refine ⟨(List.map_append ▸ nodup_guardChecks_append).of_append_left, distinct, ?_⟩
      intro id front behind
      obtain ⟨guard, due, rfl⟩ := List.mem_map.mp front
      obtain ⟨item, own, same⟩ := List.mem_map.mp behind
      have equal := List.inj_on_of_nodup_map checksDistinct
        (inChecks item (List.mem_append_right _ own)) (inChecks guard (List.mem_append_left _ due))
        same
      apply source_of_forall₂ carried item own
      rw [equal, eq_of_mem_guardChecks due]
      rfl
    -- As many items as entries fit into the inventory only if nothing was overwritten.
    have room := Keyed.length_le_of_nodup_of_subset ownIds inChecks
    have size := carried.length_eq
    obtain ⟨-, bounded, grown⟩ : _ ∧ _ ∧ (_ →
        ((verificationEntries evidence).map (SourceEntry.name sha256Text)).Nodup) :=
      foldl_addManifestCheck evidence
    have limit : checks.length ≤ _ := Keyed.length_setAll_le
    rw [List.length_append] at room
    rw [sources_def, List.length_append, length_verificationEntries] at size
    rw [List.length_append, List.length_map] at limit
    have planIds : ((guardChecks workflowKind evidence ++ evidence.foldl addManifestCheck [] ++
        (planEntries toLowerCase evidence commands criteria).map
          (SourceEntry.check sha256Text)).map (·.id)).Nodup := by
      apply Keyed.nodup_of_length_setAll nodup_guardChecks_append
      rw [← checks_def, List.length_append, List.length_map]
      omega
    rw [List.map_append, List.nodup_append', List.map_map] at planIds
    exact ⟨grown (by omega), nodup_planEntries_iff.mp planIds.2.1⟩
  · intro distinct
    rw [setAll_of_namesDistinct distinct] at checks_def
    refine ⟨sources.map (SourceEntry.check sha256Text), ?_, ?_, ?_⟩
    · exact List.forall₂_map_right_iff.mpr (List.forall₂_same.mpr fun source _ =>
        carriedBy_check source)
    · intro item among
      rw [perm.mem_iff, checks_def]
      exact List.mem_append_right _ among
    · rw [checks_def, List.map_append] at checksDistinct
      exact checksDistinct.of_append_right

/-- The order of code points. -/
def codePointCompare (a b : String) : Int := if a < b then -1 else if b < a then 1 else 0

/-- The entry that failed and the one that passed have one id: one item is left. -/
theorem failed_entry_overwritten :
    ¬ ∀ (workflowKind : TaskIntent)
        (evidence : List ImplementationManifestVerificationEvidence) (commands : List String)
        (criteria : List AifPlanManifestAcceptanceCriterion),
      LosesNoCheck
        (verificationEntries evidence ++
          planEntries Text.toLowerCase evidence commands criteria)
        (buildTaskQaMandatoryCheckInventory Text.toLowerCase codePointCompare id workflowKind
          (some ⟨evidence⟩) (some ⟨criteria, commands⟩)) := by
  intro keeps
  obtain ⟨evidence, both, one⟩ :
      ∃ evidence : List ImplementationManifestVerificationEvidence, evidence.length = 2 ∧
        (guardChecks .feature evidence ++ evidence.foldl addManifestCheck []).length = 1 :=
    ⟨[⟨some "tests", some "npm test", .failed, none, none⟩,
      ⟨some "tests", some "npm run lint", .passed, none, none⟩], rfl, by decide⟩
  obtain ⟨items, carried, inside, distinct⟩ := keeps .feature evidence [] []
  have room := Keyed.length_le_of_nodup_of_subset distinct inside
  have size := carried.length_eq
  rw [(buildTaskQaMandatoryCheckInventory_perm Text.toLowerCase codePointCompare id .feature
    evidence [] []).length_eq] at room
  have empty : planEntries Text.toLowerCase evidence [] [] = [] := rfl
  rw [empty, List.map_nil, Keyed.setAll_nil, one] at room
  rw [empty, List.append_nil, length_verificationEntries, both] at size
  omega

end Complete

end AifHandoff.Data
