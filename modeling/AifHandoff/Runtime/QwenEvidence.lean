import AifHandoff.Runtime.QwenBudgets

/-!
The audit evidence of a run (`runtime/adapters/qwenLocalAgent/api.ts`).
-/

namespace AifHandoff.Runtime

open Shared LexicalPath PathPattern Text

variable {World ν : Type}

/-! ### What a unit should stand for -/

def Deed.record? : Deed ν → Option (CallRecord ν)
  | .toolCall record => some record
  | _ => none

def records (deeds : List (Deed ν)) : List (CallRecord ν) := deeds.filterMap Deed.record?

/-- The path a file tool works on. -/
def inspectedPath (args : Fields ν) : String := (readString (args.lookup "path")).getD "."

/-- The unit stems from an allowed call that succeeded, and its scopes are the path the call looked
at or directories above it, both resolved by their spelling. -/
structure Seen (root : List Name) (record : CallRecord ν) (unit : AuditEvidenceUnit) : Prop where
  allowed : record.toolAllowed = true
  succeeded : record.result.ok = true
  scopes : ∀ id ∈ unit.scopeIds, resolve root (segmentsOf id.toList) <+:
    resolve root (segmentsOf (inspectedPath record.args).toList)

/-- A call that reads or searches files and that neither the inspection budget nor the repair lock
turned away; reading the report itself does not count. -/
structure GivesSubstantive (input : RunInput) (record : CallRecord ν) : Prop where
  tool : record.call.name = "read_file" ∨ record.call.name = "search_files"
  budget : record.result.repositoryInspectionBudgetExhausted = false
  lock : record.result.auditReportRepairInspectionDenied = false
  source : isAuditArtifactMaintenanceToolCall input record.call.name record.args = false

/-- The call succeeded and spells its path plainly. -/
structure PlainSuccess (record : CallRecord ν) : Prop where
  ok : record.result.ok = true
  path : ∀ path ∈ stringField record.args "path", PlainPath path

instance (record : CallRecord ν) : Decidable (PlainSuccess record) :=
  decidable_of_iff (record.result.ok = true ∧ ∀ path ∈ stringField record.args "path", PlainPath path)
    ⟨fun ⟨ok, path⟩ => ⟨ok, path⟩, fun plain => ⟨plain.ok, plain.path⟩⟩

/-! ### The unit of one call -/

section Unit

variable {host : Host World ν} {input : RunInput} {s s' : LoopState World ν} {call : ToolCall}
  {args : Fields ν} {fileStates : List (Json ν)} {signature : String} {unit : AuditEvidenceUnit}

theorem denialResult_ok (toolName : String) (reason : Denial) :
    (denialResult input toolName reason : ToolResult ν).ok = false := by
  cases reason <;> rfl

theorem recordOf_allowed
    (ok : (recordOf host input s call args fileStates signature).result.ok = true) :
    (recordOf host input s call args fileStates signature).toolAllowed = true := by
  change (resultOf host input s call.name args).2.ok = true at ok
  change isQwenToolAllowedForWorkflow input.workflowKind call.name = true
  unfold resultOf at ok
  split at ok
  · rw [denialResult_ok] at ok
    cases ok
  · rename_i executed
    by_contra forbidden
    rw [Bool.not_eq_true] at forbidden
    unfold denial at executed
    dsimp only at executed
    rw [forbidden] at executed
    simp at executed

theorem recordOf_unit
    (added : (recordOf host input s call args fileStates signature).unit = some unit) :
    ∃ id payload riskIds, buildAuditEvidenceResultForTool host input id call.name args
        (recordOf host input s call args fileStates signature).result = some payload ∧
      unit = buildAuditEvidenceUnit { payload with riskHypothesisIds := riskIds } := by
  change (appendQwenAuditEvidenceUnit input s.auditEvidenceUnits
    (buildAuditEvidenceResultForTool host input _ call.name args
      (resultOf host input s call.name args).2)).2 = some unit at added
  revert added
  unfold appendQwenAuditEvidenceUnit
  cases built : buildAuditEvidenceResultForTool host input _ call.name args
      (resultOf host input s call.name args).2 with
  | none => simp
  | some payload =>
    cases input.evidenceLinks with
    | none => simp
    | some links =>
      dsimp only
      split
      · simp
      · intro same
        cases same
        exact ⟨_, payload, _, built, rfl⟩

theorem classifyGrade_shellCommand (tools : LedgerTools) (command : Option String) :
    classifyGrade tools .shellCommand none command = .discovery := by
  unfold classifyGrade
  split <;> rfl

theorem classifyGrade_discovery (tools : LedgerTools) (kind : AuditEvidenceKind)
    (command : Option String) :
    classifyGrade tools kind (some .discovery) command = .discovery := by
  unfold classifyGrade
  split <;> rfl

theorem scopeIdsOfPath_blank {path : String} (blank : trim path = "") :
    scopeIdsOfPath (normalizeAuditEvidencePath path) = [] := by
  rw [normalizeAuditEvidencePath, blank]
  decide

theorem sanitize_eq {toolName known : String}
    (same : sanitizeQwenToolNameForLog toolName = known) (other : known ≠ "unknown_qwen_tool") :
    toolName = known := by
  unfold sanitizeQwenToolNameForLog at same
  split at same
  · exact same
  · exact absurd same.symm other

/-- Only reading and searching files give a substantive unit; its scopes are those of their path. -/
theorem substantive_of_built {id toolName : String} {result : ToolResult ν}
    (built : buildAuditEvidenceResultForTool host input id toolName args result = some unit)
    (grade : unit.evidenceGrade = .substantive) :
    (toolName = "read_file" ∨ toolName = "search_files") ∧
      result.repositoryInspectionBudgetExhausted = false ∧
      result.auditReportRepairInspectionDenied = false ∧
      isAuditArtifactMaintenanceToolCall input toolName args = false ∧
      ∀ scope ∈ unit.scopeIds, ∃ path ∈ stringField args "path", ∃ raw,
        raw ∈ scopeIdsOfPath (normalizeAuditEvidencePath path) ∧ trim raw = scope := by
  unfold buildAuditEvidenceResultForTool at built
  dsimp only at built
  split at built
  · cases built
  rename_i goes
  simp only [Bool.or_eq_true, not_or, Bool.not_eq_true] at goes
  obtain ⟨⟨budget, lock⟩, source⟩ := goes
  rw [Option.map_eq_some_iff] at built
  obtain ⟨⟨kind, given, paths, command⟩, evidence, rfl⟩ := built
  change classifyGrade host.ledger kind given _ = .substantive at grade
  have known : (sanitizeQwenToolNameForLog toolName = "read_file" ∨
      sanitizeQwenToolNameForLog toolName = "search_files") ∧
      paths = (stringField args "path").toList := by
    unfold evidenceOf at evidence
    dsimp only at evidence
    split at evidence
    · rename_i reads
      cases evidence
      exact ⟨.inl reads, rfl⟩
    split at evidence
    · cases evidence
      rw [classifyGrade_discovery] at grade
      cases grade
    split at evidence
    · rename_i searches
      cases evidence
      exact ⟨.inr searches, rfl⟩
    split at evidence
    · cases evidence
      rw [classifyGrade_shellCommand] at grade
      cases grade
    split at evidence
    · cases evidence
      rw [classifyGrade_discovery] at grade
      cases grade
    · cases evidence
  obtain ⟨named, rfl⟩ := known
  have tool : toolName = "read_file" ∨ toolName = "search_files" :=
    named.imp (sanitize_eq · (by decide)) (sanitize_eq · (by decide))
  have same : sanitizeQwenToolNameForLog toolName = toolName := by
    rcases tool with rfl | rfl <;> decide
  rw [same] at source
  refine ⟨tool, budget, lock, source, fun scope inside => ?_⟩
  change scope ∈ normalizeAuditEvidenceIds (deriveAuditEvidenceScopeIdsFromPaths _) at inside
  obtain ⟨raw, derived, isScope⟩ := mem_normalizeAuditEvidenceIds.mp inside
  obtain ⟨path, among, member⟩ := mem_deriveAuditEvidenceScopeIdsFromPaths.mp derived
  have given := List.mem_of_mem_filter (List.mem_of_mem_filter among)
  obtain ⟨path, isPath, rfl⟩ := List.mem_map.mp given
  refine ⟨path, Option.mem_toList.mp isPath, raw, member, ?_⟩
  unfold normalizeId at isScope
  split at isScope
  · cases isScope
  · exact Option.some.inj isScope

theorem inspectedPath_of_stringField {path : String} (named : path ∈ stringField args "path")
    (some_ : (trim path).isEmpty = false) : inspectedPath args = trim path := by
  unfold stringField at named
  split at named
  · rename_i text shape
    cases named
    rw [inspectedPath, shape, readString, some_]
    rfl
  · cases named

theorem scopes_lead (root : List Name) {path raw : String} (named : path ∈ stringField args "path")
    (plain : PlainPath path) (among : raw ∈ scopeIdsOfPath (normalizeAuditEvidencePath path)) :
    trim raw = raw ∧ resolve root (segmentsOf raw.toList) <+:
      resolve root (segmentsOf (inspectedPath args).toList) := by
  cases blank : (trim path).isEmpty with
  | true =>
    rw [scopeIdsOfPath_blank (String.isEmpty_iff.mp blank)] at among
    cases among
  | false =>
    rw [inspectedPath_of_stringField named blank]
    exact scopeId_leads plain among root

theorem trim_of_normalizeId {value id : String} (isId : normalizeId value = some id) :
    trim value = id := by
  unfold normalizeId at isId
  split at isId
  · cases isId
  · exact Option.some.inj isId

/-- The substantive unit of a call that succeeds and spells its path plainly stands for what the call
looked at. -/
theorem recordOf_seen (root : List Name)
    (added : (recordOf host input s call args fileStates signature).unit = some unit)
    (grade : unit.evidenceGrade = .substantive)
    (plain : GivesSubstantive input (recordOf host input s call args fileStates signature) →
      PlainSuccess (recordOf host input s call args fileStates signature)) :
    Seen root (recordOf host input s call args fileStates signature) unit := by
  obtain ⟨id, payload, riskIds, built, rfl⟩ := recordOf_unit added
  obtain ⟨tool, budget, lock, source, scopes⟩ := substantive_of_built built grade
  have gives : GivesSubstantive input (recordOf host input s call args fileStates signature) := by
    constructor
    · rwa [recordOf_call]
    · exact budget
    · exact lock
    · rwa [recordOf_call, recordOf_args]
  obtain ⟨ok, path⟩ := plain gives
  rw [recordOf_args] at path
  refine ⟨recordOf_allowed ok, ok, fun scope inside => ?_⟩
  obtain ⟨inner, member, isScope⟩ := mem_normalizeAuditEvidenceIds.mp inside
  obtain ⟨named, isNamed, raw, among, isInner⟩ := scopes inner member
  obtain ⟨trimmed, leads⟩ := scopes_lead root isNamed (path named isNamed) among
  have same : scope = raw := by
    rw [← trim_of_normalizeId isScope, ← isInner, trimmed, trimmed]
  rw [recordOf_args, same]
  exact leads

end Unit

/-! ### The ledger of a run -/

section Ledger

variable (host : Host World ν) (input : RunInput) {s s' : LoopState World ν}

/-- The ledger holds the units it started with and those of the calls, in their order. -/
structure Recorded (s : LoopState World ν) : Prop where
  ledger : s.auditEvidenceUnits =
    input.initialEvidenceUnits ++ (records s.deeds).filterMap CallRecord.unit
  settled : ∀ record ∈ records s.deeds, ∃ before call args fileStates signature,
    record = recordOf host input before call args fileStates signature

theorem records_append_of_none {deeds more : List (Deed ν)}
    (none_ : ∀ deed ∈ more, deed.record? = none) : records (deeds ++ more) = records deeds := by
  unfold records
  rw [List.filterMap_append, List.filterMap_eq_nil_iff.mpr none_, List.append_nil]

theorem records_concat (deeds : List (Deed ν)) (record : CallRecord ν) :
    records (deeds ++ [.toolCall record]) = records deeds ++ [record] := by
  unfold records
  rw [List.filterMap_append]
  rfl

theorem Recorded.of_records (recorded : Recorded host input s)
    (deeds : records s'.deeds = records s.deeds)
    (units : s'.auditEvidenceUnits = s.auditEvidenceUnits) : Recorded host input s' := by
  constructor
  · rw [units, deeds]
    exact recorded.ledger
  · rw [deeds]
    exact recorded.settled

theorem Recorded.of_finalizes {tools : List String} (recorded : Recorded host input s)
    (finalizes : Finalizes tools s s') : Recorded host input s' := by
  obtain ⟨world, deeds, named, rfl⟩ := finalizes
  refine recorded.of_records host input (records_append_of_none fun deed inside => ?_) rfl
  have called : deed.finalizedTool? ∈ tools.map some := named ▸ List.mem_map_of_mem inside
  obtain ⟨tool, _, isTool⟩ := List.mem_map.mp called
  cases deed with
  | finalization toolName args result => rfl
  | request messages answer => rfl
  | toolCall record => cases isTool

theorem Recorded.settle {call : ToolCall} {args : Fields ν} {fileStates : List (Json ν)}
    {signature : String} (recorded : Recorded host input s) :
    Recorded host input (settledState host input s call args fileStates signature) := by
  constructor
  · rw [settledState_units, settledState_deeds, records_concat, List.filterMap_append,
      recorded.ledger, List.append_assoc]
    cases added : (recordOf host input s call args fileStates signature).unit with
    | none => rw [List.filterMap_cons_none added, Option.toList_none, List.filterMap_nil]
    | some unit => rw [List.filterMap_cons_some added, Option.toList_some, List.filterMap_nil]
  · rw [settledState_deeds, records_concat]
    intro record inside
    rcases List.mem_append.mp inside with early | last
    · exact recorded.settled record early
    · exact ⟨s, call, args, fileStates, signature, List.mem_singleton.mp last⟩

theorem recorded_invariant : LoopInvariant host input (Recorded host input) where
  quiet := fun recorded quiet =>
    recorded.of_records host input (congrArg records quiet.deeds) quiet.units
  request := fun _ _ _ _ recorded =>
    recorded.of_records host input (records_append_of_none (by simp [Deed.record?])) rfl
  finalizes := fun recorded finalizes => recorded.of_finalizes host input finalizes
  settle := fun recorded _ _ =>
    Recorded.settle host input (recorded.of_records host input rfl rfl)

theorem recorded_initial (world : World) : Recorded (ν := ν) host input (initialState input world) :=
  ⟨(List.append_nil _).symm, fun _ inside => absurd inside List.not_mem_nil⟩

/-- Where every call that gives substantive evidence succeeds and spells its path plainly, each
substantive unit that a run adds to its ledger stands for what an allowed, successful call looked
at. -/
theorem ledger_seen (world : World) (root : List Name)
    (plain : ∀ record ∈ records (runQwenLocalAgentApi host input world).1.deeds,
      GivesSubstantive input record → PlainSuccess record) :
    ∃ added, (runQwenLocalAgentApi host input world).1.auditEvidenceUnits =
        input.initialEvidenceUnits ++ added ∧
      ∀ unit ∈ added, ∃ record ∈ records (runQwenLocalAgentApi host input world).1.deeds,
        record.unit = some unit ∧
          (unit.evidenceGrade = .substantive → Seen root record unit) := by
  have recorded := (recorded_invariant host input).run world (recorded_initial host input world)
  refine ⟨_, recorded.ledger, fun unit inside => ?_⟩
  obtain ⟨record, among, isUnit⟩ := List.mem_filterMap.mp inside
  refine ⟨record, among, isUnit, fun grade => ?_⟩
  obtain ⟨before, call, args, fileStates, signature, rfl⟩ := recorded.settled record among
  exact recordOf_seen root isUnit grade (plain _ among)

end Ledger

/-! ### Two calls -/

def readArguments (path : String) : String := "\x7b\"path\":\"" ++ path ++ "\"\x7d"

/-- A run that reads one file, and is answered by `result`. -/
def oneRead (path : String) (result : ToolResult Nat) : LoopState Script Nat :=
  (runQwenLocalAgentApi scriptedHost scriptedInput
    ⟨[oneCall "a" "read_file" (readArguments path), .obj []], [result]⟩).1

/-- What the run that reads one file successfully is given. -/
def readScript : Script :=
  ⟨[oneCall "a" "read_file" (readArguments "src/a.ts"), .obj []], [succeeded "text"]⟩

theorem ledger_seen_readScript :
    ∃ added, (runQwenLocalAgentApi scriptedHost scriptedInput readScript).1.auditEvidenceUnits =
        scriptedInput.initialEvidenceUnits ++ added ∧
      ∀ unit ∈ added,
        ∃ record ∈ records (runQwenLocalAgentApi scriptedHost scriptedInput readScript).1.deeds,
          record.unit = some unit ∧
            (unit.evidenceGrade = .substantive → Seen ["project".toList] record unit) := by
  have plain : ∀ record ∈ records
      (runQwenLocalAgentApi scriptedHost scriptedInput readScript).1.deeds,
      PlainSuccess record := by
    decide +kernel
  exact ledger_seen scriptedHost scriptedInput readScript ["project".toList]
    fun record inside _ => plain record inside

/-- A file that could not be read is in the ledger as substantive evidence. -/
theorem failed_read_substantive :
    ¬∀ unit ∈ (oneRead "a" (failedResult "missing")).auditEvidenceUnits,
      unit.evidenceGrade = .substantive →
        ∃ record ∈ records (oneRead "a" (failedResult "missing")).deeds,
          record.unit = some unit ∧ Seen ["project".toList] record unit := by
  intro seen
  have grades : (oneRead "a" (failedResult "missing")).auditEvidenceUnits.map
      (·.evidenceGrade) = [.substantive] := by
    decide +kernel
  have failed : ∀ record ∈ records (oneRead "a" (failedResult "missing")).deeds,
      record.result.ok = false := by
    decide +kernel
  have graded : AuditEvidenceGrade.substantive ∈
      (oneRead "a" (failedResult "missing")).auditEvidenceUnits.map (·.evidenceGrade) := by
    rw [grades]
    exact List.mem_singleton_self _
  obtain ⟨unit, inside, grade⟩ := List.mem_map.mp graded
  obtain ⟨record, among, _, stands⟩ := seen unit inside grade
  have ok := stands.succeeded
  rw [failed record among] at ok
  cases ok

end AifHandoff.Runtime
