import AifHandoff.Data.QaInventory

/-!
The QA gate of a task (`qaArtifactSatisfiesMandatoryInventory`, `data/index.ts`): the commands of
an accepted artifact against the mandatory inventory. An id or command that is no text is `none`.
-/

namespace AifHandoff.Data

/-- A command of a QA artifact. -/
structure QaArtifactCommand where
  id : Option String
  command : Option String
  status : String
  mandatory : Bool

/-- The command passed, for the item and with the item's own command. -/
structure Answers (command : QaArtifactCommand) (item : TaskQaMandatoryCheck) : Prop where
  named : usefulString command.id = some item.id
  passed : command.status = "passed"
  same : (item.command.bind orNull).isSome = true →
    some (normalizeCommand (usefulString command.command)) = item.command

/-- `inventoryById.get(id)`: of several items with the id the last one. -/
def inventoryItem (inventory : List TaskQaMandatoryCheck) (id : Option String) :
    Option TaskQaMandatoryCheck :=
  (usefulString id).bind fun id => inventory.reverse.find? (·.id == id)

/-- The ids that the loop has seen in the end, or `none` when it returns `false`. -/
def seenCommands (inventory : List TaskQaMandatoryCheck) :
    List QaArtifactCommand → List String → Option (List String)
  | [], seen => some seen
  | command :: commands, seen =>
    if command.mandatory = false then seenCommands inventory commands seen
    else match inventoryItem inventory command.id with
      | none => none
      | some item =>
        if item.id ∈ seen then none
        else if command.status ≠ "passed" then none
        else if (item.command.bind orNull).isSome ∧
            some (normalizeCommand (usefulString command.command)) ≠ item.command then none
        else seenCommands inventory commands (seen ++ [item.id])

def qaArtifactSatisfiesMandatoryInventory (inventory : List TaskQaMandatoryCheck)
    (status : String) (commands : List QaArtifactCommand) : Bool :=
  if status ≠ "passed" then false
  else if inventory.length = 0 then false
  else if inventory.any fun item =>
      item.source == .completionGuard || (item.blockingReason.bind orNull).isSome then false
  else (seenCommands inventory commands []).any fun seen => inventory.all (·.id ∈ seen)

section Gate

variable {inventory : List TaskQaMandatoryCheck} {commands : List QaArtifactCommand}
  {seen out : List String} (distinct : (inventory.map (·.id)).Nodup)
include distinct

theorem inventoryItem_eq_some_iff {id : Option String} {item : TaskQaMandatoryCheck} :
    inventoryItem inventory id = some item ↔
      item ∈ inventory ∧ usefulString id = some item.id := by
  rw [inventoryItem, Option.bind_eq_some_iff]
  constructor
  · rintro ⟨text, named, found⟩
    have own : item.id = text := by simpa using List.find?_some found
    exact ⟨List.mem_reverse.mp (List.mem_of_find?_eq_some found), own ▸ named⟩
  · rintro ⟨inside, named⟩
    refine ⟨item.id, named, ?_⟩
    obtain ⟨other, found⟩ : ∃ other, inventory.reverse.find? (·.id == item.id) = some other :=
      Option.isSome_iff_exists.mp (List.find?_isSome.mpr
        ⟨item, List.mem_reverse.mpr inside, beq_self_eq_true _⟩)
    have same : other.id = item.id := by simpa using List.find?_some found
    have known := List.mem_reverse.mp (List.mem_of_find?_eq_some found)
    rwa [List.inj_on_of_nodup_map distinct known inside same] at found

theorem seenCommands_cons_iff {command : QaArtifactCommand} (mandatory : command.mandatory = true) :
    seenCommands inventory (command :: commands) seen = some out ↔
      ∃ item, Answers command item ∧ (item ∈ inventory ∧ item.id ∉ seen) ∧
        seenCommands inventory commands (seen ++ [item.id]) = some out := by
  rw [seenCommands, if_neg (by simp [mandatory])]
  constructor
  · intro loop
    split at loop
    · cases loop
    next item known =>
    obtain ⟨inside, named⟩ := (inventoryItem_eq_some_iff distinct).mp known
    split_ifs at loop with twice failed differs
    exact ⟨item, ⟨named, not_not.mp failed, fun some_ => not_not.mp fun other =>
      differs ⟨some_, other⟩⟩, ⟨inside, twice⟩, loop⟩
  · rintro ⟨item, answers, ⟨inside, fresh⟩, loop⟩
    rw [(inventoryItem_eq_some_iff distinct).mpr ⟨inside, answers.named⟩]
    simp only [if_neg fresh, answers.passed, ne_eq, not_true, if_false]
    rwa [if_neg fun differs => differs.2 (answers.same differs.1)]

/-- The loop accepts the commands that answer different items, none of them seen before. -/
theorem seenCommands_eq_some_iff :
    seenCommands inventory commands seen = some out ↔ ∃ answered,
      List.Forall₂ Answers (commands.filter (·.mandatory)) answered ∧
        (∀ item ∈ answered, item ∈ inventory ∧ item.id ∉ seen) ∧
        (answered.map (·.id)).Nodup ∧ seen ++ answered.map (·.id) = out := by
  induction commands generalizing seen with
  | nil => simp [seenCommands]
  | cons command commands ih =>
    cases optional : command.mandatory with
    | false => simp [seenCommands, optional, ih]
    | true =>
      rw [seenCommands_cons_iff distinct optional, List.filter_cons_of_pos optional]
      constructor
      · rintro ⟨item, answers, own, loop⟩
        obtain ⟨answered, matched, known, apart, rfl⟩ := ih.mp loop
        refine ⟨item :: answered, .cons answers matched, ?_, ?_, by simp⟩
        · rintro other (_ | ⟨_, among⟩)
          · exact own
          · exact (known other among).imp_right (mt (List.mem_append_left _))
        · simp only [List.map_cons, List.nodup_cons, List.mem_map, not_exists, not_and, apart,
            and_true]
          exact fun other among same => (known other among).2 (by simp [same])
      · rintro ⟨_, answers | ⟨answers, matched⟩, known, apart, rfl⟩
        rename_i item answered
        simp only [List.map_cons, List.nodup_cons, List.mem_map, not_exists, not_and] at apart
        refine ⟨item, answers, known item List.mem_cons_self, ih.mpr ⟨answered, matched, ?_,
          apart.2, by simp⟩⟩
        intro other among
        obtain ⟨inside, unseen⟩ := known other (List.mem_cons_of_mem _ among)
        exact ⟨inside, by simpa using ⟨unseen, apart.1 other among⟩⟩

end Gate

/-- **The QA gate is exact**: an artifact passes for a task exactly if it is marked as passed, the
inventory of the task is not empty and has no open item, and the mandatory commands of the artifact
are, in some order, one passed command for each item. -/
theorem qaGate_exact (toLowerCase : String → String) (localeCompare : String → String → Int)
    (sha256Text : String → String) (workflowKind : TaskIntent)
    (manifest : Option ImplementationManifest) (planManifest : Option AifPlanManifest)
    (status : String) (commands : List QaArtifactCommand) :
    let inventory := buildTaskQaMandatoryCheckInventory toLowerCase localeCompare sha256Text
      workflowKind manifest planManifest
    qaArtifactSatisfiesMandatoryInventory inventory status commands = true ↔
      status = "passed" ∧ inventory ≠ [] ∧
        (∀ item ∈ inventory, item.source ≠ .completionGuard ∧
          item.blockingReason.bind orNull = none) ∧
        ∃ answered, List.Forall₂ Answers (commands.filter (·.mandatory)) answered ∧
          answered.Perm inventory := by
  intro inventory
  have distinct : (inventory.map (·.id)).Nodup := by
    have given : inventory = buildTaskQaMandatoryCheckInventory toLowerCase localeCompare sha256Text
        workflowKind (some ⟨(manifest.map (·.verificationEvidence)).getD []⟩)
        (some ⟨(planManifest.map (·.acceptanceCriteria)).getD [],
          (planManifest.map (·.verificationCommands)).getD []⟩) := by
      cases manifest <;> cases planManifest <;> rfl
    rw [given]
    exact ((buildTaskQaMandatoryCheckInventory_perm _ _ _ _ _ _ _).map _).nodup_iff.mpr
      (Keyed.nodup_setAll nodup_guardChecks_append)
  clear_value inventory
  have loop : (seenCommands inventory commands []).any (fun seen => inventory.all (·.id ∈ seen)) =
      true ↔ ∃ answered, List.Forall₂ Answers (commands.filter (·.mandatory)) answered ∧
        answered.Perm inventory := by
    simp only [Option.any_eq_true, List.all_eq_true, decide_eq_true_eq]
    constructor
    · rintro ⟨_, ran, all⟩
      obtain ⟨answered, matched, known, apart, rfl⟩ := (seenCommands_eq_some_iff distinct).mp ran
      refine ⟨answered, matched, (List.perm_ext_iff_of_nodup apart.of_map distinct.of_map).mpr
        fun item => ⟨fun among => (known item among).1, fun inside => ?_⟩⟩
      obtain ⟨other, among, same⟩ := List.mem_map.mp (all item inside)
      rwa [← List.inj_on_of_nodup_map distinct (known other among).1 inside same]
    · rintro ⟨answered, matched, perm⟩
      refine ⟨_, (seenCommands_eq_some_iff distinct).mpr ⟨answered, matched, fun item among =>
        ⟨perm.mem_iff.mp among, List.not_mem_nil⟩, (perm.map _).nodup_iff.mpr distinct, rfl⟩, ?_⟩
      exact fun item inside => List.mem_map_of_mem (perm.mem_iff.mpr inside)
  rw [← loop, qaArtifactSatisfiesMandatoryInventory]
  by_cases passed : status = "passed" <;> by_cases empty : inventory = [] <;>
    simp [passed, empty]

end AifHandoff.Data
