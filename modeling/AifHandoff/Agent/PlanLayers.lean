import AifHandoff.Lib.Keyed
import AifHandoff.Lib.Layering
import AifHandoff.Lib.Regex
import Mathlib.Data.List.Sort

/-!
Plan checklists and their execution layers (`agent/planLayers.ts`).

A plan text is read line by line into tasks: phase headings, checkbox lines and
`depends on` lines. Tasks without explicit dependencies wait for all tasks of the
earlier phases. `computeExecutionLayers` drains the tasks in rounds.
-/

namespace AifHandoff.Agent

open Regex

structure PlanTaskNode where
  number : Nat
  description : String
  phase : Nat
  explicitDependencies : List Nat
  completed : Bool
  deriving DecidableEq

structure PlanLayerComputation where
  tasks : List PlanTaskNode
  layers : List (List Nat)

/-! ### Reading the plan -/

/-- `Array.from(new Set(nums)).sort((a, b) => a - b)`. -/
def sortedSet (nums : List Nat) : List Nat := nums.dedup.insertionSort (· ≤ ·)

def extractDependencyNumbers (raw : String) : List Nat :=
  let nums := (matchAll (some1 digit) raw).map fun hit => Text.numberOfDigits hit.matched
  sortedSet (nums.filter (· ≠ Text.infinity))

structure InlineTask where
  number : Nat
  description : String
  inlineDeps : List Nat
  completed : Bool
  deriving DecidableEq

/-- `/^\s*#{1,6}\s*/`. -/
def headingMarks : Regex :=
  cat [.startAnchor, many space, lit "#", upTo 5 (lit "#"), many space]

/-- `^(?:[-*]\s*)?\[([ x~!])\]\s+` under the `i` flag. -/
def checkboxStart : Regex :=
  cat [.startAnchor, optional (.seq (oneOf "-*") (many space)), lit "[", .capture 1 (oneOf " xX~!"),
    lit "]", some1 space]

/-- `\s*(?:\(([^)]*)\))?\s*$`. -/
def dependencyTail : Regex :=
  cat [many space, optional (cat [lit "(", .capture 4 (many (noneOf ")")), lit ")"]), many space,
    .endAnchor]

/-- `Task\s+(\d+)\s*:\s*(.+?)` under the `i` flag. -/
def taskTitle : Regex :=
  cat [litI "Task", some1 space, .capture 2 (some1 digit), many space, lit ":", many space,
    .capture 3 (some1Lazy dot)]

def boldCheckboxTask : Regex :=
  cat [checkboxStart, lit "**", taskTitle, lit "**", dependencyTail]

def plainCheckboxTask : Regex := cat [checkboxStart, taskTitle, dependencyTail]

/-- The task that either checkbox pattern captured. -/
def inlineTaskOf (hit : Hit) : InlineTask where
  number := Text.numberOfDigits (hit.group 2).toList
  description := Text.trim (hit.group 3)
  inlineDeps := extractDependencyNumbers (hit.group 4)
  completed := Text.toLowerCase (hit.group 1) == "x"

def parseInlineTask (line : String) : Option InlineTask :=
  let normalizedLine := Text.trim (replaceFirst headingMarks (fun _ => "") line)
  match exec boldCheckboxTask normalizedLine with
  | some hit => some (inlineTaskOf hit)
  | none => (exec plainCheckboxTask normalizedLine).map inlineTaskOf

/-- `/^\s*###\s+Phase\b/i` or `/^\s*##\s+Phase\b/i`. -/
def isPhaseHeading (line : String) : Bool :=
  test (cat [.startAnchor, many space, lit "###", some1 space, litI "Phase", .wordBoundary]) line ||
    test (cat [.startAnchor, many space, lit "##", some1 space, litI "Phase", .wordBoundary]) line

/-- `/depends on\s*:?\s*(.+)$/i`. -/
def dependsOn : Regex :=
  cat [litI "depends on", many space, optional (lit ":"), many space, .capture 1 (some1 dot),
    .endAnchor]

/-- What the line loop carries. `tasksByNumber` is a `Map` keyed by the number of
its nodes. -/
structure PlanParse where
  tasksByNumber : List PlanTaskNode
  phaseOrder : List Nat
  currentPhase : Nat
  currentTaskNumber : Option Nat

/-- `tasksByNumber.get(number)`. -/
def taskByNumber (tasks : List PlanTaskNode) (number : Nat) : Option PlanTaskNode :=
  tasks.find? (·.number == number)

/-- `tasksByNumber.set(node.number, node)`. -/
def setTask (tasks : List PlanTaskNode) (node : PlanTaskNode) : List PlanTaskNode :=
  Keyed.set (·.number) tasks node

/-- A checkbox line: the node replaces an earlier one of its number and takes over
the dependencies of that. -/
def addInlineTask (state : PlanParse) (taskMatch : InlineTask) : PlanParse :=
  let existing := taskByNumber state.tasksByNumber taskMatch.number
  let merged := taskMatch.inlineDeps ++ (existing.map (·.explicitDependencies)).getD []
  { state with
    tasksByNumber := setTask state.tasksByNumber
      { number := taskMatch.number
        description := taskMatch.description
        phase := state.currentPhase
        explicitDependencies := sortedSet merged
        completed := taskMatch.completed }
    currentTaskNumber := some taskMatch.number
    phaseOrder := state.phaseOrder ++ [state.currentPhase] }

/-- Any other line: `depends on` adds to the task read last. -/
def addDependsOn (state : PlanParse) (line : String) : PlanParse :=
  match state.currentTaskNumber with
  | none => state
  | some current =>
    let normalizedLine := String.ofList (line.toList.filter (· ≠ '*'))
    match exec dependsOn normalizedLine with
    | none => state
    | some depLine =>
      let deps := extractDependencyNumbers (depLine.group 1)
      if deps.isEmpty then state
      else match taskByNumber state.tasksByNumber current with
        | none => state
        | some node =>
          let merged := sortedSet (node.explicitDependencies ++ deps)
          { state with
            tasksByNumber :=
              setTask state.tasksByNumber { node with explicitDependencies := merged } }

/-- The body of the line loop. -/
def readPlanLine (state : PlanParse) (line : String) : PlanParse :=
  if isPhaseHeading line then { state with currentPhase := state.currentPhase + 1 }
  else match parseInlineTask line with
    | some taskMatch => addInlineTask state taskMatch
    | none => addDependsOn state line

def readPlan (planText : String) : PlanParse :=
  (Text.split planText '\n').foldl readPlanLine ⟨[], [], 0, none⟩

/-- Phases count only if some task stands under a heading, and dependencies only
on other tasks of the plan. -/
def normalizeTask (hasPhases : Bool) (knownNumbers : List Nat) (task : PlanTaskNode) :
    PlanTaskNode :=
  { task with
    phase := if hasPhases then task.phase else 0
    explicitDependencies := task.explicitDependencies.filter fun dep =>
      dep != task.number && knownNumbers.contains dep }

def parsePlanTasks (planText : String) : List PlanTaskNode :=
  let state := readPlan planText
  let tasks := state.tasksByNumber.insertionSort (fun a b => a.number ≤ b.number)
  tasks.map (normalizeTask (state.phaseOrder.any (· > 0)) (tasks.map (·.number)))

/-! ### Layers -/

/-- The numbers of the tasks of one phase: `byPhase.get(phase)`. -/
def byPhase (tasks : List PlanTaskNode) (phase : Nat) : List Nat :=
  (tasks.filter (·.phase == phase)).map (·.number)

/-- The explicit dependencies, or all tasks of the phases before. -/
def dependenciesAfter (priorPhasesTasks : List Nat) (task : PlanTaskNode) : List Nat :=
  if task.explicitDependencies.length > 0 then task.explicitDependencies else priorPhasesTasks

/-- `depsByTask.set` for each task number of one phase. The latest entry of a
number stands first. -/
def setPhaseDependencies (tasks : List PlanTaskNode) (priorPhasesTasks : List Nat) :
    List Nat → List (Nat × List Nat) → List (Nat × List Nat)
  | [], depsByTask => depsByTask
  | taskNumber :: taskNumbers, depsByTask =>
    setPhaseDependencies tasks priorPhasesTasks taskNumbers <|
      match taskByNumber tasks taskNumber with
      | none => depsByTask
      | some task => (task.number, dependenciesAfter priorPhasesTasks task) :: depsByTask

/-- The loop over the phases, in ascending order. -/
def setDependencies (tasks : List PlanTaskNode) :
    List Nat → List Nat → List (Nat × List Nat) → List (Nat × List Nat)
  | [], _, depsByTask => depsByTask
  | phase :: sortedPhases, priorPhasesTasks, depsByTask =>
    setDependencies tasks sortedPhases (priorPhasesTasks ++ byPhase tasks phase)
      (setPhaseDependencies tasks priorPhasesTasks (byPhase tasks phase) depsByTask)

def buildResolvedDependencies (tasks : List PlanTaskNode) : List (Nat × List Nat) :=
  setDependencies tasks (sortedSet (tasks.map (·.phase))) [] []

/-- `depsByTask.get(taskNumber) ?? new Set()`. -/
def depsOf (depsByTask : List (Nat × List Nat)) (taskNumber : Nat) : List Nat :=
  (depsByTask.lookup taskNumber).getD []

/-- The `while` loop. Each round takes at least one number, so the size of the set
bounds the rounds. -/
def drainLayers (depsByTask : List (Nat × List Nat)) : Nat → List Nat → List (List Nat)
  | 0, _ => []
  | fuel + 1, remaining =>
    if remaining.isEmpty then []
    else
      let ready := remaining.filter fun taskNumber =>
        (depsOf depsByTask taskNumber).all (!remaining.contains ·)
      if ready.isEmpty then
        match remaining.insertionSort (· ≤ ·) with
        | [] => []
        | fallback :: _ =>
          [fallback] :: drainLayers depsByTask fuel (remaining.filter (· != fallback))
      else
        ready.insertionSort (· ≤ ·) ::
          drainLayers depsByTask fuel (remaining.filter (!ready.contains ·))

def computeExecutionLayers (tasks : List PlanTaskNode) : List (List Nat) :=
  if tasks.isEmpty then []
  else drainLayers (buildResolvedDependencies tasks) tasks.length (tasks.map (·.number)).dedup

def completedNumbers (tasks : List PlanTaskNode) : List Nat :=
  (tasks.filter (·.completed)).map (·.number)

/-- The tasks that are not completed, with their dependencies on completed tasks
taken off. -/
def pendingTasks (allTasks : List PlanTaskNode) : List PlanTaskNode :=
  (allTasks.filter (!·.completed)).map fun task =>
    { task with
      explicitDependencies :=
        task.explicitDependencies.filter (!(completedNumbers allTasks).contains ·) }

def computePendingPlanLayers (planText : String) : PlanLayerComputation :=
  let tasks := pendingTasks (parsePlanTasks planText)
  { tasks, layers := computeExecutionLayers tasks }

/-! ### What a parsed plan looks like -/

theorem mem_sortedSet {nums : List Nat} {n : Nat} : n ∈ sortedSet nums ↔ n ∈ nums := by
  rw [sortedSet, List.mem_insertionSort, List.mem_dedup]

theorem pairwise_sortedSet (nums : List Nat) : (sortedSet nums).Pairwise (· < ·) := by
  have sorted := List.pairwise_insertionSort (· ≤ ·) nums.dedup
  have distinct : (sortedSet nums).Nodup :=
    (List.perm_insertionSort (· ≤ ·) nums.dedup).nodup_iff.mpr nums.nodup_dedup
  exact (sorted.and distinct).imp fun ⟨le, ne⟩ => lt_of_le_of_ne le ne

/-- The numbers of a plan in the reading are the keys of a map. -/
def DistinctNumbers (state : PlanParse) : Prop := (state.tasksByNumber.map (·.number)).Nodup

theorem nodup_setTask {tasks : List PlanTaskNode} (distinct : (tasks.map (·.number)).Nodup)
    (node : PlanTaskNode) : ((setTask tasks node).map (·.number)).Nodup :=
  Keyed.nodup_set distinct

theorem DistinctNumbers.readPlanLine {state : PlanParse} (distinct : DistinctNumbers state)
    (line : String) :
    DistinctNumbers (readPlanLine state line) := by
  unfold Agent.readPlanLine
  split
  · exact distinct
  split
  · exact nodup_setTask distinct _
  unfold addDependsOn
  split
  · exact distinct
  dsimp only
  split
  · exact distinct
  split
  · exact distinct
  split
  · exact distinct
  · exact nodup_setTask distinct _

theorem distinctNumbers_readPlan (planText : String) : DistinctNumbers (readPlan planText) := by
  have run : ∀ (lines : List String) (state : PlanParse), DistinctNumbers state →
      DistinctNumbers (lines.foldl readPlanLine state) := by
    intro lines
    induction lines with
    | nil => exact fun _ distinct => distinct
    | cons line rest ih => exact fun state distinct => ih _ (distinct.readPlanLine line)
  exact run _ _ List.nodup_nil

/-- A plan as the layer functions expect it: numbers are distinct, and explicit
dependencies name tasks of the plan. -/
structure WellFormedPlan (tasks : List PlanTaskNode) : Prop where
  distinct : (tasks.map (·.number)).Nodup
  known : ∀ task ∈ tasks, ∀ dep ∈ task.explicitDependencies, dep ∈ tasks.map (·.number)

theorem wellFormedPlan_parsePlanTasks (planText : String) :
    WellFormedPlan (parsePlanTasks planText) := by
  set tasks := (readPlan planText).tasksByNumber.insertionSort (fun a b => a.number ≤ b.number)
    with tasks_def
  have numbers : (parsePlanTasks planText).map (·.number) = tasks.map (·.number) := by
    rw [parsePlanTasks, List.map_map]
    rfl
  constructor
  · rw [numbers]
    have perm := (List.perm_insertionSort (fun a b : PlanTaskNode => a.number ≤ b.number)
      (readPlan planText).tasksByNumber).map (·.number)
    exact perm.nodup_iff.mpr (distinctNumbers_readPlan planText)
  · intro task inside dep among
    rw [numbers]
    obtain ⟨parsed, -, rfl⟩ := List.mem_map.mp inside
    have kept := (List.mem_filter.mp among).2
    rw [Bool.and_eq_true, List.contains_iff_mem] at kept
    exact kept.2

/-! ### The resolved dependencies -/

section Resolved

variable {tasks : List PlanTaskNode} {task : PlanTaskNode}

theorem eq_of_number_eq (distinct : (tasks.map (·.number)).Nodup) {other : PlanTaskNode}
    (inside : task ∈ tasks) (inside' : other ∈ tasks) (same : task.number = other.number) :
    task = other :=
  List.inj_on_of_nodup_map distinct inside inside' same

theorem taskByNumber_of_mem (distinct : (tasks.map (·.number)).Nodup) (inside : task ∈ tasks) :
    taskByNumber tasks task.number = some task := by
  cases found : taskByNumber tasks task.number with
  | none =>
    have absent := List.find?_eq_none.mp found task inside
    simp at absent
  | some other =>
    have same : other.number = task.number := by simpa using List.find?_some found
    rw [eq_of_number_eq distinct inside (List.mem_of_find?_eq_some found) same.symm]

theorem number_mem_byPhase (distinct : (tasks.map (·.number)).Nodup) (inside : task ∈ tasks)
    (phase : Nat) : task.number ∈ byPhase tasks phase ↔ task.phase = phase := by
  simp only [byPhase, List.mem_map, List.mem_filter, beq_iff_eq]
  constructor
  · rintro ⟨other, ⟨inside', inPhase⟩, same⟩
    rwa [eq_of_number_eq distinct inside inside' same.symm]
  · intro inPhase
    exact ⟨task, ⟨inside, inPhase⟩, rfl⟩

theorem lookup_setPhaseDependencies (distinct : (tasks.map (·.number)).Nodup)
    (inside : task ∈ tasks) (prior numbers : List Nat) (depsByTask : List (Nat × List Nat)) :
    (setPhaseDependencies tasks prior numbers depsByTask).lookup task.number =
      if task.number ∈ numbers then some (dependenciesAfter prior task)
      else depsByTask.lookup task.number := by
  induction numbers generalizing depsByTask with
  | nil => simp [setPhaseDependencies]
  | cons number rest ih =>
    rw [setPhaseDependencies, ih]
    by_cases later : task.number ∈ rest
    · rw [if_pos later, if_pos (List.mem_cons_of_mem number later)]
    rw [if_neg later]
    by_cases same : task.number = number
    · subst same
      rw [taskByNumber_of_mem distinct inside]
      simp
    · rw [if_neg (by simp [same, later])]
      cases found : taskByNumber tasks number with
      | none => rfl
      | some other =>
        have number_ : other.number = number := by simpa using List.find?_some found
        have differs : (task.number == other.number) = false := by simp [number_, same]
        simp only [List.lookup_cons, differs]

/-- The loop over the phases gives a task its dependencies when it comes to the
phase of the task, and then the tasks of the phases before have been collected. -/
theorem lookup_setDependencies (distinct : (tasks.map (·.number)).Nodup) (inside : task ∈ tasks)
    {phases : List Nat} (ascending : phases.Pairwise (· < ·)) (prior : List Nat)
    (depsByTask : List (Nat × List Nat)) :
    (task.phase ∉ phases →
      (setDependencies tasks phases prior depsByTask).lookup task.number =
        depsByTask.lookup task.number) ∧
    (task.phase ∈ phases →
      ∃ before, (setDependencies tasks phases prior depsByTask).lookup task.number =
          some (dependenciesAfter before task) ∧
        ∀ n, n ∈ before ↔ n ∈ prior ∨ ∃ other ∈ tasks, other.phase ∈ phases ∧
          other.phase < task.phase ∧ other.number = n) := by
  induction phases generalizing prior depsByTask with
  | nil => simp [setDependencies]
  | cons phase rest ih =>
    obtain ⟨first, ascending'⟩ := List.pairwise_cons.mp ascending
    obtain ⟨skips, sets⟩ := ih ascending' (prior ++ byPhase tasks phase)
      (setPhaseDependencies tasks prior (byPhase tasks phase) depsByTask)
    have here := lookup_setPhaseDependencies distinct inside prior (byPhase tasks phase)
      depsByTask
    simp only [number_mem_byPhase distinct inside] at here
    rw [setDependencies]
    constructor
    · intro absent
      obtain ⟨notHere, notLater⟩ := not_or.mp (mt List.mem_cons.mpr absent)
      rw [skips notLater, here, if_neg notHere]
    · intro among
      by_cases now : task.phase = phase
      · have notLater : task.phase ∉ rest := fun later => (first _ later).ne' now
        refine ⟨prior, by rw [skips notLater, here, if_pos now], fun n => ?_⟩
        constructor
        · exact .inl
        · rintro (old | ⟨other, -, inPhases, earlier, -⟩)
          · exact old
          · rcases List.mem_cons.mp inPhases with atHead | inRest
            · omega
            · have := first _ inRest
              omega
      · have later : task.phase ∈ rest := (List.mem_cons.mp among).resolve_left now
        obtain ⟨before, found, members⟩ := sets later
        refine ⟨before, found, fun n => ?_⟩
        have headFirst : phase < task.phase := first _ later
        have inHead : n ∈ byPhase tasks phase ↔
            ∃ other ∈ tasks, other.phase = phase ∧ other.number = n := by
          simp [byPhase, and_assoc]
        rw [members, List.mem_append, inHead]
        constructor
        · rintro ((old | ⟨other, inside', atHead, number_⟩) | ⟨other, inside', inRest, ltAnd⟩)
          · exact .inl old
          · exact .inr ⟨other, inside', atHead ▸ List.mem_cons_self, by omega, number_⟩
          · exact .inr ⟨other, inside', List.mem_cons_of_mem phase inRest, ltAnd⟩
        · rintro (old | ⟨other, inside', inPhases, ltAnd⟩)
          · exact .inl (.inl old)
          · rcases List.mem_cons.mp inPhases with atHead | inRest
            · exact .inl (.inr ⟨other, inside', atHead, ltAnd.2⟩)
            · exact .inr ⟨other, inside', inRest, ltAnd⟩

/-- The resolved dependencies as a map to sets. -/
def resolvedDependencies (tasks : List PlanTaskNode) (taskNumber : Nat) : Finset Nat :=
  (depsOf (buildResolvedDependencies tasks) taskNumber).toFinset

/-- Explicit dependencies replace the rule that a task waits for the earlier
phases. -/
theorem mem_resolvedDependencies (distinct : (tasks.map (·.number)).Nodup) (inside : task ∈ tasks)
    {n : Nat} :
    n ∈ resolvedDependencies tasks task.number ↔
      if task.explicitDependencies = [] then
        ∃ other ∈ tasks, other.phase < task.phase ∧ other.number = n
      else n ∈ task.explicitDependencies := by
  have phaseKnown : ∀ other ∈ tasks, other.phase ∈ sortedSet (tasks.map (·.phase)) :=
    fun other inside' => mem_sortedSet.mpr (List.mem_map.mpr ⟨other, inside', rfl⟩)
  obtain ⟨before, found, members⟩ := (lookup_setDependencies distinct inside
    (pairwise_sortedSet (tasks.map (·.phase))) [] []).2 (phaseKnown task inside)
  rw [resolvedDependencies, depsOf, buildResolvedDependencies, found, List.mem_toFinset,
    Option.getD_some, dependenciesAfter]
  by_cases explicit : task.explicitDependencies = []
  · rw [if_neg (by simp [explicit]), if_pos explicit, members]
    constructor
    · rintro (old | ⟨other, inside', -, earlier, number_⟩)
      · exact absurd old List.not_mem_nil
      · exact ⟨other, inside', earlier, number_⟩
    · rintro ⟨other, inside', earlier, number_⟩
      exact .inr ⟨other, inside', phaseKnown other inside', earlier, number_⟩
  · rw [if_pos (List.length_pos_iff.mpr explicit), if_neg explicit]

end Resolved

/-! ### The rounds -/

theorem insertionSort_eq_sort {numbers : List Nat} (distinct : numbers.Nodup) :
    numbers.insertionSort (· ≤ ·) = numbers.toFinset.sort (· ≤ ·) := by
  have perm := List.perm_insertionSort (· ≤ ·) numbers
  have sorted := (List.toFinset_sort (· ≤ ·) (perm.nodup_iff.mpr distinct)).mpr
    (List.pairwise_insertionSort (· ≤ ·) numbers)
  rw [← sorted, List.toFinset_eq_of_perm _ _ perm]

theorem toFinset_filter_ready (depsByTask : List (Nat × List Nat)) (remaining : List Nat) :
    (remaining.filter fun taskNumber =>
        (depsOf depsByTask taskNumber).all (!remaining.contains ·)).toFinset =
      Layering.ready (fun n => (depsOf depsByTask n).toFinset) remaining.toFinset := by
  ext n
  rw [List.mem_toFinset, List.mem_filter, Layering.mem_ready, List.mem_toFinset,
    Finset.disjoint_left]
  simp

theorem least_eq_singleton_of_sorted {remaining rest : List Nat} {fallback : Nat}
    (sorted : remaining.insertionSort (· ≤ ·) = fallback :: rest) :
    Layering.least remaining.toFinset = {fallback} := by
  have members : ∀ n, n ∈ remaining ↔ n ∈ fallback :: rest := fun n => by
    rw [← sorted, List.mem_insertionSort]
  have ascending : (fallback :: rest).Pairwise (· ≤ ·) :=
    sorted ▸ List.pairwise_insertionSort (· ≤ ·) remaining
  have smallest : fallback ∈ Layering.least remaining.toFinset := by
    refine Layering.mem_least.mpr ⟨List.mem_toFinset.mpr ((members _).mpr List.mem_cons_self), ?_⟩
    intro m inside
    rcases List.mem_cons.mp ((members m).mp (List.mem_toFinset.mp inside)) with rfl | inRest
    · exact le_rfl
    · exact List.rel_of_pairwise_cons ascending inRest
  refine Finset.eq_singleton_iff_unique_mem.mpr ⟨smallest, fun m inside => ?_⟩
  exact Layering.least_eq_of_mem inside smallest

theorem length_filter_lt {remaining : List Nat} {keep : Nat → Bool} {n : Nat}
    (inside : n ∈ remaining) (dropped : keep n = false) :
    (remaining.filter keep).length < remaining.length := by
  apply List.length_filter_lt_length_iff_exists.mpr
  exact ⟨n, inside, by simp [dropped]⟩

/-- With as many rounds as numbers, the loop is the greedy layering. -/
theorem drainLayers_eq (depsByTask : List (Nat × List Nat)) {fuel : Nat} {remaining : List Nat}
    (distinct : remaining.Nodup) (enough : remaining.length ≤ fuel) :
    drainLayers depsByTask fuel remaining =
      (Layering.layers (fun n => (depsOf depsByTask n).toFinset) remaining.toFinset).map
        (·.sort (· ≤ ·)) := by
  induction fuel generalizing remaining with
  | zero =>
    have empty : remaining = [] := List.length_eq_zero_iff.mp (by omega)
    simp [empty, drainLayers]
  | succ fuel ih =>
    by_cases empty : remaining = []
    · simp [empty, drainLayers]
    have some_ : remaining.toFinset.Nonempty := List.toFinset_nonempty_iff _ |>.mpr empty
    have ready_ := toFinset_filter_ready depsByTask remaining
    rw [drainLayers, if_neg (by simp [empty]), Layering.layers_of_nonempty some_, List.map_cons]
    set ready := remaining.filter fun taskNumber =>
      (depsOf depsByTask taskNumber).all (!remaining.contains ·)
    dsimp only
    by_cases stuck : ready = []
    · rw [if_pos (by simp [stuck])]
      rw [stuck, List.toFinset_nil] at ready_
      rw [Layering.front_of_stuck ready_.symm]
      cases sorted : remaining.insertionSort (· ≤ ·) with
      | nil =>
        have perm := List.perm_insertionSort (· ≤ ·) remaining
        rw [sorted] at perm
        exact absurd perm.symm.eq_nil empty
      | cons fallback rest =>
        have inside : fallback ∈ remaining :=
          (List.mem_insertionSort (· ≤ ·)).mp (sorted ▸ List.mem_cons_self)
        have fewer : (remaining.filter (· != fallback)).length < remaining.length :=
          length_filter_lt inside (by simp)
        rw [least_eq_singleton_of_sorted sorted, Finset.sort_singleton]
        dsimp only
        rw [ih (distinct.filter _) (by omega)]
        congr 3
        ext n
        simp
    · rw [if_neg (by simp [stuck])]
      obtain ⟨n, inReady⟩ := List.exists_mem_of_ne_nil ready stuck
      have found : (Layering.ready (fun n => (depsOf depsByTask n).toFinset)
          remaining.toFinset).Nonempty := ready_ ▸ ⟨n, List.mem_toFinset.mpr inReady⟩
      have inside : n ∈ remaining := List.mem_of_mem_filter inReady
      have fewer : (remaining.filter (!ready.contains ·)).length < remaining.length :=
        length_filter_lt inside (by simp [inReady])
      rw [Layering.front_of_ready found, ← ready_,
        insertionSort_eq_sort (distinct.filter _), ih (distinct.filter _) (by omega)]
      congr 3
      ext n
      simp

theorem computeExecutionLayers_eq (tasks : List PlanTaskNode) :
    computeExecutionLayers tasks =
      (Layering.layers (resolvedDependencies tasks) (tasks.map (·.number)).toFinset).map
        (·.sort (· ≤ ·)) := by
  unfold computeExecutionLayers
  split
  next empty => simp [List.isEmpty_iff.mp empty]
  next =>
    have enough : (tasks.map (·.number)).dedup.length ≤ tasks.length := by
      calc (tasks.map (·.number)).dedup.length ≤ (tasks.map (·.number)).length :=
            (List.dedup_sublist _).length_le
        _ = tasks.length := List.length_map _
    have same : (tasks.map (·.number)).dedup.toFinset = (tasks.map (·.number)).toFinset := by
      ext n
      simp
    rw [drainLayers_eq _ (List.nodup_dedup _) enough, same]
    rfl

/-! ### Resuming a plan -/

/-- The numbers of the tasks that are not completed. -/
def pendingNumbers (tasks : List PlanTaskNode) : Finset Nat :=
  ((tasks.filter (!·.completed)).map (·.number)).toFinset

/-- The layering a resumed plan should have: the pending numbers, drained under the
dependencies of the full plan. -/
def layersOfFullPlan (allTasks : List PlanTaskNode) : List (List Nat) :=
  (Layering.layers (resolvedDependencies allTasks) (pendingNumbers allTasks)).map (·.sort (· ≤ ·))

/-- All dependencies of the task are explicit, and completed. -/
def Released (allTasks : List PlanTaskNode) (task : PlanTaskNode) : Prop :=
  task.explicitDependencies ≠ [] ∧
    ∀ dep ∈ task.explicitDependencies, dep ∈ completedNumbers allTasks

instance (allTasks : List PlanTaskNode) (task : PlanTaskNode) :
    Decidable (Released allTasks task) := inferInstanceAs (Decidable (_ ∧ _))

section Resume

variable {allTasks : List PlanTaskNode} {task : PlanTaskNode}

theorem mem_pendingNumbers {n : Nat} :
    n ∈ pendingNumbers allTasks ↔
      ∃ task ∈ allTasks, task.completed = false ∧ task.number = n := by
  simp [pendingNumbers, and_assoc]

theorem mem_completedNumbers {n : Nat} :
    n ∈ completedNumbers allTasks ↔
      ∃ task ∈ allTasks, task.completed = true ∧ task.number = n := by
  simp [completedNumbers, and_assoc]

theorem number_mem_pendingNumbers (plan : WellFormedPlan allTasks) (inside : task ∈ allTasks) :
    task.number ∈ pendingNumbers allTasks ↔ task.completed = false := by
  rw [mem_pendingNumbers]
  constructor
  · rintro ⟨other, inside', pending, same⟩
    rwa [eq_of_number_eq plan.distinct inside inside' same.symm]
  · intro pending
    exact ⟨task, inside, pending, rfl⟩

theorem pending_iff_not_completed (plan : WellFormedPlan allTasks) {n : Nat}
    (known : n ∈ allTasks.map (·.number)) :
    n ∈ pendingNumbers allTasks ↔ n ∉ completedNumbers allTasks := by
  obtain ⟨task, inside, rfl⟩ := List.mem_map.mp known
  have done : task.number ∈ completedNumbers allTasks ↔ task.completed = true := by
    rw [mem_completedNumbers]
    constructor
    · rintro ⟨other, inside', done, same⟩
      rwa [eq_of_number_eq plan.distinct inside inside' same.symm]
    · intro done
      exact ⟨task, inside, done, rfl⟩
  rw [number_mem_pendingNumbers plan inside, done, Bool.not_eq_true]

theorem map_number_pendingTasks :
    (pendingTasks allTasks).map (·.number) = (allTasks.filter (!·.completed)).map (·.number) := by
  rw [pendingTasks, List.map_map]
  rfl

theorem withoutCompleted_mem (inside : task ∈ allTasks) (pending : task.completed = false) :
    { task with
      explicitDependencies :=
        task.explicitDependencies.filter (!(completedNumbers allTasks).contains ·) } ∈
      pendingTasks allTasks :=
  List.mem_map.mpr ⟨task, List.mem_filter.mpr ⟨inside, by simp [pending]⟩, rfl⟩

theorem exists_pendingTasks_iff {phase n : Nat} :
    (∃ other ∈ pendingTasks allTasks, other.phase < phase ∧ other.number = n) ↔
      ∃ other ∈ allTasks, other.completed = false ∧ other.phase < phase ∧ other.number = n := by
  constructor
  · rintro ⟨other, inside, earlier, number_⟩
    obtain ⟨task, among, rfl⟩ := List.mem_map.mp inside
    obtain ⟨inAll, pending⟩ := List.mem_filter.mp among
    exact ⟨task, inAll, by simpa using pending, earlier, number_⟩
  · rintro ⟨other, inside, pending, earlier, number_⟩
    exact ⟨_, withoutCompleted_mem inside pending, earlier, number_⟩

/-- What a pending task waits for when the plan is resumed: as in the full plan,
unless it is released. Then it is treated as a task without dependencies of its
own. -/
theorem mem_resolvedDependencies_pendingTasks (plan : WellFormedPlan allTasks)
    (inside : task ∈ allTasks) (pending : task.completed = false) {n : Nat}
    (left : n ∈ pendingNumbers allTasks) :
    n ∈ resolvedDependencies (pendingTasks allTasks) task.number ↔
      if Released allTasks task then
        ∃ other ∈ allTasks, other.completed = false ∧ other.phase < task.phase ∧ other.number = n
      else n ∈ resolvedDependencies allTasks task.number := by
  have distinct : ((pendingTasks allTasks).map (·.number)).Nodup := by
    rw [map_number_pendingTasks]
    exact (List.filter_sublist.map _).nodup plan.distinct
  have resumed : n ∈ resolvedDependencies (pendingTasks allTasks) task.number ↔ _ :=
    mem_resolvedDependencies distinct (withoutCompleted_mem inside pending)
  have full : n ∈ resolvedDependencies allTasks task.number ↔ _ :=
    mem_resolvedDependencies plan.distinct inside
  have noneLeft : task.explicitDependencies.filter (!(completedNumbers allTasks).contains ·) = [] ↔
      ∀ dep ∈ task.explicitDependencies, dep ∈ completedNumbers allTasks := by
    simp [List.filter_eq_nil_iff]
  by_cases explicit : task.explicitDependencies = []
  · -- No dependencies of its own: both plans use the phases, and `n` is pending.
    have notReleased : ¬ Released allTasks task := fun released => released.1 explicit
    rw [if_neg notReleased, full, if_pos explicit, resumed, if_pos (by simp [explicit]),
      exists_pendingTasks_iff]
    constructor
    · rintro ⟨other, inside', -, earlier⟩
      exact ⟨other, inside', earlier⟩
    · rintro ⟨other, inside', earlier, rfl⟩
      exact ⟨other, inside', (number_mem_pendingNumbers plan inside').mp left, earlier, rfl⟩
  · by_cases released : Released allTasks task
    · rw [if_pos released, resumed, if_pos (noneLeft.mpr released.2), exists_pendingTasks_iff]
    · have some_ := mt noneLeft.mp fun all => released ⟨explicit, all⟩
      rw [if_neg released, full, if_neg explicit, resumed, if_neg some_, List.mem_filter]
      constructor
      · exact And.left
      · intro among
        have notDone := (pending_iff_not_completed plan (plan.known task inside n among)).mp left
        exact ⟨among, by simpa using notDone⟩

theorem disjoint_of_released (plan : WellFormedPlan allTasks) (inside : task ∈ allTasks)
    (released : Released allTasks task) :
    Disjoint (resolvedDependencies allTasks task.number) (pendingNumbers allTasks) := by
  refine Finset.disjoint_left.mpr fun n among left => ?_
  rw [mem_resolvedDependencies plan.distinct inside, if_neg released.1] at among
  exact (pending_iff_not_completed plan (plan.known task inside n among)).mp left
    (released.2 n among)

/-- The pending tasks that only the resumed plan makes wait: released, with a
pending task in an earlier phase. -/
def heldBack (allTasks : List PlanTaskNode) : Finset Nat :=
  ((allTasks.filter fun task => !task.completed && decide (Released allTasks task) &&
    allTasks.any fun other => !other.completed && decide (other.phase < task.phase)).map
      (·.number)).toFinset

theorem mem_heldBack {n : Nat} :
    n ∈ heldBack allTasks ↔ ∃ task ∈ allTasks, task.completed = false ∧ Released allTasks task ∧
      (∃ other ∈ allTasks, other.completed = false ∧ other.phase < task.phase) ∧
      task.number = n := by
  simp [heldBack, and_assoc]

theorem heldBack_eq_empty_iff :
    heldBack allTasks = ∅ ↔ ∀ task ∈ allTasks, task.completed = false → Released allTasks task →
      ∀ other ∈ allTasks, other.completed = false → task.phase ≤ other.phase := by
  rw [Finset.eq_empty_iff_forall_notMem]
  constructor
  · intro none_ task inside pending released other inside' pending'
    by_contra earlier
    exact none_ task.number (mem_heldBack.mpr
      ⟨task, inside, pending, released, ⟨other, inside', pending', not_le.mp earlier⟩, rfl⟩)
  · intro orderly n among
    obtain ⟨task, inside, pending, released, ⟨other, inside', pending', earlier⟩, -⟩ :=
      mem_heldBack.mp among
    exact absurd (orderly task inside pending released other inside' pending') (not_le.mpr earlier)

end Resume

theorem map_sort_inj {left right : List (Finset Nat)} :
    left.map (·.sort (· ≤ ·)) = right.map (·.sort (· ≤ ·)) ↔ left = right := by
  apply (List.map_injective_iff.mpr _).eq_iff
  intro a b same
  rw [← Finset.sort_toFinset a (· ≤ ·), ← Finset.sort_toFinset b (· ≤ ·)]
  exact congrArg List.toFinset same

/-- A resumed plan keeps the layering of the full plan exactly if no released task
has a pending task in an earlier phase, or the only free task is the one that the
cycle fallback would take. -/
theorem computePendingPlanLayers_eq_iff (planText : String) :
    (computePendingPlanLayers planText).layers = layersOfFullPlan (parsePlanTasks planText) ↔
      (∀ task ∈ parsePlanTasks planText, task.completed = false →
        Released (parsePlanTasks planText) task →
        ∀ other ∈ parsePlanTasks planText, other.completed = false → task.phase ≤ other.phase) ∨
      Layering.ready (resolvedDependencies (parsePlanTasks planText))
          (pendingNumbers (parsePlanTasks planText)) =
        Layering.least (pendingNumbers (parsePlanTasks planText)) := by
  have plan := wellFormedPlan_parsePlanTasks planText
  set allTasks := parsePlanTasks planText with allTasks_def
  have resumed : (computePendingPlanLayers planText).layers =
      (Layering.layers (resolvedDependencies (pendingTasks allTasks))
        (pendingNumbers allTasks)).map (·.sort (· ≤ ·)) := by
    rw [computePendingPlanLayers, computeExecutionLayers_eq, map_number_pendingTasks]
    rfl
  rw [resumed, layersOfFullPlan, map_sort_inj, ← heldBack_eq_empty_iff]
  apply Layering.layers_eq_iff
  · intro n held
    obtain ⟨task, inside, pending, -, -, rfl⟩ := mem_heldBack.mp held
    exact (number_mem_pendingNumbers plan inside).mpr pending
  · intro n left notHeld
    obtain ⟨task, inside, pending, rfl⟩ := mem_pendingNumbers.mp left
    ext m
    rw [Finset.mem_inter, Finset.mem_inter, and_congr_left_iff]
    intro left'
    rw [mem_resolvedDependencies_pendingTasks plan inside pending left']
    by_cases released : Released allTasks task
    · rw [if_pos released]
      constructor
      · rintro ⟨other, inside', pending', earlier, -⟩
        exact absurd (mem_heldBack.mpr
          ⟨task, inside, pending, released, ⟨other, inside', pending', earlier⟩, rfl⟩) notHeld
      · intro among
        exact absurd left' (Finset.disjoint_left.mp (disjoint_of_released plan inside released) among)
    · rw [if_neg released]
  · intro n held
    obtain ⟨task, inside, -, released, -, rfl⟩ := mem_heldBack.mp held
    exact disjoint_of_released plan inside released
  · intro n held apart
    obtain ⟨task, inside, pending, released, ⟨other, inside', pending', earlier⟩, rfl⟩ :=
      mem_heldBack.mp held
    have left : other.number ∈ pendingNumbers allTasks :=
      (number_mem_pendingNumbers plan inside').mpr pending'
    have waits := (mem_resolvedDependencies_pendingTasks plan inside pending left).mpr
      (by rw [if_pos released]; exact ⟨other, inside', pending', earlier, rfl⟩)
    exact Finset.disjoint_left.mp apart waits left

/-- Task 3 names only the completed task 2, and is made to wait for task 1 of an
earlier phase. -/
theorem released_task_waits :
    ¬ ∀ planText : String,
      (computePendingPlanLayers planText).layers = layersOfFullPlan (parsePlanTasks planText) := by
  intro keeps
  obtain ⟨planText, parsed⟩ : ∃ planText : String, parsePlanTasks planText =
      [⟨1, "schema", 1, [], false⟩, ⟨2, "routes", 2, [], true⟩, ⟨3, "pages", 2, [2], false⟩] :=
    ⟨"## Phase 1
- [ ] Task 1: schema
## Phase 2
- [x] Task 2: routes
- [ ] Task 3: pages (depends on 2)", by decide +kernel⟩
  have resumed : (computePendingPlanLayers planText).layers = [[1], [3]] := by
    rw [computePendingPlanLayers, parsed]
    decide
  have some_ : 1 ∈ pendingNumbers (parsePlanTasks planText) := by
    rw [parsed]
    decide
  have both : (Layering.front (resolvedDependencies (parsePlanTasks planText))
      (pendingNumbers (parsePlanTasks planText))).card = 2 := by
    rw [parsed]
    decide
  have same := keeps planText
  rw [resumed, layersOfFullPlan, Layering.layers_of_nonempty ⟨1, some_⟩, List.map_cons] at same
  have first := congrArg List.length (List.cons.inj same).1
  rw [Finset.length_sort, both] at first
  cases first

end AifHandoff.Agent
