import AifHandoff.Agent.PlanLayers

/-!
The execution layers of a plan as a schedule.
-/

namespace AifHandoff.Agent

/-- The layer in which a task stands, counted from 0. -/
def layerIndex (layers : List (List Nat)) (number : Nat) : Nat :=
  layers.findIdx (·.contains number)

/-- Task `b` waits for task `a`, explicitly or by its phase. -/
def DependsOn (tasks : List PlanTaskNode) (b a : Nat) : Prop := a ∈ resolvedDependencies tasks b

instance (tasks : List PlanTaskNode) (b a : Nat) : Decidable (DependsOn tasks b a) :=
  inferInstanceAs (Decidable (a ∈ resolvedDependencies tasks b))

/-- What a task waits for: the tasks that it names, or every task of an earlier phase if it
names none. -/
def waitedFor (tasks : List PlanTaskNode) (task : PlanTaskNode) : Finset Nat :=
  if task.explicitDependencies = [] then
    ((tasks.filter (·.phase < task.phase)).map (·.number)).toFinset
  else task.explicitDependencies.toFinset

/-- Task number `b` of the plan waits for task number `a`. -/
def WaitsFor (tasks : List PlanTaskNode) (b a : Nat) : Prop :=
  ∃ task ∈ tasks, task.number = b ∧ a ∈ waitedFor tasks task

/-- No task waits for itself, directly or through others. -/
def Acyclic (tasks : List PlanTaskNode) : Prop :=
  ∀ number, ¬ Relation.TransGen (WaitsFor tasks) number number

/-- A schedule of the tasks of a plan. -/
structure Schedules (tasks : List PlanTaskNode) (layers : List (List Nat)) : Prop where
  /-- Every number stands in exactly one layer, once. -/
  partition : layers.flatten.Perm (tasks.map (·.number))
  nonempty : ∀ layer ∈ layers, layer ≠ []
  ascending : ∀ layer ∈ layers, layer.Pairwise (· < ·)
  /-- What a task waits for stands in earlier layers. -/
  ordered : ∀ task ∈ tasks, ∀ dep ∈ waitedFor tasks task,
    layerIndex layers dep < layerIndex layers task.number
  /-- Each task stands right after the last that it waits for, in the first layer if there
  is none. -/
  earliest : ∀ task ∈ tasks,
    layerIndex layers task.number = (waitedFor tasks task).sup fun dep => layerIndex layers dep + 1

section Schedule

variable {tasks : List PlanTaskNode}

theorem layerIndex_map_sort (rounds : List (Finset Nat)) (number : Nat) :
    layerIndex (rounds.map (·.sort (· ≤ ·))) number = Layering.indexIn rounds number := by
  rw [layerIndex, Layering.indexIn, List.findIdx_map]
  congr 1
  funext layer
  simp

theorem layerIndex_computeExecutionLayers (tasks : List PlanTaskNode) (number : Nat) :
    layerIndex (computeExecutionLayers tasks) number =
      Layering.indexIn
        (Layering.layers (resolvedDependencies tasks) (tasks.map (·.number)).toFinset) number := by
  rw [computeExecutionLayers_eq, layerIndex_map_sort]

theorem drainLayers_of_le {fuel : Nat} (enough : tasks.length ≤ fuel) :
    drainLayers (buildResolvedDependencies tasks) fuel (tasks.map (·.number)).dedup =
      computeExecutionLayers tasks := by
  have short : (tasks.map (·.number)).dedup.length ≤ fuel :=
    calc (tasks.map (·.number)).dedup.length ≤ (tasks.map (·.number)).length :=
          (List.dedup_sublist _).length_le
      _ = tasks.length := List.length_map _
      _ ≤ fuel := enough
  have same : (tasks.map (·.number)).dedup.toFinset = (tasks.map (·.number)).toFinset := by
    ext n
    simp
  rw [drainLayers_eq _ (List.nodup_dedup _) short, same, computeExecutionLayers_eq]
  rfl

theorem resolvedDependencies_eq (plan : WellFormedPlan tasks) {task : PlanTaskNode}
    (inside : task ∈ tasks) : resolvedDependencies tasks task.number = waitedFor tasks task := by
  ext dep
  rw [mem_resolvedDependencies plan.distinct inside, waitedFor]
  split
  · simp [and_assoc]
  · simp

theorem waitedFor_subset (plan : WellFormedPlan tasks) {task : PlanTaskNode}
    (inside : task ∈ tasks) : waitedFor tasks task ⊆ (tasks.map (·.number)).toFinset := by
  intro dep among
  rw [List.mem_toFinset]
  rw [waitedFor] at among
  split at among
  · obtain ⟨other, earlier, rfl⟩ := List.mem_map.mp (List.mem_toFinset.mp among)
    exact List.mem_map_of_mem (List.mem_of_mem_filter earlier)
  · exact plan.known task inside dep (List.mem_toFinset.mp among)

theorem Acyclic.not_loopsIn (plan : WellFormedPlan tasks) (acyclic : Acyclic tasks)
    (number : Nat) :
    ¬ Layering.LoopsIn (resolvedDependencies tasks) (tasks.map (·.number)).toFinset number := by
  rintro ⟨c, -, cycle⟩
  refine acyclic c (Relation.TransGen.mono ?_ c c cycle)
  rintro b a ⟨among, known, -⟩
  obtain ⟨task, inside, rfl⟩ := List.mem_map.mp (List.mem_toFinset.mp known)
  exact ⟨task, inside, rfl, resolvedDependencies_eq plan inside ▸ among⟩

/-- Without cycles the layers are a schedule, and the loop that computes them ends. -/
theorem computeExecutionLayers_schedule (plan : WellFormedPlan tasks) (acyclic : Acyclic tasks) :
    (∀ fuel, tasks.length ≤ fuel →
      drainLayers (buildResolvedDependencies tasks) fuel (tasks.map (·.number)).dedup =
        computeExecutionLayers tasks) ∧
    Schedules tasks (computeExecutionLayers tasks) := by
  have earliest : ∀ task ∈ tasks,
      layerIndex (computeExecutionLayers tasks) task.number =
        (waitedFor tasks task).sup
          fun dep => layerIndex (computeExecutionLayers tasks) dep + 1 := by
    intro task inside
    have known : task.number ∈ (tasks.map (·.number)).toFinset :=
      List.mem_toFinset.mpr (List.mem_map_of_mem inside)
    have within : resolvedDependencies tasks task.number ∩ (tasks.map (·.number)).toFinset =
        waitedFor tasks task := by
      rw [resolvedDependencies_eq plan inside]
      exact Finset.inter_eq_left.mpr (waitedFor_subset plan inside)
    have position := Layering.indexIn_eq_sup (acyclic.not_loopsIn plan) known
    rw [within] at position
    simp only [layerIndex_computeExecutionLayers]
    exact position
  refine ⟨fun fuel enough => drainLayers_of_le enough, ?_, ?_, ?_, ?_, earliest⟩
  · rw [computeExecutionLayers_eq]
    refine Layering.flatten_sort_perm.trans ?_
    exact (Finset.sort_perm_toList _ _).trans (List.toFinset_toList plan.distinct)
  · intro layer inside
    rw [computeExecutionLayers_eq] at inside
    obtain ⟨round, inRounds, rfl⟩ := List.mem_map.mp inside
    obtain ⟨number, inRound⟩ := Layering.nonempty_of_mem_layers inRounds
    exact List.ne_nil_of_mem ((Finset.mem_sort _).mpr inRound)
  · intro layer inside
    rw [computeExecutionLayers_eq] at inside
    obtain ⟨round, -, rfl⟩ := List.mem_map.mp inside
    exact (Finset.sortedLT_sort round).pairwise
  · intro task inside dep among
    rw [earliest task inside]
    exact Finset.le_sup (f := fun dep => layerIndex (computeExecutionLayers tasks) dep + 1) among

end Schedule

/-- A plan of two phases, with one explicit dependency in the second. -/
def phasedTasks : List PlanTaskNode :=
  [⟨1, "schema", 1, [], false⟩, ⟨2, "routes", 2, [], false⟩, ⟨3, "pages", 2, [2], false⟩]

theorem acyclic_phasedTasks : Acyclic phasedTasks := by
  have descends : ∀ b a, WaitsFor phasedTasks b a → b > a := by
    rintro b a ⟨task, inside, rfl, among⟩
    simp only [phasedTasks, List.mem_cons, List.not_mem_nil, or_false] at inside
    rcases inside with rfl | rfl | rfl
    · simp [waitedFor, phasedTasks] at among
    · simp_all [waitedFor, phasedTasks]
    · simp_all [waitedFor]
  intro number cycle
  exact lt_irrefl number (Relation.transGen_minimal descends number number cycle)

theorem computeExecutionLayers_schedule_phased :
    Schedules phasedTasks (computeExecutionLayers phasedTasks) ∧
      computeExecutionLayers phasedTasks = [[1], [2], [3]] :=
  ⟨(computeExecutionLayers_schedule ⟨by decide, by decide⟩ acyclic_phasedTasks).2, by decide⟩

/-! ### Cycles -/

/-- From task `a` dependencies lead into a cycle, through tasks from `b` upwards only. -/
def LoopsFrom (tasks : List PlanTaskNode) (b a : Nat) : Prop :=
  Layering.LoopsIn (resolvedDependencies tasks)
    ((tasks.map (·.number)).toFinset.filter (b ≤ ·)) a

/-- A task stands after a dependency exactly if that dependency leads into no cycle
among the tasks from it upwards. -/
theorem dependency_before_iff (tasks : List PlanTaskNode) {a b : Nat}
    (known : b ∈ tasks.map (·.number)) (known' : a ∈ tasks.map (·.number))
    (depends : DependsOn tasks b a) :
    layerIndex (computeExecutionLayers tasks) a < layerIndex (computeExecutionLayers tasks) b ↔
      ¬ LoopsFrom tasks b a := by
  rw [layerIndex_computeExecutionLayers, layerIndex_computeExecutionLayers]
  exact Layering.indexIn_lt_iff (List.mem_toFinset.mpr known) (List.mem_toFinset.mpr known') depends

/-- The second and third task wait for each other, the first for the second. -/
def downstreamTasks : List PlanTaskNode :=
  [⟨1, "pages", 0, [2], false⟩, ⟨2, "schema", 0, [3], false⟩, ⟨3, "routes", 0, [2], false⟩]

theorem dependency_before_iff_downstream :
    layerIndex (computeExecutionLayers downstreamTasks) 2 <
        layerIndex (computeExecutionLayers downstreamTasks) 3 ∧ ¬ LoopsFrom downstreamTasks 3 2 := by
  have before : layerIndex (computeExecutionLayers downstreamTasks) 2 <
      layerIndex (computeExecutionLayers downstreamTasks) 3 := by decide
  exact ⟨before,
    (dependency_before_iff downstreamTasks (by decide) (by decide) (by decide)).mp before⟩

/-- The first task is drained first, and so before the second: the fallback breaks a
dependency that is on no cycle. -/
theorem downstream_drained_first :
    ¬ ∀ (tasks : List PlanTaskNode) (a b : Nat), b ∈ tasks.map (·.number) →
      a ∈ tasks.map (·.number) → DependsOn tasks b a →
      ¬ Relation.TransGen (DependsOn tasks) a b →
      layerIndex (computeExecutionLayers tasks) a < layerIndex (computeExecutionLayers tasks) b := by
  intro keeps
  have onCycle : ∀ a, Relation.TransGen (DependsOn downstreamTasks) 2 a → a = 2 ∨ a = 3 := by
    intro a path
    have next : ∀ b, b = 2 ∨ b = 3 → ∀ a, DependsOn downstreamTasks b a → a = 2 ∨ a = 3 := by
      rintro b (rfl | rfl) a depends
      · exact .inr (Finset.mem_singleton.mp depends)
      · exact .inl (Finset.mem_singleton.mp depends)
    induction path with
    | single edge => exact next 2 (.inl rfl) _ edge
    | tail _ edge ih => exact next _ ih _ edge
  have apart : ¬ Relation.TransGen (DependsOn downstreamTasks) 2 1 := by
    intro path
    rcases onCycle 1 path with two | three
    · cases two
    · cases three
  have before := keeps downstreamTasks 2 1 (by decide) (by decide) (by decide) apart
  exact absurd before (by decide)

end AifHandoff.Agent
