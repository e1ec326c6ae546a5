import Mathlib.Data.List.Flatten
import Mathlib.Data.List.Infix
import Mathlib.Data.List.Perm.Basic
import Mathlib.Logic.Function.Basic

/-!
Appends to a shared value in two steps: a writer reads the whole value and later writes
the whole value with its item at the end.

Between the two steps of one writer the others take theirs. A run is a list of steps in
the order in which they happen; a writer is inside at most one append at a time.
-/

namespace AifHandoff.ReadModifyWrite

universe u v w

/-- One of the two steps of an append. -/
inductive Event (ι : Type u) (α : Type v) where
  | read (writer : ι) (item : α)
  | write (writer : ι) (item : α)

variable {ι : Type u} {α : Type v} {σ : Type w} {β : Type*}

def Event.writer : Event ι α → ι
  | .read writer _ => writer
  | .write writer _ => writer

def Event.isRead : Event ι α → Bool
  | .read .. => true
  | .write .. => false

/-- The shared value, and for each writer inside an append its item and the copy it read. -/
structure State (ι : Type u) (α : Type v) (σ : Type w) where
  stored : σ
  held : ι → Option (α × σ)

/-- The appends that have begun, in the order of their reads. -/
def started (events : List (Event ι α)) : List (ι × α) :=
  events.filterMap fun
    | .read writer item => some (writer, item)
    | .write .. => none

/-- The appends that have ended, in the order of their writes. -/
def written (events : List (Event ι α)) : List (ι × α) :=
  events.filterMap fun
    | .read .. => none
    | .write writer item => some (writer, item)

variable {events between : List (Event ι α)} {writer : ι} {item : α}

theorem started_concat_read :
    started (events ++ [.read writer item]) = started events ++ [(writer, item)] := by
  simp [started]

theorem started_concat_write : started (events ++ [.write writer item]) = started events := by
  simp [started]

theorem written_append (before events : List (Event ι α)) :
    written (before ++ events) = written before ++ written events := List.filterMap_append

theorem written_concat_read : written (events ++ [.read writer item]) = written events := by
  simp [written]

theorem written_concat_write :
    written (events ++ [.write writer item]) = written events ++ [(writer, item)] := by
  simp [written]

theorem written_eq_nil_iff : written events = [] ↔ ∀ e ∈ events, e.isRead = true := by
  rw [written, List.filterMap_eq_nil_iff]
  refine forall₂_congr fun e _ => ?_
  cases e <;> simp [Event.isRead]

section Whole

variable {contents : σ → List β} {items : α → List β} {start : State ι α σ}
  {before : List (Event ι α)}

/-- What the value would hold if nothing were ever lost. -/
def whole (contents : σ → List β) (items : α → List β) (start : State ι α σ)
    (events : List (Event ι α)) : List β :=
  contents start.stored ++ (written events).flatMap fun call => items call.2

theorem whole_append :
    whole contents items start (before ++ between) =
      whole contents items start before ++
        (written between).flatMap fun call => items call.2 := by
  rw [whole, written_append, List.flatMap_append, ← List.append_assoc, whole]

end Whole

section Disturbance

variable [DecidableEq ι] {before : List (Event ι α)}

/-- The events after the last one of a writer, the latest first. -/
def since (writer : ι) (events : List (Event ι α)) : List (Event ι α) :=
  events.reverse.takeWhile fun e => e.writer ≠ writer

/-- No write falls between the read and the write of an append. -/
def Undisturbed (events : List (Event ι α)) : Prop :=
  ∀ before writer item, before ++ [.write writer item] <+: events →
    ∀ e ∈ since writer before, e.isRead = true

theorem since_of_split (others : ∀ e ∈ between, e.writer ≠ writer) :
    since writer (before ++ .read writer item :: between) = between.reverse := by
  rw [since, List.reverse_append, List.reverse_cons, List.append_assoc,
    List.takeWhile_append_of_pos (by simpa using others)]
  simp [Event.writer]

theorem undisturbed_concat {e : Event ι α} : Undisturbed (events ++ [e]) ↔
    Undisturbed events ∧
      ∀ writer item, e = .write writer item → ∀ e' ∈ since writer events, e'.isRead = true := by
  constructor
  · intro whole
    refine ⟨fun before writer item inside => ?_, ?_⟩
    · exact whole before writer item (inside.trans (List.prefix_append _ _))
    · rintro writer item rfl
      exact whole events writer item (List.prefix_refl _)
  · rintro ⟨early, last⟩ before writer item inside
    rcases List.prefix_concat_iff.mp inside with whole | inside
    · obtain ⟨rfl, same⟩ := List.append_inj' whole rfl
      exact last writer item (List.singleton_inj.mp same).symm
    · exact early before writer item inside

theorem undisturbed_append_reads (reads : written between = []) :
    Undisturbed (events ++ between) ↔ Undisturbed events := by
  induction between using List.reverseRecOn with
  | nil => rw [List.append_nil]
  | append_singleton between e ih =>
    rw [written_append, List.append_eq_nil_iff] at reads
    rw [← List.append_assoc, undisturbed_concat, ih reads.1]
    refine and_iff_left ?_
    rintro writer item rfl
    cases reads.2

end Disturbance

section Run

variable [DecidableEq ι] [DecidableEq α]

/-- One step, `none` where the writer is not at it. -/
def step (append : σ → α → σ) (s : State ι α σ) : Event ι α → Option (State ι α σ)
  | .read writer item =>
    match s.held writer with
    | none => some { s with held := Function.update s.held writer (some (item, s.stored)) }
    | some _ => none
  | .write writer item =>
    match s.held writer with
    | none => none
    | some (held, copy) =>
      if held = item then some ⟨append copy item, Function.update s.held writer none⟩
      else none

def run (append : σ → α → σ) (s : State ι α σ) (events : List (Event ι α)) :
    Option (State ι α σ) :=
  events.foldlM (step append) s

variable {append : σ → α → σ} {start s s' : State ι α σ} {before : List (Event ι α)}
  {contents : σ → List β} {items : α → List β}

theorem step_read (next : step append s (.read writer item) = some s') :
    s.held writer = none ∧
      s' = ⟨s.stored, Function.update s.held writer (some (item, s.stored))⟩ := by
  rw [step] at next
  cases busy : s.held writer with
  | none =>
    rw [busy] at next
    exact ⟨rfl, (Option.some.inj next).symm⟩
  | some _ =>
    rw [busy] at next
    cases next

theorem step_write (next : step append s (.write writer item) = some s') :
    ∃ copy, s.held writer = some (item, copy) ∧
      s' = ⟨append copy item, Function.update s.held writer none⟩ := by
  rw [step] at next
  cases busy : s.held writer with
  | none =>
    rw [busy] at next
    cases next
  | some entry =>
    obtain ⟨held, copy⟩ := entry
    rw [busy] at next
    simp only at next
    split at next
    · rename_i same
      exact ⟨copy, by rw [same], (Option.some.inj next).symm⟩
    · cases next

theorem run_concat {e : Event ι α} (ran : run append start (events ++ [e]) = some s') :
    ∃ s, run append start events = some s ∧ step append s e = some s' := by
  rw [run, List.foldlM_append] at ran
  obtain ⟨s, early, last⟩ := Option.bind_eq_some_iff.mp ran
  exact ⟨s, early, by simpa using last⟩

/-- What a writer inside an append holds: the value as it was at its read, after which it
has taken no step. -/
theorem read_of_held (idle : ∀ writer, start.held writer = none)
    (ran : run append start events = some s) {copy : σ}
    (inside : s.held writer = some (item, copy)) :
    ∃ before between s₀, events = before ++ .read writer item :: between ∧
      (∀ e ∈ between, e.writer ≠ writer) ∧ run append start before = some s₀ ∧
      s₀.stored = copy := by
  induction events using List.reverseRecOn generalizing s with
  | nil =>
    obtain rfl : start = s := Option.some.inj ran
    rw [idle] at inside
    cases inside
  | append_singleton events e ih =>
    obtain ⟨s₁, early, last⟩ := run_concat ran
    -- a step of another writer only lengthens what lies between
    have later (other : e.writer ≠ writer) (same : s.held writer = s₁.held writer) :
        ∃ before between s₀, events ++ [e] = before ++ .read writer item :: between ∧
          (∀ e ∈ between, e.writer ≠ writer) ∧ run append start before = some s₀ ∧
          s₀.stored = copy := by
      obtain ⟨before, between, s₀, split, others, ran₀, isCopy⟩ := ih early (same ▸ inside)
      refine ⟨before, between ++ [e], s₀, by simp [split], ?_, ran₀, isCopy⟩
      intro e' among
      rcases List.mem_append.mp among with old | new
      · exact others e' old
      · rwa [List.mem_singleton.mp new]
    cases e with
    | read writer' item' =>
      obtain ⟨_, rfl⟩ := step_read last
      by_cases same : writer = writer'
      · subst same
        simp only [Function.update_self] at inside
        obtain ⟨rfl, rfl⟩ := Prod.mk.inj (Option.some.inj inside)
        exact ⟨events, [], s₁, rfl, by simp, early, rfl⟩
      · exact later (Ne.symm same) (Function.update_of_ne same _ _)
    | write writer' item' =>
      obtain ⟨_, _, rfl⟩ := step_write last
      by_cases same : writer = writer'
      · subst same
        simp only [Function.update_self] at inside
        cases inside
      · exact later (Ne.symm same) (Function.update_of_ne same _ _)

/-- A write behind other writes leaves less than the whole, any other write exactly the
whole, provided that the copy was the whole at its time. -/
theorem contents_cases (appends : ∀ s a, contents (append s a) = contents s ++ items a)
    (someItems : ∀ a, items a ≠ []) (idle : ∀ writer, start.held writer = none)
    (ran : run append start events = some s) :
    (Undisturbed events → contents s.stored = whole contents items start events) ∧
      (¬ Undisturbed events →
        (contents s.stored).length < (whole contents items start events).length) := by
  induction measured : events.length using Nat.strong_induction_on generalizing events s with
  | _ n ih =>
  cases events using List.reverseRecOn with
  | nil =>
    obtain rfl : start = s := Option.some.inj ran
    refine ⟨fun _ => by simp [whole, written], fun disturbed => absurd ?_ disturbed⟩
    intro before writer item inside
    simp at inside
  | append_singleton events e =>
  subst measured
  obtain ⟨s₁, early, last⟩ := run_concat ran
  cases e with
  | read writer item =>
    obtain ⟨_, rfl⟩ := step_read last
    have reads : written [Event.read writer item] = [] := rfl
    rw [undisturbed_append_reads reads, whole_append, reads, List.flatMap_nil, List.append_nil]
    have kept := ih events.length (by simp) early rfl
    exact kept
  | write writer item =>
    obtain ⟨copy, inside, rfl⟩ := step_write last
    obtain ⟨before, between, s₀, rfl, others, ran₀, rfl⟩ := read_of_held idle early inside
    obtain ⟨exact₀, less₀⟩ := ih before.length (by simp) ran₀ rfl
    have fresh : Undisturbed (before ++ .read writer item :: between ++ [.write writer item]) ↔
        Undisturbed (before ++ .read writer item :: between) ∧ written between = [] := by
      rw [undisturbed_concat, written_eq_nil_iff]
      refine and_congr_right fun _ => ⟨fun reads e among => ?_, ?_⟩
      · exact reads writer item rfl e (by simpa [since_of_split others] using among)
      · rintro reads _ _ ⟨⟩ e among
        exact reads e (by simpa [since_of_split others] using among)
    have lines : whole contents items start
          (before ++ .read writer item :: between ++ [.write writer item]) =
        whole contents items start before ++
          ((written between).flatMap fun call => items call.2) ++ items item := by
      rw [whole_append, whole_append]
      simp [written]
    rw [fresh, lines]
    simp only [appends]
    cases others' : written between with
    | nil =>
      have reads : written (.read writer item :: between) = [] := by
        rw [← others']
        rfl
      rw [undisturbed_append_reads reads]
      refine ⟨fun calm => by simp [exact₀ calm.1], fun disturbed => ?_⟩
      have less := less₀ fun calm => disturbed ⟨calm, rfl⟩
      simp only [List.flatMap_nil, List.append_nil, List.length_append]
      omega
    | cons call rest =>
      refine ⟨fun calm => (List.cons_ne_nil _ _ calm.2).elim, fun _ => ?_⟩
      have atMost : (contents s₀.stored).length ≤
          (whole contents items start before).length := by
        by_cases calm : Undisturbed before
        · rw [exact₀ calm]
        · exact (less₀ calm).le
      have lost := List.length_pos_of_ne_nil (someItems call.2)
      simp only [List.flatMap_cons, List.length_append]
      omega

theorem contents_of_undisturbed (appends : ∀ s a, contents (append s a) = contents s ++ items a)
    (someItems : ∀ a, items a ≠ []) (idle : ∀ writer, start.held writer = none)
    (ran : run append start events = some s) (calm : Undisturbed events) :
    contents s.stored = whole contents items start events :=
  (contents_cases appends someItems idle ran).1 calm

theorem length_lt_of_disturbed (appends : ∀ s a, contents (append s a) = contents s ++ items a)
    (someItems : ∀ a, items a ≠ []) (idle : ∀ writer, start.held writer = none)
    (ran : run append start events = some s) (disturbed : ¬ Undisturbed events) :
    (contents s.stored).length < (whole contents items start events).length :=
  (contents_cases appends someItems idle ran).2 disturbed

/-- A writer has begun what it has ended, and the append it is inside. -/
theorem started_of_writer (idle : ∀ writer, start.held writer = none)
    (ran : run append start events = some s) (writer : ι) :
    (started events).filter (·.1 = writer) =
      (written events).filter (·.1 = writer) ++
        ((s.held writer).map fun held => (writer, held.1)).toList := by
  induction events using List.reverseRecOn generalizing s with
  | nil =>
    obtain rfl : start = s := Option.some.inj ran
    simp [started, written, idle]
  | append_singleton events e ih =>
    obtain ⟨s₁, early, last⟩ := run_concat ran
    cases e with
    | read writer' item =>
      obtain ⟨free, rfl⟩ := step_read last
      rw [started_concat_read, written_concat_read, List.filter_append, ih early]
      by_cases same : writer = writer'
      · subst same
        simp [free]
      · simp [Function.update_of_ne same, Ne.symm same]
    | write writer' item =>
      obtain ⟨copy, inside, rfl⟩ := step_write last
      rw [started_concat_write, written_concat_write, List.filter_append, ih early]
      by_cases same : writer = writer'
      · subst same
        simp [inside]
      · simp [Function.update_of_ne same, Ne.symm same]

/-- Once no writer is inside an append, the appends that have begun are those that have
ended. -/
theorem started_perm_written (idle : ∀ writer, start.held writer = none)
    (ran : run append start events = some s) (finished : ∀ writer, s.held writer = none) :
    (started events).Perm (written events) := by
  refine List.perm_iff_count.mpr fun call => ?_
  have own := started_of_writer idle ran call.1
  rw [finished, Option.map_none, Option.toList_none, List.append_nil] at own
  have counted := congrArg (List.count call) own
  rwa [List.count_filter (by simp), List.count_filter (by simp)] at counted

theorem perm_iff_undisturbed
    (appends : ∀ s a, contents (append s a) = contents s ++ items a)
    (someItems : ∀ a, items a ≠ []) (idle : ∀ writer, start.held writer = none)
    (ran : run append start events = some s) (finished : ∀ writer, s.held writer = none) :
    (contents s.stored).Perm
        (contents start.stored ++ (started events).flatMap fun call => items call.2) ↔
      Undisturbed events := by
  have sameCalls : (whole contents items start events).Perm
      (contents start.stored ++ (started events).flatMap fun call => items call.2) :=
    ((started_perm_written idle ran finished).symm.flatMap_right _).append_left _
  constructor
  · intro kept
    by_contra disturbed
    have less := length_lt_of_disturbed appends someItems idle ran disturbed
    have same := kept.length_eq
    rw [← sameCalls.length_eq] at same
    omega
  · intro calm
    rw [contents_of_undisturbed appends someItems idle ran calm]
    exact sameCalls

end Run

end AifHandoff.ReadModifyWrite
