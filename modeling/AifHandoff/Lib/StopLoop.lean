import Mathlib.Data.List.Basic

/-!
Loops over a list that a step may leave.

A step gives the next state and, where it leaves the loop, the end it leaves with.
-/

namespace AifHandoff.StopLoop

universe u v w

variable {σ : Type u} {α : Type v} {ε : Type w}

def run (step : σ → α → σ × Option ε) : σ → List α → σ × Option ε
  | s, [] => (s, none)
  | s, a :: rest =>
    match step s a with
    | (s, none) => run step s rest
    | (s, some left) => (s, some left)

/-- `going` holds where a loop goes on, `left` where it was left. -/
structure Leads (going left : σ → Prop) (outcome : σ × Option ε) : Prop where
  going : outcome.2 = none → going outcome.1
  left : outcome.2 ≠ none → left outcome.1

variable {step : σ → α → σ × Option ε} {s : σ} {a : α} {xs ys : List α}

@[simp] theorem run_nil : run step s [] = (s, none) := rfl

theorem run_cons_of_none (goes : (step s a).2 = none) :
    run step s (a :: xs) = run step (step s a).1 xs := by
  rw [run]
  cases stepped : step s a with
  | mk s' outcome =>
    rw [stepped] at goes
    cases goes
    rfl

theorem run_cons_of_some {left : ε} (leaves : (step s a).2 = some left) :
    run step s (a :: xs) = step s a := by
  rw [run]
  cases stepped : step s a with
  | mk s' outcome =>
    rw [stepped] at leaves
    cases leaves
    rfl

theorem run_leads (going : List α → σ → Prop) (left : σ → Prop) {done : List α}
    (start : going done s)
    (kept : ∀ before a s, before ++ [a] <+: done ++ xs → going before s →
      Leads (going (before ++ [a])) left (step s a)) :
    Leads (going (done ++ xs)) left (run step s xs) := by
  induction xs generalizing s done with
  | nil =>
    rw [List.append_nil, run_nil]
    exact ⟨fun _ => start, fun leaves => absurd rfl leaves⟩
  | cons a xs ih =>
    have next := kept done a s ⟨xs, by simp⟩ start
    cases outcome : (step s a).2 with
    | none =>
      have later := ih (next.going outcome) fun before b s' inside =>
        kept before b s' (by simpa using inside)
      rw [run_cons_of_none outcome]
      simpa using later
    | some end_ =>
      have leaves : (step s a).2 ≠ none := by simp [outcome]
      rw [run_cons_of_some outcome]
      exact ⟨fun goes => absurd goes leaves, fun _ => next.left leaves⟩

/-- The rule for an invariant that does not count the elements. -/
theorem run_rule (going left : σ → Prop) (start : going s)
    (kept : ∀ a s, a ∈ xs → going s → Leads going left (step s a)) :
    Leads going left (run step s xs) := by
  induction xs generalizing s with
  | nil => exact ⟨fun _ => start, fun leaves => absurd rfl leaves⟩
  | cons a xs ih =>
    have next := kept a s List.mem_cons_self start
    cases outcome : (step s a).2 with
    | none =>
      rw [run_cons_of_none outcome]
      exact ih (next.going outcome) fun b s' inside => kept b s' (List.mem_cons_of_mem a inside)
    | some end_ =>
      rw [run_cons_of_some outcome]
      exact next

/-- What every step keeps, whether it leaves the loop or not, a loop keeps. -/
theorem run_keeps (holds : σ → Prop) (start : holds s)
    (kept : ∀ a s, a ∈ xs → holds s → holds (step s a).1) : holds (run step s xs).1 := by
  induction xs generalizing s with
  | nil => exact start
  | cons a xs ih =>
    have next : holds (step s a).1 := kept a s List.mem_cons_self start
    cases outcome : (step s a).2 with
    | none =>
      rw [run_cons_of_none outcome]
      exact ih next fun b s' inside => kept b s' (List.mem_cons_of_mem a inside)
    | some left =>
      rw [run_cons_of_some outcome]
      exact next

theorem Leads.of_both {going left : σ → Prop} {outcome : σ × Option ε}
    (goes : going outcome.1) (leaves : left outcome.1) : Leads going left outcome :=
  ⟨fun _ => goes, fun _ => leaves⟩

end AifHandoff.StopLoop
