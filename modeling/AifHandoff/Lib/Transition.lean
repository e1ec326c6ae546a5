import Mathlib.Logic.Basic

/-!
Labelled transition systems and their guarded runs.

A `System` has initial states and a labelled step relation. `Reaches S ok s`
says that some finite run from an initial state ends in `s` and that every step
of the run was taken in a state where `ok` admits its label; `Reachable` puts no
condition on the steps.
-/

namespace AifHandoff.Transition

universe u v

/-- A labelled transition system. -/
structure System (σ : Type u) (ι : Type v) where
  init : σ → Prop
  step : σ → ι → σ → Prop

variable {σ : Type u} {ι : Type v}

/-- The deterministic system of a step function. -/
def System.ofFun (init : σ → Prop) (exec : σ → ι → σ) : System σ ι :=
  ⟨init, fun s i s' => s' = exec s i⟩

/-- `s` is reached by a run each of whose steps `ok` admits in the state it is
taken in. -/
inductive Reaches (S : System σ ι) (ok : σ → ι → Prop) : σ → Prop where
  | init {s : σ} : S.init s → Reaches S ok s
  | step {s s' : σ} {i : ι} : Reaches S ok s → ok s i → S.step s i s' → Reaches S ok s'

/-- Reached by some run, whatever its steps. -/
abbrev Reachable (S : System σ ι) (s : σ) : Prop := Reaches S (fun _ _ => True) s

variable {S : System σ ι} {ok ok' : σ → ι → Prop}

/-- The invariant rule: initial states satisfy `Inv` and admitted steps keep it. -/
theorem Reaches.invariant {Inv : σ → Prop} (start : ∀ s, S.init s → Inv s)
    (keep : ∀ s i s', Inv s → ok s i → S.step s i s' → Inv s') {s : σ}
    (reached : Reaches S ok s) : Inv s := by
  induction reached with
  | init h => exact start _ h
  | step _ admits next ih => exact keep _ _ _ ih admits next

theorem Reaches.mono (weaker : ∀ s i, ok s i → ok' s i) {s : σ} (reached : Reaches S ok s) :
    Reaches S ok' s := by
  induction reached with
  | init h => exact .init h
  | step _ admits next ih => exact .step ih (weaker _ _ admits) next

/-- Every label of the list passes the check in the state it is executed in. -/
def passes (check : σ → ι → Bool) (exec : σ → ι → σ) : σ → List ι → Bool
  | _, [] => true
  | s, i :: is => check s i && passes check exec (exec s i) is

/-- Executing labels whose checks pass is a run, when the check implies the step. -/
theorem reaches_runs (check : σ → ι → Bool) (exec : σ → ι → σ)
    (sound : ∀ s i, check s i = true → ok s i ∧ S.step s i (exec s i)) {s : σ} {is : List ι}
    (reached : Reaches S ok s) (checked : passes check exec s is = true) :
    Reaches S ok (is.foldl exec s) := by
  induction is generalizing s with
  | nil => exact reached
  | cons i is ih =>
    obtain ⟨first, rest⟩ := (Bool.and_eq_true _ _).mp checked
    obtain ⟨admits, next⟩ := sound s i first
    exact ih (.step reached admits next) rest

/-- Every step of the run satisfies `P` in the state it is taken in. -/
def Along (P : σ → ι → Prop) (exec : σ → ι → σ) : σ → List ι → Prop
  | _, [] => True
  | s, i :: is => P s i ∧ Along P exec (exec s i) is

instance Along.decidable {P : σ → ι → Prop} [∀ s i, Decidable (P s i)] (exec : σ → ι → σ) :
    (s : σ) → (is : List ι) → Decidable (Along P exec s is)
  | _, [] => .isTrue trivial
  | s, i :: is =>
    have rest : Decidable (Along P exec (exec s i) is) := Along.decidable exec (exec s i) is
    inferInstanceAs (Decidable (P s i ∧ Along P exec (exec s i) is))

theorem along_congr {P Q R : σ → ι → Prop} {exec : σ → ι → σ} {Inv : σ → Prop}
    (keep : ∀ s i, Inv s → R s i → Inv (exec s i))
    (agree : ∀ s i, Inv s → R s i → (P s i ↔ Q s i)) {s : σ} {is : List ι} (start : Inv s)
    (along : Along R exec s is) : Along P exec s is ↔ Along Q exec s is := by
  induction is generalizing s with
  | nil => exact Iff.rfl
  | cons i is ih =>
    obtain ⟨first, rest⟩ := along
    exact and_congr (agree s i start first) (ih (keep s i start first) rest)

section Ranks

/-- How many steps of the run change the state. -/
def changes [DecidableEq σ] (exec : σ → ι → σ) : σ → List ι → Nat
  | _, [] => 0
  | s, i :: is => (if exec s i = s then 0 else 1) + changes exec (exec s i) is

variable {exec : σ → ι → σ} (rank : σ → Nat)
  (lowers : ∀ s i, exec s i = s ∨ rank (exec s i) < rank s)
include lowers

theorem changes_add_rank_le [DecidableEq σ] (s : σ) (is : List ι) :
    changes exec s is + rank (is.foldl exec s) ≤ rank s := by
  induction is generalizing s with
  | nil => exact Nat.le_of_eq (Nat.zero_add _)
  | cons i is ih =>
    have later := ih (exec s i)
    rw [changes, List.foldl_cons]
    rcases lowers s i with same | less
    · rw [if_pos same, Nat.zero_add]
      rwa [same] at later ⊢
    · split <;> omega

theorem foldl_eq_of_rank_zero {s : σ} (zero : rank s = 0) (is : List ι) : is.foldl exec s = s := by
  refine List.foldlRecOn (motive := (· = s)) is exec rfl fun _ same i _ => ?_
  rw [same]
  exact (lowers s i).resolve_right fun less => Nat.not_lt_zero _ (zero ▸ less)

end Ranks

end AifHandoff.Transition
