import Mathlib.Data.Int.Cast.Basic
import Mathlib.Data.List.Perm.Subperm

/-!
Parent links that carry labels.

A node knows its parent only. Labels for the depth and for the root are cached
beside the links; `Labelling` says that they are right locally, link by link. From
that the links form a forest, the depth is the distance to the topmost ancestor,
and the root label names it.
-/

namespace AifHandoff.Forest

universe u

variable {ι : Type u}

/-- `Above parent x n a`: `n` parent links lead from `x` to `a`. -/
inductive Above (parent : ι → Option ι) : ι → Nat → ι → Prop where
  | self (x : ι) : Above parent x 0 x
  | link {x p a : ι} {n : Nat} : parent x = some p → Above parent p n a →
      Above parent x (n + 1) a

/-- `a` is the topmost ancestor of `x`, at distance `n`. -/
def Topmost (parent : ι → Option ι) (x : ι) (n : Nat) (a : ι) : Prop :=
  Above parent x n a ∧ parent a = none

/-- No node is its own proper ancestor. -/
def Acyclic (parent : ι → Option ι) : Prop := ∀ x n, ¬ Above parent x (n + 1) x

/-- Labels that are right link by link, on the nodes of `dom`. -/
structure Labelling (parent : ι → Option ι) (dom : ι → Prop) (depth : ι → Int)
    (root : ι → Option ι) : Prop where
  inside : ∀ {x p}, parent x = some p → dom x ∧ dom p
  nonneg : ∀ {x}, dom x → 0 ≤ depth x
  top : ∀ {x}, dom x → parent x = none → depth x = 0 ∧ root x = none
  link : ∀ {x p}, parent x = some p → depth x = depth p + 1 ∧ root x = some ((root p).getD p)

section Labels

variable {parent : ι → Option ι} {dom : ι → Prop} {depth : ι → Int} {root : ι → Option ι}
  {x a b : ι} {n m : Nat}

theorem Topmost.unique (first : Topmost parent x n a) (second : Topmost parent x m b) :
    n = m ∧ a = b := by
  obtain ⟨path, top⟩ := first
  induction path generalizing m with
  | self x =>
    obtain ⟨path', -⟩ := second
    cases path' with
    | self => exact ⟨rfl, rfl⟩
    | link toParent => rw [top] at toParent; cases toParent
  | link toParent _ ih =>
    obtain ⟨path', top'⟩ := second
    cases path' with
    | self => rw [top'] at toParent; cases toParent
    | link toParent' rest =>
      rw [toParent] at toParent'
      cases toParent'
      obtain ⟨same, rfl⟩ := ih ⟨rest, top'⟩ top
      exact ⟨congrArg (· + 1) same, rfl⟩

theorem Above.depth_eq (labels : Labelling parent dom depth root) (above : Above parent x n a) :
    depth x = depth a + n := by
  induction above with
  | self => simp
  | link toParent _ ih =>
    rw [(labels.link toParent).1, ih]
    omega

theorem Labelling.acyclic (labels : Labelling parent dom depth root) : Acyclic parent := by
  intro x n cycle
  have counted := cycle.depth_eq labels
  omega

/-- The labels of a node describe its topmost ancestor. -/
theorem Labelling.topmost (labels : Labelling parent dom depth root) (inside : dom x) :
    ∃ n a, Topmost parent x n a ∧ depth x = n ∧ root x = if parent x = none then none else some a := by
  obtain ⟨n, counted⟩ := Int.eq_ofNat_of_zero_le (labels.nonneg inside)
  induction n generalizing x with
  | zero =>
    cases toParent : parent x with
    | none => exact ⟨0, x, ⟨.self x, toParent⟩, counted, by simpa using (labels.top inside toParent).2⟩
    | some p =>
      have above := (labels.link toParent).1
      have nonneg := labels.nonneg (labels.inside toParent).2
      rw [counted] at above
      omega
  | succ n ih =>
    cases toParent : parent x with
    | none =>
      have zero := (labels.top inside toParent).1
      rw [counted] at zero
      omega
    | some p =>
      obtain ⟨above, rooted⟩ := labels.link toParent
      have counted' : depth p = n := by
        rw [counted] at above
        omega
      obtain ⟨m, a, ⟨path, top⟩, sameDepth, sameRoot⟩ := ih (labels.inside toParent).2 counted'
      have step : m = n := by
        omega
      subst step
      refine ⟨m + 1, a, ⟨.link toParent path, top⟩, counted, ?_⟩
      rw [rooted, sameRoot]
      by_cases isTop : parent p = none
      · cases path with
        | self => simp [isTop]
        | link toParent' => rw [isTop] at toParent'; cases toParent'
      · simp [isTop]

end Labels

/-! ### Acyclic links -/

section Links

variable {parent parent' : ι → Option ι} {x y a b p : ι} {n m : Nat}

theorem Above.trans (first : Above parent x n a) (second : Above parent a m b) :
    Above parent x (n + m) b := by
  induction first with
  | self => simpa using second
  | @link x q a n toParent _ ih =>
    have step := Above.link toParent (ih second)
    rwa [show n + m + 1 = n + 1 + m by omega] at step

theorem Above.exists_child (above : Above parent x (n + 1) a) : ∃ z, parent z = some a := by
  induction n generalizing x with
  | zero =>
    cases above with
    | link toParent rest =>
      cases rest
      exact ⟨x, toParent⟩
  | succ n ih =>
    cases above with
    | link _ rest => exact ih rest

theorem Above.mono (links : ∀ x p, parent' x = some p → parent x = some p)
    (above : Above parent' x n a) : Above parent x n a := by
  induction above with
  | self => exact .self _
  | link toParent _ ih => exact .link (links _ _ toParent) ih

theorem Acyclic.mono (acyclic : Acyclic parent)
    (links : ∀ x p, parent' x = some p → parent x = some p) : Acyclic parent' :=
  fun x n cycle => acyclic x n (cycle.mono links)

theorem Above.reaches_relinked (same : ∀ y, y ≠ x → parent' y = parent y)
    (above : Above parent' y n x) : ∃ m, Above parent y m x := by
  induction above with
  | self => exact ⟨0, .self _⟩
  | @link y q x n toParent _ ih =>
    by_cases here : y = x
    · subst here
      exact ⟨0, .self _⟩
    · obtain ⟨m, rest⟩ := ih same
      rw [same y here] at toParent
      exact ⟨m + 1, .link toParent rest⟩

theorem Above.split_relinked (same : ∀ y, y ≠ x → parent' y = parent y)
    (above : Above parent' y n a) :
    Above parent y n a ∨ ∃ k m q, Above parent' y k x ∧ parent' x = some q ∧
      Above parent' q m a := by
  induction above with
  | self => exact .inl (.self _)
  | @link y q a n toParent rest ih =>
    by_cases here : y = x
    · subst here
      exact .inr ⟨0, n, q, .self _, toParent, rest⟩
    · rcases ih with old | ⟨k, m, q', toX, newParent, onward⟩
      · exact .inl (.link ((same y here).symm.trans toParent) old)
      · exact .inr ⟨k + 1, m, q', .link toParent toX, newParent, onward⟩

theorem Acyclic.relink (acyclic : Acyclic parent) (x : ι) (same : ∀ y, y ≠ x → parent' y = parent y)
    (apart : ∀ q, parent' x = some q → ∀ n, ¬ Above parent q n x) : Acyclic parent' := by
  intro y n cycle
  rcases cycle.split_relinked same with old | ⟨k, m, q, toX, newParent, onward⟩
  · exact acyclic y n old
  · obtain ⟨m', back⟩ := (onward.trans toX).reaches_relinked same
    exact apart q newParent m' back

theorem Above.exists_path (acyclic : Acyclic parent) (above : Above parent x n a) :
    ∃ path : List ι, path.length = n ∧ path.Nodup ∧
      ∀ y ∈ path, ∃ m z, Above parent x (m + 1) y ∧ parent z = some y := by
  induction above with
  | self => exact ⟨[], rfl, List.nodup_nil, by simp⟩
  | @link x p a n toParent _ ih =>
    obtain ⟨path, length, nodup, inside⟩ := ih
    refine ⟨p :: path, by simp [length], ?_, ?_⟩
    · refine List.nodup_cons.mpr ⟨fun again => ?_, nodup⟩
      obtain ⟨m, -, cycle, -⟩ := inside p again
      exact acyclic p m cycle
    · intro y among
      rcases List.mem_cons.mp among with rfl | later
      · exact ⟨0, x, .link toParent (.self y), toParent⟩
      · obtain ⟨m, z, above, toY⟩ := inside y later
        exact ⟨m + 1, z, .link toParent above, toY⟩

theorem Acyclic.length_le (acyclic : Acyclic parent) {nodes : List ι}
    (inside : ∀ x p, parent x = some p → p ∈ nodes) (above : Above parent x n a) :
    n ≤ nodes.length := by
  obtain ⟨path, rfl, nodup, linked⟩ := above.exists_path acyclic
  refine (List.subperm_of_subset nodup fun y among => ?_).length_le
  obtain ⟨-, z, -, toY⟩ := linked y among
  exact inside z y toY

end Links

end AifHandoff.Forest
