import AifHandoff.Lib.Forest

/-!
Values derived from the nodes below, and kept right by climbing.

Every node may carry a value that is derived from its direct children. After a change
somewhere below, `climb` refreshes the ancestors of a node, nearest first.
-/

namespace AifHandoff.Propagation

open Forest

universe u v

variable {σ : Type u} {ι : Type v}

/-- What a refresh of one node does: it makes the node's value right, and only the value
of its parent may go wrong by it. `Valid` is what the states keep. -/
structure Refreshes (parent : ι → Option ι) (refresh : σ → ι → σ) (correct : σ → ι → Prop)
    (Valid : σ → Prop) : Prop where
  valid : ∀ {s x}, Valid s → Valid (refresh s x)
  here : ∀ {s x}, Valid s → correct (refresh s x) x
  elsewhere : ∀ {s x y}, Valid s → y ≠ x → parent x ≠ some y → correct s y →
    correct (refresh s x) y

/-- Refresh the ancestors of a node, nearest first. -/
def climb (parent : ι → Option ι) (refresh : σ → ι → σ) : Nat → σ → ι → σ
  | 0, s, _ => s
  | bound + 1, s, x =>
    match parent x with
    | none => s
    | some p => climb parent refresh bound (refresh s p) p

/-- `y` is a proper ancestor of `x`. -/
def IsAncestor (parent : ι → Option ι) (x y : ι) : Prop := ∃ n, Above parent x (n + 1) y

section Climb

variable {parent : ι → Option ι} {refresh : σ → ι → σ} {correct : σ → ι → Prop}
  {Valid : σ → Prop} {s : σ} {x y : ι} {bound : Nat}

/-- The ancestors of a node are its parent and the ancestors of that. -/
theorem isAncestor_iff {p : ι} (toParent : parent x = some p) :
    IsAncestor parent x y ↔ y = p ∨ IsAncestor parent p y := by
  constructor
  · rintro ⟨n, above⟩
    cases above with
    | link toParent' rest =>
      rw [toParent] at toParent'
      cases toParent'
      cases rest with
      | self => exact .inl rfl
      | link next further => exact .inr ⟨_, .link next further⟩
  · rintro (rfl | ⟨n, above⟩)
    · exact ⟨0, .link toParent (.self _)⟩
    · exact ⟨n + 1, .link toParent above⟩

/-- A climb that is long enough makes every ancestor right and spoils no node. -/
theorem climb_correct (refreshes : Refreshes parent refresh correct Valid)
    (valid : Valid s) (enough : ∀ n a, Above parent x n a → n < bound)
    (known : IsAncestor parent x y ∨ correct s y) :
    correct (climb parent refresh bound s x) y := by
  induction bound generalizing s x with
  | zero => exact absurd (enough 0 x (.self x)) (by omega)
  | succ bound ih =>
    unfold climb
    cases toParent : parent x with
    | none =>
      rcases known with ⟨n, above⟩ | fine
      · cases above with
        | link toParent' _ => rw [toParent] at toParent'; cases toParent'
      · exact fine
    | some p =>
      refine ih (refreshes.valid valid) (fun n a above => ?_) ?_
      · have longer := enough (n + 1) a (.link toParent above)
        omega
      · rw [isAncestor_iff toParent] at known
        by_cases ancestor : IsAncestor parent p y
        · exact .inl ancestor
        · right
          rcases known with (rfl | ancestor') | fine
          · exact refreshes.here valid
          · exact absurd ancestor' ancestor
          · by_cases self : y = p
            · rw [self]
              exact refreshes.here valid
            · refine refreshes.elsewhere valid self (fun next => ?_) fine
              exact ancestor ⟨0, .link next (.self y)⟩

/-- Refresh a node and climb from it. -/
def refreshUp (parent : ι → Option ι) (refresh : σ → ι → σ) (bound : Nat) (s : σ) (x : ι) : σ :=
  climb parent refresh bound (refresh s x) x

theorem refreshUp_correct (refreshes : Refreshes parent refresh correct Valid)
    (valid : Valid s) (enough : ∀ n a, Above parent x n a → n < bound)
    (known : y = x ∨ IsAncestor parent x y ∨ correct s y) :
    correct (refreshUp parent refresh bound s x) y := by
  refine climb_correct refreshes (refreshes.valid valid) enough ?_
  by_cases ancestor : IsAncestor parent x y
  · exact .inl ancestor
  · right
    by_cases self : y = x
    · rw [self]
      exact refreshes.here valid
    · refine refreshes.elsewhere valid self (fun next => ancestor ⟨0, .link next (.self y)⟩) ?_
      rcases known with same | ancestor' | fine
      · exact absurd same self
      · exact absurd ancestor' ancestor
      · exact fine

end Climb

end AifHandoff.Propagation
