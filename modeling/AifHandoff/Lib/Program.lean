import Mathlib.Logic.Basic

/-!
Programs against a shared record.

A `Program ρ κ α` reads a record of type `ρ`, makes calls of type `κ` and returns an
`α`. What a call does to the record, and what else happens between two nodes, is the
business of whoever interprets the program.
-/

namespace AifHandoff

universe u

inductive Program (ρ κ α : Type u) where
  | ret (a : α)
  | read (next : ρ → Program ρ κ α)
  | call (c : κ) (next : Program ρ κ α)

namespace Program

variable {ρ κ α β : Type u}

def bind : Program ρ κ α → (α → Program ρ κ β) → Program ρ κ β
  | .ret a, rest => rest a
  | .read next, rest => .read fun r => (next r).bind rest
  | .call c next, rest => .call c (next.bind rest)

instance : Monad (Program ρ κ) where
  pure := .ret
  bind := bind

/-- Every call that the program makes satisfies `P`, whatever the program reads. -/
def Calls (P : κ → Prop) : Program ρ κ α → Prop
  | .ret _ => True
  | .read next => ∀ r, (next r).Calls P
  | .call c next => P c ∧ next.Calls P

variable {P Q : κ → Prop} {p q : Program ρ κ α} {rest : α → Program ρ κ β}

theorem Calls.pure (a : α) : (Pure.pure a : Program ρ κ α).Calls P := trivial

theorem Calls.bind (first : p.Calls P) (later : ∀ a, (rest a).Calls P) :
    (p >>= rest).Calls P := by
  change (p.bind rest).Calls P
  induction p with
  | ret a => exact later a
  | read next ih => exact fun r => ih r (first r)
  | call c next ih => exact ⟨first.1, ih first.2⟩

theorem Calls.ite {condition : Prop} [Decidable condition] (onTrue : condition → p.Calls P)
    (onFalse : ¬condition → q.Calls P) : (if condition then p else q).Calls P := by
  by_cases holds : condition
  · rw [if_pos holds]
    exact onTrue holds
  · rw [if_neg holds]
    exact onFalse holds

theorem Calls.mono (weaker : ∀ c, P c → Q c) (calls : p.Calls P) : p.Calls Q := by
  induction p with
  | ret a => trivial
  | read next ih => exact fun r => ih r (calls r)
  | call c next ih => exact ⟨weaker c calls.1, ih calls.2⟩

end Program

end AifHandoff
