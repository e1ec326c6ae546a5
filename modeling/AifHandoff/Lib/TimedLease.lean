import Mathlib.Logic.Function.Basic
import Mathlib.Order.Lattice

/-!
Leases that run out by themselves.

The lease on one resource is stored as a token with its expiry. Beside it stands until
when the holder of each token believes in its lease: it learns an expiry when the lease is
granted or extended, and hears nothing when it is swept or granted to another.
-/

namespace AifHandoff

universe u v

structure TimedLease (τ : Type u) (T : Type v) where
  stored : Option (τ × T)
  beliefs : τ → Option T
  clock : T

namespace TimedLease

variable {τ : Type u} {T : Type v} [LinearOrder T] {lease : TimedLease τ T} {t t' : τ}
  {e e' now : T}

/-- No stored lease runs longer than now. -/
def Free (lease : TimedLease τ T) (now : T) : Prop := ∀ t e, lease.stored = some (t, e) → e ≤ now

/-- A lease in which its holder may still believe is stored with the expiry it knows. -/
structure Sound (lease : TimedLease τ T) : Prop where
  stored_of_believed : ∀ {t e}, lease.beliefs t = some e → lease.clock < e →
    lease.stored = some (t, e)

theorem Sound.exclusive (sound : Sound lease) (first : lease.beliefs t = some e)
    (second : lease.beliefs t' = some e') (lasts : lease.clock < e) (lasts' : lease.clock < e') :
    t = t' := by
  have stored := sound.stored_of_believed first lasts
  rw [sound.stored_of_believed second lasts'] at stored
  exact (Prod.mk.inj (Option.some.inj stored)).1.symm

theorem Sound.tick (sound : Sound lease) (later : lease.clock ≤ now) :
    Sound { lease with clock := now } :=
  ⟨fun believed lasts => sound.stored_of_believed believed (lt_of_le_of_lt later lasts)⟩

theorem Sound.sweep (sound : Sound lease) (later : lease.clock ≤ now) (free : lease.Free now) :
    Sound { lease with stored := none, clock := now } where
  stored_of_believed := by
    intro t e believed lasts
    have stored := sound.stored_of_believed believed (lt_of_le_of_lt later lasts)
    exact absurd (free t e stored) (not_le.mpr lasts)

variable [DecidableEq τ]

theorem sound_put (nobody : ∀ t', t' ≠ t → ∀ e', lease.beliefs t' = some e' → e' ≤ now) (e : T) :
    Sound ⟨some (t, e), Function.update lease.beliefs t (some e), now⟩ where
  stored_of_believed := by
    intro t' e' believed lasts
    by_cases same : t' = t
    · subst same
      simp only [Function.update_self, Option.some.injEq] at believed
      rw [believed]
    · simp only [Function.update_of_ne same] at believed
      exact absurd (nobody t' same e' believed) (not_le.mpr lasts)

theorem Sound.grant (sound : Sound lease) (later : lease.clock ≤ now) (free : lease.Free now)
    (t : τ) (e : T) :
    Sound ⟨some (t, e), Function.update lease.beliefs t (some e), now⟩ := by
  refine sound_put (fun t' _ e' believed => ?_) e
  by_contra lasts
  have stored := sound.stored_of_believed believed (lt_of_le_of_lt later (not_le.mp lasts))
  exact lasts (free t' e' stored)

theorem Sound.extend (sound : Sound lease) (later : lease.clock ≤ now)
    (own : lease.stored = some (t, e')) (e : T) :
    Sound ⟨some (t, e), Function.update lease.beliefs t (some e), now⟩ := by
  refine sound_put (fun t' other e'' believed => ?_) e
  by_contra lasts
  have stored := sound.stored_of_believed believed (lt_of_le_of_lt later (not_le.mp lasts))
  rw [own] at stored
  exact other (Prod.mk.inj (Option.some.inj stored)).1.symm

theorem Sound.forget (sound : Sound lease) (later : lease.clock ≤ now) (t : τ) :
    Sound ⟨lease.stored, Function.update lease.beliefs t none, now⟩ where
  stored_of_believed := by
    intro t' e' believed lasts
    by_cases same : t' = t
    · subst same
      simp at believed
    · simp only [Function.update_of_ne same] at believed
      exact sound.stored_of_believed believed (lt_of_le_of_lt later lasts)

theorem Sound.drop (sound : Sound lease) (later : lease.clock ≤ now)
    (own : lease.stored = some (t, e)) :
    Sound ⟨none, Function.update lease.beliefs t none, now⟩ where
  stored_of_believed := by
    intro t' e' believed lasts
    have kept := (sound.forget later t).stored_of_believed believed lasts
    simp only [own, Option.some.injEq, Prod.mk.injEq] at kept
    obtain ⟨rfl, -⟩ := kept
    simp at believed

end TimedLease

end AifHandoff
