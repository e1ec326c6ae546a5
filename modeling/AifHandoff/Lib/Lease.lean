import Mathlib.Logic.Function.Basic

/-!
Leases that are released by tag.

A lease on one resource stores the tag of whoever took it; several users may have
one tag. Beside the stored lock stands what the users believe: a user that took the
lease keeps believing in it until it releases, even when the lease has been taken
away meanwhile.
-/

namespace AifHandoff

universe u v

/-- How a claim was taken away. -/
inductive Lease.Loss where
  | expired | swept | freed
  deriving DecidableEq

/-- The standing of a claim whose user still believes in it. -/
inductive Lease.Claim where
  | live
  | lost (how : Lease.Loss)
  deriving DecidableEq

/-- A lease with users `ρ` and tags `τ`. `claims r` is `none` for a user that does
not believe it has the lease. -/
structure Lease (ρ : Type u) (τ : Type v) where
  lock : Option τ
  holder : Option ρ
  claims : ρ → Option Lease.Claim

namespace Lease

section Operations

variable {ρ : Type u} {τ : Type v} [DecidableEq ρ] (tag : ρ → τ)

/-- The lock is taken off; the holder does not notice. -/
def lose (how : Loss) (lease : Lease ρ τ) : Lease ρ τ where
  lock := none
  holder := none
  claims := match lease.holder with
    | none => lease.claims
    | some r => Function.update lease.claims r (some (.lost how))

/-- `r` takes the lease, from an expired holder if there is one. -/
def claim (r : ρ) (lease : Lease ρ τ) : Lease ρ τ where
  lock := some (tag r)
  holder := some r
  claims := Function.update (lose .expired lease).claims r (some .live)

/-- `r` gives the lease back. The lock goes if it carries the tag of `r`. -/
def release [DecidableEq τ] (r : ρ) (lease : Lease ρ τ) : Lease ρ τ :=
  let freed := if lease.lock = some (tag r) then lose .freed lease else lease
  { freed with claims := Function.update freed.claims r none }

/-- The stored tag belongs to the holder, the holder is the user whose claim is live,
and a lock without a holder dates from before any user came. -/
structure Sound (lease : Lease ρ τ) : Prop where
  live_iff : ∀ r, lease.claims r = some .live ↔ lease.holder = some r
  lock_of_holder : ∀ {r}, lease.holder = some r → lease.lock = some (tag r)
  old_lock : lease.lock ≠ none → lease.holder = none → ∀ r, lease.claims r = none

end Operations

section Laws

variable {ρ : Type u} {τ : Type v} {tag : ρ → τ}
  {lease : Lease ρ τ} {r s : ρ}

/-- Where the lock carries the tag of a user that believes in its claim, the holder
has that tag, and is the user itself unless the user's own claim was lost. -/
theorem Sound.fence (sound : Sound tag lease) (believes : lease.claims r ≠ none)
    (locked : lease.lock = some (tag r)) :
    ∃ h, lease.holder = some h ∧ tag h = tag r ∧
      (h = r ∨ ∃ how, lease.claims r = some (.lost how)) := by
  cases held : lease.holder with
  | none => exact absurd (sound.old_lock (by simp [locked]) held r) believes
  | some h =>
    have sameTag : tag h = tag r := by
      have stored := sound.lock_of_holder held
      rw [locked] at stored
      exact (Option.some.inj stored).symm
    refine ⟨h, rfl, sameTag, ?_⟩
    cases standing : lease.claims r with
    | none => exact absurd standing believes
    | some standing_ =>
      cases standing_ with
      | live =>
        have held' := (sound.live_iff r).mp standing
        rw [held] at held'
        exact .inl (Option.some.inj held')
      | lost how => exact .inr ⟨how, rfl⟩

theorem Sound.live_unique (sound : Sound tag lease) (left : lease.claims r = some .live)
    (right : lease.claims s = some .live) : r = s := by
  have held := (sound.live_iff r).mp left
  rw [(sound.live_iff s).mp right] at held
  exact (Option.some.inj held).symm

variable [DecidableEq ρ]

theorem claims_lose {how : Loss} : (lose how lease).claims s =
    if lease.holder = some s then some (.lost how) else lease.claims s := by
  unfold lose
  cases held : lease.holder with
  | none => simp
  | some h =>
    by_cases same : s = h
    · simp [same]
    · simp [same, Ne.symm same]

theorem Sound.not_live_lose (sound : Sound tag lease) {how : Loss} :
    (lose how lease).claims s ≠ some .live := by
  rw [claims_lose]
  split
  next => simp
  next other => exact mt (sound.live_iff s).mp other

theorem Sound.lose (sound : Sound tag lease) (how : Loss) : Sound tag (lose how lease) where
  live_iff s := by
    constructor
    · exact fun live => absurd live sound.not_live_lose
    · exact fun held => by cases held
  lock_of_holder := fun held => by cases held
  old_lock := fun locked => absurd rfl locked

theorem Sound.claim (sound : Sound tag lease) (r : ρ) : Sound tag (claim tag r lease) where
  live_iff s := by
    by_cases same : s = r
    · simp [Lease.claim, same]
    · have notLive : (Lease.lose .expired lease).claims s ≠ some .live := sound.not_live_lose
      simp [Lease.claim, same, Ne.symm same, notLive]
  lock_of_holder := by
    intro s held
    cases held
    rfl
  old_lock := fun _ held => by cases held

theorem Sound.drop (sound : Sound tag lease) (other : lease.holder ≠ some r) :
    Sound tag { lease with claims := Function.update lease.claims r none } where
  live_iff s := by
    by_cases same : s = r
    · subst same
      simp [other]
    · simp [same, sound.live_iff s]
  lock_of_holder := sound.lock_of_holder
  old_lock := by
    intro locked nobody s
    by_cases same : s = r
    · simp [same]
    · simpa [same] using sound.old_lock locked nobody s

theorem lock_release [DecidableEq τ] : (release tag r lease).lock =
    if lease.lock = some (tag r) then none else lease.lock := by
  unfold Lease.release
  split <;> rfl

/-- A release takes the claim of another user only by the tag they share, and then
the releasing user's own claim, if it had one, was lost before. -/
theorem Sound.live_of_release [DecidableEq τ] (sound : Sound tag lease) (other : s ≠ r)
    (live : lease.claims s = some .live) (gone : (release tag r lease).claims s ≠ some .live) :
    tag r = tag s := by
  have held := (sound.live_iff s).mp live
  have stored := sound.lock_of_holder held
  by_contra differ
  apply gone
  have kept : lease.lock ≠ some (tag r) := by
    rw [stored]
    exact fun same => differ (Option.some.inj same).symm
  simp [Lease.release, kept, other, live]

theorem Sound.release [DecidableEq τ] (sound : Sound tag lease) (r : ρ) : Sound tag (release tag r lease) := by
  unfold Lease.release
  split
  · exact (sound.lose .freed).drop (by simp [Lease.lose])
  next notLocked =>
    exact sound.drop fun held => notLocked (sound.lock_of_holder held)

end Laws

end Lease

end AifHandoff
