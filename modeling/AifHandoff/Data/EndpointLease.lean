import AifHandoff.Lib.TimedLease
import AifHandoff.Lib.Transition
import Mathlib.Order.Nat

/-!
Leases and cooldowns of runtime endpoints (`data/index.ts`).

One row per endpoint holds the lease and the cooldown. Every operation is one SQL
statement; the statements of all processes interleave, and the clock they read does not
run back. Instants are stored as ISO texts and compared as texts.
-/

namespace AifHandoff.Data.EndpointLease

open Transition

/-! ### Instants -/

/-- The first instant, in milliseconds, whose ISO text begins with a sign:
`+010000-01-01T00:00:00.000Z`. -/
def signedYears : Nat := 253402300800000

/-- The last instant that has an ISO text. -/
def maxInstant : Nat := 8640000000000000

/-- `≤` on the ISO texts of two instants: a sign sorts before every digit. -/
def isoLe (a b : Nat) : Bool :=
  if signedYears ≤ a ∧ b < signedYears then true
  else if a < signedYears ∧ signedYears ≤ b then false
  else a ≤ b

theorem le_of_isoLe {a b : Nat} (early : a < signedYears) (le : isoLe a b = true) : a ≤ b := by
  rw [isoLe, if_neg (by omega)] at le
  split at le
  · cases le
  · exact of_decide_eq_true le

/-! ### The table -/

structure RuntimeEndpointLeaseRow where
  profileId : Option String
  baseUrl : Option String
  runtimeId : Option String
  providerId : Option String
  holderId : Option String
  taskId : Option String
  leaseToken : Option String
  heartbeatAt : Option Nat
  leaseTtlMs : Option Int
  leaseExpiresAt : Option Nat
  cooldownUntil : Option Nat
  cooldownFailureCount : Nat
  cooldownReason : Option String
  createdAt : Nat
  updatedAt : Nat
  deriving DecidableEq

/-- `runtime_endpoint_leases`, by its primary key. -/
abbrev Table := String → Option RuntimeEndpointLeaseRow

structure AcquireInput where
  endpointKey : String
  profileId : Option String
  baseUrl : String
  runtimeId : String
  providerId : Option String
  taskId : Option String
  leaseTtlMs : Int

/-! ### Statements -/

/-- `leaseExpiresAt`, `none` where the call throws: a lease without a positive length, or
an expiry that is no date. -/
def expiryOf (now : Nat) (leaseTtlMs : Int) : Option Nat :=
  if leaseTtlMs ≤ 0 then none
  else if maxInstant < now + leaseTtlMs.toNat then none
  else some (now + leaseTtlMs.toNat)

/-- The `WHERE` of the conflict clause of `acquire`. -/
def acquirable (row : RuntimeEndpointLeaseRow) (heartbeatAt : Nat) : Bool :=
  row.cooldownUntil.all (isoLe · heartbeatAt) &&
    (row.holderId.isNone || row.leaseToken.isNone || row.leaseExpiresAt.all (isoLe · heartbeatAt))

/-- The row that `acquire` inserts. -/
def insertedRow (holderId leaseToken : String) (input : AcquireInput)
    (heartbeatAt leaseExpiresAt : Nat) : RuntimeEndpointLeaseRow where
  profileId := input.profileId
  baseUrl := some input.baseUrl
  runtimeId := some input.runtimeId
  providerId := input.providerId
  holderId := some holderId
  taskId := input.taskId
  leaseToken := some leaseToken
  heartbeatAt := some heartbeatAt
  leaseTtlMs := some input.leaseTtlMs
  leaseExpiresAt := some leaseExpiresAt
  cooldownUntil := none
  cooldownFailureCount := 0
  cooldownReason := none
  createdAt := heartbeatAt
  updatedAt := heartbeatAt

/-- The row after an `acquire` that changes it. -/
def acquiredRow (holderId leaseToken : String) (input : AcquireInput)
    (heartbeatAt leaseExpiresAt : Nat) : Option RuntimeEndpointLeaseRow → RuntimeEndpointLeaseRow
  | none => insertedRow holderId leaseToken input heartbeatAt leaseExpiresAt
  | some row =>
    { insertedRow holderId leaseToken input heartbeatAt leaseExpiresAt with
      cooldownUntil := row.cooldownUntil
      cooldownFailureCount := row.cooldownFailureCount
      cooldownReason := row.cooldownReason
      createdAt := row.createdAt }

/-- The lease that `acquire` gives, `none` where it throws or leaves the row alone. -/
def acquire (table : Table) (leaseToken : String) (input : AcquireInput) (now : Nat) :
    Option (String × Nat) :=
  match expiryOf now input.leaseTtlMs with
  | none => none
  | some leaseExpiresAt =>
    if (table input.endpointKey).all (acquirable · now) then some (leaseToken, leaseExpiresAt)
    else none

/-- The `WHERE` of `heartbeat` and `release`. -/
def owns (holderId leaseToken : String) (row : RuntimeEndpointLeaseRow) : Bool :=
  row.holderId == some holderId && row.leaseToken == some leaseToken

/-- The row without its lease. -/
def freedRow (now : Nat) (row : RuntimeEndpointLeaseRow) : RuntimeEndpointLeaseRow :=
  { row with
    holderId := none
    taskId := none
    leaseToken := none
    heartbeatAt := none
    leaseTtlMs := none
    leaseExpiresAt := none
    updatedAt := now }

def extendedRow (now : Nat) (leaseTtlMs : Int) (leaseExpiresAt : Nat)
    (row : RuntimeEndpointLeaseRow) : RuntimeEndpointLeaseRow :=
  { row with
    heartbeatAt := some now
    leaseTtlMs := some leaseTtlMs
    leaseExpiresAt := some leaseExpiresAt
    updatedAt := now }

/-- Whether `heartbeat` changes the row, and until when the lease then runs. -/
def heartbeat (table : Table) (endpointKey holderId leaseToken : String) (leaseTtlMs : Int)
    (now : Nat) : Option Nat :=
  match expiryOf now leaseTtlMs with
  | none => none
  | some leaseExpiresAt =>
    if (table endpointKey).any (owns holderId leaseToken) then some leaseExpiresAt else none

/-- The `WHERE` of `releaseStaleRuntimeEndpointLeases`. -/
def stale (now : Nat) (row : RuntimeEndpointLeaseRow) : Bool :=
  row.holderId.isSome && row.leaseExpiresAt.any (isoLe · now)

/-- The row that `setCooldown` leaves. -/
def cooledRow (now cooldownUntil : Nat) (cooldownReason : Option String) :
    Option RuntimeEndpointLeaseRow → RuntimeEndpointLeaseRow
  | none =>
    { profileId := none, baseUrl := none, runtimeId := none, providerId := none
      holderId := none, taskId := none, leaseToken := none, heartbeatAt := none
      leaseTtlMs := none, leaseExpiresAt := none
      cooldownUntil := some cooldownUntil
      cooldownFailureCount := 1
      cooldownReason
      createdAt := now
      updatedAt := now }
  | some row =>
    { row with
      cooldownUntil := some cooldownUntil
      cooldownFailureCount := row.cooldownFailureCount + 1
      cooldownReason
      updatedAt := now }

/-! ### Runs -/

inductive Call where
  | acquire (holderId leaseToken : String) (input : AcquireInput)
  | heartbeat (endpointKey holderId leaseToken : String) (leaseTtlMs : Int)
  | release (endpointKey holderId leaseToken : String)
  | setCooldown (endpointKey : String) (cooldownUntil : Nat) (cooldownReason : Option String)
  | releaseStale

/-- The table after a call. -/
def exec (table : Table) (now : Nat) : Call → Table
  | .acquire holderId leaseToken input =>
    match acquire table leaseToken input now with
    | none => table
    | some (_, leaseExpiresAt) =>
      Function.update table input.endpointKey (some
        (acquiredRow holderId leaseToken input now leaseExpiresAt (table input.endpointKey)))
  | .heartbeat endpointKey holderId leaseToken leaseTtlMs =>
    match heartbeat table endpointKey holderId leaseToken leaseTtlMs now with
    | none => table
    | some leaseExpiresAt =>
      Function.update table endpointKey
        ((table endpointKey).map (extendedRow now leaseTtlMs leaseExpiresAt))
  | .release endpointKey holderId leaseToken =>
    if (table endpointKey).any (owns holderId leaseToken) then
      Function.update table endpointKey ((table endpointKey).map (freedRow now))
    else table
  | .setCooldown endpointKey cooldownUntil cooldownReason =>
    Function.update table endpointKey
      (some (cooledRow now cooldownUntil cooldownReason (table endpointKey)))
  | .releaseStale => fun endpointKey =>
    (table endpointKey).map fun row => if stale now row then freedRow now row else row

/-- The table with what the holders believe: for an endpoint and a token, until when. -/
structure World where
  table : Table
  beliefs : String → String → Option Nat
  clock : Nat
  drawn : List String

/-- What a holder learns from its call. Nobody is told of a sweep, nor by a successor. -/
def learn (table : Table) (beliefs : String → Option Nat) (now : Nat) (endpointKey : String) :
    Call → String → Option Nat
  | .acquire _ leaseToken input =>
    match acquire table leaseToken input now with
    | some (_, leaseExpiresAt) =>
      if endpointKey = input.endpointKey then
        Function.update beliefs leaseToken (some leaseExpiresAt)
      else beliefs
    | none => beliefs
  | .heartbeat key holderId leaseToken leaseTtlMs =>
    match heartbeat table key holderId leaseToken leaseTtlMs now with
    | some leaseExpiresAt =>
      if endpointKey = key then Function.update beliefs leaseToken (some leaseExpiresAt)
      else beliefs
    | none => beliefs
  | .release key _ leaseToken =>
    if endpointKey = key then Function.update beliefs leaseToken none else beliefs
  | .setCooldown .. | .releaseStale => beliefs

/-- The token that a call draws. -/
def drawnBy : Call → List String
  | .acquire _ leaseToken _ => [leaseToken]
  | _ => []

def World.exec (s : World) (now : Nat) (call : Call) : World where
  table := EndpointLease.exec s.table now call
  beliefs endpointKey := learn s.table (s.beliefs endpointKey) now endpointKey call
  clock := now
  drawn := drawnBy call ++ s.drawn

/-- All interleavings from the empty table: no call reads an earlier instant than one
before it, and drawn tokens are new. -/
def leaseSystem : System World (Nat × Call) where
  init s := s = ⟨fun _ => none, fun _ _ => none, 0, []⟩
  step s now s' :=
    s.clock ≤ now.1 ∧ (∀ token ∈ drawnBy now.2, token ∉ s.drawn) ∧ s' = s.exec now.1 now.2

/-! ### What is promised -/

/-- A token is stored that has not run out. -/
def Unexpired (row : RuntimeEndpointLeaseRow) (now : Nat) : Prop :=
  ∃ token expiry, row.leaseToken = some token ∧ row.leaseExpiresAt = some expiry ∧ now < expiry

/-- A cooldown is in force. -/
def CoolingDown (row : RuntimeEndpointLeaseRow) (now : Nat) : Prop :=
  ∃ cooldownUntil, row.cooldownUntil = some cooldownUntil ∧ now < cooldownUntil

/-- The columns of the lease. -/
def leaseFields (row : Option RuntimeEndpointLeaseRow) :=
  (row.bind (·.holderId), row.bind (·.taskId), row.bind (·.leaseToken),
    row.bind (·.heartbeatAt), row.bind (·.leaseTtlMs), row.bind (·.leaseExpiresAt))

/-- A change only by the holder of the stored token. -/
def ChangesOwn (before after : Table) (endpointKey leaseToken : String) : Prop :=
  ∀ key, after key ≠ before key →
    key = endpointKey ∧ (before key).bind (·.leaseToken) = some leaseToken

/-- What each call owes to the lease and the cooldown that it finds. -/
def Respects (table : Table) (now : Nat) : Call → Prop
  | .acquire _ leaseToken input => (acquire table leaseToken input now).isSome →
      ∀ row, table input.endpointKey = some row → ¬ Unexpired row now ∧ ¬ CoolingDown row now
  | .heartbeat endpointKey holderId leaseToken leaseTtlMs =>
    ChangesOwn table
      (exec table now (.heartbeat endpointKey holderId leaseToken leaseTtlMs))
      endpointKey leaseToken
  | .release endpointKey holderId leaseToken =>
    ChangesOwn table (exec table now (.release endpointKey holderId leaseToken))
      endpointKey leaseToken
  | .setCooldown endpointKey cooldownUntil cooldownReason => ∀ key,
      leaseFields (exec table now (.setCooldown endpointKey cooldownUntil cooldownReason) key) =
        leaseFields (table key)
  | .releaseStale => ∀ key row, table key = some row → Unexpired row now →
      exec table now .releaseStale key = some row

/-- At no time do two holders believe in a lease of one endpoint, and the one that does
has its token stored. -/
def Exclusive (s : World) : Prop :=
  ∀ now endpointKey token expiry, s.clock ≤ now → s.beliefs endpointKey token = some expiry →
    now < expiry →
      (s.table endpointKey).bind (·.leaseToken) = some token ∧
        ∀ token' expiry', s.beliefs endpointKey token' = some expiry' → now < expiry' →
          token' = token

/-- Only instants with a four-digit year come to be stored. -/
def storesFourDigitYears (now : Nat) : Call → Prop
  | .acquire _ _ input => now + input.leaseTtlMs.toNat < signedYears
  | .heartbeat _ _ _ leaseTtlMs => now + leaseTtlMs.toNat < signedYears
  | .setCooldown _ cooldownUntil _ => cooldownUntil < signedYears
  | .release .. | .releaseStale => True

/-! ### Rows -/

/-- The lease columns are set together, and all stored instants compare as their texts. -/
structure Consistent (row : RuntimeEndpointLeaseRow) : Prop where
  holder : row.holderId.isSome = row.leaseToken.isSome
  expiry : row.leaseExpiresAt.isSome = row.leaseToken.isSome
  early : ∀ t, row.leaseExpiresAt = some t → t < signedYears
  cooldownEarly : ∀ t, row.cooldownUntil = some t → t < signedYears

/-- The token of a row with its expiry. -/
def storedLease (row : RuntimeEndpointLeaseRow) : Option (String × Nat) :=
  row.leaseToken.bind fun token => row.leaseExpiresAt.map fun expiry => (token, expiry)

section Rows

variable {row : RuntimeEndpointLeaseRow} {now expiry cooldownUntil : Nat}
  {holderId token : String} {input : AcquireInput}

theorem storedLease_eq_some : storedLease row = some (token, expiry) ↔
    row.leaseToken = some token ∧ row.leaseExpiresAt = some expiry := by
  cases first : row.leaseToken <;> cases second : row.leaseExpiresAt <;>
    simp [storedLease, first, second]

theorem consistent_acquiredRow {before : Option RuntimeEndpointLeaseRow}
    (known : ∀ row, before = some row → Consistent row) (early : expiry < signedYears) :
    Consistent (acquiredRow holderId token input now expiry before) := by
  cases before with
  | none =>
    refine ⟨rfl, rfl, fun t stored => ?_, fun t stored => (by cases stored)⟩
    obtain rfl : expiry = t := Option.some.inj stored
    exact early
  | some row =>
    refine ⟨rfl, rfl, fun t stored => ?_, (known row rfl).cooldownEarly⟩
    obtain rfl : expiry = t := Option.some.inj stored
    exact early

theorem storedLease_acquiredRow (before : Option RuntimeEndpointLeaseRow) :
    storedLease (acquiredRow holderId token input now expiry before) = some (token, expiry) := by
  cases before <;> rfl

theorem consistent_freedRow (consistent : Consistent row) : Consistent (freedRow now row) :=
  ⟨rfl, rfl, fun _ stored => (by cases stored), consistent.cooldownEarly⟩

theorem consistent_extendedRow (consistent : Consistent row) (owned : owns holderId token row = true)
    (early : expiry < signedYears) (ttl : Int) : Consistent (extendedRow now ttl expiry row) := by
  have own : row.leaseToken = some token := by
    rw [owns, Bool.and_eq_true, beq_iff_eq, beq_iff_eq] at owned
    exact owned.2
  refine ⟨consistent.holder, by simp [extendedRow, own], fun t stored => ?_,
    consistent.cooldownEarly⟩
  obtain rfl : expiry = t := Option.some.inj stored
  exact early

theorem consistent_cooledRow {before : Option RuntimeEndpointLeaseRow} {reason : Option String}
    (known : ∀ row, before = some row → Consistent row) (early : cooldownUntil < signedYears) :
    Consistent (cooledRow now cooldownUntil reason before) := by
  cases before with
  | none =>
    refine ⟨rfl, rfl, fun t stored => (by cases stored), fun t stored => ?_⟩
    obtain rfl : cooldownUntil = t := Option.some.inj stored
    exact early
  | some row =>
    have own := known row rfl
    refine ⟨own.holder, own.expiry, own.early, fun t stored => ?_⟩
    obtain rfl : cooldownUntil = t := Option.some.inj stored
    exact early

theorem storedLease_of_owns (consistent : Consistent row) (owned : owns holderId token row = true) :
    ∃ expiry, storedLease row = some (token, expiry) := by
  rw [owns, Bool.and_eq_true, beq_iff_eq, beq_iff_eq] at owned
  have set := consistent.expiry
  rw [owned.2, Option.isSome_some] at set
  obtain ⟨expiry, stored⟩ := Option.isSome_iff_exists.mp set
  exact ⟨expiry, storedLease_eq_some.mpr ⟨owned.2, stored⟩⟩

theorem free_of_acquirable (consistent : Consistent row) (free : acquirable row now = true) :
    ¬ Unexpired row now ∧ ¬ CoolingDown row now := by
  rw [acquirable, Bool.and_eq_true] at free
  constructor
  · rintro ⟨token, expiry, stored, expires, running⟩
    have holder := consistent.holder
    simp only [stored, Option.isSome_some, Option.isSome_iff_ne_none] at holder
    have le : isoLe expiry now = true := by
      simpa [stored, expires, holder] using free.2
    exact absurd (le_of_isoLe (consistent.early expiry expires) le) (not_le.mpr running)
  · rintro ⟨until_, stored, running⟩
    have le : isoLe until_ now = true := by simpa [stored] using free.1
    exact absurd (le_of_isoLe (consistent.cooldownEarly until_ stored) le) (not_le.mpr running)

theorem expired_of_stale (consistent : Consistent row) (isStale : stale now row = true) :
    ¬ Unexpired row now := by
  rintro ⟨token, expiry, stored, expires, running⟩
  rw [stale, Bool.and_eq_true] at isStale
  have le : isoLe expiry now = true := by simpa [expires] using isStale.2
  exact absurd (le_of_isoLe (consistent.early expiry expires) le) (not_le.mpr running)

end Rows

/-! ### The invariant -/

/-- The lease of one endpoint. -/
def leaseOf (s : World) (endpointKey : String) : TimedLease String Nat where
  stored := (s.table endpointKey).bind storedLease
  beliefs := s.beliefs endpointKey
  clock := s.clock

structure Inv (s : World) : Prop where
  consistent : ∀ endpointKey row, s.table endpointKey = some row → Consistent row
  sound : ∀ endpointKey, (leaseOf s endpointKey).Sound

section Steps

variable {s s' : World} {now : Nat} {call : Call} {endpointKey holderId token : String}

/-- An endpoint that a call does not touch only grows older. -/
theorem sound_of_same (inv : Inv s) (later : s.clock ≤ now) (clock : s'.clock = now)
    (stored : (s'.table endpointKey).bind storedLease = (s.table endpointKey).bind storedLease)
    (beliefs : s'.beliefs endpointKey = s.beliefs endpointKey) : (leaseOf s' endpointKey).Sound := by
  have older := (inv.sound endpointKey).tick later
  rw [leaseOf, stored, beliefs, clock]
  exact older

theorem free_of_all (inv : Inv s)
    (free : (s.table endpointKey).all (acquirable · now) = true) :
    (leaseOf s endpointKey).Free now := by
  intro token expiry stored
  obtain ⟨row, found, lease⟩ := Option.bind_eq_some_iff.mp stored
  rw [found, Option.all_some] at free
  obtain ⟨ownToken, expires⟩ := storedLease_eq_some.mp lease
  by_contra running
  exact (free_of_acquirable (inv.consistent endpointKey row found) free).1
    ⟨token, expiry, ownToken, expires, not_le.mp running⟩

theorem acquire_eq_some {table : Table} {input : AcquireInput} {lease : String × Nat}
    (acquired : acquire table token input now = some lease) :
    lease = (token, now + input.leaseTtlMs.toNat) ∧
      (table input.endpointKey).all (acquirable · now) = true := by
  rw [acquire] at acquired
  split at acquired
  · cases acquired
  · rename_i expiry expires
    split at acquired
    · rename_i free
      obtain rfl := Option.some.inj acquired
      rw [expiryOf] at expires
      split_ifs at expires
      exact ⟨by rw [Option.some.inj expires], free⟩
    · cases acquired

theorem heartbeat_eq_some {table : Table} {leaseTtlMs : Int} {expiry : Nat}
    (renewed : heartbeat table endpointKey holderId token leaseTtlMs now = some expiry) :
    expiry = now + leaseTtlMs.toNat ∧ (table endpointKey).any (owns holderId token) = true := by
  rw [heartbeat] at renewed
  split at renewed
  · cases renewed
  · rename_i expiry' expires
    split at renewed
    · rename_i owned
      obtain rfl := Option.some.inj renewed
      rw [expiryOf] at expires
      split_ifs at expires
      exact ⟨(Option.some.inj expires).symm, owned⟩
    · cases renewed

theorem inv_acquire (inv : Inv s) (later : s.clock ≤ now) {input : AcquireInput}
    (early : storesFourDigitYears now (.acquire holderId token input)) :
    Inv (s.exec now (.acquire holderId token input)) := by
  cases acquired : acquire s.table token input now with
  | none =>
    constructor
    · simpa [World.exec, exec, acquired] using inv.consistent
    · intro key
      exact sound_of_same inv later rfl (by simp [World.exec, exec, acquired])
        (by simp [World.exec, learn, acquired])
  | some lease =>
    obtain ⟨rfl, free⟩ := acquire_eq_some acquired
    constructor
    · intro key row found
      by_cases same : key = input.endpointKey
      · subst same
        simp only [World.exec, exec, acquired, Function.update_self, Option.some.injEq] at found
        rw [← found]
        exact consistent_acquiredRow (inv.consistent _) early
      · refine inv.consistent key row ?_
        simpa [World.exec, exec, acquired, Function.update_of_ne same] using found
    · intro key
      by_cases same : key = input.endpointKey
      · subst same
        have granted := (inv.sound input.endpointKey).grant later (free_of_all inv free) token
          (now + input.leaseTtlMs.toNat)
        simpa [leaseOf, World.exec, exec, learn, acquired, storedLease_acquiredRow] using granted
      · exact sound_of_same inv later rfl
          (by simp [World.exec, exec, acquired, Function.update_of_ne same])
          (by simp [World.exec, learn, acquired, same])

theorem inv_heartbeat (inv : Inv s) (later : s.clock ≤ now) {leaseTtlMs : Int}
    (early : storesFourDigitYears now (.heartbeat endpointKey holderId token leaseTtlMs)) :
    Inv (s.exec now (.heartbeat endpointKey holderId token leaseTtlMs)) := by
  cases renewed : heartbeat s.table endpointKey holderId token leaseTtlMs now with
  | none =>
    constructor
    · simpa [World.exec, exec, renewed] using inv.consistent
    · intro key
      exact sound_of_same inv later rfl (by simp [World.exec, exec, renewed])
        (by simp [World.exec, learn, renewed])
  | some expiry =>
    obtain ⟨rfl, owned⟩ := heartbeat_eq_some renewed
    obtain ⟨row, found, owns_⟩ := (Option.any_eq_true _ _).mp owned
    have consistent := inv.consistent endpointKey row found
    constructor
    · intro key row' found'
      by_cases same : key = endpointKey
      · subst same
        simp only [World.exec, exec, renewed, Function.update_self, found, Option.map_some,
          Option.some.injEq] at found'
        rw [← found']
        exact consistent_extendedRow consistent owns_ early _
      · refine inv.consistent key row' ?_
        simpa [World.exec, exec, renewed, Function.update_of_ne same] using found'
    · intro key
      by_cases same : key = endpointKey
      · subst same
        obtain ⟨old, stored⟩ := storedLease_of_owns consistent owns_
        have own : (leaseOf s key).stored = some (token, old) := by
          rw [leaseOf, found, Option.bind_some, stored]
        have extended := (inv.sound key).extend later own (now + leaseTtlMs.toNat)
        have stored' : storedLease (extendedRow now leaseTtlMs (now + leaseTtlMs.toNat) row) =
            some (token, now + leaseTtlMs.toNat) :=
          storedLease_eq_some.mpr ⟨(storedLease_eq_some.mp stored).1, rfl⟩
        simpa [leaseOf, World.exec, exec, learn, renewed, found, stored'] using extended
      · exact sound_of_same inv later rfl
          (by simp [World.exec, exec, renewed, Function.update_of_ne same])
          (by simp [World.exec, learn, renewed, same])

theorem inv_release (inv : Inv s) (later : s.clock ≤ now) :
    Inv (s.exec now (.release endpointKey holderId token)) := by
  by_cases owned : (s.table endpointKey).any (owns holderId token) = true
  · obtain ⟨row, found, owns_⟩ := (Option.any_eq_true _ _).mp owned
    have consistent := inv.consistent endpointKey row found
    have after : exec s.table now (.release endpointKey holderId token) =
        Function.update s.table endpointKey (some (freedRow now row)) := by
      simp [exec, found, owns_]
    constructor
    · intro key row' found'
      by_cases same : key = endpointKey
      · subst same
        simp only [World.exec, after, Function.update_self, Option.some.injEq] at found'
        rw [← found']
        exact consistent_freedRow consistent
      · refine inv.consistent key row' ?_
        simpa [World.exec, after, Function.update_of_ne same] using found'
    · intro key
      by_cases same : key = endpointKey
      · subst same
        obtain ⟨expiry, stored⟩ := storedLease_of_owns consistent owns_
        have own : (leaseOf s key).stored = some (token, expiry) := by
          rw [leaseOf, found, Option.bind_some, stored]
        have dropped := (inv.sound key).drop later own
        have stored' : storedLease (freedRow now row) = none := rfl
        simpa [leaseOf, World.exec, after, learn, stored'] using dropped
      · exact sound_of_same inv later rfl
          (by simp [World.exec, after, Function.update_of_ne same])
          (by simp [World.exec, learn, same])
  · constructor
    · simpa [World.exec, exec, owned] using inv.consistent
    · intro key
      by_cases same : key = endpointKey
      · subst same
        have forgotten := (inv.sound key).forget later token
        simpa [leaseOf, World.exec, exec, learn, owned] using forgotten
      · exact sound_of_same inv later rfl (by simp [World.exec, exec, owned])
          (by simp [World.exec, learn, same])

theorem leaseFields_cooledRow (table : Table) (cooldownUntil : Nat) (reason : Option String)
    (key : String) :
    leaseFields (exec table now (.setCooldown endpointKey cooldownUntil reason) key) =
      leaseFields (table key) := by
  by_cases same : key = endpointKey
  · subst same
    simp only [exec, Function.update_self]
    cases table key <;> rfl
  · simp only [exec, Function.update_of_ne same]

theorem inv_setCooldown (inv : Inv s) (later : s.clock ≤ now) {cooldownUntil : Nat}
    {reason : Option String}
    (early : storesFourDigitYears now (.setCooldown endpointKey cooldownUntil reason)) :
    Inv (s.exec now (.setCooldown endpointKey cooldownUntil reason)) := by
  constructor
  · intro key row found
    by_cases same : key = endpointKey
    · subst same
      simp only [World.exec, exec, Function.update_self, Option.some.injEq] at found
      rw [← found]
      exact consistent_cooledRow (inv.consistent key) early
    · refine inv.consistent key row ?_
      simpa [World.exec, exec, Function.update_of_ne same] using found
  · intro key
    refine sound_of_same inv later rfl ?_ rfl
    by_cases same : key = endpointKey
    · subst same
      simp only [World.exec, exec, Function.update_self]
      cases s.table key <;> rfl
    · simp only [World.exec, exec, Function.update_of_ne same]

theorem inv_releaseStale (inv : Inv s) (later : s.clock ≤ now) :
    Inv (s.exec now .releaseStale) := by
  constructor
  · intro key row found
    obtain ⟨row', found', rfl⟩ := Option.map_eq_some_iff.mp found
    have consistent := inv.consistent key row' found'
    split
    · exact consistent_freedRow consistent
    · exact consistent
  · intro key
    cases found : s.table key with
    | none => exact sound_of_same inv later rfl (by simp [World.exec, exec, found]) rfl
    | some row =>
      by_cases isStale : stale now row = true
      · have consistent := inv.consistent key row found
        have free : (leaseOf s key).Free now := by
          intro token expiry stored
          rw [leaseOf, found, Option.bind_some] at stored
          obtain ⟨ownToken, expires⟩ := storedLease_eq_some.mp stored
          by_contra running
          exact expired_of_stale consistent isStale
            ⟨token, expiry, ownToken, expires, not_le.mp running⟩
        have swept := (inv.sound key).sweep later free
        have stored' : storedLease (freedRow now row) = none := rfl
        simpa [leaseOf, World.exec, exec, learn, found, isStale, stored'] using swept
      · exact sound_of_same inv later rfl (by simp [World.exec, exec, found, isStale]) rfl

/-- Every statement keeps the invariant, as long as the instants it stores compare as
their texts. -/
theorem Inv.step (inv : Inv s) (later : s.clock ≤ now) (early : storesFourDigitYears now call) :
    Inv (s.exec now call) := by
  cases call with
  | acquire holderId token input => exact inv_acquire inv later early
  | heartbeat endpointKey holderId token leaseTtlMs => exact inv_heartbeat inv later early
  | release endpointKey holderId token => exact inv_release inv later
  | setCooldown endpointKey cooldownUntil reason => exact inv_setCooldown inv later early
  | releaseStale => exact inv_releaseStale inv later

theorem inv_of_reaches
    (reached : Reaches leaseSystem (fun _ call => storesFourDigitYears call.1 call.2) s) :
    Inv s := by
  refine reached.invariant ?_ ?_
  · rintro s rfl
    exact ⟨fun _ _ found => (by cases found), fun _ => ⟨fun believed => (by cases believed)⟩⟩
  · rintro s ⟨now, call⟩ s' inv early ⟨later, -, rfl⟩
    exact inv.step later early

end Steps

/-! ### Exclusion and fencing -/

section Laws

variable {s : World}

theorem Inv.exclusive (inv : Inv s) : Exclusive s := by
  intro now endpointKey token expiry later believed running
  have sound := inv.sound endpointKey
  constructor
  · have stored := sound.stored_of_believed believed (lt_of_le_of_lt later running)
    obtain ⟨row, found, lease⟩ := Option.bind_eq_some_iff.mp stored
    rw [found]
    exact (storedLease_eq_some.mp lease).1
  · intro token' expiry' believed' running'
    exact sound.exclusive believed' believed (lt_of_le_of_lt later running')
      (lt_of_le_of_lt later running)

theorem token_of_any_owns {row : Option RuntimeEndpointLeaseRow} {holderId token : String}
    (owned : row.any (owns holderId token) = true) : row.bind (·.leaseToken) = some token := by
  obtain ⟨row, rfl, owns_⟩ := (Option.any_eq_true _ _).mp owned
  rw [owns, Bool.and_eq_true, beq_iff_eq, beq_iff_eq] at owns_
  exact owns_.2

theorem Inv.respects (inv : Inv s) (now : Nat) (call : Call) : Respects s.table now call := by
  cases call with
  | acquire holderId token input =>
    intro acquired row found
    obtain ⟨lease, eq⟩ := Option.isSome_iff_exists.mp acquired
    have free := (acquire_eq_some eq).2
    rw [found, Option.all_some] at free
    exact free_of_acquirable (inv.consistent _ row found) free
  | heartbeat endpointKey holderId token leaseTtlMs =>
    intro key changed
    cases renewed : heartbeat s.table endpointKey holderId token leaseTtlMs now with
    | none => simp [exec, renewed] at changed
    | some expiry =>
      have owned := (heartbeat_eq_some renewed).2
      by_cases same : key = endpointKey
      · subst same
        exact ⟨rfl, token_of_any_owns owned⟩
      · simp [exec, renewed, Function.update_of_ne same] at changed
  | release endpointKey holderId token =>
    intro key changed
    by_cases owned : (s.table endpointKey).any (owns holderId token) = true
    · by_cases same : key = endpointKey
      · subst same
        exact ⟨rfl, token_of_any_owns owned⟩
      · simp [exec, owned, Function.update_of_ne same] at changed
    · simp [exec, owned] at changed
  | setCooldown endpointKey cooldownUntil reason =>
    exact leaseFields_cooledRow s.table cooldownUntil reason
  | releaseStale =>
    intro key row found running
    have fresh : ¬ stale now row = true := fun isStale =>
      expired_of_stale (inv.consistent key row found) isStale running
    simp [exec, found, fresh]

/-- In every state that is reached by storing instants with four-digit years, the leases
are exclusive, and every further call respects what it finds. -/
theorem leases_exclusive_and_fenced
    (reached : Reaches leaseSystem (fun _ call => storesFourDigitYears call.1 call.2) s) :
    Exclusive s ∧ ∀ now call, s.clock ≤ now → Respects s.table now call :=
  have inv := inv_of_reaches reached
  ⟨inv.exclusive, fun now call _ => inv.respects now call⟩

def emptyWorld : World := ⟨fun _ => none, fun _ _ => none, 0, []⟩

/-- A lease of an endpoint for so many milliseconds. -/
def leaseFor (leaseTtlMs : Int) : AcquireInput :=
  ⟨"endpoint", none, "http://localhost", "qwen", none, none, leaseTtlMs⟩

def shortLease : Call := .acquire "holder" "token" (leaseFor 60000)

theorem leases_exclusive_and_fenced_shortLease :
    Exclusive (emptyWorld.exec 1000 shortLease) ∧
      ∀ now call, 1000 ≤ now → Respects (emptyWorld.exec 1000 shortLease).table now call := by
  have early : storesFourDigitYears 1000 shortLease :=
    (by decide : 1000 + (60000 : Int).toNat < signedYears)
  exact leases_exclusive_and_fenced (.step (i := (1000, shortLease)) (.init rfl) early
    ⟨Nat.zero_le _, fun _ _ => List.not_mem_nil, rfl⟩)

/-- A lease that ends after the year 9999 is taken over at once. -/
theorem long_lease_taken_over :
    ¬ ∀ s, Reachable leaseSystem s → Exclusive s ∧
      ∀ now call, s.clock ≤ now → Respects s.table now call := by
  intro all
  let long : Call := .acquire "holder" "token" (leaseFor 300000000000000)
  have reached : Reachable leaseSystem (emptyWorld.exec 1000 long) :=
    .step (i := (1000, long)) (.init rfl) trivial ⟨Nat.zero_le _, fun _ _ => List.not_mem_nil, rfl⟩
  have respects := (all _ reached).2 2000 (.acquire "other" "next" (leaseFor 60000)) (by decide)
  obtain ⟨row, found⟩ : ∃ row, (emptyWorld.exec 1000 long).table "endpoint" = some row :=
    Option.isSome_iff_exists.mp (by decide)
  have running : Unexpired row 2000 := by
    have same : some row = some (acquiredRow "holder" "token" (leaseFor 300000000000000) 1000
        300000000001000 none) := found.symm.trans (by decide)
    rw [Option.some.inj same]
    exact ⟨"token", 300000000001000, rfl, rfl, by decide⟩
  exact (respects (by decide) row found).1 running

end Laws

end AifHandoff.Data.EndpointLease
