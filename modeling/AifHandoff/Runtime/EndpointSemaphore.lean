import AifHandoff.Lib.Transition
import Mathlib.Data.List.Infix
import Mathlib.Data.List.Nodup
import Mathlib.Logic.Function.Basic
import Mathlib.Logic.Relation

/-!
The semaphore of a model endpoint (`runtime/adapters/qwenLocalAgent/api.ts`).

A release hands the semaphore to the first waiter by resolving its promise; the waiter goes on
later, and an abort may come in between. The semaphore belongs to a caller from the moment it is
handed over or taken until its release.
-/

namespace AifHandoff.Runtime.EndpointSemaphore

/-- One call of `acquireEndpointSemaphore`. -/
abbrev Caller := Nat

abbrev Signal := Nat

inductive Rejection where
  | aborted
  | queueFull
  | queueTimeout
  deriving DecidableEq

inductive Phase where
  /-- The call was not made. -/
  | fresh
  /-- In the queue, with its timer and its abort listener. -/
  | waiting
  /-- Its promise is resolved; it goes on later. -/
  | handed
  /-- Behind a successful acquire. -/
  | holding
  | released
  | rejected (rejection : Rejection)
  deriving DecidableEq

inductive Outcome where
  | admitted
  | rejected (rejection : Rejection)
  deriving DecidableEq

/-- The calls that an endpoint sees. -/
structure Calls where
  signal : Caller → Option Signal
  /-- `readEndpointQueueLimit`. -/
  queueLimit : Caller → Nat

/-- The entry of `endpointSemaphores`, the callers, and what has happened. -/
structure Endpoint where
  active : Bool := false
  queue : List Caller := []
  phase : Caller → Phase := fun _ => .fresh
  aborted : Signal → Bool := fun _ => false
  /-- The callers that found the semaphore free or entered the queue, in order. -/
  arrivals : List Caller := []
  outcomes : List (Caller × Outcome) := []

namespace Endpoint

def isAborted (calls : Calls) (s : Endpoint) (c : Caller) : Bool :=
  (calls.signal c).any s.aborted

def settle (s : Endpoint) (c : Caller) (phase : Phase) (outcome : Outcome) : Endpoint :=
  { s with
    phase := Function.update s.phase c phase
    outcomes := s.outcomes ++ [(c, outcome)] }

def reject (s : Endpoint) (c : Caller) (rejection : Rejection) : Endpoint :=
  s.settle c (.rejected rejection) (.rejected rejection)

def releaseEndpointSemaphoreState (s : Endpoint) : Endpoint :=
  match s.queue with
  | next :: rest =>
    { s with
      queue := rest
      phase := Function.update s.phase next .handed }
  | [] => { s with active := false }

/-- `acquireEndpointSemaphore` up to its first wait. -/
def acquire (calls : Calls) (s : Endpoint) (c : Caller) : Endpoint :=
  if s.isAborted calls c then s.reject c .aborted
  else if s.active then
    if calls.queueLimit c ≤ s.queue.length then s.reject c .queueFull
    else
      { s with
        queue := s.queue ++ [c]
        phase := Function.update s.phase c .waiting
        arrivals := s.arrivals ++ [c] }
  else
    { s.settle c .holding .admitted with
      active := true
      arrivals := s.arrivals ++ [c] }

/-- A waiter behind its resolved promise. -/
def resume (calls : Calls) (s : Endpoint) (c : Caller) : Endpoint :=
  if s.isAborted calls c then s.releaseEndpointSemaphoreState.reject c .aborted
  else { s.settle c .holding .admitted with active := true }

def release (s : Endpoint) (c : Caller) : Endpoint :=
  let s := s.releaseEndpointSemaphoreState
  { s with phase := Function.update s.phase c .released }

/-- `onTimeout` and `onAbort` of one entry. -/
def leave (s : Endpoint) (c : Caller) (rejection : Rejection) : Endpoint :=
  { s with queue := s.queue.erase c }.reject c rejection

/-- A signal runs the listeners of the entries in the queue that wait with it. -/
def abort (calls : Calls) (s : Endpoint) (signal : Signal) : Endpoint :=
  let s := { s with aborted := Function.update s.aborted signal true }
  (s.queue.filter fun c => calls.signal c = some signal).foldl (fun s c => s.leave c .aborted) s

end Endpoint

inductive Event where
  | acquire (c : Caller)
  | resume (c : Caller)
  | release (c : Caller)
  | timeout (c : Caller)
  | abort (signal : Signal)
  deriving DecidableEq

/-- When an event can happen. -/
def enabled (s : Endpoint) : Event → Prop
  | .acquire c => s.phase c = .fresh
  | .resume c => s.phase c = .handed
  | .release c => s.phase c = .holding
  | .timeout c => s.phase c = .waiting
  | .abort _ => True

instance (s : Endpoint) : DecidablePred (enabled s) := fun event => by
  cases event <;> unfold enabled <;> infer_instance

def exec (calls : Calls) (s : Endpoint) : Event → Endpoint
  | .acquire c => s.acquire calls c
  | .resume c => s.resume calls c
  | .release c => s.release c
  | .timeout c => s.leave c .queueTimeout
  | .abort signal => s.abort calls signal

def system (calls : Calls) : Transition.System Endpoint Event where
  init s := s = {}
  step s event s' := enabled s event ∧ s' = exec calls s event

/-! ### The invariant -/

/-- The semaphore was given to the caller and not given back. -/
def Owns (s : Endpoint) (c : Caller) : Prop := s.phase c = .handed ∨ s.phase c = .holding

/-- Every entry stands in front of the limit that its caller set. -/
def Fits (limit : Caller → Nat) : Nat → List Caller → Prop
  | _, [] => True
  | ahead, c :: rest => ahead < limit c ∧ Fits limit (ahead + 1) rest

def outcomeOf : Phase → Option Outcome
  | .fresh | .waiting | .handed => none
  | .holding | .released => some .admitted
  | .rejected rejection => some (.rejected rejection)

/-- What callers and queue have to do with each other. -/
structure Queued (calls : Calls) (s : Endpoint) : Prop where
  nodup : s.queue.Nodup
  waits : ∀ c, c ∈ s.queue ↔ s.phase c = .waiting
  owner : ∀ c d, Owns s c → Owns s d → c = d
  busy : s.active = true ↔ ∃ c, Owns s c
  free : s.active = false → s.queue = []
  fits : Fits calls.queueLimit 0 s.queue

/-- The callers behind a successful acquire, in the order of their success. -/
def admitted (s : Endpoint) : List Caller :=
  (s.outcomes.filter (·.2 = .admitted)).map (·.1)

/-- What has happened so far. A caller that the semaphore was handed to comes behind the admitted
ones and before the queue. -/
structure Recorded (s : Endpoint) : Prop where
  order : ∀ next : Option Caller, (∀ c ∈ next, s.phase c = .handed) →
    (admitted s ++ next.toList ++ s.queue).Sublist s.arrivals
  arrived : s.arrivals.Nodup
  called : ∀ c ∈ s.arrivals, s.phase c ≠ .fresh
  once : ∀ c, (s.outcomes.filter (·.1 = c)).map (·.2) = (outcomeOf (s.phase c)).toList

section Fits

variable {limit : Caller → Nat} {ahead fewer : Nat} {queue shorter : List Caller} {c : Caller}

theorem Fits.mono (fits : Fits limit ahead queue) (less : fewer ≤ ahead) :
    Fits limit fewer queue := by
  induction queue generalizing ahead fewer with
  | nil => trivial
  | cons c rest ih => exact ⟨less.trans_lt fits.1, ih fits.2 (Nat.succ_le_succ less)⟩

theorem Fits.sublist (fits : Fits limit ahead queue) (sub : shorter.Sublist queue) :
    Fits limit ahead shorter := by
  induction sub generalizing ahead with
  | slnil => trivial
  | cons c _ ih => exact ih (fits.2.mono (Nat.le_succ ahead))
  | cons_cons c _ ih => exact ⟨fits.1, ih fits.2⟩

theorem Fits.concat (fits : Fits limit ahead queue) (room : ahead + queue.length < limit c) :
    Fits limit ahead (queue ++ [c]) := by
  induction queue generalizing ahead with
  | nil => exact ⟨room, trivial⟩
  | cons d rest ih =>
    rw [List.length_cons] at room
    exact ⟨fits.1, ih fits.2 (by omega)⟩

theorem Fits.lt {i : Nat} (fits : Fits limit ahead queue) (at_ : queue[i]? = some c) :
    ahead + i < limit c := by
  induction queue generalizing ahead i with
  | nil => cases at_
  | cons d rest ih =>
    cases i with
    | zero =>
      cases at_
      exact fits.1
    | succ i =>
      have later := ih fits.2 at_
      omega

end Fits

variable {calls : Calls} {s s' : Endpoint} {c d : Caller}

theorem not_owns_of_waiting (waiting : s.phase c = .waiting) : ¬ Owns s c := by
  rintro (handed | holding)
  · rw [waiting] at handed
    cases handed
  · rw [waiting] at holding
    cases holding

/-! ### One step -/

/-- The phase of one caller is replaced. -/
theorem once_update {phase : Phase} (once : ∀ d, (s.outcomes.filter (·.1 = d)).map (·.2) =
      (outcomeOf (s.phase d)).toList) (same : outcomeOf phase = outcomeOf (s.phase c))
    (d : Caller) :
    (s.outcomes.filter (·.1 = d)).map (·.2) =
      (outcomeOf (Function.update s.phase c phase d)).toList := by
  rw [once d]
  by_cases other : d = c
  · rw [other, Function.update_self, same]
  · rw [Function.update_of_ne other]

/-- A caller without an outcome gets one. -/
theorem once_settle {phase : Phase} {outcome : Outcome}
    (once : ∀ d, (s.outcomes.filter (·.1 = d)).map (·.2) = (outcomeOf (s.phase d)).toList)
    (open_ : outcomeOf (s.phase c) = none) (settled : outcomeOf phase = some outcome) (d : Caller) :
    ((s.outcomes ++ [(c, outcome)]).filter (·.1 = d)).map (·.2) =
      (outcomeOf (Function.update s.phase c phase d)).toList := by
  rw [List.filter_append, List.map_append, once d]
  by_cases other : d = c
  · rw [other, Function.update_self, open_, settled]
    simp
  · rw [Function.update_of_ne other]
    simp [Ne.symm other]

theorem releaseEndpointSemaphoreState_nil (empty : s.queue = []) :
    s.releaseEndpointSemaphoreState = { s with active := false } := by
  rw [Endpoint.releaseEndpointSemaphoreState, empty]

theorem releaseEndpointSemaphoreState_cons {next : Caller} {rest : List Caller}
    (shape : s.queue = next :: rest) : s.releaseEndpointSemaphoreState =
      { s with
        queue := rest
        phase := Function.update s.phase next .handed } := by
  rw [Endpoint.releaseEndpointSemaphoreState, shape]

/-- The invariant looks at the queue, the flag and the phases. -/
theorem Queued.of_same (queued : Queued calls s) (queue : s'.queue = s.queue)
    (active : s'.active = s.active) (phase : s'.phase = s.phase) : Queued calls s' := by
  obtain ⟨nodup, waits, owner, busy, free, fits⟩ := queued
  refine ⟨?_, ?_, ?_, ?_, ?_, ?_⟩ <;> simp only [Owns, queue, active, phase] at * <;> assumption

/-- The owner gives the semaphore back and goes on in a phase without it. -/
theorem Queued.giveBack (queued : Queued calls s) (owns : Owns s c) (phase : Phase)
    (noWait : phase ≠ .waiting) (noHand : phase ≠ .handed) (noHold : phase ≠ .holding) :
    Queued calls { s.releaseEndpointSemaphoreState with
      phase := Function.update s.releaseEndpointSemaphoreState.phase c phase } := by
  have cOut : c ∉ s.queue := fun inside => not_owns_of_waiting ((queued.waits c).mp inside) owns
  have isOwner : ∀ d, Owns s d → d = c := fun d other => queued.owner d c other owns
  have notOwns : ¬ (phase = .handed ∨ phase = .holding) := fun either => either.elim noHand noHold
  cases shape : s.queue with
  | nil =>
    have nobody : ∀ d, ¬ (Function.update s.phase c phase d = .handed ∨
        Function.update s.phase c phase d = .holding) := by
      intro d
      by_cases same : d = c
      · rw [same, Function.update_self]
        exact notOwns
      · rw [Function.update_of_ne same]
        exact fun other => same (isOwner d other)
    have nobodyWaits : ∀ d, s.phase d ≠ .waiting := by
      intro d waiting
      have inside := (queued.waits d).mpr waiting
      rw [shape] at inside
      cases inside
    rw [releaseEndpointSemaphoreState_nil shape]
    refine ⟨?_, fun d => ?_, fun d _ first => absurd first (nobody d), ?_, fun _ => shape, ?_⟩
    · exact queued.nodup
    · by_cases same : d = c
      · simp [same, shape, noWait]
      · simp [same, shape, nobodyWaits d]
    · exact ⟨nofun, fun ⟨d, first⟩ => absurd first (nobody d)⟩
    · exact queued.fits
  | cons next rest =>
    have nodup := queued.nodup
    rw [shape, List.nodup_cons] at nodup
    have inQueue (d : Caller) : d = next ∨ d ∈ rest ↔ s.phase d = .waiting := by
      rw [← queued.waits, shape, List.mem_cons]
    have nextNe : next ≠ c := by
      rintro rfl
      exact cOut (by rw [shape]; exact List.mem_cons_self)
    have ownsIff (d : Caller) : Function.update (Function.update s.phase next .handed) c phase d =
        .handed ∨ Function.update (Function.update s.phase next .handed) c phase d = .holding ↔
          d = next := by
      by_cases same : d = c
      · rw [same, Function.update_self]
        exact ⟨fun either => absurd either notOwns, fun isNext => absurd isNext.symm nextNe⟩
      · rw [Function.update_of_ne same]
        by_cases isNext : d = next
        · simp [isNext]
        · rw [Function.update_of_ne isNext]
          exact ⟨fun other => absurd (isOwner d other) same, fun is => absurd is isNext⟩
    rw [releaseEndpointSemaphoreState_cons shape]
    refine ⟨nodup.2, fun d => ?_, fun d e first second => ?_, ?_, fun idle => ?_, ?_⟩
    · by_cases same : d = c
      · have out : c ∉ rest := fun inside => cOut (by simp [shape, inside])
        simp [same, out, noWait]
      · by_cases isNext : d = next
        · simp [isNext, nodup.1, Function.update_of_ne nextNe]
        · simp only [Function.update_of_ne same, Function.update_of_ne isNext]
          rw [← inQueue]
          simp [isNext]
    · rw [(ownsIff d).mp first, (ownsIff e).mp second]
    · exact ⟨fun _ => ⟨next, (ownsIff next).mpr rfl⟩, fun _ => queued.busy.mpr ⟨c, owns⟩⟩
    · have busy := queued.busy.mpr ⟨c, owns⟩
      rw [show s.active = false from idle] at busy
      cases busy
    · have fits := queued.fits
      rw [shape] at fits
      exact fits.2.mono (Nat.zero_le _)

theorem Queued.setPhase (queued : Queued calls s) (phase : Phase) (outside : c ∉ s.queue)
    (notOwner : ¬ Owns s c) (noWait : phase ≠ .waiting) (noHand : phase ≠ .handed)
    (noHold : phase ≠ .holding) :
    Queued calls { s with phase := Function.update s.phase c phase } := by
  have owns_iff (d : Caller) :
      Owns { s with phase := Function.update s.phase c phase } d ↔ Owns s d := by
    by_cases same : d = c
    · rw [same]
      simp only [Owns, Function.update_self]
      exact ⟨fun either => absurd either (by simp [noHand, noHold]),
        fun owns => absurd owns notOwner⟩
    · simp only [Owns, Function.update_of_ne same]
  refine ⟨queued.nodup, fun d => ?_, fun d e first second => ?_, ?_, queued.free, queued.fits⟩
  · by_cases same : d = c
    · simp [same, outside, noWait]
    · simpa only [Function.update_of_ne same] using queued.waits d
  · exact queued.owner d e ((owns_iff d).mp first) ((owns_iff e).mp second)
  · simpa only [owns_iff] using queued.busy

/-- A caller behind the last entry of the queue waits. -/
theorem Queued.enqueue (queued : Queued calls s) (fresh : s.phase c = .fresh)
    (busy : s.active = true) (room : s.queue.length < calls.queueLimit c) :
    Queued calls { s with
      queue := s.queue ++ [c]
      phase := Function.update s.phase c .waiting } := by
  have outside : c ∉ s.queue := by
    intro inside
    rw [queued.waits, fresh] at inside
    cases inside
  have owns_iff (d : Caller) : Owns { s with
      queue := s.queue ++ [c]
      phase := Function.update s.phase c .waiting } d ↔ Owns s d := by
    by_cases same : d = c
    · simp [Owns, same, fresh]
    · simp only [Owns, Function.update_of_ne same]
  refine ⟨?_, fun d => ?_, fun d e first second => ?_, ?_, fun idle => ?_, ?_⟩
  · exact List.nodup_append.mpr ⟨queued.nodup, List.nodup_singleton c,
      fun a inside b isC => by
        rw [List.mem_singleton.mp isC]
        exact fun same => outside (same ▸ inside)⟩
  · by_cases same : d = c
    · simp [same]
    · simpa [Function.update_of_ne same, same] using queued.waits d
  · exact queued.owner d e ((owns_iff d).mp first) ((owns_iff e).mp second)
  · simpa only [owns_iff] using queued.busy
  · rw [show s.active = false from idle] at busy
    cases busy
  · exact queued.fits.concat (by omega)

theorem Queued.take (queued : Queued calls s) (outside : c ∉ s.queue)
    (alone : ∀ d, Owns s d → d = c) :
    Queued calls { s with active := true, phase := Function.update s.phase c .holding } := by
  have owns_iff (d : Caller) :
      Owns { s with active := true, phase := Function.update s.phase c .holding } d ↔ d = c := by
    by_cases same : d = c
    · simp [Owns, same]
    · simp only [Owns, Function.update_of_ne same]
      exact ⟨alone d, fun isC => absurd isC same⟩
  refine ⟨queued.nodup, fun d => ?_, fun d e first second => ?_, ?_, nofun, queued.fits⟩
  · by_cases same : d = c
    · simp [same, outside]
    · simpa only [Function.update_of_ne same] using queued.waits d
  · rw [(owns_iff d).mp first, (owns_iff e).mp second]
  · exact ⟨fun _ => ⟨c, (owns_iff c).mpr rfl⟩, fun _ => rfl⟩

theorem Queued.leave (queued : Queued calls s) (waiting : s.phase c = .waiting) (phase : Phase)
    (noWait : phase ≠ .waiting) (noHand : phase ≠ .handed) (noHold : phase ≠ .holding) :
    Queued calls { s with
      queue := s.queue.erase c
      phase := Function.update s.phase c phase } := by
  have owns_iff (d : Caller) : Owns { s with
      queue := s.queue.erase c
      phase := Function.update s.phase c phase } d ↔ Owns s d := by
    by_cases same : d = c
    · simp [Owns, same, waiting, noHand, noHold]
    · simp only [Owns, Function.update_of_ne same]
  refine ⟨queued.nodup.erase c, fun d => ?_, fun d e first second => ?_, ?_, fun idle => ?_, ?_⟩
  · by_cases same : d = c
    · simp [same, queued.nodup.not_mem_erase, noWait]
    · rw [List.mem_erase_of_ne same]
      simpa only [Function.update_of_ne same] using queued.waits d
  · exact queued.owner d e ((owns_iff d).mp first) ((owns_iff e).mp second)
  · simpa only [owns_iff] using queued.busy
  · rw [queued.free idle]
    rfl
  · exact queued.fits.sublist List.erase_sublist

theorem admitted_settle {phase : Phase} {outcome : Outcome} :
    admitted (s.settle c phase outcome) =
      admitted s ++ (if outcome = .admitted then [c] else []) := by
  rw [admitted, Endpoint.settle, List.filter_append, List.map_append]
  by_cases isAdmitted : outcome = .admitted
  · simp [admitted, isAdmitted]
  · simp [admitted, isAdmitted]

theorem Recorded.reject (recorded : Recorded s) (open_ : outcomeOf (s.phase c) = none)
    (rejection : Rejection) : Recorded (s.reject c rejection) := by
  refine ⟨fun next handed => ?_, recorded.arrived, fun d inside => ?_, ?_⟩
  · rw [Endpoint.reject, admitted_settle, if_neg (by simp), List.append_nil]
    refine recorded.order next fun d isNext => ?_
    have handed' := handed d isNext
    by_cases same : d = c
    · simp [Endpoint.reject, Endpoint.settle, same] at handed'
    · simpa [Endpoint.reject, Endpoint.settle, same] using handed'
  · by_cases same : d = c
    · simp [Endpoint.reject, Endpoint.settle, same]
    · simpa [Endpoint.reject, Endpoint.settle, same] using recorded.called d inside
  · exact once_settle recorded.once open_ rfl

/-- The semaphore goes on to the first waiter, or becomes free. -/
theorem Recorded.releaseState (recorded : Recorded s) (queued : Queued calls s)
    (owns : Owns s c) :
    (∀ next : Option Caller,
      (∀ d ∈ next, d ≠ c ∧ s.releaseEndpointSemaphoreState.phase d = .handed) →
      (admitted s ++ next.toList ++ s.releaseEndpointSemaphoreState.queue).Sublist s.arrivals) ∧
    ∀ d, (s.outcomes.filter (·.1 = d)).map (·.2) =
      (outcomeOf (s.releaseEndpointSemaphoreState.phase d)).toList := by
  have noHand : ∀ d, d ≠ c → s.phase d ≠ .handed :=
    fun d other isHanded => other (queued.owner d c (.inl isHanded) owns)
  cases shape : s.queue with
  | nil =>
    rw [releaseEndpointSemaphoreState_nil shape]
    refine ⟨fun next handed => ?_, recorded.once⟩
    cases next with
    | none => exact recorded.order none (by simp)
    | some d =>
      obtain ⟨other, isHanded⟩ := handed d rfl
      exact absurd isHanded (noHand d other)
  | cons first rest =>
    have waiting : s.phase first = .waiting := (queued.waits first).mp (by simp [shape])
    have order := recorded.order none (by simp)
    rw [shape, Option.toList_none, List.append_nil] at order
    rw [releaseEndpointSemaphoreState_cons shape]
    refine ⟨fun next handed => ?_, once_update recorded.once (by rw [waiting]; rfl)⟩
    cases next with
    | none =>
      refine List.Sublist.trans ?_ order
      simp
    | some d =>
      obtain ⟨other, isHanded⟩ := handed d rfl
      obtain rfl : d = first := by
        by_contra differs
        simp only [Function.update_of_ne differs] at isHanded
        exact noHand d other isHanded
      simpa using order

structure Sound (calls : Calls) (s : Endpoint) : Prop where
  queued : Queued calls s
  recorded : Recorded s

theorem Sound.reject (sound : Sound calls s) (fresh : s.phase c = .fresh) (rejection : Rejection) :
    Sound calls (s.reject c rejection) := by
  have outside : c ∉ s.queue := by
    intro inside
    rw [sound.queued.waits, fresh] at inside
    cases inside
  have notOwner : ¬ Owns s c := by
    rintro (handed | holding)
    · rw [fresh] at handed
      cases handed
    · rw [fresh] at holding
      cases holding
  have kept := sound.queued.setPhase (.rejected rejection) outside notOwner nofun nofun nofun
  exact ⟨kept.of_same rfl rfl rfl, sound.recorded.reject (by rw [fresh]; rfl) rejection⟩

theorem not_mem_arrivals (recorded : Recorded s) (fresh : s.phase c = .fresh) :
    c ∉ s.arrivals :=
  fun inside => recorded.called c inside fresh

theorem nodup_concat_arrivals (recorded : Recorded s) (fresh : s.phase c = .fresh) :
    (s.arrivals ++ [c]).Nodup := by
  rw [List.nodup_append]
  refine ⟨recorded.arrived, List.nodup_singleton c, fun a inside b isC same => ?_⟩
  rw [same, List.mem_singleton.mp isC] at inside
  exact not_mem_arrivals recorded fresh inside

/-- What `called` says of the callers of a longer list whose last one changes its phase. -/
theorem called_concat (recorded : Recorded s) {phase : Phase} (called : phase ≠ .fresh)
    (inside : d ∈ s.arrivals ++ [c]) : Function.update s.phase c phase d ≠ .fresh := by
  by_cases same : d = c
  · rw [same, Function.update_self]
    exact called
  · rw [Function.update_of_ne same]
    exact recorded.called d ((List.mem_append.mp inside).resolve_right
      fun last => same (List.mem_singleton.mp last))

theorem Sound.enqueue (sound : Sound calls s) (fresh : s.phase c = .fresh)
    (busy : s.active = true) (room : s.queue.length < calls.queueLimit c) :
    Sound calls { s with
      queue := s.queue ++ [c]
      phase := Function.update s.phase c .waiting
      arrivals := s.arrivals ++ [c] } := by
  refine ⟨(sound.queued.enqueue fresh busy room).of_same rfl rfl rfl, ?_, ?_, ?_, ?_⟩
  · intro next handed
    have order := sound.recorded.order next fun d isNext => by
      have handed' := handed d isNext
      by_cases same : d = c
      · simp [same] at handed'
      · simpa [same] using handed'
    rw [← List.append_assoc]
    exact order.append (List.Sublist.refl [c])
  · exact nodup_concat_arrivals sound.recorded fresh
  · exact fun d inside => called_concat sound.recorded nofun inside
  · exact once_update sound.recorded.once (by rw [fresh]; rfl)

/-- A caller finds the semaphore free. -/
theorem Sound.takeFree (sound : Sound calls s) (fresh : s.phase c = .fresh)
    (idle : s.active = false) :
    Sound calls { s.settle c .holding .admitted with
      active := true
      arrivals := s.arrivals ++ [c] } := by
  have nobody : ∀ d, ¬ Owns s d := by
    intro d owns
    rw [sound.queued.busy.mpr ⟨d, owns⟩] at idle
    cases idle
  have empty := sound.queued.free idle
  have outside : c ∉ s.queue := by
    rw [empty]
    exact List.not_mem_nil
  refine ⟨(sound.queued.take outside fun d owns => absurd owns (nobody d)).of_same rfl rfl rfl,
    ?_, ?_, ?_, ?_⟩
  · intro next handed
    have order := sound.recorded.order none (by simp)
    rw [empty, Option.toList_none, List.append_nil, List.append_nil] at order
    obtain rfl : next = none := by
      cases next with
      | none => rfl
      | some d =>
        have handed' := handed d rfl
        by_cases same : d = c
        · simp [Endpoint.settle, same] at handed'
        · simp only [Endpoint.settle, Function.update_of_ne same] at handed'
          exact absurd (.inl handed') (nobody d)
    have grown : admitted { s.settle c .holding .admitted with
        active := true, arrivals := s.arrivals ++ [c] } = admitted s ++ [c] :=
      (@admitted_settle s c .holding .admitted).trans (by simp)
    rw [grown, Option.toList_none, List.append_nil]
    simp only [Endpoint.settle, empty, List.append_nil]
    exact order.append (List.Sublist.refl [c])
  · exact nodup_concat_arrivals sound.recorded fresh
  · exact fun d inside => called_concat sound.recorded nofun inside
  · exact once_settle sound.recorded.once (by rw [fresh]; rfl) rfl

theorem Sound.acquire (sound : Sound calls s) (fresh : s.phase c = .fresh) :
    Sound calls (s.acquire calls c) := by
  unfold Endpoint.acquire
  split
  · exact sound.reject fresh .aborted
  · split
    case isTrue busy =>
      split
      · exact sound.reject fresh .queueFull
      · case isFalse room => exact sound.enqueue fresh busy (Nat.lt_of_not_le room)
    case isFalse idle => exact sound.takeFree fresh (by simpa using idle)

/-- The owner goes on behind its resolved promise. -/
theorem Sound.admit (sound : Sound calls s) (handed : s.phase c = .handed) :
    Sound calls { s.settle c .holding .admitted with active := true } := by
  have outside : c ∉ s.queue := by
    intro inside
    rw [sound.queued.waits, handed] at inside
    cases inside
  have alone : ∀ d, Owns s d → d = c := fun d owns => sound.queued.owner d c owns (.inl handed)
  refine ⟨(sound.queued.take outside alone).of_same rfl rfl rfl, ?_, sound.recorded.arrived, ?_, ?_⟩
  · intro next isHanded
    have order := sound.recorded.order (some c) (by simp [handed])
    obtain rfl : next = none := by
      cases next with
      | none => rfl
      | some d =>
        have handed' := isHanded d rfl
        by_cases same : d = c
        · simp [Endpoint.settle, same] at handed'
        · simp only [Endpoint.settle, Function.update_of_ne same] at handed'
          exact absurd (alone d (.inl handed')) same
    have grown : admitted { s.settle c .holding .admitted with active := true } =
        admitted s ++ [c] :=
      (@admitted_settle s c .holding .admitted).trans (by simp)
    rw [grown, Option.toList_none, List.append_nil]
    exact order
  · intro d inside
    by_cases same : d = c
    · simp [Endpoint.settle, same]
    · simpa [Endpoint.settle, same] using sound.recorded.called d inside
  · exact once_settle sound.recorded.once (by rw [handed]; rfl) rfl

@[simp] theorem releaseEndpointSemaphoreState_outcomes (s : Endpoint) :
    s.releaseEndpointSemaphoreState.outcomes = s.outcomes := by
  rw [Endpoint.releaseEndpointSemaphoreState]
  split <;> rfl

@[simp] theorem releaseEndpointSemaphoreState_arrivals (s : Endpoint) :
    s.releaseEndpointSemaphoreState.arrivals = s.arrivals := by
  rw [Endpoint.releaseEndpointSemaphoreState]
  split <;> rfl

/-- A release changes the phase of no caller outside the queue. -/
theorem releaseEndpointSemaphoreState_phase (outside : c ∉ s.queue) :
    s.releaseEndpointSemaphoreState.phase c = s.phase c := by
  rw [Endpoint.releaseEndpointSemaphoreState]
  split
  · rename_i next rest shape
    refine Function.update_of_ne ?_ _ _
    rintro rfl
    exact outside (by rw [shape]; exact List.mem_cons_self)
  · rfl

theorem called_releaseState (recorded : Recorded s)
    (inside : d ∈ s.arrivals) : s.releaseEndpointSemaphoreState.phase d ≠ .fresh := by
  by_cases waits : d ∈ s.queue
  · rw [Endpoint.releaseEndpointSemaphoreState]
    split
    · rename_i next rest _
      by_cases first : d = next
      · simp [first]
      · simpa [first] using recorded.called d inside
    · exact recorded.called d inside
  · rw [releaseEndpointSemaphoreState_phase waits]
    exact recorded.called d inside

theorem not_mem_queue_of_owns (queued : Queued calls s) (owns : Owns s c) : c ∉ s.queue :=
  fun inside => not_owns_of_waiting ((queued.waits c).mp inside) owns

theorem Sound.release (sound : Sound calls s) (holding : s.phase c = .holding) :
    Sound calls (s.release c) := by
  have owns : Owns s c := .inr holding
  have outside := not_mem_queue_of_owns sound.queued owns
  obtain ⟨order, once⟩ := sound.recorded.releaseState sound.queued owns
  refine ⟨sound.queued.giveBack owns .released nofun nofun nofun, ?_, ?_, ?_, ?_⟩
  · intro next handed
    have listed := order next fun d isNext => by
      have handed' := handed d isNext
      by_cases same : d = c
      · simp [Endpoint.release, same] at handed'
      · simp only [Endpoint.release, Function.update_of_ne same] at handed'
        exact ⟨same, handed'⟩
    simpa [Endpoint.release, admitted] using listed
  · simpa [Endpoint.release] using sound.recorded.arrived
  · intro d inside
    have inside' : d ∈ s.arrivals := by simpa [Endpoint.release] using inside
    by_cases same : d = c
    · simp [Endpoint.release, same]
    · simpa [Endpoint.release, same] using called_releaseState sound.recorded inside'
  · have kept := releaseEndpointSemaphoreState_phase outside
    refine once_update (s := s.releaseEndpointSemaphoreState) ?_ (by rw [kept, holding]; rfl)
    simpa using once

/-- The owner finds its signal aborted when it goes on, and passes the semaphore on. -/
theorem Sound.passOn (sound : Sound calls s) (handed : s.phase c = .handed) :
    Sound calls (s.releaseEndpointSemaphoreState.reject c .aborted) := by
  have owns : Owns s c := .inl handed
  have outside := not_mem_queue_of_owns sound.queued owns
  have kept := releaseEndpointSemaphoreState_phase outside
  obtain ⟨order, once⟩ := sound.recorded.releaseState sound.queued owns
  have given := sound.queued.giveBack owns (.rejected .aborted) nofun nofun nofun
  refine ⟨given.of_same rfl rfl rfl, ?_, ?_, ?_, ?_⟩
  · intro next isHanded
    have listed := order next fun d isNext => by
      have handed' := isHanded d isNext
      by_cases same : d = c
      · simp [Endpoint.reject, Endpoint.settle, same] at handed'
      · simp only [Endpoint.reject, Endpoint.settle, Function.update_of_ne same] at handed'
        exact ⟨same, handed'⟩
    rw [Endpoint.reject, admitted_settle, if_neg (by simp), List.append_nil]
    simpa [Endpoint.settle, admitted] using listed
  · simpa [Endpoint.reject, Endpoint.settle] using sound.recorded.arrived
  · intro d inside
    have inside' : d ∈ s.arrivals := by
      simpa [Endpoint.reject, Endpoint.settle] using inside
    by_cases same : d = c
    · simp [Endpoint.reject, Endpoint.settle, same]
    · simpa [Endpoint.reject, Endpoint.settle, same] using
        called_releaseState sound.recorded inside'
  · refine once_settle (s := s.releaseEndpointSemaphoreState) ?_ (by rw [kept, handed]; rfl) rfl
    simpa using once

theorem Sound.resume (sound : Sound calls s) (handed : s.phase c = .handed) :
    Sound calls (s.resume calls c) := by
  unfold Endpoint.resume
  split
  · exact sound.passOn handed
  · exact sound.admit handed

theorem Sound.leave (sound : Sound calls s) (waiting : s.phase c = .waiting)
    (rejection : Rejection) : Sound calls (s.leave c rejection) := by
  have left := sound.queued.leave waiting (.rejected rejection) nofun nofun nofun
  have recorded : Recorded { s with queue := s.queue.erase c } := by
    refine ⟨fun next handed => ?_, sound.recorded.arrived, sound.recorded.called,
      sound.recorded.once⟩
    exact ((List.Sublist.refl _).append List.erase_sublist).trans
      (sound.recorded.order next handed)
  exact ⟨left.of_same rfl rfl rfl, recorded.reject (by rw [waiting]; rfl) rejection⟩

theorem Sound.leaveAll {leaving : List Caller} (sound : Sound calls s) (nodup : leaving.Nodup)
    (waiting : ∀ c ∈ leaving, s.phase c = .waiting) :
    Sound calls (leaving.foldl (fun s c => s.leave c .aborted) s) := by
  induction leaving generalizing s with
  | nil => exact sound
  | cons c rest ih =>
    rw [List.nodup_cons] at nodup
    refine ih (sound.leave (waiting c List.mem_cons_self) .aborted) nodup.2 fun d inside => ?_
    have other : d ≠ c := by
      rintro rfl
      exact nodup.1 inside
    simpa [Endpoint.leave, Endpoint.reject, Endpoint.settle, other] using
      waiting d (List.mem_cons_of_mem c inside)

theorem Sound.abort (sound : Sound calls s) (signal : Signal) :
    Sound calls (s.abort calls signal) := by
  have aborted : Sound calls { s with aborted := Function.update s.aborted signal true } :=
    ⟨sound.queued.of_same rfl rfl rfl, sound.recorded.order, sound.recorded.arrived,
      sound.recorded.called, sound.recorded.once⟩
  refine aborted.leaveAll (sound.queued.nodup.filter _) fun c inside => ?_
  exact (sound.queued.waits c).mp (List.mem_filter.mp inside).1

theorem Sound.step {event : Event} (sound : Sound calls s) (can : enabled s event) :
    Sound calls (exec calls s event) := by
  cases event with
  | acquire c => exact sound.acquire can
  | resume c => exact sound.resume can
  | release c => exact sound.release can
  | timeout c => exact sound.leave can .queueTimeout
  | abort signal => exact sound.abort signal

theorem sound_of_reaches (reached : Transition.Reachable (system calls) s) : Sound calls s := by
  refine reached.invariant (fun s start => ?_) fun s event s' sound _ ⟨can, next⟩ => ?_
  · rw [show s = {} from start]
    refine ⟨⟨List.nodup_nil, fun c => ?_, fun c d first => ?_, ?_, fun _ => rfl, trivial⟩,
      fun next handed => ?_, List.nodup_nil, nofun, fun c => rfl⟩
    · simp
    · simp [Owns] at first
    · simp [Owns]
    · cases next with
      | none => simp [admitted]
      | some d => simp at handed
  · rw [next]
    exact sound.step can

/-! ### Waiters are served -/

/-- The caller that has the semaphore goes on, or gives it back. -/
def OwnerStep (calls : Calls) (s s' : Endpoint) : Prop :=
  ∃ c, s.phase c = .handed ∧ s' = s.resume calls c ∨ s.phase c = .holding ∧ s' = s.release c

abbrev Leads (calls : Calls) : Endpoint → Endpoint → Prop :=
  Relation.ReflTransGen (OwnerStep calls)

/-- The first entry has the semaphore next. -/
def HandedOn (calls : Calls) (first : Caller) (rest : List Caller) (s' : Endpoint) : Prop :=
  Sound calls s' ∧ s'.queue = rest ∧ s'.phase first = .handed

theorem handedOn_of_giveBack {first : Caller} {rest : List Caller} (shape : s.queue = first :: rest)
    (other : c ≠ first) (sound : Sound calls s')
    (queue : s'.queue = s.releaseEndpointSemaphoreState.queue)
    (phase : ∀ d, d ≠ c → s'.phase d = s.releaseEndpointSemaphoreState.phase d) :
    HandedOn calls first rest s' := by
  rw [releaseEndpointSemaphoreState_cons shape] at queue phase
  refine ⟨sound, queue, ?_⟩
  rw [phase first other.symm]
  exact Function.update_self _ _ _

theorem handedOn_release {first : Caller} {rest : List Caller} (sound : Sound calls s)
    (holding : s.phase c = .holding) (shape : s.queue = first :: rest) :
    HandedOn calls first rest (s.release c) := by
  have outside := not_mem_queue_of_owns sound.queued (.inr holding)
  have other : c ≠ first := by
    rintro rfl
    exact outside (by rw [shape]; exact List.mem_cons_self)
  exact handedOn_of_giveBack shape other (sound.release holding) rfl
    fun d differs => Function.update_of_ne differs _ _

/-- While callers wait, the steps of the owner hand the semaphore to the first of them. -/
theorem exists_handedOn {first : Caller} {rest : List Caller} (sound : Sound calls s)
    (shape : s.queue = first :: rest) :
    ∃ s', Leads calls s s' ∧ HandedOn calls first rest s' := by
  have busy : s.active = true := by
    by_contra idle
    have empty := sound.queued.free (by simpa using idle)
    rw [shape] at empty
    cases empty
  obtain ⟨c, handed | holding⟩ := sound.queued.busy.mp busy
  · have outside := not_mem_queue_of_owns sound.queued (.inl handed)
    have other : c ≠ first := by
      rintro rfl
      exact outside (by rw [shape]; exact List.mem_cons_self)
    have goesOn : OwnerStep calls s (s.resume calls c) := ⟨c, .inl ⟨handed, rfl⟩⟩
    by_cases aborted : s.isAborted calls c = true
    · refine ⟨_, .single goesOn, ?_⟩
      rw [Endpoint.resume, if_pos aborted]
      exact handedOn_of_giveBack shape other (sound.passOn handed) rfl
        fun d differs => Function.update_of_ne differs _ _
    · have resumed := sound.resume handed
      rw [Endpoint.resume, if_neg aborted] at goesOn resumed
      have holding : (s.settle c .holding .admitted).phase c = .holding :=
        Function.update_self _ _ _
      exact ⟨_, .tail (.single goesOn) ⟨c, .inr ⟨holding, rfl⟩⟩,
        handedOn_release resumed holding shape⟩
  · exact ⟨_, .single ⟨c, .inr ⟨holding, rfl⟩⟩, handedOn_release sound holding shape⟩

theorem waiter_served (sound : Sound calls s) (waits : c ∈ s.queue) :
    ∃ s', Leads calls s s' ∧ (outcomeOf (s'.phase c)).isSome = true := by
  generalize entries : s.queue = queue at waits
  induction queue generalizing s with
  | nil => cases waits
  | cons first rest ih =>
    obtain ⟨t, leads, sound', queue, handed⟩ := exists_handedOn sound entries
    rcases List.mem_cons.mp waits with rfl | later
    · refine ⟨_, leads.tail ⟨c, .inl ⟨handed, rfl⟩⟩, ?_⟩
      rw [Endpoint.resume]
      split <;> simp [Endpoint.reject, Endpoint.settle, outcomeOf]
    · obtain ⟨s', further, served⟩ := ih sound' queue later
      exact ⟨s', leads.trans further, served⟩

/-! ### Every run -/

/-- In every run of acquires, releases, timeouts and aborts: the semaphore belongs to one caller at
most, from the hand-over to its release; every entry of the queue stands in front of its caller's
limit; callers are admitted in the order of their arrival, and before those that wait; no caller
gets two outcomes, and each gets the one that its phase names; without an owner nobody waits and the
endpoint is free; and the steps of the owners alone give every waiter its outcome. -/
theorem endpoint_semaphore_sound (reached : Transition.Reachable (system calls) s) :
    (∀ c d, Owns s c → Owns s d → c = d) ∧
      (∀ i c, s.queue[i]? = some c → i < calls.queueLimit c) ∧
      ((admitted s ++ s.queue).Sublist s.arrivals ∧ s.arrivals.Nodup) ∧
      (∀ c, (s.outcomes.filter (·.1 = c)).map (·.2) = (outcomeOf (s.phase c)).toList) ∧
      ((∀ c, ¬ Owns s c) → s.queue = [] ∧ s.active = false) ∧
      ∀ c ∈ s.queue, ∃ s', Leads calls s s' ∧ (outcomeOf (s'.phase c)).isSome = true := by
  have sound := sound_of_reaches reached
  refine ⟨sound.queued.owner, fun i c at_ => ?_, ⟨?_, sound.recorded.arrived⟩, sound.recorded.once,
    fun nobody => ?_, fun c waits => waiter_served sound waits⟩
  · have before := sound.queued.fits.lt at_
    rwa [Nat.zero_add] at before
  · simpa using sound.recorded.order none (by simp)
  · have idle : s.active = false := by
      by_contra busy
      obtain ⟨c, owns⟩ := sound.queued.busy.mp (by simpa using busy)
      exact nobody c owns
    exact ⟨sound.queued.free idle, idle⟩

section Sample

/-- Two callers with one signal queue behind a third; the signal is aborted after the hand-over. -/
def abortedCalls : Calls where
  signal c := if c = 0 then none else some 7
  queueLimit _ := 2

def abortedRun : List Event :=
  [.acquire 0, .acquire 1, .acquire 2, .release 0, .abort 7]

def abortedHandOver : Endpoint := abortedRun.foldl (exec abortedCalls) {}

theorem abortedHandOver_reached :
    Transition.Reachable (system abortedCalls) abortedHandOver := by
  refine Transition.reaches_runs (fun s event => decide (enabled s event)) (exec abortedCalls)
    ?_ (.init rfl) (by decide)
  exact fun s event can => ⟨trivial, of_decide_eq_true can, rfl⟩

theorem endpoint_semaphore_sound_aborted :
    Owns abortedHandOver 1 ∧ (∀ c, Owns abortedHandOver c → c = 1) ∧
      (admitted abortedHandOver ++ abortedHandOver.queue).Sublist [0, 1, 2] :=
  have owns : Owns abortedHandOver 1 := .inl (by decide)
  have sound := endpoint_semaphore_sound abortedHandOver_reached
  ⟨owns, fun c other => sound.1 c 1 other owns, sound.2.2.1.1⟩

end Sample

end AifHandoff.Runtime.EndpointSemaphore
