import AifHandoff.Runtime.Errors

/-!
The circuit breaker of a model endpoint (`runtime/adapters/qwenLocalAgent/api.ts`).

One call of `postChatCompletions` as a function of what its waits, health checks and requests
answer, turn by turn. Its log holds the requests and what it does to the failure count of the
endpoint; other calls may come in between, so the count itself is no input.
-/

namespace AifHandoff.Runtime.EndpointCircuit

/-! ### Errors -/

inductive Thrown where
  /-- A `RuntimeExecutionError` with its `providerMeta.status` and `httpStatus`. -/
  | runtime (category : RuntimeErrorCategory) (status : Option String) (httpStatus : Option Nat)
  /-- A `DOMException` named `TimeoutError` or `AbortError`; `localWait` is the mark
  `LOCAL_WAIT_ABORT`. -/
  | abort (timeout localWait : Bool)
  | other (message : String)
  deriving DecidableEq

/-- The run's signal when an error is caught: aborted, and by a `TimeoutError`. -/
structure Signal where
  aborted : Bool := false
  timedOut : Bool := false

/-- `resolveEndpointPolicy`, as far as it matters which parts are null. -/
structure Policy where
  endpoint : Bool
  budget : Bool

/-- `policy.endpoint && policy.budget`. -/
def Policy.guarded (policy : Policy) : Bool := policy.endpoint && policy.budget

def localEndpointNonFailureStatuses : List String :=
  ["endpoint_queue_timeout", "endpoint_queue_full", "endpoint_request_cancelled"]

def isAbortTimeoutError : Thrown → Bool
  | .abort _ _ => true
  | _ => false

def localWaitAbortError : Thrown := .abort false true

def isLocalWaitAbortError : Thrown → Bool
  | .abort _ localWait => localWait
  | _ => false

def endpointFailureCategory : Thrown → RuntimeErrorCategory
  | .runtime category _ _ => category
  | .abort _ _ => .timeout
  | .other message => classifyByMessageFallback message

def endpointProviderStatus : Thrown → Option String
  | .runtime _ status _ => status
  | _ => none

def isLocalEndpointNonFailure (error : Thrown) : Bool :=
  isLocalWaitAbortError error ||
    (endpointProviderStatus error).any (localEndpointNonFailureStatuses.contains ·)

/-- The categories that count. -/
def trips (category : RuntimeErrorCategory) : Bool :=
  [RuntimeErrorCategory.transport, .stream, .timeout].contains category

def shouldTripEndpointCircuit (error : Thrown) : Bool :=
  !isLocalEndpointNonFailure error && trips (endpointFailureCategory error)

def isHttp5xxEndpointTransportError : Thrown → Bool
  | .runtime category _ (some httpStatus) =>
    category == .transport && decide (500 ≤ httpStatus ∧ httpStatus < 600)
  | _ => false

def isEndpointCooldownRuntimeError (error : Thrown) : Bool :=
  endpointProviderStatus error == some "endpoint_cooldown"

def withEndpointCooldown (error : Thrown) : Thrown :=
  .runtime (endpointFailureCategory error) (some "endpoint_cooldown") none

def endpointQueueError (status : String) : Thrown := .runtime .timeout (some status) none

def endpointLeaseLostError : Thrown := .runtime .timeout (some "endpoint_lease_lost") none

def abortedByTimeout (signal : Signal) : Thrown → Bool
  | .abort true _ => true
  | _ => signal.timedOut

def classifyRequestAbort (signal : Signal) (error : Thrown) : Thrown :=
  .runtime .timeout (some (if abortedByTimeout signal error then "endpoint_request_timeout"
    else "endpoint_request_cancelled")) none

def buildEndpointCircuitError (cause : Option Thrown) : Thrown :=
  let rawCategory := (cause.map endpointFailureCategory).getD .transport
  .runtime (if trips rawCategory then rawCategory else .transport) (some "endpoint_cooldown") none

/-- What both catch clauses make of an error. -/
def runtimeErrorOf (signal : Signal) (error : Thrown) : Thrown :=
  match error with
  | .runtime _ _ _ => error
  | _ =>
    if isAbortTimeoutError error || signal.aborted then classifyRequestAbort signal error
    else error

/-- `recordEndpointFailure`: whether the failure is counted. -/
def recordEndpointFailure (policy : Policy) (error : Thrown) : Bool :=
  if isLocalEndpointNonFailure error then false
  else if isLocalWaitAbortError error then false
  else if isEndpointCooldownRuntimeError error then false
  else policy.guarded && shouldTripEndpointCircuit error

/-! ### What the world answers -/

/-- What a turn does. `failed` adds one to the failure count, `cleared` deletes the entry. -/
inductive Event where
  | healthCheck
  | request
  | failed
  | cleared
  deriving DecidableEq

inductive SemaphoreWait where
  | admitted
  | aborted
  | queueFull
  | queueTimeout

/-- `assertSharedEndpointCooldownAllowsRequest`. -/
inductive CooldownWait where
  | passed
  | tooLong
  | aborted

/-- `acquireDistributedEndpointLease`. `lost`: the ownership is lost by the time the turn fails. -/
inductive LeaseWait where
  | noStore
  | acquired (lost : Bool)
  | aborted
  | cooldown
  | timedOut
  | storeFailed (message : String)

/-- One pass of the circuit loop: the entry's `cooldownUntilMs`, the clock, and whether a wait of
this pass is aborted. -/
structure Pass where
  cooldownUntilMs : Option Nat
  now : Nat
  aborted : Bool := false

/-- `fetch` rejects with the reason of an aborted signal or with an error of its own. -/
inductive FetchFailure where
  | abort (timeout : Bool)
  | other (message : String)

def FetchFailure.thrown : FetchFailure → Thrown
  | .abort timeout => .abort timeout false
  | .other message => .other message

inductive Health where
  | ok
  | status (httpStatus : Nat)
  | failed (failure : FetchFailure)

inductive Response where
  | ok
  /-- Not ok; the message is the safe provider message of the body. -/
  | status (httpStatus : Nat) (message : String)
  | failed (failure : FetchFailure)

structure Turn where
  semaphore : SemaphoreWait := .admitted
  cooldown : CooldownWait := .passed
  lease : LeaseWait := .noStore
  passes : List Pass := [⟨none, 0, false⟩]
  health : Health := .ok
  response : Response := .ok
  /-- The signal in the catch clause of the turn, and in the one behind the semaphore. -/
  signal : Signal := {}
  signalAfter : Signal := {}

/-! ### One turn -/

/-- How the circuit loop ends. -/
inductive CircuitEnd where
  | closed
  | tooLong
  | aborted
  /-- The cooldown is over, the health is checked. -/
  | due
  deriving DecidableEq

/-- `none` while the loop still waits. -/
def circuitLoop (maxWaitMs : Nat) : List Pass → Option CircuitEnd
  | [] => none
  | pass :: passes =>
    match pass.cooldownUntilMs with
    | none => some .closed
    | some cooldownUntilMs =>
      let remainingMs := cooldownUntilMs - pass.now
      if 0 < remainingMs then
        if maxWaitMs < remainingMs then some .tooLong
        else if pass.aborted then some .aborted
        else circuitLoop maxWaitMs passes
      else some .due

def healthError (health : Health) : Option Thrown :=
  match health with
  | .ok => none
  | .status httpStatus =>
    let message := s!"Qwen local endpoint health check failed with status {httpStatus}"
    some (.runtime (classify message httpStatus) none (some httpStatus))
  | .failed failure => some failure.thrown

/-- `assertEndpointCircuitAllowsRequest`, with the failure that it counts itself. -/
def assertEndpointCircuitAllowsRequest (maxWaitMs : Nat) (turn : Turn) :
    List Event × Option (Except Thrown Unit) :=
  match circuitLoop maxWaitMs turn.passes with
  | none => ([], none)
  | some .closed => ([], some (.ok ()))
  | some .tooLong => ([], some (.error (buildEndpointCircuitError none)))
  | some .aborted => ([], some (.error localWaitAbortError))
  | some .due =>
    match healthError turn.health with
    | none => ([.healthCheck, .cleared], some (.ok ()))
    | some error =>
      ([.healthCheck, .failed], some (.error (buildEndpointCircuitError (some error))))

/-- The shared cooldown and the lease; the answer is whether the ownership is lost later. -/
def acquireLease (turn : Turn) : Except Thrown Bool :=
  match turn.cooldown with
  | .tooLong => .error (buildEndpointCircuitError none)
  | .aborted => .error localWaitAbortError
  | .passed =>
    match turn.lease with
    | .noStore => .ok false
    | .acquired lost => .ok lost
    | .aborted => .error localWaitAbortError
    | .cooldown => .error (buildEndpointCircuitError none)
    | .timedOut => .error (endpointQueueError "endpoint_queue_timeout")
    | .storeFailed message => .error (.other message)

/-- What the call makes of an answer; `httpError` is null behind an ok response. -/
structure Result where
  retryAfter : Bool
  httpError : Option Thrown

def countedEvents (counted : Bool) : List Event := if counted then [.failed] else []

def httpErrorOf (httpStatus : Nat) (message : String) : Thrown :=
  .runtime (classify message httpStatus) (some s!"http_{httpStatus}") (some httpStatus)

/-- From the request to the answer. -/
def sendRequest (policy : Policy) (turn : Turn) : List Event × Except Thrown Result :=
  match turn.response with
  | .ok => (.request :: (if policy.endpoint then [.cleared] else []), .ok ⟨false, none⟩)
  | .status httpStatus message =>
    let httpError := httpErrorOf httpStatus message
    let counted := recordEndpointFailure policy httpError
    (.request :: countedEvents counted, .ok ⟨counted, some httpError⟩)
  | .failed failure => ([.request], .error failure.thrown)

/-- A catch clause: the failure is recorded, and thrown on. -/
def catchError (policy : Policy) (signal : Signal) (error : Thrown) : List Event × Thrown :=
  let runtimeError := runtimeErrorOf signal error
  if recordEndpointFailure policy runtimeError then
    ([.failed], withEndpointCooldown runtimeError)
  else ([], runtimeError)

/-- The function behind the semaphore, with its catch clause. -/
def dispatch (policy : Policy) (maxWaitMs : Nat) (turn : Turn) :
    List Event × Option (Except Thrown Result) :=
  if policy.guarded then
    match acquireLease turn with
    | .error error =>
      let (log, thrown) := catchError policy turn.signal error
      (log, some (.error thrown))
    | .ok lost =>
      let caught (log : List Event) (error : Thrown) :=
        let (counted, thrown) :=
          catchError policy turn.signal (if lost then endpointLeaseLostError else error)
        (log ++ counted, some (.error thrown))
      match assertEndpointCircuitAllowsRequest maxWaitMs turn with
      | (log, none) => (log, none)
      | (log, some (.error error)) => caught log error
      | (log, some (.ok ())) =>
        match sendRequest policy turn with
        | (sent, .error error) => caught (log ++ sent) error
        | (sent, .ok result) => (log ++ sent, some (.ok result))
  else
    match sendRequest policy turn with
    | (sent, .error error) =>
      let (counted, thrown) := catchError policy turn.signal error
      (sent ++ counted, some (.error thrown))
    | (sent, .ok result) => (sent, some (.ok result))

def withEndpointSemaphore (policy : Policy) (maxWaitMs : Nat) (turn : Turn) :
    List Event × Option (Except Thrown Result) :=
  if policy.guarded then
    match turn.semaphore with
    | .admitted => dispatch policy maxWaitMs turn
    | .aborted => ([], some (.error localWaitAbortError))
    | .queueFull => ([], some (.error (endpointQueueError "endpoint_queue_full")))
    | .queueTimeout => ([], some (.error (endpointQueueError "endpoint_queue_timeout")))
  else dispatch policy maxWaitMs turn

/-! ### The run -/

inductive Outcome where
  | waiting
  | retried
  | returned
  | threw (error : Thrown)

/-- One turn of the loop with `retries` retries left. -/
def runTurn (policy : Policy) (maxWaitMs retries : Nat) (turn : Turn) : List Event × Outcome :=
  let caught (log : List Event) (error : Thrown) :=
    let (counted, thrown) := catchError policy turn.signalAfter error
    (log ++ counted, Outcome.threw thrown)
  match withEndpointSemaphore policy maxWaitMs turn with
  | (log, none) => (log, .waiting)
  | (log, some (.error error)) => caught log error
  | (log, some (.ok ⟨false, _⟩)) => (log, .returned)
  | (log, some (.ok ⟨true, none⟩)) => (log, .returned)
  | (log, some (.ok ⟨true, some httpError⟩)) =>
    if 0 < retries ∧ isHttp5xxEndpointTransportError httpError = true then (log, .retried)
    else caught log (withEndpointCooldown httpError)

/-- The turns that were taken, and what they logged. -/
structure Run where
  taken : List Turn
  log : List Event
  outcome : Outcome

def loop (policy : Policy) (maxWaitMs : Nat) : Nat → List Turn → Run
  | _, [] => ⟨[], [], .waiting⟩
  | retries, turn :: turns =>
    match runTurn policy maxWaitMs retries turn with
    | (log, .retried) =>
      let rest := loop policy maxWaitMs (retries - 1) turns
      ⟨turn :: rest.taken, log ++ rest.log, rest.outcome⟩
    | (log, outcome) => ⟨[turn], log, outcome⟩

def postChatCompletions (policy : Policy) (maxWaitMs retryLimit : Nat) (turns : List Turn) : Run :=
  loop policy maxWaitMs (if policy.budget then retryLimit else 0) turns

/-! ### What is due -/

/-- Where a turn ends; `lost` says that it holds a lease whose ownership is lost. -/
inductive Stage where
  /-- Aborted in the queue of the semaphore. -/
  | queued
  /-- Aborted in a later wait of its own. -/
  | waited (lost : Bool)
  /-- Turned away by a queue, a lease or a cooldown. -/
  | refused (lost : Bool)
  | stillWaiting
  | storeFailed (message : String)
  /-- The health check fails, by its status or as a fetch. -/
  | unhealthy (lost : Bool) (failure : Option FetchFailure)
  | requested (checked lost : Bool)

def Turn.circuitStage (maxWaitMs : Nat) (turn : Turn) (lost : Bool) : Stage :=
  match circuitLoop maxWaitMs turn.passes with
  | none => .stillWaiting
  | some .closed => .requested false lost
  | some .tooLong => .refused lost
  | some .aborted => .waited lost
  | some .due =>
    match turn.health with
    | .ok => .requested true lost
    | .status _ => .unhealthy lost none
    | .failed failure => .unhealthy lost (some failure)

def Turn.stage (policy : Policy) (maxWaitMs : Nat) (turn : Turn) : Stage :=
  if policy.guarded then
    match turn.semaphore with
    | .aborted => .queued
    | .queueFull | .queueTimeout => .refused false
    | .admitted =>
      match turn.cooldown with
      | .tooLong => .refused false
      | .aborted => .waited false
      | .passed =>
        match turn.lease with
        | .aborted => .waited false
        | .cooldown | .timedOut => .refused false
        | .storeFailed message => .storeFailed message
        | .noStore => turn.circuitStage maxWaitMs false
        | .acquired lost => turn.circuitStage maxWaitMs lost
  else .requested false false

/-- The failed fetch is a failure of the endpoint: it timed out, or failed on its own with a
category that counts. -/
def remoteFailure (signal : Signal) : FetchFailure → Bool
  | .abort timeout => timeout || signal.timedOut
  | .other message =>
    if signal.aborted then signal.timedOut else trips (classifyByMessageFallback message)

/-- The caller gave up: the signal is aborted, and not by a time limit. -/
def callerAbort (signal : Signal) : FetchFailure → Bool
  | .abort timeout => !timeout && !signal.timedOut
  | .other _ => signal.aborted && !signal.timedOut

/-- The failures and successes of the endpoint in a turn that ends at a stage. A lost lease ends the
request as a timeout. -/
def due (policy : Policy) (turn : Turn) : Stage → List Event
  | .unhealthy _ failure =>
    .healthCheck :: countedEvents (!failure.any (callerAbort turn.signal))
  | .requested checked lost =>
    (if checked then [.healthCheck, .cleared] else []) ++ .request ::
      match turn.response with
      | .ok => if policy.endpoint then [.cleared] else []
      | .status httpStatus message =>
        countedEvents (policy.guarded && trips (classify message httpStatus))
      | .failed failure =>
        countedEvents (policy.guarded && (lost || remoteFailure turn.signal failure))
  | _ => []

/-- The time limit has passed when the second catch clause looks. -/
def Signal.timedOutBy (signal : Signal) : Bool := signal.aborted && signal.timedOut

/-- The failures that a turn counts besides. -/
def surplus (policy : Policy) (turn : Turn) : Stage → Nat
  | .queued => turn.signalAfter.timedOut.toNat
  | .waited lost => (lost || turn.signal.timedOut).toNat
  | .refused lost => lost.toNat
  | .stillWaiting => 0
  | .storeFailed message =>
    (remoteFailure turn.signal (.other message) ||
      (!turn.signal.aborted && turn.signalAfter.timedOutBy)).toNat
  | .unhealthy lost failure => lost.toNat + (failure.any (callerAbort turn.signal)).toNat
  | .requested _ lost =>
    match turn.response with
    | .failed (.other message) =>
      (policy.guarded && !lost && !remoteFailure turn.signal (.other message) &&
        (!turn.signal.aborted && turn.signalAfter.timedOutBy)).toNat
    | _ => 0

/-! ### The catch clauses -/

variable {policy : Policy} {maxWaitMs retries : Nat} {turn : Turn} {signal after : Signal}
  {error : Thrown} {message : String}

theorem recordEndpointFailure_cooldown (category : RuntimeErrorCategory) (httpStatus : Option Nat) :
    recordEndpointFailure policy (.runtime category (some "endpoint_cooldown") httpStatus) =
      false := by
  simp [recordEndpointFailure, isLocalEndpointNonFailure, isLocalWaitAbortError,
    endpointProviderStatus, localEndpointNonFailureStatuses, isEndpointCooldownRuntimeError]

theorem recordEndpointFailure_queue {status : String}
    (local_ : localEndpointNonFailureStatuses.contains status = true) :
    recordEndpointFailure policy (endpointQueueError status) = false := by
  rw [recordEndpointFailure, endpointQueueError, isLocalEndpointNonFailure, endpointProviderStatus,
    Option.any_some, local_, Bool.or_true, if_pos rfl]

/-- A status outside those that the code names leaves the decision to the category. -/
theorem recordEndpointFailure_runtime {category : RuntimeErrorCategory} {status : String}
    {httpStatus : Option Nat} (remote : localEndpointNonFailureStatuses.contains status = false)
    (other : status ≠ "endpoint_cooldown") :
    recordEndpointFailure policy (.runtime category (some status) httpStatus) =
      (policy.guarded && trips category) := by
  have notLocal :
      isLocalEndpointNonFailure (.runtime category (some status) httpStatus) = false := by
    rw [isLocalEndpointNonFailure, endpointProviderStatus, Option.any_some, remote]
    rfl
  have noCooldown :
      isEndpointCooldownRuntimeError (.runtime category (some status) httpStatus) = false := by
    simp [isEndpointCooldownRuntimeError, endpointProviderStatus, other]
  simp [recordEndpointFailure, notLocal, noCooldown, isLocalWaitAbortError,
    shouldTripEndpointCircuit, endpointFailureCategory]

theorem recordEndpointFailure_leaseLost :
    recordEndpointFailure policy endpointLeaseLostError = policy.guarded := by
  rw [endpointLeaseLostError, recordEndpointFailure_runtime (by decide) (by decide)]
  simp [trips]

theorem recordEndpointFailure_classified :
    recordEndpointFailure policy (classifyRequestAbort signal error) =
      (policy.guarded && abortedByTimeout signal error) := by
  rw [classifyRequestAbort]
  cases byTimeout : abortedByTimeout signal error with
  | true =>
    rw [if_pos rfl, recordEndpointFailure_runtime (by decide) (by decide)]
    simp [trips]
  | false =>
    rw [if_neg (by simp), Bool.and_false]
    exact recordEndpointFailure_queue (by decide)

theorem recordEndpointFailure_other :
    recordEndpointFailure policy (.other message) =
      (policy.guarded && trips (classifyByMessageFallback message)) := by
  simp [recordEndpointFailure, isLocalEndpointNonFailure, isLocalWaitAbortError,
    endpointProviderStatus, isEndpointCooldownRuntimeError, shouldTripEndpointCircuit,
    endpointFailureCategory]

theorem recordEndpointFailure_httpError {httpStatus : Nat} :
    recordEndpointFailure policy (httpErrorOf httpStatus message) =
      (policy.guarded && trips (classify message httpStatus)) := by
  have begins : (s!"http_{httpStatus}").toList.head? = some 'h' := by
    have literal : (toString "http_").toList = ['h', 't', 't', 'p', '_'] := by decide
    rw [String.toList_append, literal]
    rfl
  have other (status : String) (notH : status.toList.head? ≠ some 'h') :
      s!"http_{httpStatus}" ≠ status := by
    rintro rfl
    exact notH begins
  refine recordEndpointFailure_runtime ?_ (other _ (by decide))
  have queueTimeout := other "endpoint_queue_timeout" (by decide)
  have queueFull := other "endpoint_queue_full" (by decide)
  have cancelled := other "endpoint_request_cancelled" (by decide)
  simp only [localEndpointNonFailureStatuses, List.contains_cons, List.contains_nil, Bool.or_false]
  rw [beq_eq_false_iff_ne.mpr queueTimeout, beq_eq_false_iff_ne.mpr queueFull,
    beq_eq_false_iff_ne.mpr cancelled]
  rfl

/-- Whether the two catch clauses together count an error. -/
def counts (policy : Policy) (signal after : Signal) (error : Thrown) : Bool :=
  let runtimeError := runtimeErrorOf signal error
  recordEndpointFailure policy runtimeError ||
    recordEndpointFailure policy (runtimeErrorOf after runtimeError)

theorem log_catchError_cooldown :
    (catchError policy after (withEndpointCooldown error)).1 = [] := by
  rw [withEndpointCooldown, catchError]
  simp [runtimeErrorOf, recordEndpointFailure_cooldown]

theorem log_catchError_twice :
    (catchError policy signal error).1 ++
        (catchError policy after (catchError policy signal error).2).1 =
      countedEvents (counts policy signal after error) := by
  rw [counts]
  cases first : recordEndpointFailure policy (runtimeErrorOf signal error) with
  | true =>
    have caught : catchError policy signal error =
        ([.failed], withEndpointCooldown (runtimeErrorOf signal error)) := by
      rw [catchError, if_pos first]
    rw [caught, log_catchError_cooldown]
    rfl
  | false =>
    have caught : catchError policy signal error = ([], runtimeErrorOf signal error) := by
      rw [catchError, if_neg (by simp [first])]
    rw [caught, Bool.false_or, catchError, countedEvents]
    split <;> simp [*]

theorem runtimeErrorOf_abort {timeout localWait : Bool} :
    runtimeErrorOf signal (.abort timeout localWait) =
      classifyRequestAbort signal (.abort timeout localWait) := by
  simp [runtimeErrorOf, isAbortTimeoutError]

theorem runtimeErrorOf_queue {status : String} :
    runtimeErrorOf signal (endpointQueueError status) = endpointQueueError status := rfl

theorem counts_runtime {category : RuntimeErrorCategory} {status : Option String}
    {httpStatus : Option Nat} : counts policy signal after (.runtime category status httpStatus) =
      recordEndpointFailure policy (.runtime category status httpStatus) :=
  Bool.or_self _

theorem counts_circuitError (cause : Option Thrown) :
    counts policy signal after (buildEndpointCircuitError cause) = false := by
  rw [buildEndpointCircuitError, counts_runtime, recordEndpointFailure_cooldown]

theorem counts_queue {status : String}
    (local_ : localEndpointNonFailureStatuses.contains status = true) :
    counts policy signal after (endpointQueueError status) = false :=
  counts_runtime.trans (recordEndpointFailure_queue local_)

theorem counts_leaseLost : counts policy signal after endpointLeaseLostError = policy.guarded :=
  counts_runtime.trans recordEndpointFailure_leaseLost

theorem counts_abort {timeout localWait : Bool} :
    counts policy signal after (.abort timeout localWait) =
      (policy.guarded && (timeout || signal.timedOut)) := by
  have kept : runtimeErrorOf after (classifyRequestAbort signal (.abort timeout localWait)) =
      classifyRequestAbort signal (.abort timeout localWait) := rfl
  rw [counts, runtimeErrorOf_abort, kept, Bool.or_self, recordEndpointFailure_classified]
  cases timeout <;> rfl

theorem counts_other : counts policy signal after (.other message) = (policy.guarded &&
    (remoteFailure signal (.other message) || (!signal.aborted && after.timedOutBy))) := by
  have classified (s : Signal) (aborted : s.aborted = true) :
      runtimeErrorOf s (.other message) = classifyRequestAbort s (.other message) := by
    simp [runtimeErrorOf, aborted]
  have kept (s : Signal) (open_ : s.aborted = false) :
      runtimeErrorOf s (.other message) = .other message := by
    simp [runtimeErrorOf, isAbortTimeoutError, open_]
  cases aborted : signal.aborted with
  | true =>
    have again : runtimeErrorOf after (classifyRequestAbort signal (.other message)) =
        classifyRequestAbort signal (.other message) := rfl
    rw [counts, classified signal aborted, again, Bool.or_self, recordEndpointFailure_classified]
    simp [remoteFailure, abortedByTimeout, aborted]
  | false =>
    rw [counts, kept signal aborted, recordEndpointFailure_other]
    cases late : after.aborted with
    | true =>
      rw [classified after late, recordEndpointFailure_classified, ← Bool.and_or_distrib_left]
      simp [remoteFailure, aborted, abortedByTimeout, Signal.timedOutBy, late]
    | false =>
      rw [kept after late, recordEndpointFailure_other, Bool.or_self]
      simp [remoteFailure, aborted, Signal.timedOutBy, late]

/-! ### What a turn logs -/

section Turn

variable {log : List Event} {lost checked : Bool}

/-- The error as the first catch clause sees it. -/
def seenError (lost : Bool) (error : Thrown) : Thrown :=
  if lost then endpointLeaseLostError else error

theorem counts_seenError : counts policy signal after (seenError lost error) =
    if lost then policy.guarded else counts policy signal after error := by
  cases lost with
  | true => exact counts_leaseLost
  | false => rfl

theorem log_runTurn_error (fails : withEndpointSemaphore policy maxWaitMs turn =
      (log ++ (catchError policy turn.signal error).1,
        some (.error (catchError policy turn.signal error).2))) :
    (runTurn policy maxWaitMs retries turn).1 =
      log ++ countedEvents (counts policy turn.signal turn.signalAfter error) := by
  rw [runTurn, fails]
  show log ++ _ ++ _ = _
  rw [List.append_assoc, log_catchError_twice]

theorem log_runTurn_ok {result : Result}
    (answers : withEndpointSemaphore policy maxWaitMs turn = (log, some (.ok result))) :
    (runTurn policy maxWaitMs retries turn).1 = log := by
  obtain ⟨retryAfter, httpError⟩ := result
  rw [runTurn, answers]
  cases retryAfter with
  | false => rfl
  | true =>
    cases httpError with
    | none => rfl
    | some httpError =>
      dsimp only
      split
      · rfl
      · show log ++ _ = log
        rw [log_catchError_cooldown, List.append_nil]

theorem log_runTurn_waiting
    (waits : withEndpointSemaphore policy maxWaitMs turn = (log, none)) :
    (runTurn policy maxWaitMs retries turn).1 = log := by
  rw [runTurn, waits]

theorem countedEvents_eq (counted : Bool) :
    countedEvents counted = List.replicate counted.toNat .failed := by
  cases counted <;> rfl

theorem countedEvents_or (guarded first second : Bool) :
    countedEvents (guarded && (first || second)) = countedEvents (guarded && first) ++
      List.replicate (guarded && !first && second).toNat .failed := by
  cases guarded <;> cases first <;> cases second <;> rfl

/-- A turn that sends its request, behind what it logged before. -/
theorem log_runTurn_requested (noLease : policy.guarded = false → lost = false)
    (sends : withEndpointSemaphore policy maxWaitMs turn =
      match sendRequest policy turn with
      | (sent, .error error) =>
        (log ++ sent ++ (catchError policy turn.signal (seenError lost error)).1,
          some (.error (catchError policy turn.signal (seenError lost error)).2))
      | (sent, .ok result) => (log ++ sent, some (.ok result)))
    (before : log = if checked then [.healthCheck, .cleared] else []) :
    (runTurn policy maxWaitMs retries turn).1 =
      due policy turn (.requested checked lost) ++
        List.replicate (surplus policy turn (.requested checked lost)) .failed := by
  rw [due, surplus, ← before]
  cases answered : turn.response with
  | ok =>
    have sent : sendRequest policy turn =
        (.request :: (if policy.endpoint then [.cleared] else []), .ok ⟨false, none⟩) := by
      rw [sendRequest, answered]
    rw [sent] at sends
    rw [log_runTurn_ok sends]
    simp
  | status httpStatus message =>
    have sent : sendRequest policy turn =
        (.request :: countedEvents (policy.guarded && trips (classify message httpStatus)),
          .ok ⟨policy.guarded && trips (classify message httpStatus),
            some (httpErrorOf httpStatus message)⟩) := by
      rw [sendRequest, answered]
      simp only [recordEndpointFailure_httpError]
    rw [sent] at sends
    rw [log_runTurn_ok sends]
    simp
  | failed failure =>
    have sent : sendRequest policy turn = ([.request], .error failure.thrown) := by
      rw [sendRequest, answered]
    rw [sent] at sends
    rw [log_runTurn_error sends, counts_seenError]
    cases lost with
    | true =>
      have guarded : policy.guarded = true := by
        by_contra unguarded
        exact absurd (noLease (by simpa using unguarded)) (by simp)
      cases failure <;> simp [guarded]
    | false =>
      cases failure with
      | abort timeout =>
        rw [FetchFailure.thrown, counts_abort]
        simp [remoteFailure]
      | other message =>
        rw [FetchFailure.thrown, counts_other]
        simp [countedEvents_or]

/-- A guarded turn that holds its lease, or needs none. -/
theorem log_runTurn_leased (guarded : policy.guarded = true) (admitted : turn.semaphore = .admitted)
    (leased : acquireLease turn = .ok lost) :
    (runTurn policy maxWaitMs retries turn).1 =
      due policy turn (turn.circuitStage maxWaitMs lost) ++
        List.replicate (surplus policy turn (turn.circuitStage maxWaitMs lost)) .failed := by
  have dispatched : withEndpointSemaphore policy maxWaitMs turn =
      match assertEndpointCircuitAllowsRequest maxWaitMs turn with
      | (log, none) => (log, none)
      | (log, some (.error error)) =>
        (log ++ (catchError policy turn.signal (seenError lost error)).1,
          some (.error (catchError policy turn.signal (seenError lost error)).2))
      | (log, some (.ok ())) =>
        match sendRequest policy turn with
        | (sent, .error error) =>
          (log ++ sent ++ (catchError policy turn.signal (seenError lost error)).1,
            some (.error (catchError policy turn.signal (seenError lost error)).2))
        | (sent, .ok result) => (log ++ sent, some (.ok result)) := by
    rw [withEndpointSemaphore, if_pos guarded, admitted]
    simp only [dispatch, if_pos guarded, leased]
    rfl
  have turnedAway (error : Thrown) (log : List Event)
      (circuit : assertEndpointCircuitAllowsRequest maxWaitMs turn = (log, some (.error error))) :
      (runTurn policy maxWaitMs retries turn).1 = log ++ countedEvents
        (if lost then policy.guarded else counts policy turn.signal turn.signalAfter error) := by
    rw [circuit] at dispatched
    rw [log_runTurn_error dispatched, counts_seenError]
  have noLease : policy.guarded = false → lost = false := by
    intro unguarded
    rw [guarded] at unguarded
    cases unguarded
  rw [Turn.circuitStage]
  cases loop : circuitLoop maxWaitMs turn.passes with
  | none =>
    have circuit : assertEndpointCircuitAllowsRequest maxWaitMs turn = ([], none) := by
      rw [assertEndpointCircuitAllowsRequest, loop]
    rw [circuit] at dispatched
    rw [log_runTurn_waiting dispatched]
    rfl
  | some ends =>
    cases ends with
    | closed =>
      have circuit : assertEndpointCircuitAllowsRequest maxWaitMs turn =
          ([], some (.ok ())) := by
        rw [assertEndpointCircuitAllowsRequest, loop]
      rw [circuit] at dispatched
      exact log_runTurn_requested noLease dispatched rfl
    | tooLong =>
      rw [turnedAway (buildEndpointCircuitError none) []
        (by rw [assertEndpointCircuitAllowsRequest, loop]), counts_circuitError, guarded]
      cases lost <;> rfl
    | aborted =>
      rw [turnedAway localWaitAbortError []
        (by rw [assertEndpointCircuitAllowsRequest, loop]), localWaitAbortError, counts_abort,
        guarded]
      cases lost <;> simp [due, surplus, countedEvents_eq]
    | due =>
      cases health : turn.health with
      | ok =>
        have circuit : assertEndpointCircuitAllowsRequest maxWaitMs turn =
            ([.healthCheck, .cleared], some (.ok ())) := by
          rw [assertEndpointCircuitAllowsRequest, loop, health]
          rfl
        rw [circuit] at dispatched
        exact log_runTurn_requested noLease dispatched rfl
      | status httpStatus =>
        obtain ⟨error, isError⟩ : ∃ error, healthError turn.health = some error := by
          rw [health]
          exact ⟨_, rfl⟩
        rw [turnedAway (buildEndpointCircuitError (some error)) [.healthCheck, .failed]
          (by rw [assertEndpointCircuitAllowsRequest, loop]; simp only [isError]),
          counts_circuitError, guarded]
        cases lost <;> rfl
      | failed failure =>
        have isError : healthError turn.health = some failure.thrown := by
          rw [health]
          rfl
        rw [turnedAway (buildEndpointCircuitError (some failure.thrown))
          [.healthCheck, .failed]
          (by rw [assertEndpointCircuitAllowsRequest, loop]; simp only [isError]),
          counts_circuitError, guarded]
        cases callerGone : callerAbort turn.signal failure <;> cases lost <;>
          simp [due, surplus, callerGone, countedEvents]

theorem circuitStage_of_passed
    (circuit : assertEndpointCircuitAllowsRequest maxWaitMs turn = (log, some (.ok ()))) :
    ∃ checked lost', turn.circuitStage maxWaitMs lost = .requested checked lost' := by
  unfold assertEndpointCircuitAllowsRequest at circuit
  unfold Turn.circuitStage
  cases loop : circuitLoop maxWaitMs turn.passes with
  | none =>
    rw [loop] at circuit
    cases circuit
  | some ends =>
    rw [loop] at circuit
    cases ends with
    | closed => exact ⟨false, lost, rfl⟩
    | tooLong => cases circuit
    | aborted => cases circuit
    | due =>
      cases health : turn.health <;> rw [health] at circuit <;> try cases circuit
      exact ⟨true, lost, rfl⟩

theorem stage_leased (guarded : policy.guarded = true) (admitted : turn.semaphore = .admitted)
    (leased : acquireLease turn = .ok lost) :
    turn.stage policy maxWaitMs = turn.circuitStage maxWaitMs lost := by
  rw [Turn.stage, if_pos guarded, admitted]
  unfold acquireLease at leased
  cases cooldown : turn.cooldown <;> rw [cooldown] at leased <;> try cases leased
  cases lease : turn.lease <;> rw [lease] at leased <;> cases leased <;> rfl

/-- A guarded turn that gets no lease. -/
theorem log_runTurn_unleased (guarded : policy.guarded = true)
    (admitted : turn.semaphore = .admitted) (refused : acquireLease turn = .error error) :
    (runTurn policy maxWaitMs retries turn).1 =
      due policy turn (turn.stage policy maxWaitMs) ++
        List.replicate (surplus policy turn (turn.stage policy maxWaitMs)) .failed := by
  have fails : withEndpointSemaphore policy maxWaitMs turn =
      ([] ++ (catchError policy turn.signal error).1,
        some (.error (catchError policy turn.signal error).2)) := by
    rw [withEndpointSemaphore, if_pos guarded, admitted]
    simp only [dispatch, if_pos guarded, refused, List.nil_append]
  rw [log_runTurn_error fails, List.nil_append, Turn.stage, if_pos guarded, admitted]
  unfold acquireLease at refused
  cases cooldown : turn.cooldown with
  | tooLong =>
    rw [cooldown] at refused
    cases refused
    rw [counts_circuitError]
    rfl
  | aborted =>
    rw [cooldown] at refused
    cases refused
    rw [localWaitAbortError, counts_abort, guarded]
    exact countedEvents_eq _
  | passed =>
    rw [cooldown] at refused
    cases lease : turn.lease with
    | noStore => rw [lease] at refused; cases refused
    | acquired lost => rw [lease] at refused; cases refused
    | aborted =>
      rw [lease] at refused
      cases refused
      rw [localWaitAbortError, counts_abort, guarded]
      exact countedEvents_eq _
    | cooldown =>
      rw [lease] at refused
      cases refused
      rw [counts_circuitError]
      rfl
    | timedOut =>
      rw [lease] at refused
      cases refused
      rw [counts_queue (by decide)]
      rfl
    | storeFailed message =>
      rw [lease] at refused
      cases refused
      rw [counts_other, guarded, Bool.true_and]
      exact countedEvents_eq _

theorem log_runTurn_queue (guarded : policy.guarded = true)
    (refused : (match turn.semaphore with
      | .admitted => none
      | .aborted => some localWaitAbortError
      | .queueFull => some (endpointQueueError "endpoint_queue_full")
      | .queueTimeout => some (endpointQueueError "endpoint_queue_timeout")) = some error) :
    (runTurn policy maxWaitMs retries turn).1 =
      countedEvents (recordEndpointFailure policy (runtimeErrorOf turn.signalAfter error)) := by
  have fails : withEndpointSemaphore policy maxWaitMs turn = ([], some (.error error)) := by
    rw [withEndpointSemaphore, if_pos guarded]
    cases semaphore : turn.semaphore <;> rw [semaphore] at refused <;> cases refused <;> rfl
  rw [runTurn, fails]
  show [] ++ (catchError policy turn.signalAfter error).1 = _
  rw [List.nil_append, catchError, countedEvents]
  split <;> rfl

/-- Every turn logs what is due, and its surplus behind that. -/
theorem log_runTurn : (runTurn policy maxWaitMs retries turn).1 =
    due policy turn (turn.stage policy maxWaitMs) ++
      List.replicate (surplus policy turn (turn.stage policy maxWaitMs)) .failed := by
  cases guarded : policy.guarded with
  | false =>
    have stage : turn.stage policy maxWaitMs = .requested false false := by
      rw [Turn.stage, guarded]
      rfl
    rw [stage]
    refine log_runTurn_requested (fun _ => rfl) ?_ rfl
    rw [withEndpointSemaphore, guarded]
    simp only [dispatch, guarded]
    rfl
  | true =>
    cases semaphore : turn.semaphore with
    | admitted =>
      cases leased : acquireLease turn with
      | ok lost =>
        rw [stage_leased guarded semaphore leased]
        exact log_runTurn_leased guarded semaphore leased
      | error error => exact log_runTurn_unleased guarded semaphore leased
    | aborted =>
      rw [log_runTurn_queue guarded (by rw [semaphore]), Turn.stage, if_pos guarded, semaphore,
        localWaitAbortError, runtimeErrorOf_abort, recordEndpointFailure_classified, guarded]
      exact countedEvents_eq _
    | queueFull =>
      rw [log_runTurn_queue guarded (by rw [semaphore]), Turn.stage, if_pos guarded, semaphore,
        runtimeErrorOf_queue, recordEndpointFailure_queue (by decide)]
      rfl
    | queueTimeout =>
      rw [log_runTurn_queue guarded (by rw [semaphore]), Turn.stage, if_pos guarded, semaphore,
        runtimeErrorOf_queue, recordEndpointFailure_queue (by decide)]
      rfl

/-- An answer comes from the request. -/
theorem sent_of_answer {result : Result}
    (answers : withEndpointSemaphore policy maxWaitMs turn = (log, some (.ok result))) :
    (∃ sent, sendRequest policy turn = (sent, .ok result)) ∧
      ∃ checked lost, turn.stage policy maxWaitMs = .requested checked lost := by
  cases guarded : policy.guarded with
  | false =>
    refine ⟨?_, false, false, by rw [Turn.stage, guarded]; rfl⟩
    rw [withEndpointSemaphore, guarded] at answers
    simp only [dispatch, guarded, Bool.false_eq_true, if_false] at answers
    cases sends : sendRequest policy turn with
    | mk sent answer =>
      rw [sends] at answers
      cases answer with
      | error error => cases answers
      | ok _ =>
        cases answers
        exact ⟨log, rfl⟩
  | true =>
    rw [withEndpointSemaphore, if_pos guarded] at answers
    cases semaphore : turn.semaphore <;> rw [semaphore] at answers <;> try cases answers
    simp only [dispatch, if_pos guarded] at answers
    cases leased : acquireLease turn with
    | error error =>
      rw [leased] at answers
      cases answers
    | ok lost =>
      rw [leased] at answers
      rw [stage_leased guarded semaphore leased]
      cases circuit : assertEndpointCircuitAllowsRequest maxWaitMs turn with
      | mk before passed =>
        rw [circuit] at answers
        rcases passed with _ | _ | _
        · cases answers
        · cases answers
        · refine ⟨?_, ?_⟩
          · cases sends : sendRequest policy turn with
            | mk sent answer =>
              rw [sends] at answers
              cases answer with
              | error error => cases answers
              | ok _ =>
                cases answers
                exact ⟨sent, rfl⟩
          · exact circuitStage_of_passed circuit

theorem surplus_of_status {stage : Stage} {httpStatus : Nat}
    (requested : stage = .requested checked lost)
    (status : turn.response = .status httpStatus message) :
    surplus policy turn stage = 0 := by
  rw [requested, surplus, status]

theorem surplus_of_retried (retried : (runTurn policy maxWaitMs retries turn).2 = .retried) :
    0 < retries ∧ surplus policy turn (turn.stage policy maxWaitMs) = 0 := by
  unfold runTurn at retried
  dsimp only at retried
  split at retried
  · cases retried
  · cases retried
  · cases retried
  · cases retried
  · rename_i httpError answers
    split at retried
    · rename_i again
      obtain ⟨⟨sent, sends⟩, checked, lost, stage⟩ := sent_of_answer answers
      refine ⟨again.1, ?_⟩
      unfold sendRequest at sends
      cases response : turn.response with
      | ok => rw [response] at sends; cases sends
      | failed failure => rw [response] at sends; cases sends
      | status httpStatus message => exact surplus_of_status stage response
    · cases retried

end Turn

/-! ### What a run logs -/

/-- The turn leaves the failure count to the endpoint: no wait of its own ends by the run's time
limit; the lease store does not fail like an endpoint; the lease is not lost before the request; the
caller does not give up during the health check; and the time limit does not pass between the two
catch clauses while they hold an error that does not count. -/
def Fits (policy : Policy) (turn : Turn) : Stage → Prop
  | .queued => turn.signalAfter.timedOut = false
  | .waited lost => lost = false ∧ turn.signal.timedOut = false
  | .refused lost => lost = false
  | .stillWaiting => True
  | .storeFailed message =>
    remoteFailure turn.signal (.other message) = false ∧
      (turn.signal.aborted = false → turn.signalAfter.timedOutBy = false)
  | .unhealthy lost failure =>
    lost = false ∧ ∀ fetch ∈ failure, callerAbort turn.signal fetch = false
  | .requested _ lost =>
    ∀ message, turn.response = .failed (.other message) → policy.guarded = true → lost = false →
      remoteFailure turn.signal (.other message) = false → turn.signal.aborted = false →
        turn.signalAfter.timedOutBy = false

theorem surplus_eq_zero_iff {stage : Stage} :
    surplus policy turn stage = 0 ↔ Fits policy turn stage := by
  cases stage with
  | queued => simp [surplus, Fits]
  | waited lost => simp [surplus, Fits]
  | refused lost => simp [surplus, Fits]
  | stillWaiting => simp [surplus, Fits]
  | storeFailed message => simp [surplus, Fits]
  | unhealthy lost failure => cases failure <;> simp [surplus, Fits]
  | requested checked lost =>
    simp only [surplus, Fits]
    split
    · rename_i message failed
      simp only [failed, Response.failed.injEq, FetchFailure.other.injEq, forall_eq',
        Bool.toNat_eq_zero]
      cases policy.guarded <;> cases lost <;>
        cases remoteFailure turn.signal (.other message) <;> cases turn.signal.aborted <;> simp
    · rename_i notOther
      exact ⟨fun _ message failed => absurd failed (notOther message), fun _ => rfl⟩

/-- `failures` of the endpoint's entry, 0 without one. -/
def failureCount (n : Nat) (log : List Event) : Nat :=
  log.foldl (fun n event => match event with
    | .failed => n + 1
    | .cleared => 0
    | _ => n) n

theorem failureCount_append (n : Nat) (first second : List Event) :
    failureCount n (first ++ second) = failureCount (failureCount n first) second :=
  List.foldl_append

theorem failureCount_replicate (n k : Nat) :
    failureCount n (List.replicate k .failed) = n + k := by
  induction k generalizing n with
  | zero => rfl
  | succ k ih =>
    rw [List.replicate_succ]
    exact (ih (n + 1)).trans (by omega)

/-- What a list of turns should do to the count. -/
def dueAll (policy : Policy) (maxWaitMs : Nat) (turns : List Turn) : List Event :=
  turns.flatMap fun turn => due policy turn (turn.stage policy maxWaitMs)

def surplusAll (policy : Policy) (maxWaitMs : Nat) (turns : List Turn) : Nat :=
  (turns.map fun turn => surplus policy turn (turn.stage policy maxWaitMs)).sum

theorem loop_retried {turns : List Turn}
    (retried : (runTurn policy maxWaitMs retries turn).2 = .retried) :
    loop policy maxWaitMs retries (turn :: turns) =
      ⟨turn :: (loop policy maxWaitMs (retries - 1) turns).taken,
        (runTurn policy maxWaitMs retries turn).1 ++
          (loop policy maxWaitMs (retries - 1) turns).log,
        (loop policy maxWaitMs (retries - 1) turns).outcome⟩ := by
  rw [loop]
  split
  · rename_i log taken
    rw [taken]
  · rename_i log outcome other taken
    rw [taken] at retried
    exact absurd retried other

theorem loop_last {turns : List Turn}
    (last : (runTurn policy maxWaitMs retries turn).2 ≠ .retried) :
    loop policy maxWaitMs retries (turn :: turns) =
      ⟨[turn], (runTurn policy maxWaitMs retries turn).1,
        (runTurn policy maxWaitMs retries turn).2⟩ := by
  rw [loop]
  split
  · rename_i log taken
    rw [taken] at last
    exact absurd rfl last
  · rename_i log outcome _ taken
    rw [taken]

/-- The turns in front of the last one log what is due; so the surplus of a run comes last. -/
theorem log_loop (turns : List Turn) : (loop policy maxWaitMs retries turns).log =
    dueAll policy maxWaitMs (loop policy maxWaitMs retries turns).taken ++
      List.replicate (surplusAll policy maxWaitMs (loop policy maxWaitMs retries turns).taken)
        .failed := by
  induction turns generalizing retries with
  | nil => rfl
  | cons turn turns ih =>
    by_cases retried : (runTurn policy maxWaitMs retries turn).2 = .retried
    · have none_ := (surplus_of_retried retried).2
      rw [loop_retried retried]
      simp only [dueAll, surplusAll, List.flatMap_cons, List.map_cons, List.sum_cons, none_,
        Nat.zero_add, List.append_assoc]
      rw [log_runTurn, none_, List.replicate_zero, List.append_nil, ih]
      rfl
    · rw [loop_last retried]
      simp only [dueAll, surplusAll, List.flatMap_cons, List.flatMap_nil, List.append_nil,
        List.map_cons, List.map_nil, List.sum_cons, List.sum_nil, Nat.add_zero]
      exact log_runTurn

theorem length_taken_le (turns : List Turn) :
    (loop policy maxWaitMs retries turns).taken.length ≤ 1 + retries := by
  induction turns generalizing retries with
  | nil => exact Nat.zero_le _
  | cons turn turns ih =>
    by_cases retried : (runTurn policy maxWaitMs retries turn).2 = .retried
    · have left := (surplus_of_retried retried).1
      have rest := @ih (retries - 1)
      rw [loop_retried retried, List.length_cons]
      omega
    · rw [loop_last retried, List.length_singleton]
      omega

theorem count_request_due (policy : Policy) (turn : Turn) (stage : Stage) :
    (due policy turn stage).count .request ≤ 1 := by
  cases stage with
  | unhealthy lost failure => simp [due, countedEvents_eq, List.count_replicate]
  | requested checked lost =>
    have noRequest : ∀ counted, (countedEvents counted).count .request = 0 := by
      intro counted
      cases counted <;> rfl
    rw [due, List.count_append, List.count_cons_self]
    have before :
        (if checked = true then [Event.healthCheck, .cleared] else []).count .request = 0 := by
      cases checked <;> rfl
    rw [before]
    cases turn.response with
    | ok => cases policy.endpoint <;> simp
    | status httpStatus message => simp only [noRequest]; omega
    | failed failure => simp only [noRequest]; omega
  | queued => exact Nat.zero_le _
  | waited lost => exact Nat.zero_le _
  | refused lost => exact Nat.zero_le _
  | stillWaiting => exact Nat.zero_le _
  | storeFailed message => exact Nat.zero_le _

theorem count_request_dueAll (turns : List Turn) :
    (dueAll policy maxWaitMs turns).count .request ≤ turns.length := by
  induction turns with
  | nil => exact Nat.zero_le _
  | cons turn turns ih =>
    rw [dueAll, List.flatMap_cons, List.count_append, List.length_cons]
    have first := count_request_due policy turn (turn.stage policy maxWaitMs)
    rw [dueAll] at ih
    omega

theorem count_request_le (retryLimit : Nat) (turns : List Turn) :
    (postChatCompletions policy maxWaitMs retryLimit turns).log.count .request ≤
      1 + retryLimit := by
  have few : (if policy.budget then retryLimit else 0) ≤ retryLimit := by
    split
    · exact le_rfl
    · exact Nat.zero_le _
  rw [postChatCompletions, log_loop, List.count_append, List.count_replicate]
  generalize (if policy.budget then retryLimit else 0) = retries at few ⊢
  have requests : (dueAll policy maxWaitMs (loop policy maxWaitMs retries turns).taken).count
      .request ≤ _ := count_request_dueAll _
  have taken : (loop policy maxWaitMs retries turns).taken.length ≤ _ := length_taken_le turns
  simp only [show (Event.failed == Event.request) = false from rfl, Bool.false_eq_true, if_false]
  omega

theorem surplusAll_eq_zero_iff {turns : List Turn} : surplusAll policy maxWaitMs turns = 0 ↔
    ∀ turn ∈ turns, Fits policy turn (turn.stage policy maxWaitMs) := by
  induction turns with
  | nil => simp [surplusAll]
  | cons turn turns ih =>
    rw [List.forall_mem_cons, ← ih, ← surplus_eq_zero_iff]
    simp [surplusAll]

/-- Whatever waits, health checks and requests answer: the run's effect on the failure count of the
endpoint is the one that is due, and it sends one request more than its retries at most, exactly
when each of its turns fits. -/
theorem failures_counted_once_iff (policy : Policy) (maxWaitMs retryLimit : Nat)
    (turns : List Turn) :
    ((∀ n, failureCount n (postChatCompletions policy maxWaitMs retryLimit turns).log =
          failureCount n (dueAll policy maxWaitMs
            (postChatCompletions policy maxWaitMs retryLimit turns).taken)) ∧
        (postChatCompletions policy maxWaitMs retryLimit turns).log.count .request ≤
          1 + retryLimit) ↔
      ∀ turn ∈ (postChatCompletions policy maxWaitMs retryLimit turns).taken,
        Fits policy turn (turn.stage policy maxWaitMs) := by
  rw [← surplusAll_eq_zero_iff, postChatCompletions, log_loop]
  constructor
  · rintro ⟨same, _⟩
    have counted := same 0
    rw [failureCount_append, failureCount_replicate] at counted
    omega
  · intro none_
    refine ⟨fun n => ?_, ?_⟩
    · rw [none_, List.replicate_zero, List.append_nil]
    · rw [← log_loop]
      exact count_request_le retryLimit turns

/-- The run's time limit ends the wait for the semaphore. -/
def timedOutInQueue : Turn where
  semaphore := .aborted
  signal := ⟨true, true⟩
  signalAfter := ⟨true, true⟩

theorem local_wait_counted : ¬ ∀ (policy : Policy) (maxWaitMs retryLimit : Nat) (turns : List Turn),
    (∀ n, failureCount n (postChatCompletions policy maxWaitMs retryLimit turns).log =
        failureCount n (dueAll policy maxWaitMs
          (postChatCompletions policy maxWaitMs retryLimit turns).taken)) ∧
      (postChatCompletions policy maxWaitMs retryLimit turns).log.count .request ≤
        1 + retryLimit := by
  intro claim
  have counted := (claim ⟨true, true⟩ 0 1 [timedOutInQueue]).1 0
  revert counted
  decide

end AifHandoff.Runtime.EndpointCircuit
