import AifHandoff.Lib.Doubles
import AifHandoff.Shared.RuntimeLimits

/-!
When a runtime limit ends (`resolveRuntimeLimitFutureHint`, `shared/runtimeLimitUtils.ts`).

The snapshot and one of its windows may each name a time of reset and a delay in seconds.
The first of these four that lies in the future is the hint, in an order that depends on
the caller. A delay becomes the text of a date before anything is selected, and the text
of a date out of range is refused with an exception.
-/

namespace AifHandoff.Shared

/-! ### Dates -/

/-- The last time of a date, in milliseconds. -/
def maxTime : Int := 8640000000000000

/-- Texts of dates. What the parser makes of a text that it did not write is up to the
engine. -/
structure Dates where
  parse : String → Option Int
  toISOString : Int → String
  parse_toISOString : ∀ t, |t| ≤ maxTime → parse (toISOString t) = some t
  parse_empty : parse "" = none

def truncate (q : ℚ) : Int := if 0 ≤ q then ⌊q⌋ else ⌈q⌉

/-- The time of `new Date(value)`, if it is a valid date. -/
def timeClip : Double → Option Int
  | .finite q => if |q| ≤ maxTime then some (truncate q) else none
  | _ => none

theorem abs_timeClip_le {value : Double} {t : Int} (clipped : timeClip value = some t) :
    |t| ≤ maxTime := by
  cases value with
  | nan => cases clipped
  | infinite negative => cases clipped
  | finite q =>
    rw [timeClip, Option.ite_none_right_eq_some] at clipped
    obtain ⟨inside, made⟩ := clipped
    have t_eq := Option.some.inj made
    obtain ⟨least, most⟩ := abs_le.mp inside
    rw [abs_le, ← t_eq, truncate]
    split
    next nonneg => exact ⟨(by decide : -maxTime ≤ 0).trans (Int.floor_nonneg.mpr nonneg),
      Int.cast_le.mp ((Int.floor_le q).trans most)⟩
    next negative =>
      have below : ⌈q⌉ ≤ 0 := Int.ceil_le.mpr (by exact_mod_cast (not_le.mp negative).le)
      refine ⟨Int.cast_le.mp (le_trans ?_ (Int.le_ceil q)), below.trans (by decide)⟩
      rw [Int.cast_neg]
      exact least

/-! ### Candidates -/

inductive RuntimeLimitFutureHintSource where
  | snapshotResetAt
  | snapshotRetryAfter
  | windowResetAt
  | windowRetryAfter
  | none
deriving DecidableEq

structure RuntimeLimitFutureHint where
  source : RuntimeLimitFutureHintSource
  resetAt : Option String
  retryAfterSeconds : Option Double
  resetAtMs : Option Int
  isFuture : Bool
  windowScope : Option String

structure HintCandidate where
  source : RuntimeLimitFutureHintSource
  resetAt : Option String
  retryAfterSeconds : Option Double
  windowScope : Option String

structure HintInput where
  nowMs : Double
  preferredWindow : Option (RuntimeLimitWindow Double)
  windowFirst : Option Bool

def isFiniteNonNegative : Double → Bool
  | .finite q => decide (0 ≤ q)
  | _ => false

def choosePrimaryWindow (snapshot : RuntimeLimitSnapshot Double) :
    Option (RuntimeLimitWindow Double) :=
  let ofScope : Option (RuntimeLimitWindow Double) := match snapshot.primaryScope with
    | some scope =>
      if scope = "" then none else snapshot.windows.find? (·.scope = scope)
    | none => none
  let telling := snapshot.windows.find? fun window =>
    window.resetAt.isSome || window.retryAfterSeconds.any isFiniteNonNegative ||
      window.percentRemaining.any Double.isFinite
  (ofScope.or telling).or snapshot.windows.head?

section Hints

variable (dates : Dates)

def parseTimestampMs (value : Option String) : Option Int :=
  match value with
  | some text => if text = "" then none else dates.parse text
  | none => none

def candidateFromResetAt (source : RuntimeLimitFutureHintSource) (resetAt : Option String)
    (windowScope : Option String) : Option HintCandidate :=
  match resetAt with
  | some text => if text = "" then none else some ⟨source, some text, none, windowScope⟩
  | none => none

/-- `nowMs + retryAfterSeconds * 1000`. -/
def retryTime (nowMs retryAfterSeconds : Double) : Double :=
  nowMs.add (retryAfterSeconds.mul (.finite 1000))

def candidateFromRetryAfter (source : RuntimeLimitFutureHintSource)
    (retryAfterSeconds : Option Double) (windowScope : Option String) (nowMs : Double) :
    Except String (Option HintCandidate) :=
  match retryAfterSeconds with
  | some seconds =>
    if isFiniteNonNegative seconds then
      match timeClip (retryTime nowMs seconds) with
      | some t => .ok (some ⟨source, some (dates.toISOString t), some seconds, windowScope⟩)
      | none => .error "RangeError: Invalid time value"
    else .ok none
  | none => .ok none

def noHint : RuntimeLimitFutureHint := ⟨.none, none, none, none, false, none⟩

/-- The time is after `nowMs`. -/
def isAfter (nowMs : Double) (time : Option Int) : Bool :=
  time.any fun t => nowMs.lt (.finite t)

/-- The first candidate in the future, or else the first one with a time. -/
def selectCandidate (nowMs : Double) (ordered : List HintCandidate) : Option HintCandidate :=
  (ordered.find? fun candidate => isAfter nowMs (parseTimestampMs dates candidate.resetAt)).or
    (ordered.find? fun candidate => (parseTimestampMs dates candidate.resetAt).isSome)

def selectHint (nowMs : Double) (ordered : List HintCandidate) : RuntimeLimitFutureHint :=
  match selectCandidate dates nowMs ordered with
  | none => noHint
  | some selected => {
      source := selected.source
      resetAt := selected.resetAt
      retryAfterSeconds := selected.retryAfterSeconds
      resetAtMs := parseTimestampMs dates selected.resetAt
      isFuture := isAfter nowMs (parseTimestampMs dates selected.resetAt)
      windowScope := selected.windowScope }

/-- The window of the caller, or else the primary one. -/
def hintWindow (snapshot : RuntimeLimitSnapshot Double) (input : HintInput) :
    Option (RuntimeLimitWindow Double) :=
  input.preferredWindow.or (choosePrimaryWindow snapshot)

def preferWindowHints (input : HintInput) : Bool :=
  input.windowFirst.getD input.preferredWindow.isSome

def resolveRuntimeLimitFutureHint (snapshot : Option (RuntimeLimitSnapshot Double))
    (input : HintInput) : Except String RuntimeLimitFutureHint :=
  match snapshot with
  | none => .ok noHint
  | some snapshot =>
    let preferredWindow := hintWindow snapshot input
    let windowScope := preferredWindow.map (·.scope)
    match candidateFromRetryAfter dates .snapshotRetryAfter snapshot.retryAfterSeconds none
        input.nowMs with
    | .error error => .error error
    | .ok snapshotRetry =>
      match candidateFromRetryAfter dates .windowRetryAfter
          (preferredWindow.bind (·.retryAfterSeconds)) windowScope input.nowMs with
      | .error error => .error error
      | .ok windowRetry =>
        let snapshotCandidates :=
          [candidateFromResetAt .snapshotResetAt snapshot.resetAt none, snapshotRetry]
        let windowCandidates :=
          [candidateFromResetAt .windowResetAt (preferredWindow.bind (·.resetAt)) windowScope,
            windowRetry]
        let ordered := if preferWindowHints input then windowCandidates ++ snapshotCandidates
          else snapshotCandidates ++ windowCandidates
        .ok (selectHint dates input.nowMs (ordered.filterMap id))

/-! ### The order of preference -/

/-- The candidates in the order of preference. -/
def preferenceOrder (input : HintInput) : List RuntimeLimitFutureHintSource :=
  if preferWindowHints input then
    [.windowResetAt, .windowRetryAfter, .snapshotResetAt, .snapshotRetryAfter]
  else [.snapshotResetAt, .snapshotRetryAfter, .windowResetAt, .windowRetryAfter]

/-- The end of a delay that is a number of seconds. -/
def retryInstant (nowMs : Double) (retryAfterSeconds : Option Double) : Option Int :=
  (retryAfterSeconds.filter isFiniteNonNegative).bind fun seconds => timeClip (retryTime nowMs seconds)

/-- The instant that a candidate stands for. -/
def candidateInstant (snapshot : RuntimeLimitSnapshot Double) (input : HintInput) :
    RuntimeLimitFutureHintSource → Option Int
  | .snapshotResetAt => parseTimestampMs dates snapshot.resetAt
  | .snapshotRetryAfter => retryInstant input.nowMs snapshot.retryAfterSeconds
  | .windowResetAt => parseTimestampMs dates ((hintWindow snapshot input).bind (·.resetAt))
  | .windowRetryAfter =>
    retryInstant input.nowMs ((hintWindow snapshot input).bind (·.retryAfterSeconds))
  | .none => none

/-- A delay, if it is a number of seconds, ends within the range of dates. -/
def endsInRange (nowMs : Double) (retryAfterSeconds : Option Double) : Bool :=
  (retryAfterSeconds.filter isFiniteNonNegative).all fun seconds =>
    (timeClip (retryTime nowMs seconds)).isSome

/-! ### The selection -/

section Selection

variable {dates : Dates} {nowMs : Double}

/-- A candidate is there if its source has an instant, and stands for it. -/
inductive StandsFor (dates : Dates) (instant : RuntimeLimitFutureHintSource → Option Int)
    (source : RuntimeLimitFutureHintSource) : Option HintCandidate → Prop where
  | absent (noInstant : instant source = none) : StandsFor dates instant source none
  | present {candidate : HintCandidate} (sameSource : candidate.source = source)
      (sameInstant : parseTimestampMs dates candidate.resetAt = instant source) :
      StandsFor dates instant source (some candidate)

theorem standsFor_resetAt {instant : RuntimeLimitFutureHintSource → Option Int}
    {source : RuntimeLimitFutureHintSource} {resetAt : Option String} (windowScope : Option String)
    (named : instant source = parseTimestampMs dates resetAt) :
    StandsFor dates instant source (candidateFromResetAt source resetAt windowScope) := by
  cases resetAt with
  | none => exact .absent named
  | some text =>
    rw [candidateFromResetAt]
    split
    next empty =>
      rw [parseTimestampMs, if_pos empty] at named
      exact .absent named
    next => exact .present rfl named.symm

/-- The text of a delay's end is read as that end. -/
theorem standsFor_retryAfter {instant : RuntimeLimitFutureHintSource → Option Int}
    {source : RuntimeLimitFutureHintSource} {retryAfterSeconds : Option Double}
    {windowScope : Option String} {candidate : Option HintCandidate}
    (named : instant source = retryInstant nowMs retryAfterSeconds)
    (made : candidateFromRetryAfter dates source retryAfterSeconds windowScope nowMs = .ok candidate) :
    StandsFor dates instant source candidate := by
  cases retryAfterSeconds with
  | none =>
    cases made
    exact .absent named
  | some seconds =>
    rw [candidateFromRetryAfter] at made
    rw [retryInstant, Option.filter_some] at named
    split at made
    next number =>
      rw [if_pos number, Option.bind_some] at named
      split at made
      next t clipped =>
        cases made
        have read := dates.parse_toISOString t (abs_timeClip_le clipped)
        have notEmpty : dates.toISOString t ≠ "" := by
          intro empty
          rw [empty, dates.parse_empty] at read
          cases read
        refine .present rfl ?_
        rw [named, clipped, parseTimestampMs, if_neg notEmpty, read]
      next => cases made
    next other =>
      cases made
      rw [if_neg other] at named
      exact .absent named

theorem find_future {instant : RuntimeLimitFutureHintSource → Option Int}
    {candidates : List (Option HintCandidate)} {sources : List RuntimeLimitFutureHintSource}
    (stand : List.Forall₂ (StandsFor dates instant) sources candidates) :
    ((candidates.filterMap id).find? fun k => isAfter nowMs (parseTimestampMs dates k.resetAt)).map
        (·.source) = sources.find? fun source => isAfter nowMs (instant source) := by
  induction stand with
  | nil => rfl
  | @cons source candidate sources candidates stands _ ih =>
    rw [List.find?_cons]
    cases stands with
    | absent noInstant =>
      rw [List.filterMap_cons_none rfl, ih, noInstant]
      rfl
    | present sameSource sameInstant =>
      rw [List.filterMap_cons_some (f := id) rfl, List.find?_cons, sameInstant]
      cases isAfter nowMs (instant source) with
      | true => rw [Option.map_some, sameSource]
      | false => exact ih

theorem selectHint_isFuture (ordered : List HintCandidate) :
    (ordered.find? fun k => isAfter nowMs (parseTimestampMs dates k.resetAt)).map (·.source) =
      if (selectHint dates nowMs ordered).isFuture then some (selectHint dates nowMs ordered).source
      else none := by
  unfold selectHint
  cases found : ordered.find? fun k => isAfter nowMs (parseTimestampMs dates k.resetAt) with
  | some k =>
    have after := List.find?_some found
    rw [selectCandidate, found, Option.some_or]
    dsimp only
    rw [if_pos after, Option.map_some]
  | none =>
    rw [selectCandidate, found, Option.none_or, Option.map_none]
    cases other : ordered.find? fun k => (parseTimestampMs dates k.resetAt).isSome with
    | none => rfl
    | some k =>
      have past := List.find?_eq_none.mp found k (List.mem_of_find?_eq_some other)
      dsimp only
      rw [if_neg past]

end Selection

theorem candidateFromRetryAfter_ok_iff (source : RuntimeLimitFutureHintSource)
    (retryAfterSeconds : Option Double) (windowScope : Option String) (nowMs : Double) :
    (∃ candidate, candidateFromRetryAfter dates source retryAfterSeconds windowScope nowMs =
        .ok candidate) ↔ endsInRange nowMs retryAfterSeconds = true := by
  rw [candidateFromRetryAfter.eq_def, endsInRange]
  cases retryAfterSeconds with
  | none => exact iff_of_true ⟨none, rfl⟩ rfl
  | some seconds =>
    rw [Option.filter_some]
    dsimp only
    split
    next number =>
      rw [Option.all_some]
      cases timeClip (retryTime nowMs seconds) with
      | some t => exact iff_of_true ⟨_, rfl⟩ rfl
      | none => simp
    next => exact iff_of_true ⟨none, rfl⟩ rfl

/-- The hint is returned, and tells the first candidate in the future, exactly if the
delays of the snapshot and of the window end within the range of dates. -/
theorem resolveRuntimeLimitFutureHint_iff (snapshot : RuntimeLimitSnapshot Double)
    (input : HintInput) :
    (∃ hint, resolveRuntimeLimitFutureHint dates (some snapshot) input = .ok hint ∧
        (hint.isFuture = true ↔ ∃ source ∈ preferenceOrder input,
          isAfter input.nowMs (candidateInstant dates snapshot input source) = true) ∧
        (hint.isFuture = true → (preferenceOrder input).find? (fun source =>
          isAfter input.nowMs (candidateInstant dates snapshot input source)) = some hint.source)) ↔
      endsInRange input.nowMs snapshot.retryAfterSeconds = true ∧
        endsInRange input.nowMs ((hintWindow snapshot input).bind (·.retryAfterSeconds)) = true := by
  have snapshotOk := candidateFromRetryAfter_ok_iff dates .snapshotRetryAfter
    snapshot.retryAfterSeconds none input.nowMs
  have windowOk := candidateFromRetryAfter_ok_iff dates .windowRetryAfter
    ((hintWindow snapshot input).bind (·.retryAfterSeconds))
    ((hintWindow snapshot input).map (·.scope)) input.nowMs
  rw [← snapshotOk, ← windowOk, resolveRuntimeLimitFutureHint]
  dsimp only
  cases snapshotMade : candidateFromRetryAfter dates .snapshotRetryAfter snapshot.retryAfterSeconds
      none input.nowMs with
  | error error => simp
  | ok snapshotRetry =>
    cases windowMade : candidateFromRetryAfter dates .windowRetryAfter
        ((hintWindow snapshot input).bind (·.retryAfterSeconds))
        ((hintWindow snapshot input).map (·.scope)) input.nowMs with
    | error error => simp
    | ok windowRetry =>
      have snapshotReset : StandsFor dates (candidateInstant dates snapshot input)
          .snapshotResetAt (candidateFromResetAt .snapshotResetAt snapshot.resetAt none) :=
        standsFor_resetAt none rfl
      have snapshotDelay : StandsFor dates (candidateInstant dates snapshot input)
          .snapshotRetryAfter snapshotRetry := standsFor_retryAfter rfl snapshotMade
      have windowReset : StandsFor dates (candidateInstant dates snapshot input)
          .windowResetAt (candidateFromResetAt .windowResetAt
            ((hintWindow snapshot input).bind (·.resetAt))
            ((hintWindow snapshot input).map (·.scope))) := standsFor_resetAt _ rfl
      have windowDelay : StandsFor dates (candidateInstant dates snapshot input)
          .windowRetryAfter windowRetry := standsFor_retryAfter rfl windowMade
      refine iff_of_true ⟨_, rfl, ?_⟩ ⟨⟨_, rfl⟩, ⟨_, rfl⟩⟩
      generalize candidates : (if preferWindowHints input then _ else _) = ordered
      have stand : List.Forall₂ (StandsFor dates (candidateInstant dates snapshot input))
          (preferenceOrder input) ordered := by
        rw [← candidates, preferenceOrder]
        split
        · exact .cons windowReset (.cons windowDelay
            (.cons snapshotReset (.cons snapshotDelay .nil)))
        · exact .cons snapshotReset (.cons snapshotDelay
            (.cons windowReset (.cons windowDelay .nil)))
      have first := @find_future _ input.nowMs _ _ _ stand
      rw [selectHint_isFuture] at first
      rw [← first, ← List.find?_isSome, ← first]
      cases (selectHint dates input.nowMs (ordered.filterMap id)).isFuture <;> simp

end Hints

/-! ### A long delay -/

/-- Times as a sign and decimal digits. -/
def decimalDates : Dates where
  parse := fun text => match text.toList with
    | '+' :: digits => some (Nat.ofDigitChars 10 digits 0)
    | '-' :: digits => some (-Nat.ofDigitChars 10 digits 0)
    | _ => none
  toISOString := fun t =>
    String.ofList ((if 0 ≤ t then '+' else '-') :: Nat.toDigits 10 t.natAbs)
  parse_toISOString := by
    intro t _
    rw [String.toList_ofList]
    rcases lt_or_ge t 0 with negative | positive
    · rw [if_neg (Int.not_le.mpr negative)]
      change some (-(Nat.ofDigitChars 10 _ 0 : Int)) = _
      rw [Nat.ofDigitChars_ten_toDigits, Int.ofNat_natAbs_of_nonpos negative.le, Int.neg_neg]
    · rw [if_pos positive]
      change some (Nat.ofDigitChars 10 _ 0 : Int) = _
      rw [Nat.ofDigitChars_ten_toDigits, Int.natAbs_of_nonneg positive]
  parse_empty := rfl

/-- A snapshot of OpenAI with a delay. -/
def delayed (retryAfterSeconds : Double) : RuntimeLimitSnapshot Double where
  source := "api_headers"
  status := "blocked"
  precision := "exact"
  checkedAt := "2026-04-19T09:00:00.000Z"
  providerId := "openai"
  runtimeId := none
  profileId := none
  primaryScope := none
  resetAt := none
  retryAfterSeconds := some retryAfterSeconds
  warningThreshold := none
  windows := []
  providerMeta := .null

theorem delay_out_of_range {seconds : Int} (small : |seconds * 1000| ≤ 2 ^ 53)
    (far : maxTime < seconds * 1000) :
    timeClip (retryTime (.finite 0) (.finite seconds)) = none := by
  have product : Double.mul (.finite seconds) (.finite 1000) = .finite ((seconds * 1000 : Int) : ℚ) := by
    rw [Double.mul, ← Double.round_intCast small]
    push_cast
    rfl
  have sum : Double.add (.finite 0) (.finite ((seconds * 1000 : Int) : ℚ)) =
      .finite ((seconds * 1000 : Int) : ℚ) := by
    rw [Double.add, zero_add, Double.round_intCast small]
  have outside : ¬ |((seconds * 1000 : Int) : ℚ)| ≤ maxTime := by
    rw [not_le, ← Int.cast_abs]
    exact_mod_cast far.trans_le (le_abs_self _)
  rw [retryTime, product, sum, timeClip, if_neg outside]

theorem long_delay_throws :
    ¬ ∀ (dates : Dates) (snapshot : RuntimeLimitSnapshot Double) (input : HintInput),
      ∃ hint, resolveRuntimeLimitFutureHint dates (some snapshot) input = .ok hint := by
  intro returns
  have out : timeClip (retryTime (.finite 0) (.finite ((9000000000000 : Int) : ℚ))) = none :=
    delay_out_of_range (by decide) (by decide)
  have number : isFiniteNonNegative (.finite ((9000000000000 : Int) : ℚ)) = true := by
    decide
  obtain ⟨hint, returned⟩ := returns decimalDates (delayed (.finite ((9000000000000 : Int) : ℚ)))
    ⟨.finite 0, none, none⟩
  have thrown : candidateFromRetryAfter decimalDates .snapshotRetryAfter
      (some (.finite ((9000000000000 : Int) : ℚ))) none (.finite 0) =
      .error "RangeError: Invalid time value" := by
    rw [candidateFromRetryAfter, if_pos number, out]
  rw [resolveRuntimeLimitFutureHint, delayed] at returned
  dsimp only at returned
  rw [thrown] at returned
  cases returned

end AifHandoff.Shared
