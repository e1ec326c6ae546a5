import AifHandoff.Lib.BackwardLines
import AifHandoff.Lib.Doubles
import AifHandoff.Lib.Keyed
import AifHandoff.Runtime.QwenCalls
import AifHandoff.Shared.RuntimeLimits

/-!
Limit snapshots in the session files of Codex (`runtime/adapters/codex/sessions.ts`).

A session file holds one record a line, and some of them report a limit. The files are visited
newest first, each is read backwards, and a fast reading stops at the first report: it shows one
limit of a file, however many the file reports.
-/

namespace AifHandoff.Runtime.CodexLimits

open Text Shared
open BackwardLines (LineReader)

/-! ### Records -/

/-- Numbers, dates, lower case and hashes as the language has them; `isoOfMs` and `isoOfText` give
the ISO text of a valid date. -/
structure CodexHost where
  readNumber : List Char → Double
  numberText : ℚ → String
  isoOfMs : ℚ → Option String
  isoOfText : String → Option String
  now : String
  dateParse : String → Option ℚ
  toLowerCase : String → String
  sha256 : String → String

variable (host : CodexHost)

def toIso (value : Option (Json Double)) : String :=
  match value with
  | some (.str text) => (host.isoOfText text).getD host.now
  | some (.num (.finite ms)) => (host.isoOfMs ms).getD host.now
  | _ => host.now

/-- An array has none of the keys that are read. -/
def asRecord : Option (Json Double) → Option (Fields Double)
  | some (.obj fields) => some fields
  | some (.arr _) => some []
  | _ => none

def readString : Option (Json Double) → Option String
  | some (.str s) => if (trim s).isEmpty then none else some s
  | _ => none

def readFiniteNumber : Option (Json Double) → Option ℚ
  | some (.num (.finite q)) => some q
  | _ => none

def readBoolean : Option (Json Double) → Option Bool
  | some (.bool b) => some b
  | _ => none

/-- `JSON.parse` of a line that holds a record. White space behind a value is no part of it. -/
def parseJsonLine (line : String) : Option (Fields Double) :=
  asRecord (Json.parse host.readNumber (line.toList.reverse.dropWhile Json.isSpace).reverse)

/-! ### Snapshots -/

def defaultWarningThreshold : ℚ := 10

def maxValidDateMs : ℚ := 8640000000000000

def normalizeSessionResetAt (value : Option (Json Double)) : Option String :=
  match readFiniteNumber value with
  | none => none
  | some raw =>
    let target := if 1000000000000 ≤ raw then .finite raw
      else Double.mul (.finite raw) (.finite 1000)
    match target with
    | .finite targetMs => if maxValidDateMs < |targetMs| then none else host.isoOfMs targetMs
    | .nan | .infinite _ => none

def toPercentRemaining (percentUsed : Option ℚ) : Option ℚ :=
  percentUsed.map fun used => max 0 (min 100 (Double.minus 100 used))

/-- Whether `minutes % unit === 0`. -/
def isMultiple (minutes unit : ℚ) : Bool := (minutes / unit).den = 1

def formatWindowName (windowMinutes : Option ℚ) : Option String :=
  windowMinutes.map fun minutes =>
    if minutes = 300 then "5h"
    else if minutes = 10080 then "7d"
    else if isMultiple minutes 1440 then host.numberText (minutes / 1440) ++ "d"
    else if isMultiple minutes 60 then host.numberText (minutes / 60) ++ "h"
    else host.numberText minutes ++ "m"

def buildRateLimitWindow (rawWindow : Option (Json Double)) :
    Option (RuntimeLimitWindow Double) :=
  (asRecord rawWindow).bind fun window =>
    let percentUsed := readFiniteNumber (window.lookup "used_percent")
    let percentRemaining := toPercentRemaining percentUsed
    let windowMinutes := readFiniteNumber (window.lookup "window_minutes")
    let resetAt := normalizeSessionResetAt host (window.lookup "resets_at")
    if percentUsed.isNone ∧ percentRemaining.isNone ∧ windowMinutes.isNone ∧ resetAt.isNone then
      none
    else
      some {
        scope := "time"
        name := formatWindowName host windowMinutes
        unit := windowMinutes.map fun _ => "minutes"
        limit := none
        remaining := none
        used := none
        percentUsed := percentUsed.map .finite
        percentRemaining := percentRemaining.map .finite
        resetAt
        retryAfterSeconds := none
        warningThreshold := some (.finite defaultWarningThreshold) }

/-- Whether some window has no more than so much left. -/
def someRemaining (bound : ℚ) (windows : List (RuntimeLimitWindow Double)) : Bool :=
  windows.any fun window => match window.percentRemaining with
    | some (.finite remaining) => remaining ≤ bound
    | _ => false

def resolveSnapshotStatus (windows : List (RuntimeLimitWindow Double)) : String :=
  if someRemaining 0 windows then "blocked"
  else if someRemaining defaultWarningThreshold windows then "warning"
  else if windows.length > 0 then "ok"
  else "unknown"

structure CodexAuthIdentity where
  accountId : Option String
  authMode : Option String
  accountName : Option String
  accountEmail : Option String
  planType : Option String

def buildCodexAuthFingerprint (identity : Option CodexAuthIdentity) : Option String :=
  identity.bind fun identity =>
    let part (value : Option String) := (value.map fun text => host.toLowerCase (trim text)).getD ""
    let stableValue := part identity.accountId ++ "|" ++ part identity.accountEmail ++ "|" ++
      part identity.accountName ++ "|" ++ part identity.authMode ++ "|" ++ part identity.planType
    if stableValue.toList.all (· == '|') then none else some (host.sha256 stableValue)

/-- What a scan is asked for, and the identity it finds. -/
structure ScanInput where
  runtimeId : String
  providerId : String
  projectRoot : Option String
  profileId : Option String
  authIdentity : Option CodexAuthIdentity

def textOrNull (value : Option String) : Json Double := (value.map .str).getD .null

variable (input : ScanInput)

def buildCodexLimitSnapshot (rateLimitsRaw : Option (Json Double)) (checkedAt : String) :
    Option (RuntimeLimitSnapshot Double) :=
  (asRecord rateLimitsRaw).bind fun rateLimits =>
    let windows := [buildRateLimitWindow host (rateLimits.lookup "primary"),
      buildRateLimitWindow host (rateLimits.lookup "secondary")].filterMap id
    if windows.isEmpty then none
    else
      let credits := (asRecord (rateLimits.lookup "credits")).getD []
      let identity (read : CodexAuthIdentity → Option String) := input.authIdentity.bind read
      some {
        source := "sdk_event"
        status := resolveSnapshotStatus windows
        precision := "exact"
        checkedAt
        providerId := input.providerId
        runtimeId := some input.runtimeId
        profileId := input.profileId
        primaryScope := some "time"
        resetAt := windows.findSome? fun window => window.resetAt.filter fun text => !text.isEmpty
        retryAfterSeconds := none
        warningThreshold := some (.finite defaultWarningThreshold)
        windows
        providerMeta := .obj [
          ("limitId", textOrNull (readString (rateLimits.lookup "limit_id"))),
          ("limitName", textOrNull (readString (rateLimits.lookup "limit_name"))),
          ("planType", textOrNull ((identity CodexAuthIdentity.planType).or
            (readString (rateLimits.lookup "plan_type")))),
          ("accountId", textOrNull (identity CodexAuthIdentity.accountId)),
          ("authMode", textOrNull (identity CodexAuthIdentity.authMode)),
          ("accountName", textOrNull (identity CodexAuthIdentity.accountName)),
          ("accountEmail", textOrNull (identity CodexAuthIdentity.accountEmail)),
          ("accountFingerprint", textOrNull (buildCodexAuthFingerprint host input.authIdentity)),
          ("credits", .obj [
            ("hasCredits", ((readBoolean (credits.lookup "has_credits")).map .bool).getD .null),
            ("unlimited", ((readBoolean (credits.lookup "unlimited")).map .bool).getD .null),
            ("balance", ((readFiniteNumber (credits.lookup "balance")).map
              fun q => .num (.finite q)).getD .null)])] }

def readSnapshotLimitId (snapshot : RuntimeLimitSnapshot Double) : Option String :=
  readString (((asRecord (some snapshot.providerMeta)).getD []).lookup "limitId")

/-- The time of a snapshot; a text that is no date is older than any. -/
def parseTimestampMs (value : String) : WithBot ℚ :=
  if value.isEmpty then ⊥ else (host.dateParse value).elim ⊥ (↑)

/-- The snapshot that a line reports. -/
def lineSnapshot (line : String) : Option (RuntimeLimitSnapshot Double) :=
  match parseJsonLine host line with
  | none => none
  | some entry =>
    if readString (entry.lookup "type") ≠ some "event_msg" then none
    else match asRecord (entry.lookup "payload") with
      | none => none
      | some payload =>
        if readString (payload.lookup "type") ≠ some "token_count" then none
        else buildCodexLimitSnapshot host input (payload.lookup "rate_limits")
          (toIso host (entry.lookup "timestamp"))

/-! ### Latest snapshots -/

/-- The snapshots kept for each limit id, in the order of the ids, and without one. -/
structure LimitSnapshots where
  byLimitId : List (RuntimeLimitSnapshot Double)
  unknown : Option (RuntimeLimitSnapshot Double)

def LimitSnapshots.add (keepLatestPerLimit : Bool) (kept : LimitSnapshots)
    (snapshot : RuntimeLimitSnapshot Double) : LimitSnapshots :=
  match readSnapshotLimitId snapshot with
  | none =>
    { kept with
      unknown := if keepLatestPerLimit then some snapshot else kept.unknown.or (some snapshot) }
  | some _ =>
    { kept with
      byLimitId :=
        if keepLatestPerLimit then Keyed.set readSnapshotLimitId kept.byLimitId snapshot
        else Keyed.setNew readSnapshotLimitId kept.byLimitId snapshot }

/-- The latest first. -/
def LimitSnapshots.sorted (kept : LimitSnapshots) : List (RuntimeLimitSnapshot Double) :=
  (kept.byLimitId ++ kept.unknown.toList).insertionSort fun left right =>
    parseTimestampMs host right.checkedAt ≤ parseTimestampMs host left.checkedAt

def collectCodexLimitSnapshotsFromLines (lines : List String) (keepLatestPerLimit : Bool) :
    List (RuntimeLimitSnapshot Double) :=
  LimitSnapshots.sorted host <| lines.foldl (fun kept line =>
    match lineSnapshot host input line with
    | some snapshot => kept.add keepLatestPerLimit snapshot
    | none => kept) ⟨[], none⟩

/-! ### Files -/

/-- A session file: its bytes where it can be read, and the working directory that
`readSessionMetaFromFile` finds where it finds a session. -/
structure CodexSessionFileInfo where
  filePath : String
  mtimeMs : ℚ
  content : Option (List Nat)
  session : Option (Option String)

/-- `LIMIT_SNAPSHOT_TAIL_CHUNK_BYTES`. -/
def tailChunkBytes : Nat := 64 * 1024

instance : NeZero tailChunkBytes := ⟨by decide⟩

def readJsonlLinesNewestFirst (bytes : List Nat) : List String :=
  if bytes.length = 0 then (splitLines (String.ofList (Utf8.decode bytes))).reverse
  else BackwardLines.readBackwards tailChunkBytes bytes bytes.length ""

/-- The lines a reading takes; a fast one stops at the first snapshot. -/
def readLines (fast : Bool) : List String → List String
  | [] => []
  | line :: lines =>
    line :: if fast && (lineSnapshot host input line).isSome then [] else readLines fast lines

def applySnapshotProfileId (snapshot : RuntimeLimitSnapshot Double) (profileId : Option String) :
    RuntimeLimitSnapshot Double :=
  if snapshot.profileId = profileId then snapshot else { snapshot with profileId }

def readCodexSessionLimitSnapshotsFromFile (fileInfo : CodexSessionFileInfo) (fast : Bool) :
    List (RuntimeLimitSnapshot Double) :=
  match fileInfo.content with
  | none => []
  | some bytes =>
    let lines := readLines host input fast (readJsonlLinesNewestFirst bytes)
    let snapshots := collectCodexLimitSnapshotsFromLines host input lines false
    let normalizedSnapshots := snapshots.map fun snapshot => { snapshot with profileId := none }
    normalizedSnapshots.map fun snapshot => applySnapshotProfileId snapshot input.profileId

def normalizeCodexProjectPath (value : Option String) : Option String :=
  (value.filter fun text => !text.isEmpty).map fun text =>
    host.toLowerCase (String.ofList (dropLastSlash (collapseSlashes (forwardSlashes text).toList)))

/-- `LIMIT_SNAPSHOT_SESSION_SCAN_LIMIT`. -/
def sessionScanLimit : Nat := 50

/-- The files a scan looks into, of those found below the sessions' directory. -/
def candidates (files : List CodexSessionFileInfo) : List CodexSessionFileInfo :=
  let sessionFiles := files.insertionSort fun left right => right.mtimeMs ≤ left.mtimeMs
  let matching := match (normalizeCodexProjectPath host input.projectRoot).filter
      fun root => !root.isEmpty with
    | none => sessionFiles
    | some root => sessionFiles.filter fun file => match file.session with
        | some cwd => normalizeCodexProjectPath host cwd = some root
        | none => false
  matching.take sessionScanLimit

def listLatestCodexLimitSnapshots (files : List CodexSessionFileInfo) :
    List (RuntimeLimitSnapshot Double) :=
  let kept : LimitSnapshots := (candidates host input files).foldl (fun kept file =>
    (readCodexSessionLimitSnapshotsFromFile host input file true).foldl
      (LimitSnapshots.add false) kept) ⟨[], none⟩
  let normalizedSnapshots := (kept.sorted host).map fun snapshot =>
    { snapshot with profileId := none }
  normalizedSnapshots.map fun snapshot => applySnapshotProfileId snapshot input.profileId

/-! ### What is kept -/

section Kept

variable {host} {input}

/-- Whether a snapshot is one of a limit id, or of none. -/
def ofLimit (limitId : Option String) (snapshot : RuntimeLimitSnapshot Double) : Bool :=
  readSnapshotLimitId snapshot = limitId

theorem add_known {kept : LimitSnapshots} {snapshot : RuntimeLimitSnapshot Double}
    (known : readSnapshotLimitId snapshot ≠ none) : kept.add false snapshot =
      ⟨Keyed.setNew readSnapshotLimitId kept.byLimitId snapshot, kept.unknown⟩ := by
  rw [LimitSnapshots.add]
  split
  · rename_i none_
    exact absurd none_ known
  · rfl

theorem add_unknown {kept : LimitSnapshots} {snapshot : RuntimeLimitSnapshot Double}
    (unknown : readSnapshotLimitId snapshot = none) : kept.add false snapshot =
      ⟨kept.byLimitId, kept.unknown.or (some snapshot)⟩ := by
  rw [LimitSnapshots.add]
  split
  · rfl
  · rename_i known
    rw [unknown] at known
    cases known

theorem foldl_add (snapshots : List (RuntimeLimitSnapshot Double)) (kept : LimitSnapshots) :
    snapshots.foldl (LimitSnapshots.add false) kept =
      ⟨(snapshots.filter fun snapshot => !ofLimit none snapshot).foldl
          (Keyed.setNew readSnapshotLimitId) kept.byLimitId,
        kept.unknown.or (snapshots.find? (ofLimit none))⟩ := by
  induction snapshots generalizing kept with
  | nil => simp
  | cons snapshot snapshots ih =>
    rw [List.foldl_cons, ih]
    by_cases unknown : readSnapshotLimitId snapshot = none
    · have is : ofLimit none snapshot = true := decide_eq_true unknown
      rw [add_unknown unknown, List.find?_cons_of_pos is, List.filter_cons_of_neg (by simp [is]),
        Option.or_assoc, Option.some_or]
    · have is : ofLimit none snapshot = false := decide_eq_false unknown
      rw [add_known unknown, List.find?_cons_of_neg (by simp [is]),
        List.filter_cons_of_pos (by simp [is]), List.foldl_cons]

theorem find?_known (snapshots : List (RuntimeLimitSnapshot Double)) (limitId : Option String) :
    (snapshots.filter fun snapshot => !ofLimit none snapshot).find? (ofLimit limitId) =
      if limitId = none then none else snapshots.find? (ofLimit limitId) := by
  rw [List.find?_filter]
  split
  · rename_i none_
    rw [none_]
    simp
  · rename_i known
    congr 1
    funext snapshot
    by_cases same : readSnapshotLimitId snapshot = limitId
    · simp [ofLimit, same, known]
    · simp [ofLimit, same]

theorem filter_unknown (snapshots : List (RuntimeLimitSnapshot Double)) (limitId : Option String) :
    (snapshots.find? (ofLimit none)).toList.filter (ofLimit limitId) =
      if limitId = none then (snapshots.find? (ofLimit limitId)).toList else [] := by
  split
  · rename_i none_
    rw [none_]
    cases found : snapshots.find? (ofLimit none) with
    | none => rfl
    | some snapshot =>
      rw [Option.toList_some, List.filter_cons_of_pos (List.find?_some found), List.filter_nil]
  · rename_i known
    cases found : snapshots.find? (ofLimit none) with
    | none => rfl
    | some snapshot =>
      have unknown : readSnapshotLimitId snapshot = none := by
        simpa [ofLimit] using List.find?_some found
      rw [Option.toList_some, List.filter_cons_of_neg, List.filter_nil]
      simpa [ofLimit, unknown] using Ne.symm known

/-- Of each limit the first snapshot is kept. -/
theorem filter_kept (snapshots : List (RuntimeLimitSnapshot Double)) (limitId : Option String) :
    ((snapshots.foldl (LimitSnapshots.add false) ⟨[], none⟩).sorted host).filter (ofLimit limitId) =
      (snapshots.find? (ofLimit limitId)).toList := by
  have unsorted : let kept := snapshots.foldl (LimitSnapshots.add false) ⟨[], none⟩
      (kept.byLimitId ++ kept.unknown.toList).filter (ofLimit limitId) =
        (snapshots.find? (ofLimit limitId)).toList := by
    have known := @Keyed.filter_foldl_setNew _ _ _ readSnapshotLimitId limitId []
      (snapshots.filter fun snapshot => !ofLimit none snapshot)
    rw [List.map_nil, if_neg List.not_mem_nil, show (fun snapshot => decide
      (readSnapshotLimitId snapshot = limitId)) = ofLimit limitId from rfl, find?_known] at known
    dsimp only
    rw [foldl_add, List.filter_append, known, Option.none_or, filter_unknown]
    split <;> simp
  have permuted := (List.perm_insertionSort (fun left right : RuntimeLimitSnapshot Double =>
    parseTimestampMs host right.checkedAt ≤ parseTimestampMs host left.checkedAt)
      ((snapshots.foldl (LimitSnapshots.add false) ⟨[], none⟩).byLimitId ++
        (snapshots.foldl (LimitSnapshots.add false) ⟨[], none⟩).unknown.toList)).filter
          (ofLimit limitId)
  rw [unsorted] at permuted
  cases found : snapshots.find? (ofLimit limitId) with
  | none =>
    rw [found] at permuted
    exact permuted.eq_nil
  | some snapshot =>
    rw [found] at permuted
    exact List.perm_singleton.mp permuted

/-! ### Lines -/

theorem parseJsonLine_dropReturn (line : String) :
    parseJsonLine host (dropReturn line) = parseJsonLine host line := by
  rcases BackwardLines.dropReturn_eq line with same | same
  · rw [same]
  · have one : "\r".toList = ['\r'] := by decide
    have space : Json.isSpace '\r' = true := by decide
    conv_rhs => rw [same]
    rw [parseJsonLine, parseJsonLine, String.toList_append, one, List.reverse_concat,
      List.dropWhile_cons_of_pos space]

theorem parseJsonLine_empty : parseJsonLine host "" = none := by
  rw [parseJsonLine, String.toList_empty]
  rfl

/-- What a line holds for a scan. -/
def snapshotReader (host : CodexHost) (input : ScanInput) :
    LineReader (RuntimeLimitSnapshot Double) where
  entry := lineSnapshot host input
  entry_dropReturn line := by rw [lineSnapshot, parseJsonLine_dropReturn, lineSnapshot]
  entry_empty := by rw [lineSnapshot, parseJsonLine_empty]

theorem snapshotReader_entry (line : String) :
    (snapshotReader host input).entry line = lineSnapshot host input line := rfl

theorem collect_eq (lines : List String) :
    collectCodexLimitSnapshotsFromLines host input lines false =
      ((lines.filterMap (lineSnapshot host input)).foldl (LimitSnapshots.add false)
        ⟨[], none⟩).sorted host := by
  rw [collectCodexLimitSnapshotsFromLines, List.foldl_filterMap]
  refine congrArg (fun step => LimitSnapshots.sorted host (lines.foldl step ⟨[], none⟩))
    (funext fun kept => funext fun line => ?_)
  cases lineSnapshot host input line <;> rfl

theorem filterMap_readLines (fast : Bool) (lines : List String) :
    (readLines host input fast lines).filterMap (lineSnapshot host input) =
      if fast then (lines.filterMap (lineSnapshot host input)).take 1
      else lines.filterMap (lineSnapshot host input) := by
  induction lines with
  | nil => simp [readLines]
  | cons line lines ih =>
    rw [readLines, List.filterMap_cons, List.filterMap_cons]
    cases fast with
    | false => simp [ih]
    | true =>
      cases held : lineSnapshot host input line with
      | none => simp [ih]
      | some snapshot => simp

end Kept

/-! ### One file -/

section Files

/-- The snapshots of a file's text, in the order of its lines. -/
def trueSnapshots (file : CodexSessionFileInfo) : List (RuntimeLimitSnapshot Double) :=
  match file.content with
  | none => []
  | some bytes =>
    BackwardLines.entries (snapshotReader host input) (String.ofList (Utf8.decode bytes))

/-- The snapshots that a file's blocks show. They are the file's, where no cut between blocks
falls inside a character. -/
def shownSnapshots (file : CodexSessionFileInfo) : List (RuntimeLimitSnapshot Double) :=
  match file.content with
  | none => []
  | some bytes => BackwardLines.entries (snapshotReader host input)
      (String.ofList (BackwardLines.shownText tailChunkBytes bytes bytes.length))

theorem trueSnapshots_eq {file : CodexSessionFileInfo} {bytes : List Nat}
    (content : file.content = some bytes) : trueSnapshots host input file =
      BackwardLines.entries (snapshotReader host input) (String.ofList (Utf8.decode bytes)) := by
  rw [trueSnapshots, content]

theorem shownSnapshots_eq {file : CodexSessionFileInfo} {bytes : List Nat}
    (content : file.content = some bytes) : shownSnapshots host input file =
      BackwardLines.entries (snapshotReader host input)
        (String.ofList (BackwardLines.shownText tailChunkBytes bytes bytes.length)) := by
  rw [shownSnapshots, content]

/-- The newest snapshot a file shows. -/
def newestShown (file : CodexSessionFileInfo) : Option (RuntimeLimitSnapshot Double) :=
  (shownSnapshots host input file).getLast?

variable {host} {input} {file : CodexSessionFileInfo}

theorem filterMap_readJsonlLines {bytes : List Nat} (content : file.content = some bytes) :
    (readJsonlLinesNewestFirst bytes).filterMap (lineSnapshot host input) =
      (shownSnapshots host input file).reverse := by
  rw [shownSnapshots_eq host input content, readJsonlLinesNewestFirst]
  split
  · rename_i empty
    obtain rfl := List.length_eq_zero_iff.mp empty
    rw [List.filterMap_reverse, List.length_nil, BackwardLines.shownText_zero]
    rfl
  · have read := @BackwardLines.filterMap_readBackwards tailChunkBytes _ _
      (snapshotReader host input) bytes bytes.length "" (by simp)
    rw [String.append_empty] at read
    exact read

theorem profileId_of_lineSnapshot {line : String} {snapshot : RuntimeLimitSnapshot Double}
    (held : lineSnapshot host input line = some snapshot) :
    snapshot.profileId = input.profileId := by
  rw [lineSnapshot] at held
  split at held
  · cases held
  · split at held
    · cases held
    · split at held
      · cases held
      · split at held
        · cases held
        · rw [buildCodexLimitSnapshot] at held
          obtain ⟨rateLimits, _, built⟩ := Option.bind_eq_some_iff.mp held
          dsimp only at built
          split at built
          · cases built
          · rw [← Option.some.inj built]

/-- What a reading returns are the snapshots it kept: the profile is taken off and put back. -/
theorem apply_profileId {snapshots : List (RuntimeLimitSnapshot Double)}
    (profile : ∀ snapshot ∈ snapshots, snapshot.profileId = input.profileId) :
    (snapshots.map fun snapshot => { snapshot with profileId := none }).map
      (fun snapshot => applySnapshotProfileId snapshot input.profileId) = snapshots := by
  rw [List.map_map]
  conv_rhs => rw [← List.map_id snapshots]
  refine List.map_congr_left fun snapshot inside => ?_
  rw [Function.comp_apply, applySnapshotProfileId, id]
  have own := profile snapshot inside
  split
  · rename_i none_
    dsimp only at none_
    rw [none_, ← own]
  · rw [← own]

theorem mem_of_kept {snapshots : List (RuntimeLimitSnapshot Double)}
    {snapshot : RuntimeLimitSnapshot Double}
    (kept : snapshot ∈ (snapshots.foldl (LimitSnapshots.add false) ⟨[], none⟩).sorted host) :
    snapshot ∈ snapshots := by
  have one : ((snapshots.foldl (LimitSnapshots.add false) ⟨[], none⟩).sorted host).filter
        (ofLimit (readSnapshotLimitId snapshot)) =
      (snapshots.find? (ofLimit (readSnapshotLimitId snapshot))).toList :=
    filter_kept snapshots (readSnapshotLimitId snapshot)
  have inside : snapshot ∈ (snapshots.find? (ofLimit (readSnapshotLimitId snapshot))).toList := by
    rw [← one]
    exact List.mem_filter.mpr ⟨kept, decide_eq_true rfl⟩
  exact List.mem_of_find?_eq_some (Option.mem_toList.mp inside)

theorem profileId_of_shown {snapshot : RuntimeLimitSnapshot Double}
    (shown : snapshot ∈ shownSnapshots host input file) : snapshot.profileId = input.profileId := by
  rw [shownSnapshots] at shown
  split at shown
  · cases shown
  · obtain ⟨line, _, held⟩ := List.mem_filterMap.mp shown
    exact profileId_of_lineSnapshot held

theorem readSnapshotsFromFile_eq (fast : Bool) :
    readCodexSessionLimitSnapshotsFromFile host input file fast =
      (((if fast then (shownSnapshots host input file).reverse.take 1
        else (shownSnapshots host input file).reverse).foldl (LimitSnapshots.add false)
          ⟨[], none⟩).sorted host) := by
  rw [readCodexSessionLimitSnapshotsFromFile]
  cases content : file.content with
  | none =>
    have nil : shownSnapshots host input file = [] := by rw [shownSnapshots, content]
    rw [nil]
    cases fast <;> rfl
  | some bytes =>
    dsimp only
    rw [collect_eq, filterMap_readLines, filterMap_readJsonlLines content]
    refine apply_profileId fun snapshot kept => ?_
    have inside := mem_of_kept kept
    have shown : snapshot ∈ shownSnapshots host input file := by
      split at inside
      · exact List.mem_reverse.mp (List.mem_of_mem_take inside)
      · exact List.mem_reverse.mp inside
    exact profileId_of_shown shown

theorem readSnapshotsFromFile_fast :
    readCodexSessionLimitSnapshotsFromFile host input file true =
      (newestShown host input file).toList := by
  rw [readSnapshotsFromFile_eq, if_pos rfl, newestShown, ← List.head?_reverse]
  cases (shownSnapshots host input file).reverse with
  | nil => rfl
  | cons snapshot _ =>
    rw [List.take_succ_cons, List.take_zero, List.foldl_cons, List.foldl_nil, List.head?_cons,
      Option.toList_some]
    by_cases unknown : readSnapshotLimitId snapshot = none
    · rw [add_unknown unknown]
      rfl
    · rw [add_known unknown]
      rfl

/-- A fast and a complete reading show the same latest snapshot of the first limit. -/
def FastAgrees (host : CodexHost) (input : ScanInput) (file : CodexSessionFileInfo) : Prop :=
  (readCodexSessionLimitSnapshotsFromFile host input file true = [] ↔
    readCodexSessionLimitSnapshotsFromFile host input file false = []) ∧
  ∀ snapshot, snapshot ∈ readCodexSessionLimitSnapshotsFromFile host input file true →
    (readCodexSessionLimitSnapshotsFromFile host input file false).filter
      (ofLimit (readSnapshotLimitId snapshot)) = [snapshot]

theorem fast_agrees (host : CodexHost) (input : ScanInput) (file : CodexSessionFileInfo) :
    FastAgrees host input file := by
  have first (snapshot : RuntimeLimitSnapshot Double)
      (newest : newestShown host input file = some snapshot) :
      (readCodexSessionLimitSnapshotsFromFile host input file false).filter
        (ofLimit (readSnapshotLimitId snapshot)) = [snapshot] := by
    rw [newestShown, ← List.head?_reverse] at newest
    obtain ⟨rest, shown⟩ := List.head?_eq_some_iff.mp newest
    have is : ofLimit (readSnapshotLimitId snapshot) snapshot = true := decide_eq_true rfl
    rw [readSnapshotsFromFile_eq, if_neg Bool.false_ne_true, filter_kept, shown,
      List.find?_cons_of_pos is, Option.toList_some]
  rw [FastAgrees, readSnapshotsFromFile_fast]
  constructor
  · constructor
    · intro none_
      have nil : shownSnapshots host input file = [] := by
        rw [Option.toList_eq_nil_iff, newestShown, List.getLast?_eq_none_iff] at none_
        exact none_
      rw [readSnapshotsFromFile_eq, if_neg Bool.false_ne_true, nil]
      rfl
    · intro nil
      cases newest : newestShown host input file with
      | none => rfl
      | some snapshot =>
        have one := first snapshot newest
        rw [nil] at one
        cases one
  · intro snapshot inside
    exact first snapshot (Option.mem_toList.mp inside)

end Files

/-! ### A scan -/

section Scans

variable (files : List CodexSessionFileInfo)

/-- The snapshots in the files that are scanned. -/
def scanned : List (RuntimeLimitSnapshot Double) :=
  (candidates host input files).flatMap (trueSnapshots host input)

/-- A snapshot of the scanned files that none of its limit is newer than. -/
def Greatest (limitId : String) (snapshot : RuntimeLimitSnapshot Double) : Prop :=
  snapshot ∈ scanned host input files ∧
    ∀ other ∈ scanned host input files, readSnapshotLimitId other = some limitId →
      parseTimestampMs host other.checkedAt ≤ parseTimestampMs host snapshot.checkedAt

/-- The scan reports the latest snapshot of every limit, and no other of it. -/
def LatestReported : Prop :=
  ∀ limitId, (∃ snapshot ∈ scanned host input files, readSnapshotLimitId snapshot = some limitId) →
    ∃ snapshot, (listLatestCodexLimitSnapshots host input files).filter (ofLimit (some limitId)) =
      [snapshot] ∧ Greatest host input files limitId snapshot

/-- Of every limit that occurs some scanned file ends with a snapshot, and the first such file,
by modification time, with a latest one. -/
def LatestFirst : Prop :=
  ∀ limitId, (∃ snapshot ∈ scanned host input files, readSnapshotLimitId snapshot = some limitId) →
    ∃ snapshot, (candidates host input files).findSome? (fun file =>
        (newestShown host input file).filter (ofLimit (some limitId))) = some snapshot ∧
      Greatest host input files limitId snapshot

theorem find?_flatMap_toList {α β : Type} (f : α → Option β) (p : β → Bool) (l : List α) :
    (l.flatMap fun a => (f a).toList).find? p = l.findSome? fun a => (f a).filter p := by
  induction l with
  | nil => rfl
  | cons a l ih =>
    rw [List.flatMap_cons, List.find?_append, ih, List.findSome?_cons]
    cases f a with
    | none => rfl
    | some b => cases holds : p b <;> simp [Option.filter_some, holds]

/-- Of each limit the scan reports what the first file shows that ends with a snapshot of it. -/
theorem filter_latest (limitId : Option String) :
    (listLatestCodexLimitSnapshots host input files).filter (ofLimit limitId) =
      ((candidates host input files).findSome? fun file =>
        (newestShown host input file).filter (ofLimit limitId)).toList := by
  have flat : (candidates host input files).foldl (fun kept file =>
        (readCodexSessionLimitSnapshotsFromFile host input file true).foldl
          (LimitSnapshots.add false) kept) ⟨[], none⟩ =
      ((candidates host input files).flatMap fun file => (newestShown host input file).toList).foldl
        (LimitSnapshots.add false) ⟨[], none⟩ := by
    rw [List.foldl_flatMap]
    simp only [readSnapshotsFromFile_fast]
  rw [listLatestCodexLimitSnapshots, flat, apply_profileId, filter_kept, find?_flatMap_toList]
  intro snapshot kept
  obtain ⟨file, _, newest⟩ := List.mem_flatMap.mp (mem_of_kept kept)
  have shown : snapshot ∈ shownSnapshots host input file :=
    List.mem_of_getLast? (Option.mem_toList.mp newest)
  exact profileId_of_shown shown

/-- A scan of one file that ends with a snapshot of another limit does not report a limit. -/
theorem filter_latest_single {file : CodexSessionFileInfo} {limitId : Option String}
    {newest : RuntimeLimitSnapshot Double} (single : candidates host input files = [file])
    (shown : newestShown host input file = some newest) (other : ofLimit limitId newest = false) :
    (listLatestCodexLimitSnapshots host input files).filter (ofLimit limitId) = [] := by
  rw [filter_latest, single, List.findSome?_cons, shown, Option.filter_some, other]
  rfl

/-- The scan reports the latest snapshot of every limit exactly where the first file that ends
with a snapshot of it ends with a latest one; a fast reading always agrees with a complete one. -/
theorem latest_reported_iff (host : CodexHost) (input : ScanInput)
    (files : List CodexSessionFileInfo) :
    (LatestReported host input files ∧ ∀ file, FastAgrees host input file) ↔
      LatestFirst host input files := by
  constructor
  · rintro ⟨reported, _⟩ limitId occurs
    obtain ⟨snapshot, one, greatest⟩ := reported limitId occurs
    rw [filter_latest] at one
    exact ⟨snapshot, by simpa using one, greatest⟩
  · intro first
    refine ⟨fun limitId occurs => ?_, fast_agrees host input⟩
    obtain ⟨snapshot, found, greatest⟩ := first limitId occurs
    refine ⟨snapshot, ?_, greatest⟩
    rw [filter_latest, found, Option.toList_some]

/-- A host that reads the digits of numbers and the times of two texts. -/
def plainHost : CodexHost where
  readNumber cs := .finite (numberOfDigits cs)
  numberText q := toString ⌊q⌋
  isoOfMs _ := none
  isoOfText text := some text
  now := "2026-01-03T00:00:00.000Z"
  dateParse text :=
    [("2026-01-01T00:00:00.000Z", 1767225600000),
      ("2026-01-02T00:00:00.000Z", 1767312000000)].lookup text
  toLowerCase := toLowerCase
  sha256 text := text

/-- A report of five percent of a limit. -/
def reportLine (limitId timestamp : String) : List Char :=
  Json.stringify (fun _ : Unit => ['5']) (.obj [("timestamp", .str timestamp),
    ("type", .str "event_msg"),
    ("payload", .obj [("type", .str "token_count"),
      ("rate_limits", .obj [("limit_id", .str limitId),
        ("primary", .obj [("used_percent", .num ())])])])])

def twoLimitsText : List Char :=
  reportLine "codex" "2026-01-01T00:00:00.000Z" ++ '\n' ::
    reportLine "spark" "2026-01-02T00:00:00.000Z"

/-- One session, which reports one limit and a day later the other. -/
def twoLimits : CodexSessionFileInfo where
  filePath := "rollout.jsonl"
  mtimeMs := 0
  content := some (Utf8.encode twoLimitsText)
  session := none

def globalScan : ScanInput := ⟨"codex", "openai", none, none, none⟩

theorem decode_twoLimits : Utf8.decode (Utf8.encode twoLimitsText) = twoLimitsText := by
  decide +kernel

theorem shownText_twoLimits : BackwardLines.shownText tailChunkBytes (Utf8.encode twoLimitsText)
    (Utf8.encode twoLimitsText).length = twoLimitsText := by
  have small : (Utf8.encode twoLimitsText).length ≠ 0 ∧
      (Utf8.encode twoLimitsText).length ≤ tailChunkBytes := by
    decide +kernel
  rw [BackwardLines.shownText_of_ne_zero _ small.1, Nat.sub_eq_zero_of_le small.2,
    BackwardLines.shownText_zero, List.nil_append, List.drop_zero, List.take_length,
    decode_twoLimits]

theorem snapshots_twoLimits : ∃ codex spark,
    BackwardLines.entries (snapshotReader plainHost globalScan) (String.ofList twoLimitsText) =
      [codex, spark] ∧
    readSnapshotLimitId codex = some "codex" ∧ readSnapshotLimitId spark = some "spark" := by
  have first : (lineSnapshot plainHost globalScan
      (String.ofList (reportLine "codex" "2026-01-01T00:00:00.000Z"))).map readSnapshotLimitId =
        some (some "codex") := by
    rw [lineSnapshot, parseJsonLine, String.toList_ofList]
    decide +kernel
  have second : (lineSnapshot plainHost globalScan
      (String.ofList (reportLine "spark" "2026-01-02T00:00:00.000Z"))).map readSnapshotLimitId =
        some (some "spark") := by
    rw [lineSnapshot, parseJsonLine, String.toList_ofList]
    decide +kernel
  have lines : split (String.ofList twoLimitsText) '\n' =
      [String.ofList (reportLine "codex" "2026-01-01T00:00:00.000Z"),
        String.ofList (reportLine "spark" "2026-01-02T00:00:00.000Z")] := by
    have whole : ∀ c ∈ reportLine "codex" "2026-01-01T00:00:00.000Z", (c == '\n') = false := by
      decide +kernel
    have whole' : ∀ c ∈ reportLine "spark" "2026-01-02T00:00:00.000Z", (c == '\n') = false := by
      decide +kernel
    rw [split, String.toList_ofList, twoLimitsText, List.splitOnP_append_cons _ _ rfl,
      List.splitOnP_eq_singleton whole, List.splitOnP_eq_singleton whole']
    rfl
  obtain ⟨codex, held, codexId⟩ := Option.map_eq_some_iff.mp first
  obtain ⟨spark, held', sparkId⟩ := Option.map_eq_some_iff.mp second
  refine ⟨codex, spark, ?_, codexId, sparkId⟩
  rw [BackwardLines.entries_eq, lines]
  rw [List.filterMap_cons, snapshotReader_entry, held, List.filterMap_cons, snapshotReader_entry,
    held', List.filterMap_nil]

/-- The older report of the file is the latest of its limit, and the scan misses it. -/
theorem older_limit_hidden : ¬ LatestReported plainHost globalScan [twoLimits] := by
  obtain ⟨codex, spark, snapshots, codexId, sparkId⟩ := snapshots_twoLimits
  have content : twoLimits.content = some (Utf8.encode twoLimitsText) := rfl
  have files : candidates plainHost globalScan [twoLimits] = [twoLimits] := rfl
  have occurs : codex ∈ scanned plainHost globalScan [twoLimits] := by
    rw [scanned, files, List.flatMap_singleton, trueSnapshots_eq plainHost globalScan content,
      decode_twoLimits, snapshots]
    exact List.mem_cons_self
  have newest : newestShown plainHost globalScan twoLimits = some spark := by
    rw [newestShown, shownSnapshots_eq plainHost globalScan content, shownText_twoLimits, snapshots]
    rfl
  intro reported
  obtain ⟨snapshot, one, _⟩ := reported "codex" ⟨codex, occurs, codexId⟩
  have other : ofLimit (some "codex") spark = false := by
    rw [ofLimit, sparkId]
    decide
  rw [filter_latest_single plainHost globalScan [twoLimits] files newest other] at one
  cases one

end Scans

end AifHandoff.Runtime.CodexLimits
