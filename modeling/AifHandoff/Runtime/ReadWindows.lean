import AifHandoff.Runtime.ToolArguments

/-!
Reading a file window by window (`readFileTool`, `runtime/adapters/qwenLocalAgent/tools.ts`).
-/

namespace AifHandoff.Runtime

/-- The limits of the tool context. -/
structure ReadLimits where
  maxFileBytes : Nat
  maxFileLines : Nat

structure ReadArguments where
  maxBytes : ToolNumber
  startLine : ToolNumber
  lineCount : ToolNumber

/-- What the continuation hint names. -/
structure ContinuationHint where
  startLine : Int
  lineCount : Nat
deriving DecidableEq

structure ReadWindow where
  lineStart : Int
  lineEnd : Int
  selected : List String
  hint : Option ContinuationHint
  output : String
deriving DecidableEq

/-- `items.slice(first, last)`. -/
def slice {α : Type} (items : List α) (first last : Int) : List α :=
  let index (i : Int) : Nat := if i < 0 then (items.length + i).toNat else i.toNat
  (items.take (index last)).drop (index first)

theorem slice_natCast {α : Type} (items : List α) (first last : Nat) :
    slice items first last = (items.take last).drop first := by
  unfold slice
  dsimp only
  rw [if_neg (Int.not_lt.mpr (Int.natCast_nonneg first)),
    if_neg (Int.not_lt.mpr (Int.natCast_nonneg last)), Int.toNat_natCast, Int.toNat_natCast]

section Tool

variable (limits : ReadLimits) (relativePath content : String)

def startLineOf (args : ReadArguments) : Nat :=
  (readOptionalPositiveInt args.startLine maxSafeInteger).getD 1

def lineCountOf (args : ReadArguments) : Nat :=
  (readOptionalPositiveInt args.lineCount limits.maxFileLines).getD limits.maxFileLines

def hintText (hint : ContinuationHint) : String :=
  "Use read_file with startLine=" ++ toString hint.startLine ++ " lineCount=" ++
    toString hint.lineCount ++ " to continue."

def readFileTool (args : ReadArguments) : ReadWindow :=
  let requestedMax := readPositiveInt args.maxBytes limits.maxFileBytes limits.maxFileBytes
  let lineCount := lineCountOf limits args
  let lines := Text.splitLines content
  let lineStartIndex : Int := min ((startLineOf args : Int) - 1) lines.length
  let lineEndIndex : Int := min (lineStartIndex + lineCount) lines.length
  let selectedLines := slice lines lineStartIndex lineEndIndex
  let selected := Text.join "\n" selectedLines
  let lineStart := lineStartIndex + 1
  let lineEnd := lineEndIndex
  let hint : Option ContinuationHint :=
    if 1 < lineStart ∨ lineEnd < lines.length then some ⟨min (lineEnd + 1) lines.length, lineCount⟩
    else none
  let byteNote :=
    if requestedMax < Text.utf16Length selected then
      "Increase maxBytes to read more of this line window."
    else ""
  let suffix := Text.join " " ([(hint.map hintText).getD "", byteNote].filter (· ≠ ""))
  { lineStart, lineEnd, selected := selectedLines, hint
    output := Text.join "\n" <|
      ["[read_file " ++ relativePath ++ " lines " ++ toString lineStart ++ "-" ++
          toString lineEnd ++ " of " ++ toString lines.length ++ "]",
        truncateForModel selected requestedMax,
        if suffix = "" then "" else "[truncated] " ++ suffix].filter (· ≠ "") }

/-- The arguments of the next call that the hint asks for. -/
def ReadArguments.follow (args : ReadArguments) (hint : ContinuationHint) : ReadArguments :=
  { args with
    startLine := .number (.finite hint.startLine), lineCount := .number (.finite hint.lineCount) }

/-- The windows of a reader who follows the hints until there is none. -/
inductive Windows : ReadArguments → List ReadWindow → Prop where
  | last {args : ReadArguments} (done : (readFileTool limits relativePath content args).hint = none) :
      Windows args [readFileTool limits relativePath content args]
  | next {args : ReadArguments} {hint : ContinuationHint} {windows : List ReadWindow}
      (hinted : (readFileTool limits relativePath content args).hint = some hint)
      (rest : Windows (args.follow hint) windows) :
      Windows args (readFileTool limits relativePath content args :: windows)

/-- Each window begins behind the one before it; the last one ends with the file. -/
def Consecutive (total : Int) : Int → List ReadWindow → Prop
  | done, [] => done = total
  | done, window :: windows => window.lineStart = done + 1 ∧ Consecutive total window.lineEnd windows

/-- The windows end, follow each other without a gap or an overlap, and hold every line once. -/
def CoversFile (args : ReadArguments) : Prop :=
  ∃ windows, Windows limits relativePath content args windows ∧
    Consecutive (Text.splitLines content).length 0 windows ∧
    (windows.flatMap ReadWindow.selected) = Text.splitLines content

/-- The lines of a window that is not empty. -/
def windowSize (args : ReadArguments) : Nat :=
  if lineCountOf limits args = 0 then limits.maxFileLines else lineCountOf limits args

end Tool

section Windows

variable {limits : ReadLimits} {relativePath content : String} {args : ReadArguments}

theorem splitLines_ne_nil (s : String) : Text.splitLines s ≠ [] := by
  have some_ : Text.split s '\n' ≠ [] := by
    rw [Text.split, ne_eq, List.map_eq_nil_iff]
    exact List.splitOnP_ne_nil _ _
  unfold Text.splitLines
  dsimp only
  rw [List.getLast?_eq_some_getLast some_]
  simp

/-! ### One window -/

theorem lineCount_le : lineCountOf limits args ≤ limits.maxFileLines := by
  unfold lineCountOf
  cases read : readOptionalPositiveInt args.lineCount limits.maxFileLines with
  | none => exact le_rfl
  | some n => exact readOptionalPositiveInt_le read

theorem startLineOf_follow (hint : ContinuationHint) {start : Nat} (is : hint.startLine = start)
    (positive : 0 < start) : startLineOf (args.follow hint) = min start maxSafeInteger := by
  rw [startLineOf, ReadArguments.follow, is]
  dsimp only
  rw [Int.cast_natCast, readOptionalPositiveInt_natCast _ positive, Option.getD_some]

theorem lineCountOf_follow (hint : ContinuationHint) : lineCountOf limits (args.follow hint) =
    if hint.lineCount = 0 then limits.maxFileLines else min hint.lineCount limits.maxFileLines := by
  rw [lineCountOf, ReadArguments.follow]
  dsimp only
  split
  next zero => rw [zero, readOptionalPositiveInt_zero, Option.getD_none]
  next some_ => rw [readOptionalPositiveInt_natCast _ (Nat.pos_of_ne_zero some_), Option.getD_some]

/-- A window that begins at a line of the file. -/
structure WindowAt (limits : ReadLimits) (relativePath content : String) (args : ReadArguments)
    (start stop : Nat) : Prop where
  lineStart : (readFileTool limits relativePath content args).lineStart = start + 1
  lineEnd : (readFileTool limits relativePath content args).lineEnd = stop
  selected : (readFileTool limits relativePath content args).selected =
    ((Text.splitLines content).take stop).drop start
  hint : (readFileTool limits relativePath content args).hint =
    if 0 < start ∨ stop < (Text.splitLines content).length then
      some ⟨(min (stop + 1) (Text.splitLines content).length : Nat), lineCountOf limits args⟩
    else none

theorem windowAt {start : Nat} (is : startLineOf args = start + 1)
    (inside : start ≤ (Text.splitLines content).length) :
    WindowAt limits relativePath content args start
      (min (start + lineCountOf limits args) (Text.splitLines content).length) := by
  have first : min ((startLineOf args : Int) - 1) (Text.splitLines content).length = start := by
    omega
  have last : min ((start : Int) + lineCountOf limits args) (Text.splitLines content).length =
      (min (start + lineCountOf limits args) (Text.splitLines content).length : Nat) := by
    omega
  refine ⟨?_, ?_, ?_, ?_⟩
  · dsimp only [readFileTool]
    rw [first]
  · dsimp only [readFileTool]
    rw [first, last]
  · dsimp only [readFileTool]
    rw [first, last, slice_natCast]
  · dsimp only [readFileTool]
    rw [first, last]
    refine if_congr (or_congr (by omega) (by omega)) (congrArg some ?_) rfl
    rw [ContinuationHint.mk.injEq]
    exact ⟨by omega, rfl⟩

/-! ### Files that do not fit -/

/-- A call for a part of a file that does not fit into a window. -/
structure Partial (limits : ReadLimits) (content : String) (args : ReadArguments) : Prop where
  begins : 0 < startLineOf args
  inside : startLineOf args ≤ (Text.splitLines content).length
  small : windowSize limits args < (Text.splitLines content).length

theorem lineCount_le_windowSize : lineCountOf limits args ≤ windowSize limits args := by
  unfold windowSize
  split
  · exact lineCount_le
  · exact le_rfl

theorem windowSize_follow (hint : ContinuationHint) (count : hint.lineCount = lineCountOf limits args) :
    windowSize limits (args.follow hint) = windowSize limits args := by
  have bounded : lineCountOf limits args ≤ limits.maxFileLines := lineCount_le
  unfold windowSize
  rw [lineCountOf_follow, count]
  split_ifs <;> omega

theorem Partial.step (part : Partial limits content args) :
    ∃ hint, (readFileTool limits relativePath content args).hint = some hint ∧
      Partial limits content (args.follow hint) := by
  obtain ⟨start, is⟩ := Nat.exists_eq_succ_of_ne_zero (Nat.pos_iff_ne_zero.mp part.begins)
  have inside := part.inside
  have small := part.small
  have count : lineCountOf limits args ≤ windowSize limits args := lineCount_le_windowSize
  have window := @windowAt limits relativePath content args start is (by omega)
  refine ⟨_, window.hint.trans (if_pos (by omega)), ?_, ?_, ?_⟩
  · rw [startLineOf_follow _ rfl (by omega)]
    have least : 0 < maxSafeInteger := by decide
    omega
  · rw [startLineOf_follow _ rfl (by omega)]
    omega
  · rw [windowSize_follow _ rfl]
    exact small

theorem Partial.endless (part : Partial limits content args) (windows : List ReadWindow) :
    ¬ Windows limits relativePath content args windows := by
  intro ends
  induction ends with
  | last done =>
    obtain ⟨hint, hinted, -⟩ := @Partial.step limits relativePath content _ part
    rw [hinted] at done
    cases done
  | next hinted rest ih =>
    obtain ⟨hint, hinted', part'⟩ := @Partial.step limits relativePath content _ part
    rw [hinted] at hinted'
    exact ih (Option.some.inj hinted' ▸ part')

/-! ### Files that fit -/

theorem windows_of_fits (start : startLineOf args = 1)
    (fits : (Text.splitLines content).length ≤ lineCountOf limits args) :
    ∃ window, window = readFileTool limits relativePath content args ∧
      Windows limits relativePath content args [window] ∧ window.lineStart = 1 ∧
      window.lineEnd = (Text.splitLines content).length ∧
      window.selected = Text.splitLines content := by
  have window := @windowAt limits relativePath content args 0 start (Nat.zero_le _)
  have whole : min (0 + lineCountOf limits args) (Text.splitLines content).length =
      (Text.splitLines content).length := by omega
  rw [whole] at window
  refine ⟨_, rfl, .last (window.hint.trans (if_neg (by omega))), window.lineStart, window.lineEnd, ?_⟩
  rw [window.selected, List.take_length, List.drop_zero]

/-- The windows end and cover the file exactly if the file fits into one window. -/
theorem windows_cover_iff (start : startLineOf args = 1) :
    CoversFile limits relativePath content args ↔
      (Text.splitLines content).length ≤ windowSize limits args := by
  have some_ : 0 < (Text.splitLines content).length :=
    List.length_pos_iff.mpr (splitLines_ne_nil content)
  constructor
  · rintro ⟨windows, ends, -, -⟩
    by_contra small
    exact Partial.endless ⟨by omega, by omega, by omega⟩ windows ends
  · intro fits
    by_cases count : lineCountOf limits args = 0
    · -- The first window is empty, and its hint asks for the window of the default size.
      have window := @windowAt limits relativePath content args 0 start (Nat.zero_le _)
      rw [count, Nat.zero_add, Nat.zero_min] at window
      have hinted := window.hint.trans (if_pos (Or.inr some_))
      rw [count, Nat.zero_add, Nat.min_eq_left some_] at hinted
      have start' : startLineOf (args.follow ⟨(1 : Nat), 0⟩) = 1 := by
        rw [startLineOf_follow _ rfl Nat.one_pos]
        rfl
      have fits' : (Text.splitLines content).length ≤
          lineCountOf limits (args.follow ⟨(1 : Nat), 0⟩) := by
        rw [windowSize, if_pos count] at fits
        rw [lineCountOf_follow, if_pos rfl]
        exact fits
      obtain ⟨last, -, ends, first, whole, lines⟩ :=
        @windows_of_fits limits relativePath content _ start' fits'
      refine ⟨_, .next hinted ends, ⟨window.lineStart, ?_, whole⟩, ?_⟩
      · rw [first, window.lineEnd]
        rfl
      · rw [List.flatMap_cons, List.flatMap_singleton, window.selected, lines, List.take_zero,
          List.drop_nil, List.nil_append]
    · rw [windowSize, if_neg count] at fits
      obtain ⟨window, -, ends, first, whole, lines⟩ :=
        @windows_of_fits limits relativePath content args start fits
      refine ⟨[window], ends, ⟨first, whole⟩, ?_⟩
      rw [List.flatMap_singleton, lines]

end Windows

/-! ### Concrete files -/

/-- A reader who starts at the first line with windows of two lines. -/
def byTwoLines : ReadArguments where
  maxBytes := .missing
  startLine := .number (.finite 1)
  lineCount := .number (.finite 2)

/-- A file of two lines is covered. -/
theorem windows_cover_two_lines :
    CoversFile ⟨16000, 240⟩ "notes.md" "a\nb" byTwoLines :=
  (windows_cover_iff (by decide)).mpr (by decide)

/-- The last window of three lines asks for the third line again and again. -/
theorem three_lines_by_two_not_covered :
    ¬ CoversFile ⟨16000, 240⟩ "notes.md" "a\nb\nc" byTwoLines := by
  rintro ⟨windows, ends, -, -⟩
  refine Partial.endless ⟨?_, ?_, ?_⟩ windows ends <;> decide

end AifHandoff.Runtime
