import AifHandoff.Lib.Utf8
import AifHandoff.Runtime.ToolArguments

/-!
The output of a child process (`spawnProcess`, `runtime/adapters/qwenLocalAgent/tools.ts`).

Each chunk is decoded by itself and put behind what was read so far; when that grows beyond
twice the limit it is cut, with a note, and the next chunk follows the note. What is shown is
redacted and cut once more.
-/

namespace AifHandoff.Runtime.ChildOutput

open Shared (redactValues Quiet redactValues_of_quiet)

/-! ### The process -/

inductive ChildEvent where
  | stdout (chunk : List Nat)
  | stderr (chunk : List Nat)
  | timeout
  | abort
  | error (message : String)
  | close (code : Option Int)

structure ProcessResult where
  ok : Bool
  output : String
  error : Option String
  exitCode : Option Int
deriving DecidableEq

structure ChildState where
  stdout : String
  stderr : String
  timedOut : Bool
  aborted : Bool
  /-- What `finish` was called with first. -/
  result : Option ProcessResult

def startState : ChildState := ⟨"", "", false, false, none⟩

/-- `input.maxOutputChars` and `input.timeoutMs`. -/
structure ProcessInput where
  maxOutputChars : Nat
  timeoutMs : Nat

variable (input : ProcessInput)

/-- A chunk behind the text so far. -/
def appendChunk (text : String) (chunk : List Nat) : String :=
  truncateForModel (text ++ String.ofList (Utf8.decode chunk)) (input.maxOutputChars * 2)

/-- The result of a process that closed, from the texts that are shown. -/
def closeResult (timedOut aborted : Bool) (code : Option Int) (cleanStdout cleanStderr : String) :
    ProcessResult :=
  if timedOut || aborted then
    { ok := false
      output := cleanStdout
      error := some (if timedOut then "tool timed out after " ++ toString input.timeoutMs ++ "ms"
        else "tool aborted")
      exitCode := code }
  else
    { ok := code = some 0
      output := Text.join "\n" ([cleanStdout,
        if cleanStderr.isEmpty then "" else "stderr:\n" ++ cleanStderr].filter fun part =>
          !part.isEmpty)
      error :=
        if code = some 0 then none
        else some (if cleanStderr.isEmpty then
          "process exited with code " ++ (code.map toString).getD "null" else cleanStderr)
      exitCode := code }

def errorResult (message : String) : ProcessResult where
  ok := false
  output := ""
  error := some (safeModelText message input.maxOutputChars)
  exitCode := none

def ChildState.finish (state : ChildState) (result : ProcessResult) : ChildState :=
  { state with result := state.result.or (some result) }

def childStep (state : ChildState) : ChildEvent → ChildState
  | .stdout chunk => { state with stdout := appendChunk input state.stdout chunk }
  | .stderr chunk => { state with stderr := appendChunk input state.stderr chunk }
  | .timeout => { state with timedOut := true }
  | .abort => { state with aborted := true }
  | .error message => state.finish (errorResult input message)
  | .close code => state.finish (closeResult input state.timedOut state.aborted code
      (safeModelText state.stdout input.maxOutputChars)
      (safeModelText state.stderr input.maxOutputChars))

/-- `spawnProcess`: aborted before it starts, not started for the reason given, or run. -/
def spawnProcess (abortedBefore : Bool) (spawnError : Option String) (events : List ChildEvent) :
    Option ProcessResult :=
  if abortedBefore then some ⟨false, "", some "tool aborted", none⟩
  else match spawnError with
    | some message => some (errorResult input message)
    | none => (events.foldl (childStep input) startState).result

/-! ### What the whole output asks for -/

def ChildEvent.ends : ChildEvent → Bool
  | .error _ | .close _ => true
  | _ => false

/-- The events up to the first that ends the process. -/
def running (events : List ChildEvent) : List ChildEvent :=
  events.takeWhile fun event => !event.ends

def stdoutChunks (events : List ChildEvent) : List (List Nat) :=
  events.filterMap fun event => match event with
    | .stdout chunk => some chunk
    | _ => none

def stderrChunks (events : List ChildEvent) : List (List Nat) :=
  events.filterMap fun event => match event with
    | .stderr chunk => some chunk
    | _ => none

def isTimeout : ChildEvent → Bool
  | .timeout => true
  | _ => false

def isAbort : ChildEvent → Bool
  | .abort => true
  | _ => false

/-- The text of the bytes, however they came. -/
def wholeText (chunks : List (List Nat)) : String := String.ofList (Utf8.decode chunks.flatten)

/-- The result an event brings behind others, by the bytes of both streams. -/
def endResult (before : List ChildEvent) : ChildEvent → Option ProcessResult
  | .error message => some (errorResult input message)
  | .close code => some (closeResult input (before.any isTimeout) (before.any isAbort) code
      (safeModelText (wholeText (stdoutChunks before)) input.maxOutputChars)
      (safeModelText (wholeText (stderrChunks before)) input.maxOutputChars))
  | _ => none

def wholeResult (events : List ChildEvent) : Option ProcessResult :=
  events.findSome? (endResult input (running events))

/-- No chunk ends inside a character, and the text fits into twice the limit. -/
def Whole (chunks : List (List Nat)) : Prop :=
  chunks.flatMap Utf8.decode = Utf8.decode chunks.flatten ∧
    Text.utf16Length (wholeText chunks) ≤ input.maxOutputChars * 2

instance (chunks : List (List Nat)) : Decidable (Whole input chunks) :=
  inferInstanceAs (Decidable (_ ∧ _))

/-! ### Captured texts -/

section Captured

variable {input}

theorem foldl_appendChunk {chunks : List (List Nat)} {text : String}
    (fits : Text.utf16Length (text ++ String.ofList (chunks.flatMap Utf8.decode)) ≤
      input.maxOutputChars * 2) :
    chunks.foldl (appendChunk input) text = text ++ String.ofList (chunks.flatMap Utf8.decode) := by
  induction chunks generalizing text with
  | nil => simp
  | cons chunk chunks ih =>
    rw [List.flatMap_cons, String.ofList_append, ← String.append_assoc] at fits ⊢
    have short : Text.utf16Length (text ++ String.ofList (Utf8.decode chunk)) ≤
        input.maxOutputChars * 2 := by
      rw [Text.utf16Length_append] at fits
      omega
    rw [List.foldl_cons, appendChunk, truncateForModel_of_le short, ih fits]

theorem foldl_appendChunk_of_whole {chunks : List (List Nat)} (whole : Whole input chunks) :
    chunks.foldl (appendChunk input) "" = wholeText chunks := by
  have fits : Text.utf16Length ("" ++ String.ofList (chunks.flatMap Utf8.decode)) ≤
      input.maxOutputChars * 2 := by
    rw [String.empty_append, whole.1]
    exact whole.2
  rw [foldl_appendChunk fits, String.empty_append, whole.1, wholeText]

/-- Where neither text has a pattern and both fit, only whole characters show the output. -/
theorem clean_eq_iff_of_quiet {chunks : List (List Nat)}
    (quiet : Quiet (String.ofList (chunks.flatMap Utf8.decode))) (quiet' : Quiet (wholeText chunks))
    (fits : Text.utf16Length (String.ofList (chunks.flatMap Utf8.decode)) ≤ input.maxOutputChars)
    (fits' : Text.utf16Length (wholeText chunks) ≤ input.maxOutputChars) :
    safeModelText (chunks.foldl (appendChunk input) "") input.maxOutputChars =
        safeModelText (wholeText chunks) input.maxOutputChars ↔ Whole input chunks := by
  have twice : Text.utf16Length ("" ++ String.ofList (chunks.flatMap Utf8.decode)) ≤
      input.maxOutputChars * 2 := by
    rw [String.empty_append]
    omega
  rw [foldl_appendChunk twice, String.empty_append, safeModelText, safeModelText,
    redactValues_of_quiet quiet, redactValues_of_quiet quiet', truncateForModel_of_le fits,
    truncateForModel_of_le fits', Whole]
  constructor
  · intro same
    exact ⟨String.ofList_injective same, by omega⟩
  · rintro ⟨same, _⟩
    rw [same, wholeText]

theorem foldl_childStep {events : List ChildEvent} (goes : ∀ event ∈ events, event.ends = false)
    (state : ChildState) : events.foldl (childStep input) state =
      { state with
        stdout := (stdoutChunks events).foldl (appendChunk input) state.stdout
        stderr := (stderrChunks events).foldl (appendChunk input) state.stderr
        timedOut := state.timedOut || events.any isTimeout
        aborted := state.aborted || events.any isAbort } := by
  induction events generalizing state with
  | nil => simp [stdoutChunks, stderrChunks]
  | cons event events ih =>
    obtain ⟨own, rest⟩ := List.forall_mem_cons.mp goes
    rw [List.foldl_cons, ih rest]
    cases event with
    | error _ => cases own
    | close _ => cases own
    | stdout chunk => simp [childStep, stdoutChunks, stderrChunks, isTimeout, isAbort]
    | stderr chunk => simp [childStep, stdoutChunks, stderrChunks, isTimeout, isAbort]
    | timeout => simp [childStep, stdoutChunks, stderrChunks, isTimeout, isAbort]
    | abort => simp [childStep, stdoutChunks, stderrChunks, isTimeout, isAbort]

theorem result_foldl {state : ChildState} {result : ProcessResult}
    (done : state.result = some result) (events : List ChildEvent) :
    (events.foldl (childStep input) state).result = some result := by
  induction events generalizing state with
  | nil => exact done
  | cons event events ih =>
    refine ih ?_
    cases event <;> simp [childStep, ChildState.finish, done]

/-- The result of a run is the one by the whole output, where both streams are whole. -/
theorem result_of_whole {events : List ChildEvent}
    (stdout : Whole input (stdoutChunks (running events)))
    (stderr : Whole input (stderrChunks (running events))) :
    (events.foldl (childStep input) startState).result = wholeResult input events := by
  have goes : ∀ event ∈ running events, event.ends = false := by
    intro event inside
    simpa using List.mem_takeWhile_imp inside
  have none_ : (running events).findSome? (endResult input (running events)) = none := by
    refine List.findSome?_eq_none_iff.mpr fun event inside => ?_
    have own := goes event inside
    cases event <;> first | rfl | cases own
  have split : running events ++ events.dropWhile (fun event => !event.ends) = events :=
    List.takeWhile_append_dropWhile
  have whole : wholeResult input events =
      (events.dropWhile fun event => !event.ends).findSome? (endResult input (running events)) := by
    have searched : (running events ++ events.dropWhile fun event => !event.ends).findSome?
        (endResult input (running events)) = wholeResult input events := by
      rw [split, wholeResult]
    rw [← searched, List.findSome?_append, none_, Option.none_or]
  have run : events.foldl (childStep input) startState =
      (events.dropWhile fun event => !event.ends).foldl (childStep input)
        ((running events).foldl (childStep input) startState) := by
    rw [← List.foldl_append, split]
  rw [whole, run, foldl_childStep goes startState]
  cases rest : events.dropWhile fun event => !event.ends with
  | nil => rfl
  | cons event others =>
    have ends : event.ends = true := by
      have head := List.head?_dropWhile_not (fun event : ChildEvent => !event.ends) events
      rw [rest] at head
      simpa using head
    rw [List.foldl_cons]
    cases event with
    | error message => exact result_foldl rfl others
    | close code =>
      refine result_foldl ?_ others
      rw [childStep, ChildState.finish]
      simp only [startState, foldl_appendChunk_of_whole stdout,
        foldl_appendChunk_of_whole stderr, Bool.false_or, Option.none_or]
    | stdout _ => cases ends
    | stderr _ => cases ends
    | timeout => cases ends
    | abort => cases ends

end Captured

/-- Where both streams are whole, the result is the one by the bytes alone: what is shown of a
stream is its redacted text, or the announced beginning of it. A stream whose texts have no pattern
and fit is shown as it is only if no chunk ends inside a character. -/
theorem output_captured (input : ProcessInput) (events : List ChildEvent) :
    (Whole input (stdoutChunks (running events)) → Whole input (stderrChunks (running events)) →
      spawnProcess input false none events = wholeResult input events) ∧
    ∀ chunks : List (List Nat), Quiet (String.ofList (chunks.flatMap Utf8.decode)) →
      Quiet (wholeText chunks) →
      Text.utf16Length (String.ofList (chunks.flatMap Utf8.decode)) ≤ input.maxOutputChars →
      Text.utf16Length (wholeText chunks) ≤ input.maxOutputChars →
      (safeModelText (chunks.foldl (appendChunk input) "") input.maxOutputChars =
        safeModelText (wholeText chunks) input.maxOutputChars ↔ Whole input chunks) :=
  ⟨result_of_whole, fun _ => clean_eq_iff_of_quiet⟩

def smallLimits : ProcessInput := ⟨8, 1000⟩

/-- `é` in one chunk, and in two. -/
theorem output_captured_of_one_chunk :
    spawnProcess smallLimits false none [.stdout [0xC3, 0xA9], .close (some 0)] =
        wholeResult smallLimits [.stdout [0xC3, 0xA9], .close (some 0)] ∧
      safeModelText ([[0xC3], [0xA9]].foldl (appendChunk smallLimits) "") 8 ≠
        safeModelText (wholeText [[0xC3], [0xA9]]) 8 := by
  have captured := output_captured smallLimits [.stdout [0xC3, 0xA9], .close (some 0)]
  have split : ¬ Whole smallLimits [[0xC3], [0xA9]] := by decide
  refine ⟨captured.1 ?_ ?_, mt (captured.2 [[0xC3], [0xA9]] ?_ ?_ ?_ ?_).mp split⟩ <;> decide

/-- A character in two chunks is shown as two characters that the child never wrote. -/
theorem split_character_not_captured :
    spawnProcess smallLimits false none [.stdout [0xC3], .stdout [0xA9], .close (some 0)] ≠
      wholeResult smallLimits [.stdout [0xC3], .stdout [0xA9], .close (some 0)] := by
  decide +kernel

end AifHandoff.Runtime.ChildOutput
