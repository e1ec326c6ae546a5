import AifHandoff.Lib.RegexRuns

/-!
Redaction of provider text (`redactProviderText`, `shared/runtimeLimitUtils.ts`).

The value behind a sensitive key is replaced first, then whatever has the shape of a
secret, of an address or of a link; the rest is cut after 256 code units.
-/

namespace AifHandoff.Shared

open Regex

def redactedValue : String := "[REDACTED]"

def maxProviderMetaStringLength : Nat := 256

/-- `[0-9A-Za-z]` and the further characters of a class. -/
def alphanumOr (others : String) : Regex :=
  .set fun c => c.isAlphanum || others.toList.contains c

def upperOrDigit : Regex := .set fun c => c.isUpper || c.isDigit

def secretValuePatterns : List Regex :=
  [cat [.wordBoundary, litI "sk-", atLeast 6 (alphanumOr "_-"), .wordBoundary],
    cat [.wordBoundary, litI "gh", anyOf [litI "p", litI "o", litI "u", litI "s", litI "r"], lit "_",
      atLeast 20 (alphanumOr "_"), .wordBoundary],
    cat [.wordBoundary, litI "github_pat_", atLeast 20 (alphanumOr "_"), .wordBoundary],
    cat [.wordBoundary, lit "AIza", atLeast 20 (alphanumOr "-_"), .wordBoundary],
    cat [.wordBoundary, lit "ya29.", some1 (alphanumOr "._-"), .wordBoundary],
    cat [.wordBoundary, anyOf [lit "AKIA", lit "ASIA"], cat (List.replicate 16 upperOrDigit),
      .wordBoundary],
    cat [.wordBoundary, lit "xox", anyOf [lit "a", lit "b", lit "p", lit "o", lit "r", lit "s"],
      lit "-", atLeast 10 (alphanumOr "-"), .wordBoundary],
    cat [.wordBoundary, lit "eyJ", some1 (alphanumOr "_-"), lit ".", some1 (alphanumOr "_-"),
      lit ".", some1 (alphanumOr "_-"), .wordBoundary],
    cat [.wordBoundary, litI "bearer", some1 space, some1 (alphanumOr "-._~+/"), many (lit "=")]]

def contactValuePatterns : List Regex :=
  [cat [.wordBoundary, some1 (alphanumOr "._%+-"), lit "@", some1 (alphanumOr ".-"), lit ".",
      atLeast 2 (.set Char.isAlpha), .wordBoundary],
    cat [.wordBoundary, litI "http", optional (litI "s"), lit "://",
      some1 (.set fun c => !Text.isSpace c && c != '"' && c != '\'')]]

/-- `SENSITIVE_VALUE_KEYS`. -/
def sensitiveValueKeys : List Regex :=
  let joiner := optional (oneOf "_-")
  [cat [litI "access", joiner, litI "token"],
    cat [litI "refresh", joiner, litI "token"],
    cat [litI "client", joiner, litI "secret"],
    cat [litI "id", joiner, litI "token"],
    cat [litI "secret", optional (cat [joiner, litI "token"])],
    cat [litI "api", joiner, litI "key"],
    litI "authorization", litI "password", litI "token"]

/-- A key with its separator, then its value: in quotation marks, in apostrophes, or bare. -/
def sensitiveValueKeyPattern : Regex :=
  let quote := optional (oneOf "\"'")
  cat [.capture 1 (cat [quote, anyOf sensitiveValueKeys, quote, many space, oneOf ":=", many space]),
    anyOf [cat [lit "\"", .capture 2 (many (noneOf "\"")), lit "\""],
      cat [lit "'", .capture 3 (many (noneOf "'")), lit "'"],
      .capture 4 (some1 (.set fun c => !Text.isSpace c && !",\"'\x7b\x7d]".toList.contains c))]]

def redactSensitiveValue (hit : Hit) : String :=
  if (hit.captures.lookup 2).isSome then hit.group 1 ++ "\"" ++ redactedValue ++ "\""
  else if (hit.captures.lookup 3).isSome then hit.group 1 ++ "'" ++ redactedValue ++ "'"
  else hit.group 1 ++ redactedValue

/-- The text with the values replaced, before it is cut. -/
def redactValues (raw : String) : String :=
  (secretValuePatterns ++ contactValuePatterns).foldl
    (fun redacted pattern => replaceAll pattern (fun _ => redactedValue) redacted)
    (replaceAll sensitiveValueKeyPattern redactSensitiveValue raw)

/-- The redacted text, with what stands for half a pair at the end of the cut. -/
def redactProviderTextBy (half : Char → Char) (raw : String) : String :=
  let redacted := redactValues raw
  if maxProviderMetaStringLength < Text.utf16Length redacted then
    Text.sliceToBy half redacted maxProviderMetaStringLength ++ "..."
  else redacted

def redactProviderText (raw : String) : String := redactProviderTextBy Text.replacementHalf raw

/-- None of the patterns is found in the text. -/
def Quiet (text : String) : Prop :=
  ∀ pattern ∈ sensitiveValueKeyPattern :: (secretValuePatterns ++ contactValuePatterns),
    test pattern text = false

instance (text : String) : Decidable (Quiet text) := by
  unfold Quiet
  infer_instance

theorem quiet_of_toList {text : String} {chars : List Char} (isText : text.toList = chars)
    (none_ : ∀ pattern ∈ sensitiveValueKeyPattern :: (secretValuePatterns ++ contactValuePatterns),
      (search pattern [] chars).isSome = false) : Quiet text := by
  intro pattern among
  rw [test, exec, isText]
  exact none_ pattern among

theorem quiet_replicate (n : Nat) : Quiet (String.ofList (List.replicate n 'x')) := by
  have within : ∀ c ∈ (String.ofList (List.replicate n 'x')).toList, c ∈ ['x'] := by
    rw [String.toList_ofList]
    intro c inside
    rw [List.eq_of_mem_replicate inside]
    exact List.mem_cons_self
  intro pattern among
  refine test_of_lacks ?_ within
  revert pattern
  decide

/-- At most 256 code units, or 256 with the three dots of the cut. -/
def FitsLimit (text : String) : Prop :=
  Text.utf16Length text ≤ maxProviderMetaStringLength ∨
    Text.utf16Length text = maxProviderMetaStringLength + 3 ∧ Text.endsWith text "..." = true

instance (text : String) : Decidable (FitsLimit text) := by
  unfold FitsLimit
  infer_instance

/-- The letters of `quiet_replicate`, one too many. -/
theorem not_fitsLimit_replicate : ¬ FitsLimit (String.ofList (List.replicate 257 'x')) := by
  have length : Text.utf16Length (String.ofList (List.replicate 257 'x')) = 257 := by
    rw [Text.utf16Length, String.toList_ofList, List.map_replicate, List.sum_replicate_nat,
      show Text.unitsOf 'x' = 1 from by decide]
  rw [FitsLimit, length, maxProviderMetaStringLength]
  omega

theorem redactedValue_ne_empty : redactedValue ≠ "" := by decide

theorem redactSensitiveValue_ne_empty (hit : Hit) : redactSensitiveValue hit ≠ "" := by
  rw [redactSensitiveValue]
  split_ifs <;> simp [String.append_eq_empty_iff, redactedValue_ne_empty]

/-- What holds of the text with its sensitive values replaced and is kept by each further
replacement holds of the redacted text. -/
theorem redactValues_induction (P : String → Prop) {raw : String}
    (first : P (replaceAll sensitiveValueKeyPattern redactSensitiveValue raw))
    (valued : ∀ pattern ∈ secretValuePatterns ++ contactValuePatterns, ∀ text, P text →
      P (replaceAll pattern (fun _ => redactedValue) text)) : P (redactValues raw) := by
  rw [redactValues]
  generalize secretValuePatterns ++ contactValuePatterns = patterns at valued ⊢
  generalize replaceAll sensitiveValueKeyPattern redactSensitiveValue raw = text at first ⊢
  induction patterns generalizing text with
  | nil => exact first
  | cons pattern rest ih =>
    exact ih (fun p among => valued p (List.mem_cons_of_mem pattern among)) _
      (valued pattern (List.mem_cons_self ..) text first)

section Cut

variable {half : Char → Char}

theorem redactProviderText_ne_empty {raw : String} (some_ : raw ≠ "") :
    redactProviderText raw ≠ "" := by
  have kept : redactValues raw ≠ "" := by
    refine redactValues_induction (· ≠ "") ?_ fun pattern _ text => ?_
    · exact replaceAll_ne_empty redactSensitiveValue_ne_empty some_
    · exact replaceAll_ne_empty fun _ => redactedValue_ne_empty
  rw [redactProviderText, redactProviderTextBy]
  split
  · simp [String.append_eq_empty_iff]
  · exact kept

theorem redactValues_of_quiet {text : String} (quiet : Quiet text) : redactValues text = text := by
  refine redactValues_induction (· = text) ?_ fun pattern among current same => ?_
  · exact replaceAll_of_not_test (quiet _ (List.mem_cons_self ..))
  · rw [same]
    exact replaceAll_of_not_test (quiet pattern (List.mem_cons_of_mem _ among))

theorem redactProviderTextBy_eq_self_iff (single : ∀ c, Text.unitsOf (half c) = 1) {text : String}
    (quiet : Quiet text) : redactProviderTextBy half text = text ↔ FitsLimit text := by
  rw [redactProviderTextBy, redactValues_of_quiet quiet, FitsLimit]
  by_cases short : Text.utf16Length text ≤ maxProviderMetaStringLength
  · simp [short, Nat.not_lt.mpr short]
  · rw [if_pos (Nat.not_le.mp short), or_iff_right short]
    exact Text.sliceToBy_append_dots_eq_iff single (Nat.not_le.mp short)

theorem redactProviderText_eq_self_iff {text : String} (quiet : Quiet text) :
    redactProviderText text = text ↔ FitsLimit text :=
  redactProviderTextBy_eq_self_iff Text.unitsOf_replacementHalf quiet

theorem fitsLimit_redactProviderText (raw : String) : FitsLimit (redactProviderText raw) := by
  rw [redactProviderText, redactProviderTextBy]
  split
  next long =>
    refine .inr ⟨?_, ?_⟩
    · rw [Text.utf16Length_append, Text.utf16Length_sliceToBy Text.unitsOf_replacementHalf,
        Nat.min_eq_left (Nat.le_of_lt long)]
      decide
    · rw [Text.endsWith, List.isSuffixOf_iff_suffix, String.toList_append]
      exact List.suffix_append _ _
  next short => exact .inl (Nat.not_lt.mp short)

/-- At most 259 code units are left of any text. -/
theorem utf16Length_redactProviderTextBy_le (single : ∀ c, Text.unitsOf (half c) = 1)
    (raw : String) :
    Text.utf16Length (redactProviderTextBy half raw) ≤ maxProviderMetaStringLength + 3 := by
  rw [redactProviderTextBy]
  split
  · rw [Text.utf16Length_append, Text.utf16Length_sliceToBy single]
    exact Nat.add_le_add (Nat.min_le_left _ _) (by decide)
  · omega

theorem utf16Length_redactProviderText_le (raw : String) :
    Text.utf16Length (redactProviderText raw) ≤ maxProviderMetaStringLength + 3 :=
  utf16Length_redactProviderTextBy_le Text.unitsOf_replacementHalf raw

end Cut

example : redactProviderText "token=abc, see https://x.y" = "token=[REDACTED], see [REDACTED]" := by
  decide +kernel

end AifHandoff.Shared
