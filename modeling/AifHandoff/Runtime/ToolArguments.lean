import AifHandoff.Lib.Doubles
import AifHandoff.Shared.ProviderText

/-!
Numbers in the arguments of local tools, and texts for the model
(`runtime/adapters/qwenLocalAgent/tools.ts`).
-/

namespace AifHandoff.Runtime

open Shared (redactValues)

/-- An argument that is read as a number. -/
inductive ToolNumber where
  | missing
  | number (value : Double)
  | text (value : String)
  | other

/-- `Number.parseInt(text, 10)`. -/
def parseInt (text : String) : Double :=
  let signed := text.toList.dropWhile Text.isSpace
  let negative := signed.head? = some '-'
  let digits := (if negative ∨ signed.head? = some '+' then signed.tail else signed).takeWhile
    Char.isDigit
  if digits = [] then .nan
  else
    let value := Text.numberOfDigits digits
    if value = Text.infinity then .infinite negative
    else .finite (if negative then -value else value)

def maxSafeInteger : Nat := 2 ^ 53 - 1

/-- `raw`, if it is finite and positive, rounded down and bounded. -/
def positiveInt (raw : Double) (max : Nat) : Option Nat :=
  match raw with
  | .finite q => if q ≤ 0 then none else some (min ⌊q⌋.toNat max)
  | .infinite _ | .nan => none

def readPositiveInt (value : ToolNumber) (fallback max : Nat) : Nat :=
  match value with
  | .number raw => (positiveInt raw max).getD fallback
  | .text raw => (positiveInt (parseInt raw) max).getD fallback
  | .missing | .other => if fallback = 0 then 0 else min fallback max

def readOptionalPositiveInt (value : ToolNumber) (max : Nat) : Option Nat :=
  match value with
  | .missing | .other => none
  | .number raw => positiveInt raw max
  | .text raw => positiveInt (parseInt raw) max

theorem readOptionalPositiveInt_natCast {n : Nat} (max : Nat) (positive : 0 < n) :
    readOptionalPositiveInt (.number (.finite n)) max = some (min n max) := by
  have above : ¬ (n : ℚ) ≤ 0 := not_le.mpr (Nat.cast_pos.mpr positive)
  rw [readOptionalPositiveInt, positiveInt, if_neg above, Int.floor_natCast, Int.toNat_natCast]

theorem readOptionalPositiveInt_zero (max : Nat) :
    readOptionalPositiveInt (.number (.finite (0 : Nat))) max = none := by
  rw [readOptionalPositiveInt, positiveInt, Nat.cast_zero, if_pos le_rfl]

theorem readOptionalPositiveInt_le {value : ToolNumber} {max n : Nat}
    (read : readOptionalPositiveInt value max = some n) : n ≤ max := by
  have bounded (raw : Double) (is : positiveInt raw max = some n) : n ≤ max := by
    cases raw with
    | finite q =>
      rw [positiveInt] at is
      split at is
      · cases is
      · exact Option.some.inj is ▸ Nat.min_le_right _ _
    | infinite _ => cases is
    | nan => cases is
  cases value with
  | missing => cases read
  | other => cases read
  | number raw => exact bounded raw read
  | text raw => exact bounded (parseInt raw) read

def truncateForModel (value : String) (maxChars : Nat) : String :=
  if Text.utf16Length value ≤ maxChars then value
  else
    Text.sliceTo value maxChars ++ "\n[truncated " ++ toString (Text.utf16Length value - maxChars) ++
      " chars]"

/-- `redactProviderText(value, { maxLength: null })` and `truncateForModel`. -/
def safeModelText (value : String) (maxChars : Nat) : String :=
  truncateForModel (redactValues value) maxChars

theorem truncateForModel_of_le {value : String} {maxChars : Nat}
    (fits : Text.utf16Length value ≤ maxChars) : truncateForModel value maxChars = value :=
  if_pos fits

end AifHandoff.Runtime
