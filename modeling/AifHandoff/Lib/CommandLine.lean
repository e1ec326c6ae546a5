import Mathlib.Data.List.Basic

/-!
Windows command lines.

A program splits its command line at spaces and tabs. Double quotes group, and a backslash
escapes where it stands before a quote, alone or in a row. `cmd.exe` reads the line before: it
knows quotes, but no backslashes.
-/

namespace AifHandoff.CommandLine

def isBlank (c : Char) : Bool := c == ' ' || c == '\t'

def backslashes (count : Nat) : List Char := List.replicate count '\\'

/-- The end of an argument, if one has begun, behind `count` backslashes. -/
def close (count : Nat) : Option (List Char) → List (List Char)
  | none => []
  | some argument => [argument ++ backslashes count]

/-- The arguments of a line, behind `count` backslashes within an argument or between
arguments. -/
def splitFrom : (quoted : Bool) → (count : Nat) → (argument : Option (List Char)) → List Char →
    List (List Char)
  | _, count, argument, [] => close count argument
  | quoted, count, argument, c :: rest =>
    if c = '\\' then splitFrom quoted (count + 1) (some (argument.getD [])) rest
    else if c = '"' then
      let escaped := argument.getD [] ++ backslashes (count / 2)
      if count % 2 = 1 then splitFrom quoted 0 (some (escaped ++ ['"'])) rest
      else splitFrom (!quoted) 0 (some escaped) rest
    else if isBlank c && !quoted then close count argument ++ splitFrom false 0 none rest
    else splitFrom quoted 0 (some (argument.getD [] ++ backslashes count ++ [c])) rest

def split (line : List Char) : List (List Char) := splitFrom false 0 none line

/-- The characters that stand outside quotes for `cmd.exe`. -/
def outside : (quoted : Bool) → List Char → List Char
  | _, [] => []
  | quoted, c :: rest =>
    if c = '"' then outside (!quoted) rest
    else if quoted then outside true rest
    else c :: outside false rest

/-! ### Steps of the splitting -/

variable {quoted : Bool} {count : Nat} {argument : Option (List Char)} {text rest : List Char}

theorem splitFrom_backslash : splitFrom quoted count argument ('\\' :: rest) =
    splitFrom quoted (count + 1) (some (argument.getD [])) rest := by
  rw [splitFrom, if_pos rfl]

theorem splitFrom_quote : splitFrom quoted 0 argument ('"' :: rest) =
    splitFrom (!quoted) 0 (some (argument.getD [])) rest := by
  rw [splitFrom, if_neg (by decide), if_pos rfl]
  simp [backslashes]

theorem splitFrom_escape (odd : count % 2 = 1) :
    splitFrom quoted count argument ('"' :: rest) =
      splitFrom quoted 0 (some (argument.getD [] ++ backslashes (count / 2) ++ ['"'])) rest := by
  rw [splitFrom, if_neg (by decide), if_pos rfl]
  dsimp only
  rw [if_pos odd]

theorem splitFrom_escapes (even : count % 2 = 0) :
    splitFrom quoted count argument ('"' :: rest) =
      splitFrom (!quoted) 0 (some (argument.getD [] ++ backslashes (count / 2))) rest := by
  rw [splitFrom, if_neg (by decide), if_pos rfl]
  dsimp only
  rw [if_neg (by omega)]

theorem splitFrom_blank : splitFrom false count argument (' ' :: rest) =
    close count argument ++ split rest := by
  rw [splitFrom, if_neg (by decide), if_neg (by decide), if_pos (by decide), split]

theorem splitFrom_char {c : Char} (noSlash : c ≠ '\\') (noQuote : c ≠ '"')
    (kept : quoted = true ∨ isBlank c = false) :
    splitFrom quoted count argument (c :: rest) =
      splitFrom quoted 0 (some (argument.getD [] ++ backslashes count ++ [c])) rest := by
  have goesOn : (isBlank c && !quoted) = false := by
    rcases kept with rfl | plain
    · exact Bool.and_false _
    · rw [plain, Bool.false_and]
  rw [splitFrom, if_neg noSlash, if_neg noQuote, goesOn, if_neg Bool.false_ne_true]

/-! ### Runs of the splitting -/

/-- Text that is neither quotes nor, outside of them, blanks is added to the argument. Its last
backslashes wait for what comes behind. -/
theorem splitFrom_plain (some_ : text ≠ [])
    (plain : ∀ c ∈ text, c ≠ '"' ∧ (quoted = true ∨ isBlank c = false)) :
    ∃ before waiting,
      before ++ backslashes waiting = argument.getD [] ++ backslashes count ++ text ∧
      (waiting = 0 ↔ text.getLast? ≠ some '\\') ∧
      ∀ rest, splitFrom quoted count argument (text ++ rest) =
        splitFrom quoted waiting (some before) rest := by
  induction text generalizing count argument with
  | nil => exact absurd rfl some_
  | cons c text ih =>
    obtain ⟨noQuote, kept⟩ := plain c List.mem_cons_self
    have later := fun d inside => plain d (List.mem_cons_of_mem c inside)
    -- What one character leaves; the rest is added to that.
    obtain ⟨next, count', joined, last, step⟩ : ∃ next count',
        next ++ backslashes count' = argument.getD [] ++ backslashes count ++ [c] ∧
        (count' = 0 ↔ c ≠ '\\') ∧ ∀ rest, splitFrom quoted count argument (c :: rest) =
          splitFrom quoted count' (some next) rest := by
      by_cases slash : c = '\\'
      · subst slash
        refine ⟨_, _, ?_, ?_, fun rest => splitFrom_backslash⟩
        · rw [backslashes, backslashes, List.replicate_succ', List.append_assoc]
        · simp
      · refine ⟨_, _, ?_, ?_, fun rest => splitFrom_char slash noQuote kept⟩
        · exact List.append_nil _
        · simp [slash]
    cases text with
    | nil =>
      refine ⟨next, count', joined, ?_, fun rest => step rest⟩
      rw [last, List.getLast?_singleton]
      simp
    | cons d text =>
      obtain ⟨before, waiting, whole, last, run⟩ :=
        @ih count' (some next) (List.cons_ne_nil d text) later
      refine ⟨before, waiting, ?_, ?_, fun rest => (step _).trans (run rest)⟩
      · rw [whole, Option.getD_some, joined, List.append_assoc, List.singleton_append]
      · rw [last, List.getLast?_cons_cons]

/-- An argument that has begun is the first of those to come. -/
theorem exists_first (begun : List Char) :
    ∃ added later, splitFrom quoted count (some begun) text = (begun ++ added) :: later := by
  induction text generalizing quoted count begun with
  | nil => exact ⟨_, _, rfl⟩
  | cons c text ih =>
    by_cases slash : c = '\\'
    · subst slash
      rw [splitFrom_backslash]
      exact ih begun
    · by_cases quote : c = '"'
      · subst quote
        rcases Nat.mod_two_eq_zero_or_one count with even | odd
        · rw [splitFrom_escapes even]
          obtain ⟨added, later, found⟩ := @ih (!quoted) 0 (begun ++ backslashes (count / 2))
          exact ⟨_, later, by rw [Option.getD_some, found, List.append_assoc]⟩
        · rw [splitFrom_escape odd]
          obtain ⟨added, later, found⟩ :=
            @ih quoted 0 (begun ++ backslashes (count / 2) ++ ['"'])
          exact ⟨_, later, by rw [Option.getD_some, found, List.append_assoc, List.append_assoc]⟩
      · by_cases ends : (isBlank c && !quoted) = true
        · rw [splitFrom, if_neg slash, if_neg quote, if_pos ends]
          exact ⟨_, _, rfl⟩
        · rw [splitFrom, if_neg slash, if_neg quote, if_neg ends]
          obtain ⟨added, later, found⟩ := @ih quoted 0 (begun ++ backslashes count ++ [c])
          exact ⟨_, later, by rw [Option.getD_some, found, List.append_assoc, List.append_assoc]⟩

/-! ### Outside quotes -/

theorem outside_plain (noQuote : '"' ∉ text) : outside false (text ++ rest) =
    text ++ outside false rest := by
  induction text with
  | nil => rfl
  | cons c text ih =>
    rw [List.mem_cons, not_or] at noQuote
    rw [List.cons_append, outside, if_neg (Ne.symm noQuote.1), if_neg Bool.false_ne_true,
      ih noQuote.2, List.cons_append]

theorem outside_quoted (noQuote : '"' ∉ text) :
    outside true (text ++ '"' :: rest) = outside false rest := by
  induction text with
  | nil =>
    rw [List.nil_append, outside, if_pos rfl]
    rfl
  | cons c text ih =>
    rw [List.mem_cons, not_or] at noQuote
    rw [List.cons_append, outside, if_neg (Ne.symm noQuote.1), if_pos rfl, ih noQuote.2]

end AifHandoff.CommandLine
