import AifHandoff.Lib.CommandLine
import AifHandoff.Lib.Text

/-!
Command lines for the Windows shell (`runtime/shellSafety.ts`).

Arguments with a character that the shell gives a meaning are refused, and those with white space
or parentheses are put in quotes. Nothing is escaped.
-/

namespace AifHandoff.Runtime.ShellSafety

open CommandLine

/-! ### The code -/

def windowsShellMetacharacters : List Char := ['\r', '\n', '&', '|', '<', '>', '^', '%', '"']

def assertSafeWindowsShellExecutablePath (value label : String) : Except String Unit :=
  if value.toList.any windowsShellMetacharacters.contains then
    .error ("Unsafe " ++ label ++ " contains Windows shell metacharacters")
  else .ok ()

/-- `/[\s()]/`. -/
def needsQuotes (c : Char) : Bool := Text.isSpace c || c == '(' || c == ')'

def quoteSafeWindowsShellArg (arg label : String) : Except String String :=
  (assertSafeWindowsShellExecutablePath arg (label ++ " command argument")).map fun _ =>
    if arg.toList.any needsQuotes then "\"" ++ arg ++ "\"" else arg

def buildSafeWindowsShellCommandLine (executablePath : String) (args : List String)
    (label : String) : Except String String :=
  ((executablePath :: args).mapM (quoteSafeWindowsShellArg · label)).map (Text.join " ")

/-! ### What is wanted -/

/-- The operators of `cmd.exe` and the sign of its expansions, while delayed expansion is off. -/
def cmdSpecial : List Char := ['&', '|', '<', '>', '^', '(', ')', '%', '\r', '\n']

/-- A program gets the arguments, and the shell sees nothing but them. -/
structure RoundTrips (arguments : List String) (line : String) : Prop where
  arguments : (split line.toList).map String.ofList = arguments
  operators : ∀ c ∈ outside false line.toList, c ∉ cmdSpecial

/-- Nothing of the argument gets lost between blanks, or before a closing quote. -/
structure Survives (arg : String) : Prop where
  notEmpty : arg ≠ ""
  ending : arg.toList.any needsQuotes = true → arg.toList.getLast? ≠ some '\\'

/-! ### Lines -/

/-- An argument as it stands in the line. -/
def quoted (arg : List Char) : List Char :=
  if arg.any needsQuotes then '"' :: (arg ++ ['"']) else arg

/-- The arguments of a line, each behind a blank. -/
def behind : List (List Char) → List Char
  | [] => []
  | arg :: args => ' ' :: (quoted arg ++ behind args)

def Safe (arg : List Char) : Prop := ∀ c ∈ arg, c ∉ windowsShellMetacharacters

variable {executablePath label line : String} {args : List String} {arg : List Char}
  {rest : List (List Char)}

theorem quoteSafe_eq_ok {arg text : String} (ok : quoteSafeWindowsShellArg arg label = .ok text) :
    Safe arg.toList ∧ text.toList = quoted arg.toList := by
  rw [quoteSafeWindowsShellArg, assertSafeWindowsShellExecutablePath] at ok
  by_cases unsafe_ : arg.toList.any windowsShellMetacharacters.contains = true
  · rw [if_pos unsafe_] at ok
    cases ok
  · rw [if_neg unsafe_] at ok
    obtain rfl := Except.ok.inj ok
    refine ⟨fun c inside special => unsafe_ ?_, ?_⟩
    · exact List.any_eq_true.mpr ⟨c, inside, List.contains_iff_mem.mpr special⟩
    · rw [quoted]
      split <;> simp

theorem mapM_quoteSafe_eq_ok {texts : List String}
    (ok : args.mapM (quoteSafeWindowsShellArg · label) = .ok texts) :
    (∀ arg ∈ args, Safe arg.toList) ∧
      texts.map String.toList = args.map fun arg => quoted arg.toList := by
  induction args generalizing texts with
  | nil =>
    cases ok
    exact ⟨nofun, rfl⟩
  | cons arg args ih =>
    rw [List.mapM_cons] at ok
    cases first : quoteSafeWindowsShellArg arg label with
    | error message => rw [first] at ok; cases ok
    | ok text =>
      cases later : args.mapM (quoteSafeWindowsShellArg · label) with
      | error message => rw [first, later] at ok; cases ok
      | ok texts' =>
        rw [first, later] at ok
        obtain rfl := Except.ok.inj ok
        obtain ⟨safe, written⟩ := quoteSafe_eq_ok first
        obtain ⟨safes, writtens⟩ := ih later
        exact ⟨List.forall_mem_cons.mpr ⟨safe, safes⟩,
          by rw [List.map_cons, List.map_cons, written, writtens]⟩

theorem intercalate_eq (first : List Char) (args : List (List Char)) :
    [' '].intercalate ((first :: args).map quoted) = quoted first ++ behind args := by
  induction args generalizing first with
  | nil => simp [List.intercalate, behind]
  | cons arg args ih =>
    rw [List.map_cons, List.map_cons, List.intercalate_cons_cons, ← List.map_cons, ih, behind,
      List.append_assoc, List.singleton_append]

theorem line_of_built
    (built : buildSafeWindowsShellCommandLine executablePath args label = .ok line) :
    (∀ arg ∈ executablePath :: args, Safe arg.toList) ∧
      line.toList = quoted executablePath.toList ++ behind (args.map String.toList) := by
  rw [buildSafeWindowsShellCommandLine] at built
  cases texts : (executablePath :: args).mapM (quoteSafeWindowsShellArg · label) with
  | error message => rw [texts] at built; cases built
  | ok written =>
    rw [texts] at built
    obtain rfl := Except.ok.inj built
    obtain ⟨safe, lists⟩ := mapM_quoteSafe_eq_ok texts
    have arguments : executablePath.toList :: args.map String.toList =
        (executablePath :: args).map String.toList := rfl
    refine ⟨safe, ?_⟩
    rw [Text.join, String.toList_intercalate, lists, ← intercalate_eq, arguments, List.map_map]
    rfl

/-! ### Arguments in a line -/

theorem Safe.noQuote (safe : Safe arg) : '"' ∉ arg := fun inside => safe _ inside (by decide)

theorem needsQuotes_of_blank {c : Char} (blank : isBlank c = true) : needsQuotes c = true := by
  rcases Bool.or_eq_true_iff.mp blank with space | tab
  · rw [beq_iff_eq.mp space]
    decide
  · rw [beq_iff_eq.mp tab]
    decide

theorem split_behind (args : List (List Char)) : splitFrom false 0 none (behind args) =
    split (match args with | [] => [] | arg :: args => quoted arg ++ behind args) := by
  cases args with
  | nil => rfl
  | cons arg args => rw [behind, splitFrom_blank]; rfl

/-- What follows an argument in the line ends it. -/
theorem splitFrom_behind (count : Nat) (argument : List Char) (args : List (List Char)) :
    splitFrom false count (some argument) (behind args) =
      (argument ++ backslashes count) :: splitFrom false 0 none (behind args) := by
  cases args with
  | nil => rfl
  | cons arg args => rw [behind, splitFrom_blank, splitFrom_blank]; rfl

theorem split_bare (safe : Safe arg) (notEmpty : arg ≠ [])
    (bare : arg.any needsQuotes = false) (args : List (List Char)) :
    split (quoted arg ++ behind args) = arg :: splitFrom false 0 none (behind args) := by
  have plain : ∀ c ∈ arg, c ≠ '"' ∧ (false = true ∨ isBlank c = false) := by
    refine fun c inside => ⟨fun quote => safe.noQuote (quote ▸ inside), .inr ?_⟩
    refine Bool.eq_false_iff.mpr fun blank => ?_
    rw [List.any_eq_false] at bare
    exact bare c inside (needsQuotes_of_blank blank)
  obtain ⟨before, waiting, whole, -, run⟩ := @splitFrom_plain false 0 none arg notEmpty plain
  rw [quoted, bare, if_neg Bool.false_ne_true, split, run, splitFrom_behind, whole]
  rfl

/-- A quoted argument as far as its closing quote, and the backslashes that stand before it. -/
theorem exists_split_quoted (safe : Safe arg) (inQuotes : arg.any needsQuotes = true) :
    ∃ before waiting, before ++ backslashes waiting = arg ∧ before ≠ [] ∧
      (waiting = 0 ↔ arg.getLast? ≠ some '\\') ∧ ∀ args, split (quoted arg ++ behind args) =
        splitFrom true waiting (some before) ('"' :: behind args) := by
  obtain ⟨c, inside, needs⟩ := List.any_eq_true.mp inQuotes
  have plain : ∀ c ∈ arg, c ≠ '"' ∧ (true = true ∨ isBlank c = false) :=
    fun c inside => ⟨fun quote => safe.noQuote (quote ▸ inside), .inl rfl⟩
  obtain ⟨before, waiting, whole, last, run⟩ :=
    @splitFrom_plain true 0 (some []) arg (List.ne_nil_of_mem inside) plain
  refine ⟨before, waiting, whole, ?_, last, fun args => ?_⟩
  · rintro rfl
    rw [List.nil_append] at whole
    change _ = arg at whole
    rw [← whole] at inside
    rw [List.eq_of_mem_replicate inside] at needs
    exact absurd needs (by decide)
  · rw [quoted, if_pos inQuotes, List.cons_append, split, splitFrom_quote, List.append_assoc,
      List.singleton_append]
    exact run _

theorem split_quoted (safe : Safe arg) (inQuotes : arg.any needsQuotes = true)
    (ending : arg.getLast? ≠ some '\\') (args : List (List Char)) :
    split (quoted arg ++ behind args) = arg :: splitFrom false 0 none (behind args) := by
  obtain ⟨before, waiting, whole, -, last, run⟩ := exists_split_quoted safe inQuotes
  obtain rfl := last.mpr ending
  rw [run, splitFrom_quote, Bool.not_true, splitFrom_behind, Option.getD_some, whole]

theorem first_ne_of_backslash (safe : Safe arg) (inQuotes : arg.any needsQuotes = true)
    (ending : arg.getLast? = some '\\') (args : List (List Char)) :
    (split (quoted arg ++ behind args)).head? ≠ some arg := by
  obtain ⟨before, waiting, whole, -, last, run⟩ := exists_split_quoted safe inQuotes
  have positive : waiting ≠ 0 := fun zero => last.mp zero ending
  rw [run]
  rcases Nat.mod_two_eq_zero_or_one waiting with even | odd
  · rw [splitFrom_escapes even, Bool.not_true, splitFrom_behind, List.head?_cons]
    intro same
    have lengths := congrArg List.length ((Option.some.inj same).trans whole.symm)
    simp only [backslashes, Option.getD_some, List.length_append, List.length_replicate] at lengths
    omega
  · rw [splitFrom_escape odd]
    obtain ⟨added, later, found⟩ :=
      @exists_first true 0 (behind args) (before ++ backslashes (waiting / 2) ++ ['"'])
    rw [Option.getD_some, found, List.head?_cons]
    intro same
    refine safe.noQuote ?_
    rw [← Option.some.inj same]
    simp

theorem first_ne_nil (safe : ∀ arg ∈ rest, Safe arg) :
    (splitFrom false 0 none (behind rest)).head? ≠ some [] := by
  induction rest with
  | nil => exact nofun
  | cons arg rest ih =>
    obtain ⟨first, later⟩ := List.forall_mem_cons.mp safe
    rw [split_behind]
    dsimp only
    by_cases empty : arg = []
    · subst empty
      exact ih later
    · cases needs : arg.any needsQuotes with
      | false =>
        rw [split_bare first empty needs, List.head?_cons]
        exact fun same => empty (Option.some.inj same)
      | true =>
        obtain ⟨before, waiting, -, begun, -, run⟩ := exists_split_quoted first needs
        rw [run]
        obtain ⟨added, later, found⟩ :=
          @exists_first true waiting ('"' :: behind rest) before
        rw [found, List.head?_cons]
        exact fun same => begun (List.append_eq_nil_iff.mp (Option.some.inj same)).1

theorem split_eq_iff {arg : String} (safe : Safe arg.toList) (args : List (List Char))
    (others : ∀ arg ∈ args, Safe arg) :
    split (quoted arg.toList ++ behind args) = arg.toList :: args ↔
      Survives arg ∧ splitFrom false 0 none (behind args) = args := by
  by_cases survives : Survives arg
  · have notEmpty : arg.toList ≠ [] := fun empty =>
      survives.notEmpty (String.toList_eq_nil_iff.mp empty)
    have read : split (quoted arg.toList ++ behind args) =
        arg.toList :: splitFrom false 0 none (behind args) := by
      cases needs : arg.toList.any needsQuotes with
      | false => exact split_bare safe notEmpty needs args
      | true => exact split_quoted safe needs (survives.ending needs) args
    rw [read, List.cons.injEq]
    exact ⟨fun same => ⟨survives, same.2⟩, fun both => ⟨rfl, both.2⟩⟩
  · refine ⟨fun same => absurd ?_ survives, fun both => absurd both.1 survives⟩
    have first := congrArg List.head? same
    rw [List.head?_cons] at first
    refine ⟨?_, fun needs ending => first_ne_of_backslash safe needs ending args first⟩
    rintro rfl
    exact first_ne_nil others first

theorem split_behind_iff (args : List String) (safe : ∀ arg ∈ args, Safe arg.toList) :
    splitFrom false 0 none (behind (args.map String.toList)) = args.map String.toList ↔
      ∀ arg ∈ args, Survives arg := by
  induction args with
  | nil => exact ⟨fun _ => nofun, fun _ => rfl⟩
  | cons arg args ih =>
    obtain ⟨first, later⟩ := List.forall_mem_cons.mp safe
    rw [split_behind, List.map_cons]
    dsimp only
    rw [split_eq_iff first _ (List.forall_mem_map.mpr later), ih later, List.forall_mem_cons]

/-! ### What the shell sees -/

theorem outside_arg (safe : Safe arg) (rest : List Char) :
    outside false (quoted arg ++ rest) =
      (if arg.any needsQuotes then [] else arg) ++ outside false rest := by
  cases needs : arg.any needsQuotes with
  | false =>
    rw [quoted, needs, if_neg Bool.false_ne_true, if_neg Bool.false_ne_true]
    exact outside_plain safe.noQuote
  | true =>
    rw [quoted, needs, if_pos rfl, if_pos rfl, List.cons_append, outside, if_pos rfl,
      List.append_assoc, List.singleton_append]
    exact outside_quoted safe.noQuote

theorem not_special {c : Char} (safe : Safe arg)
    (inside : c ∈ if arg.any needsQuotes then [] else arg) : c ∉ cmdSpecial := by
  cases needs : arg.any needsQuotes with
  | true => rw [needs, if_pos rfl] at inside; cases inside
  | false =>
    rw [needs, if_neg Bool.false_ne_true] at inside
    have bare := List.any_eq_false.mp needs c inside
    intro special
    have either : c ∈ windowsShellMetacharacters ∨ needsQuotes c = true := by
      revert special
      have each : ∀ d ∈ cmdSpecial, d ∈ windowsShellMetacharacters ∨ needsQuotes d = true := by
        decide
      exact each c
    exact either.elim (safe c inside) bare

theorem outside_behind (args : List (List Char)) (safe : ∀ arg ∈ args, Safe arg) :
    ∀ c ∈ outside false (behind args), c ∉ cmdSpecial := by
  induction args with
  | nil => exact nofun
  | cons arg args ih =>
    obtain ⟨first, later⟩ := List.forall_mem_cons.mp safe
    have blank : outside false (' ' :: (quoted arg ++ behind args)) =
        ' ' :: outside false (quoted arg ++ behind args) := rfl
    rw [behind, blank, outside_arg first, List.forall_mem_cons, List.forall_mem_append]
    exact ⟨by decide, fun c => not_special first, ih later⟩

/-! ### The line -/

/-- A program gets the arguments back, and the shell sees nothing but them, exactly if no argument
is empty and none that needs quotes ends in a backslash. -/
theorem command_line_round_trips_iff
    (built : buildSafeWindowsShellCommandLine executablePath args label = .ok line) :
    RoundTrips (executablePath :: args) line ↔ ∀ arg ∈ executablePath :: args, Survives arg := by
  obtain ⟨safe, written⟩ := line_of_built built
  obtain ⟨first, later⟩ := List.forall_mem_cons.mp safe
  have others := List.forall_mem_map.mpr later
  have operators : ∀ c ∈ outside false line.toList, c ∉ cmdSpecial := by
    rw [written, outside_arg first, List.forall_mem_append]
    exact ⟨fun c => not_special first, outside_behind _ others⟩
  have lists : (split line.toList).map String.ofList = executablePath :: args ↔
      split line.toList = (executablePath :: args).map String.toList := by
    constructor
    · intro same
      rw [← same, List.map_map]
      simp
    · intro same
      rw [same, List.map_map]
      simp
  have whole : RoundTrips (executablePath :: args) line ↔
      split line.toList = (executablePath :: args).map String.toList :=
    ⟨fun holds => lists.mp holds.arguments, fun same => ⟨lists.mpr same, operators⟩⟩
  rw [whole, written, List.map_cons, split_eq_iff first _ others, split_behind_iff _ later,
    List.forall_mem_cons]

/-- A program in a directory with a blank in its name. -/
theorem program_files_round_trip :
    RoundTrips ["C:\\Program Files\\codex.cmd", "app-server"]
      "\"C:\\Program Files\\codex.cmd\" app-server" := by
  have built : buildSafeWindowsShellCommandLine "C:\\Program Files\\codex.cmd" ["app-server"]
      "Codex" = .ok "\"C:\\Program Files\\codex.cmd\" app-server" := by decide
  refine (command_line_round_trips_iff built).mpr fun arg inside => ?_
  rcases List.mem_cons.mp inside with rfl | inside
  · exact ⟨by decide, fun _ => by decide⟩
  · rw [List.mem_singleton.mp inside]
    exact ⟨by decide, fun _ => by decide⟩

/-- An empty argument is accepted and lost. -/
theorem empty_argument_lost :
    buildSafeWindowsShellCommandLine "codex" ["-c", ""] "Codex" = .ok "codex -c " ∧
      ¬ RoundTrips ["codex", "-c", ""] "codex -c " := by
  refine ⟨by decide, fun holds => ?_⟩
  exact absurd holds.arguments (by decide)

end AifHandoff.Runtime.ShellSafety
