import AifHandoff.Lib.RegexContext
import AifHandoff.Shared.PermissionPolicy

/-!
Commands that run a second command, and what the classification sees of them
(`shared/permissionPolicy.ts`).

`runsSecondCommand` reads a command as a shell does: an operator counts outside single quotes
and when it is not escaped. The chain pattern knows neither quotes nor escapes, and it wants an
operator that stands alone, with no `&` or `|` on either side of it. The other patterns look for
words.
-/

namespace AifHandoff.Shared.PermissionPolicy

open Regex

/-! ### Operators -/

/-- Where a shell is in a command. -/
inductive Quoting where
  | plain | escaped | single | double | doubleEscaped
deriving DecidableEq, Repr

/-- A plain character ends one command and begins another. A `&` or `|` that belongs to a
redirection (`2>&1`, `>|`, `&>`) does not. -/
def isOperator (before : Option Char) (c : Char) (next : Option Char) : Bool :=
  c == ';' || c == '\n' || c == '`' || (c == '$' && next == some '(') ||
    ((c == '&' || c == '|') && before != some '<' && before != some '>' &&
      !(c == '&' && next == some '>'))

/-- Some operator that runs a second command stands in a text, read from a state. `before` is
the plain character that was read last. -/
def operatorIn : Quoting → Option Char → List Char → Bool
  | _, _, [] => false
  | .plain, before, c :: rest =>
    if c = '\\' then operatorIn .escaped none rest
    else if c = '\'' then operatorIn .single none rest
    else if c = '"' then operatorIn .double none rest
    else isOperator before c rest.head? || operatorIn .plain (some c) rest
  | .escaped, _, _ :: rest => operatorIn .plain none rest
  | .single, _, c :: rest =>
    if c = '\'' then operatorIn .plain none rest else operatorIn .single none rest
  | .double, _, c :: rest =>
    if c = '\\' then operatorIn .doubleEscaped none rest
    else if c = '"' then operatorIn .plain none rest
    else c == '`' || (c == '$' && rest.head? == some '(') || operatorIn .double none rest
  | .doubleEscaped, _, _ :: rest => operatorIn .double none rest

def runsSecondCommand (command : String) : Bool := operatorIn .plain none command.toList

example : ["ls & rm x", "a |& b", "a\nb", "echo \"$(id)\""].all runsSecondCommand = true := by
  decide

example : ["echo 'a; b'", "echo a\\;b", "make > log 2>&1", "echo \"a & b\""].any
    runsSecondCommand = false := by
  decide

/-! ### The chain pattern -/

/-- The operators of the chain pattern. -/
def chainOperators : List (List Char) :=
  [[';'], ['&', '&'], ['|', '|'], ['`'], ['$', '('], ['|']]

/-- Not a character that could belong to a longer operator. -/
def apart (c : Option Char) : Bool := c != some '&' && c != some '|'

/-- An operator of the chain pattern stands alone between two parts of a command. -/
def StandsAlone (front op back : List Char) : Prop :=
  op ∈ chainOperators ∧ apart front.getLast? = true ∧ apart back.head? = true

/-- Some operator of the chain pattern stands alone in the command. -/
def HasLoneOperator (command : String) : Prop :=
  ∃ front op back, command.toList = front ++ (op ++ back) ∧ StandsAlone front op back

/-- One of the patterns for words finds something. -/
def HasDangerousWord (command : String) : Prop :=
  ∃ entry ∈ dangerousShellPatterns, entry.category ≠ .shellMetacharacterChain ∧
    test entry.pattern command = true

theorem accepts_apart_iff (c : Char) :
    (!"&|".toList.contains c) = true ↔ apart (some c) = true := by
  have chars : "&|".toList = ['&', '|'] := by decide
  rw [chars, apart]
  simp

theorem reads_apart_iff {at_ next : Cursor} : Reads (noneOf "&|") at_ next ↔
    ∃ c, apart (some c) = true ∧ Spans at_ [c] next := by
  rw [noneOf, reads_set_iff]
  exact exists_congr fun c => and_congr_left' (accepts_apart_iff c)

theorem reads_chainOperator_iff {at_ next : Cursor} :
    Reads (anyOf [lit ";", lit "&&", lit "||", lit "`", lit "$(", lit "|"]) at_ next ↔
      ∃ op ∈ chainOperators, Spans at_ op next := by
  have texts : [";", "&&", "||", "`", "$(", "|"].map String.toList = chainOperators := by decide
  rw [← texts]
  simp only [anyOf, Reads, reads_lit_iff, List.map_cons, List.map_nil, List.exists_mem_cons_iff,
    List.not_mem_nil, false_and, exists_false, or_false]

/-- A match of the chain pattern ends at any position with nothing or a character that stands
apart behind it. -/
theorem exists_reads_rightEdge_iff {at_ : Cursor} :
    (∃ next, Reads (anyOf [noneOf "&|", .endAnchor]) at_ next) ↔
      apart at_.after.head? = true := by
  constructor
  · rintro ⟨next, behind | behind⟩
    · obtain ⟨c, ok, spans⟩ := reads_apart_iff.mp behind
      rw [spans.1]
      exact ok
    · rw [List.isEmpty_iff.mp behind.1]
      rfl
  · intro ok
    obtain ⟨before, after⟩ := at_
    cases after with
    | nil => exact ⟨⟨before, []⟩, .inr ⟨rfl, rfl⟩⟩
    | cons c rest =>
      exact ⟨⟨c :: before, rest⟩, .inl (reads_apart_iff.mpr ⟨c, ok, rfl, rfl⟩)⟩

theorem exists_reads_chainPattern_iff {at_ : Cursor} :
    (∃ next, Reads chainPattern at_ next) ↔
      ∃ inner op back, Reads (anyOf [.startAnchor, noneOf "&|"]) at_ inner ∧
        inner.after = op ++ back ∧ op ∈ chainOperators ∧ apart back.head? = true := by
  constructor
  · rintro ⟨next, inner, left, middle, operator, last, right, -⟩
    obtain ⟨op, known, spans⟩ := reads_chainOperator_iff.mp operator
    exact ⟨inner, op, middle.after, left, spans.1, known,
      exists_reads_rightEdge_iff.mp ⟨last, right⟩⟩
  · rintro ⟨inner, op, back, left, after, known, ok⟩
    have operator : Spans inner op ⟨op.reverse ++ inner.before, back⟩ := ⟨after, rfl⟩
    have edge : apart (Cursor.after ⟨op.reverse ++ inner.before, back⟩).head? = true := ok
    obtain ⟨last, right⟩ := exists_reads_rightEdge_iff.mpr edge
    exact ⟨last, inner, left, _, reads_chainOperator_iff.mpr ⟨op, known, operator⟩, last, right,
      rfl⟩

/-- The chain pattern finds an operator that stands alone. -/
theorem test_chainPattern_iff (command : String) :
    test chainPattern command = true ↔ HasLoneOperator command := by
  rw [test_iff_reads]
  constructor
  · rintro ⟨skipped, rest, next, split, reads⟩
    obtain ⟨inner, op, back, left, after, known, ok⟩ :=
      exists_reads_chainPattern_iff.mp ⟨next, reads⟩
    rcases left with ⟨start, rfl⟩ | behind
    · have nothing : skipped = [] := List.reverse_eq_nil_iff.mp (List.isEmpty_iff.mp start)
      have rest_ : rest = op ++ back := after
      subst nothing
      exact ⟨[], op, back, by rw [split, rest_], known, rfl, ok⟩
    · obtain ⟨c, apart_, spans⟩ := reads_apart_iff.mp behind
      have rest_ : rest = [c] ++ inner.after := spans.1
      refine ⟨skipped ++ [c], op, back, ?_, known, ?_, ok⟩
      · rw [split, rest_, after, List.append_assoc]
      · rw [List.getLast?_concat]
        exact apart_
  · rintro ⟨front, op, back, split, known, left, right⟩
    rcases List.eq_nil_or_concat front with rfl | ⟨skipped, c, rfl⟩
    · obtain ⟨next, reads⟩ := exists_reads_chainPattern_iff.mpr
        ⟨⟨[], op ++ back⟩, op, back, .inl ⟨rfl, rfl⟩, rfl, known, right⟩
      exact ⟨[], op ++ back, next, split, reads⟩
    · rw [List.concat_eq_append, List.getLast?_concat] at left
      have behind : Reads (noneOf "&|") ⟨skipped.reverse, c :: (op ++ back)⟩
          ⟨c :: skipped.reverse, op ++ back⟩ := reads_apart_iff.mpr ⟨c, left, rfl, rfl⟩
      obtain ⟨next, reads⟩ := exists_reads_chainPattern_iff.mpr
        ⟨_, op, back, .inr behind, rfl, known, right⟩
      refine ⟨skipped, c :: (op ++ back), next, ?_, reads⟩
      rw [split, List.concat_eq_append, List.append_assoc]
      rfl

theorem chain_mem : ∃ entry ∈ dangerousShellPatterns, entry.pattern = chainPattern :=
  ⟨_, .tail _ (.tail _ (.tail _ (.head _))), rfl⟩

theorem pattern_of_chain : ∀ entry ∈ dangerousShellPatterns,
    entry.category = .shellMetacharacterChain → entry.pattern = chainPattern := by
  intro entry known chain
  simp only [dangerousShellPatterns, List.mem_cons, List.not_mem_nil, or_false] at known
  rcases known with rfl | rfl | rfl | rfl | rfl | rfl | rfl
  all_goals first | rfl | cases chain

/-- A command is dangerous when an operator stands alone or a word is dangerous. -/
theorem dangerous_iff_lone_or_word (command : String) :
    (classifyDangerousShellCommand command).dangerous = true ↔
      HasLoneOperator command ∨ HasDangerousWord command := by
  rw [dangerous_iff, ← test_chainPattern_iff]
  constructor
  · rintro ⟨entry, known, found⟩
    by_cases chain : entry.category = .shellMetacharacterChain
    · rw [pattern_of_chain entry known chain] at found
      exact .inl found
    · exact .inr ⟨entry, known, chain, found⟩
  · rintro (found | ⟨entry, known, -, found⟩)
    · obtain ⟨entry, known, pattern⟩ := chain_mem
      exact ⟨entry, known, by rw [pattern, found]⟩
    · exact ⟨entry, known, found⟩

/-! ### A further command -/

/-- The operators that join two commands. -/
def joiningOperators : List (List Char) :=
  [[';'], ['&', '&'], ['|', '|'], ['|'], ['&'], ['|', '&'], ['\n']]

def blanks (gap : Nat) : List Char := List.replicate gap ' '

/-- What stands before a command when a further one is put before it. -/
def before (further : String) (op : List Char) (gap : Nat) : List Char :=
  further.toList ++ op ++ blanks gap

/-- What stands behind a command when a further one is put behind it. -/
def behind (gap : Nat) (op : List Char) (further : String) : List Char :=
  blanks gap ++ op ++ further.toList

/-- A command between two texts. -/
def between (front : List Char) (command : String) (back : List Char) : String :=
  String.ofList (front ++ command.toList ++ back)

/-- A dangerous command with a further command before or behind it is dangerous. -/
def StaysDangerous (command : String) : Prop :=
  (classifyDangerousShellCommand command).dangerous = true →
    ∀ (further : String) (op : List Char) (gap : Nat), op ∈ joiningOperators →
      (classifyDangerousShellCommand
        (between (before further op gap) command [])).dangerous = true ∧
      (classifyDangerousShellCommand
        (between [] command (behind gap op further))).dangerous = true

/-- An operator stands alone behind something. -/
def LoneBehindSomething (command : String) : Prop :=
  ∃ front op back, command.toList = front ++ (op ++ back) ∧ StandsAlone front op back ∧ front ≠ []

/-- An operator stands alone before something. -/
def LoneBeforeSomething (command : String) : Prop :=
  ∃ front op back, command.toList = front ++ (op ++ back) ∧ StandsAlone front op back ∧ back ≠ []

section Words

variable {command : String} {front back : List Char}

/-- A pattern for words looks at nothing but the words, and no word begins or ends with `z` or
`&`. -/
theorem word_pattern : ∀ entry ∈ dangerousShellPatterns,
    entry.category ≠ .shellMetacharacterChain →
      unanchored false entry.pattern = true ∧ consumes entry.pattern = true ∧
        ∀ c ∈ ['z', '&'], refuses c entry.pattern = true ∧ refusesLast c entry.pattern = true := by
  have all : dangerousShellPatterns.all (fun entry =>
      decide (entry.category = .shellMetacharacterChain) ||
        (unanchored false entry.pattern && consumes entry.pattern &&
          ['z', '&'].all fun c => refuses c entry.pattern && refusesLast c entry.pattern)) =
      true := by
    decide
  intro entry known word
  have holds := List.all_eq_true.mp all entry known
  rw [decide_eq_false word, Bool.false_or, Bool.and_eq_true, Bool.and_eq_true] at holds
  obtain ⟨⟨free, some_⟩, edges⟩ := holds
  exact ⟨free, some_, fun c inside => Bool.and_eq_true_iff.mp (List.all_eq_true.mp edges c inside)⟩

theorem HasDangerousWord.between (calmFront : front.getLast?.any isWordChar = false)
    (calmBack : back.head?.any isWordChar = false) (word : HasDangerousWord command) :
    HasDangerousWord (between front command back) := by
  obtain ⟨entry, known, category, found⟩ := word
  exact ⟨entry, known, category,
    test_of_part calmFront calmBack (word_pattern entry known category).1 found⟩

theorem HasDangerousWord.of_between (calmFront : front.getLast?.any isWordChar = false)
    (calmBack : back.head?.any isWordChar = false) (plainFront : ∀ c ∈ front, c ∈ ['z', '&'])
    (plainBack : ∀ c ∈ back, c ∈ ['z', '&'])
    (word : HasDangerousWord (PermissionPolicy.between front command back)) :
    HasDangerousWord command := by
  obtain ⟨entry, known, category, found⟩ := word
  obtain ⟨free, some_, edges⟩ := word_pattern entry known category
  exact ⟨entry, known, category, test_of_longer calmFront calmBack free some_
    (fun c inside => (edges c (plainFront c inside)).1)
    (fun c inside => (edges c (plainBack c inside)).2) found⟩

theorem calm_before {op : List Char} (joins : op ∈ joiningOperators) (further : String)
    (gap : Nat) : (before further op gap).getLast?.any isWordChar = false := by
  rw [before, blanks]
  cases gap with
  | zero =>
    rw [List.replicate_zero, List.append_nil]
    simp only [joiningOperators, List.mem_cons, List.not_mem_nil, or_false] at joins
    rcases joins with rfl | rfl | rfl | rfl | rfl | rfl | rfl
    all_goals
      rw [List.getLast?_append_of_ne_nil _ (List.cons_ne_nil _ _)]
      decide
  | succ gap =>
    rw [List.replicate_succ', ← List.append_assoc, List.getLast?_concat]
    decide

theorem calm_behind {op : List Char} (joins : op ∈ joiningOperators) (further : String)
    (gap : Nat) : (behind gap op further).head?.any isWordChar = false := by
  rw [behind, blanks]
  cases gap with
  | zero =>
    simp only [joiningOperators, List.mem_cons, List.not_mem_nil, or_false] at joins
    rcases joins with rfl | rfl | rfl | rfl | rfl | rfl | rfl
    all_goals
      dsimp only [List.replicate_zero, List.nil_append, List.cons_append, List.head?_cons]
      decide
  | succ gap =>
    rw [List.replicate_succ]
    dsimp only [List.cons_append, List.head?_cons]
    decide

end Words

section Lone

variable {command : String} {front back op : List Char}

theorem apart_getLast?_append (more : List Char) (some_ : front ≠ []) :
    apart (more ++ front).getLast? = apart front.getLast? := by
  rw [List.getLast?_append_of_ne_nil _ some_]

theorem apart_head?_append (more : List Char) (some_ : back ≠ []) :
    apart (back ++ more).head? = apart back.head? := by
  rw [List.head?_append_of_ne_nil _ some_]

theorem LoneBehindSomething.between (lone : LoneBehindSomething command) (further : List Char) :
    HasLoneOperator (between further command []) := by
  obtain ⟨front, op, back, split, ⟨known, left, right⟩, some_⟩ := lone
  refine ⟨further ++ front, op, back, ?_, known, ?_, right⟩
  · rw [PermissionPolicy.between, String.toList_ofList, split, List.append_nil, List.append_assoc]
  · rw [apart_getLast?_append further some_, left]

theorem LoneBeforeSomething.between (lone : LoneBeforeSomething command) (further : List Char) :
    HasLoneOperator (between [] command further) := by
  obtain ⟨front, op, back, split, ⟨known, left, right⟩, some_⟩ := lone
  refine ⟨front, op, back ++ further, ?_, known, left, ?_⟩
  · rw [PermissionPolicy.between, String.toList_ofList, split, List.nil_append, List.append_assoc,
      List.append_assoc]
  · rw [apart_head?_append further some_, right]

theorem chainOperator_begins (known : op ∈ chainOperators) {rest : List Char}
    (begins : '&' :: rest = op ++ back) : rest = '&' :: back := by
  simp only [chainOperators, List.mem_cons, List.not_mem_nil, or_false] at known
  rcases known with rfl | rfl | rfl | rfl | rfl | rfl
  all_goals simp only [List.cons_append, List.nil_append, List.cons.injEq] at begins
  all_goals first | exact begins.2 | exact absurd begins.1 (by decide)

theorem chainOperator_ends (known : op ∈ chainOperators) {rest : List Char}
    (ends : rest ++ ['&'] = front ++ op) : rest = front ++ ['&'] := by
  obtain rfl : op = ['&', '&'] := by
    have last := congrArg List.getLast? ends
    simp only [chainOperators, List.mem_cons, List.not_mem_nil, or_false] at known
    rcases known with rfl | rfl | rfl | rfl | rfl | rfl
    all_goals simp only [List.getLast?_append, List.getLast?_cons_cons, List.getLast?_singleton,
      Option.some_or, Option.some.injEq] at last
    all_goals first | rfl | exact absurd last (by decide)
  rw [List.append_cons front] at ends
  exact List.append_cancel_right ends

/-- `z&` before a command makes no operator stand alone that did not stand alone behind
something already. -/
theorem loneBehindSomething_of_before (lone : HasLoneOperator command)
    (joined : HasLoneOperator (between ['z', '&'] command [])) : LoneBehindSomething command := by
  obtain ⟨front, op, back, split, known, left, right⟩ := joined
  rw [PermissionPolicy.between, String.toList_ofList, List.append_nil] at split
  match front, split, left with
  | [], split, _ =>
    simp only [chainOperators, List.mem_cons, List.not_mem_nil, or_false] at known
    rcases known with rfl | rfl | rfl | rfl | rfl | rfl
    all_goals exact absurd (List.cons.inj split).1 (by decide)
  | [c], split, _ =>
    -- the command begins with a single `&`, so its own operator stands behind that
    have single : command.toList = '&' :: back :=
      chainOperator_begins known (List.cons.inj split).2
    obtain ⟨front', op', back', split', known', left', right'⟩ := lone
    refine ⟨front', op', back', split', ⟨known', left', right'⟩, ?_⟩
    rintro rfl
    rw [single] at split'
    rw [chainOperator_begins known' split'] at right
    cases right
  | [c, d], split, left =>
    obtain ⟨rfl, -⟩ := List.cons.inj (List.cons.inj split).2
    cases left
  | c :: d :: e :: front, split, left =>
    exact ⟨e :: front, op, back, (List.cons.inj (List.cons.inj split).2).2,
      ⟨known, left, right⟩, List.cons_ne_nil _ _⟩

/-- `&z` behind a command makes no operator stand alone that did not stand alone before
something already. -/
theorem loneBeforeSomething_of_behind (lone : HasLoneOperator command)
    (joined : HasLoneOperator (between [] command ['&', 'z'])) : LoneBeforeSomething command := by
  obtain ⟨front, op, back, split, known, left, right⟩ := joined
  rw [PermissionPolicy.between, String.toList_ofList, List.nil_append] at split
  rcases List.eq_nil_or_concat back with rfl | ⟨back, c, rfl⟩
  · have last := congrArg List.getLast? split
    simp only [chainOperators, List.mem_cons, List.not_mem_nil, or_false] at known
    rcases known with rfl | rfl | rfl | rfl | rfl | rfl
    all_goals simp at last
  rw [List.concat_eq_append, List.append_cons _ '&', ← List.append_assoc, ← List.append_assoc]
    at split
  obtain ⟨split, -⟩ := List.append_inj' split rfl
  rcases List.eq_nil_or_concat back with rfl | ⟨back, d, rfl⟩
  · -- the command ends with a single `&`, so its own operator stands before that
    rw [List.append_nil] at split
    have single : command.toList = front ++ ['&'] := chainOperator_ends known split
    obtain ⟨front', op', back', split', known', left', right'⟩ := lone
    refine ⟨front', op', back', split', ⟨known', left', right'⟩, ?_⟩
    rintro rfl
    rw [single, List.append_nil] at split'
    rw [chainOperator_ends known' split', List.getLast?_concat] at left
    cases left
  · rw [List.concat_eq_append, ← List.append_assoc] at split
    obtain ⟨parts, same⟩ := List.append_inj' split rfl
    obtain rfl : d = '&' := (List.cons.inj same).1.symm
    cases back with
    | nil => cases right
    | cons e back =>
      refine ⟨front, op, e :: back, ?_, ⟨known, left, right⟩, List.cons_ne_nil _ _⟩
      rw [parts, List.append_assoc]

end Lone

/-- A dangerous command stays dangerous when a word makes it so, or an operator that stands
alone both behind and before something. -/
theorem staysDangerous_iff (command : String) : StaysDangerous command ↔
    HasDangerousWord command ∨ ¬ HasLoneOperator command ∨
      (LoneBehindSomething command ∧ LoneBeforeSomething command) := by
  constructor
  · intro stays
    by_cases word : HasDangerousWord command
    · exact .inl word
    by_cases lone : HasLoneOperator command
    · have joins : ['&'] ∈ joiningOperators := by decide
      have letter : "z".toList = ['z'] := by decide
      obtain ⟨joined, joined'⟩ :=
        stays ((dangerous_iff_lone_or_word command).mpr (.inl lone)) "z" ['&'] 0 joins
      rw [dangerous_iff_lone_or_word, before, letter] at joined
      rw [dangerous_iff_lone_or_word, behind, letter] at joined'
      have noWord := joined.resolve_right fun found => word
        (found.of_between (by decide) rfl (by decide) (by decide))
      have noWord' := joined'.resolve_right fun found => word
        (found.of_between rfl (by decide) (by decide) (by decide))
      exact .inr (.inr ⟨loneBehindSomething_of_before lone noWord,
        loneBeforeSomething_of_behind lone noWord'⟩)
    · exact .inr (.inl lone)
  · rintro stays dangerous further op gap joins
    rw [dangerous_iff_lone_or_word] at dangerous
    simp only [dangerous_iff_lone_or_word]
    rcases stays with word | plain | ⟨follows, precedes⟩
    · exact ⟨.inr (word.between (calm_before joins further gap) rfl),
        .inr (word.between rfl (calm_behind joins further gap))⟩
    · have word := dangerous.resolve_left plain
      exact ⟨.inr (word.between (calm_before joins further gap) rfl),
        .inr (word.between rfl (calm_behind joins further gap))⟩
    · exact ⟨.inl (follows.between _), .inl (precedes.between _)⟩

/-! ### The shell policy -/

/-- A shell command and the decision on it are as the policy wants them: a second command is
seen, a further command takes no danger away, a denial by the shell or the mode rule stays one,
and what is allowed is what the outcome allows. -/
structure ShellPolicyHolds (input : ShellPermissionDecisionInput) : Prop where
  seen : runsSecondCommand input.command = true →
    (classifyDangerousShellCommand input.command).dangerous = true
  stays : StaysDangerous input.command
  denied : RulesDeny input → (decideShellPermission input).outcome = .deny
  agrees : (decideShellPermission input).allowed = true ↔
    (decideShellPermission input).outcome = .allow

/-- When the shell policy holds: the command runs no second command, or an operator stands
alone in it or a word is dangerous; an operator that stands alone does so both behind and before
something, unless a word is dangerous; and no denial meets a dangerous command that waits for an
approval. -/
theorem shell_policy_holds_iff (input : ShellPermissionDecisionInput) :
    ShellPolicyHolds input ↔
      (runsSecondCommand input.command = true →
        HasLoneOperator input.command ∨ HasDangerousWord input.command) ∧
      (HasDangerousWord input.command ∨ ¬ HasLoneOperator input.command ∨
        (LoneBehindSomething input.command ∧ LoneBeforeSomething input.command)) ∧
      ¬ (RulesDeny input ∧ (HasLoneOperator input.command ∨ HasDangerousWord input.command) ∧
        input.humanApprovalBridgeAvailable = true ∧ input.humanApproved = false) := by
  rw [← staysDangerous_iff, ← dangerous_iff_lone_or_word, ← denial_stays_iff]
  constructor
  · intro holds
    exact ⟨holds.seen, holds.stays, holds.denied⟩
  · rintro ⟨seen, stays, denied⟩
    exact ⟨seen, stays, denied, decideShellPermission_allowed_iff input⟩

/-- A command that runs another beside it is not seen; a dangerous substitution is hidden by a
command before it; and a denied mode waits for an approval once the command is dangerous. -/
theorem shell_policy_misses :
    ¬ ShellPolicyHolds { intent := .general, command := "a & b" } ∧
      ¬ ShellPolicyHolds { intent := .general, command := "$(x)" } ∧
      ¬ ShellPolicyHolds
        { intent := .general
          command := "a; b"
          requestedMode := some .auditDiagnosticOnly
          humanApprovalBridgeAvailable := true } := by
  refine ⟨fun holds => ?_, fun holds => ?_, fun holds => ?_⟩
  · have seen := holds.seen (by decide)
    exact absurd seen (by decide)
  · have joined := (holds.stays (by decide) "a" ['&'] 0 (by decide)).1
    exact absurd joined (by decide)
  · have denied := holds.denied (.inr ⟨by decide, .inl rfl⟩)
    exact absurd denied (by decide)

end AifHandoff.Shared.PermissionPolicy
