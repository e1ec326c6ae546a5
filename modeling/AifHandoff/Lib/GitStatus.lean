import AifHandoff.Lib.PathPattern
import Mathlib.Tactic.SplitIfs

/-!
The lines in which git lists changes.

`git status --porcelain` writes two status letters, a blank and the path, and for a rename the
path before it and an arrow. A path with special characters is written between quotes; in a
status line so is one with a blank.
-/

namespace AifHandoff.Git

open PathPattern

/-! ### Quoted paths -/

def octalDigit (n : Nat) : Char := Char.ofNat ('0'.toNat + n % 8)

/-- A byte as a backslash and three digits. -/
def octal (byte : Nat) : List Char :=
  ['\\', octalDigit (byte / 64), octalDigit (byte / 8), octalDigit byte]

/-- The characters that are written by a letter. -/
def letters : List (Char × Char) :=
  [('"', '"'), ('\\', '\\'), ('\t', 't'), ('\n', 'n'), ('\r', 'r'), ('\u0007', 'a'),
    ('\u0008', 'b'), ('\u000B', 'v'), ('\u000C', 'f')]

/-- A character between quotes. -/
def escapeChar (c : Char) : List Char :=
  match letters.lookup c with
  | some letter => ['\\', letter]
  | none =>
    if 32 ≤ c.toNat ∧ c.toNat < 127 then [c]
    else (String.utf8EncodeChar c).flatMap fun byte => octal byte.toNat

/-- The character makes a path a quoted one. -/
def isSpecial (c : Char) : Bool := c = '"' || c = '\\' || c.toNat < 32 || 127 ≤ c.toNat

/-- A path as git writes it, between quotes where it has to be. -/
def quotePath (quoteBlanks : Bool) (path : String) : String :=
  if path.toList.any isSpecial || (quoteBlanks && path.toList.contains ' ') then
    String.ofList ('"' :: path.toList.flatMap escapeChar ++ ['"'])
  else path

/-- A printable ASCII character. -/
def Printed (c : Char) : Prop := 32 ≤ c.toNat ∧ c.toNat < 127

theorem printed_octalDigit (n : Nat) : Printed (octalDigit n) := by
  have digit : ∀ d < 8, Printed (Char.ofNat ('0'.toNat + d)) := by
    unfold Printed
    decide
  exact digit (n % 8) (Nat.mod_lt n (by decide))

theorem printed_octal {byte : Nat} {c : Char} (inside : c ∈ octal byte) : Printed c := by
  simp only [octal, List.mem_cons, List.not_mem_nil, or_false] at inside
  rcases inside with rfl | rfl | rfl | rfl
  · unfold Printed
    decide
  · exact printed_octalDigit _
  · exact printed_octalDigit _
  · exact printed_octalDigit _

theorem printed_letter {c letter : Char} (found : letters.lookup c = some letter) :
    Printed letter := by
  have each : ∀ entry ∈ letters, Printed entry.2 := by
    unfold Printed
    decide
  obtain ⟨before, after, split, -⟩ := List.lookup_eq_some_iff.mp found
  exact each (c, letter) (by rw [split]; simp)

theorem printed_escapeChar {c d : Char} (inside : d ∈ escapeChar c) : Printed d := by
  rw [escapeChar] at inside
  split at inside
  · rename_i letter found
    rcases List.mem_cons.mp inside with rfl | isLetter
    · unfold Printed
      decide
    · rw [List.mem_singleton.mp isLetter]
      exact printed_letter found
  · split_ifs at inside with plain
    · rw [List.mem_singleton.mp inside]
      exact plain
    · obtain ⟨byte, -, inside⟩ := List.mem_flatMap.mp inside
      exact printed_octal inside

theorem printed_of_not_special {c : Char} (plain : isSpecial c = false) : Printed c := by
  simp only [isSpecial, Bool.or_eq_false_iff, decide_eq_false_iff_not] at plain
  unfold Printed
  omega

theorem printed_quote : Printed '"' := by
  unfold Printed
  decide

theorem printed_quotePath {quoteBlanks : Bool} {path : String} {c : Char}
    (inside : c ∈ (quotePath quoteBlanks path).toList) : Printed c := by
  rw [quotePath] at inside
  split_ifs at inside with quoted
  · rw [String.toList_ofList] at inside
    simp only [List.cons_append, List.mem_cons, List.mem_append, List.mem_flatMap,
      List.not_mem_nil, or_false] at inside
    rcases inside with rfl | ⟨_, _, escaped⟩ | rfl
    · exact printed_quote
    · exact printed_escapeChar escaped
    · exact printed_quote
  · rw [Bool.not_eq_true, Bool.or_eq_false_iff, List.any_eq_false] at quoted
    exact printed_of_not_special (by simpa using quoted.1 c inside)

theorem no_blank_of_plain {path : String}
    (plain : ¬ (path.toList.any isSpecial || (true && path.toList.contains ' ')) = true) :
    ∀ c ∈ path.toList, c ≠ ' ' := by
  rw [Bool.not_eq_true, Bool.or_eq_false_iff, Bool.true_and] at plain
  rintro c inside rfl
  rw [List.contains_iff_mem.mpr inside] at plain
  cases plain.2

theorem quotePath_edges {path : String} (some_ : path ≠ "") :
    (∃ c rest, (quotePath true path).toList = c :: rest ∧ c ≠ ' ') ∧
      ∃ front c, (quotePath true path).toList = front ++ [c] ∧ c ≠ ' ' := by
  rw [quotePath]
  split_ifs with quoted
  · rw [String.toList_ofList]
    exact ⟨⟨'"', _, rfl, by decide⟩, ⟨_, '"', rfl, by decide⟩⟩
  · have inside := no_blank_of_plain quoted
    have chars : path.toList ≠ [] := fun nothing => some_ (String.toList_eq_nil_iff.mp nothing)
    constructor
    · obtain ⟨c, rest, split⟩ := List.exists_cons_of_ne_nil chars
      exact ⟨c, rest, split, inside c (by rw [split]; exact List.mem_cons_self)⟩
    · exact ⟨path.toList.dropLast, path.toList.getLast chars,
        (List.dropLast_append_getLast chars).symm, inside _ (List.getLast_mem chars)⟩

theorem escapeChar_ne_nil (c : Char) : escapeChar c ≠ [] := by
  rw [escapeChar]
  split
  · exact List.cons_ne_nil _ _
  · split_ifs
    · exact List.cons_ne_nil c []
    · obtain ⟨byte, rest, bytes⟩ := List.exists_cons_of_ne_nil (String.utf8EncodeChar_ne_nil (c := c))
      rw [bytes, List.flatMap_cons]
      exact List.cons_ne_nil _ _

theorem length_le_escaped (cs : List Char) : cs.length ≤ (cs.flatMap escapeChar).length := by
  induction cs with
  | nil => exact Nat.zero_le _
  | cons c rest ih =>
    have first := List.length_pos_of_ne_nil (escapeChar_ne_nil c)
    rw [List.flatMap_cons, List.length_append, List.length_cons]
    omega

theorem escapeChar_of_not_special {c : Char} (usual : isSpecial c = false) :
    escapeChar c = [c] := by
  have noLetter : letters.lookup c = none := by
    rw [List.lookup_eq_none_iff]
    intro entry inside
    have special : ∀ letter ∈ letters, isSpecial letter.1 = true := by decide
    rw [bne_iff_ne]
    rintro rfl
    rw [special entry inside] at usual
    cases usual
  rw [escapeChar, noLetter]
  exact if_pos (printed_of_not_special usual)

/-- A path is written as it is where nothing has to be quoted. -/
theorem quotePath_eq_self_iff {quoteBlanks : Bool} {path : String} :
    quotePath quoteBlanks path = path ↔
      (∀ c ∈ path.toList, isSpecial c = false) ∧ (quoteBlanks = true → ' ' ∉ path.toList) := by
  have unquoted : (path.toList.any isSpecial || (quoteBlanks && path.toList.contains ' ')) = false ↔
      (∀ c ∈ path.toList, isSpecial c = false) ∧ (quoteBlanks = true → ' ' ∉ path.toList) := by
    cases quoteBlanks <;> simp
  rw [← unquoted, quotePath]
  split_ifs with quoted
  · refine ⟨fun same => ?_, fun plain => absurd quoted (by rw [plain]; exact Bool.false_ne_true)⟩
    have lengths := congrArg (fun text => text.toList.length) same
    have longer := length_le_escaped path.toList
    simp only [String.toList_ofList, List.length_append, List.length_cons, List.length_nil]
      at lengths
    omega
  · exact ⟨fun _ => Bool.eq_false_iff.mpr quoted, fun _ => rfl⟩

/-! ### Status lines -/

def isStatusLetter (c : Char) : Bool := [' ', 'M', 'T', 'A', 'D', 'R', 'C', 'U', '?'].contains c

/-- A change, as `git status` lists it. -/
structure StatusEntry where
  index : Char
  worktree : Char
  path : String
  /-- The path before a rename. -/
  oldPath : Option String
  letters : isStatusLetter index = true ∧ isStatusLetter worktree = true
  changed : index ≠ ' ' ∨ worktree ≠ ' '
  repository : RepositoryPath path
  oldRepository : ∀ old ∈ oldPath, RepositoryPath old

theorem noOldPath : ∀ old ∈ (none : Option String), RepositoryPath old := nofun

/-- ` M path`. -/
def StatusEntry.edited (path : String) (repository : RepositoryPath path) : StatusEntry where
  index := ' '
  worktree := 'M'
  path
  oldPath := none
  letters := by decide
  changed := by decide
  repository
  oldRepository := noOldPath

/-- `R  old -> path`. -/
def StatusEntry.moved (old path : String) (repository : RepositoryPath path)
    (oldRepository : RepositoryPath old) : StatusEntry where
  index := 'R'
  worktree := ' '
  path
  oldPath := some old
  letters := by decide
  changed := by decide
  repository
  oldRepository := by
    intro other same
    rwa [← Option.mem_some_iff.mp same]

/-- What stands behind the first arrow. -/
def afterArrow : List Char → Option (List Char)
  | [] => none
  | c :: rest =>
    if " -> ".toList.isPrefixOf (c :: rest) then some ((c :: rest).drop 4) else afterArrow rest

theorem arrow_toList : " -> ".toList = [' ', '-', '>', ' '] := by decide

theorem isPrefixOf_eq_false {pattern text : List Char} (other : ¬ pattern <+: text) :
    pattern.isPrefixOf text = false := by
  rwa [Bool.eq_false_iff, ne_eq, List.isPrefixOf_iff_prefix]

theorem afterArrow_of_no_arrow {cs : List Char} (noArrow : ¬ " -> ".toList <:+: cs) :
    afterArrow cs = none := by
  induction cs with
  | nil => rfl
  | cons c rest ih =>
    rw [List.infix_cons_iff, not_or] at noArrow
    rw [afterArrow, isPrefixOf_eq_false noArrow.1, if_neg Bool.false_ne_true, ih noArrow.2]

theorem afterArrow_of_no_blank {cs : List Char} (noBlank : ' ' ∉ cs) : afterArrow cs = none := by
  apply afterArrow_of_no_arrow
  intro arrow
  exact noBlank (arrow.subset (by rw [arrow_toList]; exact List.mem_cons_self))

theorem afterArrow_append {cs : List Char} (noBlank : ' ' ∉ cs) (behind : List Char) :
    afterArrow (cs ++ (" -> ".toList ++ behind)) = some behind := by
  induction cs with
  | nil =>
    rw [arrow_toList]
    simp [afterArrow]
  | cons c rest ih =>
    obtain ⟨first, later⟩ := not_or.mp (mt List.mem_cons.mpr noBlank)
    have arrow : " -> ".toList.isPrefixOf (c :: (rest ++ (" -> ".toList ++ behind))) = false := by
      rw [arrow_toList, List.isPrefixOf, beq_eq_false_iff_ne.mpr first, Bool.false_and]
    rw [List.cons_append, afterArrow, arrow, if_neg Bool.false_ne_true, ih later]

theorem afterArrow_quote {front : List Char} (noArrow : ¬ " -> ".toList <:+: front)
    (behind : List Char) : afterArrow (front ++ '"' :: behind) = afterArrow behind := by
  induction front with
  | nil =>
    have other : ¬ " -> ".toList <+: '"' :: behind := by
      rw [arrow_toList, List.cons_prefix_cons]
      exact fun starts => absurd starts.1 (by decide)
    rw [List.nil_append, afterArrow, isPrefixOf_eq_false other, if_neg Bool.false_ne_true]
  | cons c rest ih =>
    rw [List.infix_cons_iff, not_or] at noArrow
    have other : ¬ " -> ".toList <+: c :: (rest ++ '"' :: behind) :=
      fun starts => noArrow.1 (Text.prefix_of_append_cons (by decide) starts)
    rw [List.cons_append, afterArrow, isPrefixOf_eq_false other, if_neg Bool.false_ne_true,
      ih noArrow.2]

theorem afterArrow_within {front : List Char} (arrow : " -> ".toList <:+: front)
    (behind : List Char) : ∃ rest, afterArrow (front ++ behind) = some (rest ++ behind) := by
  induction front with
  | nil =>
    have nothing := List.infix_nil.mp arrow
    rw [arrow_toList] at nothing
    cases nothing
  | cons c cs ih =>
    have long : 4 ≤ (c :: cs).length := by
      have shorter := arrow.length_le
      rwa [arrow_toList] at shorter
    rw [List.cons_append, afterArrow]
    split
    · refine ⟨(c :: cs).drop 4, ?_⟩
      rw [← List.cons_append, List.drop_append_of_le_length long]
    · rename_i other
      refine ih ((List.infix_cons_iff.mp arrow).resolve_left fun starts => other ?_)
      rw [List.isPrefixOf_iff_prefix, ← List.cons_append]
      exact starts.trans (List.prefix_append _ _)

theorem afterArrow_suffix {c : Char} {cs rest : List Char}
    (found : afterArrow (c :: cs) = some rest) : rest <:+ cs := by
  induction cs generalizing c with
  | nil =>
    rw [afterArrow] at found
    split at found
    · obtain rfl := Option.some.inj found
      exact List.drop_suffix 3 []
    · cases found
  | cons d ds ih =>
    rw [afterArrow] at found
    split at found
    · obtain rfl := Option.some.inj found
      exact List.drop_suffix 3 (d :: ds)
    · exact (ih found).trans (List.suffix_cons d ds)

namespace StatusEntry

/-- The text behind the letters. -/
def pathText (entry : StatusEntry) : List Char :=
  match entry.oldPath with
  | none => (quotePath true entry.path).toList
  | some old => (quotePath true old).toList ++ " -> ".toList ++ (quotePath true entry.path).toList

def line (entry : StatusEntry) : List Char :=
  entry.index :: entry.worktree :: ' ' :: entry.pathText

/-- The line without the blank before it. -/
def trimmedLine (entry : StatusEntry) : List Char :=
  if entry.index = ' ' then entry.line.tail else entry.line

end StatusEntry

/-- What `git status --porcelain` prints. -/
def statusOutput (entries : List StatusEntry) : String :=
  String.ofList (entries.flatMap fun entry => entry.line ++ ['\n'])

/-- The lines of the output once it is trimmed. -/
def trimmedLines : List StatusEntry → List (List Char)
  | [] => []
  | first :: rest => first.trimmedLine :: rest.map StatusEntry.line

theorem isSpace_of_printed {c : Char} (printed : Printed c) (some_ : c ≠ ' ') :
    Text.isSpace c = false := by
  rw [Bool.eq_false_iff, ne_eq]
  intro blank
  have wide : 0x2000 ≤ c.toNat ∨ c = ' ' ∨ ¬ Printed c := by
    rw [Text.isSpace, Bool.or_eq_true, List.contains_iff_mem, Bool.and_eq_true] at blank
    rcases blank with listed | ⟨low, -⟩
    · right
      have each : ∀ d ∈ ['\t', '\n', '\u000B', '\u000C', '\r', ' ', '\u00A0', '\u1680', '\u2028',
          '\u2029', '\u202F', '\u205F', '\u3000', '\uFEFF'], d = ' ' ∨ ¬ Printed d := by
        unfold Printed
        decide
      exact each c listed
    · exact .inl (of_decide_eq_true low)
  rcases wide with far | same | unprinted
  · exact absurd printed.2 (by omega)
  · exact some_ same
  · exact unprinted printed

theorem ne_empty_of_repositoryPath {path : String} (repository : RepositoryPath path) :
    path ≠ "" := by
  rintro rfl
  exact absurd (repository [] (List.mem_singleton_self [])) (by decide)

namespace StatusEntry

variable (entry : StatusEntry)

theorem printed_pathText : ∀ c ∈ entry.pathText, Printed c := by
  intro c inside
  rw [pathText] at inside
  split at inside
  · exact printed_quotePath inside
  · rw [List.mem_append, List.mem_append] at inside
    rcases inside with (inOld | inArrow) | inNew
    · exact printed_quotePath inOld
    · have each : ∀ d ∈ " -> ".toList, Printed d := by
        unfold Printed
        decide
      exact each c inArrow
    · exact printed_quotePath inNew

theorem starts_pathText : ∃ c rest, entry.pathText = c :: rest ∧ c ≠ ' ' := by
  rw [pathText]
  split
  · exact (quotePath_edges (ne_empty_of_repositoryPath entry.repository)).1
  · rename_i old isOld
    obtain ⟨c, rest, split, some_⟩ :=
      (quotePath_edges (ne_empty_of_repositoryPath (entry.oldRepository old isOld))).1
    exact ⟨c, _, by rw [split, List.append_assoc, List.cons_append], some_⟩

theorem ends_pathText : ∃ front c, entry.pathText = front ++ [c] ∧ c ≠ ' ' := by
  obtain ⟨front, c, split, some_⟩ :=
    (quotePath_edges (ne_empty_of_repositoryPath entry.repository)).2
  rw [pathText]
  split
  · exact ⟨front, c, split, some_⟩
  · exact ⟨_, c, by rw [split, ← List.append_assoc], some_⟩

theorem printed_letter {c : Char} (letter : isStatusLetter c = true) : Printed c := by
  have each : ∀ d ∈ [' ', 'M', 'T', 'A', 'D', 'R', 'C', 'U', '?'], Printed d := by
    unfold Printed
    decide
  exact each c (List.contains_iff_mem.mp letter)

theorem printed_line : ∀ c ∈ entry.line, Printed c := by
  intro c inside
  rw [line, List.mem_cons, List.mem_cons, List.mem_cons] at inside
  rcases inside with rfl | rfl | rfl | inside
  · exact printed_letter entry.letters.1
  · exact printed_letter entry.letters.2
  · exact printed_letter rfl
  · exact entry.printed_pathText c inside

theorem line_eq : ∃ blanks, entry.line = blanks ++ entry.trimmedLine ∧
    (∀ c ∈ blanks, Text.isSpace c = true) := by
  rw [trimmedLine]
  split
  · rename_i blank
    refine ⟨[' '], by rw [line, blank]; rfl, ?_⟩
    decide
  · exact ⟨[], rfl, by simp⟩

theorem printed_trimmedLine : ∀ c ∈ entry.trimmedLine, Printed c := by
  obtain ⟨blanks, split, -⟩ := entry.line_eq
  exact fun c inside => entry.printed_line c (by rw [split]; exact List.mem_append_right _ inside)

theorem starts_trimmedLine :
    ∃ c rest, entry.trimmedLine = c :: rest ∧ Text.isSpace c = false := by
  rw [trimmedLine]
  split
  · rename_i blank
    have some_ := entry.changed.resolve_left (not_not_intro blank)
    exact ⟨entry.worktree, _, rfl, isSpace_of_printed (printed_letter entry.letters.2) some_⟩
  · rename_i some_
    exact ⟨entry.index, _, rfl, isSpace_of_printed (printed_letter entry.letters.1) some_⟩

/-- Whatever stands before the path, the line ends with it. -/
theorem ends_of_pathText (front : List Char) :
    ∃ front' c, front ++ entry.pathText = front' ++ [c] ∧ Text.isSpace c = false := by
  obtain ⟨front', c, split, some_⟩ := entry.ends_pathText
  have printed := entry.printed_pathText c (by rw [split]; simp)
  exact ⟨front ++ front', c, by rw [split, List.append_assoc], isSpace_of_printed printed some_⟩

theorem ends_line : ∃ front c, entry.line = front ++ [c] ∧ Text.isSpace c = false :=
  entry.ends_of_pathText [entry.index, entry.worktree, ' ']

theorem ends_trimmedLine :
    ∃ front c, entry.trimmedLine = front ++ [c] ∧ Text.isSpace c = false := by
  rw [trimmedLine]
  split
  · exact entry.ends_of_pathText [entry.worktree, ' ']
  · exact entry.ends_line

end StatusEntry

/-! ### What stands behind the first arrow of a line -/

/-- A path is written as it is, or between quotes. -/
theorem plain_or_quoted (quoteBlanks : Bool) (path : String) :
    quotePath quoteBlanks path = path ∨
      ∃ body, (quotePath quoteBlanks path).toList = ('"' :: body) ++ ['"'] := by
  rw [quotePath]
  split_ifs
  · exact .inr ⟨path.toList.flatMap escapeChar, by rw [String.toList_ofList]⟩
  · exact .inl rfl

theorem quoted_of_blank {path : String} (blank : ' ' ∈ (quotePath true path).toList) :
    ∃ body, (quotePath true path).toList = ('"' :: body) ++ ['"'] := by
  rcases plain_or_quoted true path with plain | quoted
  · rw [plain] at blank
    exact absurd blank ((quotePath_eq_self_iff.mp plain).2 rfl)
  · exact quoted

theorem arrow_in_front {front : List Char} (arrow : " -> ".toList <:+: front ++ ['"']) :
    " -> ".toList <:+: front := by
  rcases List.infix_concat_iff.mp arrow with ends | inside
  · obtain ⟨before, split⟩ := ends
    have last := congrArg List.getLast? split
    rw [List.getLast?_append, arrow_toList, List.getLast?_concat] at last
    cases last
  · exact inside

theorem afterArrow_quotePath {path : String}
    (noArrow : ¬ " -> ".toList <:+: (quotePath true path).toList) :
    afterArrow (quotePath true path).toList = none ∧
      ∀ behind, afterArrow ((quotePath true path).toList ++ (" -> ".toList ++ behind)) =
        some behind := by
  rcases plain_or_quoted true path with plain | ⟨body, quoted⟩
  · have noBlank := (quotePath_eq_self_iff.mp plain).2 rfl
    rw [plain]
    exact ⟨afterArrow_of_no_blank noBlank, afterArrow_append noBlank⟩
  · rw [quoted] at noArrow ⊢
    have front : ¬ " -> ".toList <:+: '"' :: body :=
      fun inside => noArrow (List.infix_concat_iff.mpr (.inr inside))
    refine ⟨afterArrow_quote front [], fun behind => ?_⟩
    rw [List.append_assoc, List.singleton_append, afterArrow_quote front]
    exact afterArrow_append List.not_mem_nil behind

namespace StatusEntry

variable (entry : StatusEntry)

/-- Where a reader that looks for the first arrow finds the path. -/
def readText : List Char := (afterArrow entry.pathText).getD entry.pathText

/-- The only arrow that counts is that of the rename. -/
def OneArrow : Prop :=
  ¬ " -> ".toList <:+: (quotePath true (entry.oldPath.getD entry.path)).toList

variable {entry}

/-- Behind the arrow of the rename, or without one, the path is read. -/
theorem readText_of_oneArrow (oneArrow : entry.OneArrow) :
    entry.readText = (quotePath true entry.path).toList := by
  cases isOld : entry.oldPath with
  | none =>
    rw [OneArrow, isOld, Option.getD_none] at oneArrow
    rw [readText, pathText, isOld, (afterArrow_quotePath oneArrow).1, Option.getD_none]
  | some old =>
    rw [OneArrow, isOld, Option.getD_some] at oneArrow
    have text : entry.pathText =
        (quotePath true old).toList ++ (" -> ".toList ++ (quotePath true entry.path).toList) := by
      rw [pathText, isOld]
      exact List.append_assoc _ _ _
    rw [readText, text, (afterArrow_quotePath oneArrow).2, Option.getD_some]

/-- A reader that finds another arrow has too many quotes or too few. -/
theorem count_readText (otherArrow : ¬ entry.OneArrow) :
    0 < entry.readText.count '"' ∧
      entry.readText.count '"' ≠ (quotePath true entry.path).toList.count '"' := by
  rw [OneArrow, not_not] at otherArrow
  have blank : ' ' ∈ (quotePath true (entry.oldPath.getD entry.path)).toList :=
    otherArrow.subset (by rw [arrow_toList]; exact List.mem_cons_self)
  obtain ⟨body, quoted⟩ := quoted_of_blank blank
  rw [quoted] at otherArrow
  have found := afterArrow_within (arrow_in_front otherArrow)
  cases isOld : entry.oldPath with
  | none =>
    rw [isOld, Option.getD_none] at quoted
    obtain ⟨rest, read⟩ := found ['"']
    have shorter : rest ++ ['"'] <:+ body ++ ['"'] := afterArrow_suffix read
    have fewer := shorter.sublist.count_le '"'
    rw [readText, pathText, isOld, quoted, read, Option.getD_some]
    simp only [List.count_append, List.count_cons_self, List.count_nil] at fewer ⊢
    omega
  | some old =>
    rw [isOld, Option.getD_some] at quoted
    obtain ⟨rest, read⟩ := found ('"' :: (" -> ".toList ++ (quotePath true entry.path).toList))
    have text : entry.pathText =
        ('"' :: body) ++ '"' :: (" -> ".toList ++ (quotePath true entry.path).toList) := by
      rw [pathText, isOld]
      simp [quoted]
    rw [readText, text, read, Option.getD_some]
    simp only [List.count_append, List.count_cons_self]
    omega

end StatusEntry

/-! ### The output -/

theorem flatMap_newline {lines : List (List Char)} (some_ : lines ≠ []) :
    lines.flatMap (· ++ ['\n']) = List.intercalate ['\n'] lines ++ ['\n'] := by
  induction lines with
  | nil => exact absurd rfl some_
  | cons line lines ih =>
    cases lines with
    | nil => simp
    | cons next rest =>
      rw [List.flatMap_cons, ih (List.cons_ne_nil next rest), List.intercalate_cons_cons]
      simp

theorem trim_between {blanks core blanks' : List Char}
    (before : ∀ c ∈ blanks, Text.isSpace c = true) (behind : ∀ c ∈ blanks', Text.isSpace c = true)
    (starts : ∃ c rest, core = c :: rest ∧ Text.isSpace c = false)
    (ends : ∃ front c, core = front ++ [c] ∧ Text.isSpace c = false) :
    Text.trim (String.ofList (blanks ++ core ++ blanks')) = String.ofList core := by
  have left : (blanks ++ core ++ blanks').dropWhile Text.isSpace = core ++ blanks' := by
    obtain ⟨c, rest, rfl, visible⟩ := starts
    rw [List.append_assoc, List.dropWhile_append_of_pos before, List.cons_append,
      List.dropWhile_cons_of_neg (by simp [visible])]
  have right : (core ++ blanks').reverse.dropWhile Text.isSpace = core.reverse := by
    obtain ⟨front, c, rfl, visible⟩ := ends
    have behind' : ∀ d ∈ blanks'.reverse, Text.isSpace d = true :=
      fun d inside => behind d (List.mem_reverse.mp inside)
    rw [List.reverse_append, List.dropWhile_append_of_pos behind', List.reverse_append,
      List.reverse_singleton, List.singleton_append,
      List.dropWhile_cons_of_neg (by simp [visible])]
  rw [Text.trim, String.toList_ofList, left, right, List.reverse_reverse]

theorem ends_intercalate {lines : List (List Char)} (some_ : lines ≠ [])
    (ends : ∀ line ∈ lines, ∃ front c, line = front ++ [c] ∧ Text.isSpace c = false) :
    ∃ front c, List.intercalate ['\n'] lines = front ++ [c] ∧ Text.isSpace c = false := by
  induction lines with
  | nil => exact absurd rfl some_
  | cons line lines ih =>
    cases lines with
    | nil => simpa using ends line List.mem_cons_self
    | cons next rest =>
      obtain ⟨front, c, split, visible⟩ := ih (List.cons_ne_nil next rest)
        fun later inside => ends later (List.mem_cons_of_mem line inside)
      refine ⟨line ++ ['\n'] ++ front, c, ?_, visible⟩
      rw [List.intercalate_cons_cons, split]
      simp

theorem newline_not_printed : ¬ Printed '\n' := by
  unfold Printed
  decide

theorem split_trim_lines {blanks first : List Char} {rest : List (List Char)}
    (before : ∀ c ∈ blanks, Text.isSpace c = true)
    (starts : ∃ c tail, first = c :: tail ∧ Text.isSpace c = false)
    (ends : ∀ line ∈ first :: rest, ∃ front c, line = front ++ [c] ∧ Text.isSpace c = false)
    (oneLine : ∀ line ∈ first :: rest, '\n' ∉ line) :
    Text.split (Text.trim (String.ofList (((blanks ++ first) :: rest).flatMap (· ++ ['\n'])))) '\n' =
      (first :: rest).map String.ofList := by
  have output : ((blanks ++ first) :: rest).flatMap (· ++ ['\n']) =
      blanks ++ List.intercalate ['\n'] (first :: rest) ++ ['\n'] := by
    have joined := flatMap_newline (List.cons_ne_nil first rest)
    rw [List.append_assoc, ← joined]
    simp
  have begins : ∃ c tail, List.intercalate ['\n'] (first :: rest) = c :: tail ∧
      Text.isSpace c = false := by
    obtain ⟨c, tail, split, visible⟩ := starts
    cases rest with
    | nil => exact ⟨c, tail, by simpa using split, visible⟩
    | cons next rest =>
      refine ⟨c, tail ++ ['\n'] ++ List.intercalate ['\n'] (next :: rest), ?_, visible⟩
      rw [List.intercalate_cons_cons, split]
      simp
  rw [output, trim_between before (by decide) begins
    (ends_intercalate (List.cons_ne_nil first rest) ends), Text.split, String.toList_ofList,
    ← List.splitOn_eq_splitOnP, List.splitOn_intercalate '\n' oneLine (List.cons_ne_nil first rest)]

/-- The lines of the trimmed output. -/
theorem split_trim_statusOutput {entries : List StatusEntry} (some_ : entries ≠ []) :
    Text.split (Text.trim (statusOutput entries)) '\n' =
      (trimmedLines entries).map String.ofList := by
  cases entries with
  | nil => exact absurd rfl some_
  | cons first rest =>
    obtain ⟨blanks, split, before⟩ := first.line_eq
    have output : statusOutput (first :: rest) = String.ofList
        (((blanks ++ first.trimmedLine) :: rest.map StatusEntry.line).flatMap (· ++ ['\n'])) := by
      rw [statusOutput, ← split, List.flatMap_cons, List.flatMap_cons, List.flatMap_map]
    rw [output, trimmedLines]
    refine split_trim_lines before first.starts_trimmedLine ?_ ?_
    · intro line inside
      rcases List.mem_cons.mp inside with rfl | later
      · exact first.ends_trimmedLine
      · obtain ⟨entry, -, rfl⟩ := List.mem_map.mp later
        exact entry.ends_line
    · intro line inside newline
      rcases List.mem_cons.mp inside with rfl | later
      · exact newline_not_printed (first.printed_trimmedLine '\n' newline)
      · obtain ⟨entry, -, rfl⟩ := List.mem_map.mp later
        exact newline_not_printed (entry.printed_line '\n' newline)

/-! ### Trimming by lines -/

section Lines

variable {α : Type}

/-- Lines with a mark, each ended by a line feed. -/
def printedLines (lines : List (α × List Char)) : List Char := lines.flatMap (·.2 ++ ['\n'])

/-- Lines with a mark, each behind a line feed. -/
def reversedLines (lines : List (α × List Char)) : List Char := lines.flatMap ('\n' :: ·.2)

/-- What is left of the lines when white space is taken off before them. -/
def dropBlank : List (α × List Char) → List (α × List Char)
  | [] => []
  | (mark, line) :: rest =>
    match line.dropWhile Text.isSpace with
    | [] => dropBlank rest
    | left => (mark, left) :: rest

/-- The lines from behind. -/
def reversal (lines : List (α × List Char)) : List (α × List Char) :=
  (lines.map fun (mark, line) => (mark, line.reverse)).reverse

/-- What is left of the lines when their text is trimmed. -/
def trimLines (lines : List (α × List Char)) : List (α × List Char) :=
  reversal (dropBlank (reversal (dropBlank lines)))

theorem newline_isSpace : Text.isSpace '\n' = true := by decide

theorem dropWhile_printedLines (lines : List (α × List Char)) :
    (printedLines lines).dropWhile Text.isSpace = printedLines (dropBlank lines) := by
  induction lines with
  | nil => rfl
  | cons first rest ih =>
    obtain ⟨mark, line⟩ := first
    have output : printedLines ((mark, line) :: rest) = line ++ '\n' :: printedLines rest := by
      simp [printedLines]
    rw [output, List.dropWhile_append, dropBlank]
    cases left : line.dropWhile Text.isSpace with
    | nil => simp [newline_isSpace, ih]
    | cons c cs => simp [printedLines]

theorem intercalate_eq_reversedLines (line : List Char) (rest : List (α × List Char)) :
    List.intercalate ['\n'] (line :: rest.map Prod.snd) = line ++ reversedLines rest := by
  induction rest generalizing line with
  | nil => simp [reversedLines]
  | cons next rest ih =>
    rw [List.map_cons, List.intercalate_cons_cons, ih]
    simp [reversedLines]

theorem dropWhile_reversedLines (lines : List (α × List Char)) :
    (reversedLines lines).dropWhile Text.isSpace =
      List.intercalate ['\n'] ((dropBlank lines).map Prod.snd) := by
  induction lines with
  | nil => rfl
  | cons first rest ih =>
    obtain ⟨mark, line⟩ := first
    have output : reversedLines ((mark, line) :: rest) = '\n' :: (line ++ reversedLines rest) := by
      simp [reversedLines]
    rw [output, List.dropWhile_cons_of_pos newline_isSpace, List.dropWhile_append, dropBlank]
    cases left : line.dropWhile Text.isSpace with
    | nil => simpa using ih
    | cons c cs => simp [intercalate_eq_reversedLines]

theorem reverse_printedLines (lines : List (α × List Char)) :
    (printedLines lines).reverse = reversedLines (reversal lines) := by
  rw [printedLines, reversedLines, reversal, List.reverse_flatMap, ← List.map_reverse,
    List.flatMap_map]
  simp [Function.comp_def]

theorem intercalate_concat (lines : List (List Char)) (line : List Char) (some_ : lines ≠ []) :
    List.intercalate ['\n'] (lines ++ [line]) =
      List.intercalate ['\n'] lines ++ '\n' :: line := by
  induction lines with
  | nil => exact absurd rfl some_
  | cons first rest ih =>
    cases rest with
    | nil => simp
    | cons next rest =>
      rw [List.cons_append, List.cons_append, List.intercalate_cons_cons, ← List.cons_append,
        ih (List.cons_ne_nil next rest), List.intercalate_cons_cons]
      simp

theorem reverse_intercalate (lines : List (List Char)) :
    (List.intercalate ['\n'] lines).reverse =
      List.intercalate ['\n'] (lines.map List.reverse).reverse := by
  induction lines with
  | nil => rfl
  | cons first rest ih =>
    cases rest with
    | nil => simp
    | cons next rest =>
      have split : (List.map List.reverse (first :: next :: rest)).reverse =
          (List.map List.reverse (next :: rest)).reverse ++ [first.reverse] := by
        rw [List.map_cons, List.reverse_cons]
      have some_ : (List.map List.reverse (next :: rest)).reverse ≠ [] := by simp
      rw [List.intercalate_cons_cons, List.reverse_append, List.reverse_append, ih, split,
        intercalate_concat _ _ some_]
      rfl

theorem trim_printedLines (lines : List (α × List Char)) :
    Text.trim (String.ofList (printedLines lines)) =
      String.ofList (List.intercalate ['\n'] ((trimLines lines).map Prod.snd)) := by
  have marks : (trimLines lines).map Prod.snd =
      (((dropBlank (reversal (dropBlank lines))).map Prod.snd).map List.reverse).reverse := by
    rw [trimLines, reversal, List.map_reverse, List.map_map, List.map_map]
    rfl
  rw [Text.trim, String.toList_ofList, dropWhile_printedLines, reverse_printedLines,
    dropWhile_reversedLines, reverse_intercalate, marks]

theorem mem_dropBlank {lines : List (α × List Char)} {mark : α} {text : List Char}
    (left : (mark, text) ∈ dropBlank lines) :
    ∃ line, (mark, line) ∈ lines ∧ (text = line ∨ text = line.dropWhile Text.isSpace) := by
  induction lines with
  | nil => cases left
  | cons first rest ih =>
    obtain ⟨mark', line⟩ := first
    rw [dropBlank] at left
    split at left
    · obtain ⟨line, inside, cut⟩ := ih left
      exact ⟨line, List.mem_cons_of_mem _ inside, cut⟩
    · rcases List.mem_cons.mp left with same | later
      · obtain ⟨rfl, rfl⟩ := Prod.mk.inj same
        exact ⟨line, List.mem_cons_self, .inr rfl⟩
      · exact ⟨text, List.mem_cons_of_mem _ later, .inl rfl⟩

theorem mem_dropBlank_of_starts {lines : List (α × List Char)} {mark : α} {line : List Char}
    (inside : (mark, line) ∈ lines) (starts : line.dropWhile Text.isSpace = line)
    (some_ : line ≠ []) : (mark, line) ∈ dropBlank lines := by
  induction lines with
  | nil => cases inside
  | cons first rest ih =>
    obtain ⟨mark', line'⟩ := first
    rw [dropBlank]
    rcases List.mem_cons.mp inside with same | later
    · obtain ⟨rfl, rfl⟩ := Prod.mk.inj same
      rw [starts]
      split
      · exact absurd rfl some_
      · exact List.mem_cons_self
    · split
      · exact ih later
      · exact List.mem_cons_of_mem _ later

theorem mem_reversal {lines : List (α × List Char)} {mark : α} {text : List Char} :
    (mark, text) ∈ reversal lines ↔ (mark, text.reverse) ∈ lines := by
  rw [reversal, List.mem_reverse, List.mem_map]
  constructor
  · rintro ⟨⟨mark', line⟩, inside, same⟩
    obtain ⟨rfl, rfl⟩ := Prod.mk.inj same
    rwa [List.reverse_reverse]
  · exact fun inside => ⟨_, inside, by dsimp only; rw [List.reverse_reverse]⟩

/-- Both ends of the line are visible. -/
def Visible (line : List Char) : Prop :=
  line ≠ [] ∧ line.dropWhile Text.isSpace = line ∧
    line.reverse.dropWhile Text.isSpace = line.reverse

theorem mem_trimLines_of_visible {lines : List (α × List Char)} {mark : α} {line : List Char}
    (inside : (mark, line) ∈ lines) (visible : Visible line) : (mark, line) ∈ trimLines lines := by
  have front := mem_dropBlank_of_starts inside visible.2.1 visible.1
  rw [trimLines, mem_reversal]
  exact mem_dropBlank_of_starts (by rwa [mem_reversal, List.reverse_reverse]) visible.2.2
    (by simpa using visible.1)

/-- What is left of a line is part of it, and all of it if its ends are visible. -/
theorem mem_trimLines {lines : List (α × List Char)} {mark : α} {text : List Char}
    (left : (mark, text) ∈ trimLines lines) :
    ∃ line, (mark, line) ∈ lines ∧ text <:+: line ∧ (Visible line → text = line) := by
  rw [trimLines, mem_reversal] at left
  obtain ⟨back, inside, cutBack⟩ := mem_dropBlank left
  obtain ⟨line, isLine, cutFront⟩ := mem_dropBlank (mem_reversal.mp inside)
  have partFront : back.reverse <:+ line := by
    rcases cutFront with same | cut
    · exact same ▸ List.suffix_refl _
    · exact cut ▸ List.dropWhile_suffix _
  have partBack : text <+: back.reverse := by
    rw [← List.reverse_suffix, List.reverse_reverse]
    rcases cutBack with same | cut
    · exact same ▸ List.suffix_refl _
    · exact cut ▸ List.dropWhile_suffix _
  refine ⟨line, isLine, partBack.isInfix.trans partFront.isInfix, ?_⟩
  rintro ⟨-, starts, ends⟩
  have whole : back.reverse = line := by
    rcases cutFront with same | cut
    · exact same
    · rw [cut, starts]
  rw [← whole, List.reverse_reverse] at ends
  have reversed : text.reverse = back := by
    rcases cutBack with same | cut
    · exact same
    · rw [cut, ends]
  rw [← whole, ← reversed, List.reverse_reverse]

end Lines

/-! ### Lists of names -/

/-- A change, as `git diff --name-only` lists it. -/
structure DiffEntry where
  path : String
  /-- The path before a rename, of which the list says nothing. -/
  oldPath : Option String
  repository : RepositoryPath path
  oldRepository : ∀ old ∈ oldPath, RepositoryPath old

def nameLines (entries : List DiffEntry) : List (String × List Char) :=
  entries.map fun entry => (entry.path, (quotePath false entry.path).toList)

/-- What `git diff --name-only` prints. -/
def nameOutput (entries : List DiffEntry) : String := String.ofList (printedLines (nameLines entries))

/-- The names of the trimmed output, each with its path. -/
def seenNames (entries : List DiffEntry) : List (String × List Char) := trimLines (nameLines entries)

theorem mem_nameLines {entries : List DiffEntry} {path : String} {line : List Char} :
    (path, line) ∈ nameLines entries ↔
      ∃ entry ∈ entries, entry.path = path ∧ line = (quotePath false path).toList := by
  rw [nameLines, List.mem_map]
  constructor
  · rintro ⟨entry, inside, same⟩
    obtain ⟨rfl, rfl⟩ := Prod.mk.inj same
    exact ⟨entry, inside, rfl, rfl⟩
  · rintro ⟨entry, inside, rfl, rfl⟩
    exact ⟨entry, inside, rfl⟩

theorem printed_seenNames {entries : List DiffEntry} {path : String} {text : List Char}
    (seen : (path, text) ∈ seenNames entries) : ∀ c ∈ text, Printed c := by
  obtain ⟨line, isLine, part, -⟩ := mem_trimLines seen
  obtain ⟨entry, -, rfl, rfl⟩ := mem_nameLines.mp isLine
  exact fun c inside => printed_quotePath (part.subset inside)

theorem split_trim_nameOutput {entries : List DiffEntry} (some_ : seenNames entries ≠ []) :
    Text.split (Text.trim (nameOutput entries)) '\n' =
      (seenNames entries).map fun name => String.ofList name.2 := by
  have oneLine : ∀ line ∈ (seenNames entries).map Prod.snd, '\n' ∉ line := by
    intro line isLine newline
    obtain ⟨⟨path, text⟩, seen, rfl⟩ := List.mem_map.mp isLine
    exact newline_not_printed (printed_seenNames seen '\n' newline)
  rw [nameOutput, trim_printedLines, Text.split, String.toList_ofList, ← List.splitOn_eq_splitOnP]
  have lines := List.splitOn_intercalate '\n' oneLine (by simpa using some_)
  rw [seenNames] at lines ⊢
  rw [lines, List.map_map]
  rfl

theorem trim_nameOutput_eq_empty {entries : List DiffEntry} (none_ : seenNames entries = []) :
    Text.trim (nameOutput entries) = "" := by
  rw [nameOutput, trim_printedLines]
  rw [seenNames] at none_
  rw [none_]
  rfl

/-! ### Outputs with carriage returns taken off -/

theorem return_not_printed : ¬ Printed '\r' := by
  unfold Printed
  decide

theorem dropReturn_of_printed {line : List Char} (printed : ∀ c ∈ line, Printed c) :
    Text.dropReturn (String.ofList line) = String.ofList line := by
  have chars : "\r".toList = ['\r'] := by decide
  rw [Text.dropReturn, if_neg]
  rw [Text.endsWith, List.isSuffixOf_iff_suffix, chars, String.toList_ofList]
  exact fun back => return_not_printed (printed '\r' (back.subset List.mem_cons_self))

/-- Printed lines end with no carriage return. -/
theorem splitLines_of_printed {output : String} {lines : List (List Char)}
    (split : Text.split output '\n' = lines.map String.ofList)
    (printed : ∀ line ∈ lines, ∀ c ∈ line, Printed c) :
    Text.splitLines output = lines.map String.ofList := by
  have kept : ∀ line ∈ (lines.map String.ofList).dropLast, Text.dropReturn line = id line := by
    intro line inside
    obtain ⟨chars, isLine, rfl⟩ := List.mem_map.mp (List.mem_of_mem_dropLast inside)
    exact dropReturn_of_printed (printed chars isLine)
  rw [Text.splitLines, split, List.map_congr_left kept, List.map_id]
  cases isEmpty : lines.map String.ofList with
  | nil => rfl
  | cons first rest =>
    rw [List.getLast?_eq_some_getLast (List.cons_ne_nil first rest)]
    exact List.dropLast_append_getLast (List.cons_ne_nil first rest)

end AifHandoff.Git
