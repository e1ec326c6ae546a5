import AifHandoff.Lib.LexicalPath

/-!
Globs with directories and groups.

A glob is read in two ways. As a row of pieces it is what a translation to a regular expression
makes of it. As a pattern it is what a glob stands for: `*` and a group such as `!(a|b)` stay
within a segment, `**` crosses segments, and `**/` stands for any directories or none.
-/

namespace AifHandoff.GlobPatterns

open Regex PathPattern LexicalPath

/-! ### Pieces -/

inductive Piece where
  | char (c : Char)
  | optional (c : Char)
  /-- `*`. -/
  | within
  /-- `**`. -/
  | across
  /-- `**/`. -/
  | directories
deriving DecidableEq, Repr

/-- A text that a row of pieces matches, when a star that crosses segments is over some
characters only. -/
def Matches (crosses : Char → Prop) : List Piece → List Char → Prop
  | [], text => text = []
  | .char c :: pieces, text => ∃ rest, text = c :: rest ∧ Matches crosses pieces rest
  | .optional c :: pieces, text =>
    (∃ rest, text = c :: rest ∧ Matches crosses pieces rest) ∨ Matches crosses pieces text
  | .within :: pieces, text =>
    ∃ read rest, text = read ++ rest ∧ (∀ c ∈ read, c ≠ '/') ∧ Matches crosses pieces rest
  | .across :: pieces, text =>
    ∃ read rest, text = read ++ rest ∧ (∀ c ∈ read, crosses c) ∧ Matches crosses pieces rest
  | .directories :: pieces, text =>
    (∃ read rest, text = read ++ '/' :: rest ∧ (∀ c ∈ read, crosses c) ∧
      Matches crosses pieces rest) ∨ Matches crosses pieces text

def Piece.regex : Piece → Regex
  | .char c => .set (· == c)
  | .optional c => Regex.optional (.set (· == c))
  | .within => many (noneOf "/")
  | .across => many dot
  | .directories => Regex.optional (.seq (many dot) (.set (· == '/')))

/-- `new RegExp("^..$")`. -/
def wholeRegex (pieces : List Piece) : Regex :=
  .seq .startAnchor (cat (pieces.map Piece.regex ++ [.endAnchor]))

theorem exists_reads_char_iff {c : Char} {at_ : Cursor} {later : List Char → Prop} :
    (∃ middle, Reads (.set (· == c)) at_ middle ∧ later middle.after) ↔
      ∃ rest, at_.after = c :: rest ∧ later rest := by
  constructor
  · rintro ⟨_, ⟨d, rest, after, same, rfl⟩, found⟩
    exact ⟨rest, by rw [after, beq_iff_eq.mp same], found⟩
  · rintro ⟨rest, after, found⟩
    exact ⟨⟨c :: at_.before, rest⟩, ⟨c, rest, after, beq_self_eq_true c, rfl⟩, found⟩

theorem exists_reads_optional_iff {r : Regex} {at_ : Cursor} {later : List Char → Prop} :
    (∃ middle, Reads (Regex.optional r) at_ middle ∧ later middle.after) ↔
      (∃ middle, Reads r at_ middle ∧ later middle.after) ∨ later at_.after := by
  constructor
  · rintro ⟨middle, reads | rfl, found⟩
    · exact .inl ⟨middle, reads, found⟩
    · exact .inr found
  · rintro (⟨middle, reads, found⟩ | found)
    · exact ⟨middle, .inl reads, found⟩
    · exact ⟨at_, .inr rfl, found⟩

theorem exists_reads_pieces_iff {pieces : List Piece} {at_ : Cursor} :
    (∃ next, Reads (cat (pieces.map Piece.regex ++ [.endAnchor])) at_ next) ↔
      Matches NoLineBreak pieces at_.after := by
  induction pieces generalizing at_ with
  | nil =>
    constructor
    · rintro ⟨next, middle, ⟨atEnd, -⟩, -⟩
      exact List.isEmpty_iff.mp atEnd
    · intro nothing
      exact ⟨at_, at_, ⟨List.isEmpty_iff.mpr nothing, rfl⟩, rfl⟩
  | cons piece pieces ih =>
    have step : (∃ next,
          Reads (cat ((piece :: pieces).map Piece.regex ++ [.endAnchor])) at_ next) ↔
        ∃ middle, Reads piece.regex at_ middle ∧ Matches NoLineBreak pieces middle.after := by
      simp only [← ih]
      constructor
      · rintro ⟨next, middle, first, later⟩
        exact ⟨middle, first, next, later⟩
      · rintro ⟨middle, first, next, later⟩
        exact ⟨next, middle, first, later⟩
    have crossing : ∀ c, decide (c ∉ ['\n', '\r', '\u2028', '\u2029']) = true ↔
        NoLineBreak c := by
      intro c
      simp [NoLineBreak, isLineTerminator]
    rw [step]
    cases piece with
    | char c => exact exists_reads_char_iff
    | optional c => exact exists_reads_optional_iff.trans (or_congr_left exists_reads_char_iff)
    | within => exact exists_reads_many_iff fun c => by simp
    | across => exact exists_reads_many_iff crossing
    | directories =>
      refine exists_reads_optional_iff.trans (or_congr_left ?_)
      have regroup : (∃ middle, Reads (.seq (many dot) (.set (· == '/'))) at_ middle ∧
            Matches NoLineBreak pieces middle.after) ↔
          ∃ inner, Reads (many dot) at_ inner ∧
            ∃ rest, inner.after = '/' :: rest ∧ Matches NoLineBreak pieces rest := by
        simp only [← exists_reads_char_iff]
        constructor
        · rintro ⟨middle, ⟨inner, first, slash⟩, found⟩
          exact ⟨inner, first, middle, slash, found⟩
        · rintro ⟨inner, first, middle, slash, found⟩
          exact ⟨middle, ⟨inner, first, slash⟩, found⟩
      have slashBehind := @exists_reads_many_iff _ _ at_
        (fun behind => ∃ rest, behind = '/' :: rest ∧ Matches NoLineBreak pieces rest) crossing
      refine regroup.trans (slashBehind.trans ?_)
      constructor
      · rintro ⟨read, _, split, all, rest, rfl, found⟩
        exact ⟨read, rest, split, all, found⟩
      · rintro ⟨read, rest, split, all, found⟩
        exact ⟨read, _, split, all, rest, rfl, found⟩

theorem test_pieces_iff {pieces : List Piece} {path : String} :
    test (wholeRegex pieces) path = true ↔ Matches NoLineBreak pieces path.toList := by
  have tail : (∃ next, Reads (cat (pieces.map Piece.regex ++ [.endAnchor]))
      ⟨[], path.toList⟩ next) ↔ Matches NoLineBreak pieces path.toList := exists_reads_pieces_iff
  rw [test_anchored_iff rfl, ← tail]
  constructor
  · rintro ⟨next, start, ⟨-, rfl⟩, later⟩
    exact ⟨next, later⟩
  · rintro ⟨next, later⟩
    exact ⟨next, _, ⟨rfl, rfl⟩, later⟩

theorem Matches.congr {crosses crosses' : Char → Prop} {pieces : List Piece} {text : List Char}
    (same : ∀ c ∈ text, crosses c ↔ crosses' c) :
    Matches crosses pieces text ↔ Matches crosses' pieces text := by
  induction pieces generalizing text with
  | nil => exact Iff.rfl
  | cons piece pieces ih =>
    have behind : ∀ read rest, text = read ++ rest →
        (Matches crosses pieces rest ↔ Matches crosses' pieces rest) := by
      rintro read rest rfl
      exact ih fun c inside => same c (List.mem_append_right _ inside)
    have front : ∀ read rest, text = read ++ rest →
        ((∀ c ∈ read, crosses c) ↔ ∀ c ∈ read, crosses' c) := by
      rintro read rest rfl
      exact forall₂_congr fun c inside => same c (List.mem_append_left _ inside)
    cases piece with
    | char c =>
      exact exists_congr fun rest => and_congr_right fun split => behind [c] rest split
    | optional c =>
      exact or_congr (exists_congr fun rest => and_congr_right fun split =>
        behind [c] rest split) (ih same)
    | within =>
      exact exists₂_congr fun read rest => and_congr_right fun split =>
        and_congr_right fun _ => behind read rest split
    | across =>
      exact exists₂_congr fun read rest => and_congr_right fun split =>
        and_congr (front read rest split) (behind read rest split)
    | directories =>
      refine or_congr (exists₂_congr fun read rest => and_congr_right fun split =>
        and_congr (front read _ split) ?_) (ih same)
      exact behind (read ++ ['/']) rest (by rw [split, List.append_assoc]; rfl)

/-! ### Patterns -/

inductive GroupKind where
  | optional | many | some | one | none
deriving DecidableEq, Repr

/-- What a glob is made of. -/
inductive Pattern where
  | empty
  | char (c : Char)
  | within
  | across
  | directories
  | seq (left right : Pattern)
  | alt (left right : Pattern)
  | group (kind : GroupKind) (body : Pattern)

/-- A text is put together from parts with a property. -/
def MadeOf (part : List Char → Prop) (text : List Char) : Prop :=
  ∃ parts : List (List Char), text = parts.flatten ∧ ∀ one ∈ parts, part one

/-- A text that a group stands for; it stays within a segment. -/
def GroupKind.Reads (kind : GroupKind) (body : List Char → Prop) (text : List Char) : Prop :=
  '/' ∉ text ∧
    match kind with
    | .optional => text = [] ∨ body text
    | .many => MadeOf body text
    | .some => ∃ first rest, text = first ++ rest ∧ body first ∧ MadeOf body rest
    | .one => body text
    | .none => ¬ body text

/-- A text that a pattern stands for. -/
def Pattern.Reads : Pattern → List Char → Prop
  | .empty, text => text = []
  | .char c, text => text = [c]
  | .within, text => '/' ∉ text
  | .across, _ => True
  | .directories, text => text = [] ∨ ∃ dir, text = dir ++ ['/']
  | .seq left right, text =>
    ∃ front back, text = front ++ back ∧ Reads left front ∧ Reads right back
  | .alt left right, text => Reads left text ∨ Reads right text
  | .group kind body, text => kind.Reads (Reads body) text

def groupKind : Char → Option GroupKind
  | '?' => some .optional
  | '*' => some .many
  | '+' => some .some
  | '@' => some .one
  | '!' => some .none
  | _ => none

/-- What stands before the parenthesis that closes a group, and what stands behind it. -/
def closeGroup : Nat → List Char → Option (List Char × List Char)
  | _, [] => none
  | depth, c :: rest =>
    if c = ')' then
      match depth with
      | 0 => some ([], rest)
      | depth + 1 => (closeGroup depth rest).map fun (body, behind) => (c :: body, behind)
    else if c = '(' then
      (closeGroup (depth + 1) rest).map fun (body, behind) => (c :: body, behind)
    else (closeGroup depth rest).map fun (body, behind) => (c :: body, behind)

/-- The alternatives of a group. -/
def alternatives : Nat → List Char → List (List Char)
  | _, [] => [[]]
  | depth, c :: rest =>
    if c = '|' ∧ depth = 0 then [] :: alternatives 0 rest
    else
      let inner := if c = '(' then depth + 1 else if c = ')' then depth - 1 else depth
      (alternatives inner rest).modifyHead (c :: ·)

/-- The group that begins with a character, and what stands behind it. -/
def groupAt (c : Char) : List Char → Option (GroupKind × List Char × List Char)
  | '(' :: rest =>
    match groupKind c, closeGroup 0 rest with
    | some kind, some (body, behind) => some (kind, body, behind)
    | _, _ => none
  | _ => none

/-- One of some patterns. -/
def anyPattern : List Pattern → Pattern
  | [] => .group .none .across
  | [pattern] => pattern
  | pattern :: patterns => .alt pattern (anyPattern patterns)

/-- The pattern of a glob; more fuel than characters is enough. -/
def readPattern : Nat → List Char → Pattern
  | 0, _ => .empty
  | _ + 1, [] => .empty
  | fuel + 1, c :: rest =>
    match groupAt c rest with
    | some (kind, body, behind) =>
      .seq (.group kind (anyPattern ((alternatives 0 body).map (readPattern fuel))))
        (readPattern fuel behind)
    | none =>
      match c, rest with
      | '*', '*' :: '/' :: rest => .seq .directories (readPattern fuel rest)
      | '*', '*' :: rest => .seq .across (readPattern fuel rest)
      | c, rest => .seq (if c = '*' then .within else .char c) (readPattern fuel rest)

def readGlob (glob : List Char) : Pattern := readPattern (glob.length + 1) glob

/-- The pieces of a glob, read once from left to right. -/
def tokens : List Char → List Piece
  | '*' :: '*' :: '/' :: rest => .directories :: tokens rest
  | '*' :: '*' :: rest => .across :: tokens rest
  | c :: rest => (if c = '*' then .within else .char c) :: tokens rest
  | [] => []

section Groupless

variable {text : List Char} {next : Pattern} {pieces : List Piece}

/-- What a pattern stands for is what pieces match. -/
def Agree (pattern : Pattern) (pieces : List Piece) : Prop :=
  ∀ text, pattern.Reads text ↔ Matches (fun _ => True) pieces text

theorem agree_char (c : Char) (later : Agree next pieces) :
    Agree (.seq (.char c) next) (.char c :: pieces) := by
  intro text
  constructor
  · rintro ⟨front, back, rfl, rfl, reads⟩
    exact ⟨back, rfl, (later back).mp reads⟩
  · rintro ⟨rest, rfl, found⟩
    exact ⟨[c], rest, rfl, rfl, (later rest).mpr found⟩

theorem agree_within (later : Agree next pieces) :
    Agree (.seq .within next) (.within :: pieces) := by
  intro text
  refine exists₂_congr fun front back => and_congr_right fun _ => and_congr ?_ (later back)
  exact ⟨fun plain c inside same => plain (same ▸ inside), fun plain inside => plain _ inside rfl⟩

theorem agree_across (later : Agree next pieces) :
    Agree (.seq .across next) (.across :: pieces) := by
  intro text
  refine exists₂_congr fun front back => and_congr_right fun _ => and_congr ?_ (later back)
  exact ⟨fun _ _ _ => trivial, fun _ => trivial⟩

theorem agree_directories (later : Agree next pieces) :
    Agree (.seq .directories next) (.directories :: pieces) := by
  intro text
  constructor
  · rintro ⟨front, back, rfl, rfl | ⟨dir, rfl⟩, reads⟩
    · exact .inr ((later back).mp reads)
    · refine .inl ⟨dir, back, ?_, fun _ _ => trivial, (later back).mp reads⟩
      rw [List.append_assoc]
      rfl
  · rintro (⟨read, rest, rfl, -, found⟩ | found)
    · refine ⟨read ++ ['/'], rest, ?_, .inr ⟨read, rfl⟩, (later rest).mpr found⟩
      rw [List.append_assoc]
      rfl
    · exact ⟨[], text, rfl, .inl rfl, (later text).mpr found⟩

theorem groupAt_eq_none {c : Char} {rest : List Char} (none_ : '(' ∉ rest) :
    groupAt c rest = none := by
  cases rest with
  | nil => rfl
  | cons d rest =>
    rw [List.mem_cons, not_or] at none_
    rw [groupAt]
    rintro later ⟨⟩
    exact none_.1 rfl

/-- A glob without groups stands for what its pieces match. -/
theorem agree_readPattern {glob : List Char} (none_ : '(' ∉ glob) {fuel : Nat}
    (enough : glob.length < fuel) : Agree (readPattern fuel glob) (tokens glob) := by
  obtain ⟨fuel, rfl⟩ : ∃ n, fuel = n + 1 := ⟨fuel - 1, by omega⟩
  induction glob using tokens.induct generalizing fuel with
  | case1 rest ih =>
    simp only [List.mem_cons, not_or] at none_
    simp only [List.length_cons] at enough
    obtain ⟨fuel, rfl⟩ : ∃ n, fuel = n + 1 := ⟨fuel - 1, by omega⟩
    exact agree_directories (ih none_.2.2.2 fuel (by omega))
  | case2 rest notSlash ih =>
    simp only [List.mem_cons, not_or] at none_
    simp only [List.length_cons] at enough
    obtain ⟨fuel, rfl⟩ : ∃ n, fuel = n + 1 := ⟨fuel - 1, by omega⟩
    have noGroup : groupAt '*' ('*' :: rest) = none := rfl
    rw [readPattern, noGroup, tokens]
    · exact agree_across (ih none_.2.2 fuel (by omega))
    all_goals exact notSlash
  | case3 c rest notDirectories notAcross ih =>
    rw [List.mem_cons, not_or] at none_
    simp only [List.length_cons] at enough
    obtain ⟨fuel, rfl⟩ : ∃ n, fuel = n + 1 := ⟨fuel - 1, by omega⟩
    rw [readPattern, groupAt_eq_none none_.2, tokens]
    · have later := ih none_.2 fuel (by omega)
      by_cases star : c = '*'
      · rw [if_pos star, if_pos star]
        exact agree_within later
      · rw [if_neg star, if_neg star]
        exact agree_char c later
    all_goals first | exact notDirectories | exact notAcross
  | case4 => exact fun text => Iff.rfl

theorem reads_readGlob_iff {glob : List Char} (none_ : '(' ∉ glob) (text : List Char) :
    (readGlob glob).Reads text ↔ Matches (fun _ => True) (tokens glob) text :=
  agree_readPattern none_ (Nat.lt_succ_self _) text

end Groupless

/-! ### Rows of stars -/

/-- `*`, `*/*`, `*/*/*` and so on. -/
def row : Nat → List Char
  | 0 => ['*']
  | n + 1 => '*' :: '/' :: row n

theorem matches_within_iff {crosses : Char → Prop} {pieces : List Piece} {text : List Char} :
    Matches crosses (.within :: .char '/' :: pieces) text ↔
      ∃ read rest, text = read ++ '/' :: rest ∧ '/' ∉ read ∧ Matches crosses pieces rest := by
  constructor
  · rintro ⟨read, _, rfl, plain, rest, rfl, found⟩
    exact ⟨read, rest, rfl, fun inside => plain _ inside rfl, found⟩
  · rintro ⟨read, rest, rfl, plain, found⟩
    exact ⟨read, _, rfl, fun c inside same => plain (same ▸ inside), rest, rfl, found⟩

/-- A row of stars counts the slashes. -/
theorem matches_row_iff {crosses : Char → Prop} (n : Nat) (text : List Char) :
    Matches crosses (tokens (row n)) text ↔ text.count '/' = n := by
  induction n generalizing text with
  | zero =>
    rw [List.count_eq_zero]
    constructor
    · rintro ⟨read, _, rfl, plain, rfl⟩ inside
      rw [List.append_nil] at inside
      exact plain _ inside rfl
    · intro plain
      have within : ∀ c ∈ text, c ≠ '/' := fun c inside same => plain (same ▸ inside)
      exact ⟨text, [], (List.append_nil text).symm, within, rfl⟩
  | succ n ih =>
    have pieces : tokens (row (n + 1)) = .within :: .char '/' :: tokens (row n) := rfl
    rw [pieces, matches_within_iff]
    constructor
    · rintro ⟨read, rest, rfl, plain, found⟩
      rw [List.count_append, List.count_cons_self, List.count_eq_zero.mpr plain,
        (ih rest).mp found, Nat.zero_add]
    · intro count
      have some_ : '/' ∈ text := List.count_pos_iff.mp (by omega)
      obtain ⟨read, rest, rfl, plain⟩ := List.eq_append_cons_of_mem some_
      refine ⟨read, rest, rfl, plain, (ih rest).mpr ?_⟩
      rw [List.count_append, List.count_cons_self, List.count_eq_zero.mpr plain] at count
      omega

end AifHandoff.GlobPatterns
