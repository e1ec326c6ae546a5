import AifHandoff.Lib.RegexReads
import Mathlib.Data.List.Basic

/-!
Paths by their segments, and glob patterns over them.

A directory stands above a path when its segments begin those of the path. In a glob `*` is any
text of one segment and `**` any text over segments.
-/

namespace AifHandoff.PathPattern

open Regex

/-! ### Segments -/

def segmentsOf (path : List Char) : List (List Char) := path.splitOn '/'

theorem segmentsOf_append (dir rest : List Char) :
    segmentsOf (dir ++ '/' :: rest) = segmentsOf dir ++ segmentsOf rest :=
  List.splitOn_append_cons_self dir rest

theorem intercalate_segmentsOf (path : List Char) :
    List.intercalate ['/'] (segmentsOf path) = path := List.intercalate_splitOn '/'

theorem segmentsOf_ne_nil (path : List Char) : segmentsOf path ≠ [] := List.splitOn_ne_nil '/' path

theorem intercalate_append {front : List (List Char)} (some_ : front ≠ []) (segment : List Char)
    (behind : List (List Char)) : List.intercalate ['/'] (front ++ segment :: behind) =
      List.intercalate ['/'] front ++ '/' :: List.intercalate ['/'] (segment :: behind) := by
  induction front with
  | nil => exact absurd rfl some_
  | cons first front ih =>
    cases front with
    | nil => simp [List.intercalate_cons_cons]
    | cons second front =>
      have later := ih (List.cons_ne_nil second front)
      simp only [List.cons_append, List.intercalate_cons_cons] at later ⊢
      rw [later]
      simp

/-- The segments of a directory begin those of a path exactly when it is the path or stands
before a slash of it. -/
theorem segments_prefix_iff {dir path : List Char} :
    segmentsOf dir <+: segmentsOf path ↔ path = dir ∨ dir ++ ['/'] <+: path := by
  constructor
  · rintro ⟨behind, split⟩
    have whole := intercalate_segmentsOf path
    rw [← split] at whole
    cases behind with
    | nil =>
      left
      rw [← whole, List.append_nil, intercalate_segmentsOf]
    | cons segment behind =>
      right
      rw [intercalate_append (segmentsOf_ne_nil dir), intercalate_segmentsOf] at whole
      exact ⟨List.intercalate ['/'] (segment :: behind), by rw [← whole]; simp⟩
  · rintro (rfl | ⟨rest, rfl⟩)
    · exact List.prefix_refl _
    · rw [List.append_assoc, List.singleton_append, segmentsOf_append]
      exact List.prefix_append _ _

/-- A segment that names something. -/
def isName (segment : List Char) : Bool := !segment.isEmpty && segment != ['.']

/-- A path as the repository has it. -/
def RepositoryPath (path : String) : Prop := ∀ segment ∈ segmentsOf path.toList, isName segment = true

instance : DecidablePred RepositoryPath := fun path =>
  inferInstanceAs (Decidable (∀ segment ∈ segmentsOf path.toList, isName segment = true))

theorem slash_toList : "/".toList = ['/'] := by decide

/-- A repository path begins with no slash. -/
theorem relative_of_repositoryPath {path : String} (repository : RepositoryPath path) :
    Text.startsWith path "/" = false := by
  rw [Bool.eq_false_iff, ne_eq, Text.startsWith_iff, slash_toList]
  rintro ⟨rest, split⟩
  have first : [] ∈ segmentsOf path.toList := by
    rw [← split, List.singleton_append, ← List.nil_append ('/' :: rest), segmentsOf_append]
    exact List.mem_append_left _ (List.mem_singleton_self [])
  exact absurd (repository [] first) (by decide)

theorem stripDotSlash_of_repositoryPath {path : String} (repository : RepositoryPath path) :
    Text.stripDotSlash path = path := by
  rw [Text.stripDotSlash]
  split
  · rename_i rest starts
    have first : ['.'] ∈ segmentsOf path.toList := by
      rw [starts, ← List.singleton_append, segmentsOf_append]
      exact List.mem_append_left _ (List.mem_singleton_self ['.'])
    exact absurd (repository ['.'] first) (by decide)
  · rfl

/-- `.replace(/^\/+/, "")`. -/
def stripSlashes (value : String) : String := String.ofList (value.toList.dropWhile (· == '/'))

theorem stripSlashes_of_repositoryPath {path : String} (repository : RepositoryPath path) :
    stripSlashes path = path := by
  rw [stripSlashes]
  cases split : path.toList with
  | nil => rw [List.dropWhile_nil, ← split, String.ofList_toList]
  | cons c rest =>
    have first : c ≠ '/' := by
      rintro rfl
      have relative := relative_of_repositoryPath repository
      rw [Text.startsWith, slash_toList, split] at relative
      cases relative
    rw [List.dropWhile_cons_of_neg (by simpa using first), ← split, String.ofList_toList]

theorem forwardSlashes_of_no_backslash {path : String} (none_ : '\\' ∉ path.toList) :
    Text.forwardSlashes path = path := by
  have kept : ∀ c ∈ path.toList, (if c = '\\' then '/' else c) = id c := by
    intro c inside
    refine if_neg ?_
    rintro rfl
    exact none_ inside
  rw [Text.forwardSlashes, List.map_congr_left kept, List.map_id, String.ofList_toList]

/-! ### Globs -/

inductive GlobToken where
  /-- `**`. -/
  | across
  /-- `*`. -/
  | within
  | char (c : Char)
  deriving DecidableEq

/-- The tokens of a glob, two stars before one. -/
def glob : List Char → List GlobToken
  | [] => []
  | '*' :: '*' :: rest => .across :: glob rest
  | c :: rest => (if c = '*' then .within else .char c) :: glob rest

/-- A text that the tokens stand for, where `**` is over the characters it may cross. -/
def Matches (crosses : Char → Prop) : List GlobToken → List Char → Prop
  | [], text => text = []
  | .char c :: tokens, text => ∃ rest, text = c :: rest ∧ Matches crosses tokens rest
  | .within :: tokens, text =>
    ∃ read rest, text = read ++ rest ∧ (∀ c ∈ read, c ≠ '/') ∧ Matches crosses tokens rest
  | .across :: tokens, text =>
    ∃ read rest, text = read ++ rest ∧ (∀ c ∈ read, crosses c) ∧ Matches crosses tokens rest

theorem Matches.mono {crosses more : Char → Prop} (weaker : ∀ c, crosses c → more c)
    {tokens : List GlobToken} {text : List Char} (found : Matches crosses tokens text) :
    Matches more tokens text := by
  induction tokens generalizing text with
  | nil => exact found
  | cons token tokens ih =>
    cases token with
    | char c =>
      obtain ⟨rest, split, later⟩ := found
      exact ⟨rest, split, ih later⟩
    | within =>
      obtain ⟨read, rest, split, plain, later⟩ := found
      exact ⟨read, rest, split, plain, ih later⟩
    | across =>
      obtain ⟨read, rest, split, crossed, later⟩ := found
      exact ⟨read, rest, split, fun c inside => weaker c (crossed c inside), ih later⟩

theorem matches_self {crosses : Char → Prop} (star : crosses '*') (cs : List Char) :
    Matches crosses (glob cs) cs := by
  induction cs using glob.induct with
  | case1 => rfl
  | case2 rest ih => exact ⟨['*', '*'], rest, rfl, by simp [star], ih⟩
  | case3 c rest single ih =>
    rw [glob]
    split
    · rename_i isStar
      exact ⟨[c], rest, rfl, by simp [isStar], ih⟩
    · exact ⟨rest, rfl, ih⟩
    · exact single

/-! ### The pattern of a glob -/

def GlobToken.regex : GlobToken → Regex
  | .across => many dot
  | .within => many (noneOf "/")
  | .char c => .set (· == c)

/-- The pattern of the whole text. -/
def globRegex (tokens : List GlobToken) : Regex :=
  .seq .startAnchor (cat (tokens.map GlobToken.regex ++ [.endAnchor]))

/-- What `.` reads. -/
def NoLineBreak (c : Char) : Prop := isLineTerminator c = false

theorem reads_many_set_iff {accepts : Char → Bool} {at_ next : Cursor} :
    Reads (many (.set accepts)) at_ next ↔ ReadBetween (accepts · = true) at_ next := by
  constructor
  · intro reads
    have only : AcceptsOnly (accepts · = true) (many (.set accepts)) := fun _ accepted => accepted
    exact reads.within only
  · rintro ⟨read, after, before, all⟩
    induction read generalizing at_ with
    | nil =>
      obtain rfl : next = at_ := by
        cases next
        cases at_
        simp_all
      exact .refl
    | cons c read ih =>
      have first : Reads (.set accepts) at_ ⟨c :: at_.before, read ++ next.after⟩ :=
        ⟨c, read ++ next.after, after, all c List.mem_cons_self, rfl⟩
      have shorter : (read ++ next.after).length < at_.after.length := by
        rw [after, List.cons_append]
        exact Nat.lt_succ_self _
      refine .head ⟨first, shorter⟩ (ih rfl ?_ fun d inside => all d (List.mem_cons_of_mem c inside))
      rw [before]
      simp

theorem exists_reads_many_iff {accepts : Char → Bool} {accepted : Char → Prop} {at_ : Cursor}
    {later : List Char → Prop} (same : ∀ c, accepts c = true ↔ accepted c) :
    (∃ middle, Reads (many (.set accepts)) at_ middle ∧ later middle.after) ↔
      ∃ read rest, at_.after = read ++ rest ∧ (∀ c ∈ read, accepted c) ∧ later rest := by
  simp only [reads_many_set_iff, ReadBetween, same]
  constructor
  · rintro ⟨middle, ⟨read, after, -, all⟩, found⟩
    exact ⟨read, middle.after, after, all, found⟩
  · rintro ⟨read, rest, after, all, found⟩
    exact ⟨⟨read.reverse ++ at_.before, rest⟩, ⟨read, after, rfl, all⟩, found⟩

theorem exists_reads_tokens_iff {tokens : List GlobToken} {at_ : Cursor} :
    (∃ next, Reads (cat (tokens.map GlobToken.regex ++ [.endAnchor])) at_ next) ↔
      Matches NoLineBreak tokens at_.after := by
  induction tokens generalizing at_ with
  | nil =>
    constructor
    · rintro ⟨next, middle, ⟨atEnd, -⟩, -⟩
      exact List.isEmpty_iff.mp atEnd
    · intro nothing
      exact ⟨at_, at_, ⟨List.isEmpty_iff.mpr nothing, rfl⟩, rfl⟩
  | cons token tokens ih =>
    have step : (∃ next, Reads (cat ((token :: tokens).map GlobToken.regex ++ [.endAnchor])) at_ next) ↔
        ∃ middle, Reads token.regex at_ middle ∧ Matches NoLineBreak tokens middle.after := by
      simp only [← ih]
      constructor
      · rintro ⟨next, middle, first, later⟩
        exact ⟨middle, first, next, later⟩
      · rintro ⟨middle, first, next, later⟩
        exact ⟨next, middle, first, later⟩
    rw [step]
    cases token with
    | char c =>
      constructor
      · rintro ⟨_, ⟨d, rest, after, same, rfl⟩, later⟩
        exact ⟨rest, by rw [after, beq_iff_eq.mp same], later⟩
      · rintro ⟨rest, after, later⟩
        exact ⟨⟨c :: at_.before, rest⟩, ⟨c, rest, after, beq_self_eq_true c, rfl⟩, later⟩
    | within => exact exists_reads_many_iff fun c => by simp
    | across => exact exists_reads_many_iff fun c => by simp [NoLineBreak, isLineTerminator]

theorem test_globRegex_iff {tokens : List GlobToken} {path : String} :
    test (globRegex tokens) path = true ↔ Matches NoLineBreak tokens path.toList := by
  have tail : (∃ next, Reads (cat (tokens.map GlobToken.regex ++ [.endAnchor]))
      ⟨[], path.toList⟩ next) ↔ Matches NoLineBreak tokens path.toList := exists_reads_tokens_iff
  rw [test_anchored_iff rfl, ← tail]
  constructor
  · rintro ⟨next, start, ⟨-, rfl⟩, later⟩
    exact ⟨next, later⟩
  · rintro ⟨next, later⟩
    exact ⟨next, _, ⟨rfl, rfl⟩, later⟩

end AifHandoff.PathPattern
