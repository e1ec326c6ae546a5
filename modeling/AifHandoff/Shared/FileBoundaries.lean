import AifHandoff.Lib.CaseFolding
import AifHandoff.Lib.GlobPatterns
import AifHandoff.Lib.RelativePath
import AifHandoff.Shared.PermissionPolicy

/-!
File boundaries: which paths a policy lets a task write (`shared/permissionPolicy.ts`).

A path is compared as a text: backslashes become slashes, one leading `./` goes, letters are
lower-cased, and a glob is translated to a regular expression. What a path denotes is its
settled form (`fileOf`), and what a glob stands for is its pattern (`readGlob`).
-/

namespace AifHandoff.Shared.PermissionPolicy

open Regex LexicalPath GlobPatterns
open PathPattern hiding Matches

/-! ### The code -/

def normalizePolicyPath (path : String) : String := Text.stripDotSlash (Text.forwardSlashes path)

/-- `.replaceAll("**/", "\u0000")`. -/
def directoriesPass : List Char → List Char
  | '*' :: '*' :: '/' :: rest => '\x00' :: directoriesPass rest
  | c :: rest => c :: directoriesPass rest
  | [] => []

/-- `.replaceAll("**", "\u0001")`. -/
def acrossPass : List Char → List Char
  | '*' :: '*' :: rest => '\x01' :: acrossPass rest
  | c :: rest => c :: acrossPass rest
  | [] => []

/-- `.replaceAll("*", "\u0002")`. -/
def withinPass (cs : List Char) : List Char := cs.map fun c => if c = '*' then '\x02' else c

/-- What a character of the translated glob stands for. The escaped characters stand for
themselves. -/
def pieceOf (c : Char) : Piece :=
  if c = '\x00' then .directories
  else if c = '\x01' then .across
  else if c = '\x02' then .within
  else .char c

/-- The regular expression of the translated glob, `none` where there is none. A `?` is not
escaped: it makes a character optional and the other pieces lazy. -/
def piecesOf : List Char → Option (List Piece)
  | [] => some []
  | '?' :: _ => none
  | c :: '?' :: rest =>
    match pieceOf c, rest with
    | .char c, '?' :: rest => (piecesOf rest).map (.optional c :: ·)
    | .char c, rest => (piecesOf rest).map (.optional c :: ·)
    | piece, rest => (piecesOf rest).map (piece :: ·)
  | c :: rest => (piecesOf rest).map (pieceOf c :: ·)

def globPieces (glob : List Char) : Option (List Piece) :=
  piecesOf (withinPass (acrossPass (directoriesPass glob)))

section Matching

variable (casing : Text.LowerCasing)

/-- `none` when the regular expression is refused. -/
def pathMatchesGlob (path glob : String) : Option Bool :=
  let normalizedPath := casing.toLowerCase (normalizePolicyPath path)
  let normalizedGlob := casing.toLowerCase (normalizePolicyPath glob)
  if normalizedGlob = "**/*" then some true
  else (globPieces normalizedGlob.toList).map fun pieces => test (wholeRegex pieces) normalizedPath

/-- `globs.some(..)` with a test that may throw. -/
def someOf (test : String → Option Bool) : List String → Option Bool
  | [] => some false
  | glob :: globs =>
    match test glob with
    | none => none
    | some true => some true
    | some false => someOf test globs

/-- `globs.some((glob) => pathMatchesGlob(path, glob))`. -/
def someGlob (path : String) (globs : List String) : Option Bool :=
  someOf (pathMatchesGlob casing path) globs

def isPathAllowedByPermissionPolicy (intent : PermissionPolicyIntent) (path : String) :
    Option Bool :=
  let boundary := (getPermissionExecutionPolicy intent).fileBoundary
  let normalized := normalizePolicyPath path
  match someGlob casing normalized boundary.forbiddenPathGlobs with
  | none => none
  | some true => some false
  | some false => someGlob casing normalized boundary.allowedPathGlobs

end Matching

example : isPathAllowedByPermissionPolicy Text.simpleLowerCasing .docs "./docs\\Guide.md" =
    some true := by
  decide

/-! ### What is wanted -/

section Wanted

variable (casing : Text.LowerCasing)

/-- The file a path denotes, relative to the root and without case. -/
def fileOf (path : String) : List Name :=
  settled (casing.toLowerCase (Text.forwardSlashes path)).toList

def SameFile (path other : String) : Prop := fileOf casing path = fileOf casing other

/-- The path leads into the repository's own directory. -/
def InGit (path : String) : Prop :=
  ∃ name rest, fileOf casing path = ['.', 'g', 'i', 't'] :: name :: rest

/-- The glob matches the path where its pattern stands for the settled path. -/
def MatchesAsReference (path glob : String) : Prop :=
  ∃ found, pathMatchesGlob casing path glob = some found ∧
    (found = true ↔
      (readGlob (casing.toLowerCase glob).toList).Reads (spelled (fileOf casing path)))

/-- The file policy decides the file and not its spelling. -/
structure FilePolicyHolds (path : String) : Prop where
  spelling : ∀ (intent : PermissionPolicyIntent) (other : String), SameFile casing path other →
    isPathAllowedByPermissionPolicy casing intent path =
      isPathAllowedByPermissionPolicy casing intent other
  kept : Leaves (fileOf casing path) ∨ InGit casing path →
    ∀ intent, isPathAllowedByPermissionPolicy casing intent path = some false
  globs : ∀ glob, MatchesAsReference casing path glob

/-- The text of a path that is matched. -/
def policyText (path : String) : String := casing.toLowerCase (normalizePolicyPath path)

end Wanted

/-! ### Texts -/

section Texts

variable {casing : Text.LowerCasing} {path : String}

theorem policyText_eq (path : String) : policyText casing path =
    Text.stripDotSlash (casing.toLowerCase (Text.forwardSlashes path)) := by
  rw [policyText, normalizePolicyPath, casing.stripDotSlash]

/-- Of an ASCII text all platforms match the same text. -/
theorem policyText_ascii {text : String}
    (ascii : ∀ c ∈ (normalizePolicyPath text).toList, c.toNat < 128) :
    policyText casing text = policyText Text.simpleLowerCasing text :=
  casing.ascii _ ascii

theorem settled_dropWhile_slash (path : List Char) :
    settled (path.dropWhile (· == '/')) = settled path := by
  have root : settled [] = [] := by decide
  induction path with
  | nil => rfl
  | cons c rest ih =>
    by_cases slash : c = '/'
    · subst slash
      rw [List.dropWhile_cons_of_pos (by decide), ih]
      exact (settled_cancel root rest).symm
    · rw [List.dropWhile_cons_of_neg (by simpa using slash)]

theorem fileOf_eq (path : String) :
    fileOf casing path = settled (policyText casing path).toList := by
  rw [policyText_eq, fileOf]
  generalize casing.toLowerCase (Text.forwardSlashes path) = text
  by_cases starts : ∃ rest, text.toList = '.' :: '/' :: rest
  · obtain ⟨rest, starts⟩ := starts
    have root : settled ['.'] = [] := by decide
    rw [Text.stripDotSlash_of_starts starts, starts, String.toList_ofList, settled_dropWhile_slash]
    exact settled_cancel root rest
  · rw [Text.stripDotSlash_of_not_starts starts]

end Texts

/-! ### Globs without groups -/

/-- Characters that the translation treats apart, stars excepted. -/
def specialCharacters : List Char := ['(', '?', '\\', '\x00', '\x01', '\x02']

/-- No three stars stand side by side. -/
def noTripleStar : List Char → Bool
  | '*' :: '*' :: '*' :: _ => false
  | _ :: rest => noTripleStar rest
  | [] => true

/-- A glob of characters and stars: no group, no `?`, no backslash, no run of three stars and
no `./` before it. -/
structure SimpleGlob (casing : Text.LowerCasing) (glob : String) : Prop where
  plain : ∀ c ∈ (casing.toLowerCase glob).toList, c ∉ specialCharacters
  stars : noTripleStar (casing.toLowerCase glob).toList = true
  start : ¬ ∃ rest, (casing.toLowerCase glob).toList = '.' :: '/' :: rest

section Passes

variable {cs : List Char}

theorem mem_directoriesPass {c : Char} (inside : c ∈ directoriesPass cs) :
    c ∈ cs ∨ c = '\x00' := by
  induction cs using directoriesPass.induct with
  | case1 rest ih =>
    rw [directoriesPass] at inside
    rcases List.mem_cons.mp inside with same | later
    · exact .inr same
    · exact (ih later).imp_left fun member => by simp [member]
  | case2 d rest other ih =>
    rw [directoriesPass] at inside
    · rcases List.mem_cons.mp inside with same | later
      · exact .inl (List.mem_cons.mpr (.inl same))
      · exact (ih later).imp_left (List.mem_cons_of_mem d)
    · exact other
  | case3 => exact absurd inside List.not_mem_nil

theorem mem_acrossPass {c : Char} (inside : c ∈ acrossPass cs) : c ∈ cs ∨ c = '\x01' := by
  induction cs using acrossPass.induct with
  | case1 rest ih =>
    rw [acrossPass] at inside
    rcases List.mem_cons.mp inside with same | later
    · exact .inr same
    · exact (ih later).imp_left fun member => by simp [member]
  | case2 d rest other ih =>
    rw [acrossPass] at inside
    · rcases List.mem_cons.mp inside with same | later
      · exact .inl (List.mem_cons.mpr (.inl same))
      · exact (ih later).imp_left (List.mem_cons_of_mem d)
    · exact other
  | case3 => exact absurd inside List.not_mem_nil

theorem question_not_mem_passes (none_ : '?' ∉ cs) :
    '?' ∉ withinPass (acrossPass (directoriesPass cs)) := by
  intro inside
  obtain ⟨c, member, same⟩ := List.mem_map.mp inside
  obtain rfl : c = '?' := by
    split at same
    · exact absurd same (by decide)
    · exact same
  rcases mem_acrossPass member with member | same
  · rcases mem_directoriesPass member with member | same
    · exact none_ member
    · exact absurd same (by decide)
  · exact absurd same (by decide)

theorem piecesOf_cons {c : Char} (notQuestion : c ≠ '?') (none_ : '?' ∉ cs) :
    piecesOf (c :: cs) = (piecesOf cs).map (pieceOf c :: ·) := by
  rw [piecesOf]
  · exact notQuestion
  · rintro rest rfl
    exact none_ List.mem_cons_self

theorem noTripleStar_of_cons {c : Char} (stars : noTripleStar (c :: cs) = true) :
    noTripleStar cs = true := by
  by_cases triple : ∃ rest, c = '*' ∧ cs = '*' :: '*' :: rest
  · obtain ⟨rest, rfl, rfl⟩ := triple
    cases stars
  · rw [noTripleStar] at stars
    · exact stars
    · exact fun rest star same => triple ⟨rest, star, same⟩

theorem directoriesPass_cons {c : Char}
    (other : ∀ rest, c = '*' → cs = '*' :: '/' :: rest → False) :
    directoriesPass (c :: cs) = c :: directoriesPass cs := by
  rw [directoriesPass]
  exact other

theorem acrossPass_cons {c : Char} (other : ∀ rest, c = '*' → cs = '*' :: rest → False) :
    acrossPass (c :: cs) = c :: acrossPass cs := by
  rw [acrossPass]
  exact other

theorem globPieces_of_passes {c : Char} {done : List Char} (none_ : '?' ∉ cs)
    (notQuestion : pieceOf c ≠ .char '?')
    (passed : acrossPass (directoriesPass done) = c :: acrossPass (directoriesPass cs)) :
    globPieces done = (globPieces cs).map ((if c = '*' then .within else pieceOf c) :: ·) := by
  have kept : (if c = '*' then '\x02' else c) ≠ '?' := by
    split
    · decide
    · rintro rfl
      exact notQuestion rfl
  rw [globPieces, passed, withinPass, List.map_cons, piecesOf_cons kept]
  · rw [globPieces, withinPass]
    split
    · rfl
    · rfl
  · exact question_not_mem_passes none_

theorem globPieces_eq_tokens (plain : ∀ c ∈ cs, c ∉ specialCharacters)
    (stars : noTripleStar cs = true) : globPieces cs = some (tokens cs) := by
  have noQuestion : ∀ {ds : List Char}, (∀ c ∈ ds, c ∉ specialCharacters) → '?' ∉ ds :=
    fun all inside => all _ inside (by decide)
  induction cs using tokens.induct with
  | case1 rest ih =>
    have later : ∀ c ∈ rest, c ∉ specialCharacters := fun c inside => plain c (by simp [inside])
    have passed : acrossPass (directoriesPass ('*' :: '*' :: '/' :: rest)) =
        '\x00' :: acrossPass (directoriesPass rest) := by
      rw [directoriesPass, acrossPass_cons]
      rintro _ ⟨⟩
    rw [globPieces_of_passes (noQuestion later) (by decide) passed, ih later stars, tokens]
    rfl
  | case2 rest notSlash ih =>
    have later : ∀ c ∈ rest, c ∉ specialCharacters := fun c inside => plain c (by simp [inside])
    have noStar : ∀ others, rest ≠ '*' :: others := by
      rintro others rfl
      cases stars
    have passed : acrossPass (directoriesPass ('*' :: '*' :: rest)) =
        '\x01' :: acrossPass (directoriesPass rest) := by
      rw [directoriesPass_cons, directoriesPass_cons, acrossPass]
      · exact fun others _ same => noStar _ same
      · rintro others - same
        exact notSlash others (List.cons.inj same).2
    have fewer : noTripleStar rest = true := noTripleStar_of_cons (noTripleStar_of_cons stars)
    rw [globPieces_of_passes (noQuestion later) (by decide) passed, ih later fewer, tokens]
    · rfl
    · exact notSlash
  | case3 c rest notDirectories notAcross ih =>
    have later : ∀ c ∈ rest, c ∉ specialCharacters :=
      fun c inside => plain c (List.mem_cons_of_mem _ inside)
    have notSpecial := plain c List.mem_cons_self
    have passed : acrossPass (directoriesPass (c :: rest)) =
        c :: acrossPass (directoriesPass rest) := by
      rw [directoriesPass_cons notDirectories, acrossPass_cons]
      intro others star same
      cases rest with
      | nil => cases same
      | cons d rest =>
        have first : d = '*' := by
          by_cases pass : ∃ behind, d = '*' ∧ rest = '*' :: '/' :: behind
          · exact pass.choose_spec.1
          · have single := fun behind isStar more => pass ⟨behind, isStar, more⟩
            rw [directoriesPass_cons single] at same
            exact (List.cons.inj same).1
        exact notAcross rest star (by rw [first])
    have literal : pieceOf c = .char c := by
      simp only [specialCharacters, List.mem_cons, not_or] at notSpecial
      obtain ⟨-, -, -, notZero, notOne, notTwo, -⟩ := notSpecial
      rw [pieceOf, if_neg notZero, if_neg notOne, if_neg notTwo]
    have notQuestion : pieceOf c ≠ .char '?' := by
      rw [literal]
      rintro ⟨⟩
      exact notSpecial (by decide)
    rw [globPieces_of_passes (noQuestion later) notQuestion passed,
      ih later (noTripleStar_of_cons stars), tokens, literal]
    · rfl
    · exact notDirectories
    · exact notAcross
  | case4 => rfl

end Passes

section Simple

variable {casing : Text.LowerCasing} {path glob : String}

theorem pathMatchesGlob_of_pieces {pieces : List Piece}
    (parsed : globPieces (policyText casing glob).toList = some pieces)
    (notAll : policyText casing glob ≠ "**/*") :
    ∃ found, pathMatchesGlob casing path glob = some found ∧
      (found = true ↔ Matches NoLineBreak pieces (policyText casing path).toList) := by
  rw [policyText] at parsed notAll
  rw [pathMatchesGlob, if_neg notAll, parsed]
  exact ⟨_, rfl, test_pieces_iff⟩

theorem policyText_simple (simple : SimpleGlob casing glob) :
    policyText casing glob = casing.toLowerCase glob := by
  have noBackslash : '\\' ∉ (casing.toLowerCase glob).toList :=
    fun inside => simple.plain _ inside (by decide)
  rw [policyText_eq, casing.forwardSlashes, forwardSlashes_of_no_backslash noBackslash,
    Text.stripDotSlash_of_not_starts simple.start]

theorem matches_all (text : List Char) :
    Matches (fun _ => True) (tokens "**/*".toList) text := by
  have pieces : tokens "**/*".toList = [.directories, .within] := by decide
  have within : ∀ text : List Char, '/' ∉ text → Matches (fun _ => True) [.within] text :=
    fun text plain => ⟨text, [], (List.append_nil text).symm,
      fun c inside same => plain (same ▸ inside), rfl⟩
  rw [pieces]
  by_cases inside : '/' ∈ text.reverse
  · obtain ⟨back, front, split, plain⟩ := List.eq_append_cons_of_mem inside
    refine .inl ⟨front.reverse, back.reverse, ?_, fun _ _ => trivial, within _ ?_⟩
    · rw [← List.reverse_reverse text, split]
      simp
    · rwa [List.mem_reverse]
  · rw [List.mem_reverse] at inside
    exact .inr (within text inside)

theorem matchesAsReference_iff (simple : SimpleGlob casing glob) :
    MatchesAsReference casing path glob ↔
    casing.toLowerCase glob = "**/*" ∨
      (Matches NoLineBreak (tokens (casing.toLowerCase glob).toList)
          (policyText casing path).toList ↔
        Matches (fun _ => True) (tokens (casing.toLowerCase glob).toList)
          (spelled (fileOf casing path))) := by
  have noGroup : '(' ∉ (casing.toLowerCase glob).toList :=
    fun inside => simple.plain _ inside (by decide)
  rw [MatchesAsReference]
  simp only [reads_readGlob_iff noGroup]
  by_cases all : casing.toLowerCase glob = "**/*"
  · rw [all]
    refine iff_of_true ⟨true, ?_, iff_of_true rfl (matches_all _)⟩ (.inl rfl)
    have text := policyText_simple simple
    rw [policyText] at text
    rw [pathMatchesGlob, text, if_pos all]
  · have parsed : globPieces (policyText casing glob).toList =
        some (tokens (casing.toLowerCase glob).toList) := by
      rw [policyText_simple simple]
      exact globPieces_eq_tokens simple.plain simple.stars
    obtain ⟨found, matched, same⟩ := @pathMatchesGlob_of_pieces casing path glob _ parsed
      (by rwa [policyText_simple simple])
    rw [or_iff_right all, ← same]
    constructor
    · rintro ⟨found', matched', agrees⟩
      rw [matched] at matched'
      obtain rfl := Option.some.inj matched'
      exact agrees
    · exact fun agrees => ⟨found, matched, agrees⟩

theorem simpleGlob_of_lower (lower : casing.toLowerCase glob = glob)
    (plain : ∀ c ∈ glob.toList, c ∉ specialCharacters) (stars : noTripleStar glob.toList = true)
    (start : ¬ ∃ rest, glob.toList = '.' :: '/' :: rest) : SimpleGlob casing glob :=
  ⟨by rwa [lower], by rwa [lower], by rwa [lower]⟩

/-- The path is spelled as its settled form and has no line break. -/
structure WellSpelled (casing : Text.LowerCasing) (path : String) : Prop where
  settled : (policyText casing path).toList = spelled (fileOf casing path)
  lines : ∀ c ∈ (policyText casing path).toList, NoLineBreak c

theorem simpleGlob_row (n : Nat) : SimpleGlob casing (String.ofList (row n)) ∧
    casing.toLowerCase (String.ofList (row n)) = String.ofList (row n) := by
  have chars : ∀ (n : Nat), ∀ c ∈ row n, c = '*' ∨ c = '/' := by
    intro n
    induction n with
    | zero => simp [row]
    | succ n ih =>
      intro c inside
      rcases List.mem_cons.mp inside with rfl | inside
      · exact .inl rfl
      · rcases List.mem_cons.mp inside with rfl | inside
        · exact .inr rfl
        · exact ih c inside
  have stars : ∀ n, noTripleStar (row n) = true := by
    intro n
    induction n with
    | zero => rfl
    | succ n ih => exact ih
  have lower : casing.toLowerCase (String.ofList (row n)) = String.ofList (row n) := by
    have ascii : ∀ c ∈ (String.ofList (row n)).toList, c.toNat < 128 := by
      intro c inside
      rw [String.toList_ofList] at inside
      rcases chars n c inside with rfl | rfl <;> decide
    have kept : ∀ c ∈ row n, Text.lowerChar c = [c] := by
      intro c inside
      rcases chars n c inside with rfl | rfl <;> decide
    rw [casing.ascii _ ascii, Text.toLowerCase, String.toList_ofList, List.flatMap_congr kept,
      List.flatMap_singleton']
  refine ⟨simpleGlob_of_lower lower ?_ ?_ ?_, lower⟩
  · rw [String.toList_ofList]
    intro c inside
    rcases chars n c inside with rfl | rfl <;> decide
  · rw [String.toList_ofList]
    exact stars n
  · rw [String.toList_ofList]
    cases n with
    | zero => rintro ⟨_, ⟨⟩⟩
    | succ n => rintro ⟨_, ⟨⟩⟩

/-- Globs without groups match a path as they should when it is well spelled, and only then. -/
theorem wellSpelled_iff (path : String) :
    (∀ glob, SimpleGlob casing glob → MatchesAsReference casing path glob) ↔
      WellSpelled casing path := by
  constructor
  · intro agrees
    have settled_ : (policyText casing path).toList = spelled (fileOf casing path) := by
      obtain ⟨simple, lower⟩ := simpleGlob_row ((spelled (fileOf casing path)).count '/')
      have counts := (matchesAsReference_iff simple).mp (agrees _ simple)
      rw [lower, String.toList_ofList, matches_row_iff, matches_row_iff] at counts
      have notAll : String.ofList (row ((spelled (fileOf casing path)).count '/')) ≠ "**/*" := by
        intro same
        have chars := congrArg String.toList same
        rw [String.toList_ofList] at chars
        cases count : (spelled (fileOf casing path)).count '/' <;> simp [count, row] at chars
      have same := (counts.resolve_left notAll).mpr rfl
      rw [fileOf_eq] at same ⊢
      rcases settled_count same.symm with spelling | ⟨root, plain⟩
      · exact spelling.symm
      · rcases root_of_no_slash root plain with empty | dots
        · have lower : casing.toLowerCase "." = "." := casing.ascii "." (by decide)
          have simple : SimpleGlob casing "." :=
            simpleGlob_of_lower lower (by decide) (by decide) (by rintro ⟨_, ⟨⟩⟩)
          have agree := ((matchesAsReference_iff simple).mp (agrees "." simple)).resolve_left
            (by rw [lower]; decide)
          rw [lower, fileOf_eq, root, empty] at agree
          obtain ⟨_, ⟨⟩, _⟩ := agree.mpr ⟨[], rfl, rfl⟩
        · rw [root, dots]
          rfl
    refine ⟨settled_, ?_⟩
    have lower : casing.toLowerCase "**" = "**" := casing.ascii "**" (by decide)
    have simple : SimpleGlob casing "**" :=
      simpleGlob_of_lower lower (by decide) (by decide) (by rintro ⟨_, ⟨⟩⟩)
    have across : tokens "**".toList = [.across] := by decide
    have agree := ((matchesAsReference_iff simple).mp (agrees "**" simple)).resolve_left
      (by rw [lower]; decide)
    rw [lower, across] at agree
    obtain ⟨read, _, split, plain, rfl⟩ :=
      agree.mpr ⟨_, [], (List.append_nil _).symm, fun _ _ => trivial, rfl⟩
    rw [split, List.append_nil]
    exact plain
  · intro spelling glob simple
    rw [matchesAsReference_iff simple, ← spelling.settled]
    exact .inr (Matches.congr fun c inside => iff_of_true (spelling.lines c inside) trivial)

end Simple

/-! ### Groups -/

section Groups

variable {casing : Text.LowerCasing} {path : String} {letter : Char}

theorem exists_last_segment (text : List Char) : ∃ dir segment, text = dir ++ segment ∧
    '/' ∉ segment ∧ (dir = [] ∨ ∃ front, dir = front ++ ['/']) := by
  by_cases inside : '/' ∈ text.reverse
  · obtain ⟨back, front, split, plain⟩ := List.eq_append_cons_of_mem inside
    refine ⟨front.reverse ++ ['/'], back.reverse, ?_, ?_, .inr ⟨_, rfl⟩⟩
    · rw [← List.reverse_reverse text, split]
      simp
    · rwa [List.mem_reverse]
  · rw [List.mem_reverse] at inside
    exact ⟨[], text, rfl, inside, .inl rfl⟩

/-- A glob that leaves out one name. -/
def leavingOut (letter : Char) : List Char := ['*', '*', '/', '!', '(', letter, ')']

theorem ends_of_matches {crosses : Char → Prop} {text : List Char}
    (found : Matches crosses [.directories, .char '!', .char '(', .char letter, .char ')'] text) :
    ∃ front, text = front ++ ['!', '(', letter, ')'] := by
  have tail : ∀ text, Matches crosses [.char '!', .char '(', .char letter, .char ')'] text →
      text = ['!', '(', letter, ')'] := by
    rintro _ ⟨_, rfl, _, rfl, _, rfl, _, rfl, rfl⟩
    rfl
  rcases found with ⟨read, rest, rfl, -, found⟩ | found
  · exact ⟨read ++ ['/'], by rw [tail rest found, List.append_assoc]; rfl⟩
  · exact ⟨[], tail text found⟩

/-- A path whose last segment is another name is meant by such a glob, so the glob agrees with
its meaning only on a path that spells the group out. -/
theorem ends_of_agree (glob : String)
    (text : policyText casing glob = String.ofList (leavingOut letter))
    (lower : (casing.toLowerCase glob).toList = leavingOut letter)
    (parsed : globPieces (leavingOut letter) =
      some [.directories, .char '!', .char '(', .char letter, .char ')'])
    (pattern : readGlob (leavingOut letter) =
      .seq .directories (.seq (.group .none (.seq (.char letter) .empty)) .empty))
    {dir segment : List Char} (split : spelled (fileOf casing path) = dir ++ segment)
    (plain : '/' ∉ segment) (dirs : dir = [] ∨ ∃ front, dir = front ++ ['/'])
    (other : segment ≠ [letter]) (agrees : MatchesAsReference casing path glob) :
    ∃ front, (policyText casing path).toList = front ++ ['!', '(', letter, ')'] := by
  have meant : (readGlob (leavingOut letter)).Reads (spelled (fileOf casing path)) := by
    rw [pattern, split]
    refine ⟨dir, segment, rfl, dirs, segment, [], (List.append_nil _).symm, ⟨plain, ?_⟩, rfl⟩
    rintro ⟨front, back, rfl, rfl, rfl⟩
    exact other rfl
  have notAll : policyText casing glob ≠ "**/*" := by
    rw [text]
    intro same
    have chars := congrArg String.toList same
    rw [String.toList_ofList] at chars
    cases chars
  obtain ⟨found, matched, means⟩ := @pathMatchesGlob_of_pieces casing path glob _
    (by rw [text, String.toList_ofList]; exact parsed) notAll
  obtain ⟨found', matched', agrees⟩ := agrees
  rw [matched] at matched'
  obtain rfl := Option.some.inj matched'
  rw [lower] at agrees
  exact ends_of_matches (means.mp (agrees.mpr meant))

/-- No path agrees with what all globs mean. -/
theorem groups_disagree (path : String) : ¬ ∀ glob, MatchesAsReference casing path glob := by
  intro agrees
  obtain ⟨dir, segment, split, plain, dirs⟩ := exists_last_segment (spelled (fileOf casing path))
  have a (other : segment ≠ ['a']) := ends_of_agree "**/!(a)"
    (by rw [policyText_ascii (by decide)]; decide) (by rw [casing.ascii _ (by decide)]; decide)
    (by decide) rfl split plain dirs other (agrees _)
  have b (other : segment ≠ ['b']) := ends_of_agree "**/!(b)"
    (by rw [policyText_ascii (by decide)]; decide) (by rw [casing.ascii _ (by decide)]; decide)
    (by decide) rfl split plain dirs other (agrees _)
  have c (other : segment ≠ ['c']) := ends_of_agree "**/!(c)"
    (by rw [policyText_ascii (by decide)]; decide) (by rw [casing.ascii _ (by decide)]; decide)
    (by decide) rfl split plain dirs other (agrees _)
  have apart {x y : Char} (different : x ≠ y)
      (endsX : ∃ front, (policyText casing path).toList = front ++ ['!', '(', x, ')'])
      (endsY : ∃ front, (policyText casing path).toList = front ++ ['!', '(', y, ')']) : False := by
    obtain ⟨front, endsX⟩ := endsX
    obtain ⟨front', endsY⟩ := endsY
    obtain ⟨-, same⟩ := List.append_inj' (endsX.symm.trans endsY) rfl
    simp only [List.cons.injEq, true_and, and_true] at same
    exact different same
  by_cases isA : segment = ['a']
  · exact apart (by decide) (b (by rw [isA]; decide)) (c (by rw [isA]; decide))
  · by_cases isB : segment = ['b']
    · exact apart (by decide) (a isA) (c (by rw [isB]; decide))
    · exact apart (by decide) (a isA) (b isB)

end Groups

/-! ### Spellings -/

section Spellings

variable {casing : Text.LowerCasing} {path other glob : String} {globs : List String}

theorem someGlob_congr (same : policyText casing path = policyText casing other)
    (globs : List String) :
    someGlob casing path globs = someGlob casing other globs := by
  have each : ∀ glob, pathMatchesGlob casing path glob = pathMatchesGlob casing other glob := by
    intro glob
    rw [policyText, policyText] at same
    rw [pathMatchesGlob, pathMatchesGlob, same]
  rw [someGlob, someGlob, funext each]

theorem isPathAllowed_congr
    (same : policyText casing (normalizePolicyPath path) =
      policyText casing (normalizePolicyPath other))
    (intent : PermissionPolicyIntent) : isPathAllowedByPermissionPolicy casing intent path =
      isPathAllowedByPermissionPolicy casing intent other := by
  rw [isPathAllowedByPermissionPolicy, isPathAllowedByPermissionPolicy]
  rw [someGlob_congr same, someGlob_congr same]

/-- A path is normalized once more on its way to a glob, which changes nothing unless another
`./` has come to its front. -/
theorem policyText_normalized
    (plain : ¬ ∃ rest, (policyText casing path).toList = '.' :: '/' :: rest) :
    policyText casing (normalizePolicyPath path) = policyText casing path := by
  have noBackslash : '\\' ∉ (Text.forwardSlashes path).toList := by
    rw [Text.forwardSlashes, String.toList_ofList]
    intro inside
    obtain ⟨c, -, same⟩ := List.mem_map.mp inside
    split at same
    · cases same
    · rename_i notBackslash
      exact notBackslash same
  have noBackslash' : '\\' ∉ (normalizePolicyPath path).toList := by
    rw [normalizePolicyPath]
    by_cases starts : ∃ rest, (Text.forwardSlashes path).toList = '.' :: '/' :: rest
    · obtain ⟨rest, starts⟩ := starts
      rw [Text.stripDotSlash_of_starts starts, String.toList_ofList]
      intro inside
      refine noBackslash ?_
      rw [starts]
      exact List.mem_cons_of_mem _ (List.mem_cons_of_mem _
        (List.dropWhile_suffix _ |>.mem inside))
    · rwa [Text.stripDotSlash_of_not_starts starts]
  rw [policyText_eq (normalizePolicyPath path), forwardSlashes_of_no_backslash noBackslash',
    ← policyText, Text.stripDotSlash_of_not_starts plain]

theorem someGlob_of_match (read : ∀ glob ∈ globs, (pathMatchesGlob casing path glob).isSome)
    (matched : ∃ glob ∈ globs, pathMatchesGlob casing path glob = some true) :
    someGlob casing path globs = some true := by
  rw [someGlob]
  induction globs with
  | nil => obtain ⟨_, ⟨⟩, _⟩ := matched
  | cons glob globs ih =>
    rw [someOf]
    cases here : pathMatchesGlob casing path glob with
    | none =>
      have isSome := read glob List.mem_cons_self
      rw [here] at isSome
      cases isSome
    | some found =>
      cases found with
      | true => rfl
      | false =>
        refine ih (fun other inside => read other (List.mem_cons_of_mem _ inside)) ?_
        obtain ⟨other, inside, matched⟩ := matched
        rcases List.mem_cons.mp inside with rfl | inside
        · rw [here] at matched
          cases matched
        · exact ⟨other, inside, matched⟩

theorem someGlob_of_no_match
    (none_ : ∀ glob ∈ globs, pathMatchesGlob casing path glob = some false) :
    someGlob casing path globs = some false := by
  rw [someGlob]
  induction globs with
  | nil => rfl
  | cons glob globs ih =>
    rw [someOf, none_ glob List.mem_cons_self]
    exact ih fun other inside => none_ other (List.mem_cons_of_mem _ inside)

theorem isSome_pathMatchesGlob (path : String) (intent : PermissionPolicyIntent) :
    ∀ glob ∈ (getPermissionExecutionPolicy intent).fileBoundary.forbiddenPathGlobs,
      (pathMatchesGlob casing path glob).isSome := by
  have read : ∀ glob ∈ (getPermissionExecutionPolicy intent).fileBoundary.forbiddenPathGlobs,
      (globPieces (policyText casing glob).toList).isSome = true := by
    have ascii : ∀ glob ∈ (getPermissionExecutionPolicy intent).fileBoundary.forbiddenPathGlobs,
        ∀ c ∈ (normalizePolicyPath glob).toList, c.toNat < 128 := by
      cases intent <;> decide
    have simple : ∀ glob ∈ (getPermissionExecutionPolicy intent).fileBoundary.forbiddenPathGlobs,
        (globPieces (policyText Text.simpleLowerCasing glob).toList).isSome = true := by
      cases intent <;> decide
    intro glob inside
    rw [policyText_ascii (ascii glob inside)]
    exact simple glob inside
  intro glob inside
  rw [pathMatchesGlob]
  split
  · rfl
  · rw [Option.isSome_map]
    exact read glob inside

theorem matches_git (path : String) : ∃ found, pathMatchesGlob casing path ".git/**" = some found ∧
    (found = true ↔ ∃ rest,
      (policyText casing path).toList = '.' :: 'g' :: 'i' :: 't' :: '/' :: rest ∧
      ∀ c ∈ rest, NoLineBreak c) := by
  have parsed : globPieces (policyText casing ".git/**").toList =
      some [.char '.', .char 'g', .char 'i', .char 't', .char '/', .across] := by
    rw [policyText_ascii (by decide)]
    decide
  obtain ⟨found, matched, means⟩ :=
    pathMatchesGlob_of_pieces parsed (by rw [policyText_ascii (by decide)]; decide)
  refine ⟨found, matched, means.trans ?_⟩
  constructor
  · rintro ⟨_, split, _, rfl, _, rfl, _, rfl, _, rfl, rest, _, rfl, lines, rfl⟩
    rw [List.append_nil] at split
    exact ⟨rest, split, lines⟩
  · rintro ⟨rest, split, lines⟩
    exact ⟨_, split, _, rfl, _, rfl, _, rfl, _, rfl, rest, [], (List.append_nil rest).symm, lines,
      rfl⟩

theorem not_allowed_of_git {rest : List Char}
    (text : (policyText casing path).toList = '.' :: 'g' :: 'i' :: 't' :: '/' :: rest)
    (lines : ∀ c ∈ rest, NoLineBreak c) (intent : PermissionPolicyIntent) :
    isPathAllowedByPermissionPolicy casing intent path = some false := by
  have once : policyText casing (normalizePolicyPath path) = policyText casing path := by
    refine policyText_normalized ?_
    rw [text]
    rintro ⟨_, ⟨⟩⟩
  obtain ⟨found, matched, means⟩ := matches_git (normalizePolicyPath path)
  rw [once] at means
  obtain rfl := means.mpr ⟨rest, text, lines⟩
  have listed : ".git/**" ∈
      (getPermissionExecutionPolicy intent).fileBoundary.forbiddenPathGlobs := by
    cases intent <;> decide
  rw [isPathAllowedByPermissionPolicy]
  rw [someGlob_of_match (isSome_pathMatchesGlob _ intent) ⟨_, listed, matched⟩]

theorem WellSpelled.normalized (spelling : WellSpelled casing path) :
    policyText casing (normalizePolicyPath path) = policyText casing path := by
  refine policyText_normalized ?_
  rw [spelling.settled]
  exact spelled_settled_plain _

/-! Two spellings of every path. -/

/-- The spelling that no glob for all files refuses. -/
def behindName (path : String) : String := "x/../" ++ (path ++ "/.")

/-- The spelling that begins in `.git`. -/
def behindGit (path : String) : String := ".git/../" ++ path

/-- The text that is settled: lower-cased, with slashes. -/
def lowered (casing : Text.LowerCasing) (path : String) : List Char :=
  (casing.toLowerCase (Text.forwardSlashes path)).toList

theorem lowered_eq (path : String) :
    lowered casing path = casing.chars (Text.forwardSlashes path).toList := by
  rw [casing.chars_toList, lowered]

theorem forwardSlashes_append (front back : String) :
    (Text.forwardSlashes (front ++ back)).toList =
      (Text.forwardSlashes front).toList ++ (Text.forwardSlashes back).toList := by
  simp only [Text.forwardSlashes, String.toList_ofList, String.toList_append, List.map_append]

theorem lowered_behindName (path : String) : lowered casing (behindName path) =
    ['x', '/', '.', '.'] ++ '/' :: (lowered casing path ++ '/' :: LexicalPath.dot) := by
  have front : (Text.forwardSlashes "x/../").toList = ['x', '/', '.', '.'] ++ ['/'] := by decide
  have back : (Text.forwardSlashes "/.").toList = '/' :: LexicalPath.dot := by decide
  have frontChars : casing.chars ['x', '/', '.', '.'] = ['x', '/', '.', '.'] := by
    rw [casing.chars_ascii (by decide)]
    decide
  have backChars : casing.chars LexicalPath.dot = LexicalPath.dot := by
    rw [casing.chars_ascii (by decide)]
    decide
  rw [lowered_eq, behindName, forwardSlashes_append, forwardSlashes_append, front, back,
    List.append_assoc, List.singleton_append, casing.chars_cut (.inl rfl),
    casing.chars_cut (.inl rfl), frontChars, backChars, ← lowered_eq]

theorem lowered_behindGit (path : String) : lowered casing (behindGit path) =
    ['.', 'g', 'i', 't', '/', '.', '.'] ++ '/' :: lowered casing path := by
  have front : (Text.forwardSlashes ".git/../").toList =
      ['.', 'g', 'i', 't', '/', '.', '.'] ++ ['/'] := by decide
  have frontChars : casing.chars ['.', 'g', 'i', 't', '/', '.', '.'] =
      ['.', 'g', 'i', 't', '/', '.', '.'] := by
    rw [casing.chars_ascii (by decide)]
    decide
  rw [lowered_eq, behindGit, forwardSlashes_append, front, List.append_assoc,
    List.singleton_append, casing.chars_cut (.inl rfl), frontChars, ← lowered_eq]

theorem fileOf_lowered (path : String) : fileOf casing path = settled (lowered casing path) := rfl

theorem sameFile_behindName (path : String) : SameFile casing path (behindName path) := by
  have root : settled ['x', '/', '.', '.'] = [] := by decide
  rw [SameFile, fileOf_lowered, fileOf_lowered, lowered_behindName, settled_cancel root,
    settled_concat_dot]

theorem sameFile_behindGit (path : String) : SameFile casing path (behindGit path) := by
  have root : settled ['.', 'g', 'i', 't', '/', '.', '.'] = [] := by decide
  rw [SameFile, fileOf_lowered, fileOf_lowered, lowered_behindGit, settled_cancel root]

theorem lines_lowered (lines : ∀ c ∈ path.toList, NoLineBreak c) :
    ∀ c ∈ lowered casing path, NoLineBreak c := by
  intro c inside
  rw [NoLineBreak, Bool.eq_false_iff]
  intro break_
  have noLetter : Text.NoLetter c := by
    have each : ∀ d ∈ ['\n', '\r', '\u2028', '\u2029'], Text.NoLetter d := by decide
    exact each c (of_decide_eq_true break_)
  have among := (casing.own _ c noLetter).mp inside
  rw [Text.forwardSlashes, String.toList_ofList] at among
  obtain ⟨d, original, same⟩ := List.mem_map.mp among
  split at same
  · rw [← same] at break_
    cases break_
  · have line := lines d original
    rw [NoLineBreak, same, break_] at line
    cases line

theorem not_allowed_behindGit (lines : ∀ c ∈ path.toList, NoLineBreak c)
    (intent : PermissionPolicyIntent) :
    isPathAllowedByPermissionPolicy casing intent (behindGit path) = some false := by
  have text : (policyText casing (behindGit path)).toList = '.' :: 'g' :: 'i' :: 't' :: '/' ::
      '.' :: '.' :: '/' :: lowered casing path := by
    rw [policyText_eq, Text.stripDotSlash_of_not_starts]
    · exact lowered_behindGit path
    · rintro ⟨rest, starts⟩
      have other := (@lowered_behindGit casing path).symm.trans starts
      cases other
  refine not_allowed_of_git text (fun c inside => ?_) intent
  simp only [List.mem_cons] at inside
  rcases inside with rfl | rfl | rfl | inside
  · rfl
  · rfl
  · rfl
  · exact lines_lowered lines c inside

def slashless : Piece → Bool
  | .within => true
  | .char c => c != '/'
  | _ => false

theorem slash_not_mem_of_matches {crosses : Char → Prop} {pieces : List Piece} {text : List Char}
    (plain : pieces.all slashless = true) (found : Matches crosses pieces text) : '/' ∉ text := by
  induction pieces generalizing text with
  | nil =>
    obtain rfl : text = [] := found
    exact List.not_mem_nil
  | cons piece pieces ih =>
    obtain ⟨first, later⟩ := Bool.and_eq_true_iff.mp plain
    cases piece with
    | char c =>
      obtain ⟨rest, rfl, found⟩ := found
      rw [List.mem_cons, not_or]
      refine ⟨?_, ih later found⟩
      rintro rfl
      cases first
    | within =>
      obtain ⟨read, rest, rfl, within, found⟩ := found
      rw [List.mem_append, not_or]
      exact ⟨fun inside => within _ inside rfl, ih later found⟩
    | optional c => cases first
    | across => cases first
    | directories => cases first

theorem matches_last {crosses : Char → Prop} {pieces : List Piece} {front segment : List Char}
    (plain : pieces.all slashless = true) (single : '/' ∉ segment)
    (found : Matches crosses (.directories :: pieces) (front ++ '/' :: segment)) :
    Matches crosses pieces segment := by
  rcases found with ⟨read, rest, split, -, found⟩ | found
  · have segments := congrArg (fun text => (segmentsOf text).getLast?) split
    have alone : ∀ text : List Char, '/' ∉ text → segmentsOf text = [text] := by
      intro text none_
      have plain : ∀ name ∈ [text], '/' ∉ name := by simpa using none_
      have whole := segmentsOf_intercalate plain (List.cons_ne_nil _ _)
      rwa [List.intercalate_singleton] at whole
    have noSlash := slash_not_mem_of_matches plain found
    rw [segmentsOf_append, segmentsOf_append, alone _ single, alone _ noSlash,
      List.getLast?_concat, List.getLast?_concat] at segments
    rw [Option.some.inj segments]
    exact found
  · exact absurd (List.mem_append_right _ List.mem_cons_self) (slash_not_mem_of_matches plain found)

theorem no_match_of_pieces {pieces : List Piece}
    (parsed : globPieces (policyText casing glob).toList = some pieces)
    (notAll : policyText casing glob ≠ "**/*")
    (none_ : ¬ Matches NoLineBreak pieces (policyText casing path).toList) :
    pathMatchesGlob casing path glob = some false := by
  obtain ⟨found, matched, means⟩ := @pathMatchesGlob_of_pieces casing path glob _ parsed notAll
  rw [matched, Bool.eq_false_iff.mpr (mt means.mp none_)]

theorem policyText_behindName (path : String) : ∃ front,
    (policyText casing (normalizePolicyPath (behindName path))).toList =
      'x' :: front ++ '/' :: ['.'] := by
  have plain : ¬ ∃ rest, (casing.toLowerCase (Text.forwardSlashes (behindName path))).toList =
      '.' :: '/' :: rest := by
    rintro ⟨rest, starts⟩
    have other := (@lowered_behindName casing path).symm.trans starts
    cases other
  have once : policyText casing (behindName path) =
      casing.toLowerCase (Text.forwardSlashes (behindName path)) := by
    rw [policyText_eq, Text.stripDotSlash_of_not_starts plain]
  rw [← once] at plain
  refine ⟨['/', '.', '.'] ++ '/' :: lowered casing path, ?_⟩
  rw [policyText_normalized plain, once]
  exact (lowered_behindName path).trans (by simp [LexicalPath.dot])

theorem no_match_behindName {pieces : List Piece}
    (parsed : globPieces (policyText casing glob).toList = some (.directories :: pieces))
    (notAll : policyText casing glob ≠ "**/*") (plain : pieces.all slashless = true)
    (notDot : test (wholeRegex pieces) "." = false) (path : String) :
    pathMatchesGlob casing (normalizePolicyPath (behindName path)) glob = some false := by
  obtain ⟨front, text⟩ := policyText_behindName path
  have single : '/' ∉ ['.'] := by decide
  have dots : ".".toList = ['.'] := by decide
  refine no_match_of_pieces parsed notAll ?_
  rw [text]
  intro found
  have last := matches_last plain single found
  rw [← dots, ← test_pieces_iff, notDot] at last
  cases last

/-- A name in front and a dot behind hide a file from every glob that forbids one. -/
theorem forbidden_behindName (path : String) :
    someGlob casing (normalizePolicyPath (behindName path)) taskScope.forbiddenPathGlobs =
      some false := by
  refine someGlob_of_no_match fun glob inside => ?_
  simp only [taskScope, List.mem_cons, List.not_mem_nil, or_false] at inside
  rcases inside with rfl | rfl | rfl | rfl
  · obtain ⟨front, text⟩ := policyText_behindName path
    obtain ⟨found, matched, means⟩ := matches_git (normalizePolicyPath (behindName path))
    rw [matched]
    rw [text] at means
    cases found with
    | false => rfl
    | true => obtain ⟨_, ⟨⟩, _⟩ := means.mp rfl
  · have parsed : globPieces (policyText casing "**/.env*").toList =
        some (.directories :: [.char '.', .char 'e', .char 'n', .char 'v', .within]) := by
      rw [policyText_ascii (by decide)]
      decide
    exact no_match_behindName parsed (by rw [policyText_ascii (by decide)]; decide) rfl
      (by decide) path
  · have parsed : globPieces (policyText casing "**/*secret*").toList =
        some (.directories :: [.within, .char 's', .char 'e', .char 'c', .char 'r', .char 'e',
          .char 't', .within]) := by
      rw [policyText_ascii (by decide)]
      decide
    exact no_match_behindName parsed (by rw [policyText_ascii (by decide)]; decide) rfl
      (by decide) path
  · have parsed : globPieces (policyText casing "**/*credential*").toList =
        some (.directories :: [.within, .char 'c', .char 'r', .char 'e', .char 'd', .char 'e',
          .char 'n', .char 't', .char 'i', .char 'a', .char 'l', .within]) := by
      rw [policyText_ascii (by decide)]
      decide
    exact no_match_behindName parsed (by rw [policyText_ascii (by decide)]; decide) rfl
      (by decide) path

theorem allowed_behindName (path : String) :
    isPathAllowedByPermissionPolicy casing .general (behindName path) = some true := by
  have all : pathMatchesGlob casing (normalizePolicyPath (behindName path)) "**/*" = some true := by
    have text : casing.toLowerCase (normalizePolicyPath "**/*") = "**/*" :=
      casing.ascii _ (by decide)
    rw [pathMatchesGlob, if_pos text]
  have scope : (getPermissionExecutionPolicy .general).fileBoundary = taskScope := rfl
  have globs : taskScope.allowedPathGlobs = ["**/*"] := rfl
  rw [isPathAllowedByPermissionPolicy, scope, forbidden_behindName, globs]
  dsimp only
  rw [someGlob, someOf, all]

end Spellings

/-! ### The policy of a path -/

/-- What the file policy says of a path. It never decides the file alone, because a glob with a
group is matched as it is written. Globs without groups match a path as they should when it is
well spelled, and only then; well-spelled paths to one file are decided alike, and none of them
leads into `.git`. A path without line breaks has a spelling that is decided otherwise. -/
theorem file_policy_of_path (casing : Text.LowerCasing) (path : String) :
    ¬ FilePolicyHolds casing path ∧
      ((∀ glob, SimpleGlob casing glob → MatchesAsReference casing path glob) ↔
        WellSpelled casing path) ∧
      (WellSpelled casing path →
        (∀ (intent : PermissionPolicyIntent) (other : String), WellSpelled casing other →
          SameFile casing path other → isPathAllowedByPermissionPolicy casing intent path =
            isPathAllowedByPermissionPolicy casing intent other) ∧
        (InGit casing path →
          ∀ intent, isPathAllowedByPermissionPolicy casing intent path = some false)) ∧
      ((∀ c ∈ path.toList, NoLineBreak c) → ∃ other, SameFile casing path other ∧
        isPathAllowedByPermissionPolicy casing .general path ≠
          isPathAllowedByPermissionPolicy casing .general other) := by
  refine ⟨fun holds => groups_disagree path holds.globs, wellSpelled_iff path, ?_, ?_⟩
  · intro spelling
    refine ⟨fun intent other spelling' same => isPathAllowed_congr ?_ intent, ?_⟩
    · rw [spelling.normalized, spelling'.normalized, ← String.toList_inj, spelling.settled,
        spelling'.settled, same]
    · rintro ⟨name, rest, file⟩ intent
      have text := spelling.settled
      rw [file, spelled, if_neg (List.cons_ne_nil _ _), List.intercalate_cons_cons,
        List.append_assoc] at text
      refine not_allowed_of_git text (fun c inside => spelling.lines c ?_) intent
      rw [text]
      exact List.mem_append_right _ (List.mem_cons_of_mem _ inside)
  · intro lines
    by_cases allowed : isPathAllowedByPermissionPolicy casing .general path = some true
    · refine ⟨behindGit path, sameFile_behindGit path, ?_⟩
      rw [allowed, not_allowed_behindGit lines]
      intro same
      cases same
    · refine ⟨behindName path, sameFile_behindName path, ?_⟩
      rwa [allowed_behindName]

/-- A path through a name and back leads into `.git` and is allowed. -/
theorem hidden_git_allowed : ¬ FilePolicyHolds Text.simpleLowerCasing "a/../.git/config" := by
  intro holds
  have denied := holds.kept (.inr ⟨"config".toList, [], by decide⟩) .general
  exact absurd denied (by decide)

end AifHandoff.Shared.PermissionPolicy
