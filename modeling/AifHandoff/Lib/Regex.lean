import AifHandoff.Lib.Text

/-!
Backtracking regular expressions with captures, in the ECMAScript reading.

`Regex.run` is the continuation-passing matcher: alternatives are tried left to
right, a greedy star tries another round before it stops, a lazy one after, and
a round that reads nothing fails. A round therefore always shortens the
remaining text, and its length is enough fuel for the loop.

A case-insensitive pattern is written with `litI` and the classes it needs; the
`i` flag without the `u` flag folds ASCII letters only with each other. A
capture inside a repeated group keeps its last value.
-/

namespace AifHandoff

inductive Regex where
  | empty
  | set (accepts : Char → Bool)
  | seq (left right : Regex)
  | alt (left right : Regex)
  | star (greedy : Bool) (body : Regex)
  | capture (index : Nat) (body : Regex)
  | wordBoundary
  | startAnchor
  | endAnchor

namespace Regex

/-- A position in the subject: what precedes it, nearest first, and what follows. -/
structure Cursor where
  before : List Char
  after : List Char

/-- Captured groups, the latest first. -/
abbrev Captures := List (Nat × List Char)

def isWordChar (c : Char) : Bool := c.isAlphanum || c == '_'

def atWordBoundary (at_ : Cursor) : Bool :=
  (at_.before.head?.any isWordChar) != (at_.after.head?.any isWordChar)

/-- Rounds of a star. -/
def starLoop {α : Type} (greedy : Bool)
    (body : Cursor → Captures → (Cursor → Captures → Option α) → Option α) :
    Nat → Cursor → Captures → (Cursor → Captures → Option α) → Option α
  | 0, at_, caps, k => k at_ caps
  | fuel + 1, at_, caps, k =>
    let again : Unit → Option α := fun _ => body at_ caps fun next caps' =>
      if next.after.length < at_.after.length then starLoop greedy body fuel next caps' k
      else none
    if greedy then (again ()).or (k at_ caps) else (k at_ caps).or (again ())

/-- Match from a position and hand every end position to the continuation until
one succeeds. -/
def run {α : Type} :
    Regex → Cursor → Captures → (Cursor → Captures → Option α) → Option α
  | .empty, at_, caps, k => k at_ caps
  | .set accepts, at_, caps, k =>
    match at_.after with
    | c :: rest => if accepts c then k ⟨c :: at_.before, rest⟩ caps else none
    | [] => none
  | .seq left right, at_, caps, k => left.run at_ caps fun next caps' => right.run next caps' k
  | .alt left right, at_, caps, k => (left.run at_ caps k).or (right.run at_ caps k)
  | .star greedy body, at_, caps, k =>
    starLoop greedy body.run (at_.after.length + 1) at_ caps k
  | .capture index body, at_, caps, k => body.run at_ caps fun next caps' =>
    k next ((index, at_.after.take (at_.after.length - next.after.length)) :: caps')
  | .wordBoundary, at_, caps, k => if atWordBoundary at_ then k at_ caps else none
  | .startAnchor, at_, caps, k => if at_.before.isEmpty then k at_ caps else none
  | .endAnchor, at_, caps, k => if at_.after.isEmpty then k at_ caps else none

/-! ### Building patterns -/

def lit (s : String) : Regex :=
  s.toList.foldr (fun c r => .seq (.set (· == c)) r) .empty

/-- A literal under the `i` flag. -/
def litI (s : String) : Regex :=
  s.toList.foldr (fun c r => .seq (.set (·.toLower == c.toLower)) r) .empty

/-- The upper case of an ASCII or Cyrillic letter or of the micro sign. -/
def foldCase (c : Char) : Char :=
  let n := c.toNat
  if 0x430 ≤ n ∧ n ≤ 0x44F then Char.ofNat (n - 32)
  else if 0x450 ≤ n ∧ n ≤ 0x45F then Char.ofNat (n - 80)
  else if n = 0x491 then Char.ofNat 0x490
  else if n = 0xB5 ∨ n = 0x3BC then Char.ofNat 0x39C
  else if 0x1C80 ≤ n ∧ n ≤ 0x1C86 then
    ([0x412, 0x414, 0x41E, 0x421, 0x422, 0x422, 0x42A][n - 0x1C80]?.map Char.ofNat).getD c
  else c.toUpper

/-- A literal with Cyrillic letters under the `i` flag. -/
def litFold (s : String) : Regex :=
  s.toList.foldr (fun c r => .seq (.set (foldCase · == foldCase c)) r) .empty

def oneOf (s : String) : Regex := .set (s.toList.contains ·)

def noneOf (s : String) : Regex := .set (!s.toList.contains ·)

/-- `\d`. -/
def digit : Regex := .set Char.isDigit

/-- `\s`. -/
def space : Regex := .set Text.isSpace

/-- `.` without the `s` flag. -/
def dot : Regex := .set fun c => c ∉ ['\n', '\r', '\u2028', '\u2029']

def isLineTerminator (c : Char) : Bool := c ∈ ['\n', '\r', '\u2028', '\u2029']

/-- `^` under the `m` flag, as the first thing of a pattern that is only tested. -/
def lineStart : Regex := .alt .startAnchor (.set isLineTerminator)

/-- `$` under the `m` flag, as the last thing of a pattern that is only tested. -/
def lineEnd : Regex := .alt .endAnchor (.set isLineTerminator)

def many (r : Regex) : Regex := .star true r

def some1 (r : Regex) : Regex := .seq r (.star true r)

def some1Lazy (r : Regex) : Regex := .seq r (.star false r)

def optional (r : Regex) : Regex := .alt r .empty

/-- `r{0,n}`. -/
def upTo : Nat → Regex → Regex
  | 0, _ => .empty
  | n + 1, r => optional (.seq r (upTo n r))

/-- Juxtaposition. -/
def cat (rs : List Regex) : Regex := rs.foldr .seq .empty

/-- `r{n,}`. -/
def atLeast (n : Nat) (r : Regex) : Regex := cat (List.replicate n r ++ [many r])

/-- Alternatives, left to right. -/
def anyOf : List Regex → Regex
  | [] => .set fun _ => false
  | [r] => r
  | r :: rs => .alt r (anyOf rs)

/-- `\b(..|..)\b` of words under the `i` flag. -/
def words (alternatives : List Regex) : Regex :=
  cat [.wordBoundary, anyOf alternatives, .wordBoundary]

/-! ### Searching -/

/-- A match: the text skipped before it, the text it covers, the position after
it, and its captures. -/
structure Hit where
  skipped : List Char
  matched : List Char
  next : Cursor
  captures : Captures

/-- Group `index` of a match, `""` when it took no part. -/
def Hit.group (hit : Hit) (index : Nat) : String :=
  String.ofList ((hit.captures.lookup index).getD [])

/-- The match that starts at a position, if there is one. -/
def matchHere (r : Regex) (before after : List Char) : Option Hit :=
  (r.run ⟨before, after⟩ [] fun next caps => some (next, caps)).map fun (next, caps) =>
    ⟨[], after.take (after.length - next.after.length), next, caps⟩

/-- The first match at or after a position. -/
def search (r : Regex) (before : List Char) : List Char → Option Hit
  | [] => matchHere r before []
  | c :: rest =>
    match matchHere r before (c :: rest) with
    | some hit => some hit
    | none =>
      (search r (c :: before) rest).map fun hit => { hit with skipped := c :: hit.skipped }

/-- `r.exec(s)`. -/
def exec (r : Regex) (s : String) : Option Hit := search r [] s.toList

/-- `r.test(s)`. -/
def test (r : Regex) (s : String) : Bool := (exec r s).isSome

/-- `s.replace(r, f)` for a pattern that is not global. -/
def replaceFirst (r : Regex) (f : Hit → String) (s : String) : String :=
  match exec r s with
  | none => s
  | some hit => String.ofList (hit.skipped ++ (f hit).toList ++ hit.next.after)

/-- Successive matches of a global pattern, each with the text before it, and the
text after the last one. -/
def matchLoop (r : Regex) : Nat → Cursor → List Hit × List Char
  | 0, at_ => ([], at_.after)
  | fuel + 1, at_ =>
    match search r at_.before at_.after with
    | none => ([], at_.after)
    | some hit =>
      if hit.matched.isEmpty then
        match hit.next.after with
        | [] => ([hit], [])
        | c :: rest =>
          match matchLoop r fuel ⟨c :: hit.next.before, rest⟩ with
          | ([], last) => ([hit], c :: last)
          | (next :: hits, last) =>
            (hit :: { next with skipped := c :: next.skipped } :: hits, last)
      else
        let (hits, last) := matchLoop r fuel hit.next
        (hit :: hits, last)

/-- All matches of a global pattern (`matchAll`). -/
def matchAll (r : Regex) (s : String) : List Hit :=
  (matchLoop r (s.toList.length + 1) ⟨[], s.toList⟩).1

/-- `s.replace(r, f)` for a global pattern. -/
def replaceAll (r : Regex) (f : Hit → String) (s : String) : String :=
  let (hits, last) := matchLoop r (s.toList.length + 1) ⟨[], s.toList⟩
  String.ofList (hits.flatMap (fun hit => hit.skipped ++ (f hit).toList) ++ last)

end Regex

end AifHandoff
