import Mathlib.Algebra.GroupWithZero.Nat
import Mathlib.Data.List.DropRight
import Mathlib.Data.List.Infix
import Mathlib.Data.List.TakeWhile

/-!
Text predicates over the characters of a string.

Strings are read through `String.toList`, so that every predicate reduces on a
literal and every lemma is a fact about lists. Positions are code points, not
UTF-16 units; prefix, infix and case tests against a literal do not depend on
the difference.
-/

namespace AifHandoff.Text

/-! Statements about the characters of a list are decided by going through the list, not through
all characters. -/

section Decide

variable {p : Char → Prop} [DecidablePred p]

instance (priority := high) decidableForallMemList (cs : List Char) : Decidable (∀ c ∈ cs, p c) :=
  List.decidableBAll p cs

instance (priority := high) decidableExistsMemList (cs : List Char) :
    Decidable (∃ c, c ∈ cs ∧ p c) := List.decidableBEx p cs

instance (priority := high) decidableForallMemOption (c? : Option Char) :
    Decidable (∀ c ∈ c?, p c) := Option.decidableForallMem c?

instance (priority := high) decidableExistsMemOption (c? : Option Char) :
    Decidable (∃ c, c ∈ c? ∧ p c) := Option.decidableExistsMem c?

end Decide

/-- `s.startsWith(p)`. -/
def startsWith (s p : String) : Bool := p.toList.isPrefixOf s.toList

/-- `s.includes(p)`. -/
def includes (s p : String) : Bool := decide (p.toList <:+: s.toList)

/-- `s.endsWith(p)`. -/
def endsWith (s p : String) : Bool := p.toList.isSuffixOf s.toList

/-- White space in the sense of `\s` and of `trim`. -/
def isSpace (c : Char) : Bool :=
  ['\t', '\n', '\u000B', '\u000C', '\r', ' ', '\u00A0', '\u1680', '\u2028', '\u2029', '\u202F',
    '\u205F', '\u3000', '\uFEFF'].contains c || ('\u2000' ≤ c && c ≤ '\u200A')

/-- `s.trim()`. -/
def trim (s : String) : String :=
  String.ofList ((s.toList.dropWhile isSpace).reverse.dropWhile isSpace).reverse

/-- `s.trimEnd()`. -/
def trimEnd (s : String) : String := String.ofList (s.toList.reverse.dropWhile isSpace).reverse

/-- `s.split(sep)` for a separator of one character. -/
def split (s : String) (sep : Char) : List String :=
  (s.toList.splitOnP (· == sep)).map String.ofList

/-- A line without the carriage return before its line feed. -/
def dropReturn (line : String) : String :=
  if endsWith line "\r" then String.ofList line.toList.dropLast else line

/-- `s.split(/\r?\n/)`. -/
def splitLines (s : String) : List String :=
  let lines := split s '\n'
  lines.dropLast.map dropReturn ++ lines.getLast?.toList

/-- `s.slice(n)` behind characters of one code unit each. -/
def dropChars (s : String) (n : Nat) : String := String.ofList (s.toList.drop n)

/-- Runs of white space as one blank. -/
def collapseChars : List Char → List Char
  | [] => []
  | c :: rest =>
    if isSpace c then
      if rest.head?.any isSpace then collapseChars rest else ' ' :: collapseChars rest
    else c :: collapseChars rest

/-- `s.replace(/\s+/g, " ")`. -/
def collapseSpace (s : String) : String := String.ofList (collapseChars s.toList)

/-- `xs.join(sep)`. -/
def join (sep : String) (xs : List String) : String := String.intercalate sep xs

/-- SQLite's `text LIKE pattern`: `%` is any text, `_` any character, and ASCII
letters are compared without case. -/
def sqlLike : List Char → List Char → Bool
  | [], text => text.isEmpty
  | p :: pattern, text =>
    if p = '%' then text.tails.any (sqlLike pattern)
    else match text with
      | [] => false
      | c :: rest => (p == '_' || p.toLower == c.toLower) && sqlLike pattern rest

/-- Lower case of one code point. `K` (kelvin sign) and `İ` are the only letters
outside ASCII whose lower case contains an ASCII letter. -/
def lowerChar (c : Char) : List Char :=
  if c = '\u212A' then ['k']
  else if c = '\u0130' then ['i', '\u0307']
  else [c.toLower]

/-- `s.toLowerCase()`. -/
def toLowerCase (s : String) : String := String.ofList (s.toList.flatMap lowerChar)

/-- Upper case of one code point. Beside the ASCII letters only these code points have an
ASCII letter in their upper case. -/
def upperChar (c : Char) : List Char :=
  if c = 'ß' then ['S', 'S']
  else if c = 'ſ' then ['S']
  else if c = 'ı' then ['I']
  else if c = 'ŉ' then ['ʼ', 'N']
  else if c = 'ǰ' then ['J', '\u030C']
  else if c = 'ẖ' then ['H', '\u0331']
  else if c = 'ẗ' then ['T', '\u0308']
  else if c = 'ẘ' then ['W', '\u030A']
  else if c = 'ẙ' then ['Y', '\u030A']
  else if c = 'ẚ' then ['A', 'ʾ']
  else if c = 'ﬀ' then ['F', 'F']
  else if c = 'ﬁ' then ['F', 'I']
  else if c = 'ﬂ' then ['F', 'L']
  else if c = 'ﬃ' then ['F', 'F', 'I']
  else if c = 'ﬄ' then ['F', 'F', 'L']
  else if c = 'ﬅ' then ['S', 'T']
  else if c = 'ﬆ' then ['S', 'T']
  else [c.toUpper]

/-- `s.toUpperCase()`. -/
def toUpperCase (s : String) : String := String.ofList (s.toList.flatMap upperChar)

/-- The UTF-16 code units of a code point. -/
def unitsOf (c : Char) : Nat := if 0xFFFF < c.toNat then 2 else 1

/-- `s.length`. -/
def utf16Length (s : String) : Nat := (s.toList.map unitsOf).sum

/-- The code points of the first `n` code units, with what stands for half a pair. -/
def takeUnitsBy (half : Char → Char) : Nat → List Char → List Char
  | 0, _ => []
  | _, [] => []
  | n + 1, c :: rest =>
    if unitsOf c = 1 then c :: takeUnitsBy half n rest
    else match n with
      | 0 => [half c]
      | n + 1 => c :: takeUnitsBy half n rest

attribute [local simp] takeUnitsBy

/-- `s.slice(0, n)`. -/
def sliceToBy (half : Char → Char) (s : String) (n : Nat) : String :=
  String.ofList (takeUnitsBy half n s.toList)

/-- The code points of the last `n` code units. -/
def lastUnitsBy (half : Char → Char) (n : Nat) (cs : List Char) : List Char :=
  (takeUnitsBy half n cs.reverse).reverse

/-- Half a pair stands as U+FFFD, which no pattern tells from it. -/
def replacementHalf (_ : Char) : Char := '\uFFFD'

def sliceTo (s : String) (n : Nat) : String := sliceToBy replacementHalf s n

def lastUnits (n : Nat) (cs : List Char) : List Char := lastUnitsBy replacementHalf n cs

/-- Characters that stand for half a surrogate pair, its first or its second one; no text has
them but where a pair was cut. -/
structure Halves where
  high : Char → Char
  low : Char → Char
  isHalf : Char → Bool
  isHalf_high : ∀ c, isHalf (high c) = true
  isHalf_low : ∀ c, isHalf (low c) = true
  single : ∀ c, isHalf c = true → unitsOf c = 1
  beyond : ∀ c, isHalf c = true → 0x7F < c.toNat
  visible : ∀ c, isHalf c = true → isSpace c = false

theorem Halves.unitsOf_high (halves : Halves) (c : Char) : unitsOf (halves.high c) = 1 :=
  halves.single _ (halves.isHalf_high c)

theorem Halves.unitsOf_low (halves : Halves) (c : Char) : unitsOf (halves.low c) = 1 :=
  halves.single _ (halves.isHalf_low c)

theorem toNat_ofNat_private {n : Nat} (least : 0xE000 ≤ n) (most : n < 0xE800) :
    (Char.ofNat n).toNat = n := by
  have valid : n.isValidChar := .inr ⟨by omega, by omega⟩
  rw [Char.ofNat, dif_pos valid]
  rfl

theorem not_isSpace_private {c : Char} (least : 0xE000 ≤ c.toNat) (most : c.toNat < 0xE800) :
    isSpace c = false := by
  rw [Bool.eq_false_iff]
  intro space
  rw [isSpace, Bool.or_eq_true, List.contains_iff_mem, Bool.and_eq_true, decide_eq_true_eq,
    decide_eq_true_eq] at space
  rcases space with listed | ⟨-, below⟩
  · have outside : ∀ d ∈ ['\t', '\n', '\u000B', '\u000C', '\r', ' ', '\u00A0', '\u1680', '\u2028',
        '\u2029', '\u202F', '\u205F', '\u3000', '\uFEFF'],
        ¬ (0xE000 ≤ d.toNat ∧ d.toNat < 0xE800) := by decide
    exact outside c listed ⟨least, most⟩
  · have small : c.toNat ≤ '\u200A'.toNat := below
    have blank : '\u200A'.toNat = 0x200A := by decide
    omega

/-- Private characters, one for each half. -/
def privateHalves : Halves where
  high c := Char.ofNat (0xE000 + (c.toNat - 0x10000) / 0x400 % 0x400)
  low c := Char.ofNat (0xE400 + (c.toNat - 0x10000) % 0x400)
  isHalf c := decide (0xE000 ≤ c.toNat) && decide (c.toNat < 0xE800)
  isHalf_high c := by
    rw [toNat_ofNat_private (by omega) (by omega), Bool.and_eq_true, decide_eq_true_eq,
      decide_eq_true_eq]
    omega
  isHalf_low c := by
    rw [toNat_ofNat_private (by omega) (by omega), Bool.and_eq_true, decide_eq_true_eq,
      decide_eq_true_eq]
    omega
  single c half := by
    rw [Bool.and_eq_true, decide_eq_true_eq, decide_eq_true_eq] at half
    rw [unitsOf, if_neg (by omega)]
  beyond c half := by
    rw [Bool.and_eq_true, decide_eq_true_eq, decide_eq_true_eq] at half
    omega
  visible c half := by
    rw [Bool.and_eq_true, decide_eq_true_eq, decide_eq_true_eq] at half
    exact not_isSpace_private half.1 half.2

/-- `s.replaceAll("\\", "/")`. -/
def forwardSlashes (s : String) : String :=
  String.ofList (s.toList.map fun c => if c = '\\' then '/' else c)

/-- `s.replace(/^\.\/+/, "")`. -/
def stripDotSlash (s : String) : String :=
  match s.toList with
  | '.' :: '/' :: rest => String.ofList (rest.dropWhile (· == '/'))
  | _ => s

/-- The UTF-16 code units of a code point. -/
def codeUnits (c : Char) : List Nat :=
  if c.toNat < 0x10000 then [c.toNat]
  else [0xD800 + (c.toNat - 0x10000) / 0x400, 0xDC00 + (c.toNat - 0x10000) % 0x400]

/-- The double nearest to a natural number, ties to even. Every number from
`2 ^ 1024 - 2 ^ 970` on becomes `Infinity`, which stands as `2 ^ 1024` here: no
finite double has that value, and it compares above all of them. -/
def nearestDouble (n : Nat) : Nat :=
  if n < 2 ^ 53 then n
  else
    let unit := 2 ^ (n.log2 - 52)
    let low := n / unit * unit
    let rounded :=
      if 2 * (n - low) > unit ∨ (2 * (n - low) = unit ∧ n / unit % 2 = 1) then low + unit else low
    min rounded (2 ^ 1024)

/-- `Infinity`. -/
def infinity : Nat := 2 ^ 1024

/-- `Number(s)` of a text of ASCII digits. -/
def numberOfDigits (digits : List Char) : Nat :=
  nearestDouble (digits.foldl (fun n c => 10 * n + (c.toNat - '0'.toNat)) 0)

theorem utf16Length_append (s t : String) :
    utf16Length (s ++ t) = utf16Length s + utf16Length t := by
  simp [utf16Length]

theorem unitsOf_pos (c : Char) : 1 ≤ unitsOf c := by
  rw [unitsOf]
  split <;> omega

theorem unitsOf_le (c : Char) : unitsOf c ≤ 2 := by
  rw [unitsOf]
  split <;> omega

section Units

variable {half : Char → Char}

theorem takeUnitsBy_single {n : Nat} {c : Char} {rest : List Char} (single : unitsOf c = 1) :
    takeUnitsBy half (n + 1) (c :: rest) = c :: takeUnitsBy half n rest := by
  cases n <;> simp [takeUnitsBy, single]

theorem takeUnitsBy_double {n : Nat} {c : Char} {rest : List Char} (double : unitsOf c ≠ 1) :
    takeUnitsBy half (n + 2) (c :: rest) = c :: takeUnitsBy half n rest := by
  simp [takeUnitsBy, double]

/-- The cut takes as many code units as there are, and `n` at most. -/
theorem units_takeUnitsBy (single_half : ∀ c, unitsOf (half c) = 1) (n : Nat) (cs : List Char) :
    ((takeUnitsBy half n cs).map unitsOf).sum = min n (cs.map unitsOf).sum := by
  induction n, cs using takeUnitsBy.induct with
  | case1 cs =>
    rw [takeUnitsBy]
    simp
  | case2 n =>
    rw [takeUnitsBy]
    · simp
    · rintro rfl
      simp_all
  | case3 n c rest single ih =>
    rw [Nat.succ_eq_add_one, takeUnitsBy_single single]
    simp only [List.map_cons, List.sum_cons, ih, single]
    omega
  | case4 c rest double =>
    have least := unitsOf_pos c
    simp only [takeUnitsBy, if_neg double, List.map_cons, List.map_nil, List.sum_cons,
      List.sum_nil, single_half c]
    omega
  | case5 c rest double n ih =>
    have least := unitsOf_pos c
    have most := unitsOf_le c
    rw [takeUnitsBy_double double]
    simp only [List.map_cons, List.sum_cons, ih]
    omega

theorem utf16Length_sliceToBy (single_half : ∀ c, unitsOf (half c) = 1) (s : String) (n : Nat) :
    utf16Length (sliceToBy half s n) = min n (utf16Length s) := by
  rw [utf16Length, sliceToBy, String.toList_ofList]
  exact units_takeUnitsBy single_half n s.toList

theorem unitsOf_replacementHalf (c : Char) : unitsOf (replacementHalf c) = 1 := by
  rw [replacementHalf]
  decide

theorem utf16Length_sliceTo (s : String) (n : Nat) :
    utf16Length (sliceTo s n) = min n (utf16Length s) :=
  utf16Length_sliceToBy unitsOf_replacementHalf s n

theorem takeUnitsBy_append {n : Nat} {cs rest : List Char} (exact_ : (cs.map unitsOf).sum = n) :
    takeUnitsBy half n (cs ++ rest) = cs := by
  induction cs generalizing n with
  | nil =>
    obtain rfl : n = 0 := exact_.symm
    simp [takeUnitsBy]
  | cons c cs ih =>
    rw [List.map_cons, List.sum_cons] at exact_
    by_cases single : unitsOf c = 1
    · obtain ⟨m, rfl⟩ : ∃ m, n = m + 1 := ⟨n - 1, by omega⟩
      rw [List.cons_append, takeUnitsBy_single single, ih (by omega)]
    · have two : unitsOf c = 2 := by
        have least := unitsOf_pos c
        have most := unitsOf_le c
        omega
      obtain ⟨m, rfl⟩ : ∃ m, n = m + 2 := ⟨n - 2, by omega⟩
      rw [List.cons_append, takeUnitsBy_double single, ih (by omega)]

theorem takeUnitsBy_of_le {n : Nat} {cs : List Char} (short : (cs.map unitsOf).sum ≤ n) :
    takeUnitsBy half n cs = cs := by
  induction n, cs using takeUnitsBy.induct with
  | case1 cs =>
    cases cs with
    | nil => rw [takeUnitsBy]
    | cons c rest =>
      have least := unitsOf_pos c
      rw [List.map_cons, List.sum_cons] at short
      omega
  | case2 n some_ =>
    rw [takeUnitsBy]
    exact some_
  | case3 n c rest single ih =>
    rw [List.map_cons, List.sum_cons] at short
    rw [Nat.succ_eq_add_one, takeUnitsBy_single single, ih (by omega)]
  | case4 c rest double =>
    have least := unitsOf_pos c
    rw [List.map_cons, List.sum_cons] at short
    omega
  | case5 c rest double n ih =>
    have least := unitsOf_pos c
    rw [List.map_cons, List.sum_cons] at short
    rw [takeUnitsBy_double double, ih (by omega)]

theorem sliceToBy_of_le {s : String} {n : Nat} (short : utf16Length s ≤ n) :
    sliceToBy half s n = s := by
  rw [sliceToBy, takeUnitsBy_of_le short, String.ofList_toList]

theorem sliceTo_of_le {s : String} {n : Nat} (short : utf16Length s ≤ n) : sliceTo s n = s :=
  sliceToBy_of_le short

/-- A long text is its own beginning and three dots exactly when these are its last
characters. -/
theorem sliceToBy_append_dots_eq_iff (single_half : ∀ c, unitsOf (half c) = 1) {s : String} {n : Nat}
    (long : n < utf16Length s) :
    sliceToBy half s n ++ "..." = s ↔ utf16Length s = n + 3 ∧ endsWith s "..." = true := by
  have dots : utf16Length "..." = 3 := by decide
  constructor
  · intro same
    have ends : endsWith s "..." = true := by
      rw [endsWith, List.isSuffixOf_iff_suffix, ← same, String.toList_append]
      exact List.suffix_append _ _
    have measured := congrArg utf16Length same
    rw [utf16Length_append, dots] at measured
    rw [utf16Length_sliceToBy single_half, Nat.min_eq_left long.le] at measured
    exact ⟨measured.symm, ends⟩
  · rintro ⟨measured, ends⟩
    rw [endsWith, List.isSuffixOf_iff_suffix] at ends
    obtain ⟨front, split⟩ := ends
    have front_units : (front.map unitsOf).sum = n := by
      rw [utf16Length, ← split, List.map_append, List.sum_append] at measured
      have three : (("...".toList).map unitsOf).sum = 3 := by decide
      omega
    rw [sliceToBy, ← split, takeUnitsBy_append front_units]
    apply String.toList_injective
    rw [String.toList_append, String.toList_ofList, split]

end Units

theorem split_append_newline (s t : String) :
    split (s ++ "\n" ++ t) '\n' = split s '\n' ++ split t '\n' := by
  have newline : "\n".toList = ['\n'] := by decide
  rw [split, String.toList_append, String.toList_append, newline, List.append_assoc,
    List.singleton_append, List.splitOnP_append_cons _ _ (by simp), List.map_append]
  rfl

theorem startsWith_iff {s p : String} : startsWith s p = true ↔ p.toList <+: s.toList := by
  simp [startsWith, List.isPrefixOf_iff_prefix]

theorem includes_iff {s p : String} : includes s p = true ↔ p.toList <:+: s.toList := by
  simp [includes]

@[simp] theorem startsWith_append (p s : String) : startsWith (p ++ s) p = true := by
  simp [startsWith_iff]

/-- A literal of lower-case characters is a prefix of its own lower-cased
continuations. -/
theorem startsWith_toLowerCase {p s : String} (lower : p.toList.flatMap lowerChar = p.toList) :
    startsWith (toLowerCase (p ++ s)) p = true := by
  rw [startsWith_iff]
  simp only [toLowerCase, String.toList_ofList, String.toList_append, List.flatMap_append, lower]
  exact List.prefix_append _ _

theorem mem_toLowerCase {s : String} {c : Char} :
    c ∈ (toLowerCase s).toList ↔ ∃ d ∈ s.toList, c ∈ lowerChar d := by
  simp [toLowerCase]

theorem mem_join {sep : String} {xs : List String} {c : Char} (found : c ∈ (join sep xs).toList) :
    c ∈ sep.toList ∨ ∃ x ∈ xs, c ∈ x.toList := by
  induction xs with
  | nil => simp [join, String.intercalate_nil] at found
  | cons x rest ih =>
    cases rest with
    | nil =>
      rw [join, String.intercalate_singleton] at found
      exact .inr ⟨x, by simp, found⟩
    | cons y rest =>
      rw [join, String.intercalate_cons_cons] at found
      simp only [String.toList_append, List.mem_append] at found
      rcases found with (inPart | inSep) | inRest
      · exact .inr ⟨x, by simp, inPart⟩
      · exact .inl inSep
      · rcases ih inRest with inSep | ⟨z, among, inPart⟩
        · exact .inl inSep
        · exact .inr ⟨z, List.mem_cons_of_mem x among, inPart⟩

theorem not_includes_of_char {s p : String} (c : Char) (inPattern : c ∈ p.toList)
    (absent : c ∉ s.toList) : includes s p = false := by
  rw [Bool.eq_false_iff, ne_eq, includes_iff]
  intro found
  exact absent (found.subset inPattern)

/-- Prefixes of one text are comparable: a text cannot start with two literals
of which neither extends the other. -/
theorem not_startsWith_of_startsWith {s p : String} (q : String) (starts : startsWith s p = true)
    (left : ¬ p.toList <+: q.toList) (right : ¬ q.toList <+: p.toList) :
    startsWith s q = false := by
  rw [Bool.eq_false_iff, ne_eq, startsWith_iff]
  intro starts'
  rcases List.prefix_or_prefix_of_prefix (startsWith_iff.mp starts) starts' with h | h
  · exact left h
  · exact right h

/-- What avoids a character and stands before it in a text ends before it. -/
theorem prefix_append_cons {x a b : List Char} {d : Char} (avoids : d ∉ x)
    (found : x <+: a ++ d :: b) : x <+: a := by
  induction x generalizing a with
  | nil => exact List.nil_prefix
  | cons c x ih =>
    cases a with
    | nil =>
      have same := (List.cons_prefix_cons.mp found).1
      exact absurd (by simp [same]) avoids
    | cons e a =>
      obtain ⟨same, rest⟩ := List.cons_prefix_cons.mp (by simpa using found)
      exact List.cons_prefix_cons.mpr ⟨same, ih (fun h => avoids (List.mem_cons_of_mem c h)) rest⟩

theorem infix_append_cons {x a b : List Char} {d : Char} (avoids : d ∉ x)
    (found : x <:+: a ++ d :: b) : x <:+: a ∨ x <:+: b := by
  induction a with
  | nil =>
    rcases List.infix_cons_iff.mp found with first | later
    · left
      exact (prefix_append_cons (a := []) avoids first).isInfix
    · exact .inr later
  | cons c a ih =>
    rcases List.infix_cons_iff.mp (by simpa using found) with first | later
    · exact .inl (prefix_append_cons (a := c :: a) avoids (by simpa using first)).isInfix
    · exact (ih later).imp_left fun h => List.infix_cons h

theorem infix_of_append {x a b : List Char} (avoids : ∀ d ∈ b, d ∉ x) (some_ : x ≠ [])
    (found : x <:+: a ++ b) : x <:+: a := by
  induction b with
  | nil => simpa using found
  | cons d b ih =>
    rcases infix_append_cons (avoids d List.mem_cons_self) found with here | later
    · exact here
    · exfalso
      obtain ⟨front, back, split⟩ := later
      cases x with
      | nil => exact some_ rfl
      | cons c x =>
        have inside : c ∈ b := by rw [← split]; simp
        exact avoids c (List.mem_cons_of_mem d inside) List.mem_cons_self

/-- The characters that end within the first `n` code units. -/
def wholeWithin : Nat → List Char → List Char
  | _, [] => []
  | n, c :: rest => if unitsOf c ≤ n then c :: wholeWithin (n - unitsOf c) rest else []

/-- The first `n` code units end within a pair. -/
def splitsPair (n : Nat) (cs : List Char) : Bool :=
  decide (((wholeWithin n cs).map unitsOf).sum < min n (cs.map unitsOf).sum)

theorem wholeWithin_cons {n : Nat} {c : Char} (rest : List Char) (fits : unitsOf c ≤ n) :
    wholeWithin n (c :: rest) = c :: wholeWithin (n - unitsOf c) rest := by
  rw [wholeWithin, if_pos fits]

theorem splitsPair_cons {n : Nat} {c : Char} (rest : List Char) (fits : unitsOf c ≤ n) :
    splitsPair n (c :: rest) = splitsPair (n - unitsOf c) rest := by
  rw [splitsPair, splitsPair, wholeWithin_cons rest fits]
  simp only [List.map_cons, List.sum_cons, decide_eq_decide]
  omega

/-- Half a pair stands behind the whole characters exactly where one is split. -/
theorem takeUnitsBy_eq_wholeWithin (half : Char → Char) (n : Nat) (cs : List Char) :
    ∃ c, takeUnitsBy half n cs = wholeWithin n cs ++ if splitsPair n cs then [half c] else [] := by
  induction n, cs using takeUnitsBy.induct with
  | case1 cs =>
    have none_ : wholeWithin 0 cs = [] := by
      cases cs with
      | nil => rfl
      | cons c rest => rw [wholeWithin, if_neg (Nat.not_le.mpr (unitsOf_pos c))]
    exact ⟨' ', by simp [takeUnitsBy, none_, splitsPair]⟩
  | case2 n some_ =>
    refine ⟨' ', ?_⟩
    rw [takeUnitsBy]
    · simp [wholeWithin, splitsPair]
    · exact some_
  | case3 n c rest single ih =>
    obtain ⟨d, cut⟩ := ih
    have fits : unitsOf c ≤ n + 1 := by omega
    refine ⟨d, ?_⟩
    rw [Nat.succ_eq_add_one, takeUnitsBy_single single, wholeWithin_cons rest fits,
      splitsPair_cons rest fits, single, Nat.add_sub_cancel, cut]
    rfl
  | case4 c rest double =>
    have least := unitsOf_pos c
    have none_ : wholeWithin 1 (c :: rest) = [] := by rw [wholeWithin, if_neg (by omega)]
    have splits : splitsPair 1 (c :: rest) = true := by
      rw [splitsPair, none_, List.map_nil, List.sum_nil, decide_eq_true_eq, List.map_cons,
        List.sum_cons]
      omega
    refine ⟨c, ?_⟩
    rw [none_, splits]
    simp only [takeUnitsBy, if_neg double]
    rfl
  | case5 c rest double n ih =>
    obtain ⟨d, cut⟩ := ih
    have two : unitsOf c = 2 := by
      have least := unitsOf_pos c
      have most := unitsOf_le c
      omega
    have fits : unitsOf c ≤ n + 2 := by omega
    refine ⟨d, ?_⟩
    rw [takeUnitsBy_double double, wholeWithin_cons rest fits, splitsPair_cons rest fits, two,
      Nat.add_sub_cancel, cut]
    rfl

theorem wholeWithin_prefix (n : Nat) (cs : List Char) : wholeWithin n cs <+: cs := by
  induction cs generalizing n with
  | nil => exact List.prefix_rfl
  | cons c rest ih =>
    rw [wholeWithin]
    split
    · exact List.cons_prefix_cons.mpr ⟨rfl, ih _⟩
    · exact List.nil_prefix

theorem takeUnitsBy_eq (half : Char → Char) (n : Nat) (cs : List Char) :
    ∃ front rest, front <+: cs ∧ takeUnitsBy half n cs = front ++ rest ∧
      ∀ c ∈ rest, ∃ d, c = half d := by
  obtain ⟨d, cut⟩ := takeUnitsBy_eq_wholeWithin half n cs
  refine ⟨_, _, wholeWithin_prefix n cs, cut, fun c inside => ⟨d, ?_⟩⟩
  split at inside
  · exact List.mem_singleton.mp inside
  · cases inside

theorem reverse_dropWhile_isPrefix (cs : List Char) :
    (cs.reverse.dropWhile isSpace).reverse <+: cs := by
  rw [← List.reverse_suffix, List.reverse_reverse]
  exact List.dropWhile_suffix isSpace

theorem trim_infix (s : String) : (trim s).toList <:+: s.toList := by
  rw [trim, String.toList_ofList]
  exact (reverse_dropWhile_isPrefix _).isInfix.trans (List.dropWhile_suffix isSpace).isInfix

theorem dropWhile_of_prefix {p : Char → Bool} {cs front : List Char}
    (starts : front <+: cs.dropWhile p) : front.dropWhile p = front := by
  cases front with
  | nil => rfl
  | cons c front =>
    obtain ⟨rest, split⟩ := starts
    have kept := List.dropWhile_idempotent p cs
    rw [← split, List.cons_append] at kept
    cases dropped : p c with
    | false => exact List.dropWhile_cons_of_neg (by simp [dropped])
    | true =>
      rw [List.dropWhile_cons_of_pos dropped] at kept
      have shorter := congrArg List.length kept
      have le := List.length_dropWhile_le p (front ++ rest)
      rw [List.length_cons] at shorter
      omega

theorem trim_trim (s : String) : trim (trim s) = trim s := by
  have kept := dropWhile_of_prefix (reverse_dropWhile_isPrefix (s.toList.dropWhile isSpace))
  unfold trim
  rw [String.toList_ofList, kept, List.reverse_reverse, List.dropWhile_idempotent]

theorem trimEnd_prefix (s : String) : (trimEnd s).toList <+: s.toList := by
  rw [trimEnd, String.toList_ofList, ← List.reverse_suffix, List.reverse_reverse]
  exact List.dropWhile_suffix isSpace

/-- A text without white space is left alone. -/
theorem trim_of_no_space {s : String} (plain : ∀ c ∈ s.toList, isSpace c = false) : trim s = s := by
  have kept (cs : List Char) (none_ : ∀ c ∈ cs, isSpace c = false) : cs.dropWhile isSpace = cs := by
    cases cs with
    | nil => rfl
    | cons c rest => simp [none_ c List.mem_cons_self]
  rw [trim, kept _ plain, kept _ (fun c inside => plain c (List.mem_reverse.mp inside))]
  simp

theorem any_dropWhile (cs : List Char) :
    (cs.dropWhile isSpace).any (!isSpace ·) = cs.any (!isSpace ·) := by
  induction cs with
  | nil => rfl
  | cons c cs ih =>
    rw [List.dropWhile_cons]
    split
    next space => rw [ih, List.any_cons, space, Bool.not_true, Bool.false_or]
    next => rfl

theorem any_trim (s : String) : (trim s).toList.any (!isSpace ·) = s.toList.any (!isSpace ·) := by
  rw [trim, String.toList_ofList, List.any_reverse, any_dropWhile, List.any_reverse, any_dropWhile]

/-- Something is left of a text exactly when it has a character that is no white space. -/
theorem trim_isEmpty_iff {s : String} :
    (trim s).isEmpty = false ↔ s.toList.any (!isSpace ·) = true := by
  rw [← Bool.not_eq_true, String.isEmpty_iff, ← String.toList_eq_nil_iff]
  constructor
  · intro some_
    rw [List.any_eq_true]
    by_contra all
    refine some_ ?_
    have blank : ∀ c ∈ s.toList, isSpace c = true := by
      intro c inside
      by_contra other
      exact all ⟨c, inside, by simpa using other⟩
    have nothing : s.toList.dropWhile isSpace = [] := List.dropWhile_eq_nil_iff.mpr blank
    rw [trim, String.toList_ofList, nothing]
    rfl
  · intro visible nothing
    rw [← any_trim, nothing] at visible
    cases visible

/-! ### Words in longer texts -/

/-- A word does not go over a character that it does not have. -/
theorem prefix_of_append_cons {word front behind : List Char} {c : Char} (absent : c ∉ word)
    (starts : word <+: front ++ c :: behind) : word <+: front := by
  rcases List.prefix_or_prefix_of_prefix starts (List.prefix_append front _) with whole | part
  · exact whole
  · obtain ⟨more, rfl⟩ := part
    rw [List.prefix_append_right_inj] at starts
    cases more with
    | nil => rw [List.append_nil]
    | cons d more =>
      obtain ⟨rfl, -⟩ := List.cons_prefix_cons.mp starts
      exact absurd (List.mem_append_right _ List.mem_cons_self) absent

end AifHandoff.Text
