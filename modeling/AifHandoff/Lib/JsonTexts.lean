import AifHandoff.Lib.JsonNumbers
import AifHandoff.Lib.Text
import Mathlib.Tactic.SplitIfs

/-!
The strings of a JSON value, and where a pattern can stand in its text.

A pattern of characters that are written as they are, that has no character of a literal or a
bracket and not only those of numbers, stands in the text of a value only inside one of its
strings.
-/

namespace AifHandoff.Json

variable {ν : Type}

mutual

/-- The strings of a value, its keys included. -/
def texts : Json ν → List String
  | .str s => [s]
  | .arr items => itemTexts items
  | .obj fields => fieldTexts fields
  | _ => []

def itemTexts : List (Json ν) → List String
  | [] => []
  | item :: rest => texts item ++ itemTexts rest

def fieldTexts : List (String × Json ν) → List String
  | [] => []
  | (key, value) :: rest => key :: texts value ++ fieldTexts rest

end

/-- The characters of brackets, separators and literals. -/
def isStructure (c : Char) : Bool := "\x7b\x7d[]:,nulltrefas\"".toList.contains c

/-- A pattern that can only stand in a string. -/
structure InStrings (pattern : List Char) : Prop where
  plain : ∀ c ∈ pattern, escapeChar c = [c]
  verbatim : ∀ c ∈ pattern, ∀ d, c ∈ escapeChar d → d = c
  noStructure : ∀ c ∈ pattern, isStructure c = false
  mark : ∃ c ∈ pattern, isNumberChar c = false

section Patterns

variable {pattern : List Char}

/-- A pattern does not go over a character that it does not have. -/
theorem infix_append_cons_iff {c : Char} (absent : c ∉ pattern) (left right : List Char) :
    pattern <:+: left ++ c :: right ↔ pattern <:+: left ∨ pattern <:+: right := by
  constructor
  · rintro ⟨before, behind, whole⟩
    rcases List.append_eq_append_iff.mp whole with ⟨m, inLeft, -⟩ | ⟨m, beyond, rest⟩
    · exact .inl ⟨before, m, inLeft.symm⟩
    · cases m with
      | nil =>
        rw [List.append_nil] at beyond
        exact .inl ⟨before, [], by rw [List.append_nil, beyond]⟩
      | cons d m =>
        obtain ⟨rfl, right_⟩ := List.cons.inj rest
        rcases List.append_eq_append_iff.mp beyond with ⟨k, -, cut⟩ | ⟨k, -, cut⟩
        · exact absurd (by rw [cut]; simp) absent
        · cases k with
          | nil =>
            rw [List.nil_append] at cut
            exact absurd (by rw [← cut]; exact List.mem_cons_self) absent
          | cons e k =>
            obtain ⟨-, inRight⟩ := List.cons.inj cut
            refine .inr ⟨k, behind, ?_⟩
            rw [right_, inRight]
            rfl
  · rintro (inLeft | inRight)
    · exact inLeft.trans (List.prefix_append left _).isInfix
    · exact inRight.trans ((List.suffix_cons c right).trans (List.suffix_append left _)).isInfix

theorem infix_of_disjoint {front rest : List Char} (some_ : pattern ≠ [])
    (disjoint : ∀ c ∈ pattern, c ∉ front) (found : pattern <:+: front ++ rest) :
    pattern <:+: rest := by
  induction front with
  | nil => exact found
  | cons d front ih =>
    rcases List.infix_cons_iff.mp found with starts | later
    · obtain ⟨c, more, rfl⟩ := List.exists_cons_of_ne_nil some_
      obtain ⟨rfl, -⟩ := List.cons_prefix_cons.mp starts
      exact absurd List.mem_cons_self (disjoint c List.mem_cons_self)
    · exact ih (fun c inside among => disjoint c inside (List.mem_cons_of_mem d among)) later

theorem InStrings.ne_nil (inStrings : InStrings pattern) : pattern ≠ [] := by
  obtain ⟨c, inside, -⟩ := inStrings.mark
  exact List.ne_nil_of_mem inside

theorem escapeChar_ne_nil (c : Char) : escapeChar c ≠ [] := by
  rw [escapeChar]
  split_ifs <;> exact List.cons_ne_nil _ _

theorem InStrings.absent (inStrings : InStrings pattern) {c : Char}
    (structure_ : isStructure c = true) : c ∉ pattern := by
  intro inside
  rw [inStrings.noStructure c inside] at structure_
  cases structure_

theorem prefix_escape_iff (plain : ∀ c ∈ pattern, escapeChar c = [c])
    (verbatim : ∀ c ∈ pattern, ∀ d, c ∈ escapeChar d → d = c) (cs : List Char) :
    pattern <+: escape cs ↔ pattern <+: cs := by
  induction pattern generalizing cs with
  | nil => exact iff_of_true List.nil_prefix List.nil_prefix
  | cons c rest ih =>
    cases cs with
    | nil => rfl
    | cons d ds =>
      have later := ih (fun e inside => plain e (List.mem_cons_of_mem c inside))
        (fun e inside => verbatim e (List.mem_cons_of_mem c inside)) ds
      by_cases same : d = c
      · subst same
        have split : escape (d :: ds) = d :: escape ds := by
          rw [escape, List.flatMap_cons, plain d List.mem_cons_self]
          rfl
        rw [split, List.prefix_cons_inj, List.prefix_cons_inj, later]
      · obtain ⟨e, es, first⟩ := List.exists_cons_of_ne_nil (escapeChar_ne_nil d)
        have other : c ≠ e := by
          rintro rfl
          exact same (verbatim c List.mem_cons_self d (by rw [first]; exact List.mem_cons_self))
        refine iff_of_false (fun starts => other ?_) fun starts => same ?_
        · rw [escape, List.flatMap_cons, first, List.cons_append] at starts
          exact (List.cons_prefix_cons.mp starts).1
        · exact (List.cons_prefix_cons.mp starts).1.symm

/-- Escaping keeps the pattern, and makes none. -/
theorem infix_escape_iff (inStrings : InStrings pattern) (cs : List Char) :
    pattern <:+: escape cs ↔ pattern <:+: cs := by
  have starts := prefix_escape_iff inStrings.plain inStrings.verbatim
  induction cs with
  | nil => rfl
  | cons d ds ih =>
    have later : pattern <:+: escape ds ↔ pattern <:+: ds := ih
    have split : escape (d :: ds) = escapeChar d ++ escape ds := by
      rw [escape, List.flatMap_cons]
      rfl
    by_cases plain : escapeChar d = [d]
    · have whole : escape (d :: ds) = d :: escape ds := by
        rw [split, plain]
        rfl
      rw [whole, List.infix_cons_iff, ← whole, starts, later, ← List.infix_cons_iff]
    · have disjoint : ∀ c ∈ pattern, c ∉ escapeChar d := by
        intro c inside among
        obtain rfl := inStrings.verbatim c inside d among
        exact plain (inStrings.plain d inside)
      have notFirst : ¬ pattern <+: d :: ds := by
        intro first
        obtain ⟨c, more, shape⟩ := List.exists_cons_of_ne_nil inStrings.ne_nil
        rw [shape] at first
        obtain ⟨rfl, -⟩ := List.cons_prefix_cons.mp first
        exact plain (inStrings.plain c (by rw [shape]; exact List.mem_cons_self))
      rw [split, List.infix_cons_iff, or_iff_right notFirst, ← later]
      exact ⟨infix_of_disjoint inStrings.ne_nil disjoint,
        fun inside => inside.trans (List.suffix_append _ _).isInfix⟩

theorem infix_bracket_iff (inStrings : InStrings pattern) {left right : Char}
    (opens : isStructure left = true) (closes : isStructure right = true) (inside : List Char) :
    pattern <:+: left :: (inside ++ [right]) ↔ pattern <:+: inside := by
  have notNil : ¬ pattern <:+: [] := fun found => inStrings.ne_nil (List.infix_nil.mp found)
  have split : left :: (inside ++ [right]) = [] ++ left :: (inside ++ right :: []) := rfl
  rw [split, infix_append_cons_iff (inStrings.absent opens),
    infix_append_cons_iff (inStrings.absent closes), or_iff_right notNil, or_iff_left notNil]

theorem infix_quote_iff (inStrings : InStrings pattern) (s : String) :
    pattern <:+: quote s ↔ pattern <:+: s.toList := by
  have split : quote s = '"' :: (escape s.toList ++ ['"']) := rfl
  rw [split, infix_bracket_iff inStrings (by decide) (by decide), infix_escape_iff inStrings]

end Patterns

section Values

variable {pattern : List Char} {N : NumberTexts ν}

theorem InStrings.not_in_number (inStrings : InStrings pattern) (lawful : LawfulNumbers N) (n : ν) :
    ¬ pattern <:+: N.write n := by
  obtain ⟨c, inside, noNumber⟩ := inStrings.mark
  intro found
  have number := isNumberChar_of_isNumber (lawful.isNumber n) c (found.subset inside)
  rw [noNumber] at number
  cases number

theorem InStrings.not_in_literal (inStrings : InStrings pattern) {text : List Char}
    (usual : ∀ c ∈ text, isStructure c = true) : ¬ pattern <:+: text := by
  obtain ⟨c, inside, -⟩ := inStrings.mark
  exact fun found => inStrings.absent (usual c (found.subset inside)) inside

theorem infix_separated_iff (inStrings : InStrings pattern) {α : Type} (rest : List α)
    (first : List Char) (text : List Char) (nothing : rest = [] → ¬ pattern <:+: text) :
    pattern <:+: first ++ (if rest.isEmpty then [] else ',' :: text) ↔
      pattern <:+: first ∨ pattern <:+: text := by
  cases rest with
  | nil => rw [List.isEmpty_nil, if_pos rfl, List.append_nil, or_iff_left (nothing rfl)]
  | cons next rest =>
    rw [List.isEmpty_cons, if_neg Bool.false_ne_true,
      infix_append_cons_iff (inStrings.absent (by decide))]

mutual

/-- The pattern stands in the text of a value exactly when it stands in one of its strings. -/
theorem infix_stringify_iff (lawful : LawfulNumbers N) (inStrings : InStrings pattern) :
    ∀ v : Json ν, pattern <:+: stringify N.write v ↔ ∃ s ∈ texts v, pattern <:+: s.toList
  | .null => by
    rw [stringify]
    exact iff_of_false (inStrings.not_in_literal (by decide)) (by simp [texts])
  | .bool true => by
    rw [stringify]
    exact iff_of_false (inStrings.not_in_literal (by decide)) (by simp [texts])
  | .bool false => by
    rw [stringify]
    exact iff_of_false (inStrings.not_in_literal (by decide)) (by simp [texts])
  | .num n => by
    rw [stringify]
    exact iff_of_false (inStrings.not_in_number lawful n) (by simp [texts])
  | .str s => by
    rw [stringify, infix_quote_iff inStrings]
    simp [texts]
  | .arr items => by
    rw [stringify, List.cons_append, infix_bracket_iff inStrings (by decide) (by decide),
      infix_stringifyItems_iff lawful inStrings, texts]
  | .obj fields => by
    rw [stringify, List.cons_append, infix_bracket_iff inStrings (by decide) (by decide),
      infix_stringifyFields_iff lawful inStrings, texts]

theorem infix_stringifyItems_iff (lawful : LawfulNumbers N) (inStrings : InStrings pattern) :
    ∀ items : List (Json ν), pattern <:+: stringifyItems N.write items ↔
      ∃ s ∈ itemTexts items, pattern <:+: s.toList
  | [] => by
    rw [stringifyItems]
    exact iff_of_false (inStrings.not_in_literal (by simp)) (by simp [itemTexts])
  | item :: rest => by
    have later := infix_stringifyItems_iff lawful inStrings rest
    have nothing : rest = [] → ¬ pattern <:+: stringifyItems N.write rest := by
      rintro rfl
      exact inStrings.not_in_literal (by simp [stringifyItems])
    rw [stringifyItems, infix_separated_iff inStrings rest _ _ nothing, later,
      infix_stringify_iff lawful inStrings item, itemTexts]
    simp only [List.mem_append, or_and_right, exists_or]

theorem infix_stringifyFields_iff (lawful : LawfulNumbers N) (inStrings : InStrings pattern) :
    ∀ fields : List (String × Json ν), pattern <:+: stringifyFields N.write fields ↔
      ∃ s ∈ fieldTexts fields, pattern <:+: s.toList
  | [] => by
    rw [stringifyFields]
    exact iff_of_false (inStrings.not_in_literal (by simp)) (by simp [fieldTexts])
  | (key, value) :: rest => by
    have later := infix_stringifyFields_iff lawful inStrings rest
    have nothing : rest = [] → ¬ pattern <:+: stringifyFields N.write rest := by
      rintro rfl
      exact inStrings.not_in_literal (by simp [stringifyFields])
    rw [stringifyFields, infix_separated_iff inStrings rest _ _ nothing, later,
      infix_append_cons_iff (inStrings.absent (by decide)), infix_quote_iff inStrings,
      infix_stringify_iff lawful inStrings value, fieldTexts]
    simp only [List.mem_append, List.mem_cons, or_and_right, exists_or, exists_eq_left]

end

end Values

/-! ### Natural numbers -/

/-- Natural numbers in decimal digits. -/
def decimalNumbers : NumberTexts Nat where
  write := Nat.toDigits 10
  read := fun digits => Nat.ofDigitChars 10 digits 0

theorem toDigits_head {n : Nat} (positive : 0 < n) :
    ∃ c rest, Nat.toDigits 10 n = c :: rest ∧ c ≠ '0' := by
  induction n using Nat.strongRecOn with
  | ind n ih =>
    by_cases small : n < 10
    · have visible : ∀ n < 10, 0 < n → n.digitChar ≠ '0' := by decide
      exact ⟨n.digitChar, [], Nat.toDigits_of_lt_base small, visible n small positive⟩
    · obtain ⟨c, rest, digits, visible⟩ := ih (n / 10) (by omega) (by omega)
      refine ⟨c, rest ++ [(n % 10).digitChar], ?_, visible⟩
      rw [Nat.toDigits_of_base_le (by decide) (by omega), digits, List.cons_append]

theorem isNumber_toDigits (n : Nat) : isNumber (Nat.toDigits 10 n) = true := by
  by_cases zero : n = 0
  · rw [zero, Nat.toDigits_zero]
    rfl
  obtain ⟨c, rest, digits, visible⟩ := toDigits_head (Nat.pos_of_ne_zero zero)
  have digit : ∀ d ∈ c :: rest, d.isDigit = true := by
    intro d inside
    rw [← digits] at inside
    exact Nat.isDigit_of_mem_toDigits (by decide) (by decide) inside
  have first := digit c List.mem_cons_self
  have minus : c ≠ '-' := by
    rintro rfl
    cases first
  have later : rest.dropWhile Char.isDigit = [] :=
    List.dropWhile_eq_nil_iff.mpr fun d inside => digit d (List.mem_cons_of_mem c inside)
  have unsigned : isUnsigned (c :: rest) = true := by
    rw [isUnsigned.eq_def]
    split
    · rename_i shape
      exact absurd (List.cons.inj shape).1 visible
    · rename_i shape
      obtain ⟨rfl, rfl⟩ := List.cons.inj shape
      rw [first, later]
      rfl
    · rename_i shape
      cases shape
  rw [digits, isNumber.eq_def]
  split
  · rename_i shape
    exact absurd (List.cons.inj shape).1 minus
  · exact unsigned

theorem lawful_decimalNumbers : LawfulNumbers decimalNumbers where
  isNumber := isNumber_toDigits
  read := fun _ => Nat.ofDigitChars_ten_toDigits

/-- Decimal digits are read back. -/
theorem finiteNumbers_decimal : FiniteNumbers (fun _ : Nat => true) Nat.repr decimalNumbers.read where
  isNumber := fun n _ => by
    rw [Nat.toList_repr]
    exact isNumber_toDigits n
  read := fun n _ => by
    rw [Nat.toList_repr]
    exact lawful_decimalNumbers.read n

end AifHandoff.Json
