import AifHandoff.Lib.RegexSpans

/-!
A match inside a longer text.

A pattern looks at the text around its match only where it has a word boundary or an anchor.
When the added texts meet the old one with no word character, and the anchors of the pattern
stand where they cannot hold, a match of a text and a match of the same place in a longer text
are the same thing.
-/

namespace AifHandoff.Regex

open Relation

/-- A position of a text as a position of a longer text: more before it, more behind it. -/
def Cursor.shift (front back : List Char) (at_ : Cursor) : Cursor :=
  ⟨at_.before ++ front, at_.after ++ back⟩

/-- No anchor of the pattern can hold: `^` stands behind something that was read, and there is
no `$`. `started` tells whether something was read before the pattern. -/
def unanchored : Bool → Regex → Bool
  | started, .startAnchor => started
  | _, .endAnchor => false
  | started, .seq left right =>
    unanchored started left && unanchored (started || consumes left) right
  | started, .alt left right => unanchored started left && unanchored started right
  | started, .star _ body | started, .capture _ body => unanchored started body
  | _, .empty | _, .set _ | _, .wordBoundary => true

/-- No match ends with the character. -/
def refusesLast (c : Char) : Regex → Bool
  | .set accepts => !accepts c
  | .seq left right => refusesLast c right && (consumes right || refusesLast c left)
  | .alt left right => refusesLast c left && refusesLast c right
  | .star _ body | .capture _ body => refusesLast c body
  | .empty | .wordBoundary | .startAnchor | .endAnchor => true

section Shift

variable {r : Regex} {front back : List Char} {at_ middle next : Cursor}

theorem shift_injective {other : Cursor} (same : at_.shift front back = other.shift front back) :
    at_ = other := by
  obtain ⟨before, after⟩ := at_
  obtain ⟨before', after'⟩ := other
  obtain ⟨befores, afters⟩ := Cursor.mk.inj same
  obtain rfl : before = before' := List.append_cancel_right befores
  obtain rfl : after = after' := List.append_cancel_right afters
  rfl

theorem exists_shift_of_between {first second : Regex}
    (reads : Reads first (at_.shift front back) middle)
    (later : Reads second middle (next.shift front back)) :
    ∃ inner : Cursor, middle = inner.shift front back := by
  obtain ⟨read, -, before⟩ := reads.split
  obtain ⟨read', after, -⟩ := later.split
  refine ⟨⟨read.reverse ++ at_.before, read' ++ next.after⟩, ?_⟩
  obtain ⟨befores, afters⟩ := middle
  dsimp only [Cursor.shift] at before after ⊢
  rw [before, after, List.append_assoc, List.append_assoc]

theorem atWordBoundary_shift (calmFront : front.head?.any isWordChar = false)
    (calmBack : back.head?.any isWordChar = false) :
    atWordBoundary (at_.shift front back) = atWordBoundary at_ := by
  have edge : ∀ part more : List Char, more.head?.any isWordChar = false →
      (part ++ more).head?.any isWordChar = part.head?.any isWordChar := by
    intro part more calm
    cases part with
    | nil => exact calm
    | cons c part => rfl
  rw [atWordBoundary, atWordBoundary, Cursor.shift, edge _ _ calmFront, edge _ _ calmBack]

theorem Reads.before_ne_nil (reads : Reads r at_ next) (some_ : consumes r = true) :
    next.before ≠ [] := by
  obtain ⟨read, after, before⟩ := reads.split
  have shorter := reads.shorter some_
  intro nothing
  rw [nothing] at before
  obtain ⟨unread, -⟩ := List.append_eq_nil_iff.mp before.symm
  rw [after, List.reverse_eq_nil_iff.mp unread] at shorter
  exact Nat.lt_irrefl _ shorter

theorem Reads.keeps_before (reads : Reads r at_ next) (some_ : at_.before ≠ []) :
    next.before ≠ [] := by
  obtain ⟨read, -, before⟩ := reads.split
  rw [before]
  exact List.append_ne_nil_of_right_ne_nil _ some_

theorem started_after {started : Bool} {left : Regex} (reads : Reads left at_ middle)
    (behind : started = true → at_.before ≠ []) :
    (started || consumes left) = true → middle.before ≠ [] := by
  intro some_
  rcases Bool.or_eq_true_iff.mp some_ with before | inLeft
  · exact reads.keeps_before (behind before)
  · exact reads.before_ne_nil inLeft

theorem reads_shift_iff {started : Bool} (calmFront : front.head?.any isWordChar = false)
    (calmBack : back.head?.any isWordChar = false) (free : unanchored started r = true)
    (behind : started = true → at_.before ≠ []) :
    Reads r (at_.shift front back) (next.shift front back) ↔ Reads r at_ next := by
  induction r generalizing started at_ next with
  | empty =>
    exact ⟨fun same => shift_injective same, fun same => congrArg (Cursor.shift front back) same⟩
  | set accepts =>
    constructor
    · rintro ⟨c, rest, after, ok, same⟩
      obtain ⟨read, split, -⟩ := Reads.split (r := .set accepts) ⟨c, rest, after, ok, same⟩
      obtain ⟨befores, afters⟩ := Cursor.mk.inj same
      dsimp only [Cursor.shift] at after split befores afters
      refine ⟨c, next.after, ?_, ok, ?_⟩
      · rw [← afters] at after
        exact List.append_cancel_right after
      · have before : next.before = c :: at_.before := List.append_cancel_right befores
        rw [← before]
    · rintro ⟨c, rest, after, ok, rfl⟩
      exact ⟨c, rest ++ back, by rw [Cursor.shift, after]; rfl, ok, rfl⟩
  | seq left right ihLeft ihRight =>
    obtain ⟨freeLeft, freeRight⟩ := Bool.and_eq_true_iff.mp free
    constructor
    · rintro ⟨middle, first, second⟩
      obtain ⟨inner, rfl⟩ := exists_shift_of_between first second
      have first' := (ihLeft freeLeft behind).mp first
      exact ⟨inner, first', (ihRight freeRight (started_after first' behind)).mp second⟩
    · rintro ⟨middle, first, second⟩
      exact ⟨middle.shift front back, (ihLeft freeLeft behind).mpr first,
        (ihRight freeRight (started_after first behind)).mpr second⟩
  | alt left right ihLeft ihRight =>
    obtain ⟨freeLeft, freeRight⟩ := Bool.and_eq_true_iff.mp free
    exact or_congr (ihLeft freeLeft behind) (ihRight freeRight behind)
  | star greedy body ih =>
    have shorter : ∀ a b : Cursor, (b.shift front back).after.length <
        (a.shift front back).after.length ↔ b.after.length < a.after.length := by
      intro a b
      rw [Cursor.shift, Cursor.shift, List.length_append, List.length_append]
      exact Nat.add_lt_add_iff_right
    constructor
    · intro rounds
      rw [Reads] at rounds ⊢
      generalize start : at_.shift front back = outer at rounds
      induction rounds using ReflTransGen.head_induction_on generalizing at_ with
      | refl => rw [shift_injective start]
      | @head here there first rest ihRounds =>
        obtain rfl := start
        have later : Reads (.star greedy body) there (next.shift front back) := rest
        obtain ⟨inner, rfl⟩ := exists_shift_of_between first.1 later
        have first' := (ih free behind).mp first.1
        exact .head ⟨first', (shorter _ _).mp first.2⟩
          (ihRounds (fun started_ => first'.keeps_before (behind started_)) rfl)
    · intro rounds
      rw [Reads] at rounds ⊢
      induction rounds using ReflTransGen.head_induction_on with
      | refl => exact .refl
      | @head here there first rest ihRounds =>
        exact .head ⟨(ih free behind).mpr first.1, (shorter _ _).mpr first.2⟩
          (ihRounds fun started_ => first.1.keeps_before (behind started_))
  | capture index body ih => exact ih free behind
  | wordBoundary =>
    refine and_congr (by rw [atWordBoundary_shift calmFront calmBack]) ?_
    exact ⟨fun same => shift_injective same, fun same => congrArg (Cursor.shift front back) same⟩
  | startAnchor =>
    have some_ := behind free
    refine ⟨fun reads => ?_, fun reads => absurd (List.isEmpty_iff.mp reads.1) some_⟩
    exact absurd (List.append_eq_nil_iff.mp (List.isEmpty_iff.mp reads.1)).1 some_
  | endAnchor => cases free

end Shift

section Last

variable {r : Regex} {at_ next : Cursor} {c : Char} {rest : List Char}

/-- Before a character that it cannot end with, a pattern reads nothing. -/
theorem Reads.of_refusesLast (reads : Reads r at_ next) (refused : refusesLast c r = true)
    (ends : next.before = c :: rest) : next = at_ := by
  induction r generalizing at_ next with
  | empty => exact reads
  | set accepts =>
    obtain ⟨d, tail, -, ok, rfl⟩ := reads
    obtain ⟨rfl, -⟩ := List.cons.inj ends
    rw [refusesLast, ok] at refused
    cases refused
  | seq left right ihLeft ihRight =>
    obtain ⟨middle, first, second⟩ := reads
    obtain ⟨refusedRight, orLeft⟩ := Bool.and_eq_true_iff.mp refused
    obtain rfl := ihRight second refusedRight ends
    rcases Bool.or_eq_true_iff.mp orLeft with some_ | refusedLeft
    · exact absurd (second.shorter some_) (Nat.lt_irrefl _)
    · exact ihLeft first refusedLeft ends
  | alt left right ihLeft ihRight =>
    obtain ⟨refusedLeft, refusedRight⟩ := Bool.and_eq_true_iff.mp refused
    exact reads.elim (ihLeft · refusedLeft ends) (ihRight · refusedRight ends)
  | star greedy body ih =>
    rw [Reads] at reads
    induction reads using ReflTransGen.head_induction_on with
    | refl => rfl
    | head first _ ihRounds =>
      subst ihRounds
      exact ih first.1 refused ends
  | capture index body ih => exact ih reads refused ends
  | wordBoundary | startAnchor | endAnchor => exact reads.2

end Last

section Longer

variable {r : Regex} {front back : List Char} {s : String}

theorem test_of_part (calmFront : front.getLast?.any isWordChar = false)
    (calmBack : back.head?.any isWordChar = false) (free : unanchored false r = true)
    (found : test r s = true) : test r (String.ofList (front ++ s.toList ++ back)) = true := by
  obtain ⟨skipped, rest, next, split, reads⟩ := test_iff_reads.mp found
  rw [← List.head?_reverse] at calmFront
  refine test_iff_reads.mpr ⟨front ++ skipped, rest ++ back, next.shift front.reverse back, ?_, ?_⟩
  · rw [String.toList_ofList, split]
    simp only [List.append_assoc]
  · rw [List.reverse_append]
    exact (reads_shift_iff calmFront calmBack free nofun).mpr reads

/-- A match of the longer text lies within the part, when none can begin in what stands before
the part or end in what stands behind it. -/
theorem exists_part_of_reads {skipped rest : List Char} {next : Cursor}
    (some_ : consumes r = true) (notBefore : ∀ c ∈ front, refuses c r = true)
    (notBehind : ∀ c ∈ back, refusesLast c r = true)
    (split : front ++ (s.toList ++ back) = skipped ++ rest)
    (reads : Reads r ⟨skipped.reverse, rest⟩ next) :
    ∃ inner read left, s.toList = inner ++ (read ++ left) ∧
      skipped.reverse = inner.reverse ++ front.reverse ∧
      rest = (read ++ left) ++ back ∧
      next = Cursor.shift front.reverse back ⟨read.reverse ++ inner.reverse, left⟩ := by
  obtain ⟨read, after, before⟩ := reads.split
  dsimp only at after before
  -- the match begins behind what was added in front
  obtain ⟨inner, rfl, within⟩ : ∃ inner, skipped = front ++ inner ∧
      s.toList ++ back = inner ++ rest := by
    rcases List.append_eq_append_iff.mp split with ⟨inner, begins, text⟩ | ⟨extra, begins, text⟩
    · exact ⟨inner, begins, text⟩
    · cases extra with
      | nil => exact ⟨[], by rw [begins, List.append_nil, List.append_nil], text.symm⟩
      | cons c extra =>
        have inFront : c ∈ front := by
          rw [begins]
          exact List.mem_append_right _ List.mem_cons_self
        exact absurd reads (not_reads_of_refuses (notBefore c inFront) some_ text)
  -- and it ends before what was added behind
  obtain ⟨left, text, after'⟩ : ∃ left, s.toList = inner ++ (read ++ left) ∧
      next.after = left ++ back := by
    rw [after, ← List.append_assoc] at within
    rcases List.append_eq_append_iff.mp within with ⟨extra, ends, text⟩ | ⟨left, ends, text⟩
    · rcases List.eq_nil_or_concat extra with rfl | ⟨extra, c, rfl⟩
      · rw [List.append_nil] at ends
        exact ⟨[], by rw [← ends, List.append_nil], text.symm⟩
      · have inBack : c ∈ back := by
          rw [text]
          simp
        have readSome : read ≠ [] := by
          rintro rfl
          have shorter := reads.shorter some_
          rw [after] at shorter
          exact Nat.lt_irrefl _ shorter
        obtain ⟨read, d, rfl⟩ := (List.eq_nil_or_concat read).resolve_left readSome
        obtain rfl : d = c := by
          have lasts := congrArg List.getLast? ends
          simpa using lasts
        have endsSo : next.before = d :: (read.reverse ++ (front ++ inner).reverse) := by
          rw [before]
          simp
        have same := reads.of_refusesLast (notBehind d inBack) endsSo
        rw [same] at reads
        exact absurd (reads.shorter some_) (Nat.lt_irrefl _)
    · exact ⟨left, by rw [ends, List.append_assoc], text⟩
  refine ⟨inner, read, left, text, List.reverse_append, ?_, ?_⟩
  · rw [after, after', List.append_assoc]
  · obtain ⟨befores, afters⟩ := next
    dsimp only [Cursor.shift] at before after' ⊢
    rw [before, after', List.reverse_append, List.append_assoc]

/-- A pattern found in a longer text is found in the part, when no match can begin or end in
what was added. -/
theorem test_of_longer (calmFront : front.getLast?.any isWordChar = false)
    (calmBack : back.head?.any isWordChar = false) (free : unanchored false r = true)
    (some_ : consumes r = true) (notBefore : ∀ c ∈ front, refuses c r = true)
    (notBehind : ∀ c ∈ back, refusesLast c r = true)
    (found : test r (String.ofList (front ++ s.toList ++ back)) = true) : test r s = true := by
  obtain ⟨skipped, rest, next, split, reads⟩ := test_iff_reads.mp found
  rw [String.toList_ofList, List.append_assoc] at split
  obtain ⟨inner, read, left, text, before, after, rfl⟩ :=
    exists_part_of_reads some_ notBefore notBehind split reads
  rw [← List.head?_reverse] at calmFront
  rw [before, after] at reads
  have part : Reads r ⟨inner.reverse, read ++ left⟩ ⟨read.reverse ++ inner.reverse, left⟩ :=
    (reads_shift_iff calmFront calmBack free nofun).mp reads
  exact test_iff_reads.mpr ⟨inner, read ++ left, _, text, part⟩

end Longer

end AifHandoff.Regex
