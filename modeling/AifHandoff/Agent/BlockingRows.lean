import AifHandoff.Agent.ReviewGate
import AifHandoff.Lib.RegexSpans
import AifHandoff.Lib.TrimmedLines

/-!
Rows below a Blocking Findings heading, in the characters of a text and in its sections
(`agent/reviewGate.ts`).
-/

namespace AifHandoff.Agent.Review

open Text Regex

/-- The section's only row says none. -/
def saysNone (lines : List String) : Bool :=
  match lines.filter (startsWith · "-") with
  | [row] => test nonePattern (bulletText row)
  | _ => false

def blockingTitle : List Char := "## Blocking Findings".toList

def noneWord : List Char := "none".toList

/-- A Blocking Findings heading in a text, with a row below it that begins with `none`. -/
structure NoneRowAt (text skipped title gap gap' word rest : List Char) : Prop where
  split : text = skipped ++ (title ++ (gap ++ '-' :: (gap' ++ (word ++ rest))))
  titled : SameFold title blockingTitle
  below : '\n' ∈ gap
  blank : ∀ c ∈ gap, isSpace c = true
  blank' : ∀ c ∈ gap', isSpace c = true
  begins : SameFold word noneWord

/-- The heading begins its line, the row says nothing else, and no other row follows before the
next heading. -/
structure StandsAlone (skipped gap' rest : List Char) : Prop where
  ownLine : ∀ c ∈ lastLine skipped, isSpace c = true
  oneLine : '\n' ∉ gap'
  nothingElse : ∃ stop blanks, firstLine rest = stop ++ blanks ∧ (stop = [] ∨ stop = ['.']) ∧
    ∀ c ∈ blanks, isSpace c = true
  noOther : ∀ line ∈ sectionLines (trimmedLines rest).tail, startsWith line "-" = false

section Characters

variable {cs ds : List Char} {c : Char}

theorem not_isWordChar_of_space (blank : isSpace c = true) : isWordChar c = false := by
  rw [isSpace, Bool.or_eq_true, List.contains_iff_mem, Bool.and_eq_true, decide_eq_true_eq,
    decide_eq_true_eq] at blank
  rcases blank with among | ⟨low, -⟩
  · revert c
    decide
  · have high : 0x2000 ≤ c.toNat := low
    have upper : c.isUpper = false := by
      unfold Char.isUpper
      rw [decide_eq_false_iff_not]
      rintro ⟨-, le⟩
      have le : c.toNat ≤ 90 := le
      omega
    have lower : c.isLower = false := by
      unfold Char.isLower
      rw [Bool.and_eq_false_iff]
      refine .inr (decide_eq_false fun le => ?_)
      have le : c.toNat ≤ 122 := le
      omega
    have digit : c.isDigit = false := by
      rw [Char.isDigit, Bool.and_eq_false_iff]
      refine .inr (decide_eq_false fun le => ?_)
      have le : c.toNat ≤ 57 := le
      omega
    have other : (c == '_') = false := by
      rw [beq_eq_false_iff_ne]
      rintro rfl
      exact absurd high (by decide)
    unfold isWordChar Char.isAlphanum Char.isAlpha
    rw [upper, lower, digit, other]
    rfl

theorem toLower_of_space (blank : isSpace c = true) : c.toLower = c := by
  have noWord := not_isWordChar_of_space blank
  unfold isWordChar Char.isAlphanum Char.isAlpha at noWord
  rw [Bool.or_eq_false_iff, Bool.or_eq_false_iff, Bool.or_eq_false_iff] at noWord
  have upper := noWord.1.1.1
  unfold Char.isUpper at upper
  unfold Char.toLower
  rw [dif_neg (by simpa using upper)]

theorem eq_of_toLower {d : Char} (noLetter : d.toNat < 97) (lower : c.toLower = d) : c = d := by
  unfold Char.toLower at lower
  split at lower
  next upper =>
    obtain ⟨least, most⟩ := upper
    have least : 65 ≤ c.val.toNat := least
    have most : c.val.toNat ≤ 90 := most
    have values := congrArg Char.toNat lower
    change (c.val + 32).toNat = d.toNat at values
    rw [UInt32.toNat_add, show (32 : UInt32).toNat = 32 from rfl] at values
    omega
  next => exact lower

theorem visible_of_toLower {d : Char} (same : c.toLower = d) (visible : isSpace d = false) :
    isSpace c = false := by
  rw [Bool.eq_false_iff]
  intro blank
  rw [toLower_of_space blank] at same
  rw [same, visible] at blank
  cases blank

theorem head_of_sameFold (same : SameFold cs ds)
    (first : ∀ d ∈ ds.head?, isSpace d.toLower = false) : ∀ c ∈ cs.head?, isSpace c = false := by
  intro c inside
  have heads := congrArg List.head? same
  rw [List.head?_map, List.head?_map, inside] at heads
  cases shape : ds.head? with
  | none =>
    rw [shape] at heads
    cases heads
  | some d =>
    rw [shape] at heads
    exact visible_of_toLower (Option.some.inj heads) (first d shape)

theorem last_of_sameFold (same : SameFold cs ds)
    (last : ∀ d ∈ ds.getLast?, isSpace d.toLower = false) :
    ∀ c ∈ cs.getLast?, isSpace c = false := by
  have reversed : SameFold cs.reverse ds.reverse := by
    rw [SameFold, List.map_reverse, List.map_reverse, same]
  intro c inside
  rw [← List.head?_reverse] at inside
  refine head_of_sameFold reversed (fun d first => ?_) c inside
  rw [List.head?_reverse] at first
  exact last d first

theorem visible_none (same : SameFold cs noneWord) :
    (∀ c ∈ cs.head?, isSpace c = false) ∧ ∀ c ∈ cs.getLast?, isSpace c = false :=
  ⟨head_of_sameFold same (by decide), last_of_sameFold same (by decide)⟩

end Characters

/-! ### Headings and rows -/

section Rows

variable {title word stop t line : List Char} {s : String}

/-- A title in any case is a heading. -/
theorem test_blockingHeading_of_title (same : SameFold title blockingTitle) :
    test blockingHeading (String.ofList title) = true := by
  have marks : "##".toList = ['#', '#'] := by decide
  have chars : blockingTitle.map Char.toLower =
      '#' :: '#' :: ' ' :: "Blocking Findings".toList.map Char.toLower := by decide
  rw [SameFold, chars] at same
  obtain ⟨first, behind, rfl, isFirst, later⟩ := List.map_eq_cons_iff.mp same
  obtain ⟨second, behind', rfl, isSecond, later'⟩ := List.map_eq_cons_iff.mp later
  obtain ⟨blank, name, rfl, isBlank, sameName⟩ := List.map_eq_cons_iff.mp later'
  obtain rfl : first = '#' := eq_of_toLower (by decide) isFirst
  obtain rfl : second = '#' := eq_of_toLower (by decide) isSecond
  obtain rfl : blank = ' ' := eq_of_toLower (by decide) isBlank
  clear same later later'
  rw [blockingHeading, test_anchored_iff (by rfl), String.toList_ofList]
  simp only [reads_cat_cons]
  have p3 := spans_of_append [' ', '#', '#'] name []
  rw [List.append_nil name] at p3
  have readMarks : Reads (lit "##") ⟨[], '#' :: '#' :: ' ' :: name⟩ ⟨['#', '#'], ' ' :: name⟩ :=
    (reads_lit_iff _).mpr (marks ▸ spans_of_append [] ['#', '#'] (' ' :: name))
  have readBlank : Reads (some1 space) ⟨['#', '#'], ' ' :: name⟩ ⟨[' ', '#', '#'], name⟩ :=
    ⟨⟨[' ', '#', '#'], name⟩, ⟨' ', name, rfl, by decide, rfl⟩, .refl⟩
  have readName := (reads_litI_iff "Blocking Findings").mpr ⟨name, p3, sameName⟩
  generalize (⟨name.reverse ++ [' ', '#', '#'], []⟩ : Cursor) = end_ at readName p3
  have ended : end_.after = [] := List.self_eq_append_right.mp p3.1
  have readEnd : Reads (many space) end_ end_ := .refl
  exact ⟨end_, _, ⟨rfl, rfl⟩, _, readMarks, _, readBlank, _, readName, _, readEnd, _,
    ⟨List.isEmpty_iff.mpr ended, rfl⟩, rfl⟩

theorem not_anyHeading_of_dash (row : startsWith s "-" = true) : test anyHeading s = false := by
  rw [Bool.eq_false_iff]
  intro heading
  rw [anyHeading, test_anchored_iff (by rfl)] at heading
  obtain ⟨next, p1, ⟨-, stays⟩, p2, readHash, -⟩ := heading
  subst stays
  have hash : "#".toList = ['#'] := by decide
  have dash : "-".toList = ['-'] := by decide
  have spans := (reads_lit_iff _).mp readHash
  rw [hash] at spans
  rw [startsWith_iff, dash] at row
  obtain ⟨rest, text⟩ := row
  have text' : s.toList = ['#'] ++ p2.after := spans.1
  rw [← text] at text'
  cases text'

end Rows

/-! ### Sections -/

/-- A section begins below a heading. -/
theorem mem_blockingSections {lines section_ : List String} :
    section_ ∈ blockingSections lines ↔ ∃ before heading rest, lines = before ++ heading :: rest ∧
      test blockingHeading (trim heading) = true ∧ section_ = sectionLines rest := by
  induction lines with
  | nil => simp [blockingSections]
  | cons line rest ih =>
    rw [blockingSections]
    constructor
    · intro inside
      split at inside
      next isHeading =>
        rcases List.mem_cons.mp inside with rfl | later
        · exact ⟨[], line, rest, rfl, isHeading, rfl⟩
        · obtain ⟨before, heading, behind, rfl, facts⟩ := ih.mp later
          exact ⟨line :: before, heading, behind, rfl, facts⟩
      next =>
        obtain ⟨before, heading, behind, rfl, facts⟩ := ih.mp inside
        exact ⟨line :: before, heading, behind, rfl, facts⟩
    · rintro ⟨before, heading, behind, split, isHeading, rfl⟩
      cases before with
      | nil =>
        obtain ⟨rfl, rfl⟩ := List.cons.inj split
        rw [if_pos isHeading]
        exact List.mem_cons_self
      | cons first before =>
        obtain ⟨rfl, rfl⟩ := List.cons.inj split
        have later := ih.mpr ⟨before, heading, behind, rfl, isHeading, rfl⟩
        split
        · exact List.mem_cons_of_mem _ later
        · exact later

theorem sectionLines_append {front : List String}
    (plain : ∀ line ∈ front, test anyHeading (trim line) = false) (rest : List String) :
    sectionLines (front ++ rest) = front.map trim ++ sectionLines rest := by
  rw [sectionLines, List.map_append, List.takeWhile_append_of_pos, sectionLines]
  intro line inside
  obtain ⟨line, isThere, rfl⟩ := List.mem_map.mp inside
  rw [plain line isThere]
  rfl

section Places

variable {text skipped title gap gap' word rest : List Char}

end Places

end AifHandoff.Agent.Review
