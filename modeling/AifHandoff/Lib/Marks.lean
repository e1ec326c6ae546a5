import AifHandoff.Lib.RegexRuns

/-!
Marks in a text: passages that begin with one character, the opener, and hold it nowhere
else, so that no two of them overlap.
-/

namespace AifHandoff

/-- A reader of the mark at the beginning of a text, with what follows it. -/
structure Marks (β : Type) where
  read : List Char → Option (β × List Char)
  opener : Char
  /-- The opener stands at the beginning and nowhere else. -/
  shape : ∀ {cs : List Char} {b : β} {rest : List Char}, read cs = some (b, rest) →
    ∃ body, cs = opener :: (body ++ rest) ∧ opener ∉ body
  /-- A mark does not depend on what follows it. -/
  stable : ∀ {b : β} {body rest : List Char}, read (opener :: (body ++ rest)) = some (b, rest) →
    ∀ rest', read (opener :: (body ++ rest')) = some (b, rest')

namespace Marks

variable {β : Type} (M : Marks β)

/-- The values of the marks of a text. -/
def marks (cs : List Char) : List β := cs.tails.filterMap fun t => (M.read t).map (·.1)

variable {M}

theorem read_nil : M.read [] = none := by
  cases found : M.read [] with
  | none => rfl
  | some mark =>
    obtain ⟨body, shape, -⟩ := M.shape found
    cases shape

theorem read_of_ne {c : Char} (other : c ≠ M.opener) (cs : List Char) : M.read (c :: cs) = none := by
  cases found : M.read (c :: cs) with
  | none => rfl
  | some mark =>
    obtain ⟨body, shape, -⟩ := M.shape found
    exact absurd (List.cons.inj shape).1 other

theorem length_lt_of_read {cs rest : List Char} {b : β} (found : M.read cs = some (b, rest)) :
    rest.length < cs.length := by
  obtain ⟨body, rfl, -⟩ := M.shape found
  rw [List.length_cons, List.length_append]
  omega

@[simp] theorem marks_nil : M.marks [] = [] := by
  rw [marks, List.tails, List.filterMap_cons, read_nil]
  rfl

theorem marks_cons (c : Char) (cs : List Char) :
    M.marks (c :: cs) = ((M.read (c :: cs)).map (·.1)).toList ++ M.marks cs := by
  rw [marks, List.tails_cons, List.filterMap_cons, ← marks]
  cases M.read (c :: cs) <;> rfl

theorem marks_append_of_not_mem {body : List Char} (none_ : M.opener ∉ body) (cs : List Char) :
    M.marks (body ++ cs) = M.marks cs := by
  induction body with
  | nil => rfl
  | cons c body ih =>
    rw [List.mem_cons, not_or] at none_
    rw [List.cons_append, marks_cons, read_of_ne (Ne.symm none_.1), ih none_.2]
    rfl

/-- A text that begins with a mark has it and those of the rest. -/
theorem marks_of_read {cs rest : List Char} {b : β} (found : M.read cs = some (b, rest)) :
    M.marks cs = b :: M.marks rest := by
  obtain ⟨body, rfl, none_⟩ := M.shape found
  rw [marks_cons, found, marks_append_of_not_mem none_]
  rfl

theorem read_append_opener {c : Char} (cs t : List Char) :
    M.read (c :: (cs ++ M.opener :: t)) =
      (M.read (c :: cs)).map fun found => (found.1, found.2 ++ M.opener :: t) := by
  cases found : M.read (c :: cs) with
  | some mark =>
    obtain ⟨b, rest⟩ := mark
    obtain ⟨body, shape, none_⟩ := M.shape found
    obtain ⟨rfl, rfl⟩ := List.cons.inj shape
    rw [List.append_assoc]
    exact M.stable found _
  | none =>
    cases longer : M.read (c :: (cs ++ M.opener :: t)) with
    | none => rfl
    | some mark =>
      obtain ⟨b, rest⟩ := mark
      obtain ⟨body, shape, none_⟩ := M.shape longer
      obtain ⟨rfl, split⟩ := List.cons.inj shape
      obtain ⟨more, rfl⟩ : body <+: cs := by
        refine Text.prefix_append_cons (b := t) none_ ?_
        rw [split]
        exact List.prefix_append _ _
      rw [split] at longer
      rw [M.stable longer more] at found
      cases found

/-! ### Lines -/

section Lines

variable (M)

/-- The marks that stand on one line. -/
def inLine : Marks β where
  read := fun cs => (M.read cs).filter fun found =>
    (cs.take (cs.length - found.2.length)).all (· != '\n')
  opener := M.opener
  shape := fun found => M.shape (Option.filter_eq_some_iff.mp found).1
  stable := by
    intro b body rest found rest'
    obtain ⟨read, oneLine⟩ := Option.filter_eq_some_iff.mp found
    have taken (more : List Char) : (M.opener :: (body ++ more)).take
        ((M.opener :: (body ++ more)).length - more.length) = M.opener :: body := by
      rw [← List.cons_append, List.length_append, Nat.add_sub_cancel, List.take_left']
      rfl
    rw [Option.filter_eq_some_iff]
    refine ⟨M.stable read rest', ?_⟩
    dsimp only at oneLine ⊢
    rw [taken] at oneLine ⊢
    exact oneLine

variable {M}

theorem read_inLine {cs rest : List Char} {b : β} : M.inLine.read cs = some (b, rest) ↔
    ∃ body, cs = M.opener :: (body ++ rest) ∧ M.read cs = some (b, rest) ∧ M.opener ∉ body ∧
      '\n' ∉ M.opener :: body := by
  have taken (body : List Char) : (M.opener :: (body ++ rest)).take
      ((M.opener :: (body ++ rest)).length - rest.length) = M.opener :: body := by
    rw [← List.cons_append, List.length_append, Nat.add_sub_cancel, List.take_left']
    rfl
  have line (text : List Char) : text.all (· != '\n') = true ↔ '\n' ∉ text := by
    rw [List.all_eq_true]
    exact ⟨fun each inside => by simpa using each _ inside, fun absent c inside => by
      rw [bne_iff_ne]
      rintro rfl
      exact absent inside⟩
  change (M.read cs).filter _ = _ ↔ _
  rw [Option.filter_eq_some_iff]
  constructor
  · rintro ⟨found, oneLine⟩
    obtain ⟨body, rfl, none_⟩ := M.shape found
    dsimp only at oneLine
    rw [taken, line] at oneLine
    exact ⟨body, rfl, found, none_, oneLine⟩
  · rintro ⟨body, rfl, found, -, oneLine⟩
    refine ⟨found, ?_⟩
    dsimp only
    rw [taken, line]
    exact oneLine

/-- On a line the marks are those of the text. -/
theorem read_inLine_append {c : Char} {cs : List Char} (oneLine : '\n' ∉ c :: cs) (t : List Char) :
    (M.inLine.read (c :: (cs ++ '\n' :: t))).map (·.1) = (M.read (c :: cs)).map (·.1) := by
  cases found : M.read (c :: cs) with
  | some mark =>
    obtain ⟨b, rest⟩ := mark
    obtain ⟨body, shape, none_⟩ := M.shape found
    obtain ⟨rfl, rfl⟩ := List.cons.inj shape
    have longer : M.inLine.read (M.opener :: (body ++ rest ++ '\n' :: t)) =
        some (b, rest ++ '\n' :: t) := by
      rw [read_inLine]
      refine ⟨body, by rw [List.append_assoc], ?_, none_, ?_⟩
      · rw [List.append_assoc]
        exact M.stable found _
      · intro inside
        refine oneLine ?_
        rw [← List.cons_append]
        exact List.mem_append_left _ inside
    rw [longer]
    rfl
  | none =>
    cases longer : M.inLine.read (c :: (cs ++ '\n' :: t)) with
    | none => rfl
    | some mark =>
      obtain ⟨b, rest⟩ := mark
      obtain ⟨body, shape, read, none_, line⟩ := read_inLine.mp longer
      obtain ⟨rfl, split⟩ := List.cons.inj shape
      rw [List.mem_cons, not_or] at line
      obtain ⟨more, rfl⟩ : body <+: cs := by
        refine Text.prefix_append_cons (b := t) line.2 ?_
        rw [split]
        exact List.prefix_append _ _
      rw [split] at read
      rw [M.stable read more] at found
      cases found

theorem marks_line_append {line : List Char} (oneLine : '\n' ∉ line) (t : List Char) :
    M.inLine.marks (line ++ '\n' :: t) = M.marks line ++ M.inLine.marks t := by
  induction line with
  | nil =>
    have blank : M.inLine.read ('\n' :: t) = none := by
      cases found : M.inLine.read ('\n' :: t) with
      | none => rfl
      | some mark =>
        obtain ⟨body, shape, -, -, line⟩ := read_inLine.mp found
        rw [← (List.cons.inj shape).1] at line
        exact absurd List.mem_cons_self line
    rw [List.nil_append, marks_cons, blank, marks_nil]
    rfl
  | cons c line ih =>
    have later : '\n' ∉ line := fun inside => oneLine (List.mem_cons_of_mem c inside)
    rw [List.cons_append, marks_cons, marks_cons c line, read_inLine_append oneLine, ih later,
      List.append_assoc]

theorem read_inLine_of_line {cs : List Char} (oneLine : '\n' ∉ cs) :
    M.inLine.read cs = M.read cs := by
  cases found : M.read cs with
  | some mark =>
    obtain ⟨body, rfl, none_⟩ := M.shape found
    refine read_inLine.mpr ⟨body, rfl, found, none_, fun inside => oneLine ?_⟩
    rw [← List.cons_append]
    exact List.mem_append_left _ inside
  | none =>
    change (M.read cs).filter _ = none
    rw [found, Option.filter_none]

theorem marks_inLine_of_line {line : List Char} (oneLine : '\n' ∉ line) :
    M.inLine.marks line = M.marks line := by
  induction line with
  | nil => rw [marks_nil, marks_nil]
  | cons c line ih =>
    rw [marks_cons, marks_cons, read_inLine_of_line oneLine,
      ih fun inside => oneLine (List.mem_cons_of_mem c inside)]

theorem flatMap_lines_marks (cs : List Char) :
    (cs.splitOn '\n').flatMap M.marks = M.inLine.marks cs := by
  have lines (line t : List Char) (oneLine : '\n' ∉ line) :
      ((line ++ t).splitOn '\n').flatMap M.marks = M.inLine.marks (line ++ t) := by
    induction t generalizing line with
    | nil =>
      rw [List.append_nil, List.splitOn_eq_singleton oneLine, List.flatMap_singleton,
        marks_inLine_of_line oneLine]
    | cons c t ih =>
      by_cases newline : c = '\n'
      · rw [newline, List.splitOn_append_cons_self_of_not_mem oneLine, List.flatMap_cons,
          marks_line_append oneLine]
        exact congrArg _ (ih [] (List.not_mem_nil))
      · have longer := ih (line ++ [c]) (by simp [oneLine, Ne.symm newline])
        rwa [List.append_assoc] at longer
  exact lines [] cs (List.not_mem_nil)

end Lines

/-! ### Between the marks -/

section Scanning

variable {read : List Char → Option (β × List Char)}

/-- The texts before each mark, with its value, and the text behind the last one; `read`
may take more than the mark. -/
def scan (read : List Char → Option (β × List Char)) :
    List Char → List (List Char × β) × List Char
  | [] => ([], [])
  | c :: cs =>
    match read (c :: cs) with
    | some (b, rest) =>
      if rest.length < (c :: cs).length then
        (([], b) :: (scan read rest).1, (scan read rest).2)
      else ([], c :: cs)
    | none =>
      match scan read cs with
      | ([], last) => ([], c :: last)
      | ((skipped, b) :: later, last) => ((c :: skipped, b) :: later, last)
termination_by cs => cs.length
decreasing_by all_goals first | assumption | exact Nat.lt_succ_self _

theorem scan_nil : scan read [] = ([], []) := by rw [scan]

theorem scan_of_read {cs rest : List Char} {b : β} (found : read cs = some (b, rest))
    (shorter : rest.length < cs.length) :
    scan read cs = (([], b) :: (scan read rest).1, (scan read rest).2) := by
  cases cs with
  | nil => exact absurd shorter (Nat.not_lt_zero _)
  | cons c cs =>
    rw [scan, found]
    dsimp only
    rw [if_pos shorter]

theorem scan_of_none {c : Char} {cs : List Char} (none_ : read (c :: cs) = none) :
    scan read (c :: cs) = match scan read cs with
      | ([], last) => ([], c :: last)
      | ((skipped, b) :: later, last) => ((c :: skipped, b) :: later, last) := by
  rw [scan, none_]

/-- The matches of a pattern that reads marks. -/
theorem matchLoop_of_reads {r : Regex} {value : Regex.Hit → β}
    (reads : ∀ before after, (r.matchHere before after).map (fun hit => (value hit, hit.next.after)) =
      read after)
    (sameValue : ∀ hit skipped, value { hit with skipped } = value hit)
    (shorter : ∀ cs b rest, read cs = some (b, rest) → rest.length < cs.length)
    {fuel : Nat} (before cs : List Char) (enough : cs.length < fuel) :
    ((r.matchLoop fuel ⟨before, cs⟩).1.map (fun hit => (hit.skipped, value hit)),
      (r.matchLoop fuel ⟨before, cs⟩).2) = scan read cs := by
  induction length : cs.length using Nat.strong_induction_on generalizing before cs fuel with
  | h n ih =>
    subst length
    obtain ⟨fuel, rfl⟩ : ∃ m, fuel = m + 1 := ⟨fuel - 1, by omega⟩
    have nothing (before : List Char) : r.matchHere before [] = none := by
      cases found : r.matchHere before [] with
      | none => rfl
      | some hit =>
        have here := reads before []
        rw [found] at here
        exact absurd (shorter _ _ _ here.symm) (Nat.not_lt_zero _)
    cases cs with
    | nil => rw [Regex.matchLoop, Regex.search, nothing, scan_nil]; rfl
    | cons c cs =>
      cases found : r.matchHere before (c :: cs) with
      | some hit =>
        have here := reads before (c :: cs)
        rw [found, Option.map_some] at here
        have less := shorter _ _ _ here.symm
        have skipped := Regex.skipped_of_matchHere found
        have filled := Regex.matched_of_matchHere found less
        have searched : r.search before (c :: cs) = some hit := by
          rw [Regex.search, found]
        have rest := ih hit.next.after.length less hit.next.before hit.next.after
          (show _ < fuel by omega) rfl
        rw [scan_of_read here.symm less, Regex.matchLoop, searched]
        dsimp only
        rw [filled, if_neg Bool.false_ne_true, ← rest, List.map_cons, skipped]
      | none =>
        have here := reads before (c :: cs)
        rw [found, Option.map_none] at here
        have enough' : cs.length < fuel + 1 := by
          simp only [List.length_cons] at enough
          omega
        have rest := ih cs.length (Nat.lt_succ_self _) (c :: before) cs enough' rfl
        rw [scan_of_none here.symm, ← rest, Regex.matchLoop, Regex.matchLoop, Regex.search,
          found]
        dsimp only
        cases later : r.search (c :: before) cs with
        | none => rfl
        | some hit =>
          obtain ⟨skipped, matched, ⟨behind, ahead⟩, captures⟩ := hit
          have value_ := sameValue ⟨skipped, matched, ⟨behind, ahead⟩, captures⟩ (c :: skipped)
          rw [Option.map_some]
          dsimp only at value_ ⊢
          cases matched.isEmpty with
          | false =>
            simp only [Bool.false_eq_true, if_false, List.map_cons, value_]
          | true =>
            simp only [if_true]
            cases ahead with
            | nil => simp only [List.map_cons, List.map_nil, value_]
            | cons d more =>
              dsimp only
              rcases r.matchLoop fuel ⟨d :: behind, more⟩ with ⟨_ | ⟨next, hits⟩, last⟩
              · simp only [List.map_cons, List.map_nil, value_]
              · simp only [List.map_cons, value_]

end Scanning

theorem scan_marks (cs : List Char) : (scan M.read cs).1.map (·.2) = M.marks cs := by
  induction length : cs.length using Nat.strong_induction_on generalizing cs with
  | h n ih =>
    subst length
    cases cs with
    | nil => rw [scan_nil, marks_nil, List.map_nil]
    | cons c cs =>
      cases found : M.read (c :: cs) with
      | some mark =>
        obtain ⟨b, rest⟩ := mark
        have shorter := length_lt_of_read found
        rw [scan_of_read found shorter, List.map_cons, ih _ shorter rest rfl,
          marks_of_read found]
      | none =>
        rw [scan_of_none found, marks_cons, found, ← ih _ (Nat.lt_succ_self _) cs rfl]
        rcases scan M.read cs with ⟨_ | ⟨⟨skipped, b⟩, later⟩, last⟩
        · rfl
        · rfl

/-! ### Marks cut out -/

def dropNewline : List Char → List Char
  | '\n' :: cs => cs
  | cs => cs

theorem length_dropNewline_le (cs : List Char) : (dropNewline cs).length ≤ cs.length := by
  unfold dropNewline
  split
  · exact Nat.le_succ _
  · exact Nat.le_refl _

theorem dropNewline_append_cons {c : Char} (other : c ≠ '\n') (cs t : List Char) :
    dropNewline (cs ++ c :: t) = dropNewline cs ++ c :: t := by
  cases cs with
  | nil =>
    rw [dropNewline.eq_def]
    split
    next shape => exact absurd (List.cons.inj shape).1 other
    next => rfl
  | cons d cs =>
    by_cases newline : d = '\n'
    · rw [newline]
      rfl
    · have stays (more : List Char) : dropNewline (d :: more) = d :: more := by
        rw [dropNewline.eq_def]
        split
        next shape => exact absurd (List.cons.inj shape).1 newline
        next => rfl
      rw [List.cons_append, stays, stays, List.cons_append]

theorem marks_dropNewline (cs : List Char) : M.inLine.marks (dropNewline cs) = M.inLine.marks cs := by
  unfold dropNewline
  split
  next rest => rw [← List.nil_append ('\n' :: rest), marks_line_append (List.not_mem_nil), marks_nil,
    List.nil_append]
  next => rfl

section Cutting

variable (M) (p : β → Bool)

/-- A mark of the kind `p` with a line feed behind it. -/
def removed (cs : List Char) : Option (Unit × List Char) :=
  ((M.read cs).filter (p ·.1)).map fun found => ((), dropNewline found.2)

/-- The pieces of the text between these marks. -/
def cut (cs : List Char) : List (List Char) :=
  (scan (M.removed p) cs).1.map (·.1) ++ [(scan (M.removed p) cs).2]

/-- The pieces, joined. -/
def erase (cs : List Char) : List Char := (M.cut p cs).flatten

variable {M p}

theorem removed_eq_some {cs rest : List Char} {b : β} (found : M.read cs = some (b, rest))
    (kind : p b = true) : M.removed p cs = some ((), dropNewline rest) := by
  rw [removed, found, Option.filter_some, if_pos kind]
  rfl

theorem removed_eq_none_iff {cs : List Char} :
    M.removed p cs = none ↔ ∀ b rest, M.read cs = some (b, rest) → p b = false := by
  rw [removed, Option.map_eq_none_iff]
  cases M.read cs with
  | none => simp
  | some mark =>
    obtain ⟨b, rest⟩ := mark
    rw [Option.filter_some]
    constructor
    · rintro none_ b' rest' same
      cases same
      by_contra kind
      rw [if_pos (by simpa using kind)] at none_
      cases none_
    · intro others
      rw [others b rest rfl]
      rfl

theorem length_lt_of_removed {cs rest : List Char} {u : Unit}
    (found : M.removed p cs = some (u, rest)) : rest.length < cs.length := by
  rw [removed, Option.map_eq_some_iff] at found
  obtain ⟨⟨b, behind⟩, read, same⟩ := found
  obtain ⟨-, rfl⟩ := Prod.mk.inj same
  exact (length_dropNewline_le _).trans_lt (length_lt_of_read (Option.filter_eq_some_iff.mp read).1)

theorem cut_nil : M.cut p [] = [[]] := by
  rw [cut, scan_nil]
  rfl

theorem cut_of_read {cs rest : List Char} {b : β} (found : M.read cs = some (b, rest))
    (kind : p b = true) : M.cut p cs = [] :: M.cut p (dropNewline rest) := by
  have here := removed_eq_some found kind
  rw [cut, scan_of_read here (length_lt_of_removed here)]
  rfl

theorem cut_of_none {c : Char} {cs : List Char} (none_ : M.removed p (c :: cs) = none) :
    M.cut p (c :: cs) = (M.cut p cs).modifyHead (c :: ·) := by
  rw [cut, cut, scan_of_none none_]
  rcases scan (M.removed p) cs with ⟨_ | ⟨⟨skipped, b⟩, later⟩, last⟩
  · rfl
  · rfl

theorem cut_cases (cs : List Char) : ∃ piece others, M.cut p cs = piece :: others := by
  rw [cut]
  cases (scan (M.removed p) cs).1 with
  | nil => exact ⟨_, _, rfl⟩
  | cons first later => exact ⟨_, _, rfl⟩

theorem erase_nil : M.erase p [] = [] := by
  rw [erase, cut_nil]
  rfl

theorem erase_of_read {cs rest : List Char} {b : β} (found : M.read cs = some (b, rest))
    (kind : p b = true) : M.erase p cs = M.erase p (dropNewline rest) := by
  rw [erase, cut_of_read found kind]
  rfl

theorem erase_of_none {c : Char} {cs : List Char} (none_ : M.removed p (c :: cs) = none) :
    M.erase p (c :: cs) = c :: M.erase p cs := by
  obtain ⟨piece, others, pieces⟩ := cut_cases (M := M) (p := p) cs
  rw [erase, erase, cut_of_none none_, pieces]
  rfl

/-- A text is cut in two before an opener. -/
theorem erase_append_opener (visible : M.opener ≠ '\n') (cs t : List Char) :
    M.erase p (cs ++ M.opener :: t) = M.erase p cs ++ M.erase p (M.opener :: t) := by
  induction length : cs.length using Nat.strong_induction_on generalizing cs with
  | h n ih =>
    subst length
    cases cs with
    | nil => rw [erase_nil]; rfl
    | cons c cs =>
      have longer := @read_append_opener _ M c cs t
      rw [List.cons_append]
      cases here : M.removed p (c :: cs) with
      | some mark =>
        have shorter := length_lt_of_removed here
        rw [removed, Option.map_eq_some_iff] at here
        obtain ⟨⟨b, rest⟩, read, rfl⟩ := here
        obtain ⟨found, kind⟩ := Option.filter_eq_some_iff.mp read
        rw [found, Option.map_some] at longer
        rw [erase_of_read longer kind, erase_of_read found kind,
          dropNewline_append_cons visible, ih _ shorter _ rfl]
      | none =>
        have notThere : M.removed p (c :: (cs ++ M.opener :: t)) = none := by
          rw [removed_eq_none_iff] at here ⊢
          intro b rest found
          rw [longer, Option.map_eq_some_iff] at found
          obtain ⟨⟨b', rest'⟩, found, same⟩ := found
          obtain ⟨rfl, -⟩ := Prod.mk.inj same
          exact here _ _ found
        rw [erase_of_none notThere, erase_of_none here, ih _ (Nat.lt_succ_self _) cs rfl,
          List.cons_append]

/-- Nothing is cut out of a text without such marks; otherwise it becomes shorter. -/
theorem erase_cases (long : ∀ cs b rest, M.read cs = some (b, rest) → rest.length + 2 ≤ cs.length)
    (cs : List Char) :
    ((∀ b ∈ M.marks cs, p b = false) ∧ M.erase p cs = cs) ∨
      (¬ (∀ b ∈ M.marks cs, p b = false) ∧ (M.erase p cs).length + 2 ≤ cs.length) := by
  induction length : cs.length using Nat.strong_induction_on generalizing cs with
  | h n ih =>
    subst length
    cases cs with
    | nil => exact .inl ⟨by simp, erase_nil⟩
    | cons c cs =>
      cases here : M.removed p (c :: cs) with
      | some mark =>
        have shorter := length_lt_of_removed here
        rw [removed, Option.map_eq_some_iff] at here
        obtain ⟨⟨b, rest⟩, read, rfl⟩ := here
        obtain ⟨found, kind⟩ := Option.filter_eq_some_iff.mp read
        have marked := long _ _ _ found
        have dropped := length_dropNewline_le rest
        have within : (M.erase p (dropNewline rest)).length ≤ (dropNewline rest).length := by
          rcases ih _ shorter _ rfl with ⟨-, same⟩ | ⟨-, less⟩
          · rw [same]
          · dsimp only at less
            omega
        refine .inr ⟨fun none_ => ?_, ?_⟩
        · rw [marks_of_read found] at none_
          rw [none_ b List.mem_cons_self] at kind
          cases kind
        · rw [erase_of_read found kind]
          omega
      | none =>
        have others := removed_eq_none_iff.mp here
        have first : (∀ b ∈ M.marks (c :: cs), p b = false) ↔ ∀ b ∈ M.marks cs, p b = false := by
          rw [marks_cons]
          cases found : M.read (c :: cs) with
          | none => rfl
          | some mark => simp [others mark.1 mark.2 found]
        rw [erase_of_none here, first, List.length_cons, List.length_cons]
        rcases ih _ (Nat.lt_succ_self _) cs rfl with ⟨none_, same⟩ | ⟨some_, less⟩
        · exact .inl ⟨none_, by rw [same]⟩
        · exact .inr ⟨some_, by omega⟩

theorem cut_head (cs : List Char) : ∃ piece others behind, M.cut p cs = piece :: others ∧
    cs = piece ++ behind ∧ (behind = [] ∨ ∃ t, behind = M.opener :: t) := by
  induction cs with
  | nil => exact ⟨[], [], [], cut_nil, rfl, .inl rfl⟩
  | cons c cs ih =>
    cases here : M.removed p (c :: cs) with
    | some mark =>
      rw [removed, Option.map_eq_some_iff] at here
      obtain ⟨⟨b, rest⟩, read, -⟩ := here
      obtain ⟨found, kind⟩ := Option.filter_eq_some_iff.mp read
      obtain ⟨body, shape, -⟩ := M.shape found
      exact ⟨[], _, c :: cs, cut_of_read found kind, rfl, .inr ⟨_, shape⟩⟩
    | none =>
      obtain ⟨piece, others, behind, pieces, split, ends⟩ := ih
      refine ⟨c :: piece, others, behind, ?_, ?_, ends⟩
      · rw [cut_of_none here, pieces]
        rfl
      · rw [split]
        rfl

/-- The marks of the pieces are those that were not cut out. -/
theorem flatMap_marks_cut (cs : List Char) :
    (M.cut p cs).flatMap M.inLine.marks = (M.inLine.marks cs).filter (!p ·) := by
  induction length : cs.length using Nat.strong_induction_on generalizing cs with
  | h n ih =>
    subst length
    cases cs with
    | nil => rw [cut_nil, List.flatMap_singleton, marks_nil, List.filter_nil]
    | cons c cs =>
      have inner {b : β} {rest : List Char} (found : M.inLine.read (c :: cs) = some (b, rest)) :
          M.read (c :: cs) = some (b, rest) := by
        obtain ⟨body, -, read, -⟩ := read_inLine.mp found
        exact read
      cases here : M.removed p (c :: cs) with
      | some mark =>
        have shorter := length_lt_of_removed here
        rw [removed, Option.map_eq_some_iff] at here
        obtain ⟨⟨b, rest⟩, read, rfl⟩ := here
        obtain ⟨found, kind⟩ := Option.filter_eq_some_iff.mp read
        obtain ⟨body, shape, none_⟩ := M.shape found
        have behind : M.inLine.marks cs = M.inLine.marks rest := by
          obtain ⟨-, rfl⟩ := List.cons.inj shape
          exact @marks_append_of_not_mem _ M.inLine body none_ rest
        rw [cut_of_read found kind, List.flatMap_cons, ih _ shorter _ rfl, marks_nil,
          marks_dropNewline, marks_cons, behind]
        cases line : M.inLine.read (c :: cs) with
        | none => rfl
        | some mark =>
          obtain ⟨b', rest'⟩ := mark
          have same := inner line
          rw [found] at same
          obtain ⟨rfl, -⟩ := Prod.mk.inj (Option.some.inj same)
          simp [kind]
      | none =>
        have others := removed_eq_none_iff.mp here
        obtain ⟨piece, later, behind, pieces, split, ends⟩ := @cut_head _ M p cs
        have rest := ih _ (Nat.lt_succ_self _) cs rfl
        rw [pieces, List.flatMap_cons] at rest
        have first : (M.inLine.read (c :: piece)).map (·.1) =
            (M.inLine.read (c :: cs)).map (·.1) := by
          rcases ends with rfl | ⟨t, rfl⟩
          · rw [split, List.append_nil]
          · have longer := @read_append_opener _ M.inLine c piece t
            rw [split]
            change _ = (M.inLine.read (c :: (piece ++ M.inLine.opener :: t))).map _
            rw [longer, Option.map_map]
            rfl
        rw [cut_of_none here, pieces, List.modifyHead_cons, List.flatMap_cons, marks_cons,
          marks_cons, first, List.filter_append, List.append_assoc, rest]
        congr 1
        cases line : M.inLine.read (c :: cs) with
        | none => rfl
        | some mark => simp [others mark.1 mark.2 (inner line)]

end Cutting

end Marks

end AifHandoff
