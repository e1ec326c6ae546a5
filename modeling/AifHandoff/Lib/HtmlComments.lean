import AifHandoff.Lib.FencedBlocks

/-!
Comments with a marker in a text.

A comment opens with `<!--`, white space and its marker, in any case, and ends before the first
`-->`; its body is what stands between, without the white space around it.
-/

namespace AifHandoff.Regex

section Greedy

variable {α : Type} {caps : Captures} {k : Cursor → Captures → Option α} {accepts : Char → Bool}

theorem starLoop_max {fuel : Nat} {before cs : List Char} (enough : cs.length < fuel)
    (stuck : ∀ before' c rest, accepts c = true → k ⟨before', c :: rest⟩ caps = none) :
    starLoop true (Regex.set accepts).run fuel ⟨before, cs⟩ caps k =
      k ⟨(cs.takeWhile accepts).reverse ++ before, cs.dropWhile accepts⟩ caps := by
  induction fuel generalizing before cs with
  | zero => exact absurd enough (Nat.not_lt_zero _)
  | succ fuel ih =>
    rw [starLoop]
    dsimp only
    rw [if_pos rfl]
    cases cs with
    | nil => rw [run_set_nil, Option.none_or, List.takeWhile_nil, List.dropWhile_nil]; rfl
    | cons c rest =>
      rw [run_set_cons]
      cases accepted : accepts c with
      | false =>
        rw [if_neg Bool.false_ne_true, Option.none_or,
          List.takeWhile_cons_of_neg (by simp [accepted]),
          List.dropWhile_cons_of_neg (by simp [accepted])]
        rfl
      | true =>
        rw [if_pos rfl, if_pos (by simp), stuck before c rest accepted, Option.or_none,
          ih (Nat.lt_of_succ_lt_succ enough), List.takeWhile_cons_of_pos accepted,
          List.dropWhile_cons_of_pos accepted]
        simp

/-- A greedy star reads all it can when nothing behind it takes what it reads. -/
theorem run_many_max
    (stuck : ∀ before' c rest, accepts c = true → k ⟨before', c :: rest⟩ caps = none)
    (before cs : List Char) :
    (many (.set accepts)).run ⟨before, cs⟩ caps k =
      k ⟨(cs.takeWhile accepts).reverse ++ before, cs.dropWhile accepts⟩ caps := by
  rw [many, run]
  exact starLoop_max (Nat.lt_succ_self _) stuck

theorem starLoop_greedy {fuel : Nat} {before cs : List Char} {result : α}
    (enough : cs.length < fuel)
    (here : k ⟨(cs.takeWhile accepts).reverse ++ before, cs.dropWhile accepts⟩ caps =
      some result) :
    starLoop true (Regex.set accepts).run fuel ⟨before, cs⟩ caps k = some result := by
  induction fuel generalizing before cs with
  | zero => exact absurd enough (Nat.not_lt_zero _)
  | succ fuel ih =>
    rw [starLoop]
    dsimp only
    rw [if_pos rfl]
    cases cs with
    | nil =>
      rw [run_set_nil, Option.none_or]
      exact here
    | cons c rest =>
      rw [run_set_cons]
      cases accepted : accepts c with
      | false =>
        rw [List.takeWhile_cons_of_neg (by simp [accepted]),
          List.dropWhile_cons_of_neg (by simp [accepted])] at here
        rw [if_neg Bool.false_ne_true, Option.none_or]
        exact here
      | true =>
        rw [List.takeWhile_cons_of_pos accepted, List.dropWhile_cons_of_pos accepted] at here
        have later := @ih (c :: before) rest (Nat.lt_of_succ_lt_succ enough)
          (by simpa using here)
        rw [if_pos rfl, if_pos (by simp), later, Option.some_or]

theorem run_many_greedy {before cs : List Char} {result : α}
    (here : k ⟨(cs.takeWhile accepts).reverse ++ before, cs.dropWhile accepts⟩ caps =
      some result) :
    (many (.set accepts)).run ⟨before, cs⟩ caps k = some result := by
  rw [many, run]
  exact starLoop_greedy (Nat.lt_succ_self _) here

end Greedy

/-! ### Comments -/

def commentOpen : List Char := ['<', '!', '-', '-']

def commentClose : List Char := ['-', '-', '>']

/-- What opens a comment with the marker. -/
def commentOpening (marker : String) : Regex := cat [lit "<!--", many space, litI marker]

/-- A comment with the marker, with its body as the first group. -/
def markedComment (marker : String) : Regex :=
  cat [lit "<!--", many space, litI marker, many space, .capture 1 (.star false anyChar),
    many space, lit "-->"]

/-- No comment with the marker opens in the text. -/
def NoComment (marker : String) (text : String) : Prop :=
  test (commentOpening marker) text = false

/-- A name that begins with a visible character and has no angle bracket. -/
structure IsMarker (marker : String) : Prop where
  visible : ∀ c, Text.isSpace c = true → ∀ rest, startsFold marker.toList (c :: rest) = false
  noAngle : ∀ c ∈ marker.toList, c.toLower ≠ '<'

section Opening

variable {marker : String} {before after : List Char}

/-- A comment with the marker opens at the beginning of the text. -/
def commentOpensAt (marker : String) (after : List Char) : Bool :=
  commentOpen.isPrefixOf after &&
    startsFold marker.toList ((after.drop 4).dropWhile Text.isSpace)

/-- What follows the opening of a comment. -/
def behindOpening (marker : String) (after : List Char) : List Char :=
  ((after.drop 4).dropWhile Text.isSpace).drop marker.toList.length

theorem run_commentOpening {α : Type} (isMarker : IsMarker marker) (before after : List Char)
    (caps : Captures) (k : Cursor → Captures → Option α) :
    ∃ before', (lit "<!--").run ⟨before, after⟩ caps (fun next caps' =>
      (many space).run next caps' fun next caps' => (litI marker).run next caps' k) =
      if commentOpensAt marker after = true then k ⟨before', behindOpening marker after⟩ caps
      else none := by
  by_cases opens : commentOpen <+: after
  · obtain ⟨rest, rfl⟩ := opens
    have stuck : ∀ before' c rest, Text.isSpace c = true →
        (litI marker).run ⟨before', c :: rest⟩ caps k = none := by
      intro before' c rest blank
      rw [run_litI, isMarker.visible c blank rest, if_neg Bool.false_ne_true]
    have read := run_lit_append caps (fun next caps' => (many space).run next caps'
      fun next caps' => (litI marker).run next caps' k) "<!--" before rest
    have open_ : "<!--".toList = commentOpen := by decide
    have starts : commentOpen.isPrefixOf (commentOpen ++ rest) = true := by
      rw [List.isPrefixOf_iff_prefix]
      exact List.prefix_append _ _
    have drop : (commentOpen ++ rest).drop 4 = rest := rfl
    rw [open_] at read
    refine ⟨((rest.dropWhile Text.isSpace).take marker.toList.length).reverse ++
      ((rest.takeWhile Text.isSpace).reverse ++ (commentOpen.reverse ++ before)), ?_⟩
    rw [read, space, run_many_max stuck, run_litI, commentOpensAt, starts, Bool.true_and, drop,
      behindOpening, drop]
  · refine ⟨before, ?_⟩
    have closed : commentOpensAt marker after = false := by
      rw [commentOpensAt, Bool.and_eq_false_iff]
      exact .inl (by rwa [Bool.eq_false_iff, ne_eq, List.isPrefixOf_iff_prefix])
    rw [run_lit_eq_none _ _ _ (by exact opens), closed, if_neg Bool.false_ne_true]

theorem noComment_iff (isMarker : IsMarker marker) {text : String} : NoComment marker text ↔
    ∀ s t, text.toList = s ++ t → commentOpensAt marker t = false := by
  rw [NoComment, ← Bool.not_eq_true, test_iff]
  constructor
  · intro absent s t split
    cases opens : commentOpensAt marker t with
    | false => rfl
    | true =>
      refine absurd ⟨s, t, split, ?_⟩ absent
      obtain ⟨before', run_⟩ := run_commentOpening isMarker s.reverse t []
        fun next caps => some (next, caps)
      simp only [commentOpening, cat_cons, run_seq, cat_nil, run_empty]
      rw [run_, if_pos opens]
      rfl
  · rintro absent ⟨s, t, split, found⟩
    obtain ⟨before', run_⟩ := run_commentOpening isMarker s.reverse t []
      fun next caps => some (next, caps)
    simp only [commentOpening, cat_cons, run_seq, cat_nil, run_empty] at found
    rw [run_, absent s t split] at found
    cases found

theorem matchHere_comment_of_not_opens (isMarker : IsMarker marker)
    (closed : commentOpensAt marker after = false) :
    matchHere (markedComment marker) before after = none := by
  rw [matchHere, markedComment]
  simp only [cat_cons, run_seq, cat_nil, run_empty]
  obtain ⟨before', run_⟩ := run_commentOpening isMarker before after [] fun next caps' =>
    (many space).run next caps' fun next caps' => (Regex.capture 1 (.star false anyChar)).run next
      caps' fun next caps' => (many space).run next caps' fun next caps' =>
        (lit "-->").run next caps' fun next caps' => some (next, caps')
  rw [run_, closed]
  rfl

end Opening

/-! ### Bodies -/

section Bodies

variable {marker : String} {before pre body behind : List Char}

/-- A comment as it is written: its body on lines of its own. -/
def commentText (marker : String) (body : List Char) : List Char :=
  commentOpen ++ ' ' :: (marker.toList ++ '\n' :: (body ++ '\n' :: commentClose))

/-- The rest of the pattern behind a body. -/
def closing (next : Cursor) (caps : Captures) : Option (Cursor × Captures) :=
  (many space).run next caps fun next caps' => (lit "-->").run next caps' fun next caps' =>
    some (next, caps')

theorem closing_eq (before after : List Char) (caps : Captures) :
    ∃ next, closing ⟨before, after⟩ caps =
      if commentClose <+: after.dropWhile Text.isSpace then some (next, caps) else none := by
  have close : "-->".toList = commentClose := by decide
  have stuck : ∀ before' c rest, Text.isSpace c = true →
      (lit "-->").run ⟨before', c :: rest⟩ caps (fun next caps' => some (next, caps')) = none := by
    intro before' c rest blank
    refine run_lit_eq_none _ _ _ fun starts => ?_
    rw [close] at starts
    obtain ⟨rfl, -⟩ := List.cons_prefix_cons.mp starts
    exact absurd blank (by decide)
  rw [closing, space, run_many_max stuck]
  by_cases ends : commentClose <+: after.dropWhile Text.isSpace
  · obtain ⟨rest, split⟩ := ends
    have read := run_lit_append caps (fun next caps' => some (next, caps')) "-->"
      ((after.takeWhile Text.isSpace).reverse ++ before) rest
    rw [close] at read
    refine ⟨⟨commentClose.reverse ++ ((after.takeWhile Text.isSpace).reverse ++ before), rest⟩, ?_⟩
    rw [← split, read, if_pos (List.prefix_append _ _)]
  · refine ⟨⟨before, after⟩, ?_⟩
    rw [if_neg ends]
    exact run_lit_eq_none _ _ _ ends

/-- What is captured between the white space behind the marker and the first closing. -/
theorem matchHere_comment (isMarker : IsMarker marker) {after captured rest : List Char}
    (opens : commentOpensAt marker after = true)
    (text : (behindOpening marker after).dropWhile Text.isSpace = captured ++ rest)
    (earlier : ∀ s t, captured = s ++ t → t ≠ [] →
      ¬ commentClose <+: (t ++ rest).dropWhile Text.isSpace)
    (here : commentClose <+: rest.dropWhile Text.isSpace) :
    ∃ hit, matchHere (markedComment marker) before after = some hit ∧
      hit.group 1 = String.ofList captured := by
  have capture : ∀ before', ∃ next, (Regex.capture 1 (.star false anyChar)).run
      ⟨before', captured ++ rest⟩ [] closing = some (next, [(1, captured)]) := by
    intro before'
    obtain ⟨next, closed⟩ := closing_eq (captured.reverse ++ before') rest [(1, captured)]
    rw [if_pos here] at closed
    refine ⟨next, ?_⟩
    rw [run]
    refine run_lazy_any ?_ ?_
    · intro s t split filled
      obtain ⟨next, open_⟩ := closing_eq (s.reverse ++ before') (t ++ rest)
        [(1, (captured ++ rest).take ((captured ++ rest).length - (t ++ rest).length))]
      rw [if_neg (earlier s t split filled)] at open_
      exact open_
    · have cut : (captured ++ rest).take ((captured ++ rest).length - rest.length) = captured := by
        rw [List.length_append, Nat.add_sub_cancel, List.take_left]
      dsimp only
      rw [cut, closed]
  obtain ⟨before', run_⟩ := run_commentOpening isMarker before after [] fun next caps' =>
    (many space).run next caps' fun next caps' =>
      (Regex.capture 1 (.star false anyChar)).run next caps' closing
  rw [if_pos opens] at run_
  obtain ⟨next, captured_⟩ := capture
    (((behindOpening marker after).takeWhile Text.isSpace).reverse ++ before')
  have whole : (many space).run ⟨before', behindOpening marker after⟩ [] (fun next caps' =>
      (Regex.capture 1 (.star false anyChar)).run next caps' closing) =
      some (next, [(1, captured)]) :=
    run_many_greedy (by rw [text]; exact captured_)
  refine ⟨⟨[], after.take (after.length - next.after.length), next, [(1, captured)]⟩, ?_, rfl⟩
  rw [matchHere, markedComment]
  simp only [cat_cons, run_seq, cat_nil, run_empty]
  exact congrArg (Option.map _) (run_.trans whole)

theorem marker_ne_nil (isMarker : IsMarker marker) : marker.toList ≠ [] := by
  intro nothing
  have starts := isMarker.visible ' ' (by decide) []
  rw [nothing] at starts
  cases starts

theorem startsFold_of_angle (isMarker : IsMarker marker) {t rest : List Char}
    (marked : startsFold marker.toList (t ++ '<' :: rest) = true) :
    startsFold marker.toList t = true := by
  by_cases fits : marker.toList.length ≤ t.length
  · exact startsFold_of_append fits marked
  · obtain ⟨d, found, folded⟩ := startsFold_getElem? marked
      (List.getElem?_eq_getElem (Nat.lt_of_not_le fits))
    rw [List.getElem?_append_right (Nat.le_refl _), Nat.sub_self, List.getElem?_cons_zero,
      Option.some.injEq] at found
    refine absurd folded.symm ?_
    rw [← found]
    exact isMarker.noAngle _ (List.getElem_mem _)

theorem opensAt_of_angle (isMarker : IsMarker marker) {t rest : List Char} (filled : t ≠ [])
    (opens : commentOpensAt marker (t ++ '<' :: rest) = true) : commentOpensAt marker t = true := by
  rw [commentOpensAt, Bool.and_eq_true, List.isPrefixOf_iff_prefix] at opens
  obtain ⟨starts, marked⟩ := opens
  have open_ : commentOpen <+: t := by
    obtain ⟨c, t, rfl⟩ := List.exists_cons_of_ne_nil filled
    obtain ⟨first, later⟩ := List.cons_prefix_cons.mp starts
    exact List.cons_prefix_cons.mpr ⟨first, Text.prefix_of_append_cons (by decide) later⟩
  obtain ⟨t, rfl⟩ := open_
  have drop : ∀ more, (commentOpen ++ t ++ more).drop 4 = t ++ more := fun _ => rfl
  have drop' : (commentOpen ++ t).drop 4 = t := rfl
  have angle : ¬ Text.isSpace '<' = true := by decide
  rw [drop, List.dropWhile_append] at marked
  rw [commentOpensAt, drop', Bool.and_eq_true, List.isPrefixOf_iff_prefix]
  refine ⟨List.prefix_append _ _, ?_⟩
  split at marked
  · rename_i blank
    rw [List.dropWhile_cons_of_neg angle, ← List.nil_append ('<' :: rest)] at marked
    rw [List.isEmpty_iff.mp blank]
    exact startsFold_of_angle isMarker marked
  · exact startsFold_of_angle isMarker marked

theorem commentOpensAt_text (isMarker : IsMarker marker) (body behind : List Char) :
    commentOpensAt marker (commentText marker body ++ behind) = true ∧
      behindOpening marker (commentText marker body ++ behind) =
        '\n' :: (body ++ '\n' :: (commentClose ++ behind)) := by
  have text : commentText marker body ++ behind = commentOpen ++ ' ' :: (marker.toList ++
      '\n' :: (body ++ '\n' :: (commentClose ++ behind))) := by
    simp [commentText]
  have drop : ∀ more, (commentOpen ++ ' ' :: more).drop 4 = ' ' :: more := fun _ => rfl
  have blank : Text.isSpace ' ' = true := by decide
  have kept : ∀ more, (marker.toList ++ more).dropWhile Text.isSpace = marker.toList ++ more := by
    intro more
    obtain ⟨m, ms, shape⟩ := List.exists_cons_of_ne_nil (marker_ne_nil isMarker)
    rw [shape, List.cons_append]
    refine List.dropWhile_cons_of_neg fun visible => ?_
    have starts := isMarker.visible m visible ms
    rw [shape, startsFold_self] at starts
    cases starts
  constructor
  · rw [text, commentOpensAt, drop, List.dropWhile_cons_of_pos blank, kept, Bool.and_eq_true,
      List.isPrefixOf_iff_prefix]
    exact ⟨List.prefix_append _ _, startsFold_append (startsFold_self _)⟩
  · rw [text, behindOpening, drop, List.dropWhile_cons_of_pos blank, kept, List.drop_left]

theorem exec_comment_of_match (isMarker : IsMarker marker)
    (absent : ∀ s t, pre = s ++ t → commentOpensAt marker t = false) {captured : List Char}
    (matched : ∀ before, ∃ hit, matchHere (markedComment marker) before
      (commentText marker body ++ behind) = some hit ∧ hit.group 1 = String.ofList captured) :
    ∃ hit, exec (markedComment marker)
      (String.ofList (pre ++ (commentText marker body ++ behind))) = some hit ∧
        hit.group 1 = String.ofList captured := by
  have angle : ∃ rest, commentText marker body ++ behind = '<' :: rest := ⟨_, rfl⟩
  obtain ⟨rest, angle⟩ := angle
  obtain ⟨hit, found, group⟩ := matched (pre.reverse ++ [])
  rw [angle] at found
  have here : search (markedComment marker) (pre.reverse ++ []) ('<' :: rest) = some hit :=
    search_cons_of_match found
  rw [exec, String.toList_ofList, angle, search_append, here]
  · exact ⟨_, rfl, group⟩
  · intro s t split filled
    refine matchHere_comment_of_not_opens isMarker ?_
    rw [Bool.eq_false_iff]
    intro opens
    have opened := opensAt_of_angle isMarker filled opens
    rw [absent s t split] at opened
    cases opened

/-- A text that ends with a visible character. -/
def EndsVisible (text : List Char) : Prop :=
  ∃ front c, text = front ++ [c] ∧ Text.isSpace c = false

theorem EndsVisible.of_suffix {s t : List Char} (ends : EndsVisible (s ++ t)) (filled : t ≠ []) :
    EndsVisible t := by
  obtain ⟨front, c, split, visible⟩ := ends
  have last : t.getLast? = some c := by
    have whole := congrArg List.getLast? split
    rwa [List.getLast?_concat, List.getLast?_append_of_ne_nil _ filled] at whole
  refine ⟨t.dropLast, c, ?_, visible⟩
  rw [List.getLast?_eq_some_getLast filled, Option.some.injEq] at last
  rw [← last]
  exact (List.dropLast_append_getLast filled).symm

theorem EndsVisible.dropWhile_append {t : List Char} (ends : EndsVisible t) (more : List Char) :
    (t ++ more).dropWhile Text.isSpace = t.dropWhile Text.isSpace ++ more ∧
      t.dropWhile Text.isSpace ≠ [] := by
  obtain ⟨front, c, rfl, visible⟩ := ends
  have some_ : (front ++ [c]).dropWhile Text.isSpace ≠ [] := by
    intro nothing
    have blank := List.dropWhile_eq_nil_iff.mp nothing c (by simp)
    rw [visible] at blank
    cases blank
  refine ⟨?_, some_⟩
  rw [List.dropWhile_append, if_neg fun isEmpty => some_ (List.isEmpty_iff.mp isEmpty)]

/-- A visible text without a closing is the body of its comment. -/
theorem exec_comment (behind : List Char) (isMarker : IsMarker marker)
    (absent : ∀ s t, pre = s ++ t → commentOpensAt marker t = false)
    (starts : ∃ c rest, body = c :: rest ∧ Text.isSpace c = false) (ends : EndsVisible body)
    (open_ : ¬ commentClose <:+: body) :
    ∃ hit, exec (markedComment marker)
      (String.ofList (pre ++ (commentText marker body ++ behind))) = some hit ∧
        hit.group 1 = String.ofList body := by
  refine exec_comment_of_match isMarker absent fun before => ?_
  obtain ⟨opens, behindOpens⟩ := commentOpensAt_text isMarker body behind
  have text : (behindOpening marker (commentText marker body ++ behind)).dropWhile Text.isSpace =
      body ++ '\n' :: (commentClose ++ behind) := by
    obtain ⟨c, rest, rfl, visible⟩ := starts
    rw [behindOpens, List.dropWhile_cons_of_pos (by decide), List.cons_append,
      List.dropWhile_cons_of_neg (by simp [visible])]
  refine matchHere_comment isMarker opens text ?_ ?_
  · intro s t split filled closes
    rw [split] at ends
    have visible := ends.of_suffix filled
    rw [(visible.dropWhile_append _).1] at closes
    have inside := Text.prefix_of_append_cons (by decide) closes
    refine open_ (inside.isInfix.trans ((List.dropWhile_suffix _).isInfix.trans ?_))
    rw [split]
    exact (List.suffix_append s t).isInfix
  · rw [List.dropWhile_cons_of_pos (by decide)]
    exact List.prefix_append commentClose behind

theorem exists_blank_end (text : List Char) : ∃ visible blanks, text = visible ++ blanks ∧
    (∀ c ∈ blanks, Text.isSpace c = true) ∧ (visible = [] ∨ EndsVisible visible) := by
  refine ⟨(text.reverse.dropWhile Text.isSpace).reverse,
    (text.reverse.takeWhile Text.isSpace).reverse, ?_, ?_, ?_⟩
  · rw [← List.reverse_append, List.takeWhile_append_dropWhile, List.reverse_reverse]
  · intro c inside
    exact List.mem_takeWhile_imp (List.mem_reverse.mp inside)
  · cases shape : text.reverse.dropWhile Text.isSpace with
    | nil => exact .inl rfl
    | cons c rest =>
      have visible : Text.isSpace c = false := by
        have head := List.head?_dropWhile_not Text.isSpace text.reverse
        rw [shape] at head
        simpa using head
      exact .inr ⟨rest.reverse, c, by rw [List.reverse_cons], visible⟩

/-- A body with a closing in it is cut off before it. -/
theorem exec_comment_cut (behind : List Char) (isMarker : IsMarker marker)
    (absent : ∀ s t, pre = s ++ t → commentOpensAt marker t = false)
    (starts : ∃ c rest, body = c :: rest ∧ Text.isSpace c = false)
    (closes : commentClose <:+: body) :
    ∃ cut more hit, body = cut ++ more ∧ more ≠ [] ∧ exec (markedComment marker)
      (String.ofList (pre ++ (commentText marker body ++ behind))) = some hit ∧
        hit.group 1 = String.ofList cut := by
  obtain ⟨front, rest, split, first⟩ := exists_first (by decide) closes
  obtain ⟨cut, blanks, rfl, blank, visible⟩ := exists_blank_end front
  obtain ⟨opens, behindOpens⟩ := commentOpensAt_text isMarker body behind
  have text : (behindOpening marker (commentText marker body ++ behind)).dropWhile Text.isSpace =
      cut ++ (blanks ++ (commentClose ++ (rest ++ '\n' :: (commentClose ++ behind)))) := by
    have whole : (behindOpening marker (commentText marker body ++ behind)).dropWhile
        Text.isSpace = body ++ '\n' :: (commentClose ++ behind) := by
      obtain ⟨c, more, rfl, seen⟩ := starts
      rw [behindOpens, List.dropWhile_cons_of_pos (by decide), List.cons_append,
        List.dropWhile_cons_of_neg (by simp [seen])]
    rw [whole, split]
    simp
  have matched : ∀ before, ∃ hit, matchHere (markedComment marker) before
      (commentText marker body ++ behind) = some hit ∧ hit.group 1 = String.ofList cut := by
    intro before
    refine matchHere_comment isMarker opens text ?_ ?_
    · intro s t whole filled starts
      have ends : EndsVisible t := by
        rcases visible with rfl | visible
        · exact absurd (List.append_eq_nil_iff.mp whole.symm).2 filled
        · rw [whole] at visible
          exact visible.of_suffix filled
      obtain ⟨dropped, left⟩ := ends.dropWhile_append
        (blanks ++ (commentClose ++ (rest ++ '\n' :: (commentClose ++ behind))))
      rw [dropped] at starts
      -- The closing would begin before the first one.
      have place : cut ++ blanks = (s ++ t.takeWhile Text.isSpace) ++
          (t.dropWhile Text.isSpace ++ blanks) := by
        rw [whole, List.append_assoc, List.append_assoc, ← List.append_assoc
          (t.takeWhile Text.isSpace), List.takeWhile_append_dropWhile]
      have filled' : t.dropWhile Text.isSpace ++ blanks ≠ [] :=
        fun nothing => left (List.append_eq_nil_iff.mp nothing).1
      refine first _ _ place filled' (List.prefix_of_prefix_length_le starts
        ⟨'\n' :: (commentClose ++ behind), by simp⟩ ?_)
      simp only [List.length_append]
      omega
    · rw [List.dropWhile_append_of_pos blank]
      exact List.prefix_append commentClose _
  obtain ⟨hit, found, group⟩ := exec_comment_of_match isMarker absent matched
  refine ⟨cut, blanks ++ (commentClose ++ rest), hit, ?_, by simp [commentClose], found, group⟩
  rw [split, List.append_assoc]

end Bodies

end AifHandoff.Regex
