import AifHandoff.Lib.RegexRuns

/-!
Fenced blocks of a language in a text.

A block opens with three backticks and the name of its language, in any case, at the end of a
word; its body begins behind the line of the opening and ends before the next three backticks,
wherever these stand.
-/

namespace AifHandoff.Regex

section Stars

variable {α : Type} {caps : Captures} {k : Cursor → Captures → Option α}

theorem run_many_of_stop {accepts : Char → Bool} {c : Char} (stop : accepts c = false)
    (before rest : List Char) :
    (many (.set accepts)).run ⟨before, c :: rest⟩ caps k = k ⟨before, c :: rest⟩ caps := by
  rw [many, run]
  simp only [List.length_cons, starLoop]
  rw [run_set_cons, stop]
  rfl

/-- The pattern `[\s\S]`. -/
def anyChar : Regex := .set fun _ => true

theorem starLoop_lazy_any {fuel : Nat} {before body rest : List Char} {result : α}
    (enough : body.length < fuel)
    (earlier : ∀ s t, body = s ++ t → t ≠ [] → k ⟨s.reverse ++ before, t ++ rest⟩ caps = none)
    (here : k ⟨body.reverse ++ before, rest⟩ caps = some result) :
    starLoop false anyChar.run fuel ⟨before, body ++ rest⟩ caps k = some result := by
  induction fuel generalizing before body with
  | zero => exact absurd enough (Nat.not_lt_zero _)
  | succ fuel ih =>
    cases body with
    | nil =>
      rw [starLoop]
      simp only [List.reverse_nil, List.nil_append] at here
      simp [here]
    | cons c body =>
      have first : k ⟨before, c :: body ++ rest⟩ caps = none :=
        earlier [] (c :: body) rfl (List.cons_ne_nil _ _)
      have later : starLoop false anyChar.run fuel ⟨c :: before, body ++ rest⟩ caps k =
          some result := by
        refine ih (Nat.lt_of_succ_lt_succ enough) ?_ ?_
        · intro s t split filled
          have := earlier (c :: s) t (by rw [split]; rfl) filled
          simpa using this
        · simpa using here
      rw [starLoop]
      dsimp only
      rw [if_neg Bool.false_ne_true, first, Option.none_or, List.cons_append, anyChar,
        run_set_cons, if_pos rfl, if_pos (by simp)]
      exact later

theorem run_lazy_any {before body rest : List Char} {result : α}
    (earlier : ∀ s t, body = s ++ t → t ≠ [] → k ⟨s.reverse ++ before, t ++ rest⟩ caps = none)
    (here : k ⟨body.reverse ++ before, rest⟩ caps = some result) :
    (Regex.star false anyChar).run ⟨before, body ++ rest⟩ caps k = some result := by
  rw [run]
  refine starLoop_lazy_any ?_ earlier here
  dsimp only
  rw [List.length_append]
  omega

end Stars

/-! ### Literals in any case -/

/-- The text begins with the literal, up to the case of ASCII letters. -/
def startsFold : List Char → List Char → Bool
  | [], _ => true
  | c :: cs, d :: ds => d.toLower == c.toLower && startsFold cs ds
  | _ :: _, [] => false

attribute [local simp] startsFold

theorem startsFold_getElem? {cs ds : List Char} (starts : startsFold cs ds = true) {i : Nat}
    {c : Char} (at_ : cs[i]? = some c) : ∃ d, ds[i]? = some d ∧ d.toLower = c.toLower := by
  induction cs generalizing ds i with
  | nil => cases at_
  | cons c' cs ih =>
    cases ds with
    | nil => cases starts
    | cons d ds =>
      rw [startsFold, Bool.and_eq_true, beq_iff_eq] at starts
      cases i with
      | zero =>
        obtain rfl : c' = c := by simpa using at_
        exact ⟨d, rfl, starts.1⟩
      | succ i => exact ih starts.2 at_

theorem startsFold_append {cs ds more : List Char} (starts : startsFold cs ds = true) :
    startsFold cs (ds ++ more) = true := by
  induction cs generalizing ds with
  | nil => cases ds <;> rfl
  | cons c cs ih =>
    cases ds with
    | nil => cases starts
    | cons d ds =>
      rw [startsFold, Bool.and_eq_true] at starts
      rw [List.cons_append, startsFold, Bool.and_eq_true]
      exact ⟨starts.1, ih starts.2⟩

theorem startsFold_of_append {cs ds more : List Char} (fits : cs.length ≤ ds.length)
    (starts : startsFold cs (ds ++ more) = true) : startsFold cs ds = true := by
  induction cs generalizing ds with
  | nil => cases ds <;> rfl
  | cons c cs ih =>
    cases ds with
    | nil => cases fits
    | cons d ds =>
      rw [List.cons_append, startsFold, Bool.and_eq_true] at starts
      rw [startsFold, Bool.and_eq_true]
      exact ⟨starts.1, ih (Nat.le_of_succ_le_succ fits) starts.2⟩

theorem startsFold_self (cs : List Char) : startsFold cs cs = true := by
  induction cs with
  | nil => rfl
  | cons c cs ih => simp [startsFold, ih]

theorem run_litI {α : Type} {caps : Captures} {k : Cursor → Captures → Option α} (s : String)
    (before after : List Char) :
    (litI s).run ⟨before, after⟩ caps k =
      if startsFold s.toList after = true then
        k ⟨(after.take s.toList.length).reverse ++ before, after.drop s.toList.length⟩ caps
      else none := by
  rw [litI]
  generalize s.toList = cs
  induction cs generalizing before after with
  | nil => cases after <;> rfl
  | cons c cs ih =>
    cases after with
    | nil => rfl
    | cons d ds =>
      rw [List.foldr_cons, run_seq, run_set_cons, ih, startsFold]
      cases d.toLower == c.toLower with
      | false => rfl
      | true => simp

/-! ### Searching behind a text without a match -/

section Search

variable {r : Regex} {before skipped after : List Char}

theorem search_append
    (absent : ∀ s t, skipped = s ++ t → t ≠ [] →
      matchHere r (s.reverse ++ before) (t ++ after) = none) :
    search r before (skipped ++ after) = (search r (skipped.reverse ++ before) after).map fun hit =>
      { hit with skipped := skipped ++ hit.skipped } := by
  induction skipped generalizing before with
  | nil => simp
  | cons c skipped ih =>
    have here : matchHere r before (c :: (skipped ++ after)) = none :=
      absent [] (c :: skipped) rfl (List.cons_ne_nil _ _)
    have later : search r (c :: before) (skipped ++ after) =
        (search r (skipped.reverse ++ c :: before) after).map fun hit =>
          { hit with skipped := skipped ++ hit.skipped } := by
      refine ih fun s t split filled => ?_
      have := absent (c :: s) t (by rw [split]; rfl) filled
      simpa using this
    rw [List.cons_append, search_cons_of_none here, later, Option.map_map]
    simp only [List.reverse_cons, List.append_assoc, List.singleton_append]
    rfl

end Search

/-! ### Fences -/

def ticks : List Char := ['\x60', '\x60', '\x60']

/-- The characters that open a block of the language. -/
def fenceText (lang : String) : String := String.ofList (ticks ++ lang.toList)

def opening (lang : String) : Regex := cat [litI (fenceText lang), .wordBoundary]

/-- A block of the language, with its body as the first group. -/
def fence (lang : String) : Regex :=
  cat [litI (fenceText lang), .wordBoundary, many (noneOf "\r\n"), optional (lit "\r"), lit "\n",
    .capture 1 (.star false anyChar), lit (String.ofList ticks)]

/-- The bodies of the blocks of the language. -/
def blocks (lang : String) (text : String) : List String :=
  (matchAll (fence lang) text).map (·.group 1)

/-- No block of the language opens in the text. -/
def NoFence (lang : String) (text : String) : Prop := test (opening lang) text = false

section Opening

variable {lang : String} {before after : List Char}

/-- A block of the language opens at the beginning of the text. -/
def opensAt (lang : String) (after : List Char) : Bool :=
  startsFold (fenceText lang).toList after &&
    atWordBoundary ⟨(after.take (fenceText lang).toList.length).reverse,
      after.drop (fenceText lang).toList.length⟩

theorem fenceText_toList (lang : String) : (fenceText lang).toList = ticks ++ lang.toList := by
  rw [fenceText, String.toList_ofList]

theorem atWordBoundary_append {read rest : List Char} (some_ : read ≠ []) :
    atWordBoundary ⟨read.reverse ++ before, rest⟩ = atWordBoundary ⟨read.reverse, rest⟩ := by
  have filled : read.reverse ≠ [] := List.reverse_ne_nil_iff.mpr some_
  cases shape : read.reverse with
  | nil => exact absurd shape filled
  | cons c cs => rfl

theorem take_ne_nil_of_starts (starts : startsFold (fenceText lang).toList after = true) :
    after.take (fenceText lang).toList.length ≠ [] := by
  rw [fenceText_toList] at starts ⊢
  cases after with
  | nil => cases starts
  | cons c rest => exact List.cons_ne_nil _ _

/-- What follows an opening decides whether a pattern that begins with it matches. -/
theorem run_opening {α : Type} {caps : Captures} {k : Cursor → Captures → Option α} :
    (litI (fenceText lang)).run ⟨before, after⟩ caps
        (fun next caps' => Regex.wordBoundary.run next caps' k) =
      if opensAt lang after = true then
        k ⟨(after.take (fenceText lang).toList.length).reverse ++ before,
          after.drop (fenceText lang).toList.length⟩ caps
      else none := by
  rw [run_litI, opensAt]
  cases starts : startsFold (fenceText lang).toList after with
  | false => rfl
  | true =>
    rw [if_pos rfl, run_wordBoundary, atWordBoundary_append (take_ne_nil_of_starts starts)]
    rfl

theorem noFence_iff {text : String} : NoFence lang text ↔
    ∀ s t, text.toList = s ++ t → opensAt lang t = false := by
  rw [NoFence, ← Bool.not_eq_true, test_iff]
  constructor
  · intro absent s t split
    cases opens : opensAt lang t with
    | false => rfl
    | true =>
      refine absurd ⟨s, t, split, ?_⟩ absent
      rw [opening, cat_cons, run_seq, cat_cons]
      simp only [run_seq, cat_nil, run_empty]
      rw [run_opening, if_pos opens]
      rfl
  · rintro absent ⟨s, t, split, found⟩
    rw [opening, cat_cons, run_seq, cat_cons] at found
    simp only [run_seq, cat_nil, run_empty] at found
    rw [run_opening, absent s t split] at found
    cases found

theorem matchHere_fence_of_not_opens (closed : opensAt lang after = false) :
    matchHere (fence lang) before after = none := by
  rw [matchHere, fence, cat_cons, run_seq, cat_cons]
  simp only [run_seq]
  rw [run_opening, closed]
  rfl

end Opening

/-! ### Blocks -/

section Blocks

/-- The name of a language: it is there, has no backtick, and ends with a word character. -/
structure IsLanguage (lang : String) : Prop where
  filled : lang.toList ≠ []
  noTick : ∀ c ∈ lang.toList, c.toLower ≠ '\x60'
  word : lang.toList.getLast?.any isWordChar = true

variable {lang : String} {before after pre post body : List Char}

theorem ticks_getElem? {i : Nat} (small : i < 3) : ticks[i]? = some '\x60' := by
  have all : ∀ i < 3, ticks[i]? = some '\x60' := by decide
  exact all i small

/-- A text in front of three backticks opens a block only where it does by itself. -/
theorem opensAt_of_ticks (language : IsLanguage lang) (some_ : pre ≠ [])
    (opens : opensAt lang (pre ++ (ticks ++ after)) = true) : opensAt lang pre = true := by
  rw [opensAt, Bool.and_eq_true] at opens ⊢
  obtain ⟨starts, boundary⟩ := opens
  have fits : (fenceText lang).toList.length ≤ pre.length := by
    by_contra long
    -- a backtick of the block behind stands where the name of the language should
    have few : 0 < pre.length := List.length_pos_of_ne_nil some_
    obtain ⟨i, c, ticksAt, among, letter⟩ : ∃ i c, (pre ++ (ticks ++ after))[i]? = some '\x60' ∧
        c ∈ lang.toList ∧ (fenceText lang).toList[i]? = some c := by
      rw [fenceText_toList, List.length_append] at long
      have three : ticks.length = 3 := rfl
      have atLeast : 0 < lang.toList.length := List.length_pos_of_ne_nil language.filled
      have inTicks : ticks[max pre.length 3 - pre.length]? = some '\x60' :=
        ticks_getElem? (by omega)
      cases letter : lang.toList[max pre.length 3 - 3]? with
      | none =>
        have := List.getElem?_eq_none_iff.mp letter
        omega
      | some c =>
        refine ⟨max pre.length 3, c, ?_, List.mem_of_getElem? letter, ?_⟩
        · rw [List.getElem?_append_right (le_max_left _ _), List.getElem?_append_left (by omega)]
          exact inTicks
        · have behind : ticks.length ≤ max pre.length 3 := le_max_right _ _
          rw [fenceText_toList, List.getElem?_append_right behind, three]
          exact letter
    obtain ⟨d, there, same⟩ := startsFold_getElem? starts letter
    rw [ticksAt] at there
    obtain rfl := Option.some.inj there
    exact language.noTick c among same.symm
  refine ⟨startsFold_of_append fits starts, ?_⟩
  rw [List.take_append_of_le_length fits, List.drop_append_of_le_length fits] at boundary
  rw [← boundary]
  cases rest : pre.drop (fenceText lang).toList.length with
  | nil => rfl
  | cons c rest => rfl

/-- The text of a block: the opening, a line feed, the body and three backticks. -/
def blockText (lang : String) (body : List Char) : List Char :=
  (fenceText lang).toList ++ '\n' :: (body ++ ticks)

/-- The body ends before the first three backticks of what follows the opening. -/
def EndsFirst (body rest : List Char) : Prop :=
  ∀ s t, body = s ++ t → t ≠ [] → ¬ ticks <+: t ++ (ticks ++ rest)

theorem EndsFirst.append {body rest : List Char} (first : EndsFirst body rest) (more : List Char) :
    EndsFirst body (rest ++ more) := by
  intro s t split filled starts
  refine first s t split filled ?_
  have longer : t ++ (ticks ++ (rest ++ more)) = (t ++ (ticks ++ rest)) ++ more := by simp
  rw [longer] at starts
  refine List.prefix_of_prefix_length_le starts (List.prefix_append _ _) ?_
  simp only [List.length_append]
  omega

theorem opensAt_fenceText (language : IsLanguage lang) (rest : List Char) :
    opensAt lang ((fenceText lang).toList ++ '\n' :: rest) = true := by
  rw [opensAt, startsFold_append (startsFold_self _), List.take_left, List.drop_left,
    fenceText_toList, List.reverse_append]
  have word := language.word
  rw [← List.head?_reverse] at word
  cases shape : lang.toList.reverse with
  | nil =>
    rw [shape] at word
    cases word
  | cons c rest =>
    rw [shape] at word
    have letter : isWordChar c = true := word
    have newline : isWordChar '\n' = false := by decide
    simp [atWordBoundary, letter, newline]

/-- A block is matched with its body. -/
theorem matchHere_fence (language : IsLanguage lang) (first : EndsFirst body after) :
    matchHere (fence lang) before (blockText lang body ++ after) =
      some ⟨[], blockText lang body,
        ⟨(blockText lang body).reverse ++ before, after⟩, [(1, body)]⟩ := by
  have text : blockText lang body ++ after =
      (fenceText lang).toList ++ '\n' :: (body ++ (ticks ++ after)) := by
    simp [blockText]
  have body_ : ∀ before' caps, (Regex.capture 1 (.star false anyChar)).run
      ⟨before', body ++ (ticks ++ after)⟩ caps (fun next caps' =>
        (lit (String.ofList ticks)).run next caps' fun next caps'' => some (next, caps'')) =
      some (⟨ticks.reverse ++ (body.reverse ++ before'), after⟩, (1, body) :: caps) := by
    intro before' caps
    rw [run]
    refine run_lazy_any ?_ ?_
    · intro s t split filled
      refine run_lit_eq_none _ _ _ ?_
      rw [String.toList_ofList]
      exact first s t split filled
    · have read := run_lit_append ((1, body) :: caps) (fun next caps'' => some (next, caps''))
        (String.ofList ticks) (body.reverse ++ before') after
      rw [String.toList_ofList] at read
      simpa using read
  rw [text, matchHere, fence, cat_cons, run_seq, cat_cons]
  simp only [run_seq]
  have newline : (!("\r\n".toList.contains '\n')) = false := by decide
  have noReturn : ¬ "\r".toList <+: '\n' :: (body ++ (ticks ++ after)) := by
    intro starts
    have := (List.cons_prefix_cons.mp starts).1
    revert this
    decide
  rw [run_opening, if_pos (opensAt_fenceText language _), List.take_left, List.drop_left]
  simp only [cat_cons, run_seq, cat_nil, run_empty]
  rw [noneOf, run_many_of_stop newline, optional, run_alt, run_lit_eq_none _ _ _ noReturn,
    Option.none_or, run_empty]
  have feed := run_lit_append [] (fun next caps' => (Regex.capture 1 (.star false anyChar)).run next
    caps' fun next caps' => (lit (String.ofList ticks)).run next caps' fun next caps' =>
      some (next, caps')) "\n" ((fenceText lang).toList.reverse ++ before) (body ++ (ticks ++ after))
  have line : "\n".toList ++ (body ++ (ticks ++ after)) = '\n' :: (body ++ (ticks ++ after)) := rfl
  rw [line] at feed
  have cut : (blockText lang body ++ after).take
      ((blockText lang body ++ after).length - after.length) = blockText lang body := by
    rw [List.length_append, Nat.add_sub_cancel, List.take_left]
  rw [feed, body_, Option.map_some]
  dsimp only
  rw [← text, cut]
  simp [blockText]

theorem matchHere_fence_absent {skipped : List Char} (language : IsLanguage lang)
    (absent : ∀ s t, skipped = s ++ t → opensAt lang t = false) {s t : List Char}
    (split : skipped = s ++ t) (filled : t ≠ []) :
    matchHere (fence lang) before (t ++ (ticks ++ after)) = none := by
  refine matchHere_fence_of_not_opens ?_
  cases opens : opensAt lang (t ++ (ticks ++ after)) with
  | false => rfl
  | true =>
    have inside := opensAt_of_ticks language filled opens
    rw [absent s t split] at inside
    cases inside

/-- The block behind a text without an opening is the first that is found. -/
theorem search_fence (language : IsLanguage lang)
    (absent : ∀ s t, pre = s ++ t → opensAt lang t = false) (first : EndsFirst body after) :
    search (fence lang) before (pre ++ (blockText lang body ++ after)) =
      some ⟨pre, blockText lang body,
        ⟨(blockText lang body).reverse ++ (pre.reverse ++ before), after⟩, [(1, body)]⟩ := by
  have begins : ∃ rest, blockText lang body ++ after = ticks ++ rest := by
    rw [blockText, fenceText_toList]
    exact ⟨lang.toList ++ '\n' :: (body ++ ticks) ++ after, by simp⟩
  obtain ⟨rest, begins⟩ := begins
  rw [search_append]
  · have here : matchHere (fence lang) (pre.reverse ++ before) (blockText lang body ++ after) =
        some ⟨[], blockText lang body,
          ⟨(blockText lang body).reverse ++ (pre.reverse ++ before), after⟩, [(1, body)]⟩ :=
      matchHere_fence language first
    cases shape : blockText lang body ++ after with
    | nil =>
      rw [begins] at shape
      cases shape
    | cons c cs =>
      rw [shape] at here
      rw [search_cons_of_match here]
      simp
  · intro s t split filled
    rw [begins]
    exact matchHere_fence_absent language absent split filled

theorem search_fence_of_noFence {text : List Char}
    (absent : ∀ s t, text = s ++ t → opensAt lang t = false) :
    search (fence lang) before text = none := by
  have none_ : ¬ (search (fence lang) before text).isSome = true := by
    rw [search_isSome_iff]
    rintro ⟨s, t, split, found⟩
    rw [matchHere_fence_of_not_opens (absent s t split)] at found
    cases found
  simpa using none_

theorem fenceText_ne_nil : (fenceText lang).toList ≠ [] := by
  rw [fenceText_toList]
  exact List.cons_ne_nil _ _

/-- The bodies found in a text with a block behind a text without an opening: that of the block,
and, when there is no opening behind it either, no other. -/
theorem blocks_embedded (language : IsLanguage lang)
    (absent : ∀ s t, pre = s ++ t → opensAt lang t = false) (first : EndsFirst body after) :
    ∃ others, blocks lang (String.ofList (pre ++ (blockText lang body ++ after))) =
        String.ofList body :: others ∧
      ((∀ s t, after = s ++ t → opensAt lang t = false) → others = []) := by
  have found : search (fence lang) [] (pre ++ (blockText lang body ++ after)) =
      some ⟨pre, blockText lang body,
        ⟨(blockText lang body).reverse ++ (pre.reverse ++ []), after⟩, [(1, body)]⟩ :=
    search_fence language absent first
  have matched : (blockText lang body).isEmpty = false := by
    cases shape : blockText lang body with
    | nil => exact absurd (List.append_eq_nil_iff.mp shape).1 fenceText_ne_nil
    | cons c cs => rfl
  rw [blocks, matchAll, String.toList_ofList, matchLoop, found]
  dsimp only
  rw [matched, if_neg Bool.false_ne_true]
  refine ⟨_, rfl, fun closed => ?_⟩
  rw [matchLoop_of_no_match (search_fence_of_noFence closed)]
  rfl

theorem exists_first {word cs : List Char} (some_ : word ≠ []) (inside : word <:+: cs) :
    ∃ body rest, cs = body ++ (word ++ rest) ∧
      ∀ s t, body = s ++ t → t ≠ [] → ¬ word <+: t ++ (word ++ rest) := by
  induction cs with
  | nil => exact absurd (List.infix_nil.mp inside) some_
  | cons c cs ih =>
    by_cases starts : word <+: c :: cs
    · obtain ⟨rest, same⟩ := starts
      refine ⟨[], rest, same.symm, ?_⟩
      intro s t split filled
      exact absurd (List.append_eq_nil_iff.mp split.symm).2 filled
    · have later : word <:+: cs := (List.infix_cons_iff.mp inside).resolve_left starts
      obtain ⟨body, rest, rfl, first⟩ := ih later
      refine ⟨c :: body, rest, rfl, ?_⟩
      intro s t split filled
      cases s with
      | nil =>
        obtain rfl : c :: body = t := split
        exact starts
      | cons d s => exact first s t (List.cons.inj split).2 filled

theorem exists_first_ticks {cs : List Char} (inside : ticks <:+: cs) :
    ∃ body rest, cs = body ++ (ticks ++ rest) ∧ EndsFirst body rest :=
  exists_first (List.cons_ne_nil _ _) inside

/-- A text without three backticks, with a line feed behind it, ends where the backticks of
its block begin. -/
theorem endsFirst_of_no_ticks {cs : List Char} (absent : ¬ ticks <:+: cs) (rest : List Char) :
    EndsFirst (cs ++ ['\n']) rest := by
  intro s t split filled starts
  obtain ⟨tail, same⟩ := starts
  have last : t.getLast? = some '\n' := by
    have whole := congrArg List.getLast? split
    rw [List.getLast?_concat, List.getLast?_append_of_ne_nil _ filled] at whole
    exact whole.symm
  rcases t with - | ⟨a, - | ⟨b, - | ⟨c, t⟩⟩⟩
  · exact filled rfl
  · obtain rfl := Option.some.inj last
    exact absurd (List.cons.inj same).1 (by decide)
  · obtain rfl : b = '\n' := by simpa using last
    exact absurd (List.cons.inj (List.cons.inj same).2).1 (by decide)
  · simp only [ticks, List.cons_append, List.cons.injEq] at same
    obtain ⟨rfl, rfl, rfl, -⟩ := same
    have ends : t ≠ [] := by
      rintro rfl
      exact absurd (Option.some.inj last) (by decide)
    have shape : t = t.dropLast ++ ['\n'] := by
      have lastOf : t.getLast? = some '\n' := by
        rw [List.getLast?_cons_cons, List.getLast?_cons_cons] at last
        cases t with
        | nil => exact absurd rfl ends
        | cons d t => simpa using last
      exact (List.dropLast_append_getLast? _ lastOf).symm
    have cut : cs = s ++ ('\x60' :: '\x60' :: '\x60' :: t.dropLast) := by
      have same : cs ++ ['\n'] =
          (s ++ ('\x60' :: '\x60' :: '\x60' :: t.dropLast)) ++ ['\n'] := by
        rw [split, List.append_assoc, List.cons_append, List.cons_append, List.cons_append, ← shape]
      exact List.append_cancel_right same
    exact absent ⟨s, t.dropLast, by rw [cut]; simp [ticks]⟩

end Blocks

end AifHandoff.Regex
