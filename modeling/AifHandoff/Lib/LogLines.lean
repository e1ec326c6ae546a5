import AifHandoff.Lib.FencedBlocks
import AifHandoff.Lib.RegexReads

/-!
Lines of a log that say what happened to a named party.

Such a line is a time in brackets, a kind, a name and an event: `[12:00] Agent: reviewer started`.
It is found by a pattern with alternatives for the name and for the event.
-/

namespace AifHandoff

namespace Regex

/-- Words of which none begins another, in any case. -/
def PrefixFree (words : List String) : Prop :=
  words.Pairwise fun word other => startsFold word.toList other.toList = false ∧
    startsFold other.toList word.toList = false

instance (words : List String) : Decidable (PrefixFree words) :=
  inferInstanceAs (Decidable (List.Pairwise _ _))

/-- A pattern of alternative words, in any case. -/
def anyWord (words : List String) : Regex := anyOf (words.map litI)

/-- `]\s+Kind:\s+name\s+event\b`. -/
def eventPattern (kind : String) (name event : Regex) : Regex :=
  cat [lit "]", some1 space, litI kind, some1 space, name, some1 space, event, .wordBoundary]

section Words

variable {α : Type} {caps : Captures} {k : Cursor → Captures → Option α} {words : List String}
  {word other : String}

theorem startsFold_symm {cs ds more : List Char} (starts : startsFold cs (ds ++ more) = true)
    (fits : ds.length ≤ cs.length) : startsFold ds cs = true := by
  induction ds generalizing cs with
  | nil => cases cs <;> rfl
  | cons d ds ih =>
    cases cs with
    | nil => exact absurd fits (Nat.not_succ_le_zero _)
    | cons c cs =>
      rw [List.cons_append, startsFold, Bool.and_eq_true, beq_iff_eq] at starts
      rw [startsFold, Bool.and_eq_true, beq_iff_eq]
      exact ⟨starts.1.symm, ih starts.2 (Nat.le_of_succ_le_succ fits)⟩

/-- A word that neither begins another nor is begun by it does not begin a text with the other. -/
theorem not_startsFold_append {cs ds more : List Char} (first : startsFold cs ds = false)
    (second : startsFold ds cs = false) : startsFold cs (ds ++ more) = false := by
  rw [Bool.eq_false_iff]
  intro starts
  rcases Nat.le_total cs.length ds.length with fits | fits
  · rw [startsFold_of_append fits starts] at first
    cases first
  · rw [startsFold_symm starts fits] at second
    cases second

theorem run_word (word : String) (before more : List Char) :
    (litI word).run ⟨before, word.toList ++ more⟩ caps k =
      k ⟨word.toList.reverse ++ before, more⟩ caps := by
  rw [run_litI, if_pos (startsFold_append (startsFold_self _)), List.take_left, List.drop_left]

theorem run_other_word {word other : String} (before more : List Char)
    (first : startsFold other.toList word.toList = false)
    (second : startsFold word.toList other.toList = false) :
    (litI other).run ⟨before, word.toList ++ more⟩ caps k = none := by
  rw [run_litI, not_startsFold_append first second, if_neg Bool.false_ne_true]

theorem run_anyWord_cons (first : String) (rest : List String) (at_ : Cursor) :
    (anyWord (first :: rest)).run at_ caps k =
      ((litI first).run at_ caps k).or ((anyWord rest).run at_ caps k) := by
  cases rest with
  | nil =>
    obtain ⟨before, after⟩ := at_
    have nothing : (anyWord []).run ⟨before, after⟩ caps k = none := by
      cases after with
      | nil => rfl
      | cons c rest => rfl
    rw [nothing, Option.or_none]
    rfl
  | cons second rest => rfl

theorem run_anyWord_of_others {words : List String} {word : String} (before more : List Char)
    (others : ∀ other ∈ words, startsFold other.toList word.toList = false ∧
      startsFold word.toList other.toList = false) :
    (anyWord words).run ⟨before, word.toList ++ more⟩ caps k = none := by
  induction words with
  | nil =>
    cases shape : word.toList ++ more with
    | nil => rfl
    | cons c rest => rfl
  | cons first rest ih =>
    obtain ⟨here, there⟩ := others first List.mem_cons_self
    rw [run_anyWord_cons, run_other_word before more here there, Option.none_or]
    exact ih fun other inside => others other (List.mem_cons_of_mem first inside)

theorem run_anyWord (free : PrefixFree words) (isWord : word ∈ words) (before more : List Char) :
    (anyWord words).run ⟨before, word.toList ++ more⟩ caps k =
      k ⟨word.toList.reverse ++ before, more⟩ caps := by
  induction words with
  | nil => cases isWord
  | cons first rest ih =>
    obtain ⟨apart, later⟩ := List.pairwise_cons.mp free
    rw [run_anyWord_cons]
    rcases List.mem_cons.mp isWord with rfl | inRest
    · rw [run_word, run_anyWord_of_others before more fun other inside =>
        (apart other inside).symm, Option.or_none]
    · rw [run_other_word before more (apart word inRest).1 (apart word inRest).2,
        Option.none_or, ih later inRest]

end Words

/-! ### Lines -/

/-- A text that begins with a visible character. -/
def StartsVisible (text : String) : Prop :=
  ∃ c rest, text.toList = c :: rest ∧ Text.isSpace c = false

/-- A text that ends with a character of a word. -/
def EndsInWord (text : String) : Prop :=
  ∃ front c, text.toList = front ++ [c] ∧ isWordChar c = true

/-- What stands behind the time of a line. -/
def eventText (kind name event : String) (more : List Char) : List Char :=
  ']' :: ' ' :: (kind.toList ++ ' ' :: (name.toList ++ ' ' :: (event.toList ++ ' ' :: more)))

section Lines

variable {kind name event : String} {names events : List String} {time before more : List Char}

theorem run_blank {α : Type} {caps : Captures} {k : Cursor → Captures → Option α} {text : String}
    (visible : StartsVisible text) (before more : List Char) :
    (some1 space).run ⟨before, ' ' :: (text.toList ++ more)⟩ caps k =
      k ⟨' ' :: before, text.toList ++ more⟩ caps := by
  obtain ⟨c, rest, shape, seen⟩ := visible
  have blank : Text.isSpace ' ' = true := by decide
  rw [some1, run_seq, space, run_set_cons, if_pos blank, shape, List.cons_append]
  exact run_many_of_stop seen (' ' :: before) (rest ++ more)

theorem atWordBoundary_of_endsInWord {text : String} (ends : EndsInWord text)
    (before more : List Char) :
    atWordBoundary ⟨text.toList.reverse ++ before, ' ' :: more⟩ = true := by
  obtain ⟨front, c, shape, word⟩ := ends
  have blank : isWordChar ' ' = false := by decide
  rw [atWordBoundary, shape, List.reverse_append]
  simp [word, blank]

/-- The pattern finds the event behind the time, and captures it. -/
theorem matchHere_event (before more : List Char) (kindVisible : StartsVisible kind)
    (nameVisible : StartsVisible name)
    (eventVisible : StartsVisible event) (ends : EndsInWord event) (freeNames : PrefixFree names)
    (freeEvents : PrefixFree events) (isName : name ∈ names) (isEvent : event ∈ events) :
    ∃ hit, matchHere (eventPattern kind (anyWord names) (.capture 1 (anyWord events))) before
      (eventText kind name event more) = some hit ∧ hit.group 1 = event := by
  have bracket : "]".toList = [']'] := by decide
  have captured : (event.toList ++ ' ' :: more).take
      ((event.toList ++ ' ' :: more).length - (' ' :: more).length) = event.toList := by
    rw [List.length_append, Nat.add_sub_cancel, List.take_left]
  have ran : ∃ next, (eventPattern kind (anyWord names) (.capture 1 (anyWord events))).run
      ⟨before, eventText kind name event more⟩ [] (fun next caps => some (next, caps)) =
        some (next, [(1, event.toList)]) := by
    refine ⟨⟨event.toList.reverse ++ ' ' :: (name.toList.reverse ++ ' ' ::
      (kind.toList.reverse ++ ' ' :: ("]".toList.reverse ++ before))), ' ' :: more⟩, ?_⟩
    rw [eventPattern, eventText]
    simp only [cat_cons, run_seq, cat_nil, run_empty]
    rw [← List.singleton_append, ← bracket, run_lit_append, run_blank kindVisible, run_word,
      run_blank nameVisible, run_anyWord freeNames isName, run_blank eventVisible, run,
      run_anyWord freeEvents isEvent, run_wordBoundary,
      if_pos (atWordBoundary_of_endsInWord ends _ more), captured]
  obtain ⟨next, ran⟩ := ran
  have hit : ∃ matched, matchHere (eventPattern kind (anyWord names) (.capture 1 (anyWord events)))
      before (eventText kind name event more) = some ⟨[], matched, next, [(1, event.toList)]⟩ := by
    rw [matchHere, ran]
    exact ⟨_, rfl⟩
  obtain ⟨matched, found⟩ := hit
  exact ⟨_, found, String.ofList_toList⟩

theorem exec_event (more : List Char) (outside : ']' ∉ time) (kindVisible : StartsVisible kind)
    (nameVisible : StartsVisible name) (eventVisible : StartsVisible event)
    (ends : EndsInWord event) (freeNames : PrefixFree names) (freeEvents : PrefixFree events)
    (isName : name ∈ names) (isEvent : event ∈ events) :
    ∃ hit, exec (eventPattern kind (anyWord names) (.capture 1 (anyWord events)))
      (String.ofList (time ++ eventText kind name event more)) = some hit ∧
        hit.group 1 = event := by
  obtain ⟨hit, found, group⟩ := matchHere_event (time.reverse ++ []) more
    kindVisible nameVisible eventVisible ends freeNames freeEvents isName isEvent
  have here : search (eventPattern kind (anyWord names) (.capture 1 (anyWord events)))
      (time.reverse ++ []) (eventText kind name event more) = some hit :=
    search_cons_of_match found
  have bracket : "]".toList = [']'] := by decide
  refine ⟨{ hit with skipped := time ++ hit.skipped }, ?_, group⟩
  rw [exec, String.toList_ofList, search_append, here, Option.map_some]
  intro s t split filled
  obtain ⟨c, t, rfl⟩ := List.exists_cons_of_ne_nil filled
  have other : ¬ "]".toList <+: c :: t ++ eventText kind name event more := by
    rw [bracket, List.cons_append, List.cons_prefix_cons]
    rintro ⟨rfl, -⟩
    exact outside (by simp [split])
  rw [matchHere, eventPattern, cat_cons, run_seq, run_lit_eq_none _ _ _ other]
  rfl

theorem reads_of_run_all {r : Regex} {at_ next : Cursor}
    (ran : ∀ k : Cursor → Captures → Option Cursor, r.run at_ [] k = k next []) :
    Reads r at_ next := by
  obtain ⟨next', caps', reads, found⟩ := reads_of_run (ran fun next _ => some next)
  obtain rfl := Option.some.inj found
  exact reads

theorem reads_word (word : String) (before more : List Char) :
    Reads (litI word) ⟨before, word.toList ++ more⟩ ⟨word.toList.reverse ++ before, more⟩ :=
  reads_of_run_all fun _ => run_word word before more

theorem reads_anyWord {words : List String} {word : String} (free : PrefixFree words)
    (isWord : word ∈ words) (before more : List Char) :
    Reads (anyWord words) ⟨before, word.toList ++ more⟩ ⟨word.toList.reverse ++ before, more⟩ :=
  reads_of_run_all fun _ => run_anyWord free isWord before more

theorem reads_blank {text : String} (visible : StartsVisible text) (before more : List Char) :
    Reads (some1 space) ⟨before, ' ' :: (text.toList ++ more)⟩
      ⟨' ' :: before, text.toList ++ more⟩ :=
  reads_of_run_all fun _ => run_blank visible before more

theorem reads_dots {text : List Char} (filled : text ≠ [])
    (oneLine : ∀ c ∈ text, isLineTerminator c = false) (before more : List Char) :
    Reads (some1 dot) ⟨before, text ++ more⟩ ⟨text.reverse ++ before, more⟩ := by
  have accepted : ∀ c ∈ text, decide (c ∉ ['\n', '\r', '\u2028', '\u2029']) = true := by
    intro c inside
    have plain := oneLine c inside
    rw [isLineTerminator, decide_eq_false_iff_not] at plain
    exact decide_eq_true plain
  clear oneLine
  obtain ⟨first, rest, rfl⟩ := List.exists_cons_of_ne_nil filled
  refine ⟨⟨first :: before, rest ++ more⟩,
    ⟨first, rest ++ more, rfl, accepted first List.mem_cons_self, rfl⟩, ?_⟩
  have later := fun c inside => accepted c (List.mem_cons_of_mem first inside)
  rw [List.reverse_cons, List.append_assoc, List.singleton_append]
  generalize first :: before = front
  clear accepted filled
  induction rest generalizing front with
  | nil => exact .refl
  | cons c rest ih =>
    have round : Reads dot ⟨front, c :: rest ++ more⟩ ⟨c :: front, rest ++ more⟩ :=
      ⟨c, rest ++ more, rfl, later c List.mem_cons_self, rfl⟩
    rw [List.reverse_cons, List.append_assoc, List.singleton_append]
    exact .head ⟨round, Nat.lt_succ_self _⟩
      (ih (fun d inside => later d (List.mem_cons_of_mem c inside)) (c :: front))

theorem test_event {nameRegex eventRegex : Regex} (kindVisible : StartsVisible kind)
    (nameVisible : StartsVisible name) (eventVisible : StartsVisible event)
    (ends : EndsInWord event)
    (readsName : ∀ before more, Reads nameRegex ⟨before, name.toList ++ more⟩
      ⟨name.toList.reverse ++ before, more⟩)
    (readsEvent : ∀ before more, Reads eventRegex ⟨before, event.toList ++ more⟩
      ⟨event.toList.reverse ++ before, more⟩) :
    test (eventPattern kind nameRegex eventRegex)
      (String.ofList (time ++ eventText kind name event more)) = true := by
  have bracket : Reads (lit "]") ⟨time.reverse, eventText kind name event more⟩
      ⟨']' :: time.reverse, (eventText kind name event more).tail⟩ :=
    ⟨_, ⟨']', _, rfl, rfl, rfl⟩, rfl⟩
  rw [test_iff_reads]
  exact ⟨time, eventText kind name event more, _, String.toList_ofList, _, bracket, _,
    reads_blank kindVisible _ _, _, reads_word kind _ _, _, reads_blank nameVisible _ _, _,
    readsName _ _, _, reads_blank eventVisible _ _, _, readsEvent _ _, _,
    ⟨atWordBoundary_of_endsInWord ends _ more, rfl⟩, rfl⟩

end Lines

end Regex

namespace Text

theorem dropReturn_of_no_return {line : String} (plain : '\r' ∉ line.toList) :
    dropReturn line = line := by
  have chars : "\r".toList = ['\r'] := by decide
  rw [dropReturn, if_neg]
  rw [endsWith, List.isSuffixOf_iff_suffix, chars]
  exact fun back => plain (back.subset List.mem_cons_self)

theorem splitLines_join {lines : List String} (filled : lines ≠ [])
    (oneLine : ∀ line ∈ lines, '\n' ∉ line.toList ∧ '\r' ∉ line.toList) :
    splitLines (join "\n" lines) = lines := by
  have newline : "\n".toList = ['\n'] := by decide
  have split_ : split (join "\n" lines) '\n' = lines := by
    have chars : (List.intercalate ['\n'] (lines.map String.toList)).splitOn '\n' =
        lines.map String.toList :=
      List.splitOn_intercalate '\n' (by simpa using fun line inside => (oneLine line inside).1)
        (by simpa using filled)
    rw [split, join, String.toList_intercalate, newline, ← List.splitOn_eq_splitOnP, chars,
      List.map_map]
    exact List.map_id'' (fun line => String.ofList_toList) lines
  have kept : ∀ line ∈ lines.dropLast, dropReturn line = id line := fun line inside =>
    dropReturn_of_no_return (oneLine line (List.mem_of_mem_dropLast inside)).2
  rw [splitLines, split_, List.map_congr_left kept, List.map_id,
    List.getLast?_eq_some_getLast filled]
  exact List.dropLast_append_getLast filled

end Text

end AifHandoff
