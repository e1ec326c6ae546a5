import AifHandoff.Lib.Regex

/-!
What the matcher does on the parts of a pattern.
-/

namespace AifHandoff.Regex

section Run

variable {α : Type} (at_ : Cursor) (caps : Captures) (k : Cursor → Captures → Option α)

@[simp] theorem run_empty : run .empty at_ caps k = k at_ caps := rfl

@[simp] theorem run_seq (left right : Regex) : run (.seq left right) at_ caps k =
    left.run at_ caps fun next caps' => right.run next caps' k := rfl

@[simp] theorem run_alt (left right : Regex) : run (.alt left right) at_ caps k =
    (left.run at_ caps k).or (right.run at_ caps k) := rfl

@[simp] theorem run_wordBoundary : run .wordBoundary at_ caps k =
    if atWordBoundary at_ then k at_ caps else none := rfl

@[simp] theorem run_startAnchor : run .startAnchor at_ caps k =
    if at_.before.isEmpty then k at_ caps else none := rfl

@[simp] theorem run_endAnchor : run .endAnchor at_ caps k =
    if at_.after.isEmpty then k at_ caps else none := rfl

@[simp] theorem run_set_cons (accepts : Char → Bool) (before rest : List Char) (c : Char) :
    run (.set accepts) ⟨before, c :: rest⟩ caps k =
      if accepts c then k ⟨c :: before, rest⟩ caps else none := rfl

@[simp] theorem run_set_nil (accepts : Char → Bool) (before : List Char) :
    run (.set accepts) ⟨before, []⟩ caps k = none := rfl

@[simp] theorem cat_nil : cat [] = .empty := rfl

@[simp] theorem cat_cons (r : Regex) (rs : List Regex) : cat (r :: rs) = .seq r (cat rs) := rfl

/-- The pattern of a list of characters. -/
def litChars (cs : List Char) : Regex := cs.foldr (fun c r => .seq (.set (· == c)) r) .empty

theorem lit_eq (s : String) : lit s = litChars s.toList := rfl

theorem run_litChars_append (cs before rest : List Char) :
    (litChars cs).run ⟨before, cs ++ rest⟩ caps k = k ⟨cs.reverse ++ before, rest⟩ caps := by
  induction cs generalizing before with
  | nil => rfl
  | cons c cs ih =>
    change (if c == c then (litChars cs).run ⟨c :: before, cs ++ rest⟩ caps k else none) = _
    rw [if_pos (beq_self_eq_true c), ih]
    simp

theorem run_litChars_eq_none {cs after : List Char} (before : List Char)
    (other : ¬ cs <+: after) : (litChars cs).run ⟨before, after⟩ caps k = none := by
  induction cs generalizing before after with
  | nil => exact absurd List.nil_prefix other
  | cons c cs ih =>
    cases after with
    | nil => rfl
    | cons d after =>
      change (if d == c then (litChars cs).run ⟨d :: before, after⟩ caps k else none) = _
      by_cases same : d = c
      · rw [if_pos (by simp [same])]
        exact ih _ fun inside => other (by rw [same]; exact (List.prefix_cons_inj c).mpr inside)
      · rw [if_neg (by simp [same])]

theorem run_lit_append (s : String) (before rest : List Char) :
    (lit s).run ⟨before, s.toList ++ rest⟩ caps k =
      k ⟨s.toList.reverse ++ before, rest⟩ caps := run_litChars_append ..

theorem run_lit_eq_none {s : String} {after : List Char} (before : List Char)
    (other : ¬ s.toList <+: after) : (lit s).run ⟨before, after⟩ caps k = none :=
  run_litChars_eq_none caps k before other

theorem isSome_run_lit_iff (s : String) : ((lit s).run at_ caps k).isSome ↔
    ∃ rest, at_.after = s.toList ++ rest ∧
      (k ⟨s.toList.reverse ++ at_.before, rest⟩ caps).isSome := by
  obtain ⟨before, after⟩ := at_
  constructor
  · intro found
    by_cases starts : s.toList <+: after
    · obtain ⟨rest, rfl⟩ := starts
      rw [run_lit_append] at found
      exact ⟨rest, rfl, found⟩
    · rw [run_lit_eq_none caps k before starts] at found
      cases found
  · rintro ⟨rest, rfl, found⟩
    rw [run_lit_append]
    exact found

end Run

section Search

variable {r : Regex} {before after : List Char} {hit : Hit}

theorem matchHere_isSome : (matchHere r before after).isSome =
    (r.run ⟨before, after⟩ [] fun next caps => some (next, caps)).isSome := by
  simp [matchHere]

theorem search_cons_of_match {c : Char} {rest : List Char}
    (found : matchHere r before (c :: rest) = some hit) : search r before (c :: rest) = some hit := by
  simp [search, found]

theorem search_cons_of_none {c : Char} {rest : List Char}
    (none_ : matchHere r before (c :: rest) = none) :
    search r before (c :: rest) =
      (search r (c :: before) rest).map fun hit => { hit with skipped := c :: hit.skipped } := by
  simp [search, none_]

theorem skipped_of_matchHere (found : matchHere r before after = some hit) : hit.skipped = [] := by
  obtain ⟨_, _, rfl⟩ := Option.map_eq_some_iff.mp found
  rfl

theorem matched_of_matchHere (found : matchHere r before after = some hit)
    (shorter : hit.next.after.length < after.length) : hit.matched.isEmpty = false := by
  obtain ⟨⟨next, caps⟩, -, rfl⟩ := Option.map_eq_some_iff.mp found
  dsimp only at shorter ⊢
  rw [List.isEmpty_eq_false_iff, ne_eq, List.take_eq_nil_iff]
  rintro (none_ | empty)
  · omega
  · rw [empty] at shorter
    exact Nat.not_lt_zero _ shorter

/-- The text before a match, and the match where it begins. -/
theorem search_split (found : search r before after = some hit) : ∃ rest here,
    after = hit.skipped ++ rest ∧ matchHere r (hit.skipped.reverse ++ before) rest = some here ∧
      hit = { here with skipped := hit.skipped } := by
  induction after generalizing before hit with
  | nil =>
    have here : matchHere r before [] = some hit := found
    have skipped := skipped_of_matchHere here
    exact ⟨[], hit, by rw [skipped]; rfl, by rw [skipped]; exact here, rfl⟩
  | cons c rest ih =>
    cases here : matchHere r before (c :: rest) with
    | some first =>
      rw [search_cons_of_match here] at found
      obtain rfl := Option.some.inj found
      have skipped := skipped_of_matchHere here
      exact ⟨c :: rest, first, by rw [skipped]; rfl, by rw [skipped]; exact here, rfl⟩
    | none =>
      rw [search_cons_of_none here] at found
      obtain ⟨later, searched, rfl⟩ := Option.map_eq_some_iff.mp found
      obtain ⟨tail, first, split, matched, same⟩ := ih searched
      refine ⟨tail, first, by rw [split]; rfl, by simpa using matched, ?_⟩
      rw [same]

theorem search_isSome_iff : (search r before after).isSome ↔
    ∃ skipped rest, after = skipped ++ rest ∧
      (matchHere r (skipped.reverse ++ before) rest).isSome := by
  constructor
  · intro found
    obtain ⟨hit, eq⟩ := Option.isSome_iff_exists.mp found
    obtain ⟨rest, here, split, matched, -⟩ := search_split eq
    exact ⟨hit.skipped, rest, split, by rw [matched]; rfl⟩
  · rintro ⟨skipped, rest, rfl, matched⟩
    induction skipped generalizing before with
    | nil =>
      cases rest with
      | nil => exact matched
      | cons c rest =>
        obtain ⟨hit, eq⟩ := Option.isSome_iff_exists.mp matched
        have here : matchHere r before (c :: rest) = some hit := eq
        rw [List.nil_append, search_cons_of_match here]
        rfl
    | cons c skipped ih =>
      have later : (search r (c :: before) (skipped ++ rest)).isSome := ih (by simpa using matched)
      rw [List.cons_append]
      cases here : matchHere r before (c :: (skipped ++ rest)) with
      | some hit => rw [search_cons_of_match here]; rfl
      | none => simpa [search_cons_of_none here] using later

theorem test_iff {s : String} : test r s = true ↔ ∃ skipped rest, s.toList = skipped ++ rest ∧
    (r.run ⟨skipped.reverse, rest⟩ [] fun next caps => some (next, caps)).isSome := by
  simp only [test, exec, search_isSome_iff, List.append_nil, matchHere_isSome]

end Search

section Replace

variable {r : Regex} {f : Hit → String} {s : String}

/-- Without a match the whole text is what follows the last one. -/
theorem matchLoop_of_no_match {fuel : Nat} {at_ : Cursor}
    (none_ : search r at_.before at_.after = none) : matchLoop r fuel at_ = ([], at_.after) := by
  cases fuel with
  | zero => rfl
  | succ fuel => simp [matchLoop, none_]

theorem last_of_no_hits {fuel : Nat} {at_ : Cursor} (noHits : (matchLoop r fuel at_).1 = []) :
    (matchLoop r fuel at_).2 = at_.after := by
  cases fuel with
  | zero => rfl
  | succ fuel =>
    cases found : search r at_.before at_.after with
    | none => rw [matchLoop_of_no_match found]
    | some hit =>
      exfalso
      simp only [matchLoop, found] at noHits
      split at noHits
      · split at noHits
        · cases noHits
        · split at noHits <;> cases noHits
      · cases noHits

theorem replaceAll_of_not_test (absent : test r s = false) : replaceAll r f s = s := by
  have none_ : search r [] s.toList = none := by simpa [test, exec] using absent
  rw [replaceAll, matchLoop_of_no_match none_]
  simp

theorem replaceAll_ne_empty (filled : ∀ hit, f hit ≠ "") (some_ : s ≠ "") :
    replaceAll r f s ≠ "" := by
  intro gone
  rw [replaceAll] at gone
  have chars := congrArg String.toList gone
  simp only [String.toList_ofList, String.toList_empty, List.append_eq_nil_iff,
    List.flatMap_eq_nil_iff] at chars
  obtain ⟨replaced, last⟩ := chars
  have noHits : (matchLoop r (s.toList.length + 1) ⟨[], s.toList⟩).1 = [] := by
    refine List.eq_nil_iff_forall_not_mem.mpr fun hit among => filled hit ?_
    exact String.toList_eq_nil_iff.mp (replaced hit among).2
  rw [last_of_no_hits noHits] at last
  exact some_ (String.toList_eq_nil_iff.mp last)

/-- The characters of a replacement are found in the result, unless the text has no match. -/
theorem any_replaceAll {p : Char → Bool} (filled : ∀ hit, (f hit).toList.any p = true)
    (some_ : s.toList.any p = true) : (replaceAll r f s).toList.any p = true := by
  rw [replaceAll]
  simp only [String.toList_ofList, List.any_append, List.any_flatMap]
  cases hits : (matchLoop r (s.toList.length + 1) ⟨[], s.toList⟩).1 with
  | nil => simp [last_of_no_hits hits, some_]
  | cons hit rest => simp [filled hit]

theorem replaceFirst_of_not_test (absent : test r s = false) : replaceFirst r f s = s := by
  have none_ : exec r s = none := by simpa [test] using absent
  rw [replaceFirst, none_]

theorem any_replaceFirst {p : Char → Bool} (filled : ∀ hit, (f hit).toList.any p = true)
    (some_ : s.toList.any p = true) : (replaceFirst r f s).toList.any p = true := by
  rw [replaceFirst]
  cases exec r s with
  | none => exact some_
  | some hit => simp [filled hit]

end Replace

section Lacks

variable {α : Type} {alphabet : List Char}

/-- Every match of the pattern reads a character outside the alphabet. -/
def lacks (alphabet : List Char) : Regex → Bool
  | .set accepts => alphabet.all (!accepts ·)
  | .seq left right => lacks alphabet left || lacks alphabet right
  | .alt left right => lacks alphabet left && lacks alphabet right
  | .capture _ body => lacks alphabet body
  | .empty | .star _ _ | .wordBoundary | .startAnchor | .endAnchor => false

/-- Where the continuation refuses every later position, there is no match. -/
theorem run_eq_none_of_refused (r : Regex) {at_ : Cursor} {caps : Captures}
    {k : Cursor → Captures → Option α}
    (refused : ∀ next caps', next.after <:+ at_.after → k next caps' = none) :
    r.run at_ caps k = none := by
  induction r generalizing at_ caps k with
  | empty => exact refused at_ caps (List.suffix_refl _)
  | set accepts =>
    obtain ⟨before, after⟩ := at_
    cases after with
    | nil => rfl
    | cons c rest =>
      rw [run_set_cons]
      split
      · exact refused _ _ (List.suffix_cons c rest)
      · rfl
  | seq left right ihLeft ihRight =>
    rw [run_seq]
    refine ihLeft fun next caps' inside => ihRight fun later caps'' deeper => ?_
    exact refused later caps'' (deeper.trans inside)
  | alt left right ihLeft ihRight => rw [run_alt, ihLeft refused, ihRight refused, Option.or_none]
  | star greedy body ih =>
    rw [run]
    generalize at_.after.length + 1 = fuel
    induction fuel generalizing at_ caps with
    | zero => exact refused at_ caps (List.suffix_refl _)
    | succ fuel ihFuel =>
      have stop := refused at_ caps (List.suffix_refl _)
      have again : (body.run at_ caps fun next caps' =>
          if next.after.length < at_.after.length then starLoop greedy body.run fuel next caps' k
          else none) = none := by
        refine ih fun next caps' inside => ?_
        split
        · exact ihFuel fun later caps'' deeper => refused later caps'' (deeper.trans inside)
        · rfl
      rw [starLoop]
      split
      · rw [again, stop, Option.or_none]
      · rw [again, stop, Option.or_none]
  | capture index body ih =>
    rw [run]
    exact ih fun next caps' inside => refused next _ inside
  | wordBoundary =>
    rw [run_wordBoundary]
    split
    · exact refused at_ caps (List.suffix_refl _)
    · rfl
  | startAnchor =>
    rw [run_startAnchor]
    split
    · exact refused at_ caps (List.suffix_refl _)
    · rfl
  | endAnchor =>
    rw [run_endAnchor]
    split
    · exact refused at_ caps (List.suffix_refl _)
    · rfl

theorem run_eq_none_of_lacks {r : Regex} (missing : lacks alphabet r = true) {at_ : Cursor}
    {caps : Captures} {k : Cursor → Captures → Option α}
    (within : ∀ c ∈ at_.after, c ∈ alphabet) : r.run at_ caps k = none := by
  induction r generalizing at_ caps k with
  | set accepts =>
    obtain ⟨before, after⟩ := at_
    cases after with
    | nil => rfl
    | cons c rest =>
      have refused := List.all_eq_true.mp missing c (within c List.mem_cons_self)
      rw [run_set_cons, if_neg (by simpa using refused)]
  | seq left right ihLeft ihRight =>
    rw [run_seq]
    rcases Bool.or_eq_true_iff.mp missing with inLeft | inRight
    · exact ihLeft inLeft within
    · exact run_eq_none_of_refused left fun next caps' inside =>
        ihRight inRight fun c later => within c (inside.subset later)
  | alt left right ihLeft ihRight =>
    obtain ⟨inLeft, inRight⟩ := Bool.and_eq_true_iff.mp missing
    rw [run_alt, ihLeft inLeft within, ihRight inRight within, Option.or_none]
  | capture index body ih => exact ih missing within
  | empty | star | wordBoundary | startAnchor | endAnchor => cases missing

/-- A text over the alphabet has no match of a pattern that needs another character. -/
theorem test_of_lacks {r : Regex} {s : String} (missing : lacks alphabet r = true)
    (within : ∀ c ∈ s.toList, c ∈ alphabet) : test r s = false := by
  rw [Bool.eq_false_iff, ne_eq, test_iff]
  rintro ⟨skipped, rest, split, matched⟩
  rw [run_eq_none_of_lacks missing fun c inside => within c (by rw [split]; simp [inside])] at matched
  cases matched

end Lacks

end AifHandoff.Regex
