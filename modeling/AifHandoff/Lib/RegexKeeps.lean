import AifHandoff.Lib.RegexReads

/-!
Pieces of a text that a replacement leaves.
-/

namespace AifHandoff.Regex

/-- No class of the pattern accepts the character. -/
def avoids (c : Char) : Regex → Bool
  | .set accepts => !accepts c
  | .seq left right | .alt left right => avoids c left && avoids c right
  | .star _ body | .capture _ body => avoids c body
  | .empty | .wordBoundary | .startAnchor | .endAnchor => true

theorem acceptsOnly_of_avoids {c : Char} {r : Regex} (avoided : avoids c r = true) :
    AcceptsOnly (· ≠ c) r := by
  induction r with
  | set accepts =>
    rintro d accepted rfl
    rw [avoids, accepted] at avoided
    cases avoided
  | seq left right ihLeft ihRight | alt left right ihLeft ihRight =>
    obtain ⟨inLeft, inRight⟩ := Bool.and_eq_true_iff.mp avoided
    exact ⟨ihLeft inLeft, ihRight inRight⟩
  | star _ body ih | capture _ body ih => exact ih avoided
  | empty | wordBoundary | startAnchor | endAnchor => trivial

theorem Reads.avoiding {c : Char} {r : Regex} {at_ next : Cursor} (reads : Reads r at_ next)
    (avoided : avoids c r = true) : ∃ read, at_.after = read ++ next.after ∧ c ∉ read := by
  obtain ⟨read, after, -, all⟩ := reads.within (acceptsOnly_of_avoids avoided)
  exact ⟨read, after, fun inside => all c inside rfl⟩

section Parts

variable {α : Type} {c : α} {front back part read rest : List α}

theorem suffix_append_cons (suffix : part <:+ front ++ c :: back) :
    part <:+ back ∨ ∃ lead, lead <:+ front ∧ part = lead ++ c :: back := by
  obtain ⟨skipped, split⟩ := suffix
  rcases List.append_eq_append_iff.mp split with ⟨lead, left, right⟩ | ⟨lead, left, right⟩
  · exact .inr ⟨lead, ⟨skipped, left.symm⟩, right⟩
  · cases lead with
    | nil => exact .inr ⟨[], List.nil_suffix, right.symm⟩
    | cons d lead => exact .inl ⟨lead, (List.cons.inj right).2.symm⟩

/-- What is read without a character ends in front of it. -/
theorem exists_append_of_not_mem (absent : c ∉ read) (split : read ++ rest = front ++ c :: back) :
    ∃ lead, front = read ++ lead ∧ rest = lead ++ c :: back := by
  rcases List.append_eq_append_iff.mp split with ⟨lead, left, right⟩ | ⟨lead, left, right⟩
  · exact ⟨lead, left, right⟩
  · cases lead with
    | nil => exact ⟨[], by rw [left, List.append_nil, List.append_nil], right.symm⟩
    | cons d lead =>
      obtain ⟨rfl, -⟩ := List.cons.inj right
      exact absurd (left ▸ List.mem_append_right _ List.mem_cons_self) absent

theorem suffix_of_stop {d : α} (absent : c ∉ read)
    (split : read ++ d :: rest = front ++ c :: back) : back <:+ rest := by
  obtain ⟨lead, -, behind⟩ := exists_append_of_not_mem absent split
  cases lead with
  | nil => exact (List.cons.inj behind).2 ▸ List.suffix_rfl
  | cons e lead =>
    rw [(List.cons.inj behind).2]
    exact (List.suffix_cons c back).trans (List.suffix_append lead _)

theorem infix_of_append_suffix (inside : read ++ back <:+ part) : read <:+: part :=
  (List.prefix_append read back).isInfix.trans inside.isInfix

end Parts

section Keeps

variable {r : Regex} {text kept back : List Char}

theorem matched_of_search {before after : List Char} {hit : Hit}
    (found : search r before after = some hit) (some_ : consumes r = true) :
    hit.matched.isEmpty = false := by
  obtain ⟨rest, here, -, matched, same⟩ := search_split found
  have shorter : here.next.after.length < rest.length :=
    (reads_of_matchHere matched).2.shorter some_
  have filled : here.matched.isEmpty = false := matched_of_matchHere matched shorter
  rw [congrArg Hit.matched same]
  exact filled

/-- Every match in the text begins behind the piece or ends before it. -/
def Leaves (r : Regex) (text kept back : List Char) : Prop :=
  ∀ before after next, after <:+ text → Reads r ⟨before, after⟩ next →
    after.length ≤ back.length ∨ kept ++ back <:+ next.after

theorem infix_matchLoop (f : Hit → String) (some_ : consumes r = true)
    (leaves : Leaves r text kept back) (fuel : Nat) {at_ : Cursor} (part : at_.after <:+ text)
    (inside : kept ++ back <:+ at_.after) :
    kept <:+: (matchLoop r fuel at_).1.flatMap (fun hit => hit.skipped ++ (f hit).toList) ++
      (matchLoop r fuel at_).2 := by
  induction fuel generalizing at_ with
  | zero => exact infix_of_append_suffix inside
  | succ fuel ih =>
    cases found : search r at_.before at_.after with
    | none =>
      rw [matchLoop_of_no_match found]
      exact infix_of_append_suffix inside
    | some hit =>
      obtain ⟨rest, split, reads⟩ := reads_of_search found
      have begins : rest <:+ text := (split ▸ List.suffix_append _ _ : rest <:+ _).trans part
      rw [matchLoop, found]
      dsimp only
      rw [matched_of_search found some_, if_neg Bool.false_ne_true]
      dsimp only
      rw [List.flatMap_cons, List.append_assoc, List.append_assoc]
      rcases leaves _ rest hit.next begins reads with behind | before
      · -- The piece stands in the text that was skipped.
        obtain ⟨lead, whole⟩ := inside
        rw [split, ← List.append_assoc] at whole
        have lengths := congrArg List.length whole
        simp only [List.length_append] at lengths
        have skipped : lead ++ kept <+: hit.skipped :=
          List.prefix_of_prefix_length_le (List.prefix_append _ back)
            (whole ▸ List.prefix_append _ _) (by rw [List.length_append]; omega)
        exact ((List.suffix_append lead kept).isInfix.trans skipped.isInfix).trans
          (List.prefix_append _ _).isInfix
      · obtain ⟨read, after, -⟩ := reads.split
        have later : hit.next.after <:+ text := List.IsSuffix.trans ⟨read, after.symm⟩ begins
        refine (ih later before).trans ?_
        rw [← List.append_assoc]
        exact (List.suffix_append _ _).isInfix

theorem infix_replaceAll (f : Hit → String) {s : String} (back : List Char)
    (some_ : consumes r = true) (leaves : Leaves r s.toList kept back)
    (inside : kept ++ back <:+ s.toList) : kept <:+: (replaceAll r f s).toList := by
  rw [replaceAll, String.toList_ofList]
  exact infix_matchLoop f some_ leaves _ List.suffix_rfl inside

/-- A pattern leaves a piece when it avoids the first character and begins with none of
the others. -/
theorem leaves_of_avoids {c : Char} {tail : List Char} (front : List Char)
    (some_ : consumes r = true) (avoided : avoids c r = true)
    (refused : ∀ d ∈ tail, refuses d r = true) :
    Leaves r (front ++ c :: (tail ++ back)) (c :: tail) back := by
  intro before after next part reads
  rcases suffix_append_cons part with inside | ⟨lead, -, rfl⟩
  · obtain ⟨skipped, split⟩ := inside
    rcases List.append_eq_append_iff.mp split with ⟨rest, left, right⟩ | ⟨rest, -, right⟩
    · cases rest with
      | nil => exact .inl (right ▸ le_rfl)
      | cons d rest =>
        have among : d ∈ tail := left ▸ List.mem_append_right _ List.mem_cons_self
        exact absurd reads (not_reads_of_refuses (refused d among) some_ right)
    · exact .inl (right ▸ (List.suffix_append _ _).length_le)
  · obtain ⟨read, split, absent⟩ := reads.avoiding avoided
    obtain ⟨rest, -, behind⟩ := exists_append_of_not_mem absent split.symm
    exact .inr (behind ▸ List.suffix_append _ _)

end Keeps

end AifHandoff.Regex
