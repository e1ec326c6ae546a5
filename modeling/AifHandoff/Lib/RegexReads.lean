import AifHandoff.Lib.RegexRuns
import Mathlib.Logic.Relation

/-!
What a pattern reads, apart from the order in which its alternatives are tried.

`Reads r at_ next` says that some match of the pattern leads from one position to another.
-/

namespace AifHandoff.Regex

open Relation

def Reads : Regex → Cursor → Cursor → Prop
  | .empty, at_, next => next = at_
  | .set accepts, at_, next =>
    ∃ c rest, at_.after = c :: rest ∧ accepts c = true ∧ next = ⟨c :: at_.before, rest⟩
  | .seq left right, at_, next => ∃ middle, Reads left at_ middle ∧ Reads right middle next
  | .alt left right, at_, next => Reads left at_ next ∨ Reads right at_ next
  | .star _ body, at_, next =>
    ReflTransGen (fun a b => Reads body a b ∧ b.after.length < a.after.length) at_ next
  | .capture _ body, at_, next => Reads body at_ next
  | .wordBoundary, at_, next => atWordBoundary at_ = true ∧ next = at_
  | .startAnchor, at_, next => at_.before.isEmpty = true ∧ next = at_
  | .endAnchor, at_, next => at_.after.isEmpty = true ∧ next = at_

section Run

variable {α : Type}

/-- Whatever a loop of a sound body hands on, rounds lead to. -/
theorem rounds_of_starLoop {greedy : Bool} {body : Regex} {fuel : Nat} {at_ : Cursor}
    {caps : Captures} {k : Cursor → Captures → Option α} {result : α}
    (sound : ∀ (at_ : Cursor) (caps : Captures) (k : Cursor → Captures → Option α),
      body.run at_ caps k = some result →
        ∃ next caps', Reads body at_ next ∧ k next caps' = some result)
    (ran : starLoop greedy body.run fuel at_ caps k = some result) :
    ∃ next caps', Reads (.star greedy body) at_ next ∧ k next caps' = some result := by
  induction fuel generalizing at_ caps with
  | zero => exact ⟨at_, caps, .refl, ran⟩
  | succ fuel ih =>
    have stop_or_go : k at_ caps = some result ∨ (body.run at_ caps fun next caps' =>
        if next.after.length < at_.after.length then starLoop greedy body.run fuel next caps' k
        else none) = some result := by
      rw [starLoop] at ran
      split at ran
      · exact (Option.or_eq_some_iff.mp ran).elim .inr fun found => .inl found.2
      · exact (Option.or_eq_some_iff.mp ran).elim .inl fun found => .inr found.2
    rcases stop_or_go with stop | go
    · exact ⟨at_, caps, .refl, stop⟩
    · obtain ⟨middle, caps', first, rest⟩ := sound _ _ _ go
      split at rest
      · rename_i shorter
        obtain ⟨next, caps'', later, found⟩ := ih rest
        exact ⟨next, caps'', .head ⟨first, shorter⟩ later, found⟩
      · cases rest

theorem reads_of_run {r : Regex} {at_ : Cursor} {caps : Captures}
    {k : Cursor → Captures → Option α} {result : α} (ran : r.run at_ caps k = some result) :
    ∃ next caps', Reads r at_ next ∧ k next caps' = some result := by
  induction r generalizing at_ caps k with
  | empty => exact ⟨at_, caps, rfl, ran⟩
  | set accepts =>
    obtain ⟨before, after⟩ := at_
    cases after with
    | nil => cases ran
    | cons c rest =>
      rw [run_set_cons] at ran
      split at ran
      · rename_i accepted
        exact ⟨_, caps, ⟨c, rest, rfl, accepted, rfl⟩, ran⟩
      · cases ran
  | seq left right ihLeft ihRight =>
    rw [run_seq] at ran
    obtain ⟨middle, caps', first, rest⟩ := ihLeft ran
    obtain ⟨next, caps'', second, found⟩ := ihRight rest
    exact ⟨next, caps'', ⟨middle, first, second⟩, found⟩
  | alt left right ihLeft ihRight =>
    rw [run_alt, Option.or_eq_some_iff] at ran
    rcases ran with left_ | ⟨-, right_⟩
    · obtain ⟨next, caps', reads, found⟩ := ihLeft left_
      exact ⟨next, caps', .inl reads, found⟩
    · obtain ⟨next, caps', reads, found⟩ := ihRight right_
      exact ⟨next, caps', .inr reads, found⟩
  | star greedy body ih =>
    rw [run] at ran
    exact rounds_of_starLoop (fun _ _ _ => ih) ran
  | capture index body ih =>
    rw [run] at ran
    obtain ⟨next, caps', reads, found⟩ := ih ran
    exact ⟨next, _, reads, found⟩
  | wordBoundary =>
    rw [run_wordBoundary] at ran
    split at ran
    · rename_i here
      exact ⟨at_, caps, ⟨here, rfl⟩, ran⟩
    · cases ran
  | startAnchor =>
    rw [run_startAnchor] at ran
    split at ran
    · rename_i here
      exact ⟨at_, caps, ⟨here, rfl⟩, ran⟩
    · cases ran
  | endAnchor =>
    rw [run_endAnchor] at ran
    split at ran
    · rename_i here
      exact ⟨at_, caps, ⟨here, rfl⟩, ran⟩
    · cases ran

/-- A loop with enough fuel takes the rounds there are. -/
theorem isSome_starLoop_of_rounds {greedy : Bool} {body : Regex} {fuel : Nat} {at_ next : Cursor}
    {caps : Captures} {k : Cursor → Captures → Option α}
    (complete : ∀ (at_ next : Cursor) (caps : Captures) (k : Cursor → Captures → Option α),
      Reads body at_ next → (∀ caps', (k next caps').isSome) → (body.run at_ caps k).isSome)
    (rounds : Reads (.star greedy body) at_ next) (enough : at_.after.length < fuel)
    (goesOn : ∀ caps', (k next caps').isSome) :
    (starLoop greedy body.run fuel at_ caps k).isSome := by
  rw [Reads] at rounds
  induction rounds using ReflTransGen.head_induction_on generalizing fuel caps with
  | refl =>
    obtain ⟨fuel, rfl⟩ : ∃ n, fuel = n + 1 := ⟨fuel - 1, by omega⟩
    rw [starLoop]
    split
    · rw [Option.isSome_or, goesOn caps, Bool.or_true]
    · rw [Option.isSome_or, goesOn caps, Bool.true_or]
  | @head here middle first _ ih =>
    obtain ⟨fuel, rfl⟩ : ∃ n, fuel = n + 1 := ⟨fuel - 1, by omega⟩
    have again : (body.run here caps fun next caps' =>
        if next.after.length < here.after.length then starLoop greedy body.run fuel next caps' k
        else none).isSome := by
      refine complete here middle caps _ first.1 fun caps' => ?_
      rw [if_pos first.2]
      exact ih (Nat.lt_of_lt_of_le first.2 (Nat.le_of_lt_succ enough))
    rw [starLoop]
    dsimp only
    split
    · rw [Option.isSome_or, again, Bool.true_or]
    · rw [Option.isSome_or, again, Bool.or_true]

theorem isSome_run_of_reads {r : Regex} {at_ next : Cursor} {caps : Captures}
    {k : Cursor → Captures → Option α} (reads : Reads r at_ next)
    (goesOn : ∀ caps', (k next caps').isSome) : (r.run at_ caps k).isSome := by
  induction r generalizing at_ next caps k with
  | empty =>
    obtain rfl : next = at_ := reads
    exact goesOn caps
  | set accepts =>
    obtain ⟨before, after⟩ := at_
    obtain ⟨c, rest, rfl, accepted, rfl⟩ := reads
    rw [run_set_cons, if_pos accepted]
    exact goesOn caps
  | seq left right ihLeft ihRight =>
    obtain ⟨middle, first, second⟩ := reads
    rw [run_seq]
    exact ihLeft first fun caps' => ihRight second goesOn
  | alt left right ihLeft ihRight =>
    rw [run_alt, Option.isSome_or, Bool.or_eq_true]
    exact reads.imp (fun left_ => ihLeft left_ goesOn) (fun right_ => ihRight right_ goesOn)
  | star greedy body ih =>
    rw [run]
    exact isSome_starLoop_of_rounds (fun _ _ _ _ => ih) reads (Nat.lt_succ_self _) goesOn
  | capture index body ih =>
    rw [run]
    exact ih reads fun caps' => goesOn _
  | wordBoundary =>
    obtain ⟨here, rfl⟩ := reads
    rw [run_wordBoundary, if_pos here]
    exact goesOn caps
  | startAnchor =>
    obtain ⟨here, rfl⟩ := reads
    rw [run_startAnchor, if_pos here]
    exact goesOn caps
  | endAnchor =>
    obtain ⟨here, rfl⟩ := reads
    rw [run_endAnchor, if_pos here]
    exact goesOn caps

end Run

section Search

variable {r : Regex} {before after : List Char} {hit : Hit}

theorem reads_of_matchHere (found : matchHere r before after = some hit) :
    hit.skipped = [] ∧ Reads r ⟨before, after⟩ hit.next := by
  obtain ⟨⟨next, caps⟩, ran, rfl⟩ := Option.map_eq_some_iff.mp found
  obtain ⟨next', caps', reads, eq⟩ := reads_of_run ran
  obtain ⟨rfl, -⟩ := Prod.mk.inj (Option.some.inj eq)
  exact ⟨rfl, reads⟩

theorem isSome_matchHere_iff : (matchHere r before after).isSome = true ↔
    ∃ next, Reads r ⟨before, after⟩ next := by
  constructor
  · intro found
    obtain ⟨hit, eq⟩ := Option.isSome_iff_exists.mp found
    exact ⟨hit.next, (reads_of_matchHere eq).2⟩
  · rintro ⟨next, reads⟩
    rw [matchHere_isSome]
    exact isSome_run_of_reads reads fun _ => rfl

theorem reads_of_search (found : search r before after = some hit) : ∃ rest,
    after = hit.skipped ++ rest ∧ Reads r ⟨hit.skipped.reverse ++ before, rest⟩ hit.next := by
  obtain ⟨rest, here, split, matched, same⟩ := search_split found
  refine ⟨rest, split, ?_⟩
  rw [congrArg Hit.next same]
  exact (reads_of_matchHere matched).2

theorem test_iff_reads {s : String} : test r s = true ↔
    ∃ skipped rest next, s.toList = skipped ++ rest ∧ Reads r ⟨skipped.reverse, rest⟩ next := by
  simp only [test, exec, search_isSome_iff, List.append_nil, isSome_matchHere_iff]
  exact exists_congr fun skipped => exists_congr fun rest => exists_and_left.symm

end Search

section Read

variable {r : Regex} {at_ next : Cursor}

/-- Some text is read between two positions, each of its characters accepted. -/
def ReadBetween (accepted : Char → Prop) (at_ next : Cursor) : Prop :=
  ∃ read, at_.after = read ++ next.after ∧ next.before = read.reverse ++ at_.before ∧
    ∀ c ∈ read, accepted c

theorem ReadBetween.nothing (accepted : Char → Prop) (at_ : Cursor) :
    ReadBetween accepted at_ at_ := ⟨[], rfl, rfl, by simp⟩

theorem ReadBetween.trans {accepted : Char → Prop} {middle : Cursor}
    (first : ReadBetween accepted at_ middle) (second : ReadBetween accepted middle next) :
    ReadBetween accepted at_ next := by
  obtain ⟨read, after, before, all⟩ := first
  obtain ⟨read', after', before', all'⟩ := second
  refine ⟨read ++ read', by rw [after, after', List.append_assoc],
    by rw [before', before]; simp, fun c inside => ?_⟩
  exact (List.mem_append.mp inside).elim (all c) (all' c)

/-- Every class of the pattern accepts such characters only. -/
def AcceptsOnly (accepted : Char → Prop) : Regex → Prop
  | .set accepts => ∀ c, accepts c = true → accepted c
  | .seq left right | .alt left right => AcceptsOnly accepted left ∧ AcceptsOnly accepted right
  | .star _ body | .capture _ body => AcceptsOnly accepted body
  | .empty | .wordBoundary | .startAnchor | .endAnchor => True

theorem Reads.within {accepted : Char → Prop} (only : AcceptsOnly accepted r)
    (reads : Reads r at_ next) : ReadBetween accepted at_ next := by
  induction r generalizing at_ next with
  | empty =>
    obtain rfl : next = at_ := reads
    exact .nothing accepted next
  | set accepts =>
    obtain ⟨c, rest, after, ok, rfl⟩ := reads
    refine ⟨[c], after, rfl, fun d inside => ?_⟩
    rw [List.mem_singleton.mp inside]
    exact only c ok
  | seq left right ihLeft ihRight =>
    obtain ⟨middle, first, second⟩ := reads
    exact (ihLeft only.1 first).trans (ihRight only.2 second)
  | alt left right ihLeft ihRight => exact reads.elim (ihLeft only.1) (ihRight only.2)
  | star greedy body ih =>
    rw [Reads] at reads
    induction reads with
    | refl => exact .nothing accepted at_
    | tail _ last ihRounds => exact ihRounds.trans (ih only last.1)
  | capture index body ih => exact ih only reads
  | wordBoundary | startAnchor | endAnchor =>
    obtain ⟨-, rfl⟩ := reads
    exact .nothing accepted next

theorem acceptsOnly_true (r : Regex) : AcceptsOnly (fun _ => True) r := by
  induction r with
  | seq left right ihLeft ihRight => exact ⟨ihLeft, ihRight⟩
  | alt left right ihLeft ihRight => exact ⟨ihLeft, ihRight⟩
  | star greedy body ih => exact ih
  | capture index body ih => exact ih
  | set accepts => exact fun _ _ => trivial
  | empty | wordBoundary | startAnchor | endAnchor => trivial

theorem acceptsOnly_lit {accepted : Char → Prop} {s : String} (all : ∀ c ∈ s.toList, accepted c) :
    AcceptsOnly accepted (lit s) := by
  rw [lit_eq]
  generalize s.toList = cs at all
  induction cs with
  | nil => trivial
  | cons c cs ih =>
    refine ⟨fun d same => ?_, ih fun d inside => all d (List.mem_cons_of_mem c inside)⟩
    rw [beq_iff_eq.mp same]
    exact all c List.mem_cons_self

theorem acceptsOnly_upTo {accepted : Char → Prop} (n : Nat) (only : AcceptsOnly accepted r) :
    AcceptsOnly accepted (upTo n r) := by
  induction n with
  | zero => trivial
  | succ n ih => exact ⟨⟨only, ih⟩, trivial⟩

theorem Reads.split (reads : Reads r at_ next) :
    ∃ read, at_.after = read ++ next.after ∧ next.before = read.reverse ++ at_.before := by
  obtain ⟨read, after, before, -⟩ := reads.within (acceptsOnly_true r)
  exact ⟨read, after, before⟩

/-- Every match reads something. -/
def consumes : Regex → Bool
  | .set _ => true
  | .seq left right => consumes left || consumes right
  | .alt left right => consumes left && consumes right
  | .capture _ body => consumes body
  | .empty | .star _ _ | .wordBoundary | .startAnchor | .endAnchor => false

/-- No match begins with the character. -/
def refuses (c : Char) : Regex → Bool
  | .set accepts => !accepts c
  | .seq left right => refuses c left && (consumes left || refuses c right)
  | .alt left right => refuses c left && refuses c right
  | .star _ body | .capture _ body => refuses c body
  | .empty | .wordBoundary | .startAnchor | .endAnchor => true

theorem Reads.shorter (reads : Reads r at_ next) (some_ : consumes r = true) :
    next.after.length < at_.after.length := by
  induction r generalizing at_ next with
  | set accepts =>
    obtain ⟨c, rest, after, -, rfl⟩ := reads
    rw [after]
    exact Nat.lt_succ_self _
  | seq left right ihLeft ihRight =>
    obtain ⟨middle, first, second⟩ := reads
    obtain ⟨readFirst, splitFirst, -⟩ := first.split
    obtain ⟨readSecond, splitSecond, -⟩ := second.split
    have lengths := congrArg List.length splitFirst
    have lengths' := congrArg List.length splitSecond
    rw [List.length_append] at lengths lengths'
    rcases Bool.or_eq_true_iff.mp some_ with inLeft | inRight
    · have := ihLeft first inLeft
      omega
    · have := ihRight second inRight
      omega
  | alt left right ihLeft ihRight =>
    obtain ⟨inLeft, inRight⟩ := Bool.and_eq_true_iff.mp some_
    exact reads.elim (ihLeft · inLeft) (ihRight · inRight)
  | capture index body ih => exact ih reads some_
  | empty | star | wordBoundary | startAnchor | endAnchor => cases some_

/-- At a character that it refuses, a pattern reads nothing. -/
theorem Reads.of_refuses {c : Char} {rest : List Char} (reads : Reads r at_ next)
    (refused : refuses c r = true) (starts : at_.after = c :: rest) : next = at_ := by
  induction r generalizing at_ next with
  | empty => exact reads
  | set accepts =>
    obtain ⟨d, tail, after, ok, -⟩ := reads
    obtain ⟨rfl, -⟩ := List.cons.inj (after.symm.trans starts)
    rw [refuses, ok] at refused
    cases refused
  | seq left right ihLeft ihRight =>
    obtain ⟨middle, first, second⟩ := reads
    obtain ⟨refusedLeft, orRight⟩ := Bool.and_eq_true_iff.mp refused
    obtain rfl := ihLeft first refusedLeft starts
    rcases Bool.or_eq_true_iff.mp orRight with some_ | refusedRight
    · exact absurd (first.shorter some_) (Nat.lt_irrefl _)
    · exact ihRight second refusedRight starts
  | alt left right ihLeft ihRight =>
    obtain ⟨refusedLeft, refusedRight⟩ := Bool.and_eq_true_iff.mp refused
    exact reads.elim (ihLeft · refusedLeft starts) (ihRight · refusedRight starts)
  | star greedy body ih =>
    rw [Reads] at reads
    induction reads with
    | refl => rfl
    | tail _ last ihRounds =>
      subst ihRounds
      exact ih last.1 refused starts
  | capture index body ih => exact ih reads refused starts
  | wordBoundary | startAnchor | endAnchor => exact reads.2

theorem not_reads_of_refuses {c : Char} {rest : List Char} (refused : refuses c r = true)
    (some_ : consumes r = true) (starts : at_.after = c :: rest) : ¬ Reads r at_ next := by
  intro reads
  obtain rfl := reads.of_refuses refused starts
  exact Nat.lt_irrefl _ (reads.shorter some_)

/-- The pattern begins with `^`. -/
def anchored : Regex → Bool
  | .startAnchor => true
  | .seq left _ => anchored left
  | .alt left right => anchored left && anchored right
  | .capture _ body => anchored body
  | .empty | .set _ | .star _ _ | .wordBoundary | .endAnchor => false

theorem at_start_of_anchored (reads : Reads r at_ next) (start : anchored r = true) :
    at_.before = [] := by
  induction r generalizing at_ next with
  | startAnchor => exact List.isEmpty_iff.mp reads.1
  | seq left right ihLeft _ =>
    obtain ⟨middle, first, -⟩ := reads
    exact ihLeft first start
  | alt left right ihLeft ihRight =>
    obtain ⟨inLeft, inRight⟩ := Bool.and_eq_true_iff.mp start
    exact reads.elim (ihLeft · inLeft) (ihRight · inRight)
  | capture index body ih => exact ih reads start
  | empty | set | star | wordBoundary | endAnchor => cases start

theorem reads_of_exec_anchored {s : String} {hit : Hit} (start : anchored r = true)
    (found : exec r s = some hit) : hit.skipped = [] ∧ Reads r ⟨[], s.toList⟩ hit.next := by
  obtain ⟨rest, split, reads⟩ := reads_of_search found
  have nothing := at_start_of_anchored reads start
  rw [List.append_nil, List.reverse_eq_nil_iff] at nothing
  rw [nothing] at split reads
  obtain rfl : s.toList = rest := split
  exact ⟨nothing, reads⟩

theorem test_anchored_iff {s : String} (start : anchored r = true) :
    test r s = true ↔ ∃ next, Reads r ⟨[], s.toList⟩ next := by
  rw [test_iff_reads]
  constructor
  · rintro ⟨skipped, rest, next, split, reads⟩
    have nothing := at_start_of_anchored reads start
    rw [List.reverse_eq_nil_iff] at nothing
    subst nothing
    obtain rfl : s.toList = rest := split
    exact ⟨next, reads⟩
  · rintro ⟨next, reads⟩
    exact ⟨[], s.toList, next, rfl, reads⟩

end Read

end AifHandoff.Regex
