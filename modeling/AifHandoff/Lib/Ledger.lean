import Mathlib.Data.List.Sort
import Mathlib.Order.Basic

/-!
Append-only ledgers of numbered entries.

Every entry belongs to a group and carries a number; a new entry of a group gets the
number after the largest one.
-/

namespace AifHandoff.Ledger

universe u v

variable {α : Type u} {κ : Type v} [DecidableEq κ] (group : α → κ) (number : α → Nat)

/-- The entries of a group, by number. -/
def entriesOf (k : κ) (ledger : List α) : List α :=
  (ledger.filter (group · == k)).insertionSort fun a b => number a ≤ number b

def newest (k : κ) (ledger : List α) : Option α := (entriesOf group number k ledger).getLast?

/-- The largest number of a group, 0 where it has no entry. -/
def largest (k : κ) (ledger : List α) : Nat :=
  (ledger.filter (group · == k)).foldr (fun a n => max (number a) n) 0

variable {group number} {k : κ} {ledger : List α} {a : α}

theorem mem_entriesOf : a ∈ entriesOf group number k ledger ↔ a ∈ ledger ∧ group a = k := by
  rw [entriesOf, List.mem_insertionSort, List.mem_filter, beq_iff_eq]

theorem pairwise_entriesOf :
    (entriesOf group number k ledger).Pairwise fun a b => number a ≤ number b := by
  have total : Std.Total fun a b : α => number a ≤ number b := ⟨fun _ _ => Nat.le_total _ _⟩
  have trans : IsTrans α fun a b => number a ≤ number b := ⟨fun _ _ _ => Nat.le_trans⟩
  exact List.pairwise_insertionSort _ _

theorem newest_mem (isNewest : newest group number k ledger = some a) :
    a ∈ ledger ∧ group a = k :=
  mem_entriesOf.mp (List.mem_of_getLast? isNewest)

theorem le_number_newest (isNewest : newest group number k ledger = some a) {b : α}
    (inside : b ∈ ledger) (same : group b = k) : number b ≤ number a := by
  obtain ⟨older, split⟩ := List.getLast?_eq_some_iff.mp isNewest
  have sorted : (entriesOf group number k ledger).Pairwise _ := pairwise_entriesOf
  have listed : b ∈ entriesOf group number k ledger := mem_entriesOf.mpr ⟨inside, same⟩
  rw [split] at sorted listed
  rcases List.mem_append.mp listed with early | last
  · exact (List.pairwise_append.mp sorted).2.2 b early a (List.mem_singleton_self a)
  · rw [List.mem_singleton.mp last]

theorem newest_eq_none : newest group number k ledger = none ↔ ∀ b ∈ ledger, group b ≠ k := by
  rw [newest, List.getLast?_eq_none_iff, List.eq_nil_iff_forall_not_mem]
  simp only [mem_entriesOf, not_and, ne_eq]

theorem foldr_max_le {entries : List α} {n : Nat} :
    entries.foldr (fun a n => max (number a) n) 0 ≤ n ↔ ∀ a ∈ entries, number a ≤ n := by
  induction entries with
  | nil => simp
  | cons a rest ih => simp [ih]

theorem largest_le {n : Nat} :
    largest group number k ledger ≤ n ↔ ∀ a ∈ ledger, group a = k → number a ≤ n := by
  rw [largest, foldr_max_le]
  simp only [List.mem_filter, beq_iff_eq, and_imp]

theorem le_largest (inside : a ∈ ledger) (same : group a = k) :
    number a ≤ largest group number k ledger :=
  largest_le.mp le_rfl a inside same

theorem number_newest (isNewest : newest group number k ledger = some a) :
    number a = largest group number k ledger := by
  obtain ⟨inside, same⟩ := newest_mem isNewest
  apply le_antisymm (le_largest inside same)
  exact largest_le.mpr fun b inside' same' => le_number_newest isNewest inside' same'

theorem largest_concat_of_ne (other : group a ≠ k) :
    largest group number k (ledger ++ [a]) = largest group number k ledger := by
  simp [largest, List.filter_append, other]

theorem newest_concat_of_ne (other : group a ≠ k) :
    newest group number k (ledger ++ [a]) = newest group number k ledger := by
  simp [newest, entriesOf, List.filter_append, other]

theorem newest_concat_self (ofGroup : group a = k)
    (next : number a = largest group number k ledger + 1) :
    newest group number k (ledger ++ [a]) = some a := by
  cases found : newest group number k (ledger ++ [a]) with
  | none => exact absurd ofGroup (newest_eq_none.mp found a (by simp))
  | some b =>
    obtain ⟨inside, same⟩ := newest_mem found
    rcases List.mem_append.mp inside with early | last
    · have bound : number b ≤ largest group number k ledger := le_largest early same
      have listed : a ∈ ledger ++ [a] := List.mem_append_right _ (List.mem_singleton_self a)
      have above := le_number_newest found listed ofGroup
      omega
    · rw [List.mem_singleton.mp last]

theorem largest_concat_self (ofGroup : group a = k)
    (next : number a = largest group number k ledger + 1) :
    largest group number k (ledger ++ [a]) = number a :=
  (number_newest (newest_concat_self ofGroup next)).symm

/-! ### The first of a sorted list -/

section First

variable {r : α → α → Prop} [DecidableRel r] {b : α} {later : List α}

theorem head?_insertionSort_cons (a : α) (l : List α) :
    ((a :: l).insertionSort r).head? =
      ((l.insertionSort r).head?.map fun b => if r a b then a else b).or (some a) := by
  rw [List.insertionSort_cons]
  cases l.insertionSort r with
  | nil => rfl
  | cons b rest =>
    rw [List.orderedInsert_cons]
    split
    next before => simp [before]
    next after => simp [after]

theorem head?_insertionSort_le (r : α → α → Prop) [DecidableRel r] [Std.Total r] [IsTrans α r]
    {l : List α} (first : (l.insertionSort r).head? = some a)
    (inside : b ∈ l) : r a b := by
  obtain ⟨rest, split⟩ : ∃ rest, l.insertionSort r = a :: rest := List.head?_eq_some_iff.mp first
  have sorted : (l.insertionSort r).Pairwise r := List.pairwise_insertionSort r l
  have listed : b ∈ l.insertionSort r := (List.mem_insertionSort r).mpr inside
  rw [split] at sorted listed
  rcases List.mem_cons.mp listed with rfl | among
  · exact (Std.Total.total b b).elim id id
  · exact (List.pairwise_cons.mp sorted).1 b among

/-- What comes after the first does not take its place when it is appended. -/
theorem head?_insertionSort_append (r : α → α → Prop) [DecidableRel r] [Std.Total r]
    [IsTrans α r] {l : List α} (first : (l.insertionSort r).head? = some a)
    (after : ∀ b ∈ later, r a b) : ((l ++ later).insertionSort r).head? = some a := by
  induction l generalizing a with
  | nil => cases first
  | cons c l ih =>
    rw [List.cons_append, head?_insertionSort_cons]
    rw [head?_insertionSort_cons] at first
    cases old : (l.insertionSort r).head? with
    | none =>
      -- The only one of the old list.
      have empty : l = [] := by
        have none_ := List.length_insertionSort r l
        rw [List.head?_eq_none_iff.mp old] at none_
        exact List.length_eq_zero_iff.mp none_.symm
      rw [old] at first
      cases first
      rw [empty, List.nil_append]
      cases new : (later.insertionSort r).head? with
      | none => rfl
      | some b =>
        have before := after b ((List.mem_insertionSort r).mp (List.mem_of_mem_head? new))
        simp [before]
    | some d =>
      rw [old] at first
      by_cases before : r c d
      · have isFirst : c = a := by simpa [before] using first
        subst isFirst
        cases new : ((l ++ later).insertionSort r).head? with
        | none => rfl
        | some b =>
          have inside := (List.mem_insertionSort r).mp (List.mem_of_mem_head? new)
          have ahead : r c b := by
            rcases List.mem_append.mp inside with early | late
            · exact IsTrans.trans _ _ _ before (head?_insertionSort_le r old early)
            · exact after b late
          simp [ahead]
      · have isFirst : d = a := by simpa [before] using first
        subst isFirst
        rw [ih old after]
        simp [before]

end First

end AifHandoff.Ledger
