import Mathlib.Data.List.Perm.Basic

/-!
Lists as sets: without repetition and in order.

A collation is a Boolean comparison that is total and transitive. Elements that it does not
tell apart keep the order of their first occurrences, so that two lists with the same
elements have one sorted set when the collation tells their elements apart.
-/

namespace AifHandoff

universe u

/-- A total, transitive comparison. -/
structure Collation (α : Type u) where
  le : α → α → Bool
  total : ∀ a b, (le a b || le b a) = true
  trans : ∀ a b c, le a b = true → le b c = true → le a c = true

variable {α : Type u}

/-- The collation tells the elements of the list apart. -/
def Collation.Separates (order : Collation α) (xs : List α) : Prop :=
  ∀ a ∈ xs, ∀ b ∈ xs, order.le a b = true → order.le b a = true → a = b

variable [BEq α] [LawfulBEq α]

theorem nodup_eraseDups (xs : List α) : xs.eraseDups.Nodup := by
  induction shorter : xs.length using Nat.strongRecOn generalizing xs with
  | ind n ih =>
    cases xs with
    | nil => exact List.nodup_nil
    | cons x rest =>
      have fewer : (rest.filter fun y => !y == x).length < n := by
        rw [← shorter, List.length_cons]
        exact Nat.lt_succ_of_le (List.length_filter_le _ _)
      rw [List.eraseDups_cons, List.nodup_cons, List.mem_eraseDups, List.mem_filter]
      refine ⟨?_, ih _ fewer _ rfl⟩
      rintro ⟨-, other⟩
      simp at other

/-- `[...new Set(xs)].sort(compare)`. -/
def sortedSet (order : Collation α) (xs : List α) : List α := xs.eraseDups.mergeSort order.le

theorem mem_sortedSet {order : Collation α} {xs : List α} {x : α} :
    x ∈ sortedSet order xs ↔ x ∈ xs := by
  rw [sortedSet, List.mem_mergeSort, List.mem_eraseDups]

theorem nodup_sortedSet (order : Collation α) (xs : List α) : (sortedSet order xs).Nodup :=
  (List.mergeSort_perm _ _).nodup_iff.mpr (nodup_eraseDups xs)

omit [LawfulBEq α] in
theorem pairwise_sortedSet (order : Collation α) (xs : List α) :
    (sortedSet order xs).Pairwise fun a b => order.le a b = true :=
  List.pairwise_mergeSort order.trans order.total _

theorem sortedSet_congr {order : Collation α} {xs ys : List α} (separates : order.Separates xs)
    (same : ∀ x, x ∈ xs ↔ x ∈ ys) : sortedSet order xs = sortedSet order ys := by
  have perm : (sortedSet order xs).Perm (sortedSet order ys) := by
    rw [List.perm_ext_iff_of_nodup (nodup_sortedSet order xs) (nodup_sortedSet order ys)]
    intro x
    rw [mem_sortedSet, mem_sortedSet, same]
  refine perm.eq_of_pairwise ?_ (pairwise_sortedSet order xs) (pairwise_sortedSet order ys)
  intro a b left right below above
  have inside : b ∈ xs := (same b).mpr (mem_sortedSet.mp right)
  exact separates a (mem_sortedSet.mp left) b inside below above

theorem sortedSet_eq_iff {order : Collation α} {xs ys : List α} (separates : order.Separates xs) :
    sortedSet order xs = sortedSet order ys ↔ ∀ x, x ∈ xs ↔ x ∈ ys := by
  refine ⟨fun equal x => ?_, sortedSet_congr separates⟩
  have left : x ∈ sortedSet order xs ↔ x ∈ xs := mem_sortedSet
  rw [← left, equal, mem_sortedSet]

theorem eraseDups_of_nodup {xs : List α} (nodup : xs.Nodup) : xs.eraseDups = xs := by
  induction xs with
  | nil => rfl
  | cons x rest ih =>
    obtain ⟨absent, later⟩ := List.nodup_cons.mp nodup
    have kept : rest.filter (fun y => !y == x) = rest := by
      rw [List.filter_eq_self]
      intro y inside
      have other : y ≠ x := by
        rintro rfl
        exact absent inside
      simpa using other
    rw [List.eraseDups_cons, kept, ih later]

theorem sortedSet_singleton (order : Collation α) (x : α) : sortedSet order [x] = [x] := by
  rw [sortedSet, eraseDups_of_nodup (List.pairwise_singleton _ x), List.mergeSort_singleton]

theorem sortedSet_sortedSet (order : Collation α) (xs : List α) :
    sortedSet order (sortedSet order xs) = sortedSet order xs := by
  rw [sortedSet, eraseDups_of_nodup (nodup_sortedSet order xs),
    List.mergeSort_of_pairwise (pairwise_sortedSet order xs)]

end AifHandoff
