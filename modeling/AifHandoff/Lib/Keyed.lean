import Mathlib.Data.List.Dedup
import Mathlib.Data.List.Nodup
import Mathlib.Data.List.Perm.Subperm

/-!
Maps that iterate in insertion order.

The entries carry their own key. Setting an entry replaces the entry of its key in
place, and appends it where there is none.
-/

namespace AifHandoff.Keyed

universe u v

variable {α : Type u} {κ : Type v} [DecidableEq κ] (key : α → κ)

/-- `map.set(key(x), x)`. -/
def set (xs : List α) (x : α) : List α :=
  if key x ∈ xs.map key then xs.map fun y => if key y = key x then x else y else xs ++ [x]

/-- Entries set one after another. -/
def setAll (xs entries : List α) : List α := entries.foldl (set key) xs

section Set

variable {key} {xs : List α} {x y : α}

theorem map_key_set : (set key xs x).map key =
    if key x ∈ xs.map key then xs.map key else xs.map key ++ [key x] := by
  unfold set
  split
  · rw [List.map_map]
    apply List.map_congr_left
    intro y _
    by_cases same : key y = key x <;> simp [same]
  · rw [List.map_append]
    rfl

theorem nodup_set (distinct : (xs.map key).Nodup) : ((set key xs x).map key).Nodup := by
  rw [map_key_set]
  split
  next => exact distinct
  next fresh => simpa using (List.nodup_concat _ _).mpr ⟨fresh, distinct⟩

theorem set_of_fresh (fresh : key x ∉ xs.map key) : set key xs x = xs ++ [x] := if_neg fresh

theorem length_set : (set key xs x).length =
    if key x ∈ xs.map key then xs.length else xs.length + 1 := by
  unfold set
  split <;> simp

theorem self_mem_set : x ∈ set key xs x := by
  unfold set
  split
  next known =>
    obtain ⟨y, inside, same⟩ := List.mem_map.mp known
    exact List.mem_map.mpr ⟨y, inside, if_pos same⟩
  next => exact List.mem_append_right _ List.mem_cons_self

theorem mem_set_of_ne (inside : y ∈ xs) (other : key y ≠ key x) : y ∈ set key xs x := by
  unfold set
  split
  · exact List.mem_map.mpr ⟨y, inside, if_neg other⟩
  · exact List.mem_append_left _ inside

end Set

/-- `if (!map.has(key(x))) map.set(key(x), x)`. -/
def setNew (xs : List α) (x : α) : List α := if key x ∈ xs.map key then xs else xs ++ [x]

section SetNew

variable {key}

/-- Of the entries of a key the first one stays. -/
theorem filter_foldl_setNew (k : κ) (xs entries : List α) :
    (entries.foldl (setNew key) xs).filter (fun x => key x = k) =
      if k ∈ xs.map key then xs.filter (fun x => key x = k)
      else (entries.find? fun x => key x = k).toList := by
  induction entries generalizing xs with
  | nil =>
    rw [List.foldl_nil]
    split
    · rfl
    · rename_i fresh
      refine List.filter_eq_nil_iff.mpr fun x inside => ?_
      simpa using fun same => fresh (List.mem_map.mpr ⟨x, inside, same⟩)
  | cons entry entries ih =>
    rw [List.foldl_cons, ih, setNew, List.find?_cons]
    by_cases known : key entry ∈ xs.map key
    · rw [if_pos known]
      split
      · rfl
      · rename_i fresh
        have other : key entry ≠ k := fun same => fresh (same ▸ known)
        rw [decide_eq_false other]
    · rw [if_neg known, List.map_append, List.map_cons, List.map_nil, List.filter_append]
      by_cases same : key entry = k
      · have fresh : k ∉ xs.map key := same ▸ known
        have nil : xs.filter (fun x => key x = k) = [] := by
          refine List.filter_eq_nil_iff.mpr fun x inside => ?_
          simpa using fun equal => fresh (List.mem_map.mpr ⟨x, inside, equal⟩)
        rw [if_neg fresh, if_pos (by simp [same]), nil, decide_eq_true same]
        simp [same]
      · have tail : [entry].filter (fun x => key x = k) = [] := by simp [same]
        rw [tail, List.append_nil, decide_eq_false same]
        have iff_ : k ∈ xs.map key ++ [key entry] ↔ k ∈ xs.map key := by
          rw [List.mem_append, List.mem_singleton]
          exact or_iff_left (Ne.symm same)
        simp only [iff_]

end SetNew

section SetAll

variable {key} {xs entries : List α} {y : α}

@[simp] theorem setAll_nil : setAll key xs [] = xs := rfl

@[simp] theorem setAll_cons {x : α} : setAll key xs (x :: entries) =
    setAll key (set key xs x) entries := rfl

theorem setAll_append {entries' : List α} : setAll key xs (entries ++ entries') =
    setAll key (setAll key xs entries) entries' := List.foldl_append

theorem foldl_set_eq_setAll {β : Type u} (elements : List β) (applies : β → Bool) (f : β → α) :
    elements.foldl (fun acc b => if applies b then set key acc (f b) else acc) xs =
      setAll key xs ((elements.filter applies).map f) := by
  induction elements generalizing xs with
  | nil => rfl
  | cons b rest ih =>
    rw [List.foldl_cons, ih, List.filter_cons]
    cases applies b <;> rfl

theorem nodup_setAll (distinct : (xs.map key).Nodup) :
    ((setAll key xs entries).map key).Nodup := by
  induction entries generalizing xs with
  | nil => exact distinct
  | cons x rest ih => exact ih (nodup_set distinct)

theorem mem_setAll_of_ne (inside : y ∈ xs) (other : key y ∉ entries.map key) :
    y ∈ setAll key xs entries := by
  induction entries generalizing xs with
  | nil => exact inside
  | cons x rest ih =>
    obtain ⟨notHere, notLater⟩ := not_or.mp (mt List.mem_cons.mpr other)
    exact ih (mem_set_of_ne inside notHere) notLater

theorem setAll_of_nodup (distinct : ((xs ++ entries).map key).Nodup) :
    setAll key xs entries = xs ++ entries := by
  induction entries generalizing xs with
  | nil => simp
  | cons x rest ih =>
    have fresh : key x ∉ xs.map key := by
      rw [List.map_append, List.map_cons] at distinct
      intro known
      exact (List.disjoint_of_nodup_append distinct) known List.mem_cons_self
    rw [setAll_cons, set_of_fresh fresh, ih (by simpa using distinct)]
    simp

theorem length_setAll_le : (setAll key xs entries).length ≤ xs.length + entries.length := by
  induction entries generalizing xs with
  | nil => simp
  | cons x rest ih =>
    have first : (set key xs x).length ≤ xs.length + 1 := by
      rw [length_set]
      split <;> omega
    calc (setAll key xs (x :: rest)).length ≤ (set key xs x).length + rest.length := ih
      _ ≤ xs.length + (x :: rest).length := by rw [List.length_cons]; omega

theorem nodup_of_length_setAll (distinct : (xs.map key).Nodup)
    (grown : xs.length + entries.length ≤ (setAll key xs entries).length) :
    ((xs ++ entries).map key).Nodup := by
  induction entries generalizing xs with
  | nil => simpa using distinct
  | cons x rest ih =>
    have rest_ : (setAll key (set key xs x) rest).length ≤ (set key xs x).length + rest.length :=
      length_setAll_le
    rw [setAll_cons, List.length_cons] at grown
    by_cases known : key x ∈ xs.map key
    · rw [length_set, if_pos known] at rest_
      omega
    · rw [set_of_fresh known] at grown
      have kept : ((xs ++ [x]).map key).Nodup := by
        simpa using (List.nodup_concat _ _).mpr ⟨known, distinct⟩
      have all := ih kept (by simp at grown ⊢; omega)
      simpa using all

omit [DecidableEq κ] in
theorem length_le_of_nodup_of_subset {items : List α} (distinct : (items.map key).Nodup)
    (inside : ∀ item ∈ items, item ∈ xs) : items.length ≤ xs.length := by
  have sub : items.map key ⊆ xs.map key := List.map_subset key inside
  simpa using (distinct.subperm sub).length_le

end SetAll

section Lookup

variable {β : Type v} {xs entries : List (κ × β)} {k : κ} {v : β}

theorem lookup_cons_of_ne {k' : κ} (other : k ≠ k') :
    ((k', v) :: xs).lookup k = xs.lookup k := by
  rw [List.lookup_cons, beq_false_of_ne other]

theorem lookup_replace {k' : κ} :
    (xs.map fun y => if y.1 = k' then (k', v) else y).lookup k =
      if k = k' ∧ k' ∈ xs.map Prod.fst then some v else xs.lookup k := by
  induction xs with
  | nil => simp
  | cons y ys ih =>
    obtain ⟨key, value⟩ := y
    rw [List.map_cons]
    by_cases here : key = k'
    · subst here
      by_cases wanted : k = key
      · simp [wanted]
      · simp [lookup_cons_of_ne wanted, wanted, ih]
    · by_cases first : k = key
      · simp [here, first]
      · rw [if_neg here, lookup_cons_of_ne first, lookup_cons_of_ne first, ih, List.map_cons]
        simp only [List.mem_cons, Ne.symm here, false_or]

/-- `map.get(k)` behind `map.set`. -/
theorem lookup_set {k' : κ} :
    (set Prod.fst xs (k', v)).lookup k = if k = k' then some v else xs.lookup k := by
  unfold set
  split
  next known =>
    rw [lookup_replace]
    simp [known]
  next fresh =>
    rw [List.lookup_append]
    by_cases wanted : k = k'
    · subst wanted
      have none' : xs.lookup k = none := by
        rw [List.lookup_eq_none_iff]
        intro y inside
        have other : k ≠ y.1 := fun same => fresh (List.mem_map.mpr ⟨y, inside, same.symm⟩)
        simpa using other
      simp [none']
    · simp [wanted, lookup_cons_of_ne wanted]

theorem lookup_map_key (rows : List β) (rowKey : β → κ) :
    (rows.map fun row => (rowKey row, row)).lookup k = rows.find? (rowKey · = k) := by
  induction rows with
  | nil => rfl
  | cons row rest ih =>
    rw [List.map_cons, List.find?_cons]
    by_cases same : k = rowKey row
    · simp [same]
    · simp [lookup_cons_of_ne same, ih, Ne.symm same]

/-- What a map holds under the key of a row after rows were set, of which no other has its key. -/
theorem lookup_setAll_rows {ρ : Type u} (rows : List ρ) {rowKey : ρ → κ} {f : ρ → β} {row : ρ}
    (unique : ∀ other ∈ rows, rowKey other = rowKey row → other = row)
    (held : row ∈ rows ∨ xs.lookup (rowKey row) = some (f row)) :
    (setAll Prod.fst xs (rows.map fun row => (rowKey row, f row))).lookup (rowKey row) =
      some (f row) := by
  induction rows generalizing xs with
  | nil => simpa using held
  | cons first rest ih =>
    rw [List.map_cons, setAll_cons]
    refine ih (fun other later => unique other (List.mem_cons_of_mem _ later)) ?_
    rw [lookup_set]
    rcases held with inside | before
    · rcases List.mem_cons.mp inside with rfl | later
      · exact .inr (if_pos rfl)
      · exact .inl later
    · by_cases same : rowKey row = rowKey first
      · have isRow := unique first List.mem_cons_self same.symm
        subst isRow
        exact .inr (if_pos rfl)
      · exact .inr (by rw [if_neg same, before])

end Lookup

end AifHandoff.Keyed
