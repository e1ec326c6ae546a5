import AifHandoff.Lib.Transition
import Mathlib.Data.List.Nodup

/-!
Tables of keyed rows that live through a cycle of states.

Statements append rows and rewrite the rows that a condition selects. `Evolves` says what
became of the rows of a table: each still has a row of its key, and the two stand in a
relation that says how a row may change.
-/

namespace AifHandoff.Lifecycle

open Transition

variable {ρ κ ι : Type} {key : ρ → κ} {R : ρ → ρ → Prop} {rows rows' : List ρ}

/-- `UPDATE … SET f WHERE p`. -/
def updateWhere (rows : List ρ) (p : ρ → Bool) (f : ρ → ρ) : List ρ :=
  rows.map fun row => if p row then f row else row

/-- The number of rows that `UPDATE … WHERE p` reports. -/
def changes (rows : List ρ) (p : ρ → Bool) : Nat := rows.countP p

/-- Every row has a successor under its key, in the relation `R` to it. -/
def Evolves (key : ρ → κ) (R : ρ → ρ → Prop) (rows rows' : List ρ) : Prop :=
  ∀ row ∈ rows, ∃ row' ∈ rows', key row' = key row ∧ R row row'

theorem mem_updateWhere {p : ρ → Bool} {f : ρ → ρ} {row' : ρ} :
    row' ∈ updateWhere rows p f ↔
      ∃ row ∈ rows, (p row = true ∧ f row = row') ∨ (p row = false ∧ row = row') := by
  rw [updateWhere, List.mem_map]
  refine exists_congr fun row => and_congr_right fun _ => ?_
  cases p row <;> simp

theorem updateWhere_of_none {p : ρ → Bool} {f : ρ → ρ} (none : ∀ row ∈ rows, p row = false) :
    updateWhere rows p f = rows := by
  unfold updateWhere
  conv_rhs => rw [← List.map_id rows]
  refine List.map_congr_left fun row inside => ?_
  rw [none row inside]
  rfl

theorem map_key_updateWhere {p : ρ → Bool} {f : ρ → ρ} (keeps : ∀ row, key (f row) = key row) :
    (updateWhere rows p f).map key = rows.map key := by
  rw [updateWhere, List.map_map]
  refine List.map_congr_left fun row _ => ?_
  show key (if p row = true then f row else row) = key row
  split
  · exact keeps row
  · rfl

theorem nodup_updateWhere {p : ρ → Bool} {f : ρ → ρ} (keeps : ∀ row, key (f row) = key row)
    (distinct : (rows.map key).Nodup) : ((updateWhere rows p f).map key).Nodup := by
  rwa [map_key_updateWhere keeps]

theorem Evolves.refl (reflexive : ∀ row, R row row) : Evolves key R rows rows :=
  fun row inside => ⟨row, inside, rfl, reflexive row⟩

theorem Evolves.trans {rows'' : List ρ} (transitive : ∀ a b c, R a b → R b c → R a c)
    (first : Evolves key R rows rows') (second : Evolves key R rows' rows'') :
    Evolves key R rows rows'' := by
  intro row inside
  obtain ⟨row', inside', same, here⟩ := first row inside
  obtain ⟨row'', inside'', same', there⟩ := second row' inside'
  exact ⟨row'', inside'', same'.trans same, transitive _ _ _ here there⟩

theorem evolves_append (reflexive : ∀ row, R row row) (new : List ρ) :
    Evolves key R rows (rows ++ new) :=
  fun row inside => ⟨row, List.mem_append_left _ inside, rfl, reflexive row⟩

/-- A statement moves rows along `R` when it does so for the rows it selects. -/
theorem evolves_updateWhere {p : ρ → Bool} {f : ρ → ρ} (reflexive : ∀ row, R row row)
    (keeps : ∀ row, key (f row) = key row) (moves : ∀ row ∈ rows, p row = true → R row (f row)) :
    Evolves key R rows (updateWhere rows p f) := by
  intro row inside
  cases selected : p row with
  | true =>
    exact ⟨f row, mem_updateWhere.mpr ⟨row, inside, .inl ⟨selected, rfl⟩⟩, keeps row,
      moves row inside selected⟩
  | false =>
    exact ⟨row, mem_updateWhere.mpr ⟨row, inside, .inr ⟨selected, rfl⟩⟩, rfl, reflexive row⟩

theorem Evolves.of_key (evolves : Evolves key R rows rows') (distinct : (rows'.map key).Nodup)
    {row row' : ρ} (inside : row ∈ rows) (inside' : row' ∈ rows') (same : key row' = key row) :
    R row row' := by
  obtain ⟨next, inNext, sameKey, moved⟩ := evolves row inside
  rwa [List.inj_on_of_nodup_map distinct inNext inside' (sameKey.trans same.symm)] at moved

theorem evolves_foldl {exec : List ρ → ι → List ρ} {ok : List ρ → ι → Prop}
    (reflexive : ∀ row, R row row) (transitive : ∀ a b c, R a b → R b c → R a c)
    (step : ∀ rows i, ok rows i → Evolves key R rows (exec rows i)) {is : List ι}
    (along : Along ok exec rows is) : Evolves key R rows (is.foldl exec rows) := by
  induction is generalizing rows with
  | nil => exact Evolves.refl reflexive
  | cons i is ih =>
    obtain ⟨first, rest⟩ := along
    exact (step rows i first).trans transitive (ih rest)

end AifHandoff.Lifecycle
