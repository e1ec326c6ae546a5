import AifHandoff.Lib.JsonKeys
import AifHandoff.Lib.JsonNumbers

/-!
JSON values with the fields of their objects in another order.
-/

namespace AifHandoff.Json

variable {ν : Type}

/-! ### Another order -/

mutual

/-- The second value is the first with the fields of its objects in another order. -/
def Reordered : Json ν → Json ν → Prop
  | .arr items, .arr items' => ReorderedItems items items'
  | .obj fields, .obj fields' => ∃ mid, mid.Perm fields' ∧ ReorderedFields fields mid
  | .null, .null => True
  | .bool b, .bool b' => b = b'
  | .num n, .num n' => n = n'
  | .str s, .str s' => s = s'
  | _, _ => False

def ReorderedItems : List (Json ν) → List (Json ν) → Prop
  | [], [] => True
  | item :: rest, item' :: rest' => Reordered item item' ∧ ReorderedItems rest rest'
  | _, _ => False

/-- The values are reordered, the fields are not. -/
def ReorderedFields : List (String × Json ν) → List (String × Json ν) → Prop
  | [], [] => True
  | (key, value) :: rest, (key', value') :: rest' =>
    key = key' ∧ Reordered value value' ∧ ReorderedFields rest rest'
  | _, _ => False

end

/-- One field with its value reordered. -/
def ReorderedField (field field' : String × Json ν) : Prop :=
  field.1 = field'.1 ∧ Reordered field.2 field'.2

theorem reorderedItems_iff (items items' : List (Json ν)) :
    ReorderedItems items items' ↔ List.Forall₂ Reordered items items' := by
  induction items generalizing items' with
  | nil =>
    cases items' with
    | nil => simp [ReorderedItems]
    | cons item' rest' => simp [ReorderedItems]
  | cons item rest ih =>
    cases items' with
    | nil => simp [ReorderedItems]
    | cons item' rest' => rw [ReorderedItems, List.forall₂_cons, ih]

theorem reorderedFields_iff (fields fields' : List (String × Json ν)) :
    ReorderedFields fields fields' ↔ List.Forall₂ ReorderedField fields fields' := by
  induction fields generalizing fields' with
  | nil =>
    cases fields' with
    | nil => simp [ReorderedFields]
    | cons field' rest' => simp [ReorderedFields]
  | cons field rest ih =>
    cases fields' with
    | nil => simp [ReorderedFields]
    | cons field' rest' =>
      obtain ⟨key, value⟩ := field
      obtain ⟨key', value'⟩ := field'
      rw [ReorderedFields, List.forall₂_cons, ih, ReorderedField, and_assoc]

theorem reordered_arr_iff (items : List (Json ν)) (v : Json ν) :
    Reordered (.arr items) v ↔ ∃ items', v = .arr items' ∧ List.Forall₂ Reordered items items' := by
  cases v with
  | arr items' => simp [Reordered, reorderedItems_iff]
  | null | bool _ | num _ | str _ | obj _ => simp [Reordered]

theorem reordered_obj_iff (fields : List (String × Json ν)) (v : Json ν) :
    Reordered (.obj fields) v ↔ ∃ mid fields', v = .obj fields' ∧ mid.Perm fields' ∧
      List.Forall₂ ReorderedField fields mid := by
  cases v with
  | obj fields' => simp [Reordered, reorderedFields_iff]
  | null | bool _ | num _ | str _ | arr _ => simp [Reordered]

mutual

theorem reordered_refl : ∀ v : Json ν, Reordered v v
  | .arr items => by
    rw [Reordered]
    exact reorderedItems_refl items
  | .obj fields => by
    rw [Reordered]
    exact ⟨fields, .refl _, reorderedFields_refl fields⟩
  | .null => by rw [Reordered]; exact trivial
  | .bool b => by rw [Reordered]
  | .num n => by rw [Reordered]
  | .str s => by rw [Reordered]

theorem reorderedItems_refl : ∀ items : List (Json ν), ReorderedItems items items
  | [] => by rw [ReorderedItems]; exact trivial
  | item :: rest => by
    rw [ReorderedItems]
    exact ⟨reordered_refl item, reorderedItems_refl rest⟩

theorem reorderedFields_refl : ∀ fields : List (String × Json ν), ReorderedFields fields fields
  | [] => by rw [ReorderedFields]; exact trivial
  | (_, value) :: rest => by
    rw [ReorderedFields]
    exact ⟨rfl, reordered_refl value, reorderedFields_refl rest⟩

end

theorem map_fst_of_forall₂ {fields mid : List (String × Json ν)}
    (same : List.Forall₂ ReorderedField fields mid) : mid.map (·.1) = fields.map (·.1) := by
  induction same with
  | nil => rfl
  | cons first _ ih => rw [List.map_cons, List.map_cons, ih, first.1]

mutual

theorem distinct_of_reordered : ∀ v w : Json ν, Reordered v w → Distinct v → Distinct w
  | .arr items, w, same, distinct => by
    obtain ⟨items', rfl, each⟩ := (reordered_arr_iff items w).mp same
    exact distinctItems_of_reordered items items' ((reorderedItems_iff _ _).mpr each) distinct
  | .obj fields, w, same, distinct => by
    obtain ⟨mid, fields', rfl, order, each⟩ := (reordered_obj_iff fields w).mp same
    have later := distinctFields_of_reordered fields mid ((reorderedFields_iff _ _).mpr each)
      distinct.2
    refine ⟨?_, ?_⟩
    · rw [← (order.map _).nodup_iff, map_fst_of_forall₂ each]
      exact distinct.1
    · rw [distinctFields_iff] at later ⊢
      exact fun field inside => later field (order.mem_iff.mpr inside)
  | .null, w, same, _ => by
    cases w <;> first | exact trivial | simp [Reordered] at same
  | .bool _, w, same, _ => by
    cases w <;> first | exact trivial | simp [Reordered] at same
  | .num _, w, same, _ => by
    cases w <;> first | exact trivial | simp [Reordered] at same
  | .str _, w, same, _ => by
    cases w <;> first | exact trivial | simp [Reordered] at same

theorem distinctItems_of_reordered : ∀ items items' : List (Json ν), ReorderedItems items items' →
    Distinct.DistinctItems items → Distinct.DistinctItems items'
  | [], items', same, _ => by
    cases items' with
    | nil => exact trivial
    | cons => simp [ReorderedItems] at same
  | item :: rest, items', same, distinct => by
    cases items' with
    | nil => simp [ReorderedItems] at same
    | cons item' rest' =>
      rw [ReorderedItems] at same
      exact ⟨distinct_of_reordered item item' same.1 distinct.1,
        distinctItems_of_reordered rest rest' same.2 distinct.2⟩

theorem distinctFields_of_reordered : ∀ fields fields' : List (String × Json ν),
    ReorderedFields fields fields' → Distinct.DistinctFields fields →
      Distinct.DistinctFields fields'
  | [], fields', same, _ => by
    cases fields' with
    | nil => exact trivial
    | cons => simp [ReorderedFields] at same
  | (key, value) :: rest, fields', same, distinct => by
    cases fields' with
    | nil => simp [ReorderedFields] at same
    | cons field' rest' =>
      obtain ⟨key', value'⟩ := field'
      rw [ReorderedFields] at same
      exact ⟨distinct_of_reordered value value' same.2.1 distinct.1,
        distinctFields_of_reordered rest rest' same.2.2 distinct.2⟩

end

/-! ### Fields by their keys -/

theorem lookup_eq_some_iff_mem {β : Type} {fields : List (String × β)}
    (keys : (fields.map (·.1)).Nodup) {key : String} {value : β} :
    fields.lookup key = some value ↔ (key, value) ∈ fields := by
  induction fields with
  | nil => simp
  | cons field rest ih =>
    rw [List.map_cons, List.nodup_cons] at keys
    rw [List.lookup_cons, List.mem_cons]
    cases same : key == field.1 with
    | true =>
      obtain rfl := eq_of_beq same
      have absent : (field.1, value) ∉ rest :=
        fun inside => keys.1 (List.mem_map.mpr ⟨_, inside, rfl⟩)
      dsimp only
      rw [Option.some.injEq, or_iff_left absent, Prod.ext_iff, eq_comm]
      exact (and_iff_right rfl).symm
    | false =>
      have other : (key, value) ≠ field := by
        rintro rfl
        simp at same
      rw [or_iff_right other]
      exact ih keys.2

theorem lookup_of_reordered {fields fields' : List (String × Json ν)}
    (keys : (fields.map (·.1)).Nodup) (same : Reordered (.obj fields) (.obj fields')) {key : String}
    {value : Json ν} (found : fields.lookup key = some value) :
    ∃ value', fields'.lookup key = some value' ∧ Reordered value value' := by
  obtain ⟨mid, others, same', order, each⟩ := (reordered_obj_iff _ _).mp same
  cases same'
  have keys' : (fields'.map (·.1)).Nodup := by
    rw [← (order.map _).nodup_iff, map_fst_of_forall₂ each]
    exact keys
  have inside := (lookup_eq_some_iff_mem keys).mp found
  have among : ∃ field ∈ mid, ReorderedField (key, value) field := by
    clear order keys keys' same found
    induction each with
    | nil => cases inside
    | cons first _ ih =>
      rcases List.mem_cons.mp inside with here | later
      · exact ⟨_, List.mem_cons_self, here ▸ first⟩
      · obtain ⟨field, inMid, reordered⟩ := ih later
        exact ⟨field, List.mem_cons_of_mem _ inMid, reordered⟩
  obtain ⟨⟨key', value'⟩, inMid, sameKey, reordered⟩ := among
  dsimp only at sameKey
  subst sameKey
  exact ⟨value', (lookup_eq_some_iff_mem keys').mpr (order.mem_iff.mp inMid), reordered⟩

theorem lookup_none_of_reordered {fields fields' : List (String × Json ν)}
    (same : Reordered (.obj fields) (.obj fields')) {key : String} (none_ : fields.lookup key = none) :
    fields'.lookup key = none := by
  obtain ⟨mid, others, same', order, each⟩ := (reordered_obj_iff _ _).mp same
  cases same'
  have absent {β : Type} (l : List (String × β)) : l.lookup key = none ↔ key ∉ l.map (·.1) := by
    rw [List.lookup_eq_none_iff, List.mem_map, not_exists]
    simp only [bne_iff_ne, ne_eq, not_and]
    exact forall₂_congr fun field _ => ⟨fun other same => other same.symm,
      fun other same => other same.symm⟩
  rw [absent] at none_ ⊢
  rwa [← (order.map _).mem_iff, map_fst_of_forall₂ each]

end AifHandoff.Json
