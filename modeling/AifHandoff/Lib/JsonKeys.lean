import AifHandoff.Lib.Json
import Mathlib.Data.List.Sort

/-!
Objects with their keys in another order.
-/

namespace AifHandoff.Json

variable {ν μ : Type}

section Sorting

variable (le : String → String → Bool)

mutual

/-- The value with the fields of its objects in the order of `le`. -/
def sortKeys : Json ν → Json ν
  | .arr items => .arr (sortKeysItems items)
  | .obj fields => .obj ((sortKeysFields fields).insertionSort fun left right => le left.1 right.1)
  | .null => .null
  | .bool b => .bool b
  | .num n => .num n
  | .str s => .str s

def sortKeysItems : List (Json ν) → List (Json ν)
  | [] => []
  | item :: rest => sortKeys item :: sortKeysItems rest

def sortKeysFields : List (String × Json ν) → List (String × Json ν)
  | [] => []
  | (key, value) :: rest => (key, sortKeys value) :: sortKeysFields rest

end

theorem sortKeysItems_eq (items : List (Json ν)) :
    sortKeysItems le items = items.map (sortKeys le) := by
  induction items with
  | nil => rw [sortKeysItems, List.map_nil]
  | cons item rest ih => rw [sortKeysItems, ih, List.map_cons]

theorem sortKeysFields_eq (fields : List (String × Json ν)) :
    sortKeysFields le fields = fields.map fun field => (field.1, sortKeys le field.2) := by
  induction fields with
  | nil => rw [sortKeysFields, List.map_nil]
  | cons field rest ih =>
    obtain ⟨key, value⟩ := field
    rw [sortKeysFields, ih, List.map_cons]

end Sorting

/-! ### Texts -/

section Texts

variable (write : ν → List Char)

/-- The text of one field. -/
def fieldText (field : String × Json ν) : List Char :=
  quote field.1 ++ ':' :: stringify write field.2

/-- What follows the field before. -/
def laterFields : List (String × Json ν) → List Char
  | [] => []
  | rest => ',' :: stringifyFields write rest

theorem stringifyFields_cons (field : String × Json ν) (rest : List (String × Json ν)) :
    stringifyFields write (field :: rest) = fieldText write field ++ laterFields write rest := by
  obtain ⟨key, value⟩ := field
  cases rest <;> simp [stringifyFields, fieldText, laterFields]

theorem laterFields_cons (field : String × Json ν) (rest : List (String × Json ν)) :
    laterFields write (field :: rest) = ',' :: (fieldText write field ++ laterFields write rest) := by
  rw [laterFields, stringifyFields_cons]
  exact List.cons_ne_nil _ _

theorem laterFields_perm {fields fields' : List (String × Json ν)} (same : fields.Perm fields') :
    (laterFields write fields).Perm (laterFields write fields') := by
  induction same with
  | nil => exact .refl _
  | cons field _ ih =>
    rw [laterFields_cons, laterFields_cons]
    exact (ih.append_left _).cons ','
  | swap field field' rest =>
    rw [laterFields_cons, laterFields_cons, laterFields_cons, laterFields_cons]
    refine List.Perm.cons ',' ?_
    refine List.perm_middle.trans ?_
    refine (List.Perm.cons ',' ?_).trans List.perm_middle.symm
    rw [← List.append_assoc, ← List.append_assoc]
    exact (List.perm_append_comm).append_right _
  | trans _ _ ih ih' => exact ih.trans ih'

theorem stringifyFields_perm {fields fields' : List (String × Json ν)} (same : fields.Perm fields') :
    (stringifyFields write fields).Perm (stringifyFields write fields') := by
  have later := laterFields_perm write same
  cases fields with
  | nil => rw [List.nil_perm.mp same]
  | cons field rest =>
    cases fields' with
    | nil => exact absurd (List.perm_nil.mp same) (List.cons_ne_nil _ _)
    | cons field' rest' =>
      rw [stringifyFields_cons, stringifyFields_cons]
      rw [laterFields_cons, laterFields_cons] at later
      exact later.cons_inv

variable (le : String → String → Bool)

mutual

theorem stringify_sortKeys_perm :
    ∀ v : Json ν, (stringify write (sortKeys le v)).Perm (stringify write v)
  | .arr items => by
    rw [sortKeys, stringify, stringify]
    exact ((stringifyItems_sortKeys_perm items).append_right _).cons _
  | .obj fields => by
    rw [sortKeys, stringify, stringify]
    refine (List.Perm.append_right _ ?_).cons _
    exact (stringifyFields_perm write (List.perm_insertionSort _ _)).trans
      (stringifyFields_sortKeys_perm fields)
  | .null => by rw [sortKeys]
  | .bool b => by rw [sortKeys]
  | .num n => by rw [sortKeys]
  | .str s => by rw [sortKeys]

theorem stringifyItems_sortKeys_perm : ∀ items : List (Json ν),
    (stringifyItems write (sortKeysItems le items)).Perm (stringifyItems write items)
  | [] => by rw [sortKeysItems]
  | item :: rest => by
    rw [sortKeysItems, stringifyItems, stringifyItems]
    have empty : (sortKeysItems le rest).isEmpty = rest.isEmpty := by
      cases rest with
      | nil => rw [sortKeysItems]
      | cons next others => rw [sortKeysItems]; rfl
    rw [empty]
    refine (stringify_sortKeys_perm item).append ?_
    split
    · exact .refl _
    · exact (stringifyItems_sortKeys_perm rest).cons _

theorem stringifyFields_sortKeys_perm : ∀ fields : List (String × Json ν),
    (stringifyFields write (sortKeysFields le fields)).Perm (stringifyFields write fields)
  | [] => by rw [sortKeysFields]
  | (key, value) :: rest => by
    rw [sortKeysFields, stringifyFields, stringifyFields]
    have empty : (sortKeysFields le rest).isEmpty = rest.isEmpty := by
      cases rest with
      | nil => rw [sortKeysFields]
      | cons next others => rw [sortKeysFields]; rfl
    rw [empty]
    refine List.Perm.append (List.Perm.append_left _ ((stringify_sortKeys_perm value).cons _)) ?_
    split
    · exact .refl _
    · exact (stringifyFields_sortKeys_perm rest).cons _

end

end Texts

end AifHandoff.Json
