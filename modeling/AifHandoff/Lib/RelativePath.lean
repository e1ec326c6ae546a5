import AifHandoff.Lib.LexicalPath

/-!
Relative paths, settled by their spelling alone.

Settling drops empty segments and `.`, and lets `..` take back a name. A `..` with no name before
it stays, so a path that leaves its root is told from one that does not.
-/

namespace AifHandoff.LexicalPath

open PathPattern

variable {place : List Name} {segment : Name} {path : List Char}

/-- One step of a relative path. -/
def settle (place : List Name) (segment : Name) : List Name :=
  if segment = [] ∨ segment = dot then place
  else if segment = up ∧ place ≠ [] ∧ place.getLast? ≠ some up then place.dropLast
  else place ++ [segment]

/-- The file a relative path denotes. -/
def settled (path : List Char) : List Name := (segmentsOf path).foldl settle []

/-- The settled form of a path to a file. -/
def spelled (place : List Name) : List Char :=
  if place = [] then dot else ['/'].intercalate place

/-- The path leaves the root. -/
def Leaves (place : List Name) : Prop := place.head? = some up

theorem settle_dot (place : List Name) : settle place dot = place := by
  rw [settle, if_pos (.inr rfl)]

theorem settle_length (place : List Name) (segment : Name) :
    (settle place segment).length ≤ place.length ∨ settle place segment = place ++ [segment] := by
  rw [settle]
  split
  · exact .inl (Nat.le_refl _)
  · split
    · exact .inl (by rw [List.length_dropLast]; exact Nat.sub_le _ _)
    · exact .inr rfl

theorem foldl_settle_length (place : List Name) (segments : List Name) :
    (segments.foldl settle place).length < place.length + segments.length ∨
      segments.foldl settle place = place ++ segments := by
  induction segments generalizing place with
  | nil => exact .inr (List.append_nil place).symm
  | cons segment rest ih =>
    rw [List.foldl_cons, List.length_cons]
    rcases settle_length place segment with fewer | added
    · left
      rcases ih (settle place segment) with less | all
      · omega
      · rw [all, List.length_append]
        omega
    · rw [added]
      rcases ih (place ++ [segment]) with less | all
      · rw [List.length_append, List.length_singleton] at less
        exact .inl (by omega)
      · exact .inr (by rw [all, List.append_assoc]; rfl)

theorem mem_settled (inside : segment ∈ settled path) :
    segment ∈ segmentsOf path ∧ segment ≠ dot := by
  have all : ∀ (segments place : List Name), ∀ name ∈ segments.foldl settle place,
      name ∈ place ∨ (name ∈ segments ∧ name ≠ dot) := by
    intro segments
    induction segments with
    | nil => exact fun place name member => .inl member
    | cons first rest ih =>
      intro place name member
      rcases ih _ name member with before | ⟨later, notDot⟩
      · rw [settle] at before
        split at before
        · exact .inl before
        · rename_i kept
          split at before
          · exact .inl (List.mem_of_mem_dropLast before)
          · rcases List.mem_append.mp before with member | same
            · exact .inl member
            · rw [List.mem_singleton.mp same]
              exact .inr ⟨List.mem_cons_self, fun isDot => kept (.inr isDot)⟩
      · exact .inr ⟨List.mem_cons_of_mem _ later, notDot⟩
  exact (all _ _ segment inside).resolve_left List.not_mem_nil

theorem settled_append (front rest : List Char) :
    settled (front ++ '/' :: rest) = (segmentsOf rest).foldl settle (settled front) := by
  rw [settled, segmentsOf_append, List.foldl_append]
  rfl

theorem settled_concat_dot (path : List Char) : settled (path ++ '/' :: dot) = settled path := by
  have single : segmentsOf dot = [dot] := by decide
  rw [settled_append, single, List.foldl_cons, settle_dot]
  rfl

/-- A name and the step back change nothing. -/
theorem settled_cancel {front : List Char} (back : settled front = []) (path : List Char) :
    settled (front ++ '/' :: path) = settled path := by
  rw [settled_append, back]
  rfl

theorem length_segmentsOf (path : List Char) :
    (segmentsOf path).length = path.count '/' + 1 := by
  induction path with
  | nil => rfl
  | cons c rest ih =>
    by_cases slash : c = '/'
    · subst slash
      have split := segmentsOf_append [] rest
      rw [List.nil_append] at split
      rw [split, List.length_append, ih, List.count_cons_self]
      exact Nat.add_comm _ _
    · rw [List.count_cons_of_ne slash, ← ih, segmentsOf, segmentsOf,
        List.splitOn_cons_eq_if_modifyHead, if_neg (by simpa using slash), List.length_modifyHead]

theorem segmentsOf_spelled (some_ : settled path ≠ []) :
    segmentsOf (spelled (settled path)) = settled path := by
  rw [spelled, if_neg some_]
  exact segmentsOf_intercalate (fun name inside => slash_not_mem (mem_settled inside).1) some_

theorem spelled_settled_plain (path : List Char) :
    ¬ ∃ rest, spelled (settled path) = '.' :: '/' :: rest := by
  rintro ⟨rest, starts⟩
  by_cases none_ : settled path = []
  · rw [none_] at starts
    cases starts
  · have segments := segmentsOf_spelled none_
    rw [starts] at segments
    have first : dot ∈ segmentsOf ('.' :: '/' :: rest) := by
      have split := segmentsOf_append dot rest
      rw [show dot ++ '/' :: rest = '.' :: '/' :: rest from rfl] at split
      rw [split]
      exact List.mem_append_left _ (by decide)
    rw [segments] at first
    exact (mem_settled first).2 rfl

/-- A path with as many slashes as its settled form is in settled form, or has no slash and
denotes the root. -/
theorem settled_count (same : (spelled (settled path)).count '/' = path.count '/') :
    spelled (settled path) = path ∨ (settled path = [] ∧ '/' ∉ path) := by
  by_cases none_ : settled path = []
  · right
    rw [none_, spelled, if_pos rfl] at same
    exact ⟨none_, List.count_eq_zero.mp same.symm⟩
  · left
    have lengths : (settled path).length = (segmentsOf path).length := by
      rw [← segmentsOf_spelled none_, length_segmentsOf, length_segmentsOf, same]
    rcases foldl_settle_length [] (segmentsOf path) with less | all
    · rw [← settled, List.length_nil, Nat.zero_add] at less
      omega
    · rw [spelled, if_neg none_, settled, all, List.nil_append]
      exact intercalate_segmentsOf path

theorem root_of_no_slash (root : settled path = []) (plain : '/' ∉ path) :
    path = [] ∨ path = dot := by
  have single : segmentsOf path = [path] := by
    have count := length_segmentsOf path
    rw [List.count_eq_zero.mpr plain, Nat.zero_add] at count
    obtain ⟨segment, only⟩ := List.length_eq_one_iff.mp count
    have whole := intercalate_segmentsOf path
    rw [only, List.intercalate_singleton] at whole
    rw [only, whole]
  rw [settled, single, List.foldl_cons, List.foldl_nil, settle] at root
  split at root
  · assumption
  · split at root
    · rename_i back
      exact absurd rfl back.2.1
    · cases root

end AifHandoff.LexicalPath
