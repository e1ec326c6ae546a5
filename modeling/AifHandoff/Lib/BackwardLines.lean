import Mathlib.Algebra.NeZero
import AifHandoff.Lib.Text
import AifHandoff.Lib.Utf8

/-!
The lines of a text, read from its end in blocks of bytes.

A block is decoded by itself, and the part before its first line feed waits for the block in
front of it. What is read are the lines of the text that the blocks show.
-/

namespace AifHandoff.BackwardLines

open Text

/-! ### Lines -/

/-- What a line holds, whether or not a carriage return ends it. -/
structure LineReader (α : Type) where
  entry : String → Option α
  entry_dropReturn (line : String) : entry (dropReturn line) = entry line
  entry_empty : entry "" = none

section Entries

variable {α : Type} (reader : LineReader α)

def entries (text : String) : List α := (splitLines text).filterMap reader.entry

theorem filterMap_splitLines (lines : List String) :
    (lines.dropLast.map dropReturn ++ lines.getLast?.toList).filterMap reader.entry =
      lines.filterMap reader.entry := by
  have kept (lines : List String) :
      (lines.map dropReturn).filterMap reader.entry = lines.filterMap reader.entry := by
    rw [List.filterMap_map]
    exact congrArg (lines.filterMap ·) (funext reader.entry_dropReturn)
  rw [List.filterMap_append, kept, ← List.filterMap_append]
  cases lines with
  | nil => rfl
  | cons line lines =>
    rw [List.getLast?_eq_some_getLast (List.cons_ne_nil line lines), Option.toList_some,
      List.dropLast_append_getLast]

theorem entries_eq (text : String) : entries reader text =
    (split text '\n').filterMap reader.entry :=
  filterMap_splitLines reader (split text '\n')

theorem splitOnP_cases (sep : Char → Bool) (cs : List Char) :
    (∀ c ∈ cs, sep c = false) ∨
      ∃ line c rest, cs = line ++ c :: rest ∧ (∀ d ∈ line, sep d = false) ∧ sep c = true := by
  induction cs with
  | nil => exact .inl (List.forall_mem_nil _)
  | cons c cs ih =>
    cases separates : sep c with
    | true => exact .inr ⟨[], c, cs, rfl, List.forall_mem_nil _, separates⟩
    | false =>
      rcases ih with single | ⟨line, d, rest, rfl, none_, ends⟩
      · exact .inl (List.forall_mem_cons.mpr ⟨separates, single⟩)
      · exact .inr ⟨c :: line, d, rest, rfl, List.forall_mem_cons.mpr ⟨separates, none_⟩, ends⟩

theorem splitOnP_append (sep : Char → Bool) (front cs : List Char) : ∃ line lines,
    cs.splitOnP sep = line :: lines ∧ (∀ c ∈ line, sep c = false) ∧
      (front ++ cs).splitOnP sep = (front ++ line).splitOnP sep ++ lines := by
  rcases splitOnP_cases sep cs with single | ⟨line, c, rest, rfl, none_, ends⟩
  · exact ⟨cs, [], List.splitOnP_eq_singleton single, single, (List.append_nil _).symm⟩
  · refine ⟨line, rest.splitOnP sep, ?_, none_, ?_⟩
    · rw [List.splitOnP_append_cons _ _ ends, List.splitOnP_eq_singleton none_]
      rfl
    · rw [← List.append_assoc, List.splitOnP_append_cons _ _ ends]

/-- What stands behind a text without a separator goes on with its last line. -/
theorem exists_splitOnP_append (sep : Char → Bool) (front : List Char) : ∃ lines last,
    ∀ cs : List Char, (∀ c ∈ cs, sep c = false) →
      (front ++ cs).splitOnP sep = lines ++ [last ++ cs] := by
  induction front with
  | nil => exact ⟨[], [], fun cs none_ => List.splitOnP_eq_singleton none_⟩
  | cons c front ih =>
    obtain ⟨lines, last, split⟩ := ih
    cases separates : sep c with
    | true =>
      refine ⟨[] :: lines, last, fun cs none_ => ?_⟩
      rw [List.cons_append, List.splitOnP_cons_eq_if_modifyHead, if_pos separates,
        split cs none_]
      rfl
    | false =>
      cases lines with
      | nil =>
        refine ⟨[], c :: last, fun cs none_ => ?_⟩
        rw [List.cons_append, List.splitOnP_cons_eq_if_modifyHead,
          if_neg (ne_true_of_eq_false separates), split cs none_]
        rfl
      | cons line lines =>
        refine ⟨(c :: line) :: lines, last, fun cs none_ => ?_⟩
        rw [List.cons_append, List.splitOnP_cons_eq_if_modifyHead,
          if_neg (ne_true_of_eq_false separates), split cs none_]
        rfl

theorem dropReturn_eq (line : String) :
    dropReturn line = line ∨ line = dropReturn line ++ "\r" := by
  rw [dropReturn]
  split
  · rename_i ends
    obtain ⟨front, same⟩ := List.isSuffixOf_iff_suffix.mp ends
    right
    apply String.toList_injective
    have one : "\r".toList = ['\r'] := by decide
    rw [one] at same
    rw [String.toList_append, String.toList_ofList, one, ← same, List.dropLast_concat]
  · exact .inl rfl

theorem dropReturn_append_return (line : String) : dropReturn (line ++ "\r") = line := by
  have one : "\r".toList = ['\r'] := by decide
  have ends : endsWith (line ++ "\r") "\r" = true := by
    rw [endsWith, String.toList_append]
    exact List.isSuffixOf_iff_suffix.mpr (List.suffix_append _ _)
  rw [dropReturn, if_pos ends, String.toList_append, one, List.dropLast_concat,
    String.ofList_toList]

/-- A carriage return at the end of a line is nothing to what the line holds, whatever stands in
front. -/
theorem entry_append_dropReturn (front line : String) :
    reader.entry (front ++ dropReturn line) = reader.entry (front ++ line) := by
  rcases dropReturn_eq line with same | same
  · rw [same]
  · conv_rhs => rw [same, ← String.append_assoc, ← reader.entry_dropReturn,
      dropReturn_append_return]

theorem entries_append_dropReturn (front : String) {line : String} (one : '\n' ∉ line.toList) :
    entries reader (front ++ dropReturn line) = entries reader (front ++ line) := by
  obtain ⟨lines, last, split_⟩ := exists_splitOnP_append (· == '\n') front.toList
  have whole {text : String} (one : '\n' ∉ text.toList) : entries reader (front ++ text) =
      (lines.map String.ofList).filterMap reader.entry ++
        [String.ofList last ++ text].filterMap reader.entry := by
    have none_ : ∀ c ∈ text.toList, (c == '\n') = false := fun c inside => by
      rw [beq_eq_false_iff_ne]
      rintro rfl
      exact one inside
    have glued : String.ofList (last ++ text.toList) = String.ofList last ++ text := by
      rw [String.ofList_append, String.ofList_toList]
    rw [entries_eq, split, String.toList_append, split_ text.toList none_, List.map_append,
      List.filterMap_append, List.map_cons, List.map_nil, glued]
  have dropped : '\n' ∉ (dropReturn line).toList := by
    rcases dropReturn_eq line with same | same
    · rwa [same]
    · rw [same, String.toList_append, List.mem_append, not_or] at one
      exact one.1
  rw [whole one, whole dropped, List.filterMap_cons, List.filterMap_cons,
    entry_append_dropReturn]

/-- The entries of a text with more in front of it. -/
theorem entries_append (front text : String) : ∃ line lines,
    splitLines text = line :: lines ∧ '\n' ∉ line.toList ∧
      entries reader (front ++ text) =
        entries reader (front ++ line) ++ lines.filterMap reader.entry := by
  obtain ⟨line, lines, parts, none_, whole⟩ :=
    splitOnP_append (· == '\n') front.toList text.toList
  have one : '\n' ∉ (String.ofList line).toList := by
    rw [String.toList_ofList]
    intro inside
    exact absurd (none_ _ inside) (by simp)
  have all : entries reader (front ++ text) = entries reader (front ++ String.ofList line) ++
      (lines.map String.ofList).filterMap reader.entry := by
    rw [entries_eq, entries_eq, split, String.toList_append, whole, List.map_append,
      List.filterMap_append, split, String.toList_append, String.toList_ofList]
  cases lines with
  | nil =>
    refine ⟨String.ofList line, [], ?_, one, ?_⟩
    · rw [splitLines, split, parts]
      rfl
    · rw [all]
      rfl
  | cons next lines =>
    refine ⟨dropReturn (String.ofList line),
      ((next :: lines).map String.ofList).dropLast.map dropReturn ++
        ((next :: lines).map String.ofList).getLast?.toList, ?_, ?_, ?_⟩
    · rw [splitLines, split, parts]
      rfl
    · rcases dropReturn_eq (String.ofList line) with same | same
      · rwa [same]
      · rw [same, String.toList_append, List.mem_append, not_or] at one
        exact one.1
    · rw [all, entries_append_dropReturn reader front one, filterMap_splitLines]

end Entries

/-! ### Blocks -/

section Blocks

variable (block : Nat) [NeZero block]

/-- Where so many bytes are cut, in blocks from their end. -/
def cuts (position : Nat) : List Nat :=
  if h : position = 0 then [] else
    have : position - block < position :=
      Nat.sub_lt (Nat.pos_of_ne_zero h) (Nat.pos_of_neZero block)
    cuts (position - block) ++ [position]

/-- The text that the blocks show. -/
def shownText (bytes : List Nat) (position : Nat) : List Char :=
  Utf8.chunksText bytes 0 (cuts block position)

/-- The lines up to a position, the last one first, with a part of a line behind them. -/
def readBackwards (bytes : List Nat) (position : Nat) (leadingPartial : String) : List String :=
  if h : position = 0 then if leadingPartial = "" then [] else [leadingPartial]
  else
    have : position - block < position :=
      Nat.sub_lt (Nat.pos_of_ne_zero h) (Nat.pos_of_neZero block)
    let start := position - block
    let chunk := String.ofList (Utf8.decode ((bytes.take position).drop start))
    let parts := splitLines (chunk ++ leadingPartial)
    parts.tail.reverse ++ readBackwards bytes start (parts.headD "")

variable {block}

theorem cuts_zero : cuts block 0 = [] := by
  rw [cuts, dif_pos rfl]

theorem cuts_of_ne_zero {position : Nat} (some_ : position ≠ 0) :
    cuts block position = cuts block (position - block) ++ [position] := by
  rw [cuts, dif_neg some_]

theorem getLastD_cuts (position : Nat) : (cuts block position).getLastD 0 = position := by
  by_cases none_ : position = 0
  · rw [none_, cuts_zero]
    rfl
  · rw [cuts_of_ne_zero none_, List.getLastD_concat]

theorem chunks_concat (bytes : List Nat) (offset size : Nat) (sizes : List Nat) :
    Utf8.chunks bytes offset (sizes ++ [size]) =
      Utf8.chunks bytes offset sizes ++ [(bytes.take size).drop (sizes.getLastD offset)] := by
  induction sizes generalizing offset with
  | nil => rfl
  | cons first sizes ih =>
    rw [List.cons_append, Utf8.chunks, ih, Utf8.chunks, List.getLastD_cons, List.cons_append]

theorem shownText_zero (bytes : List Nat) : shownText block bytes 0 = [] := by
  rw [shownText, cuts_zero]
  rfl

theorem shownText_of_ne_zero (bytes : List Nat) {position : Nat} (some_ : position ≠ 0) :
    shownText block bytes position = shownText block bytes (position - block) ++
      Utf8.decode ((bytes.take position).drop (position - block)) := by
  rw [shownText, cuts_of_ne_zero some_, Utf8.chunksText, chunks_concat, List.flatMap_append,
    getLastD_cuts]
  simp [shownText, Utf8.chunksText]

variable {α : Type} (reader : LineReader α)

/-- What is read from the end are the entries of the shown text, the last one first. -/
theorem filterMap_readBackwards (bytes : List Nat) (position : Nat) (leadingPartial : String)
    (one : '\n' ∉ leadingPartial.toList) :
    (readBackwards block bytes position leadingPartial).filterMap reader.entry =
      (entries reader
        (String.ofList (shownText block bytes position) ++ leadingPartial)).reverse := by
  induction position using Nat.strongRecOn generalizing leadingPartial with
  | ind position ih =>
    rw [readBackwards]
    by_cases none_ : position = 0
    · rw [dif_pos none_, none_, shownText_zero, String.ofList_nil, String.empty_append]
      have single : entries reader leadingPartial = [leadingPartial].filterMap reader.entry := by
        rw [entries_eq, split, List.splitOnP_eq_singleton, List.map_cons, List.map_nil,
          String.ofList_toList]
        intro c inside
        rw [beq_eq_false_iff_ne]
        rintro rfl
        exact one inside
      rw [single]
      split
      · rename_i empty
        rw [empty, List.filterMap_cons, reader.entry_empty]
        rfl
      · cases held : reader.entry leadingPartial <;> simp [held]
    · rw [dif_neg none_]
      have below : position - block < position :=
        Nat.sub_lt (Nat.pos_of_ne_zero none_) (Nat.pos_of_neZero block)
      obtain ⟨line, lines, parts, oneLine, whole⟩ := entries_append reader
        (String.ofList (shownText block bytes (position - block)))
        (String.ofList (Utf8.decode ((bytes.take position).drop (position - block))) ++
          leadingPartial)
      dsimp only
      rw [parts, List.tail_cons, List.headD_cons, List.filterMap_append,
        ih (position - block) below line oneLine, shownText_of_ne_zero bytes none_,
        String.ofList_append, String.append_assoc, whole, List.reverse_append,
        List.filterMap_reverse]

end Blocks

end AifHandoff.BackwardLines
