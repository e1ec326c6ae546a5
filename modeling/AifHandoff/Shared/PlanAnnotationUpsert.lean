import AifHandoff.Shared.PlanAnnotations
import Mathlib.Data.List.Count

/-!
A task annotation inserted into a plan that may have annotations already.

What is removed may leave fragments that together are an annotation again, an annotation
in upper case is removed as well, and behind a heading in the last line the annotation is
not yet followed by the line feed that the next removal takes with it.
-/

namespace AifHandoff.Shared

open Regex

/-- The ids that are parsed, in order. -/
def taskIds (markdown : String) : List String := (parsePlanAnnotations markdown).map (·.taskId)

/-- The lines without the annotations of the task. -/
def cleanedLines (markdown : String) (taskId : TaskId) : List String :=
  Text.split (cleaned markdown taskId) '\n'

/-- The number of lines in front of the new annotation. -/
def newLine (markdown : String) (taskId : TaskId) (sectionHeading : Option String) : Nat :=
  insertionPoint sectionHeading (cleanedLines markdown taskId)

/-- The text in front of the new line. -/
def textBefore (markdown : String) (taskId : TaskId) (sectionHeading : Option String) : List Char :=
  ((cleanedLines markdown taskId).take (newLine markdown taskId sectionHeading)).flatMap
    fun line => line.toList ++ ['\n']

/-- The text behind it. -/
def textBehind (markdown : String) (taskId : TaskId) (sectionHeading : Option String) : List Char :=
  (Text.join "\n" ((cleanedLines markdown taskId).drop
    (newLine markdown taskId sectionHeading))).toList

/-- The pieces of the plan between the annotations of the task. -/
def pieces (markdown : String) (taskId : TaskId) : List (List Char) :=
  annotationMarks.cut (namesTask taskId) markdown.toList

/-- What a plan, a task and a heading must be like. -/
structure Upserts (markdown : String) (taskId : TaskId) (sectionHeading : Option String) : Prop where
  /-- No annotation of the task is written in upper case. -/
  lowerCase : ∀ other ∈ taskIds markdown, namesTask taskId other.toList = true → other = taskId.text
  /-- The joined pieces have the annotations of the single pieces, on one line each. -/
  apart : annotationMarks.inLine.marks (pieces markdown taskId).flatten =
    (pieces markdown taskId).flatMap annotationMarks.inLine.marks
  /-- Neither what stands in front nor what stands behind has an annotation of the task. -/
  before : ∀ id ∈ annotationMarks.marks (textBefore markdown taskId sectionHeading),
    namesTask taskId id = false
  behind : ∀ id ∈ annotationMarks.marks (textBehind markdown taskId sectionHeading),
    namesTask taskId id = false
  /-- The heading is not the last line. -/
  notLast : newLine markdown taskId sectionHeading < (cleanedLines markdown taskId).length

/-! ### Lines -/

section Lines

variable {ls : List (List Char)}

theorem join_toList (lines : List String) :
    (Text.join "\n" lines).toList = ['\n'].intercalate (lines.map String.toList) := by
  rw [Text.join, String.toList_intercalate]
  rfl

theorem intercalate_append_cons (front : List (List Char)) (l : List Char) (back : List (List Char)) :
    ['\n'].intercalate (front ++ l :: back) =
      front.flatMap (· ++ ['\n']) ++ ['\n'].intercalate (l :: back) := by
  induction front with
  | nil => rfl
  | cons first front ih =>
    rw [List.cons_append, List.flatMap_cons, List.append_assoc, ← ih]
    cases front with
    | nil => simp [List.intercalate]
    | cons next front => simp [List.intercalate]

theorem intercalate_cons_cons (l next : List Char) (back : List (List Char)) :
    ['\n'].intercalate (l :: next :: back) = l ++ '\n' :: ['\n'].intercalate (next :: back) := by
  simp [List.intercalate]

theorem not_mem_of_mem_splitOn {a : Char} {cs part : List Char} (inside : part ∈ cs.splitOn a) :
    a ∉ part := by
  induction cs generalizing part with
  | nil =>
    rw [List.splitOn_nil, List.mem_singleton] at inside
    rw [inside]
    exact List.not_mem_nil
  | cons c cs ih =>
    rw [List.splitOn_cons_eq_if_modifyHead] at inside
    split at inside
    · rcases List.mem_cons.mp inside with rfl | later
      · exact List.not_mem_nil
      · exact ih later
    next other =>
      cases split_ : cs.splitOn a with
      | nil => exact absurd split_ (List.splitOn_ne_nil a cs)
      | cons first later =>
        rw [split_] at inside ih
        rcases List.mem_cons.mp inside with rfl | among
        · rw [List.mem_cons, not_or]
          refine ⟨fun same => other (by simp [same]), ih List.mem_cons_self⟩
        · exact ih (List.mem_cons_of_mem _ among)

theorem not_newline_of_mem_split {text : String} {line : String}
    (inside : line ∈ Text.split text '\n') : '\n' ∉ line.toList := by
  rw [Text.split, List.mem_map] at inside
  obtain ⟨cs, among, rfl⟩ := inside
  rw [String.toList_ofList]
  rw [← List.splitOn_eq_splitOnP] at among
  exact not_mem_of_mem_splitOn among

theorem split_ne_nil (text : String) : Text.split text '\n' ≠ [] := by
  rw [Text.split, ne_eq, List.map_eq_nil_iff]
  exact List.splitOnP_ne_nil _ _

theorem join_split (text : String) : Text.join "\n" (Text.split text '\n') = text := by
  rw [← String.toList_inj, join_toList, Text.split, List.map_map, ← List.splitOn_eq_splitOnP]
  have same : String.toList ∘ String.ofList = id := funext fun cs => String.toList_ofList
  rw [same, List.map_id, List.intercalate_splitOn]

/-- The ids of a joined text are those of its lines. -/
theorem marks_join {lines : List String} (filled : lines ≠ [])
    (oneLine : ∀ line ∈ lines, '\n' ∉ line.toList) :
    annotationMarks.inLine.marks (Text.join "\n" lines).toList =
      lines.flatMap fun line => annotationMarks.marks line.toList := by
  have chars : (['\n'].intercalate (lines.map String.toList)).splitOn '\n' =
      lines.map String.toList :=
    List.splitOn_intercalate '\n' (by simpa using oneLine) (by simpa using filled)
  rw [← Marks.flatMap_lines_marks, join_toList, chars, List.flatMap_map]

end Lines

/-! ### The new annotation -/

section Insertion

variable (markdown : String) (taskId : TaskId) (sectionHeading : Option String)

theorem toList_annotationText : (annotationText taskId).toList =
    annotationWith taskId.text.toList [' '] annotationTag.toList [' '] [] := by
  rw [annotationText, String.toList_append, String.toList_append, String.toList_append, annotationWith]
  have opening : "<!-- ".toList = commentOpen ++ [' '] := by decide
  have closing : " -->".toList = ' ' :: commentClose := by decide
  rw [opening, closing]
  simp

theorem isAnnotation_new :
    IsAnnotation taskId.text.toList [' '] annotationTag.toList [' '] where
  blank := by simp [Text.isSpace]
  spelled := startsFold_self _
  tagLength := rfl
  fits := taskId.fits
  idLength := taskId.length
  blank' := by simp [Text.isSpace]

theorem read_new (rest : List Char) :
    annotationMarks.read ((annotationText taskId).toList ++ rest) = some (taskId.text.toList, rest) := by
  have whole : (annotationText taskId).toList ++ rest =
      annotationWith taskId.text.toList [' '] annotationTag.toList [' '] rest := by
    rw [toList_annotationText]
    simp [annotationWith]
  rw [whole]
  exact readAnnotation_with (isAnnotation_new taskId) rest

theorem namesTask_self : namesTask taskId taskId.text.toList = true := startsFold_self _

theorem marks_new : annotationMarks.marks (annotationText taskId).toList = [taskId.text.toList] := by
  have read := read_new taskId []
  rw [List.append_nil] at read
  rw [Marks.marks_of_read read, Marks.marks_nil]

theorem new_starts : ∃ body, (annotationText taskId).toList = '<' :: body := by
  rw [toList_annotationText]
  exact ⟨_, annotationWith_eq _ _ _ _ _⟩

theorem not_newline_new : '\n' ∉ (annotationText taskId).toList := by
  have named : '\n' ∉ taskId.text.toList :=
    not_mem_of_fits (by decide) taskId.fits (taskId.length.trans length_uuidClasses.symm)
  have opens : '\n' ∉ commentOpen := by decide
  have tagged : '\n' ∉ annotationTag.toList := by decide
  have closes : '\n' ∉ commentClose := by decide
  rw [toList_annotationText, annotationWith]
  simp only [List.mem_append, not_or]
  exact ⟨opens, by decide, tagged, named, by decide, closes, List.not_mem_nil⟩

/-- The plan with the new annotation, in lines. -/
def newLines : List String :=
  (cleanedLines markdown taskId).take (newLine markdown taskId sectionHeading) ++
    annotationText taskId :: (cleanedLines markdown taskId).drop (newLine markdown taskId sectionHeading)

theorem insert_eq : insertPlanAnnotation markdown taskId sectionHeading =
    Text.join "\n" (newLines markdown taskId sectionHeading) := rfl

theorem newLines_oneLine :
    ∀ line ∈ newLines markdown taskId sectionHeading, '\n' ∉ line.toList := by
  have old : ∀ line ∈ cleanedLines markdown taskId, '\n' ∉ line.toList :=
    fun line inside => not_newline_of_mem_split inside
  intro line inside
  rcases List.mem_append.mp inside with front | rest
  · exact old line (List.mem_of_mem_take front)
  rcases List.mem_cons.mp rest with rfl | back
  · exact not_newline_new taskId
  · exact old line (List.mem_of_mem_drop back)

theorem newLines_ne_nil : newLines markdown taskId sectionHeading ≠ [] := by
  rw [newLines]
  simp

/-- The ids of some lines. -/
def idsOf (lines : List String) : List (List Char) :=
  lines.flatMap fun line => annotationMarks.marks line.toList

theorem taskIds_eq_ofList (text : String) :
    taskIds text = (annotationMarks.inLine.marks text.toList).map String.ofList := taskIds_parse text

theorem taskIds_insert : taskIds ( insertPlanAnnotation markdown taskId sectionHeading) =
    (idsOf ((cleanedLines markdown taskId).take (newLine markdown taskId sectionHeading)) ++
      taskId.text.toList ::
        idsOf ((cleanedLines markdown taskId).drop (newLine markdown taskId sectionHeading))).map
      String.ofList := by
  rw [taskIds_eq_ofList, insert_eq, marks_join (newLines_ne_nil _ _ _) (newLines_oneLine _ _ _),
    newLines, List.flatMap_append, List.flatMap_cons, marks_new]
  rfl

theorem idsOf_cleaned : idsOf (cleanedLines markdown taskId) =
    annotationMarks.inLine.marks (pieces markdown taskId).flatten := by
  have joined : Text.join "\n" (cleanedLines markdown taskId) = cleaned markdown taskId :=
    join_split _
  have whole : annotationMarks.inLine.marks (Text.join "\n" (cleanedLines markdown taskId)).toList =
      idsOf (cleanedLines markdown taskId) :=
    marks_join (split_ne_nil _) fun line inside => not_newline_of_mem_split inside
  rw [joined, toList_cleaned] at whole
  exact whole.symm

theorem marks_textBefore : annotationMarks.inLine.marks (textBefore markdown taskId sectionHeading) =
    idsOf ((cleanedLines markdown taskId).take (newLine markdown taskId sectionHeading)) := by
  have lines (ls : List String) (oneLine : ∀ line ∈ ls, '\n' ∉ line.toList) :
      annotationMarks.inLine.marks (ls.flatMap fun line => line.toList ++ ['\n']) = idsOf ls := by
    induction ls with
    | nil => rw [List.flatMap_nil, Marks.marks_nil]; rfl
    | cons line ls ih =>
      rw [List.forall_mem_cons] at oneLine
      rw [List.flatMap_cons, List.append_assoc, List.singleton_append,
        Marks.marks_line_append oneLine.1, ih oneLine.2, idsOf, idsOf, List.flatMap_cons]
  exact lines _ fun line inside => not_newline_of_mem_split (List.mem_of_mem_take inside)

theorem marks_textBehind
    (notLast : newLine markdown taskId sectionHeading < (cleanedLines markdown taskId).length) :
    annotationMarks.inLine.marks (textBehind markdown taskId sectionHeading) =
      idsOf ((cleanedLines markdown taskId).drop (newLine markdown taskId sectionHeading)) := by
  refine marks_join ?_ fun line inside => not_newline_of_mem_split (List.mem_of_mem_drop inside)
  rw [ne_eq, List.drop_eq_nil_iff]
  omega

theorem mem_marks_of_inLine {cs : List Char} {id : List Char}
    (inside : id ∈ annotationMarks.inLine.marks cs) : id ∈ annotationMarks.marks cs := by
  rw [Marks.marks, List.mem_filterMap] at inside ⊢
  obtain ⟨t, among, read⟩ := inside
  rw [Option.map_eq_some_iff] at read
  obtain ⟨⟨b, rest⟩, read, rfl⟩ := read
  obtain ⟨body, -, found, -⟩ := Marks.read_inLine.mp read
  exact ⟨t, among, by rw [found]; rfl⟩

/-! ### Inserting again -/

theorem flatMap_newline (lines : List String) :
    (lines.map String.toList).flatMap (· ++ ['\n']) = lines.flatMap fun line => line.toList ++ ['\n'] := by
  rw [List.flatMap_map]

theorem toList_insert
    (notLast : newLine markdown taskId sectionHeading < (cleanedLines markdown taskId).length) :
    ( insertPlanAnnotation markdown taskId sectionHeading).toList =
      textBefore markdown taskId sectionHeading ++ ((annotationText taskId).toList ++
        '\n' :: textBehind markdown taskId sectionHeading) := by
  rw [insert_eq, join_toList, newLines, List.map_append, List.map_cons, intercalate_append_cons,
    flatMap_newline, ← textBefore, textBehind, join_toList]
  congr 1
  cases back : (cleanedLines markdown taskId).drop (newLine markdown taskId sectionHeading) with
  | nil =>
    rw [List.drop_eq_nil_iff] at back
    exact absurd notLast (Nat.not_lt.mpr back)
  | cons line rest => rw [List.map_cons, intercalate_cons_cons]

theorem toList_insert_last
    (last : (cleanedLines markdown taskId).length ≤ newLine markdown taskId sectionHeading) :
    ( insertPlanAnnotation markdown taskId sectionHeading).toList =
      textBefore markdown taskId sectionHeading ++ (annotationText taskId).toList := by
  rw [insert_eq, join_toList, newLines, List.map_append, List.map_cons, intercalate_append_cons,
    flatMap_newline, ← textBefore, List.drop_eq_nil_of_le last]
  simp [List.intercalate]

theorem toList_cleaned_lines : (cleaned markdown taskId).toList =
    ['\n'].intercalate ((cleanedLines markdown taskId).map String.toList) := by
  rw [← join_toList]
  exact congrArg String.toList (join_split _).symm

theorem toList_cleaned_eq
    (notLast : newLine markdown taskId sectionHeading < (cleanedLines markdown taskId).length) :
    (cleaned markdown taskId).toList = textBefore markdown taskId sectionHeading ++
      textBehind markdown taskId sectionHeading := by
  rw [toList_cleaned_lines, textBehind, join_toList, textBefore, ← flatMap_newline]
  cases back : (cleanedLines markdown taskId).drop (newLine markdown taskId sectionHeading) with
  | nil =>
    rw [List.drop_eq_nil_iff] at back
    exact absurd notLast (Nat.not_lt.mpr back)
  | cons line rest =>
    rw [List.map_cons, ← intercalate_append_cons, ← List.map_cons, ← List.map_append, ← back,
      List.take_append_drop]

theorem textBefore_last
    (last : (cleanedLines markdown taskId).length ≤ newLine markdown taskId sectionHeading) :
    textBefore markdown taskId sectionHeading = (cleaned markdown taskId).toList ++ ['\n'] := by
  rw [toList_cleaned_lines, textBefore, List.take_of_length_le last, ← flatMap_newline]
  have filled : cleanedLines markdown taskId ≠ [] := split_ne_nil _
  obtain ⟨front, line, lines⟩ := (List.eq_nil_or_concat _).resolve_left filled
  rw [lines, List.concat_eq_append, List.map_append, List.map_singleton, intercalate_append_cons,
    List.flatMap_append]
  simp [List.intercalate]

theorem length_insert : ( insertPlanAnnotation markdown taskId sectionHeading).toList.length =
    (cleaned markdown taskId).toList.length + (annotationText taskId).toList.length + 1 := by
  rcases Nat.lt_or_ge (newLine markdown taskId sectionHeading)
    (cleanedLines markdown taskId).length with notLast | last
  · rw [toList_insert _ _ _ notLast, toList_cleaned_eq _ _ _ notLast]
    simp only [List.length_append, List.length_cons]
    omega
  · rw [toList_insert_last _ _ _ last, textBefore_last _ _ _ last]
    simp only [List.length_append, List.length_cons, List.length_nil]
    omega

/-- An annotation of the task is removed from behind a text, with the line feed after it. -/
theorem erase_append_new (front rest : List Char) :
    annotationMarks.erase (namesTask taskId) (front ++ ((annotationText taskId).toList ++ rest)) =
      annotationMarks.erase (namesTask taskId) front ++
        annotationMarks.erase (namesTask taskId) (Marks.dropNewline rest) := by
  obtain ⟨body, starts⟩ := new_starts taskId
  have visible : annotationMarks.opener ≠ '\n' := by decide
  have removed : annotationMarks.erase (namesTask taskId) ((annotationText taskId).toList ++ rest) =
      annotationMarks.erase (namesTask taskId) (Marks.dropNewline rest) :=
    Marks.erase_of_read (read_new taskId rest) (namesTask_self taskId)
  rw [← removed, starts]
  exact Marks.erase_append_opener visible front (body ++ rest)

theorem cleaned_insert
    (notLast : newLine markdown taskId sectionHeading < (cleanedLines markdown taskId).length) :
    (cleaned ( insertPlanAnnotation markdown taskId sectionHeading) taskId).toList =
      annotationMarks.erase (namesTask taskId) (textBefore markdown taskId sectionHeading) ++
        annotationMarks.erase (namesTask taskId) (textBehind markdown taskId sectionHeading) := by
  rw [toList_cleaned, toList_insert _ _ _ notLast, erase_append_new]
  rfl

theorem cleaned_insert_last
    (last : (cleanedLines markdown taskId).length ≤ newLine markdown taskId sectionHeading) :
    (cleaned ( insertPlanAnnotation markdown taskId sectionHeading) taskId).toList =
      annotationMarks.erase (namesTask taskId) (textBefore markdown taskId sectionHeading) := by
  have appended := erase_append_new taskId (textBefore markdown taskId sectionHeading) []
  rw [List.append_nil] at appended
  have nothing : annotationMarks.erase (namesTask taskId) (Marks.dropNewline []) = [] := Marks.erase_nil
  rw [toList_cleaned, toList_insert_last _ _ _ last, appended, nothing, List.append_nil]

/-- Inserting again changes nothing exactly if no annotation of the task is left in front
or behind, and the heading is not the last line. -/
theorem insert_again_iff :
    insertPlanAnnotation ( insertPlanAnnotation markdown taskId sectionHeading) taskId
        sectionHeading = insertPlanAnnotation markdown taskId sectionHeading ↔
      (∀ id ∈ annotationMarks.marks (textBefore markdown taskId sectionHeading),
          namesTask taskId id = false) ∧
        (∀ id ∈ annotationMarks.marks (textBehind markdown taskId sectionHeading),
          namesTask taskId id = false) ∧
        newLine markdown taskId sectionHeading < (cleanedLines markdown taskId).length := by
  have long : ∀ cs id rest, annotationMarks.read cs = some (id, rest) → rest.length + 2 ≤ cs.length :=
    fun _ _ _ => annotation_long
  have front := Marks.erase_cases (p := namesTask taskId) long
    (textBefore markdown taskId sectionHeading)
  have back := Marks.erase_cases (p := namesTask taskId) long
    (textBehind markdown taskId sectionHeading)
  constructor
  · intro again
    have lengths := length_insert ( insertPlanAnnotation markdown taskId sectionHeading) taskId
      sectionHeading
    rw [again, length_insert] at lengths
    rcases Nat.lt_or_ge (newLine markdown taskId sectionHeading)
      (cleanedLines markdown taskId).length with notLast | last
    · rw [cleaned_insert _ _ _ notLast, toList_cleaned_eq _ _ _ notLast, List.length_append,
        List.length_append] at lengths
      rcases front with ⟨noneFront, sameFront⟩ | ⟨-, lessFront⟩
      · rcases back with ⟨noneBack, -⟩ | ⟨-, lessBack⟩
        · exact ⟨noneFront, noneBack, notLast⟩
        · rw [sameFront] at lengths
          omega
      · rcases back with ⟨-, sameBack⟩ | ⟨-, lessBack⟩
        · rw [sameBack] at lengths
          omega
        · omega
    · exfalso
      rw [cleaned_insert_last _ _ _ last] at lengths
      have one := congrArg List.length (textBefore_last _ _ _ last)
      rw [List.length_append, List.length_singleton] at one
      rcases front with ⟨-, sameFront⟩ | ⟨-, lessFront⟩
      · rw [sameFront] at lengths
        omega
      · omega
  · rintro ⟨noneFront, noneBack, notLast⟩
    have sameFront := front.resolve_right fun some_ => some_.1 noneFront
    have sameBack := back.resolve_right fun some_ => some_.1 noneBack
    have again := cleaned_insert _ _ _ notLast
    rw [sameFront.2, sameBack.2, ← toList_cleaned_eq _ _ _ notLast, String.toList_inj] at again
    rw [ insertPlanAnnotation, again]
    rfl

/-! ### Exactly when it is an upsert -/

/-- The ids in front of the new annotation and behind it are those of the joined pieces. -/
theorem marks_around
    (notLast : newLine markdown taskId sectionHeading < (cleanedLines markdown taskId).length) :
    annotationMarks.inLine.marks (textBefore markdown taskId sectionHeading) ++
        annotationMarks.inLine.marks (textBehind markdown taskId sectionHeading) =
      annotationMarks.inLine.marks (pieces markdown taskId).flatten := by
  rw [marks_textBefore, marks_textBehind _ _ _ notLast, ← idsOf_cleaned, idsOf, idsOf, idsOf,
    ← List.flatMap_append, List.take_append_drop]

theorem ofList_ne_iff {id : List Char} :
    (String.ofList id != taskId.text) = (id != taskId.text.toList) := by
  rw [Bool.eq_iff_iff, bne_iff_ne, bne_iff_ne, ne_eq, ne_eq, ← String.toList_inj, String.toList_ofList]

theorem filter_map_ofList (ids : List (List Char)) :
    (ids.map String.ofList).filter (· != taskId.text) =
      (ids.filter (· != taskId.text.toList)).map String.ofList := by
  rw [List.filter_map]
  congr 1
  exact List.filter_congr fun id _ => ofList_ne_iff taskId

theorem ofList_injective : Function.Injective String.ofList :=
  fun a b same => by rw [← String.toList_ofList (l := a), same, String.toList_ofList]

variable {taskId} in
theorem ne_of_not_named {id : List Char} (other : namesTask taskId id = false) :
    id ≠ taskId.text.toList := by
  rintro rfl
  rw [namesTask_self] at other
  cases other

theorem filter_around {front back : List (List Char)}
    (others : ∀ id ∈ front ++ back, namesTask taskId id = false) :
    ((front ++ taskId.text.toList :: back).map String.ofList).count taskId.text = 1 ∧
      ((front ++ taskId.text.toList :: back).map String.ofList).filter (· != taskId.text) =
        (front ++ back).map String.ofList := by
  have none_ (ids : List (List Char)) (inside : ∀ id ∈ ids, id ∈ front ++ back) :
      ids.count taskId.text.toList = 0 ∧ ids.filter (· != taskId.text.toList) = ids := by
    refine ⟨List.count_eq_zero.mpr fun named => ?_, List.filter_eq_self.mpr fun id named => ?_⟩
    · exact ne_of_not_named (others _ (inside _ named)) rfl
    · exact bne_iff_ne.mpr (ne_of_not_named (others _ (inside _ named)))
  have inFront := none_ front fun id => List.mem_append_left back
  have inBack := none_ back fun id => List.mem_append_right front
  constructor
  · have counted := List.count_map_of_injective (front ++ taskId.text.toList :: back) String.ofList
      ofList_injective taskId.text.toList
    rw [String.ofList_toList] at counted
    rw [counted, List.count_append, List.count_cons_self, inFront.1, inBack.1]
  · rw [filter_map_ofList, List.filter_append, List.filter_cons_of_neg (by simp), inFront.2, inBack.2]

theorem filter_taskIds : (taskIds markdown).filter (· != taskId.text) =
    ((annotationMarks.inLine.marks markdown.toList).filter (· != taskId.text.toList)).map
      String.ofList := by
  rw [taskIds_eq_ofList, filter_map_ofList]

theorem filter_named
    (lowerCase : ∀ other ∈ taskIds markdown, namesTask taskId other.toList = true →
      other = taskId.text) :
    (annotationMarks.inLine.marks markdown.toList).filter (!namesTask taskId ·) =
      (annotationMarks.inLine.marks markdown.toList).filter (· != taskId.text.toList) := by
  refine List.filter_congr fun id inside => ?_
  cases named : namesTask taskId id with
  | false =>
    rw [Bool.not_false]
    exact (bne_iff_ne.mpr (ne_of_not_named named)).symm
  | true =>
    have parsed : String.ofList id ∈ taskIds markdown := by
      rw [taskIds_eq_ofList]
      exact List.mem_map_of_mem inside
    have same := lowerCase _ parsed (by rwa [String.toList_ofList])
    rw [Bool.not_true, ← ofList_ne_iff, same, bne_self_eq_false]

theorem insertPlanAnnotation_upsert_iff :
    ((taskIds ( insertPlanAnnotation markdown taskId sectionHeading)).count taskId.text = 1 ∧
      (taskIds ( insertPlanAnnotation markdown taskId sectionHeading)).filter (· != taskId.text) =
        (taskIds markdown).filter (· != taskId.text) ∧
      insertPlanAnnotation ( insertPlanAnnotation markdown taskId sectionHeading) taskId
        sectionHeading = insertPlanAnnotation markdown taskId sectionHeading) ↔
      Upserts markdown taskId sectionHeading := by
  -- The ids of the new plan, where the heading is not in the last line.
  have inserted (notLast : newLine markdown taskId sectionHeading <
      (cleanedLines markdown taskId).length) :=
    marks_textBehind markdown taskId sectionHeading notLast ▸
      marks_textBefore markdown taskId sectionHeading ▸ taskIds_insert markdown taskId sectionHeading
  have others (before : ∀ id ∈ annotationMarks.marks (textBefore markdown taskId sectionHeading),
        namesTask taskId id = false)
      (behind : ∀ id ∈ annotationMarks.marks (textBehind markdown taskId sectionHeading),
        namesTask taskId id = false) :
      ∀ id ∈ annotationMarks.inLine.marks (textBefore markdown taskId sectionHeading) ++
        annotationMarks.inLine.marks (textBehind markdown taskId sectionHeading),
        namesTask taskId id = false := by
    intro id inside
    rcases List.mem_append.mp inside with front | back
    · exact before id (mem_marks_of_inLine front)
    · exact behind id (mem_marks_of_inLine back)
  rw [insert_again_iff]
  constructor
  · rintro ⟨-, kept, before, behind, notLast⟩
    have around := filter_around taskId (others before behind)
    rw [inserted notLast, around.2, filter_taskIds] at kept
    have kept := List.map_injective_iff.mpr ofList_injective kept
    have lowerCase : ∀ other ∈ taskIds markdown, namesTask taskId other.toList = true →
        other = taskId.text := by
      intro other inside named
      by_contra different
      rw [taskIds_eq_ofList, List.mem_map] at inside
      obtain ⟨id, among, rfl⟩ := inside
      rw [String.toList_ofList] at named
      have stays : id ∈ (annotationMarks.inLine.marks markdown.toList).filter
          (· != taskId.text.toList) := by
        rw [List.mem_filter, ← ofList_ne_iff]
        exact ⟨among, bne_iff_ne.mpr different⟩
      rw [← kept] at stays
      rw [others before behind id stays] at named
      cases named
    refine ⟨lowerCase, ?_, before, behind, notLast⟩
    rw [← marks_around _ _ _ notLast, kept, pieces, Marks.flatMap_marks_cut, filter_named _ _ lowerCase]
  · rintro ⟨lowerCase, apart, before, behind, notLast⟩
    have around := filter_around taskId (others before behind)
    refine ⟨?_, ?_, before, behind, notLast⟩
    · rw [inserted notLast]
      exact around.1
    · rw [inserted notLast, around.2, filter_taskIds, marks_around _ _ _ notLast, apart, pieces,
        Marks.flatMap_marks_cut, filter_named _ _ lowerCase]

end Insertion

/-- The id of a task. -/
def someTaskId : TaskId where
  text := "0b7f3c2a-58d1-4e6f-9a34-c1d2e3f4a5b6"
  fits := by decide
  lower := by decide
  length := by decide

/-- Behind a heading in the last line, the second annotation is followed by a line feed. -/
theorem heading_in_last_line :
    insertPlanAnnotation "# H" someTaskId (some "H") =
        "# H\n<!-- handoff:task:0b7f3c2a-58d1-4e6f-9a34-c1d2e3f4a5b6 -->" ∧
      insertPlanAnnotation ( insertPlanAnnotation "# H" someTaskId (some "H")) someTaskId
          (some "H") =
        "# H\n<!-- handoff:task:0b7f3c2a-58d1-4e6f-9a34-c1d2e3f4a5b6 -->\n" ∧
      insertPlanAnnotation ( insertPlanAnnotation "# H" someTaskId (some "H")) someTaskId
        (some "H") ≠ insertPlanAnnotation "# H" someTaskId (some "H") := by
  decide

end AifHandoff.Shared
