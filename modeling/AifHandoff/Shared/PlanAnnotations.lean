import AifHandoff.Lib.HtmlComments
import AifHandoff.Lib.Marks

/-!
Task annotations in a plan (`parsePlanAnnotations`, `insertPlanAnnotation`,
`shared/sync.ts`).

An annotation is a comment with the id of a task. Annotations are parsed line by line;
those of one task are removed from the whole text, with a line feed behind each, before a
new one is put in a line of its own.
-/

namespace AifHandoff.Shared

open Regex

/-! ### Patterns -/

/-- `[0-9a-f]` under the `i` flag. -/
def isHexDigit (c : Char) : Bool := "0123456789abcdef".toList.contains c.toLower

/-- The characters of a UUID, one class each. -/
def uuidClasses : List (Char → Bool) :=
  List.replicate 8 isHexDigit ++ (· == '-') :: List.replicate 4 isHexDigit ++
    (· == '-') :: List.replicate 4 isHexDigit ++ (· == '-') :: List.replicate 4 isHexDigit ++
      (· == '-') :: List.replicate 12 isHexDigit

def annotationTag : String := "handoff:task:"

def annotationRegex : Regex :=
  cat [lit "<!--", many space, litI annotationTag, .capture 1 (cat (uuidClasses.map .set)),
    many space, lit "-->"]

/-- The text fits the classes, one character each, at its beginning. -/
def fitsClasses : List (Char → Bool) → List Char → Bool
  | [], _ => true
  | accepts :: classes, c :: cs => accepts c && fitsClasses classes cs
  | _ :: _, [] => false

/-- The id of a task: a UUID in lower case. -/
structure TaskId where
  text : String
  length : text.toList.length = 36
  fits : fitsClasses uuidClasses text.toList = true
  lower : ∀ c ∈ text.toList, c.toLower = c

def existingRegex (taskId : TaskId) : Regex :=
  cat [lit "<!--", many space, litI (annotationTag ++ taskId.text), many space, lit "-->",
    optional (lit "\n")]

def headingRegex : Regex :=
  cat [.startAnchor, lit "#", upTo 5 (lit "#"), some1 space, .capture 1 (some1 dot), .endAnchor]

/-! ### Parsing and inserting -/

structure PlanAnnotation where
  taskId : String
  line : Nat
deriving DecidableEq

def parsePlanAnnotations (markdown : String) : List PlanAnnotation :=
  (Text.split markdown '\n').zipIdx.flatMap fun (line, i) =>
    (matchAll annotationRegex line).map fun hit => ⟨hit.group 1, i + 1⟩

def isHeading (sectionHeading : String) (line : String) : Bool :=
  match exec headingRegex (Text.trim line) with
  | some hit => Text.trim (hit.group 1) == Text.trim sectionHeading
  | none => false

/-- The text of an annotation. -/
def annotationText (taskId : TaskId) : String := "<!-- " ++ annotationTag ++ taskId.text ++ " -->"

/-- The markdown without annotations of the task. -/
def cleaned (markdown : String) (taskId : TaskId) : String :=
  replaceAll (existingRegex taskId) (fun _ => "") markdown

/-- The number of lines before the annotation: up to the heading, or none. -/
def insertionPoint (sectionHeading : Option String) (lines : List String) : Nat :=
  match sectionHeading with
  | none => 0
  | some heading =>
    if heading = "" then 0
    else match lines.findIdx? (isHeading heading) with
      | some headingIndex => headingIndex + 1
      | none => 0

def insertPlanAnnotation (markdown : String) (taskId : TaskId) (sectionHeading : Option String) :
    String :=
  let lines := Text.split (cleaned markdown taskId) '\n'
  let point := insertionPoint sectionHeading lines
  Text.join "\n" (lines.take point ++ annotationText taskId :: lines.drop point)

/-! ### Reading an annotation -/

/-- The id of the annotation at the beginning of a text, with what follows. -/
def readAnnotation (cs : List Char) : Option (List Char × List Char) :=
  if commentOpensAt annotationTag cs && fitsClasses uuidClasses (behindOpening annotationTag cs) then
    let closing := ((behindOpening annotationTag cs).drop 36).dropWhile Text.isSpace
    if commentClose.isPrefixOf closing then
      some ((behindOpening annotationTag cs).take 36, closing.drop 3)
    else none
  else none

theorem length_uuidClasses : uuidClasses.length = 36 := rfl

theorem run_classes {α : Type} {caps : Captures} {k : Cursor → Captures → Option α}
    (classes : List (Char → Bool)) (before after : List Char) :
    (cat (classes.map .set)).run ⟨before, after⟩ caps k =
      if fitsClasses classes after then
        k ⟨(after.take classes.length).reverse ++ before, after.drop classes.length⟩ caps
      else none := by
  induction classes generalizing before after with
  | nil => rfl
  | cons accepts classes ih =>
    cases after with
    | nil => rfl
    | cons c after =>
      rw [List.map_cons, cat_cons, run_seq, run_set_cons, ih, fitsClasses]
      cases accepts c with
      | false => rfl
      | true => simp

theorem length_le_of_fits {classes : List (Char → Bool)} {cs : List Char}
    (fits : fitsClasses classes cs = true) : classes.length ≤ cs.length := by
  induction classes generalizing cs with
  | nil => exact Nat.zero_le _
  | cons accepts classes ih =>
    cases cs with
    | nil => cases fits
    | cons c cs =>
      rw [fitsClasses, Bool.and_eq_true] at fits
      exact Nat.succ_le_succ (ih fits.2)

/-- White space and `-->`. -/
theorem run_closing {α : Type} (before after : List Char) (caps : Captures)
    (k : Cursor → Captures → Option α) :
    ∃ before', ((many space).run ⟨before, after⟩ caps fun next caps' => (lit "-->").run next caps' k) =
      if commentClose.isPrefixOf (after.dropWhile Text.isSpace) then
        k ⟨before', (after.dropWhile Text.isSpace).drop 3⟩ caps
      else none := by
  have stuck : ∀ before' c rest, Text.isSpace c = true →
      (lit "-->").run ⟨before', c :: rest⟩ caps k = none := by
    intro before' c rest blank
    refine run_lit_eq_none _ _ _ fun starts => ?_
    obtain ⟨more, shape⟩ := starts
    have dash : c = '-' := (List.cons.inj shape).1.symm
    rw [dash] at blank
    cases blank
  rw [space, run_many_max stuck]
  by_cases closes : commentClose <+: after.dropWhile Text.isSpace
  · obtain ⟨rest, closes⟩ := closes
    have starts : commentClose.isPrefixOf (commentClose ++ rest) = true := by
      rw [List.isPrefixOf_iff_prefix]
      exact List.prefix_append _ _
    refine ⟨"-->".toList.reverse ++ ((after.takeWhile Text.isSpace).reverse ++ before), ?_⟩
    rw [← closes, if_pos starts]
    exact run_lit_append caps k "-->" _ rest
  · refine ⟨before, ?_⟩
    rw [if_neg (by rwa [List.isPrefixOf_iff_prefix])]
    exact run_lit_eq_none _ _ _ closes

theorem isSpace_toLower {c : Char} (blank : Text.isSpace c = true) : (c.toLower == 'h') = false := by
  rw [beq_eq_false_iff_ne]
  intro same
  have letter : c = 'h' ∨ c = 'H' := by
    unfold Char.toLower at same
    split at same
    · right
      have val : c.val + 32 = 104 := congrArg Char.val same
      exact Char.ext (show c.val = 72 by grind)
    · exact .inl same
  rcases letter with rfl | rfl
  · exact absurd blank (by decide)
  · exact absurd blank (by decide)

theorem annotationTag_toList : annotationTag.toList = 'h' :: "andoff:task:".toList := by decide

theorem isMarker_tag_append {id : List Char} (noAngle : ∀ c ∈ id, c.toLower ≠ '<') :
    IsMarker (annotationTag ++ String.ofList id) where
  visible := by
    intro c blank rest
    have low : 'h'.toLower = 'h' := by decide
    rw [String.toList_append, annotationTag_toList, List.cons_append, startsFold, low,
      isSpace_toLower blank, Bool.false_and]
  noAngle := by
    intro c inside
    rw [String.toList_append, String.toList_ofList, List.mem_append] at inside
    rcases inside with inTag | inId
    · revert c
      decide
    · exact noAngle c inId

theorem isMarker_tag : IsMarker annotationTag := by
  have plain := @isMarker_tag_append [] (by simp)
  rwa [String.ofList_nil, String.append_empty] at plain

/-- The first match of an annotation is what is read at the beginning. -/
theorem matchHere_annotation (before after : List Char) :
    (matchHere annotationRegex before after).map
      (fun hit => ((hit.captures.lookup 1).getD [], hit.next.after)) = readAnnotation after := by
  rw [matchHere, annotationRegex, Option.map_map]
  simp only [cat_cons, cat_nil, run_seq, run_empty]
  obtain ⟨before', opened⟩ := run_commentOpening isMarker_tag before after []
    (fun next caps => (Regex.capture 1 (cat (uuidClasses.map .set))).run next caps
      fun next caps => (many space).run next caps fun next caps =>
        (lit "-->").run next caps fun next caps => some (next, caps))
  rw [opened, readAnnotation]
  cases commentOpensAt annotationTag after with
  | false => rfl
  | true =>
    rw [if_pos rfl, Bool.true_and]
    generalize behindOpening annotationTag after = named
    rw [run]
    dsimp only
    rw [run_classes]
    cases fits : fitsClasses uuidClasses named with
    | false => rfl
    | true =>
      have enough := length_le_of_fits fits
      rw [if_pos rfl, if_pos rfl, length_uuidClasses]
      rw [length_uuidClasses] at enough
      dsimp only
      obtain ⟨before', closed⟩ := run_closing ((named.take 36).reverse ++ before') (named.drop 36)
        [(1, named.take (named.length - (named.drop 36).length))] fun next caps => some (next, caps)
      rw [closed, List.length_drop, Nat.sub_sub_self enough]
      cases commentClose.isPrefixOf ((named.drop 36).dropWhile Text.isSpace) with
      | false => rfl
      | true => rfl

/-! ### The shape of an annotation -/

/-- An annotation of the id, in the parts that it is written in. -/
structure IsAnnotation (id ws tag ws' : List Char) : Prop where
  blank : ∀ c ∈ ws, Text.isSpace c = true
  spelled : startsFold annotationTag.toList tag = true
  tagLength : tag.length = annotationTag.toList.length
  fits : fitsClasses uuidClasses id = true
  idLength : id.length = 36
  blank' : ∀ c ∈ ws', Text.isSpace c = true

/-- Its text, with what follows. -/
def annotationWith (id ws tag ws' rest : List Char) : List Char :=
  commentOpen ++ (ws ++ (tag ++ (id ++ (ws' ++ (commentClose ++ rest)))))

theorem fitsClasses_append {classes : List (Char → Bool)} {cs : List Char}
    (enough : classes.length ≤ cs.length) (more : List Char) :
    fitsClasses classes (cs ++ more) = fitsClasses classes cs := by
  induction classes generalizing cs with
  | nil => cases cs <;> cases more <;> rfl
  | cons accepts classes ih =>
    cases cs with
    | nil => exact absurd enough (Nat.not_succ_le_zero _)
    | cons c cs => rw [List.cons_append, fitsClasses, fitsClasses, ih (Nat.le_of_succ_le_succ enough)]

theorem dropWhile_blank_append {ws : List Char} (blank : ∀ c ∈ ws, Text.isSpace c = true) {c : Char}
    (visible : Text.isSpace c = false) (rest : List Char) :
    (ws ++ c :: rest).dropWhile Text.isSpace = c :: rest := by
  rw [List.dropWhile_append_of_pos blank, List.dropWhile_cons_of_neg (by simp [visible])]

theorem tag_head {tag : List Char} (starts : startsFold annotationTag.toList tag = true) :
    ∃ c rest, tag = c :: rest ∧ Text.isSpace c = false := by
  rw [annotationTag_toList] at starts
  cases tag with
  | nil => cases starts
  | cons c rest =>
    refine ⟨c, rest, rfl, ?_⟩
    rw [startsFold, Bool.and_eq_true, beq_iff_eq] at starts
    cases blank : Text.isSpace c with
    | false => rfl
    | true =>
      have other := isSpace_toLower blank
      rw [starts.1] at other
      exact absurd other (by decide)

theorem readAnnotation_with {id ws tag ws' : List Char} (is : IsAnnotation id ws tag ws')
    (rest : List Char) : readAnnotation (annotationWith id ws tag ws' rest) = some (id, rest) := by
  obtain ⟨c, tail, tag_, visible⟩ := tag_head is.spelled
  have opened : commentOpen.isPrefixOf (annotationWith id ws tag ws' rest) = true := by
    rw [List.isPrefixOf_iff_prefix]
    exact List.prefix_append _ _
  have dropOpen : (annotationWith id ws tag ws' rest).drop 4 =
      ws ++ (tag ++ (id ++ (ws' ++ (commentClose ++ rest)))) := rfl
  have tagged : ((annotationWith id ws tag ws' rest).drop 4).dropWhile Text.isSpace =
      tag ++ (id ++ (ws' ++ (commentClose ++ rest))) := by
    rw [dropOpen, tag_, List.cons_append, dropWhile_blank_append is.blank visible]
  have named : behindOpening annotationTag (annotationWith id ws tag ws' rest) =
      id ++ (ws' ++ (commentClose ++ rest)) := by
    rw [behindOpening, tagged, ← is.tagLength, List.drop_left]
  have closing : (ws' ++ (commentClose ++ rest)).dropWhile Text.isSpace = commentClose ++ rest :=
    dropWhile_blank_append is.blank' (by decide) _
  have closes : commentClose.isPrefixOf (commentClose ++ rest) = true := by
    rw [List.isPrefixOf_iff_prefix]
    exact List.prefix_append _ _
  have starts : commentOpensAt annotationTag (annotationWith id ws tag ws' rest) = true := by
    rw [commentOpensAt, opened, tagged, startsFold_append is.spelled]
    rfl
  rw [ readAnnotation, starts, named,
    fitsClasses_append (by rw [length_uuidClasses, is.idLength]), is.fits, Bool.and_self, if_pos rfl,
    List.drop_left' is.idLength, List.take_left' is.idLength, closing, if_pos closes]
  rfl

theorem takeWhile_blank (cs : List Char) :
    ∀ c ∈ cs.takeWhile Text.isSpace, Text.isSpace c = true :=
  fun _ inside => List.mem_takeWhile_imp inside

theorem length_le_of_startsFold {a cs : List Char} (starts : startsFold a cs = true) :
    a.length ≤ cs.length := by
  induction a generalizing cs with
  | nil => exact Nat.zero_le _
  | cons c a ih =>
    cases cs with
    | nil => cases starts
    | cons d cs =>
      rw [startsFold, Bool.and_eq_true] at starts
      exact Nat.succ_le_succ (ih starts.2)

/-- What is read is an annotation. -/
theorem annotation_of_read {cs id rest : List Char} (found : readAnnotation cs = some (id, rest)) :
    ∃ ws tag ws', IsAnnotation id ws tag ws' ∧ cs = annotationWith id ws tag ws' rest := by
  rw [ readAnnotation, Option.ite_none_right_eq_some, Bool.and_eq_true] at found
  obtain ⟨⟨starts, fits⟩, found⟩ := found
  dsimp only at found
  rw [Option.ite_none_right_eq_some, List.isPrefixOf_iff_prefix] at found
  obtain ⟨⟨behindClose, closes⟩, made⟩ := found
  rw [commentOpensAt, Bool.and_eq_true, List.isPrefixOf_iff_prefix] at starts
  obtain ⟨⟨body, rfl⟩, tagged⟩ := starts
  have named : behindOpening annotationTag (commentOpen ++ body) =
      (body.dropWhile Text.isSpace).drop annotationTag.toList.length := rfl
  have dropOpen : (commentOpen ++ body).drop 4 = body := rfl
  have three : (commentClose ++ behindClose).drop 3 = behindClose := rfl
  rw [named] at fits closes made
  rw [dropOpen] at tagged
  rw [← closes, three] at made
  obtain ⟨rfl, rfl⟩ := Prod.mk.inj (Option.some.inj made)
  generalize tail_ : body.dropWhile Text.isSpace = tail at *
  have tagFits := length_le_of_startsFold tagged
  have idFits := length_le_of_fits fits
  rw [length_uuidClasses] at idFits
  refine ⟨body.takeWhile Text.isSpace, tail.take annotationTag.toList.length,
    (((tail.drop annotationTag.toList.length).drop 36).takeWhile Text.isSpace), ?_, ?_⟩
  · exact {
      blank := takeWhile_blank body
      spelled := by
        refine @startsFold_of_append _ _ (tail.drop annotationTag.toList.length) ?_ ?_
        · rw [List.length_take]
          omega
        · rwa [List.take_append_drop]
      tagLength := by
        rw [List.length_take]
        omega
      fits := by
        have enough : uuidClasses.length ≤
            ((tail.drop annotationTag.toList.length).take 36).length := by
          rw [List.length_take, length_uuidClasses]
          omega
        rwa [← fitsClasses_append enough ((tail.drop annotationTag.toList.length).drop 36),
          List.take_append_drop]
      idLength := by
        rw [List.length_take]
        omega
      blank' := takeWhile_blank _ }
  · rw [annotationWith, closes, List.takeWhile_append_dropWhile, List.take_append_drop, List.take_append_drop,
      ← tail_, List.takeWhile_append_dropWhile]

/-- What stands between the opening `<` and what follows. -/
def annotationBody (id ws tag ws' : List Char) : List Char :=
  ['!', '-', '-'] ++ (ws ++ (tag ++ (id ++ (ws' ++ commentClose))))

theorem annotationWith_eq (id ws tag ws' rest : List Char) :
    annotationWith id ws tag ws' rest = '<' :: (annotationBody id ws tag ws' ++ rest) := by
  simp [annotationWith, annotationBody, commentOpen]

theorem not_mem_of_fits {d : Char} {classes : List (Char → Bool)} {cs : List Char}
    (each : ∀ accepts ∈ classes, accepts d = false) (fits : fitsClasses classes cs = true)
    (length : cs.length = classes.length) : d ∉ cs := by
  induction classes generalizing cs with
  | nil =>
    rw [List.length_eq_zero_iff.mp length]
    exact List.not_mem_nil
  | cons accepts classes ih =>
    cases cs with
    | nil => cases length
    | cons c cs =>
      rw [fitsClasses, Bool.and_eq_true] at fits
      rw [List.mem_cons, not_or]
      refine ⟨?_, ih (fun accepts inside => each accepts (List.mem_cons_of_mem _ inside)) fits.2
        (Nat.succ.inj length)⟩
      rintro rfl
      rw [each accepts List.mem_cons_self] at fits
      cases fits.1

theorem not_angle_of_startsFold {a cs : List Char} (plain : ∀ c ∈ a, c.toLower ≠ '<')
    (starts : startsFold a cs = true) (length : cs.length = a.length) : '<' ∉ cs := by
  induction a generalizing cs with
  | nil =>
    rw [List.length_eq_zero_iff.mp length]
    exact List.not_mem_nil
  | cons c a ih =>
    cases cs with
    | nil => cases length
    | cons d cs =>
      rw [startsFold, Bool.and_eq_true, beq_iff_eq] at starts
      rw [List.mem_cons, not_or]
      refine ⟨?_, ih (fun c inside => plain c (List.mem_cons_of_mem _ inside)) starts.2
        (Nat.succ.inj length)⟩
      rintro rfl
      exact plain c List.mem_cons_self starts.1.symm

theorem uuidClasses_angle : ∀ accepts ∈ uuidClasses, accepts '<' = false := by
  decide

theorem not_angle_annotationBody {id ws tag ws' : List Char} (is : IsAnnotation id ws tag ws') :
    '<' ∉ annotationBody id ws tag ws' := by
  have blank (cs : List Char) (all : ∀ c ∈ cs, Text.isSpace c = true) : '<' ∉ cs :=
    fun inside => absurd (all _ inside) (by decide)
  have named : '<' ∉ id :=
    not_mem_of_fits uuidClasses_angle is.fits (is.idLength.trans length_uuidClasses.symm)
  have tagged : '<' ∉ tag := not_angle_of_startsFold (by decide) is.spelled is.tagLength
  have ends : '<' ∉ commentClose := by decide
  rw [annotationBody]
  simp only [List.mem_append, not_or]
  exact ⟨by decide, blank ws is.blank, tagged, named, blank ws' is.blank', ends⟩

/-- The annotations of a text. -/
def annotationMarks : Marks (List Char) where
  read := readAnnotation
  opener := '<'
  shape := by
    intro cs id rest found
    obtain ⟨ws, tag, ws', is, rfl⟩ := annotation_of_read found
    exact ⟨_, annotationWith_eq id ws tag ws' rest, not_angle_annotationBody is⟩
  stable := by
    intro id body rest found rest'
    obtain ⟨ws, tag, ws', is, shape⟩ := annotation_of_read found
    rw [annotationWith_eq, List.cons.injEq, List.append_cancel_right_eq] at shape
    rw [shape.2, ← annotationWith_eq]
    exact readAnnotation_with is rest'

theorem annotation_long {cs id rest : List Char} (found : annotationMarks.read cs = some (id, rest)) :
    rest.length + 2 ≤ cs.length := by
  obtain ⟨ws, tag, ws', -, rfl⟩ := annotation_of_read found
  rw [annotationWith_eq, annotationBody]
  simp only [List.length_cons, List.length_append]
  omega

/-- The parsed ids are those of the annotations that stand on one line. -/
theorem taskIds_parse (markdown : String) :
    (parsePlanAnnotations markdown).map (·.taskId) =
      (annotationMarks.inLine.marks markdown.toList).map String.ofList := by
  have line (text : String) : (matchAll annotationRegex text).map (·.group 1) =
      (annotationMarks.marks text.toList).map String.ofList := by
    have scanned := @Marks.matchLoop_of_reads _ readAnnotation annotationRegex
      (fun hit => (hit.captures.lookup 1).getD []) matchHere_annotation (fun _ _ => rfl)
      (fun cs id rest found => @Marks.length_lt_of_read _ annotationMarks _ _ _ found)
      _ [] text.toList (Nat.lt_succ_self _)
    have values := congrArg (fun found => found.1.map (·.2)) scanned
    dsimp only at values
    rw [List.map_map, show Marks.scan readAnnotation = Marks.scan annotationMarks.read from rfl,
      Marks.scan_marks] at values
    rw [matchAll, ← values, List.map_map]
    rfl
  have zipped (lines : List String) (k : Nat) :
      ((lines.zipIdx k).flatMap fun (text, i) =>
        (matchAll annotationRegex text).map fun hit => (⟨hit.group 1, i + 1⟩ : PlanAnnotation)).map
          (·.taskId) = lines.flatMap fun text => (matchAll annotationRegex text).map (·.group 1) := by
    induction lines generalizing k with
    | nil => rfl
    | cons text lines ih =>
      rw [List.zipIdx_cons, List.flatMap_cons, List.map_append, ih, List.flatMap_cons,
        List.map_map]
      rfl
  rw [parsePlanAnnotations, zipped, Text.split, List.flatMap_map, ← Marks.flatMap_lines_marks,
    List.splitOn_eq_splitOnP, List.map_flatMap]
  refine List.flatMap_congr fun cs _ => ?_
  rw [line, String.toList_ofList]

/-! ### Annotations of one task -/

theorem startsFold_append_iff (a b cs : List Char) :
    startsFold (a ++ b) cs = (startsFold a cs && startsFold b (cs.drop a.length)) := by
  induction a generalizing cs with
  | nil =>
    rw [List.nil_append, List.length_nil, List.drop_zero]
    cases cs <;> rfl
  | cons c a ih =>
    cases cs with
    | nil => rfl
    | cons d cs =>
      rw [List.cons_append, startsFold, startsFold, ih, List.length_cons, List.drop_succ_cons,
        Bool.and_assoc]

theorem startsFold_take {a : List Char} {n : Nat} (length : a.length = n) (cs : List Char) :
    startsFold a (cs.take n) = startsFold a cs := by
  subst length
  induction a generalizing cs with
  | nil => cases cs <;> rfl
  | cons c a ih =>
    cases cs with
    | nil => rfl
    | cons d cs => rw [List.length_cons, List.take_succ_cons, startsFold, startsFold, ih]

/-- The id is that of the task, in any case. -/
def namesTask (taskId : TaskId) (id : List Char) : Bool := startsFold taskId.text.toList id

theorem isHexDigit_of_toLower {c d : Char} (hex : isHexDigit c = true)
    (same : (d.toLower == c.toLower) = true) : isHexDigit d = true := by
  rw [isHexDigit, beq_iff_eq.mp same]
  exact hex

theorem eq_dash_of_toLower {c d : Char} (dash : (c == '-') = true)
    (same : (d.toLower == c.toLower) = true) : (d == '-') = true := by
  rw [beq_iff_eq.mp dash, beq_iff_eq] at same
  have low : '-'.toLower = '-' := by decide
  rw [low] at same
  unfold Char.toLower at same
  split at same
  next upper =>
    exfalso
    have val : d.val + 32 = 45 := congrArg Char.val same
    grind
  next => exact beq_iff_eq.mpr same

theorem fits_of_startsFold {classes : List (Char → Bool)} {id cs : List Char}
    (each : ∀ accepts ∈ classes, ∀ c d, accepts c = true → (d.toLower == c.toLower) = true →
      accepts d = true)
    (fits : fitsClasses classes id = true) (starts : startsFold id cs = true) :
    fitsClasses classes cs = true := by
  induction classes generalizing id cs with
  | nil => rfl
  | cons accepts classes ih =>
    cases id with
    | nil => cases fits
    | cons c id =>
      cases cs with
      | nil => cases starts
      | cons d cs =>
        rw [fitsClasses, Bool.and_eq_true] at fits ⊢
        rw [startsFold, Bool.and_eq_true] at starts
        exact ⟨each accepts List.mem_cons_self c d fits.1 starts.1,
          ih (fun accepts inside => each accepts (List.mem_cons_of_mem _ inside)) fits.2
            starts.2⟩

theorem uuidClasses_fold : ∀ accepts ∈ uuidClasses, ∀ c d, accepts c = true →
    (d.toLower == c.toLower) = true → accepts d = true := by
  intro accepts inside c d fits same
  have kind : accepts = isHexDigit ∨ accepts = (· == '-') := by
    simp only [uuidClasses, List.mem_append, List.mem_cons, List.mem_replicate] at inside
    tauto
  rcases kind with rfl | rfl
  · exact isHexDigit_of_toLower fits same
  · exact eq_dash_of_toLower fits same

theorem isMarker_existing (taskId : TaskId) : IsMarker (annotationTag ++ taskId.text) := by
  have noAngle : ∀ c ∈ taskId.text.toList, c.toLower ≠ '<' := by
    intro c inside same
    have plain := not_mem_of_fits uuidClasses_angle taskId.fits
      (taskId.length.trans length_uuidClasses.symm)
    rw [taskId.lower c inside] at same
    exact plain (same ▸ inside)
  have marker := isMarker_tag_append noAngle
  rwa [String.ofList_toList] at marker

theorem run_optional_newline {α : Type} (before after : List Char) (caps : Captures)
    (f : Cursor → Captures → α) :
    ∃ before', (optional (lit "\n")).run ⟨before, after⟩ caps (fun next caps => some (f next caps)) =
      some (f ⟨before', Marks.dropNewline after⟩ caps) := by
  rw [Regex.optional, run_alt]
  by_cases newline : ['\n'] <+: after
  · obtain ⟨rest, rfl⟩ := newline
    refine ⟨"\n".toList.reverse ++ before, ?_⟩
    have read := run_lit_append caps (fun next caps => some (f next caps)) "\n" before rest
    change ((lit "\n").run ⟨before, "\n".toList ++ rest⟩ caps _).or _ = _
    rw [read, Option.some_or]
    rfl
  · refine ⟨before, ?_⟩
    rw [run_lit_eq_none _ _ _ (by exact newline), Option.none_or, run_empty, Marks.dropNewline.eq_def]
    split
    next rest => exact absurd ⟨rest, rfl⟩ newline
    next => rfl

/-- The first match of an annotation of the task is what is read, if it names the task. -/
theorem matchHere_existing (taskId : TaskId) (before after : List Char) :
    (matchHere (existingRegex taskId) before after).map (fun hit => ((), hit.next.after)) =
      annotationMarks.removed (namesTask taskId) after := by
  rw [matchHere, existingRegex, Option.map_map]
  simp only [cat_cons, cat_nil, run_seq, run_empty]
  obtain ⟨opening, opened⟩ := run_commentOpening (isMarker_existing taskId) before after []
    (fun next caps => (many space).run next caps fun next caps =>
        (lit "-->").run next caps fun next caps => (optional (lit "\n")).run next caps
          fun next caps => some (next, caps))
  have opens : commentOpensAt (annotationTag ++ taskId.text) after =
      (commentOpensAt annotationTag after &&
        startsFold taskId.text.toList (behindOpening annotationTag after)) := by
    rw [commentOpensAt, commentOpensAt, String.toList_append, startsFold_append_iff, behindOpening,
      Bool.and_assoc]
  have behind : behindOpening (annotationTag ++ taskId.text) after =
      (behindOpening annotationTag after).drop 36 := by
    rw [behindOpening, behindOpening, String.toList_append, List.length_append, taskId.length,
      List.drop_drop]
  change _ = (( readAnnotation after).filter _).map _
  rw [opened, opens, behind, readAnnotation]
  cases commentOpensAt annotationTag after with
  | false => rfl
  | true =>
    generalize behindOpening annotationTag after = named
    rw [Bool.true_and, Bool.true_and]
    have taken : startsFold taskId.text.toList (named.take 36) =
        startsFold taskId.text.toList named := startsFold_take taskId.length named
    cases starts : startsFold taskId.text.toList named with
    | false =>
      rw [if_neg Bool.false_ne_true, Option.map_none]
      symm
      rw [Option.map_eq_none_iff, Option.filter_eq_none_iff]
      intro found read
      dsimp only at read
      rw [Option.ite_none_right_eq_some, Option.ite_none_right_eq_some] at read
      obtain ⟨-, -, made⟩ := read
      rw [← Option.some.inj made, namesTask, taken, starts]
      exact Bool.false_ne_true
    | true =>
      have fits : fitsClasses uuidClasses named = true :=
        fits_of_startsFold uuidClasses_fold taskId.fits starts
      obtain ⟨closing, closed⟩ := run_closing opening (named.drop 36) []
        (fun next caps => (optional (lit "\n")).run next caps fun next caps => some (next, caps))
      rw [if_pos rfl, if_pos fits, closed]
      dsimp only
      cases commentClose.isPrefixOf ((named.drop 36).dropWhile Text.isSpace) with
      | false => rfl
      | true =>
        obtain ⟨last, read⟩ := run_optional_newline closing
          (((named.drop 36).dropWhile Text.isSpace).drop 3) [] fun next caps => (next, caps)
        have names : namesTask taskId (named.take 36) = true := taken.trans starts
        rw [if_pos rfl, if_pos rfl, read, Option.filter_some, if_pos names]
        rfl

/-- What is removed are the annotations of the task. -/
theorem toList_cleaned (markdown : String) (taskId : TaskId) :
    (cleaned markdown taskId).toList =
      annotationMarks.erase (namesTask taskId) markdown.toList := by
  have scanned := @Marks.matchLoop_of_reads _ (annotationMarks.removed (namesTask taskId))
    (existingRegex taskId) (fun _ => ()) (matchHere_existing taskId) (fun _ _ => rfl)
    (fun cs u rest found => Marks.length_lt_of_removed found)
    _ [] markdown.toList (Nat.lt_succ_self _)
  rw [cleaned, replaceAll, Marks.erase, Marks.cut, ← scanned]
  dsimp only
  rw [String.toList_ofList, List.map_map, List.flatten_append, List.flatten_singleton, List.flatMap]
  congr 2
  refine List.map_congr_left fun hit _ => ?_
  rw [show "".toList = [] from rfl, List.append_nil]
  rfl

end AifHandoff.Shared
