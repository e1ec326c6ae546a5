import AifHandoff.Shared.PlanningDecision

/-!
What becomes of a contract that is written into a text.

The body of a block ends before the first three backticks, and these may stand in a string of
the contract: then what is read is cut off inside the JSON text, and is no JSON text.
-/

namespace AifHandoff.Shared.Manifest

open Regex Json

variable {ν : Type} {N : NumberTexts ν}

/-- A text with the value as a fenced block of the language in it. -/
def embed (N : NumberTexts ν) (lang : String) (v : Json ν) (before after : String) : String :=
  String.ofList (before.toList ++
    (blockText lang (stringify N.write v ++ ['\n']) ++ after.toList))

/-- Exactly one block is found, and its JSON value is `v`. -/
def YieldsOnly (N : NumberTexts ν) (v : Json ν) (found : List String) : Prop :=
  ∃ block, found = [block] ∧ parse N.read block.toList = some v

/-! ### Texts of objects -/

section Objects

variable {object : List (String × Json ν)}

theorem stringify_obj (object : List (String × Json ν)) :
    stringify N.write (.obj object) =
      '\x7b' :: (stringifyFields N.write object ++ ['\x7d']) := rfl

theorem trim_stringify_obj : Text.trim (String.ofList (stringify N.write (.obj object) ++ ['\n'])) =
    String.ofList (stringify N.write (.obj object)) := by
  have open_ : Text.isSpace '\x7b' = false := by decide
  have close : Text.isSpace '\x7d' = false := by decide
  have newline : Text.isSpace '\n' = true := by decide
  rw [Text.trim, String.toList_ofList, stringify_obj]
  simp [open_, close, newline]

/-- White space behind an object is skipped. -/
theorem parse_stringify_newline (lawful : LawfulNumbers N) (distinct : Distinct (.obj object)) :
    parse N.read (stringify N.write (.obj object) ++ ['\n']) = some (.obj object) := by
  have opens : isSpace '\x7b' = false := by decide
  have whole := parse_stringify lawful distinct
  rw [parse, stringify_obj, skipSpace_cons opens, ← stringify_obj] at whole
  cases read : parseValue N.read ((stringify N.write (.obj object)).length + 1)
      (stringify N.write (.obj object)) with
  | none =>
    rw [read] at whole
    cases whole
  | some result =>
    obtain ⟨v, rest⟩ := result
    rw [read] at whole
    dsimp only at whole
    split_ifs at whole with blank
    obtain rfl := Option.some.inj whole
    have longer : (stringify N.write (.obj object)).length + 1 ≤
        (stringify N.write (.obj object) ++ ['\n']).length + 1 := by
      rw [List.length_append]
      omega
    have more := parseValue_append ['\n'] longer read rfl
    have spaces : skipSpace (rest ++ ['\n']) = [] := by
      have all := List.dropWhile_eq_nil_iff.mp (List.isEmpty_iff.mp blank)
      refine List.dropWhile_eq_nil_iff.mpr fun c among => ?_
      rcases List.mem_append.mp among with inRest | inEnd
      · exact all c inRest
      · obtain rfl := List.mem_singleton.mp inEnd
        decide
    rw [parse]
    have start : skipSpace (stringify N.write (.obj object) ++ ['\n']) =
        stringify N.write (.obj object) ++ ['\n'] := by
      rw [stringify_obj, List.cons_append, skipSpace_cons opens]
    rw [start, more]
    dsimp only
    rw [spaces]
    rfl

theorem trim_prefix {c : Char} {cs : List Char} (visible : Text.isSpace c = false) :
    (Text.trim (String.ofList (c :: cs))).toList <+: c :: cs := by
  rw [Text.trim, String.toList_ofList, String.toList_ofList,
    List.dropWhile_cons_of_neg (by rw [visible]; exact Bool.false_ne_true)]
  have suffix := List.dropWhile_suffix Text.isSpace (l := (c :: cs).reverse)
  simpa using List.reverse_prefix.mpr suffix

theorem parse_of_cut (lawful : LawfulNumbers N) (distinct : Distinct (.obj object))
    {body more : List Char} (split : stringify N.write (.obj object) = body ++ more)
    (cut : more ≠ []) :
    parse N.read body = none ∧ parse N.read (Text.trim (String.ofList body)).toList = none := by
  refine ⟨parse_cut_off lawful distinct split cut, ?_⟩
  cases body with
  | nil =>
    have empty : Text.trim (String.ofList []) = "" := by decide
    rw [empty]
    rfl
  | cons c cs =>
    have open_ : Text.isSpace c = false := by
      rw [stringify_obj] at split
      rw [← (List.cons.inj split).1]
      decide
    have head : (Text.trim (String.ofList (c :: cs))).toList <+: c :: cs := trim_prefix open_
    obtain ⟨rest, same⟩ := head
    have split' : stringify N.write (.obj object) =
        (Text.trim (String.ofList (c :: cs))).toList ++ (rest ++ more) := by
      rw [split, ← List.append_assoc, same]
    have cut' : rest ++ more ≠ [] := fun gone => cut (List.append_eq_nil_iff.mp gone).2
    exact parse_cut_off lawful distinct split' cut'

end Objects

/-! ### Embedded objects -/

section Embedded

variable {object : List (String × Json ν)} {lang before after : String}

/-- A contract without three backticks is the only block of its text. -/
theorem blocks_of_embedded (language : IsLanguage lang) (clear : NoFence lang before)
    (clear' : NoFence lang after) (untouched : ¬ ticks <:+: stringify N.write (.obj object)) :
    blocks lang (embed N lang (.obj object) before after) =
      [String.ofList (stringify N.write (.obj object) ++ ['\n'])] := by
  obtain ⟨others, found, alone⟩ := blocks_embedded language (noFence_iff.mp clear)
    (endsFirst_of_no_ticks untouched after.toList)
  rw [embed, found, alone (noFence_iff.mp clear')]

theorem blocks_of_cut (language : IsLanguage lang) (clear : NoFence lang before)
    (after : String) (cut : ticks <:+: stringify N.write (.obj object)) :
    ∃ body more others, stringify N.write (.obj object) = body ++ more ∧ more ≠ [] ∧
      blocks lang (embed N lang (.obj object) before after) = String.ofList body :: others := by
  obtain ⟨body, rest, split, first⟩ := exists_first_ticks cut
  have text : blockText lang (stringify N.write (.obj object) ++ ['\n']) ++ after.toList =
      blockText lang body ++ (rest ++ ('\n' :: ticks ++ after.toList)) := by
    rw [split]
    simp [blockText]
  obtain ⟨others, found, -⟩ := blocks_embedded language (noFence_iff.mp clear)
    (first.append ('\n' :: ticks ++ after.toList))
  refine ⟨body, ticks ++ rest, others, split, List.cons_ne_nil _ _, ?_⟩
  rw [embed, text, found]

/-- Reading the blocks through `read` yields the object alone exactly when it has no three
backticks in a row; `read` is `trim`, or leaves the block as it is. -/
theorem yieldsOnly_embedded_iff (lawful : LawfulNumbers N) (distinct : Distinct (.obj object))
    (language : IsLanguage lang) (clear : NoFence lang before) (clear' : NoFence lang after)
    (read : String → String) (reads : read = Text.trim ∨ read = id) :
    YieldsOnly N (.obj object)
        ((blocks lang (embed N lang (.obj object) before after)).map read) ↔
      ¬ ticks <:+: stringify N.write (.obj object) := by
  constructor
  · rintro ⟨block, found, value⟩ cut
    obtain ⟨body, more, others, split, rest, blocks⟩ := blocks_of_cut language clear after cut
    rw [blocks, List.map_cons, List.cons.injEq] at found
    obtain ⟨rfl, -⟩ := found
    obtain ⟨raw, trimmed⟩ := parse_of_cut lawful distinct split rest
    rcases reads with rfl | rfl
    · rw [trimmed] at value
      cases value
    · rw [id, String.toList_ofList, raw] at value
      cases value
  · intro untouched
    rw [blocks_of_embedded language clear clear' untouched]
    refine ⟨_, rfl, ?_⟩
    rcases reads with rfl | rfl
    · rw [trim_stringify_obj, String.toList_ofList]
      exact parse_stringify lawful distinct
    · rw [id, String.toList_ofList]
      exact parse_stringify_newline lawful distinct

end Embedded

theorem isLanguage_implementation : IsLanguage implementationManifestLanguage where
  filled := by decide
  noTick := by decide
  word := by decide

theorem isLanguage_plan : IsLanguage planManifestLanguage where
  filled := by decide
  noTick := by decide
  word := by decide

theorem isLanguage_planningDecision : IsLanguage planningDecisionLanguage where
  filled := by decide
  noTick := by decide
  word := by decide

/-! ### What the readers make of it -/

section Readers

variable {object : List (String × Json ν)} {lang before after : String}

theorem embed_ne_empty : (embed N lang (.obj object) before after).isEmpty = false := by
  have filled : (embed N lang (.obj object) before after).toList ≠ [] := by
    rw [embed, String.toList_ofList, blockText]
    intro gone
    have inner := (List.append_eq_nil_iff.mp gone).2
    have opening := (List.append_eq_nil_iff.mp (List.append_eq_nil_iff.mp inner).1).1
    exact fenceText_ne_nil opening
  rw [String.isEmpty_eq_false_iff]
  exact fun empty => filled (String.toList_eq_nil_iff.mpr empty)

theorem blocks_embedded_ne_nil (language : IsLanguage lang) (clear : NoFence lang before) :
    blocks lang (embed N lang (.obj object) before after) ≠ [] := by
  by_cases cut : ticks <:+: stringify N.write (.obj object)
  · obtain ⟨body, more, others, -, -, found⟩ := blocks_of_cut language clear after cut
    rw [found]
    exact List.cons_ne_nil _ _
  · obtain ⟨others, found, -⟩ := blocks_embedded language (noFence_iff.mp clear)
      (endsFirst_of_no_ticks cut after.toList)
    rw [embed, found]
    exact List.cons_ne_nil _ _

theorem extractImplementationManifestBlock_yields_iff {text : String} (some_ : text.isEmpty = false)
    (found : blocks implementationManifestLanguage text ≠ []) (v : Json ν) :
    (∃ block, extractImplementationManifestBlock N (some text) = some block ∧
        parse N.read block.toList = some v) ↔
      YieldsOnly N v ((blocks implementationManifestLanguage text).map Text.trim) := by
  have given : (some text).filter (!·.isEmpty) = some text := by
    rw [Option.filter_some, some_]
    rfl
  rw [extractImplementationManifestBlock, given, YieldsOnly]
  dsimp only
  rcases shape : blocks implementationManifestLanguage text with - | ⟨first, - | ⟨second, others⟩⟩
  · exact absurd shape found
  · simp
  · simp

end Readers

/-- A contract that is embedded in a text without other fences of its language is read back
exactly when its JSON has no three backticks in a row, whichever of the three kinds it is; then
the snapshot of a plan and the parsed planning decision are those of the contract. -/
theorem embedded_contracts_survive_iff (lawful : LawfulNumbers N)
    {object : List (String × Json ν)} (distinct : Distinct (.obj object)) (env : Env)
    (jsonError : String → String) (before after : String) :
    (NoFence implementationManifestLanguage before →
      NoFence implementationManifestLanguage after →
      ((∃ block, extractImplementationManifestBlock N
          (some (embed N implementationManifestLanguage (.obj object) before after)) = some block ∧
          parse N.read block.toList = some (.obj object)) ↔
        ¬ ticks <:+: stringify N.write (.obj object))) ∧
    (NoFence planManifestLanguage before → NoFence planManifestLanguage after →
      (YieldsOnly N (.obj object) (extractPlanManifestBlocks
          (embed N planManifestLanguage (.obj object) before after)) ↔
        ¬ ticks <:+: stringify N.write (.obj object)) ∧
      (¬ ticks <:+: stringify N.write (.obj object) →
        readAifPlanManifestSnapshot N env
            (some (embed N planManifestLanguage (.obj object) before after)) =
          snapshotOf N env (String.ofList (stringify N.write (.obj object))))) ∧
    (NoFence planningDecisionLanguage before → NoFence planningDecisionLanguage after →
      (YieldsOnly N (.obj object) (blocks planningDecisionLanguage
          (embed N planningDecisionLanguage (.obj object) before after)) ↔
        ¬ ticks <:+: stringify N.write (.obj object)) ∧
      (¬ ticks <:+: stringify N.write (.obj object) → ∀ taskId,
        parseAifPlanningDecisionContract N jsonError
            (embed N planningDecisionLanguage (.obj object) before after) taskId =
          planningDecisionOf taskId (.obj object))) := by
  refine ⟨fun clear clear' => ?_, fun clear clear' => ⟨?_, fun untouched => ?_⟩,
    fun clear clear' => ⟨?_, fun untouched taskId => ?_⟩⟩
  · rw [extractImplementationManifestBlock_yields_iff embed_ne_empty
      (blocks_embedded_ne_nil isLanguage_implementation clear)]
    exact yieldsOnly_embedded_iff lawful distinct isLanguage_implementation clear clear' _ (.inl rfl)
  · exact yieldsOnly_embedded_iff lawful distinct isLanguage_plan clear clear' _ (.inl rfl)
  · have given : (some (embed N planManifestLanguage (.obj object) before after)).filter
        (!·.isEmpty) = some (embed N planManifestLanguage (.obj object) before after) := by
      rw [Option.filter_some, embed_ne_empty]
      rfl
    rw [readAifPlanManifestSnapshot, given]
    dsimp only
    rw [blocks_of_embedded isLanguage_plan clear clear' untouched]
    dsimp only
    rw [trim_stringify_obj]
  · have whole := yieldsOnly_embedded_iff lawful distinct isLanguage_planningDecision clear clear' id
      (.inr rfl)
    rw [List.map_id] at whole
    exact whole
  · rw [parseAifPlanningDecisionContract,
      blocks_of_embedded isLanguage_planningDecision clear clear' untouched]
    dsimp only
    rw [String.toList_ofList, parse_stringify_newline lawful distinct]

/-! ### A preview with a fence in it -/

/-- Numbers that are not looked at. -/
def unitNumbers : NumberTexts Unit := ⟨fun _ => ['0'], fun _ => ()⟩

theorem unitNumbers_lawful : LawfulNumbers unitNumbers where
  isNumber := by
    intro n
    rfl
  read := by
    intro n
    rfl

def preview (text : String) : List (String × Json Unit) := [("p", .str text)]

def fencedPreview : List (String × Json Unit) := preview "\x60\x60\x60"

def plainPreview : List (String × Json Unit) := preview "ok"

theorem distinct_preview (text : String) : Distinct (.obj (preview text)) := by
  simp [preview, Distinct, Distinct.DistinctFields]

theorem noFence_of_no_tick {lang text : String} (absent : ∀ c ∈ text.toList, c.toLower ≠ '\x60') :
    NoFence lang text := by
  rw [noFence_iff]
  intro s t split
  rw [Bool.eq_false_iff]
  intro opens
  rw [opensAt, Bool.and_eq_true] at opens
  have first : (fenceText lang).toList[0]? = some '\x60' := by
    rw [fenceText_toList]
    rfl
  obtain ⟨d, there, same⟩ := startsFold_getElem? opens.1 first
  have inside : d ∈ text.toList := by
    rw [split]
    exact List.mem_append_right _ (List.mem_of_getElem? there)
  exact absent d inside same

theorem noFence_empty {lang : String} : NoFence lang "" := noFence_of_no_tick (by decide)

/-- A manifest with a plain preview comes back from a report. -/
theorem plain_preview_survives : ∃ block, extractImplementationManifestBlock unitNumbers
      (some (embed unitNumbers implementationManifestLanguage (.obj plainPreview)
        "# Report\n\nAll steps are done.\n" "\nThe tests pass.\n")) =
        some block ∧ parse unitNumbers.read block.toList = some (.obj plainPreview) :=
  ((embedded_contracts_survive_iff unitNumbers_lawful (distinct_preview "ok")
    ⟨id, codeUnitOrder, String.ofList⟩ id "# Report\n\nAll steps are done.\n"
    "\nThe tests pass.\n").1 (noFence_of_no_tick (by decide)) (noFence_of_no_tick (by decide))).mpr
    (by decide)

/-- A manifest whose preview holds three backticks does not. -/
theorem fenced_preview_is_lost : ¬ ∃ block, extractImplementationManifestBlock unitNumbers
      (some (embed unitNumbers implementationManifestLanguage (.obj fencedPreview) "" "")) =
        some block ∧ parse unitNumbers.read block.toList = some (.obj fencedPreview) := by
  rw [extractImplementationManifestBlock_yields_iff embed_ne_empty
    (blocks_embedded_ne_nil isLanguage_implementation noFence_empty),
    fencedPreview, yieldsOnly_embedded_iff unitNumbers_lawful (distinct_preview _) isLanguage_implementation
      noFence_empty noFence_empty _ (.inl rfl)]
  decide

end AifHandoff.Shared.Manifest
