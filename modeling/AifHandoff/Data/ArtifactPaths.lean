import AifHandoff.Data.RoadmapArtifacts
import AifHandoff.Lib.LexicalPath

/-!
The spellings of artifact paths (`assertSafeRoadmapArtifactPath`, `data/index.ts`).

A path is accepted as it is spelled: what leads out of the root is refused, but an empty segment
and a `.` in front are not.
-/

namespace AifHandoff.Data

open PathPattern (segmentsOf segmentsOf_append intercalate_segmentsOf)
open LexicalPath hiding up

/-- An error is thrown for an unsafe path. -/
def assertSafeRoadmapArtifactPath (artifactPath : String) : Except String String :=
  if isUnsafeRoadmapArtifactPath artifactPath then
    .error ("unsafe roadmap artifact path: " ++ artifactPath)
  else .ok (normalizeRoadmapArtifactPath (Text.trim artifactPath))

/-! ### Places -/

/-- A place in the file system: a drive, where there are drives, and the names from its top. -/
structure FilePlace where
  drive : Option Char
  names : List Name
deriving DecidableEq

/-- The directory that paths are resolved against, and the ones where the drives stand. -/
structure Root where
  place : FilePlace
  current : Char → List Name

/-- The drive that a path begins with, and the path behind it. -/
def driveOf : List Char → Option (Char × List Char)
  | letter :: ':' :: path => if letter.isAlpha then some (letter, path) else none
  | _ => none

/-- Where a path on a drive leads: from the top if it begins with a slash. -/
def resolveOn (start : List Name) (path : List Char) : List Name :=
  resolve (if path.head? = some '/' then [] else start) (segmentsOf path)

/-- Where a path with slashes leads, on the drive of the root or on one that it names. -/
def Root.resolve (root : Root) (path : List Char) : FilePlace :=
  match root.place.drive.bind fun _ => driveOf path with
  | some (drive, path) =>
    let start := if some drive = root.place.drive then root.place.names else root.current drive
    ⟨some drive, resolveOn start path⟩
  | none => ⟨root.place.drive, resolveOn root.place.names path⟩

/-- The place of a path, with either slash. -/
def artifactPlace (root : Root) (artifactPath : String) : FilePlace :=
  root.resolve (normalizeRoadmapArtifactPath artifactPath).toList

def StrictlyBelow (root place : FilePlace) : Prop :=
  place.drive = root.drive ∧ root.names <+: place.names ∧ place.names ≠ root.names

/-- The accepted paths of a collection are returned as places below the root, and those of one
file as one text. -/
structure OneSpelling (root : Root) (paths : String → Prop) : Prop where
  below : ∀ p a, paths p → assertSafeRoadmapArtifactPath p = .ok a →
    StrictlyBelow root.place (artifactPlace root a)
  same : ∀ p q a b, paths p → paths q → assertSafeRoadmapArtifactPath p = .ok a →
    assertSafeRoadmapArtifactPath q = .ok b → artifactPlace root a = artifactPlace root b → a = b

/-! ### Spellings -/

/-- The segments of a path, with either slash. -/
def artifactSegments (artifactPath : String) : List Name :=
  segmentsOf (normalizeRoadmapArtifactPath artifactPath).toList

/-- The segments that lead down. -/
def artifactNames (artifactPath : String) : List Name := downs (artifactSegments artifactPath)

/-- Every segment leads down. -/
def Plain (artifactPath : String) : Prop :=
  ∀ name ∈ artifactSegments artifactPath, name ≠ [] ∧ name ≠ dot

instance (p : String) : Decidable (Plain p) :=
  inferInstanceAs (Decidable (∀ name ∈ artifactSegments p, name ≠ [] ∧ name ≠ dot))

/-- An accepted path with names stands beside an accepted plain path of the same names. -/
def HasPlain (paths : String → Prop) : Prop :=
  ∀ p, paths p → isUnsafeRoadmapArtifactPath p = false → artifactNames p ≠ [] →
    ∃ q, paths q ∧ isUnsafeRoadmapArtifactPath q = false ∧ Plain q ∧
      artifactNames q = artifactNames p

section Spelling

variable {root : Root} {paths : String → Prop} {p q a : String}

theorem normalize_normalize (p : String) :
    normalizeRoadmapArtifactPath (normalizeRoadmapArtifactPath p) =
      normalizeRoadmapArtifactPath p := by
  unfold normalizeRoadmapArtifactPath
  rw [String.toList_ofList, List.map_map]
  congr 1
  refine List.map_congr_left fun c _ => ?_
  by_cases back : c = '\\'
  · simp [back]
  · simp [back]

/-- What the characters of an accepted path are not. -/
structure SafeChars (cs : List Char) : Prop where
  null : '\x00' ∉ cs
  colon : ':' ∉ cs
  top : ¬ ['/'] <+: cs
  here : cs ≠ dot
  up : cs ≠ LexicalPath.up
  upFirst : ¬ LexicalPath.up ++ ['/'] <+: cs
  upWithin : ¬ '/' :: LexicalPath.up ++ ['/'] <:+: cs
  upLast : ¬ '/' :: LexicalPath.up <:+ cs
  dotWithin : ¬ ['/', '.', '/'] <:+: cs
  dotLast : ¬ ['/', '.'] <:+ cs

theorem safe_iff : isUnsafeRoadmapArtifactPath p = false ↔
    Text.trim p = p ∧ p ≠ "" ∧ SafeChars (normalizeRoadmapArtifactPath p).toList := by
  have within (text needle : String) :
      Text.includes text needle = false ↔ ¬ needle.toList <:+: text.toList := by
    rw [Text.includes, decide_eq_false_iff_not]
  have first (text needle : String) :
      Text.startsWith text needle = false ↔ ¬ needle.toList <+: text.toList := by
    rw [Text.startsWith, Bool.eq_false_iff, ne_eq, List.isPrefixOf_iff_prefix]
  have last (text needle : String) :
      Text.endsWith text needle = false ↔ ¬ needle.toList <:+ text.toList := by
    rw [Text.endsWith, Bool.eq_false_iff, ne_eq, List.isSuffixOf_iff_suffix]
  simp only [isUnsafeRoadmapArtifactPath, Bool.or_eq_false_iff, within, first, last,
    bne_eq_false_iff_eq, beq_eq_false_iff_ne, String.isEmpty_eq_false_iff]
  have texts {text : String} {cs : List Char} (is : cs = text.toList) (other : String) :
      other = text ↔ other.toList = cs := by
    rw [is, String.toList_inj]
  constructor
  · rintro ⟨⟨⟨⟨⟨⟨⟨⟨⟨⟨⟨⟨some_, trimmed⟩, null⟩, colon⟩, top⟩, here⟩, up⟩, upFirst⟩, upWithin⟩,
      upLast⟩, -⟩, dotWithin⟩, dotLast⟩
    rw [trimmed] at some_ null colon top here up upFirst upWithin upLast dotWithin dotLast
    exact ⟨trimmed, some_, {
      null := fun inside => null ((List.singleton_infix_iff _ _).mpr inside)
      colon := fun inside => colon ((List.singleton_infix_iff _ _).mpr inside)
      top := top
      here := fun is => here ((texts rfl _).mpr is)
      up := fun is => up ((texts rfl _).mpr is)
      upFirst := upFirst
      upWithin := upWithin
      upLast := upLast
      dotWithin := dotWithin
      dotLast := dotLast }⟩
  · rintro ⟨trimmed, some_, safe⟩
    rw [trimmed]
    refine ⟨⟨⟨⟨⟨⟨⟨⟨⟨⟨⟨⟨some_, rfl⟩, ?_⟩, ?_⟩, safe.top⟩, ?_⟩, ?_⟩, safe.upFirst⟩, safe.upWithin⟩,
      safe.upLast⟩, ?_⟩, safe.dotWithin⟩, safe.dotLast⟩
    · exact fun inside => safe.null ((List.singleton_infix_iff _ _).mp inside)
    · exact fun inside => safe.colon ((List.singleton_infix_iff _ _).mp inside)
    · exact fun is => safe.here ((texts rfl _).mp is)
    · exact fun is => safe.up ((texts rfl _).mp is)
    · -- A dot before `/../`.
      rintro ⟨rest, whole⟩
      exact safe.upWithin ⟨dot, rest, whole⟩

theorem assertSafe_eq_ok_iff : assertSafeRoadmapArtifactPath p = .ok a ↔
    isUnsafeRoadmapArtifactPath p = false ∧ a = normalizeRoadmapArtifactPath p := by
  unfold assertSafeRoadmapArtifactPath
  cases unsafe_ : isUnsafeRoadmapArtifactPath p with
  | true => simp
  | false =>
    rw [(safe_iff.mp unsafe_).1]
    simp [eq_comm]

/-! ### Accepted paths are relative -/

theorem up_not_mem_of_safe (safe : isUnsafeRoadmapArtifactPath p = false) :
    LexicalPath.up ∉ artifactSegments p := by
  obtain ⟨-, -, safe⟩ := safe_iff.mp safe
  intro inside
  rcases mem_segmentsOf_cases inside with whole | first | within | last
  · exact safe.up whole
  · exact safe.upFirst first
  · exact safe.upWithin within
  · exact safe.upLast last

theorem relative_of_safe (safe : isUnsafeRoadmapArtifactPath p = false) :
    (normalizeRoadmapArtifactPath p).toList.head? ≠ some '/' ∧
      driveOf (normalizeRoadmapArtifactPath p).toList = none := by
  obtain ⟨-, -, safe⟩ := safe_iff.mp safe
  refine ⟨fun first => safe.top (List.singleton_prefix_iff_head?_eq_some.mpr first), ?_⟩
  have noColon := safe.colon
  unfold driveOf
  split
  next letter path same =>
    rw [same] at noColon
    exact absurd (List.mem_cons_of_mem _ List.mem_cons_self) noColon
  next => rfl

/-- An accepted path leads down from the root by its names. -/
theorem artifactPlace_of_safe (safe : isUnsafeRoadmapArtifactPath p = false) :
    artifactPlace root (normalizeRoadmapArtifactPath p) =
      ⟨root.place.drive, root.place.names ++ artifactNames p⟩ := by
  obtain ⟨noSlash, noDrive⟩ := relative_of_safe safe
  have drives : (root.place.drive.bind fun _ => driveOf (normalizeRoadmapArtifactPath p).toList) =
      none := by
    rw [noDrive]
    cases root.place.drive <;> rfl
  rw [artifactPlace, normalize_normalize, Root.resolve, drives]
  simp only [resolveOn, if_neg noSlash]
  rw [← artifactSegments, resolve_of_no_up _ (up_not_mem_of_safe safe), artifactNames]

theorem strictlyBelow_iff (names : List Name) :
    StrictlyBelow root.place ⟨root.place.drive, root.place.names ++ names⟩ ↔ names ≠ [] := by
  constructor
  · rintro ⟨-, -, other⟩ none_
    exact other (by rw [none_, List.append_nil])
  · intro some_
    refine ⟨rfl, ⟨names, rfl⟩, fun same => ?_⟩
    exact some_ (List.append_right_eq_self.mp same)

/-! ### Two spellings -/

theorem normalize_concat_slash (p : String) : (normalizeRoadmapArtifactPath (p ++ "/")).toList =
    (normalizeRoadmapArtifactPath p).toList ++ ['/'] := by
  unfold normalizeRoadmapArtifactPath
  rw [String.toList_ofList, String.toList_ofList, String.toList_append, List.map_append]
  rfl

/-- With a slash behind, the characters stay safe. -/
theorem safeChars_concat_slash {cs : List Char} (some_ : cs ≠ []) (safe : SafeChars cs) :
    SafeChars (cs ++ ['/']) := by
  have endsInSlash {front : List Char} {c : Char} (other : c ≠ '/') :
      ¬ front ++ [c] <:+ cs ++ ['/'] := by
    intro last
    rcases List.suffix_concat_iff.mp last with none_ | ⟨rest, same, -⟩
    · exact List.append_ne_nil_of_right_ne_nil _ (List.cons_ne_nil _ _) none_
    · have chars := congrArg List.getLast? same
      rw [List.getLast?_concat, List.getLast?_concat] at chars
      exact other (Option.some.inj chars)
  have within {front : List Char} (inside : front ++ ['/'] <:+: cs ++ ['/']) :
      front <:+ cs ∨ front ++ ['/'] <:+: cs := by
    rcases List.infix_concat_iff.mp inside with last | before
    · rcases List.suffix_concat_iff.mp last with none_ | ⟨rest, same, last⟩
      · exact absurd none_ (List.append_ne_nil_of_right_ne_nil _ (List.cons_ne_nil _ _))
      · rw [List.append_cancel_right_eq] at same
        exact .inl (same ▸ last)
    · exact .inr before
  exact {
    null := by simpa using safe.null
    colon := by simpa using safe.colon
    top := by
      intro first
      rw [List.singleton_prefix_iff_head?_eq_some, List.head?_append_of_ne_nil _ some_,
        ← List.singleton_prefix_iff_head?_eq_some] at first
      exact safe.top first
    here := fun is => @endsInSlash [] '.' (by decide) ⟨[], is.symm⟩
    up := fun is => @endsInSlash ['.'] '.' (by decide) ⟨[], is.symm⟩
    upFirst := by
      intro first
      rcases List.prefix_concat_iff.mp first with same | before
      · rw [List.append_cancel_right_eq] at same
        exact safe.up same.symm
      · exact safe.upFirst before
    upWithin := by
      intro inside
      rcases @within ('/' :: LexicalPath.up) inside with last | before
      · exact safe.upLast last
      · exact safe.upWithin before
    upLast := @endsInSlash ['/', '.'] '.' (by decide)
    dotWithin := by
      intro inside
      rcases @within ['/', '.'] inside with last | before
      · exact safe.dotLast last
      · exact safe.dotWithin before
    dotLast := @endsInSlash ['/'] '.' (by decide) }

/-- With a path, the same path with a slash behind is accepted. -/
theorem safe_concat_slash (safe : isUnsafeRoadmapArtifactPath p = false) :
    isUnsafeRoadmapArtifactPath (p ++ "/") = false := by
  obtain ⟨trimmed, some_, safe⟩ := safe_iff.mp safe
  have chars : p.toList ≠ [] := fun none_ => some_ (String.toList_injective none_)
  have slash : "/".toList = ['/'] := rfl
  refine safe_iff.mpr ⟨?_, ?_, ?_⟩
  · apply trim_of_trimmed
    have ends := trimmed_trim p
    rw [trimmed] at ends
    rw [String.toList_append, slash]
    refine ⟨fun c first => ?_, fun c last => ?_⟩
    · rw [List.head?_append_of_ne_nil _ chars] at first
      exact ends.1 c first
    · rw [List.getLast?_concat] at last
      obtain rfl := Option.some.inj last
      decide
  · intro none_
    have texts := congrArg String.toList none_
    rw [String.toList_append, slash] at texts
    exact List.append_ne_nil_of_right_ne_nil _ (List.cons_ne_nil _ _) texts
  · rw [normalize_concat_slash]
    refine safeChars_concat_slash ?_ safe
    intro none_
    rw [normalizeRoadmapArtifactPath, String.toList_ofList, List.map_eq_nil_iff] at none_
    exact chars none_

theorem artifactNames_concat_slash (p : String) : artifactNames (p ++ "/") = artifactNames p ∧
    normalizeRoadmapArtifactPath (p ++ "/") ≠ normalizeRoadmapArtifactPath p := by
  constructor
  · rw [artifactNames, artifactSegments, normalize_concat_slash, segmentsOf_append, downs_append]
    exact List.append_nil _
  · intro same
    have chars := congrArg String.toList same
    rw [normalize_concat_slash] at chars
    exact absurd (List.append_right_eq_self.mp chars) (List.cons_ne_nil _ _)

theorem normalize_eq_iff : normalizeRoadmapArtifactPath p = normalizeRoadmapArtifactPath q ↔
    artifactSegments p = artifactSegments q := by
  constructor
  · intro same
    rw [artifactSegments, artifactSegments, same]
  · intro same
    have texts := congrArg (List.intercalate ['/']) same
    rw [artifactSegments, artifactSegments, intercalate_segmentsOf, intercalate_segmentsOf] at texts
    exact String.toList_injective texts

theorem artifactNames_of_plain (plain : Plain p) : artifactNames p = artifactSegments p := by
  refine List.filter_eq_self.mpr fun name inside => ?_
  obtain ⟨some_, notDot⟩ := plain name inside
  simp [some_, notDot]

theorem oneSpelling_of_plain
    (plain : ∀ p, paths p → isUnsafeRoadmapArtifactPath p = false → Plain p) :
    OneSpelling root paths := by
  constructor
  · intro p a isPath accepted
    obtain ⟨safe, rfl⟩ := assertSafe_eq_ok_iff.mp accepted
    rw [artifactPlace_of_safe safe, strictlyBelow_iff, artifactNames_of_plain (plain p isPath safe)]
    exact PathPattern.segmentsOf_ne_nil _
  · intro p q a b isPath isPath' accepted accepted' place
    obtain ⟨safe, rfl⟩ := assertSafe_eq_ok_iff.mp accepted
    obtain ⟨safe', rfl⟩ := assertSafe_eq_ok_iff.mp accepted'
    rw [artifactPlace_of_safe safe, artifactPlace_of_safe safe', FilePlace.mk.injEq,
      List.append_cancel_left_eq, artifactNames_of_plain (plain p isPath safe),
      artifactNames_of_plain (plain q isPath' safe')] at place
    exact normalize_eq_iff.mpr place.2

theorem plain_of_oneSpelling (hasPlain : HasPlain paths) (one : OneSpelling root paths) :
    ∀ p, paths p → isUnsafeRoadmapArtifactPath p = false → Plain p := by
  intro p isPath safe
  have accepted := assertSafe_eq_ok_iff.mpr ⟨safe, rfl⟩
  have below := one.below p _ isPath accepted
  rw [artifactPlace_of_safe safe, strictlyBelow_iff] at below
  obtain ⟨q, isPath', safe', plain, names⟩ := hasPlain p isPath safe below
  have texts := one.same p q _ _ isPath isPath' accepted (assertSafe_eq_ok_iff.mpr ⟨safe', rfl⟩) (by
    rw [artifactPlace_of_safe safe, artifactPlace_of_safe safe', names])
  rw [Plain, normalize_eq_iff.mp texts]
  exact plain

/-- The accepted paths of a collection have one spelling if they are plain. The converse holds for
a collection that has its paths plain, too; and of all strings none has one spelling. -/
theorem one_spelling_iff (root : Root) (paths : String → Prop) :
    ((∀ p, paths p → isUnsafeRoadmapArtifactPath p = false → Plain p) → OneSpelling root paths) ∧
      (HasPlain paths → (OneSpelling root paths ↔
        ∀ p, paths p → isUnsafeRoadmapArtifactPath p = false → Plain p)) ∧
      ∀ p, isUnsafeRoadmapArtifactPath p = false → ∃ q b, assertSafeRoadmapArtifactPath q = .ok b ∧
        artifactPlace root b = artifactPlace root (normalizeRoadmapArtifactPath p) ∧
        b ≠ normalizeRoadmapArtifactPath p := by
  refine ⟨oneSpelling_of_plain, fun hasPlain => ?_, fun p safe => ?_⟩
  · exact ⟨plain_of_oneSpelling hasPlain, oneSpelling_of_plain⟩
  · have safe' := safe_concat_slash safe
    obtain ⟨names, texts⟩ := artifactNames_concat_slash p
    refine ⟨p ++ "/", _, assertSafe_eq_ok_iff.mpr ⟨safe', rfl⟩, ?_, texts⟩
    rw [artifactPlace_of_safe safe, artifactPlace_of_safe safe', names]

end Spelling

/-- The directory `/r`. -/
def sampleRoot : Root := ⟨⟨none, [['r']]⟩, fun _ => []⟩

/-- Two files of one batch. -/
theorem plain_files_have_one_spelling :
    OneSpelling sampleRoot fun p => p = "a.md" ∨ p = "docs\\b.md" := by
  apply (one_spelling_iff _ _).1
  rintro p (rfl | rfl) _
  · decide
  · decide

/-- A file, and the same file behind a `./`. -/
theorem dotted_file_has_two_spellings : ¬ OneSpelling sampleRoot fun _ => True := by
  intro one
  have same := one.same "a.md" "./a.md" "a.md" "./a.md" trivial trivial (by decide) (by decide)
    (by decide)
  revert same
  decide

end AifHandoff.Data
