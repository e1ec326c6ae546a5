import AifHandoff.Shared.FencedContracts
import AifHandoff.Shared.EvidenceLedger

/-!
The scopes of proposed children (`shared/planningDecisionContract.ts`).

The entries of a scope are trimmed and told apart as they are written; then their slashes are
unified and taken off at the ends, and the result is compared with a pattern.
-/

namespace AifHandoff.Shared.Manifest

open Regex hiding dot
open Json LexicalPath PathPattern

/-! ### Concrete paths -/

/-- A letter and a colon in front. -/
def hasDrive : List Char → Bool
  | letter :: ':' :: _ => letter.isAlpha
  | _ => false

def wildcards : List Char := "?*[]\x7b\x7d".toList

/-- A path that leads from the root of the repository to something below it. -/
structure ConcretePath (path : String) : Prop where
  nonEmpty : path ≠ ""
  relative : path.toList.head? ≠ some '/'
  noDrive : hasDrive path.toList = false
  noWildcard : ∀ c ∈ wildcards, c ∉ path.toList
  notRoot : resolve [] (segmentsOf path.toList) ≠ []
  notBroad : test broadOrWildcardScopePattern path = false
  noUp : up ∉ segmentsOf path.toList

structure ConcreteScope (scope : List String) : Prop where
  path : ∀ path ∈ scope, ConcretePath path
  distinct : scope.Nodup

/-! ### Spellings -/

/-- What is stored of an entry. -/
def scopePath (entry : String) : String :=
  stripTrailingSlashes (Text.stripDotSlash (Text.forwardSlashes entry))

/-- An entry that is written as a path below the root. -/
structure PlainEntry (entry : String) : Prop where
  relative : (Text.forwardSlashes entry).toList.head? ≠ some '/'
  noDrive : hasDrive (Text.stripDotSlash (Text.forwardSlashes entry)).toList = false
  noMark : '?' ∉ entry.toList
  noUp : up ∉ names (Text.forwardSlashes entry).toList
  below : ∃ name ∈ names (Text.forwardSlashes entry).toList, name ≠ dot

/-- Plain entries, none of which becomes the path of another one. -/
structure PlainEntries (entries : List String) : Prop where
  entry : ∀ entry ∈ entries, PlainEntry entry
  apart : ∀ a ∈ entries, ∀ b ∈ entries, a ≠ b → scopePath a ≠ scopePath b

section Spelling

variable {entry path : String}

/-- Only slashes at the end are taken off behind the front `./`. -/
theorem exists_slashes (entry : String) : ∃ slashes, (∀ c ∈ slashes, c = '/') ∧
    (Text.stripDotSlash (Text.forwardSlashes entry)).toList =
      (scopePath entry).toList ++ slashes := by
  rw [scopePath, stripTrailingSlashes, String.toList_ofList]
  generalize (Text.stripDotSlash (Text.forwardSlashes entry)).toList = cs
  refine ⟨(cs.reverse.takeWhile (· == '/')).reverse, fun c inside => ?_, ?_⟩
  · simpa using List.mem_takeWhile_imp (List.mem_reverse.mp inside)
  · rw [← List.reverse_append, List.takeWhile_append_dropWhile, List.reverse_reverse]

theorem names_scopePath (entry : String) :
    names (scopePath entry).toList = names (Text.forwardSlashes entry).toList ∨
      dot :: names (scopePath entry).toList = names (Text.forwardSlashes entry).toList := by
  rw [scopePath, stripTrailingSlashes, String.toList_ofList, names_dropSlashesBehind]
  exact names_stripDotSlash _

theorem mem_names_scopePath {name : Name} (other : name ≠ dot) :
    name ∈ names (scopePath entry).toList ↔
      name ∈ names (Text.forwardSlashes entry).toList := by
  rcases names_scopePath entry with same | dotted
  · rw [same]
  · rw [← dotted, List.mem_cons, or_iff_right other]

theorem head_stripDotSlash (s : String) :
    (Text.stripDotSlash s).toList.head? = some '/' ↔ s.toList.head? = some '/' := by
  unfold Text.stripDotSlash
  split
  next rest shape =>
    rw [shape, String.toList_ofList]
    refine ⟨fun slash => ?_, fun slash => by cases slash⟩
    have first := List.head?_dropWhile_not (fun c => c == '/') rest
    rw [slash] at first
    simp at first
  next => rfl

theorem head_scopePath (some_ : scopePath entry ≠ "") :
    (scopePath entry).toList.head? = some '/' ↔
      (Text.forwardSlashes entry).toList.head? = some '/' := by
  rw [← head_stripDotSlash (Text.forwardSlashes entry)]
  obtain ⟨slashes, -, whole⟩ := exists_slashes entry
  cases shape : (scopePath entry).toList with
  | nil => exact absurd (String.toList_eq_nil_iff.mp shape) some_
  | cons c rest =>
    rw [whole, shape]
    rfl

theorem hasDrive_append {front slashes : List Char} (only : ∀ c ∈ slashes, c = '/') :
    hasDrive (front ++ slashes) = hasDrive front := by
  cases slashes with
  | nil => rw [List.append_nil]
  | cons c others =>
    obtain rfl := only c List.mem_cons_self
    match front with
    | [] =>
      cases others with
      | nil => rfl
      | cons d others =>
        obtain rfl := only d (List.mem_cons_of_mem _ List.mem_cons_self)
        rfl
    | [letter] => rfl
    | letter :: second :: rest => by_cases colon : second = ':' <;> simp [hasDrive, colon]

theorem hasDrive_scopePath (entry : String) : hasDrive (scopePath entry).toList =
    hasDrive (Text.stripDotSlash (Text.forwardSlashes entry)).toList := by
  obtain ⟨slashes, only, whole⟩ := exists_slashes entry
  rw [whole, hasDrive_append only]

theorem mem_stripDotSlash_iff {s : String} {c : Char} (noSlash : c ≠ '/') (noDot : c ≠ '.') :
    c ∈ (Text.stripDotSlash s).toList ↔ c ∈ s.toList := by
  refine ⟨mem_stripDotSlash, fun inside => ?_⟩
  unfold Text.stripDotSlash
  split
  next rest shape =>
    rw [shape, List.mem_cons, List.mem_cons, or_iff_right noDot, or_iff_right noSlash] at inside
    rw [String.toList_ofList]
    rw [← @List.takeWhile_append_dropWhile _ (· == '/') rest, List.mem_append] at inside
    refine inside.resolve_left fun among => noSlash ?_
    simpa using List.mem_takeWhile_imp among
  next => exact inside

theorem mem_forwardSlashes_iff {s : String} {c : Char} (noSlash : c ≠ '/') (noBack : c ≠ '\\') :
    c ∈ (Text.forwardSlashes s).toList ↔ c ∈ s.toList := by
  rw [Text.forwardSlashes, String.toList_ofList, List.mem_map]
  constructor
  · rintro ⟨d, inside, same⟩
    split at same
    · exact absurd same.symm noSlash
    · rwa [← same]
  · intro inside
    exact ⟨c, inside, if_neg noBack⟩

theorem mark_mem_scopePath : '?' ∈ (scopePath entry).toList ↔ '?' ∈ entry.toList := by
  obtain ⟨slashes, only, whole⟩ := exists_slashes entry
  rw [← @mem_forwardSlashes_iff entry '?' (by decide) (by decide),
    ← @mem_stripDotSlash_iff (Text.forwardSlashes entry) '?' (by decide) (by decide),
    whole, List.mem_append]
  exact (or_iff_left fun among => absurd (only _ among) (by decide)).symm

theorem not_mem_of_not_broad {c : Char} (allowed : test broadOrWildcardScopePattern path = false)
    (wild : c ∈ "*\x7b\x7d[]".toList) : c ∉ path.toList := by
  intro inside
  obtain ⟨front, behind, split⟩ := List.append_of_mem inside
  have found : test broadOrWildcardScopePattern path = true := by
    refine test_iff_reads.mpr ⟨front, c :: behind, ⟨c :: front.reverse, behind⟩, split, ?_⟩
    refine .inr (.inl ⟨c, behind, rfl, ?_, rfl⟩)
    simpa using wild
  rw [allowed] at found
  cases found

theorem resolve_ne_nil_iff {path : List Char} (noUp : up ∉ segmentsOf path) :
    resolve [] (segmentsOf path) ≠ [] ↔ ∃ name ∈ names path, name ≠ dot := by
  rw [resolve_of_no_up [] noUp, List.nil_append, ← downs_names, Ne, downs,
    List.filter_eq_nil_iff, not_forall]
  refine exists_congr fun name => ?_
  rw [Classical.not_imp]
  refine and_congr_right fun inside => ?_
  have some_ := (mem_names.mp inside).2
  simp [some_]

theorem up_mem_names {path : List Char} : up ∈ segmentsOf path ↔ up ∈ names path :=
  (mem_names.trans (and_iff_left (by decide))).symm

/-- The stored path of an entry that the pattern lets through is concrete exactly if the entry
is written as a path below the root. -/
theorem concretePath_scopePath_iff
    (allowed : test broadOrWildcardScopePattern (scopePath entry) = false) :
    ConcretePath (scopePath entry) ↔ PlainEntry entry := by
  constructor
  · intro concrete
    have noUp : up ∉ names (Text.forwardSlashes entry).toList := by
      rw [← mem_names_scopePath (by decide), ← up_mem_names]
      exact concrete.noUp
    refine ⟨?_, ?_, ?_, noUp, ?_⟩
    case refine_1 =>
      rw [Ne, ← head_scopePath concrete.nonEmpty]
      exact concrete.relative
    case refine_2 =>
      rw [← hasDrive_scopePath]
      exact concrete.noDrive
    case refine_3 =>
      rw [← mark_mem_scopePath]
      exact concrete.noWildcard '?' (by decide)
    case refine_4 =>
      obtain ⟨name, inside, other⟩ := (resolve_ne_nil_iff concrete.noUp).mp concrete.notRoot
      exact ⟨name, (mem_names_scopePath other).mp inside, other⟩
  · intro plain
    obtain ⟨name, inside, other⟩ := plain.below
    have stored := (mem_names_scopePath other).mpr inside
    have some_ : scopePath entry ≠ "" := by
      intro nothing
      rw [nothing] at stored
      cases stored
    have noUp : up ∉ segmentsOf (scopePath entry).toList := by
      rw [up_mem_names, mem_names_scopePath (by decide)]
      exact plain.noUp
    refine ⟨some_, ?_, ?_, ?_, (resolve_ne_nil_iff noUp).mpr ⟨name, stored, other⟩, allowed, noUp⟩
    case refine_1 =>
      rw [Ne, head_scopePath some_]
      exact plain.relative
    case refine_2 =>
      rw [hasDrive_scopePath]
      exact plain.noDrive
    case refine_3 =>
      intro c wild
      by_cases mark : c = '?'
      · rw [mark, mark_mem_scopePath]
        exact plain.noMark
      · refine not_mem_of_not_broad allowed ?_
        revert c
        decide

end Spelling

/-! ### Accepted contracts -/

section Accepted

variable {ν : Type} {N : NumberTexts ν}

/-- The entries of a child's scope as they are written, each once. -/
def scopeEntries (child : Json ν) : List String :=
  (normalizeStringArray (child.get? "scope") "scope").1

/-- The children that the only decision block of a text states. -/
def statedChildren (N : NumberTexts ν) (text : String) : List (Json ν) :=
  match blocks planningDecisionLanguage text with
  | [block] => (((parse N.read block.toList).bind (·.get? "proposedChildren")).bind asItems).getD []
  | _ => []

theorem nodup_scopeEntries (child : Json ν) : (scopeEntries child).Nodup := by
  rw [scopeEntries, normalizeStringArray]
  split
  · exact List.nodup_nil
  · exact nodup_eraseDups _

theorem entries_label (value : Option (Json ν)) (label label' : String) :
    (normalizeStringArray value label).1 = (normalizeStringArray value label').1 := by
  unfold normalizeStringArray
  cases value.bind asItems <;> rfl

/-- A scope without issues is the list of the stored paths, which the pattern lets through. -/
theorem normalizeScopeArray_of_no_issues {value : Option (Json ν)} {label : String}
    (none_ : (normalizeScopeArray value label).2 = []) :
    (normalizeScopeArray value label).1 = (normalizeStringArray value label).1.map scopePath ∧
      ∀ path ∈ (normalizeScopeArray value label).1,
        test broadOrWildcardScopePattern path = false := by
  refine ⟨rfl, fun path inside => ?_⟩
  have issues := (List.append_eq_nil_iff.mp none_).2
  have passed := List.filter_eq_nil_iff.mp (List.map_eq_nil_iff.mp issues) path inside
  simpa using passed

theorem normalizeNonEmptyString_of_no_issues {value : Option (Json ν)} {label : String}
    (none_ : (normalizeNonEmptyString value label).2 = []) :
    (normalizeNonEmptyString value label).1.isEmpty = false := by
  unfold normalizeNonEmptyString at none_ ⊢
  cases useful : (value.bind asText).filter isUseful with
  | none =>
    rw [useful] at none_
    cases none_
  | some text =>
    have filled := (Option.filter_eq_some_iff.mp useful).2
    rw [isUseful, Bool.not_eq_true'] at filled
    exact filled

theorem issues_normalizeProposedChild {value : Json ν} (isRecord : isObject value = true)
    (index : Nat) :
    let label := "proposedChildren[" ++ toString index ++ "]"
    (normalizeProposedChild value index).2 =
      (normalizeNonEmptyString (value.get? "title") (label ++ ".title")).2 ++
      (if ((textField value "taskIntent").filter planningDecisionChildIntents.contains).isSome
        then [] else [label ++ ".taskIntent must be one of " ++
          Text.join ", " planningDecisionChildIntents]) ++
      (normalizeScopeArray (value.get? "scope") (label ++ ".scope")).2 ++
      (normalizeStringArray (value.get? "acceptanceCriteria") (label ++ ".acceptanceCriteria")).2 ++
      (normalizeStringArray (value.get? "verificationCommands")
        (label ++ ".verificationCommands")).2 ++
      (normalizeStringArray (value.get? "forbiddenChanges") (label ++ ".forbiddenChanges")).2 := by
  dsimp only
  unfold normalizeProposedChild
  dsimp only
  rw [isRecord, Bool.not_true, if_neg Bool.false_ne_true]
  cases (textField value "taskIntent").filter planningDecisionChildIntents.contains with
  | none => rfl
  | some intent =>
    dsimp only
    split <;> rfl

/-- A child without issues is kept, with the stored paths of its entries. -/
theorem normalizeProposedChild_of_no_issues {value : Json ν} {index : Nat}
    (none_ : (normalizeProposedChild value index).2 = []) :
    ∃ child, (normalizeProposedChild value index).1 = some child ∧
      child.scope = (scopeEntries value).map scopePath ∧
      ∀ path ∈ child.scope, test broadOrWildcardScopePattern path = false := by
  cases isRecord : isObject value with
  | false =>
    unfold normalizeProposedChild at none_
    dsimp only at none_
    rw [isRecord, Bool.not_false, if_pos rfl] at none_
    cases none_
  | true =>
    rw [issues_normalizeProposedChild isRecord] at none_
    simp only [List.append_eq_nil_iff] at none_
    obtain ⟨⟨⟨⟨⟨title, intent⟩, scopes⟩, -⟩, -⟩, -⟩ := none_
    have titled := normalizeNonEmptyString_of_no_issues title
    obtain ⟨paths, allowed⟩ := normalizeScopeArray_of_no_issues scopes
    unfold normalizeProposedChild
    dsimp only
    rw [isRecord, Bool.not_true, if_neg Bool.false_ne_true]
    cases known : (textField value "taskIntent").filter planningDecisionChildIntents.contains with
    | none =>
      rw [known] at intent
      cases intent
    | some kind =>
      dsimp only
      rw [titled, if_neg Bool.false_ne_true]
      exact ⟨_, rfl, paths.trans (congrArg _ (entries_label _ _ _)), allowed⟩

theorem ok_of_ite {ε : Type} {issues : List String} {value contract : ε}
    (accepted : (if issues.isEmpty then Except.ok value else .error issues) = .ok contract) :
    issues = [] ∧ value = contract := by
  cases issues with
  | nil => exact ⟨rfl, Except.ok.inj accepted⟩
  | cons issue rest => cases accepted

theorem children_of_accepted {taskId : String} {parsed : Json ν}
    {contract : AifPlanningDecisionContract}
    (accepted : planningDecisionOf taskId parsed = .ok contract) :
    ∃ items, (parsed.get? "proposedChildren").bind asItems = some items ∧
      contract.proposedChildren =
        (items.zipIdx.map fun item => normalizeProposedChild item.1 item.2).filterMap (·.1) ∧
      ∀ item ∈ items.zipIdx, (normalizeProposedChild item.1 item.2).2 = [] := by
  unfold planningDecisionOf at accepted
  split at accepted
  · cases accepted
  dsimp only at accepted
  obtain ⟨noIssues, rfl⟩ := ok_of_ite accepted
  simp only [List.append_eq_nil_iff, List.flatMap_eq_nil_iff, List.mem_map] at noIssues
  obtain ⟨⟨⟨-, listed⟩, children⟩, -⟩ := noIssues
  cases stated : (parsed.get? "proposedChildren").bind asItems with
  | none =>
    rw [stated] at listed
    cases listed
  | some items =>
    rw [stated] at children
    exact ⟨items, rfl, rfl, fun item inside => children _ ⟨item, inside, rfl⟩⟩

/-- The children of an accepted text are its stated ones, with the stored paths of their
entries, which the pattern lets through. -/
theorem mem_proposedChildren {jsonError : String → String} {text taskId : String}
    {contract : AifPlanningDecisionContract}
    (accepted : parseAifPlanningDecisionContract N jsonError text taskId = .ok contract) :
    (∀ child ∈ contract.proposedChildren, ∃ value ∈ statedChildren N text,
      child.scope = (scopeEntries value).map scopePath) ∧
    (∀ value ∈ statedChildren N text, ∃ child ∈ contract.proposedChildren,
      child.scope = (scopeEntries value).map scopePath) ∧
    ∀ value ∈ statedChildren N text, ∀ entry ∈ scopeEntries value,
      test broadOrWildcardScopePattern (scopePath entry) = false := by
  unfold parseAifPlanningDecisionContract at accepted
  split at accepted
  case h_1 => cases accepted
  case h_3 => cases accepted
  case h_2 block only =>
    split at accepted
    case h_1 => cases accepted
    case h_2 parsed read =>
      obtain ⟨items, listed, children, noIssues⟩ := children_of_accepted accepted
      have stated : statedChildren N text = items := by
        rw [statedChildren, only]
        dsimp only
        rw [read, Option.bind_some, listed, Option.getD_some]
      rw [stated, children]
      refine ⟨fun child inside => ?_, fun value inside => ?_, fun value inside entry among => ?_⟩
      · obtain ⟨normal, among, is⟩ := List.mem_filterMap.mp inside
        obtain ⟨item, inItems, rfl⟩ := List.mem_map.mp among
        obtain ⟨kept, isKept, paths, -⟩ := normalizeProposedChild_of_no_issues (noIssues _ inItems)
        obtain rfl := Option.some.inj (isKept.symm.trans is)
        exact ⟨item.1, List.fst_mem_of_mem_zipIdx inItems, paths⟩
      · obtain ⟨index, at_⟩ := List.mem_iff_getElem?.mp inside
        have inItems := List.mk_mem_zipIdx_iff_getElem?.mpr at_
        obtain ⟨kept, isKept, paths, -⟩ := normalizeProposedChild_of_no_issues (noIssues _ inItems)
        exact ⟨kept, List.mem_filterMap.mpr ⟨_, List.mem_map.mpr ⟨_, inItems, rfl⟩, isKept⟩, paths⟩
      · obtain ⟨index, at_⟩ := List.mem_iff_getElem?.mp inside
        have inItems := List.mk_mem_zipIdx_iff_getElem?.mpr at_
        obtain ⟨kept, -, paths, allowed⟩ := normalizeProposedChild_of_no_issues (noIssues _ inItems)
        exact allowed _ (paths ▸ List.mem_map_of_mem among)

/-- The stored paths of entries that the pattern lets through are concrete and distinct exactly
if the entries are plain ones. -/
theorem concreteScope_map_iff {entries : List String} (once : entries.Nodup)
    (allowed : ∀ entry ∈ entries, test broadOrWildcardScopePattern (scopePath entry) = false) :
    ConcreteScope (entries.map scopePath) ↔ PlainEntries entries := by
  constructor
  · intro concrete
    constructor
    case entry =>
      intro entry among
      exact (concretePath_scopePath_iff (allowed entry among)).mp
        (concrete.path _ (List.mem_map_of_mem among))
    case apart =>
      intro a inA b inB other same
      exact other (List.inj_on_of_nodup_map concrete.distinct inA inB same)
  · intro plain
    constructor
    case path =>
      intro path inside
      obtain ⟨entry, among, rfl⟩ := List.mem_map.mp inside
      exact (concretePath_scopePath_iff (allowed entry among)).mpr (plain.entry entry among)
    case distinct =>
      refine once.map_on fun a inA b inB same => ?_
      by_contra other
      exact plain.apart a inA b inB other same

/-- An accepted contract names concrete boundaries exactly if the entries of its children are
written as different paths below the root. -/
theorem accepted_split_concrete_iff {jsonError : String → String} {text taskId : String}
    {contract : AifPlanningDecisionContract}
    (accepted : parseAifPlanningDecisionContract N jsonError text taskId = .ok contract) :
    (∀ child ∈ contract.proposedChildren, ConcreteScope child.scope) ↔
      ∀ value ∈ statedChildren N text, PlainEntries (scopeEntries value) := by
  obtain ⟨children, values, allowed⟩ := mem_proposedChildren accepted
  have iff_ (value : Json ν) (inside : value ∈ statedChildren N text) :=
    concreteScope_map_iff (nodup_scopeEntries value) (allowed value inside)
  constructor
  · intro concrete value inside
    obtain ⟨child, among, paths⟩ := values value inside
    rw [← iff_ value inside, ← paths]
    exact concrete child among
  · intro plain child among
    obtain ⟨value, inside, paths⟩ := children child among
    rw [paths, iff_ value inside]
    exact plain value inside

end Accepted

/-! ### One child -/

/-- A decision with one child, of one entry. -/
def splitObject (entry : String) : List (String × Json Unit) :=
  [("decision", .str "split_required"), ("taskId", .str "t"), ("reason", .str "r"),
    ("proposedChildren", .arr [.obj [("title", .str "c"), ("taskIntent", .str "fix"),
      ("scope", .arr [.str entry]), ("acceptanceCriteria", .arr [.str "a"]),
      ("verificationCommands", .arr [.str "v"]), ("forbiddenChanges", .arr [.str "f"])]])]

def splitText (entry : String) : String :=
  embed unitNumbers planningDecisionLanguage (.obj (splitObject entry)) "" ""

theorem parse_splitText {entry : String}
    (untouched : ¬ ticks <:+: stringify unitNumbers.write (.obj (splitObject entry))) :
    parseAifPlanningDecisionContract unitNumbers id (splitText entry) "t" =
      planningDecisionOf "t" (.obj (splitObject entry)) := by
  have distinct : Distinct (.obj (splitObject entry)) := by
    simp [splitObject, Distinct, Distinct.DistinctFields, Distinct.DistinctItems]
  rw [parseAifPlanningDecisionContract, splitText,
    blocks_of_embedded isLanguage_planningDecision noFence_empty noFence_empty untouched]
  dsimp only
  rw [String.toList_ofList, parse_stringify_newline unitNumbers_lawful distinct]

def splitContract (path : String) : AifPlanningDecisionContract :=
  ⟨"split_required", "t", "r", [⟨"c", "fix", [path], ["a"], ["v"], ["f"]⟩]⟩

theorem concretePath_file : ConcretePath "a.ts" where
  nonEmpty := by decide
  relative := by decide
  noDrive := by decide
  noWildcard := by decide
  notRoot := by decide
  notBroad := by decide +kernel
  noUp := by decide

/-- The path of a file is concrete, and its entry is a plain one. -/
theorem split_of_a_file :
    (∀ child ∈ (splitContract "a.ts").proposedChildren, ConcreteScope child.scope) ∧
      ∀ value ∈ statedChildren unitNumbers (splitText "./a.ts"),
        PlainEntries (scopeEntries value) := by
  have concrete : ∀ child ∈ (splitContract "a.ts").proposedChildren,
      ConcreteScope child.scope := by
    intro child inside
    rw [List.mem_singleton.mp inside]
    refine ⟨fun path among => ?_, List.nodup_singleton _⟩
    rw [List.mem_singleton.mp among]
    exact concretePath_file
  refine ⟨concrete, (@accepted_split_concrete_iff _ _ id _ "t" _ ?_).mp concrete⟩
  exact (parse_splitText (by decide +kernel)).trans (by decide +kernel)

/-- A child whose only entry is a slash is accepted, with the empty path. -/
theorem split_of_the_root :
    ¬ ∀ (text taskId : String) (contract : AifPlanningDecisionContract),
      parseAifPlanningDecisionContract unitNumbers id text taskId = .ok contract →
      contract.decision = "split_required" →
      ∀ child ∈ contract.proposedChildren, ConcreteScope child.scope := by
  intro concrete
  have read : planningDecisionOf "t" (.obj (splitObject "/")) = .ok (splitContract "") := by
    decide
  have accepted := (parse_splitText (by decide +kernel)).trans read
  have scope := concrete _ _ _ accepted rfl _ List.mem_cons_self
  exact (scope.path "" List.mem_cons_self).nonEmpty rfl

end AifHandoff.Shared.Manifest
