import AifHandoff.Lib.PathPattern

/-!
Paths as texts, resolved by their spelling alone.

The segments of a path stand between its slashes; its names are the segments that are not empty.
Resolving goes down by a name, stays at `.` and goes up at `..`.
-/

namespace AifHandoff.LexicalPath

open PathPattern

abbrev Name := List Char

def names (path : List Char) : List Name := (segmentsOf path).filter fun name => !name.isEmpty

def dot : Name := ['.']

def up : Name := ['.', '.']

/-- One step of a path. -/
def step (place : List Name) (name : Name) : List Name :=
  if name = [] ∨ name = dot then place
  else if name = up then place.dropLast
  else place ++ [name]

/-- Where a path leads from a place. -/
def resolve (place : List Name) (path : List Name) : List Name := path.foldl step place

variable {path front behind : List Char} {place : List Name} {name : Name} {ns : List Name}

/-! ### Names -/

theorem names_append_slash (front behind : List Char) :
    names (front ++ '/' :: behind) = names front ++ names behind := by
  rw [names, segmentsOf_append, List.filter_append]
  rfl

theorem names_nil : names [] = [] := rfl

theorem names_cons_slash : names ('/' :: path) = names path := by
  have split := names_append_slash [] path
  rwa [List.nil_append, names_nil, List.nil_append] at split

theorem names_concat_slash : names (path ++ ['/']) = names path := by
  rw [names_append_slash, names_nil, List.append_nil]

theorem names_dropWhile_slash : names (path.dropWhile (· == '/')) = names path := by
  induction path with
  | nil => rfl
  | cons c rest ih =>
    by_cases slash : c = '/'
    · rw [slash, names_cons_slash]
      exact ih
    · rw [List.dropWhile_cons_of_neg (by simpa using slash)]

theorem names_dropSlashesBehind :
    names (path.reverse.dropWhile (· == '/')).reverse = names path := by
  induction path using List.reverseRecOn with
  | nil => rfl
  | append_singleton rest c ih =>
    rw [List.reverse_append, List.reverse_singleton, List.singleton_append]
    by_cases slash : c = '/'
    · rw [slash, names_concat_slash]
      exact ih
    · rw [List.dropWhile_cons_of_neg (by simpa using slash), List.reverse_cons,
        List.reverse_reverse]

theorem slash_not_mem (inside : name ∈ segmentsOf path) : '/' ∉ name := by
  induction path generalizing name with
  | nil =>
    rw [List.mem_singleton.mp inside]
    exact List.not_mem_nil
  | cons c rest ih =>
    rw [segmentsOf, List.splitOn_cons_eq_if_modifyHead] at inside
    split at inside
    · rcases List.mem_cons.mp inside with rfl | later
      · exact List.not_mem_nil
      · exact ih later
    · rename_i other
      cases split : List.splitOn '/' rest with
      | nil => exact absurd split (List.splitOn_ne_nil '/' rest)
      | cons first others =>
        rw [split, List.modifyHead_cons] at inside
        have tail {name : Name} (member : name ∈ first :: others) : '/' ∉ name :=
          ih (by rw [segmentsOf, split]; exact member)
        rcases List.mem_cons.mp inside with rfl | later
        · intro found
          rcases List.mem_cons.mp found with rfl | found
          · exact other (beq_self_eq_true _)
          · exact tail List.mem_cons_self found
        · exact tail (List.mem_cons_of_mem _ later)

theorem mem_names : name ∈ names path ↔ name ∈ segmentsOf path ∧ name ≠ [] := by
  simp [names]

theorem head_of_names_eq_nil {c : Char} {rest : List Char} (none_ : names (c :: rest) = []) :
    c = '/' := by
  by_contra other
  rw [names, segmentsOf, List.splitOn_cons_eq_if_modifyHead, if_neg (by simpa using other)] at none_
  cases split : List.splitOn '/' rest with
  | nil => exact absurd split (List.splitOn_ne_nil '/' rest)
  | cons first others =>
    rw [split, List.modifyHead_cons, List.filter_cons] at none_
    cases none_

theorem segmentsOf_intercalate (plain : ∀ name ∈ ns, '/' ∉ name) (some_ : ns ≠ []) :
    segmentsOf (['/'].intercalate ns) = ns := List.splitOn_intercalate '/' plain some_

/-! ### White space -/

/-- No white space at the ends. -/
def Trimmed (cs : List Char) : Prop :=
  (∀ c ∈ cs.head?, Text.isSpace c = false) ∧ ∀ c ∈ cs.getLast?, Text.isSpace c = false

instance : DecidablePred Trimmed := fun cs =>
  inferInstanceAs (Decidable ((∀ c ∈ cs.head?, _) ∧ ∀ c ∈ cs.getLast?, _))

theorem trimmed_nil : Trimmed [] := ⟨by simp, by simp⟩

theorem trimmed_trim (s : String) : Trimmed (Text.trim s).toList := by
  have first := List.head?_dropWhile_not Text.isSpace s.toList
  have last := List.head?_dropWhile_not Text.isSpace (s.toList.dropWhile Text.isSpace).reverse
  rw [Text.trim, String.toList_ofList]
  constructor
  · intro c inside
    have inner : ((s.toList.dropWhile Text.isSpace).reverse.dropWhile Text.isSpace).reverse <+:
        s.toList.dropWhile Text.isSpace := by
      rw [← List.reverse_suffix, List.reverse_reverse]
      exact List.dropWhile_suffix _
    obtain ⟨more, whole⟩ := inner
    cases shape : ((s.toList.dropWhile Text.isSpace).reverse.dropWhile Text.isSpace).reverse with
    | nil =>
      rw [shape] at inside
      cases inside
    | cons d rest =>
      rw [shape] at inside whole
      cases inside
      rw [← whole] at first
      simpa using first
  · intro c inside
    rw [List.getLast?_reverse] at inside
    rw [show _ = some c from inside] at last
    simpa using last

theorem trim_of_trimmed {s : String} (trimmed : Trimmed s.toList) : Text.trim s = s := by
  obtain ⟨first, last⟩ := trimmed
  have front : s.toList.dropWhile Text.isSpace = s.toList := by
    cases shape : s.toList with
    | nil => rfl
    | cons c rest => simp [first c (by simp [shape])]
  have back : s.toList.reverse.dropWhile Text.isSpace = s.toList.reverse := by
    cases shape : s.toList.reverse with
    | nil => rfl
    | cons c rest =>
      have isLast : c ∈ s.toList.getLast? := by
        rw [← List.head?_reverse, shape]
        rfl
      simp [last c isLast]
  rw [Text.trim, front, back, List.reverse_reverse, String.ofList_toList]

theorem trimmed_append_slash {front behind : List Char} (some_ : front ≠ []) (last : behind ≠ [])
    (left : Trimmed front) (right : Trimmed behind) : Trimmed (front ++ '/' :: behind) := by
  constructor
  · intro c first
    rw [List.head?_append_of_ne_nil _ some_] at first
    exact left.1 c first
  · intro c final
    rw [List.getLast?_append_of_ne_nil _ (by simp), List.getLast?_cons_of_ne_nil last] at final
    exact right.2 c final

theorem trimmed_intercalate (all : ∀ name ∈ ns, name ≠ [] ∧ Trimmed name) :
    Trimmed (['/'].intercalate ns) := by
  induction ns with
  | nil => exact trimmed_nil
  | cons name rest ih =>
    have first := all name List.mem_cons_self
    cases rest with
    | nil =>
      rw [List.intercalate_singleton]
      exact first.2
    | cons next rest =>
      have later := ih fun other inside => all other (List.mem_cons_of_mem name inside)
      have nextSome := (all next (by simp)).1
      rw [List.intercalate_cons_cons, List.append_assoc, List.singleton_append]
      refine trimmed_append_slash first.1 ?_ first.2 later
      cases rest with
      | nil => simpa using nextSome
      | cons _ _ => simp [List.intercalate_cons_cons]

/-- A path that neither begins nor ends with a slash is trimmed when its names are. -/
theorem trimmed_of_names (noFirst : path.head? ≠ some '/') (noLast : path.getLast? ≠ some '/')
    (all : ∀ name ∈ names path, Trimmed name) : Trimmed path := by
  have whole := intercalate_segmentsOf path
  constructor
  · intro c first
    cases split : segmentsOf path with
    | nil => exact absurd split (segmentsOf_ne_nil path)
    | cons name rest =>
      have some_ : name ≠ [] := by
        rintro rfl
        rw [split] at whole
        cases rest with
        | nil =>
          rw [List.intercalate_singleton] at whole
          rw [← whole] at first
          cases first
        | cons next rest =>
          rw [List.intercalate_cons_cons] at whole
          rw [← whole] at noFirst
          exact noFirst rfl
      refine (all name (mem_names.mpr ⟨by simp [split], some_⟩)).1 c ?_
      rw [split] at whole
      cases rest with
      | nil =>
        rw [List.intercalate_singleton] at whole
        rwa [← whole] at first
      | cons next rest =>
        rw [List.intercalate_cons_cons, List.append_assoc] at whole
        rw [← whole, List.head?_append_of_ne_nil _ some_] at first
        exact first
  · intro c last
    rcases List.eq_nil_or_concat (segmentsOf path) with none_ | ⟨before, name, split⟩
    · exact absurd none_ (segmentsOf_ne_nil path)
    · rw [List.concat_eq_append] at split
      rw [split] at whole
      have tail : path.getLast? = name.getLast? ∨ name = [] ∧
          (path = [] ∨ path.getLast? = some '/') := by
        cases before with
        | nil =>
          rw [List.nil_append, List.intercalate_singleton] at whole
          rw [whole]
          exact .inl rfl
        | cons start others =>
          rw [intercalate_append (List.cons_ne_nil start others), List.intercalate_singleton] at whole
          rw [← whole]
          by_cases none_ : name = []
          · refine .inr ⟨none_, .inr ?_⟩
            rw [none_, List.getLast?_append_of_ne_nil _ (by simp)]
            rfl
          · refine .inl ?_
            rw [List.getLast?_append_of_ne_nil _ (by simp), List.getLast?_cons_of_ne_nil none_]
      rcases tail with same | ⟨_, empty | slash⟩
      · rw [same] at last
        have some_ : name ≠ [] := by
          rintro rfl
          cases last
        exact (all name (mem_names.mpr ⟨by simp [split], some_⟩)).2 c last
      · rw [empty] at last
        cases last
      · exact absurd slash noLast

/-! ### Going up -/

/-- A `..` stands at the head of a path, between two slashes, or at its end. -/
theorem up_cases (inside : up ∈ segmentsOf path) :
    up <+: path ∨ '/' :: up ++ ['/'] <:+: path ∨
      ∃ front, path = front ++ '/' :: up ∧ up ∉ segmentsOf front := by
  obtain ⟨before, after, split, first⟩ := List.eq_append_cons_of_mem inside
  have whole := intercalate_segmentsOf path
  rw [split] at whole
  cases before with
  | nil =>
    refine .inl ?_
    rw [← whole]
    cases after with
    | nil => simp [List.intercalate]
    | cons next rest => simp [List.intercalate]
  | cons start others =>
    rw [intercalate_append (List.cons_ne_nil start others)] at whole
    cases after with
    | nil =>
      refine .inr (.inr ⟨['/'].intercalate (start :: others), ?_, ?_⟩)
      · rw [← whole]
        simp [List.intercalate]
      · rw [segmentsOf_intercalate _ (by simp)]
        · exact first
        · intro name member
          have inPath : name ∈ segmentsOf path := by
            rw [split]
            exact List.mem_append_left _ member
          exact slash_not_mem inPath
    | cons next rest =>
      refine .inr (.inl ⟨['/'].intercalate (start :: others), ['/'].intercalate (next :: rest),
        ?_⟩)
      rw [← whole]
      simp [List.intercalate]

/-- A segment is the whole path, or stands at its head, between two slashes, or at its end. -/
theorem mem_segmentsOf_cases (inside : name ∈ segmentsOf path) :
    path = name ∨ name ++ ['/'] <+: path ∨ '/' :: name ++ ['/'] <:+: path ∨ '/' :: name <:+ path := by
  obtain ⟨before, after, split⟩ := List.append_of_mem inside
  have whole := intercalate_segmentsOf path
  rw [split] at whole
  cases before with
  | nil =>
    cases after with
    | nil =>
      rw [List.nil_append, List.intercalate_singleton] at whole
      exact .inl whole.symm
    | cons next rest =>
      rw [List.nil_append, List.intercalate_cons_cons] at whole
      exact .inr (.inl ⟨_, whole⟩)
  | cons start others =>
    rw [intercalate_append (List.cons_ne_nil start others)] at whole
    cases after with
    | nil =>
      rw [List.intercalate_singleton] at whole
      exact .inr (.inr (.inr ⟨_, whole⟩))
    | cons next rest =>
      rw [List.intercalate_cons_cons] at whole
      refine .inr (.inr (.inl ⟨['/'].intercalate (start :: others),
        ['/'].intercalate (next :: rest), ?_⟩))
      rw [← whole]
      simp

/-! ### Resolving -/

/-- The names that lead down. -/
def downs (path : List Name) : List Name := path.filter fun name => name != [] && name != dot

theorem resolve_of_no_up (place : List Name) {path : List Name} (none_ : up ∉ path) :
    resolve place path = place ++ downs path := by
  induction path generalizing place with
  | nil => rw [resolve, downs, List.foldl_nil, List.filter_nil, List.append_nil]
  | cons name rest ih =>
    rw [List.mem_cons, not_or] at none_
    obtain ⟨notUp, none_⟩ := none_
    change resolve (step place name) rest = _
    rw [ih _ none_, step, downs, downs, List.filter_cons]
    by_cases stays : name = [] ∨ name = dot
    · rw [if_pos stays]
      rcases stays with rfl | rfl <;> simp
    · rw [if_neg stays, if_neg (Ne.symm notUp)]
      rw [not_or] at stays
      simp [stays.1, stays.2]

theorem downs_append (a b : List Name) : downs (a ++ b) = downs a ++ downs b := List.filter_append _ _

theorem downs_names (path : List Char) : downs (names path) = downs (segmentsOf path) := by
  rw [downs, names, List.filter_filter]
  apply List.filter_congr
  intro name _
  cases name <;> simp

theorem downs_dots {dots : List Name} (all : ∀ name ∈ dots, name = dot) : downs dots = [] := by
  refine List.filter_eq_nil_iff.mpr fun name inside => ?_
  rw [all name inside]
  decide

theorem resolve_take (place : List Name) {path : List Name} (none_ : up ∉ path) (n : Nat) :
    resolve place (path.take n) <+: resolve place path := by
  rw [resolve_of_no_up place none_,
    resolve_of_no_up place fun inside => none_ (List.mem_of_mem_take inside)]
  exact List.prefix_append_right_inj place |>.mpr ((List.take_prefix n path).filter _)

end AifHandoff.LexicalPath
