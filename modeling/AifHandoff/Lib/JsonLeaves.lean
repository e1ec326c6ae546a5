import AifHandoff.Lib.JsonNumbers

/-!
The leaves of JSON values, and leaves that are no values.

A leaf stands where a number can. Where it may also be a hole, a text is written that is no
JSON, so that the whole text is refused.
-/

namespace AifHandoff.Json

variable {ν μ : Type}

/-! ### Leaves -/

mutual

/-- The numbers of a value, wherever they stand. -/
def leaves : Json ν → List ν
  | .num n => [n]
  | .arr items => itemLeaves items
  | .obj fields => fieldLeaves fields
  | .null | .bool _ | .str _ => []

def itemLeaves : List (Json ν) → List ν
  | [] => []
  | item :: rest => leaves item ++ itemLeaves rest

def fieldLeaves : List (String × Json ν) → List ν
  | [] => []
  | (_, value) :: rest => leaves value ++ fieldLeaves rest

end

theorem itemLeaves_eq (items : List (Json ν)) : itemLeaves items = items.flatMap leaves := by
  induction items with
  | nil => rw [itemLeaves, List.flatMap_nil]
  | cons item rest ih => rw [itemLeaves, ih, List.flatMap_cons]

theorem fieldLeaves_eq (fields : List (String × Json ν)) :
    fieldLeaves fields = fields.flatMap fun field => leaves field.2 := by
  induction fields with
  | nil => rw [fieldLeaves, List.flatMap_nil]
  | cons field rest ih =>
    obtain ⟨key, value⟩ := field
    rw [fieldLeaves, ih, List.flatMap_cons]

mutual

theorem bind_congr {f g : ν → Json μ} :
    ∀ v : Json ν, (∀ n ∈ leaves v, f n = g n) → bind f v = bind g v
  | .num n, same => by
    rw [bind, bind]
    exact same n (by rw [leaves]; exact List.mem_cons_self)
  | .arr items, same => by
    rw [bind, bind, bindItems_congr items (by rwa [leaves] at same)]
  | .obj fields, same => by
    rw [bind, bind, bindFields_congr fields (by rwa [leaves] at same)]
  | .null, _ => by rw [bind, bind]
  | .bool _, _ => by rw [bind, bind]
  | .str _, _ => by rw [bind, bind]

theorem bindItems_congr {f g : ν → Json μ} :
    ∀ items : List (Json ν), (∀ n ∈ itemLeaves items, f n = g n) →
      bindItems f items = bindItems g items
  | [], _ => by rw [bindItems, bindItems]
  | item :: rest, same => by
    rw [itemLeaves] at same
    rw [bindItems, bindItems, bind_congr item fun n inside =>
        same n (List.mem_append_left _ inside),
      bindItems_congr rest fun n inside => same n (List.mem_append_right _ inside)]

theorem bindFields_congr {f g : ν → Json μ} :
    ∀ fields : List (String × Json ν), (∀ n ∈ fieldLeaves fields, f n = g n) →
      bindFields f fields = bindFields g fields
  | [], _ => by rw [bindFields, bindFields]
  | (key, value) :: rest, same => by
    rw [fieldLeaves] at same
    rw [bindFields, bindFields, bind_congr value fun n inside =>
        same n (List.mem_append_left _ inside),
      bindFields_congr rest fun n inside => same n (List.mem_append_right _ inside)]

end

mutual

theorem bind_num : ∀ v : Json ν, bind .num v = v
  | .num n => by rw [bind]
  | .arr items => by rw [bind, bindItems_num items]
  | .obj fields => by rw [bind, bindFields_num fields]
  | .null => by rw [bind]
  | .bool _ => by rw [bind]
  | .str _ => by rw [bind]

theorem bindItems_num : ∀ items : List (Json ν), bindItems .num items = items
  | [] => by rw [bindItems]
  | item :: rest => by rw [bindItems, bind_num item, bindItems_num rest]

theorem bindFields_num : ∀ fields : List (String × Json ν), bindFields .num fields = fields
  | [] => by rw [bindFields]
  | (key, value) :: rest => by rw [bindFields, bind_num value, bindFields_num rest]

end

mutual

theorem leaves_bind (f : ν → Json μ) :
    ∀ v : Json ν, leaves (bind f v) = (leaves v).flatMap fun n => leaves (f n)
  | .num n => by rw [bind, leaves, List.flatMap_singleton]
  | .arr items => by rw [bind, leaves, leaves, itemLeaves_bind f items]
  | .obj fields => by rw [bind, leaves, leaves, fieldLeaves_bind f fields]
  | .null => by rw [bind, leaves, leaves, List.flatMap_nil]
  | .bool _ => by rw [bind, leaves, leaves, List.flatMap_nil]
  | .str _ => by rw [bind, leaves, leaves, List.flatMap_nil]

theorem itemLeaves_bind (f : ν → Json μ) : ∀ items : List (Json ν),
    itemLeaves (bindItems f items) = (itemLeaves items).flatMap fun n => leaves (f n)
  | [] => by rw [bindItems, itemLeaves, itemLeaves, List.flatMap_nil]
  | item :: rest => by
    rw [bindItems, itemLeaves, itemLeaves, List.flatMap_append, leaves_bind f item,
      itemLeaves_bind f rest]

theorem fieldLeaves_bind (f : ν → Json μ) : ∀ fields : List (String × Json ν),
    fieldLeaves (bindFields f fields) = (fieldLeaves fields).flatMap fun n => leaves (f n)
  | [] => by rw [bindFields, fieldLeaves, fieldLeaves, List.flatMap_nil]
  | (key, value) :: rest => by
    rw [bindFields, fieldLeaves, fieldLeaves, List.flatMap_append, leaves_bind f value,
      fieldLeaves_bind f rest]

end

mutual

theorem size_bind {f : ν → Json μ} (leaf : ∀ n, size (f n) = 1) :
    ∀ v : Json ν, size (bind f v) = size v
  | .num n => by simp only [bind, leaf, size]
  | .arr items => by rw [bind, size, size, sizeItems_bind leaf items]
  | .obj fields => by rw [bind, size, size, sizeFields_bind leaf fields]
  | .null => by simp only [bind, size]
  | .bool _ => by simp only [bind, size]
  | .str _ => by simp only [bind, size]

theorem sizeItems_bind {f : ν → Json μ} (leaf : ∀ n, size (f n) = 1) :
    ∀ items : List (Json ν), size.sizeItems (bindItems f items) = size.sizeItems items
  | [] => by rw [bindItems, size.sizeItems, size.sizeItems]
  | item :: rest => by
    rw [bindItems, size.sizeItems, size.sizeItems, size_bind leaf item, sizeItems_bind leaf rest]

theorem sizeFields_bind {f : ν → Json μ} (leaf : ∀ n, size (f n) = 1) :
    ∀ fields : List (String × Json ν), size.sizeFields (bindFields f fields) = size.sizeFields fields
  | [] => by rw [bindFields, size.sizeFields, size.sizeFields]
  | (key, value) :: rest => by
    rw [bindFields, size.sizeFields, size.sizeFields, size_bind leaf value,
      sizeFields_bind leaf rest]

end

/-! ### What is read -/

theorem nodup_putField {fields : List (String × Json ν)} (field : String × Json ν)
    (keys : (fields.map (·.1)).Nodup) : ((putField fields field).map (·.1)).Nodup := by
  unfold putField
  split
  next found =>
    have same : (fields.map fun old => if old.1 = field.1 then field else old).map (·.1) =
        fields.map (·.1) := by
      rw [List.map_map]
      refine List.map_congr_left fun old _ => ?_
      rw [Function.comp_apply]
      split
      next key => exact key.symm
      next => rfl
    rwa [same]
  next absent =>
    rw [List.map_append, List.map_singleton, List.nodup_append]
    refine ⟨keys, List.pairwise_singleton _ _, fun a inside b new => ?_⟩
    obtain ⟨old, among, rfl⟩ := List.mem_map.mp inside
    obtain rfl := List.mem_singleton.mp new
    rintro same
    exact absent (List.any_eq_true.mpr ⟨old, among, decide_eq_true same⟩)

theorem mem_putField {fields : List (String × Json ν)} {field other : String × Json ν}
    (inside : other ∈ putField fields field) : other = field ∨ other ∈ fields := by
  unfold putField at inside
  split at inside
  · obtain ⟨old, among, rfl⟩ := List.mem_map.mp inside
    split
    · exact .inl rfl
    · exact .inr among
  · rcases List.mem_append.mp inside with among | new
    · exact .inr among
    · exact .inl (List.mem_singleton.mp new)

theorem lookup_cons_eq {α : Type} (entry : String × α) (rest : List (String × α)) (key : String) :
    (entry :: rest).lookup key = if key = entry.1 then some entry.2 else rest.lookup key := by
  rw [List.lookup_cons]
  by_cases same : key = entry.1
  · rw [if_pos same, beq_iff_eq.mpr same]
  · rw [if_neg same, beq_eq_false_iff_ne.mpr same]

theorem lookup_replace (fields : List (String × Json ν)) (key key' : String) (value : Json ν) :
    (fields.map fun old => if old.1 = key then (key, value) else old).lookup key' =
      if key' = key then (fields.lookup key).map fun _ => value else fields.lookup key' := by
  induction fields with
  | nil => simp
  | cons old rest ih =>
    rw [List.map_cons, lookup_cons_eq, lookup_cons_eq, lookup_cons_eq, ih]
    by_cases here : old.1 = key
    · rw [if_pos here, here]
      by_cases same : key' = key
      · rw [if_pos same, if_pos same, if_pos rfl, Option.map_some]
      · rw [if_neg same, if_neg same, if_neg same, if_neg same]
    · rw [if_neg here]
      by_cases same : key' = key
      · rw [if_pos same, if_pos same, same, if_neg (Ne.symm here), if_neg (Ne.symm here)]
      · rw [if_neg same, if_neg same]

theorem lookup_putField (fields : List (String × Json ν)) (key key' : String) (value : Json ν) :
    (putField fields (key, value)).lookup key' =
      if key' = key then some value else fields.lookup key' := by
  have none_iff : fields.lookup key = none ↔ ¬ fields.any (·.1 = key) = true := by
    rw [List.lookup_eq_none_iff, Bool.not_eq_true, List.any_eq_false]
    refine forall₂_congr fun old _ => ?_
    rw [bne_iff_ne, decide_eq_true_eq]
    exact ne_comm
  unfold putField
  split
  next found =>
    rw [lookup_replace]
    cases stored : fields.lookup key with
    | none => exact absurd found (none_iff.mp stored)
    | some old => rw [Option.map_some]
  next absent =>
    rw [List.lookup_append, lookup_cons_eq, List.lookup_nil]
    by_cases same : key' = key
    · rw [if_pos same, if_pos same, same, none_iff.mpr absent, Option.none_or]
    · rw [if_neg same, if_neg same, Option.or_none]

theorem distinct_foldl_putField (fields : List (String × Json ν)) :
    ∀ done : List (String × Json ν), (done.map (·.1)).Nodup ∧ (∀ field ∈ done, Distinct field.2) →
      (∀ field ∈ fields, Distinct field.2) → Distinct (.obj (fields.foldl putField done)) := by
  induction fields with
  | nil =>
    rintro done ⟨keys, each⟩ -
    exact ⟨keys, (distinctFields_iff _).mpr each⟩
  | cons field rest ih =>
    rintro done ⟨keys, each⟩ all
    rw [List.forall_mem_cons] at all
    refine ih _ ⟨nodup_putField field keys, fun other inside => ?_⟩ all.2
    rcases mem_putField inside with rfl | old
    · exact all.1
    · exact each other old

mutual

theorem distinct_parseValue (read : List Char → ν) : ∀ (fuel : Nat) (cs : List Char) (v : Json ν)
    (rest : List Char), parseValue read fuel cs = some (v, rest) → Distinct v
  | 0, _, _, _, found => by
    rw [parseValue] at found
    cases found
  | _ + 1, [], _, _, found => by
    simp only [parseValue, reduceCtorEq] at found
  | fuel + 1, c :: cs, v, rest, found => by
    rw [parseValue.eq_def] at found
    dsimp only at found
    split at found
    · obtain ⟨text, -, is⟩ := Option.map_eq_some_iff.mp found
      obtain ⟨rfl, -⟩ := Prod.mk.inj is
      exact trivial
    split at found
    · split at found
      · obtain ⟨rfl, -⟩ := Prod.mk.inj (Option.some.inj found)
        exact trivial
      · obtain ⟨⟨items, behind⟩, read_, is⟩ := Option.map_eq_some_iff.mp found
        obtain ⟨rfl, -⟩ := Prod.mk.inj is
        exact (distinctItems_iff items).mpr (distinct_parseItems read fuel _ items behind read_)
    split at found
    · split at found
      · obtain ⟨rfl, -⟩ := Prod.mk.inj (Option.some.inj found)
        exact ⟨List.nodup_nil, trivial⟩
      · obtain ⟨⟨fields, behind⟩, read_, is⟩ := Option.map_eq_some_iff.mp found
        obtain ⟨rfl, -⟩ := Prod.mk.inj is
        exact distinct_foldl_putField fields [] ⟨List.nodup_nil, by simp⟩
          (distinct_parseFields read fuel _ fields behind read_)
    split at found
    · obtain ⟨behind, -, is⟩ := Option.map_eq_some_iff.mp found
      obtain ⟨rfl, -⟩ := Prod.mk.inj is
      exact trivial
    split at found
    · obtain ⟨behind, -, is⟩ := Option.map_eq_some_iff.mp found
      obtain ⟨rfl, -⟩ := Prod.mk.inj is
      exact trivial
    split at found
    · obtain ⟨behind, -, is⟩ := Option.map_eq_some_iff.mp found
      obtain ⟨rfl, -⟩ := Prod.mk.inj is
      exact trivial
    · unfold parseNumber at found
      dsimp only at found
      split at found
      · obtain ⟨rfl, -⟩ := Prod.mk.inj (Option.some.inj found)
        exact trivial
      · cases found

theorem distinct_parseItems (read : List Char → ν) : ∀ (fuel : Nat) (cs : List Char)
    (items : List (Json ν)) (rest : List Char), parseItems read fuel cs = some (items, rest) →
      ∀ item ∈ items, Distinct item
  | 0, _, _, _, found => by
    rw [parseItems] at found
    cases found
  | fuel + 1, cs, items, rest, found => by
    rw [parseItems] at found
    obtain ⟨⟨item, behind⟩, first, found⟩ := Option.bind_eq_some_iff.mp found
    have here := distinct_parseValue read fuel cs item behind first
    dsimp only at found
    split at found
    · obtain ⟨rfl, -⟩ := Prod.mk.inj (Option.some.inj found)
      exact List.forall_mem_singleton.mpr here
    split at found
    · obtain ⟨⟨others, last⟩, later, is⟩ := Option.map_eq_some_iff.mp found
      obtain ⟨rfl, -⟩ := Prod.mk.inj is
      exact List.forall_mem_cons.mpr ⟨here, distinct_parseItems read fuel _ others last later⟩
    · cases found

theorem distinct_parseFields (read : List Char → ν) : ∀ (fuel : Nat) (cs : List Char)
    (fields : List (String × Json ν)) (rest : List Char),
    parseFields read fuel cs = some (fields, rest) → ∀ field ∈ fields, Distinct field.2
  | 0, _, _, _, found => by
    rw [parseFields] at found
    cases found
  | fuel + 1, cs, fields, rest, found => by
    rw [parseFields] at found
    split at found
    · obtain ⟨⟨key, behind⟩, -, found⟩ := Option.bind_eq_some_iff.mp found
      dsimp only at found
      split at found
      · obtain ⟨⟨value, behind'⟩, first, found⟩ := Option.bind_eq_some_iff.mp found
        have here := distinct_parseValue read fuel _ value behind' first
        dsimp only at found
        split at found
        · obtain ⟨rfl, -⟩ := Prod.mk.inj (Option.some.inj found)
          exact List.forall_mem_singleton.mpr here
        split at found
        · obtain ⟨⟨others, last⟩, later, is⟩ := Option.map_eq_some_iff.mp found
          obtain ⟨rfl, -⟩ := Prod.mk.inj is
          exact List.forall_mem_cons.mpr ⟨here, distinct_parseFields read fuel _ others last later⟩
        · cases found
      · cases found
    · cases found

end

/-- What is read has each key once. -/
theorem distinct_parse {read : List Char → ν} {text : List Char} {v : Json ν}
    (found : parse read text = some v) : Distinct v := by
  unfold parse at found
  split at found
  next value rest read_ =>
    split at found
    · rw [← Option.some.inj found]
      exact distinct_parseValue read _ _ value rest read_
    · cases found
  next => cases found

/-! ### Holes -/

section Holes

/-- The texts of numbers and of holes, which stand as `undefined`. -/
def holeNumbers (N : NumberTexts ν) : Option ν → List Char
  | some n => N.write n
  | none => ['u', 'n', 'd', 'e', 'f', 'i', 'n', 'e', 'd']

/-- The value with no holes, as one that may have some. -/
def withHoles (v : Json ν) : Json (Option ν) := bind (fun n => .num (some n)) v

/-- The value without its holes. -/
def withoutHoles (v : Json (Option ν)) : Json ν :=
  bind (fun leaf => match leaf with | some n => .num n | none => .null) v

def NoHoles (v : Json (Option ν)) : Prop := ∀ leaf ∈ leaves v, leaf ≠ none

theorem distinct_withHoles {v : Json ν} (distinct : Distinct v) : Distinct (withHoles v) := by
  refine distinct_bind (fun n => ?_) v distinct
  exact trivial

theorem noHoles_withHoles (v : Json ν) : NoHoles (withHoles v) := by
  intro leaf inside
  rw [withHoles, leaves_bind, List.mem_flatMap] at inside
  obtain ⟨n, -, is⟩ := inside
  rw [leaves, List.mem_singleton] at is
  rw [is]
  exact Option.some_ne_none n

theorem withHoles_withoutHoles {v : Json (Option ν)} (none_ : NoHoles v) :
    withHoles (withoutHoles v) = v := by
  rw [withHoles, withoutHoles, bind_bind]
  refine (bind_congr v fun leaf inside => ?_).trans (bind_num v)
  cases leaf with
  | none => exact absurd rfl (none_ _ inside)
  | some n => rw [bind]

variable {N : NumberTexts ν}

theorem stringify_of_noHoles {v : Json (Option ν)} (none_ : NoHoles v) :
    stringify (holeNumbers N) v = stringify N.write (withoutHoles v) := by
  conv_lhs => rw [← withHoles_withoutHoles none_]
  exact stringify_bind (fun n => by rw [stringify, holeNumbers]) _

theorem size_withoutHoles (v : Json (Option ν)) : size (withoutHoles v) = size v := by
  refine size_bind (fun leaf => ?_) v
  cases leaf <;> simp only [size]

theorem distinct_withoutHoles {v : Json (Option ν)} (distinct : Distinct v) :
    Distinct (withoutHoles v) := by
  refine distinct_bind (fun leaf => ?_) v distinct
  cases leaf <;> exact trivial

theorem opens_holes (lawful : LawfulNumbers N) (v : Json (Option ν)) :
    Opens (stringify (holeNumbers N) v) := by
  cases v with
  | null => exact opens_cons (by decide) (by decide)
  | bool b => cases b <;> exact opens_cons (by decide) (by decide)
  | num leaf =>
    cases leaf with
    | none => exact opens_cons (by decide) (by decide)
    | some n => exact opens_stringify lawful (.num n)
  | str s => exact opens_cons (by decide) (by decide)
  | arr items => exact opens_cons (by decide) (by decide)
  | obj fields => exact opens_cons (by decide) (by decide)

theorem opens_holeItems (lawful : LawfulNumbers N) (item : Json (Option ν))
    (tail : List (Json (Option ν))) : Opens (stringifyItems (holeNumbers N) (item :: tail)) := by
  rw [stringifyItems]
  exact opens_append (opens_holes lawful item) _

theorem parseValue_of_noHoles (lawful : LawfulNumbers N) {v : Json (Option ν)} {fuel : Nat}
    {rest : List Char} (none_ : NoHoles v) (distinct : Distinct v) (enough : size v ≤ fuel)
    (ends : EndsNumber rest) :
    parseValue N.read fuel (stringify (holeNumbers N) v ++ rest) = some (withoutHoles v, rest) := by
  rw [stringify_of_noHoles none_]
  exact parseValue_stringify lawful _ fuel rest (distinct_withoutHoles distinct)
    (by rwa [size_withoutHoles]) ends

theorem not_noHoles_append {β : Type} {front back : List (Option β)}
    (hole : none ∈ front ++ back) (clear : none ∉ front) : none ∈ back :=
  (List.mem_append.mp hole).resolve_left clear

theorem noHoles_iff {v : Json (Option ν)} : NoHoles v ↔ none ∉ leaves v :=
  ⟨fun none_ inside => none_ _ inside rfl, fun absent _ inside is => absent (is ▸ inside)⟩

mutual

/-- A value with a hole at the head of a text is not read. -/
theorem parseValue_hole (lawful : LawfulNumbers N) :
    ∀ (v : Json (Option ν)) (fuel : Nat) (rest : List Char), Distinct v → size v ≤ fuel →
      none ∈ leaves v → parseValue N.read fuel (stringify (holeNumbers N) v ++ rest) = none
  | _, 0, _, _, _, _ => by rw [parseValue]
  | .null, _ + 1, _, _, _, hole => by simp [leaves] at hole
  | .bool _, _ + 1, _, _, _, hole => by simp [leaves] at hole
  | .str _, _ + 1, _, _, _, hole => by simp [leaves] at hole
  | .num leaf, fuel + 1, rest, _, _, hole => by
    rw [leaves, List.mem_singleton] at hole
    subst hole
    simp [stringify, holeNumbers, parseValue, parseNumber, isNumberChar, isNumber, isUnsigned]
  | .arr [], _ + 1, _, _, _, hole => by simp [leaves, itemLeaves] at hole
  | .arr (item :: tail), fuel + 1, rest, distinct, enough, hole => by
    have items := parseItems_hole lawful (item :: tail) fuel rest distinct
      (by simp only [size] at enough; omega) (by rwa [leaves] at hole)
    have opens := opens_holeItems lawful item tail
    have text : stringify (holeNumbers N) (.arr (item :: tail)) ++ rest =
        '[' :: (stringifyItems (holeNumbers N) (item :: tail) ++ ']' :: rest) := by
      simp [stringify]
    rw [text]
    simp only [parseValue, opens.noSpace, opens.noBracket, items, if_true, if_false,
      Option.map_none, Char.reduceEq]
  | .obj [], _ + 1, _, _, _, hole => by simp [leaves, fieldLeaves] at hole
  | .obj ((key, value) :: tail), fuel + 1, rest, distinct, enough, hole => by
    have fields := parseFields_hole lawful ((key, value) :: tail) fuel rest distinct.2
      (by simp only [size] at enough; omega) (by rwa [leaves] at hole)
    have text : stringify (holeNumbers N) (.obj ((key, value) :: tail)) ++ rest =
        '\x7b' :: (stringifyFields (holeNumbers N) ((key, value) :: tail) ++ '\x7d' :: rest) := by
      simp [stringify]
    have noBrace : ∀ tail', (stringifyFields (holeNumbers N) ((key, value) :: tail) ++
        tail').head? ≠ some '\x7d' := by
      intro tail'
      simp [stringifyFields, quote]
    rw [text]
    simp only [parseValue, skipSpace_fields, noBrace, fields, if_true, if_false,
      Option.map_none, Char.reduceEq]

theorem parseItems_hole (lawful : LawfulNumbers N) :
    ∀ (items : List (Json (Option ν))) (fuel : Nat) (rest : List Char),
      Distinct.DistinctItems items → size.sizeItems items ≤ fuel → none ∈ itemLeaves items →
      parseItems N.read fuel (stringifyItems (holeNumbers N) items ++ ']' :: rest) = none
  | [], _, _, _, _, hole => by simp [itemLeaves] at hole
  | _ :: _, 0, _, _, _, _ => by rw [parseItems]
  | item :: tail, fuel + 1, rest, distinct, enough, hole => by
    rw [itemLeaves] at hole
    have enough' : size item ≤ fuel := by
      simp only [size.sizeItems] at enough
      omega
    rw [stringifyItems, List.append_assoc, parseItems]
    by_cases here : none ∈ leaves item
    · rw [parseValue_hole lawful item fuel _ distinct.1 enough' here, Option.bind_none]
    · have later := not_noHoles_append hole here
      cases tail with
      | nil => simp [itemLeaves] at later
      | cons next others =>
        have rest_ := parseItems_hole lawful (next :: others) fuel rest distinct.2
          (by simp only [size.sizeItems] at enough ⊢; omega) later
        have opens := opens_holeItems lawful next others
        rw [List.isEmpty_cons, if_neg Bool.false_ne_true, List.cons_append,
          parseValue_of_noHoles lawful (noHoles_iff.mpr here) distinct.1 enough'
            (endsNumber_cons (by decide)), Option.bind_some]
        simp only [skipSpace_cons comma, List.head?_cons, Option.some.injEq, Char.reduceEq,
          if_false, if_true, List.tail_cons, opens.noSpace, rest_, Option.map_none]

theorem parseFields_hole (lawful : LawfulNumbers N) :
    ∀ (fields : List (String × Json (Option ν))) (fuel : Nat) (rest : List Char),
      Distinct.DistinctFields fields → size.sizeFields fields ≤ fuel → none ∈ fieldLeaves fields →
      parseFields N.read fuel (stringifyFields (holeNumbers N) fields ++ '\x7d' :: rest) = none
  | [], _, _, _, _, hole => by simp [fieldLeaves] at hole
  | _ :: _, 0, _, _, _, _ => by rw [parseFields]
  | (key, value) :: tail, fuel + 1, rest, distinct, enough, hole => by
    rw [fieldLeaves] at hole
    have enough' : size value ≤ fuel := by
      simp only [size.sizeFields] at enough
      omega
    have opens := opens_holes lawful value
    have text : stringifyFields (holeNumbers N) ((key, value) :: tail) ++ '\x7d' :: rest =
        '"' :: (escape key.toList ++ '"' :: ':' :: (stringify (holeNumbers N) value ++
          ((if tail.isEmpty then [] else ',' :: stringifyFields (holeNumbers N) tail) ++
            '\x7d' :: rest))) := by
      rw [stringifyFields]
      simp [quote]
    rw [text]
    simp only [parseFields, List.head?_cons, if_true, List.tail_cons, parseString_escape,
      Option.bind_some, skipSpace_cons colon, opens.noSpace]
    by_cases here : none ∈ leaves value
    · rw [parseValue_hole lawful value fuel _ distinct.1 enough' here, Option.bind_none]
    · have later := not_noHoles_append hole here
      cases tail with
      | nil => simp [fieldLeaves] at later
      | cons next others =>
        have rest_ := parseFields_hole lawful (next :: others) fuel rest distinct.2
          (by simp only [size.sizeFields] at enough ⊢; omega) later
        rw [List.isEmpty_cons, if_neg Bool.false_ne_true, List.cons_append,
          parseValue_of_noHoles lawful (noHoles_iff.mpr here) distinct.1 enough'
            (endsNumber_cons (by decide)), Option.bind_some]
        simp only [skipSpace_cons comma, List.head?_cons, Option.some.injEq, Char.reduceEq,
          if_false, if_true, List.tail_cons, skipSpace_fields, rest_, Option.map_none]

end

theorem parse_hole (lawful : LawfulNumbers N) {v : Json (Option ν)} (distinct : Distinct v)
    (hole : none ∈ leaves v) : parse N.read (stringify (holeNumbers N) v) = none := by
  have opens := (opens_holes lawful v).noSpace []
  rw [List.append_nil] at opens
  have filled (leaf : Option ν) : holeNumbers N leaf ≠ [] := by
    cases leaf with
    | none => exact List.cons_ne_nil _ _
    | some n =>
      have some_ := (opens_stringify lawful (.num n)).ne_nil
      rwa [stringify] at some_
  have enough : size v ≤ (stringify (holeNumbers N) v).length + 1 :=
    Nat.le_succ_of_le (size_le_length filled v)
  have unread := parseValue_hole lawful v _ [] distinct enough hole
  rw [List.append_nil] at unread
  rw [parse, opens, unread]

/-! ### Holes beside numbers without a text -/

section Finite

variable {isFinite : ν → Bool} {text : ν → String} {read : List Char → ν}

/-- The texts of numbers, finite or not, and of holes. -/
def writeLeaf (isFinite : ν → Bool) (text : ν → String) : Option ν → List Char
  | some n => writeFinite isFinite text n
  | none => ['u', 'n', 'd', 'e', 'f', 'i', 'n', 'e', 'd']

/-- A leaf as its text. -/
def leafText (isFinite : ν → Bool) (text : ν → String) : Option ν → Json (Option NumberText)
  | some n => withHoles (numberText isFinite text n)
  | none => .num none

theorem stringify_leafText (finite : FiniteNumbers isFinite text read) (leaf : Option ν) :
    stringify (holeNumbers textNumbers) (leafText isFinite text leaf) =
      writeLeaf isFinite text leaf := by
  cases leaf with
  | none => rw [leafText, stringify, holeNumbers, writeLeaf]
  | some n =>
    rw [leafText, writeLeaf, ← stringify_numberText finite, withHoles]
    exact stringify_bind (fun token => by rw [stringify, holeNumbers]) _

theorem parse_writeLeaf_hole (finite : FiniteNumbers isFinite text read) {v : Json (Option ν)}
    (distinct : Distinct v) (hole : none ∈ leaves v) :
    parse read (stringify (writeLeaf isFinite text) v) = none := by
  have reads : ∀ cs, isNumber cs = true →
      (Json.num (read (textNumbers.read cs).val) : Json ν) = .num (read cs) := by
    intro cs number
    rw [textNumbers]
    dsimp only
    rw [dif_pos number]
  have plain (leaf : Option ν) : Distinct (leafText isFinite text leaf) := by
    cases leaf with
    | none => exact trivial
    | some n => exact distinct_withHoles (distinct_numberText isFinite text n)
  have hole' : none ∈ leaves (bind (leafText isFinite text) v) := by
    rw [leaves_bind, List.mem_flatMap]
    refine ⟨none, hole, ?_⟩
    rw [leafText, leaves]
    exact List.mem_cons_self
  have unread := parse_hole lawful_textNumbers (distinct_bind plain v distinct) hole'
  rw [stringify_bind (stringify_leafText finite)] at unread
  rw [@parse_bind _ _ (fun token : NumberText => .num (read token.val)) _ _ reads, unread,
    Option.map_none]

theorem parse_writeLeaf (finite : FiniteNumbers isFinite text read) {v : Json (Option ν)}
    (distinct : Distinct v) (none_ : NoHoles v) :
    parse read (stringify (writeLeaf isFinite text) v) =
      some (bind (finiteOrNull isFinite) (withoutHoles v)) := by
  have written : stringify (writeLeaf isFinite text) v =
      stringify (writeFinite isFinite text) (withoutHoles v) := by
    conv_lhs => rw [← withHoles_withoutHoles none_]
    exact stringify_bind (fun n => by rw [stringify, writeLeaf]) _
  rw [written]
  exact parse_stringify_finite finite (distinct_withoutHoles distinct)

end Finite

end Holes

end AifHandoff.Json
