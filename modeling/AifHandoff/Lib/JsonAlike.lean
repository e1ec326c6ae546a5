import AifHandoff.Lib.JsonLeaves
import AifHandoff.Lib.JsonOrders
import AifHandoff.Lib.SortedSet

/-!
JSON values that are written alike.

Two values are alike if they are the same but for the order of fields and for numbers that have
no text. What is found in them under a key is alike, and they have one text when keys are sorted.
-/

namespace AifHandoff.Json

/-! ### Lists sorted by a key that several elements may share -/

section Sorted

variable {α : Type} {r : α → α → Prop}

/-- Different elements of the list do not tie. -/
def Apart (r : α → α → Prop) (l : List α) : Prop := ∀ a ∈ l, ∀ b ∈ l, r a b → r b a → a = b

variable [DecidableRel r] [IsTrans α r] [Std.Total r]

theorem insertionSort_eq_of_perm {l l' : List α} (apart : Apart r l) (same : l'.Perm l) :
    l'.insertionSort r = l.insertionSort r := by
  have sorted (m : List α) := List.pairwise_insertionSort r m
  refine @List.Perm.eq_of_pairwise _ r _ _ (fun a b inA inB ab ba => ?_) (sorted l') (sorted l) ?_
  · refine apart a ?_ b ?_ ab ba
    · exact same.mem_iff.mp ((List.mem_insertionSort r).mp inA)
    · exact (List.mem_insertionSort r).mp inB
  · exact (List.perm_insertionSort r l').trans (same.trans (List.perm_insertionSort r l).symm)

end Sorted

variable {ν : Type} (order : Collation String) (isFinite : ν → Bool)

/-! ### Canonical forms -/

/-- The keys sorted and `null` in the place of numbers without a text. -/
def canon (v : Json ν) : Json ν := bind (finiteOrNull isFinite) (sortKeys order.le v)

/-- Fields in the order of their keys. -/
def sortFields {α : Type} (fields : List (String × α)) : List (String × α) :=
  fields.insertionSort fun left right => order.le left.1 right.1

theorem map_sortFields {α β : Type} (f : α → β) (fields : List (String × α)) :
    (sortFields order fields).map (fun field => (field.1, f field.2)) =
      sortFields order (fields.map fun field => (field.1, f field.2)) :=
  List.map_insertionSort _ _ _ _ fun _ _ _ _ => Iff.rfl

theorem canon_arr (items : List (Json ν)) :
    canon order isFinite (.arr items) = .arr (items.map (canon order isFinite)) := by
  rw [canon, sortKeys, bind, sortKeysItems_eq, bindItems_eq, List.map_map]
  rfl

theorem canon_obj (fields : List (String × Json ν)) :
    canon order isFinite (.obj fields) =
      .obj (sortFields order (fields.map fun field => (field.1, canon order isFinite field.2))) := by
  have sorted : sortKeys order.le (.obj fields) =
      .obj (sortFields order (fields.map fun field => (field.1, sortKeys order.le field.2))) := by
    rw [sortKeys, sortKeysFields_eq]
    rfl
  rw [canon, sorted, bind, bindFields_eq, map_sortFields, List.map_map]
  rfl

theorem canon_num (n : ν) : canon order isFinite (.num n) = finiteOrNull isFinite n := by
  rw [canon, sortKeys, bind]

theorem canon_null : canon order isFinite (.null : Json ν) = .null := by
  rw [canon, sortKeys, bind]

theorem canon_bool (b : Bool) : canon order isFinite (.bool b : Json ν) = .bool b := by
  rw [canon, sortKeys, bind]

theorem canon_str (s : String) : canon order isFinite (.str s : Json ν) = .str s := by
  rw [canon, sortKeys, bind]

/-! ### Fields by their keys -/

section Fields

variable {α : Type} {fields fields' : List (String × α)}

theorem lookup_map {β : Type} (f : α → β) (fields : List (String × α)) (key : String) :
    (fields.map fun field => (field.1, f field.2)).lookup key = (fields.lookup key).map f := by
  induction fields with
  | nil => rfl
  | cons field rest ih =>
    rw [List.map_cons, lookup_cons_eq, lookup_cons_eq, ih]
    split <;> rfl

theorem lookup_perm (keys : (fields.map (·.1)).Nodup) (same : fields.Perm fields') (key : String) :
    fields.lookup key = fields'.lookup key := by
  have keys' : (fields'.map (·.1)).Nodup := (same.map _).nodup_iff.mp keys
  refine Option.ext fun value => ?_
  rw [lookup_eq_some_iff_mem keys, lookup_eq_some_iff_mem keys', same.mem_iff]

theorem perm_of_lookup (keys : (fields.map (·.1)).Nodup) (keys' : (fields'.map (·.1)).Nodup)
    (same : ∀ key, fields.lookup key = fields'.lookup key) : fields.Perm fields' := by
  refine (List.perm_ext_iff_of_nodup keys.of_map keys'.of_map).mpr fun field => ?_
  obtain ⟨key, value⟩ := field
  rw [← lookup_eq_some_iff_mem keys, ← lookup_eq_some_iff_mem keys', same]

/-- Fields with each key once are sorted alike exactly if the same is found in them, where the
order tells keys apart. -/
theorem sortFields_eq_iff {order : Collation String}
    (apart : ∀ a b, order.le a b = true → order.le b a = true → a = b)
    (keys : (fields.map (·.1)).Nodup) (keys' : (fields'.map (·.1)).Nodup) :
    sortFields order fields = sortFields order fields' ↔
      ∀ key, fields.lookup key = fields'.lookup key := by
  have sorted (l : List (String × α)) : (sortFields order l).Perm l := List.perm_insertionSort _ _
  constructor
  · intro same key
    exact lookup_perm keys ((sorted fields).symm.trans (same ▸ sorted fields')) key
  · intro same
    have perm := perm_of_lookup keys keys' same
    have total : Std.Total fun left right : String × α => order.le left.1 right.1 = true :=
      ⟨fun left right => by simpa using order.total left.1 right.1⟩
    have trans : IsTrans (String × α) fun left right => order.le left.1 right.1 = true :=
      ⟨fun left middle right => order.trans left.1 middle.1 right.1⟩
    refine insertionSort_eq_of_perm (fun a inA b inB ab ba => ?_) perm
    exact List.inj_on_of_nodup_map keys' inA inB (apart a.1 b.1 ab ba)

end Fields

/-! ### Alike values -/

/-- Values with each key once and one canonical form. -/
structure Alike (v w : Json ν) : Prop where
  left : Distinct v
  right : Distinct w
  same : canon order isFinite v = canon order isFinite w

/-- Objects in which alike values are found. -/
structure AlikeFields (fields fields' : List (String × Json ν)) : Prop where
  left : (fields.map (·.1)).Nodup
  right : (fields'.map (·.1)).Nodup
  found : ∀ key, Option.Rel (Alike order isFinite) (fields.lookup key) (fields'.lookup key)

section Alike

variable {order : Collation String} {isFinite : ν → Bool} {v w : Json ν}

theorem Alike.refl (distinct : Distinct v) : Alike order isFinite v v := ⟨distinct, distinct, rfl⟩

theorem Alike.trans {u : Json ν} (first : Alike order isFinite u v)
    (second : Alike order isFinite v w) : Alike order isFinite u w :=
  ⟨first.left, second.right, first.same.trans second.same⟩

theorem alike_str (s : String) : Alike order isFinite (.str s) (.str s) := .refl trivial

theorem alike_arr {items items' : List (Json ν)}
    (each : List.Forall₂ (Alike order isFinite) items items') :
    Alike order isFinite (.arr items) (.arr items') := by
  refine ⟨(distinctItems_iff _).mpr ?_, (distinctItems_iff _).mpr ?_, ?_⟩
  · induction each with
    | nil => exact fun _ inside => absurd inside List.not_mem_nil
    | cons first _ ih => exact List.forall_mem_cons.mpr ⟨first.left, ih⟩
  · induction each with
    | nil => exact fun _ inside => absurd inside List.not_mem_nil
    | cons first _ ih => exact List.forall_mem_cons.mpr ⟨first.right, ih⟩
  · rw [canon_arr, canon_arr]
    congr 1
    induction each with
    | nil => rfl
    | cons first _ ih => rw [List.map_cons, List.map_cons, first.same, ih]

theorem alike_arr_inv {items items' : List (Json ν)}
    (alike : Alike order isFinite (.arr items) (.arr items')) :
    List.Forall₂ (Alike order isFinite) items items' := by
  have left := (distinctItems_iff _).mp alike.left
  have right := (distinctItems_iff _).mp alike.right
  have same := alike.same
  rw [canon_arr, canon_arr, arr.injEq] at same
  clear alike
  induction items generalizing items' with
  | nil =>
    cases items' with
    | nil => exact .nil
    | cons => cases same
  | cons item rest ih =>
    cases items' with
    | nil => cases same
    | cons item' rest' =>
      rw [List.forall_mem_cons] at left right
      obtain ⟨here, later⟩ := List.cons.inj same
      exact .cons ⟨left.1, right.1, here⟩ (ih left.2 right.2 later)

theorem rel_map_iff {a b : Option (Json ν)} (left : ∀ x ∈ a, Distinct x)
    (right : ∀ x ∈ b, Distinct x) :
    a.map (canon order isFinite) = b.map (canon order isFinite) ↔
      Option.Rel (Alike order isFinite) a b := by
  cases a with
  | none =>
    cases b with
    | none => exact ⟨fun _ => .none, fun _ => rfl⟩
    | some y => exact ⟨fun same => (nomatch same), fun related => (nomatch related)⟩
  | some x =>
    cases b with
    | none => exact ⟨fun same => (nomatch same), fun related => (nomatch related)⟩
    | some y =>
      constructor
      · intro same
        exact .some ⟨left x rfl, right y rfl, Option.some.inj same⟩
      · intro related
        cases related with
        | some alike => rw [Option.map_some, Option.map_some, alike.same]

/-- Objects are alike exactly if alike values are found in them. -/
theorem alike_obj_iff (apart : ∀ a b, order.le a b = true → order.le b a = true → a = b)
    {fields fields' : List (String × Json ν)} :
    Alike order isFinite (.obj fields) (.obj fields') ↔ AlikeFields order isFinite fields fields' := by
  have mapped (l : List (String × Json ν)) :
      (l.map fun field => (field.1, canon order isFinite field.2)).map (·.1) = l.map (·.1) := by
    rw [List.map_map]
    rfl
  have values {l : List (String × Json ν)} (distinct : Distinct (.obj l)) (key : String) :
      ∀ x ∈ l.lookup key, Distinct x := fun x found =>
    (distinctFields_iff l).mp distinct.2 _ ((lookup_eq_some_iff_mem distinct.1).mp found)
  constructor
  · rintro ⟨left, right, same⟩
    rw [canon_obj, canon_obj, obj.injEq, sortFields_eq_iff apart (by rw [mapped]; exact left.1)
      (by rw [mapped]; exact right.1)] at same
    refine ⟨left.1, right.1, fun key => (rel_map_iff (values left key) (values right key)).mp ?_⟩
    rw [← lookup_map, ← lookup_map]
    exact same key
  · rintro ⟨left, right, found⟩
    have distinct : Distinct (.obj fields) := by
      refine ⟨left, (distinctFields_iff _).mpr fun field inside => ?_⟩
      have related := found field.1
      rw [(lookup_eq_some_iff_mem left).mpr inside] at related
      generalize fields'.lookup field.1 = other at related
      cases related with
      | some alike => exact alike.left
    have distinct' : Distinct (.obj fields') := by
      refine ⟨right, (distinctFields_iff _).mpr fun field inside => ?_⟩
      have related := found field.1
      rw [(lookup_eq_some_iff_mem right).mpr inside] at related
      generalize fields.lookup field.1 = other at related
      cases related with
      | some alike => exact alike.right
    refine ⟨distinct, distinct', ?_⟩
    rw [canon_obj, canon_obj, obj.injEq, sortFields_eq_iff apart (by rw [mapped]; exact left)
      (by rw [mapped]; exact right)]
    intro key
    rw [lookup_map, lookup_map]
    exact (rel_map_iff (values distinct key) (values distinct' key)).mpr (found key)

/-- A value that is no text, no list and no object. -/
def isScalar : Json ν → Bool
  | .null | .bool _ | .num _ => true
  | .str _ | .arr _ | .obj _ => false

/-- Alike values are of one kind. -/
inductive Alike.Kinds (order : Collation String) (isFinite : ν → Bool) : Json ν → Json ν → Prop where
  | text (s : String) : Kinds order isFinite (.str s) (.str s)
  | list {items items' : List (Json ν)}
      (each : List.Forall₂ (Alike order isFinite) items items') :
      Kinds order isFinite (.arr items) (.arr items')
  | object {fields fields' : List (String × Json ν)}
      (found : AlikeFields order isFinite fields fields') :
      Kinds order isFinite (.obj fields) (.obj fields')
  | scalar {v w : Json ν} (left : isScalar v = true) (right : isScalar w = true) :
      Kinds order isFinite v w

theorem canon_isScalar (v : Json ν) : isScalar (canon order isFinite v) = isScalar v := by
  cases v with
  | null => rw [canon_null]
  | bool b => rw [canon_bool]
  | num n =>
    rw [canon_num, finiteOrNull]
    split <;> rfl
  | str s => rw [canon_str]
  | arr items => rw [canon_arr, isScalar, isScalar]
  | obj fields => rw [canon_obj, isScalar, isScalar]

theorem Alike.cases (apart : ∀ a b, order.le a b = true → order.le b a = true → a = b)
    (alike : Alike order isFinite v w) : Alike.Kinds order isFinite v w := by
  have kinds : isScalar v = isScalar w := by
    rw [← canon_isScalar v, alike.same, canon_isScalar]
  cases scalar : isScalar v with
  | true => exact .scalar scalar (kinds ▸ scalar)
  | false =>
    have same := alike.same
    cases v with
    | null | bool _ | num _ => cases scalar
    | str s =>
      cases w with
      | null | bool _ | num _ => cases kinds
      | str t =>
        rw [canon_str, canon_str, str.injEq] at same
        subst same
        exact .text s
      | arr _ => rw [canon_str, canon_arr] at same; cases same
      | obj _ => rw [canon_str, canon_obj] at same; cases same
    | arr items =>
      cases w with
      | null | bool _ | num _ => cases kinds
      | str _ => rw [canon_str, canon_arr] at same; cases same
      | arr items' => exact .list (alike_arr_inv alike)
      | obj _ => rw [canon_arr, canon_obj] at same; cases same
    | obj fields =>
      cases w with
      | null | bool _ | num _ => cases kinds
      | str _ => rw [canon_str, canon_obj] at same; cases same
      | arr _ => rw [canon_arr, canon_obj] at same; cases same
      | obj fields' => exact .object ((alike_obj_iff apart).mp alike)

theorem AlikeFields.putField {fields fields' : List (String × Json ν)} {a a' : Json ν}
    (alike : AlikeFields order isFinite fields fields') (key : String)
    (value : Alike order isFinite a a') :
    AlikeFields order isFinite (putField fields (key, a)) (putField fields' (key, a')) := by
  refine ⟨nodup_putField _ alike.left, nodup_putField _ alike.right, fun other => ?_⟩
  rw [lookup_putField, lookup_putField]
  split
  · exact .some value
  · exact alike.found other

/-- Fields with the same keys in the same order, and alike values. -/
theorem alikeFields_of_forall₂ {fields fields' : List (String × Json ν)}
    (keys : (fields.map (·.1)).Nodup)
    (each : List.Forall₂ (fun field field' => field'.1 = field.1 ∧
      Alike order isFinite field.2 field'.2) fields fields') :
    AlikeFields order isFinite fields fields' := by
  have keys' : fields'.map (·.1) = fields.map (·.1) := by
    clear keys
    induction each with
    | nil => rfl
    | cons first _ ih => rw [List.map_cons, List.map_cons, first.1, ih]
  refine ⟨keys, keys'.symm ▸ keys, fun key => ?_⟩
  clear keys keys'
  induction each with
  | nil => exact .none
  | cons first _ ih =>
    rw [lookup_cons_eq, lookup_cons_eq, first.1]
    split
    · exact .some first.2
    · exact ih

end Alike

/-! ### Canonical values -/

section Canonical

variable {order : Collation String} {isFinite : ν → Bool}

mutual

theorem mem_leaves_sortKeys {n : ν} : ∀ v : Json ν, n ∈ leaves (sortKeys order.le v) ↔ n ∈ leaves v
  | .arr items => by
    rw [sortKeys, leaves, leaves]
    exact mem_itemLeaves_sortKeys items
  | .obj fields => by
    rw [sortKeys, leaves, leaves, ← mem_fieldLeaves_sortKeys fields, fieldLeaves_eq,
      fieldLeaves_eq, List.mem_flatMap, List.mem_flatMap]
    refine exists_congr fun field => and_congr_left fun _ => ?_
    rw [List.mem_insertionSort]
  | .null => by rw [sortKeys]
  | .bool _ => by rw [sortKeys]
  | .num _ => by rw [sortKeys]
  | .str _ => by rw [sortKeys]

theorem mem_itemLeaves_sortKeys {n : ν} : ∀ items : List (Json ν),
    n ∈ itemLeaves (sortKeysItems order.le items) ↔ n ∈ itemLeaves items
  | [] => by rw [sortKeysItems]
  | item :: rest => by
    rw [sortKeysItems, itemLeaves, itemLeaves, List.mem_append, List.mem_append,
      mem_leaves_sortKeys item, mem_itemLeaves_sortKeys rest]

theorem mem_fieldLeaves_sortKeys {n : ν} : ∀ fields : List (String × Json ν),
    n ∈ fieldLeaves (sortKeysFields order.le fields) ↔ n ∈ fieldLeaves fields
  | [] => by rw [sortKeysFields]
  | (key, value) :: rest => by
    rw [sortKeysFields, fieldLeaves, fieldLeaves, List.mem_append, List.mem_append,
      mem_leaves_sortKeys value, mem_fieldLeaves_sortKeys rest]

end

theorem sortFields_sortFields {α : Type} (fields : List (String × α)) :
    sortFields order (sortFields order fields) = sortFields order fields := by
  have total : Std.Total fun left right : String × α => order.le left.1 right.1 = true :=
    ⟨fun left right => by simpa using order.total left.1 right.1⟩
  have trans : IsTrans (String × α) fun left right => order.le left.1 right.1 = true :=
    ⟨fun left middle right => order.trans left.1 middle.1 right.1⟩
  exact List.Pairwise.insertionSort_eq (List.pairwise_insertionSort _ fields)

theorem canon_canon (v : Json ν) :
    canon order isFinite (canon order isFinite v) = canon order isFinite v := by
  induction size : Json.size v using Nat.strong_induction_on generalizing v with
  | h n ih =>
    subst size
    cases v with
    | null => rw [canon_null, canon_null]
    | bool b => rw [canon_bool, canon_bool]
    | str s => rw [canon_str, canon_str]
    | num n =>
      rw [canon_num, finiteOrNull]
      split
      next finite => rw [canon_num, finiteOrNull, if_pos finite]
      next => rw [canon_null]
    | arr items =>
      rw [canon_arr, canon_arr, List.map_map]
      congr 1
      exact List.map_congr_left fun item inside => ih _ (size_lt_of_mem_items inside) item rfl
    | obj fields =>
      rw [canon_obj, canon_obj, map_sortFields, sortFields_sortFields, List.map_map]
      congr 2
      exact List.map_congr_left fun field inside =>
        congrArg (Prod.mk field.1) (ih _ (size_lt_of_mem_fields inside) field.2 rfl)

theorem distinct_canon {v : Json ν} (distinct : Distinct v) : Distinct (canon order isFinite v) := by
  induction size : Json.size v using Nat.strong_induction_on generalizing v with
  | h n ih =>
    subst size
    cases v with
    | null => rw [canon_null]; exact trivial
    | bool b => rw [canon_bool]; exact trivial
    | str s => rw [canon_str]; exact trivial
    | num n =>
      rw [canon_num, finiteOrNull]
      split <;> exact trivial
    | arr items =>
      have each := (distinctItems_iff items).mp distinct
      rw [canon_arr]
      refine (distinctItems_iff _).mpr fun made inside => ?_
      obtain ⟨item, among, rfl⟩ := List.mem_map.mp inside
      exact ih _ (size_lt_of_mem_items among) (each item among) rfl
    | obj fields =>
      have each := (distinctFields_iff fields).mp distinct.2
      have sorted : (sortFields order (fields.map fun field =>
          (field.1, canon order isFinite field.2))).Perm (fields.map fun field =>
          (field.1, canon order isFinite field.2)) := List.perm_insertionSort _ _
      rw [canon_obj]
      refine ⟨?_, (distinctFields_iff _).mpr fun made inside => ?_⟩
      · rw [(sorted.map _).nodup_iff, List.map_map]
        exact distinct.1
      · obtain ⟨field, among, rfl⟩ := List.mem_map.mp (sorted.mem_iff.mp inside)
        exact ih _ (size_lt_of_mem_fields among) (each field among) rfl

theorem distinct_sortKeys {v : Json ν} (distinct : Distinct v) :
    Distinct (sortKeys order.le v) := by
  have all : canon order (fun _ => true) v = sortKeys order.le v := bind_num _
  rw [← all]
  exact distinct_canon distinct

theorem alike_canon {v : Json ν} (distinct : Distinct v) :
    Alike order isFinite (canon order isFinite v) v :=
  ⟨distinct_canon distinct, distinct, canon_canon v⟩

/-- Values in another order of fields are alike. -/
theorem canon_of_reordered (apart : ∀ a b, order.le a b = true → order.le b a = true → a = b) :
    ∀ {v w : Json ν}, Distinct v → Reordered v w → Alike order isFinite v w := by
  intro v
  induction size : Json.size v using Nat.strong_induction_on generalizing v with
  | h n ih =>
    subst size
    intro w distinct same
    cases v with
    | null => cases w <;> simp_all [Reordered, Alike.refl]
    | bool b => cases w <;> simp_all [Reordered, Alike.refl]
    | num n => cases w <;> simp_all [Reordered, Alike.refl]
    | str s => cases w <;> simp_all [Reordered, Alike.refl]
    | arr items =>
      obtain ⟨items', rfl, each⟩ := (reordered_arr_iff items w).mp same
      refine alike_arr ?_
      have distinct_ := (distinctItems_iff items).mp distinct
      clear same distinct
      have alike : ∀ item ∈ items, ∀ other, Reordered item other →
          Alike order isFinite item other := fun item inside other reordered =>
        ih _ (size_lt_of_mem_items inside) rfl (distinct_ item inside) reordered
      clear ih distinct_
      induction each with
      | nil => exact .nil
      | cons first _ later =>
        rw [List.forall_mem_cons] at alike
        exact .cons (alike.1 _ first) (later alike.2)
    | obj fields =>
      have distinct' := distinct_of_reordered _ _ same distinct
      obtain ⟨mid, fields', rfl, -, -⟩ := (reordered_obj_iff fields w).mp same
      refine (alike_obj_iff apart).mpr ⟨distinct.1, distinct'.1, fun key => ?_⟩
      cases found : fields.lookup key with
      | none =>
        rw [lookup_none_of_reordered same found]
        exact .none
      | some value =>
        obtain ⟨value', found', reordered⟩ := lookup_of_reordered distinct.1 same found
        have inside := (lookup_eq_some_iff_mem distinct.1).mp found
        rw [found']
        exact .some (ih _ (size_lt_of_mem_fields inside) rfl
          ((distinctFields_iff fields).mp distinct.2 _ inside) reordered)

end Canonical

/-! ### Leaves of reordered values -/

mutual

/-- Values in another order of fields stay so with their leaves replaced. -/
theorem reordered_bind {μ : Type} (f : ν → Json μ) :
    ∀ v w : Json ν, Reordered v w → Reordered (bind f v) (bind f w)
  | .num n, w, same => by
    cases w with
    | num m =>
      rw [Reordered] at same
      rw [same]
      exact reordered_refl _
    | _ => simp [Reordered] at same
  | .arr items, w, same => by
    obtain ⟨items', rfl, each⟩ := (reordered_arr_iff items w).mp same
    rw [bind, bind, Reordered]
    exact reorderedItems_bind f items items' ((reorderedItems_iff _ _).mpr each)
  | .obj fields, w, same => by
    obtain ⟨mid, fields', rfl, perm, each⟩ := (reordered_obj_iff fields w).mp same
    rw [bind, bind, Reordered, bindFields_eq f fields']
    refine ⟨bindFields f mid, ?_, reorderedFields_bind f fields mid
      ((reorderedFields_iff _ _).mpr each)⟩
    rw [bindFields_eq]
    exact perm.map _
  | .null, w, same => by
    cases w with
    | null => exact reordered_refl _
    | _ => simp [Reordered] at same
  | .bool b, w, same => by
    cases w with
    | bool b' =>
      rw [Reordered] at same
      rw [same]
      exact reordered_refl _
    | _ => simp [Reordered] at same
  | .str s, w, same => by
    cases w with
    | str s' =>
      rw [Reordered] at same
      rw [same]
      exact reordered_refl _
    | _ => simp [Reordered] at same

theorem reorderedItems_bind {μ : Type} (f : ν → Json μ) : ∀ items items' : List (Json ν),
    ReorderedItems items items' → ReorderedItems (bindItems f items) (bindItems f items')
  | [], [], _ => by rw [bindItems, ReorderedItems]; exact trivial
  | [], _ :: _, same => by simp [ReorderedItems] at same
  | _ :: _, [], same => by simp [ReorderedItems] at same
  | item :: rest, item' :: rest', same => by
    rw [ReorderedItems] at same
    rw [bindItems, bindItems, ReorderedItems]
    exact ⟨reordered_bind f _ _ same.1, reorderedItems_bind f _ _ same.2⟩

theorem reorderedFields_bind {μ : Type} (f : ν → Json μ) : ∀ fields fields' : List (String × Json ν),
    ReorderedFields fields fields' → ReorderedFields (bindFields f fields) (bindFields f fields')
  | [], [], _ => by rw [bindFields, ReorderedFields]; exact trivial
  | [], _ :: _, same => by simp [ReorderedFields] at same
  | _ :: _, [], same => by simp [ReorderedFields] at same
  | (key, value) :: rest, (key', value') :: rest', same => by
    rw [ReorderedFields] at same
    rw [bindFields, bindFields, ReorderedFields]
    exact ⟨same.1, reordered_bind f _ _ same.2.1, reorderedFields_bind f _ _ same.2.2⟩

end

/-! ### Texts -/

section Texts

variable (write : ν → List Char)

theorem stringifyItems_eq (items : List (Json ν)) :
    stringifyItems write items = [','].intercalate (items.map (stringify write)) := by
  induction items with
  | nil => rfl
  | cons item rest ih =>
    cases rest with
    | nil => simp [stringifyItems]
    | cons next others =>
      rw [stringifyItems, ih]
      simp only [List.map_cons, List.intercalate_cons_cons, List.isEmpty_cons,
        Bool.false_eq_true, if_false, List.append_assoc, List.singleton_append]

theorem stringifyFields_eq (fields : List (String × Json ν)) :
    stringifyFields write fields = [','].intercalate (fields.map (fieldText write)) := by
  induction fields with
  | nil => rfl
  | cons field rest ih =>
    obtain ⟨key, value⟩ := field
    cases rest with
    | nil => simp [stringifyFields, fieldText]
    | cons next others =>
      rw [stringifyFields, ih]
      simp only [List.map_cons, List.intercalate_cons_cons, List.isEmpty_cons, fieldText,
        Bool.false_eq_true, if_false, List.append_assoc, List.singleton_append]

end Texts

end AifHandoff.Json
