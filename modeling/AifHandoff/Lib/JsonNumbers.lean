import AifHandoff.Lib.Json

/-!
JSON values with their numbers replaced.

A number that has no JSON text is written as `null`, so a value with such numbers is not
read back. The numbers that do have one are read back from their texts: a text is parsed
first with the texts of its numbers as the numbers.
-/

namespace AifHandoff.Json

variable {ν μ ρ : Type}

/-! ### Numbers replaced -/

mutual

/-- The value with every number replaced by a value. -/
def bind (f : ν → Json μ) : Json ν → Json μ
  | .num n => f n
  | .arr items => .arr (bindItems f items)
  | .obj fields => .obj (bindFields f fields)
  | .null => .null
  | .bool b => .bool b
  | .str s => .str s

def bindItems (f : ν → Json μ) : List (Json ν) → List (Json μ)
  | [] => []
  | item :: rest => bind f item :: bindItems f rest

def bindFields (f : ν → Json μ) : List (String × Json ν) → List (String × Json μ)
  | [] => []
  | (key, value) :: rest => (key, bind f value) :: bindFields f rest

end

theorem bindItems_eq (f : ν → Json μ) (items : List (Json ν)) :
    bindItems f items = items.map (bind f) := by
  induction items with
  | nil => rw [bindItems, List.map_nil]
  | cons item rest ih => rw [bindItems, ih, List.map_cons]

theorem bindFields_eq (f : ν → Json μ) (fields : List (String × Json ν)) :
    bindFields f fields = fields.map fun field => (field.1, bind f field.2) := by
  induction fields with
  | nil => rw [bindFields, List.map_nil]
  | cons field rest ih =>
    obtain ⟨key, value⟩ := field
    rw [bindFields, ih, List.map_cons]

theorem isEmpty_bindItems (f : ν → Json μ) (items : List (Json ν)) :
    (bindItems f items).isEmpty = items.isEmpty := by
  rw [bindItems_eq, List.isEmpty_map]

theorem isEmpty_bindFields (f : ν → Json μ) (fields : List (String × Json ν)) :
    (bindFields f fields).isEmpty = fields.isEmpty := by
  rw [bindFields_eq, List.isEmpty_map]

section Texts

variable {f : ν → Json μ} {write : ν → List Char} {write' : μ → List Char}

mutual

theorem stringify_bind (text : ∀ n, stringify write' (f n) = write n) :
    ∀ v : Json ν, stringify write' (bind f v) = stringify write v
  | .num n => by rw [bind, stringify, text]
  | .arr items => by rw [bind, stringify, stringify, stringifyItems_bind text]
  | .obj fields => by rw [bind, stringify, stringify, stringifyFields_bind text]
  | .null => by rw [bind, stringify, stringify]
  | .bool true => by rw [bind, stringify, stringify]
  | .bool false => by rw [bind, stringify, stringify]
  | .str s => by rw [bind, stringify, stringify]

theorem stringifyItems_bind (text : ∀ n, stringify write' (f n) = write n) :
    ∀ items : List (Json ν), stringifyItems write' (bindItems f items) = stringifyItems write items
  | [] => by rw [bindItems, stringifyItems, stringifyItems]
  | item :: rest => by
    rw [bindItems, stringifyItems, stringifyItems, stringify_bind text item, isEmpty_bindItems,
      stringifyItems_bind text rest]

theorem stringifyFields_bind (text : ∀ n, stringify write' (f n) = write n) :
    ∀ fields : List (String × Json ν),
      stringifyFields write' (bindFields f fields) = stringifyFields write fields
  | [] => by rw [bindFields, stringifyFields, stringifyFields]
  | (key, value) :: rest => by
    rw [bindFields, stringifyFields, stringifyFields, stringify_bind text value,
      isEmpty_bindFields, stringifyFields_bind text rest]

end

end Texts

section Keys

theorem distinctItems_iff (items : List (Json ν)) :
    Distinct.DistinctItems items ↔ ∀ item ∈ items, Distinct item := by
  induction items with
  | nil => simp [Distinct.DistinctItems]
  | cons item rest ih => rw [Distinct.DistinctItems, ih, List.forall_mem_cons]

theorem distinctFields_iff (fields : List (String × Json ν)) :
    Distinct.DistinctFields fields ↔ ∀ field ∈ fields, Distinct field.2 := by
  induction fields with
  | nil => simp [Distinct.DistinctFields]
  | cons field rest ih => rw [Distinct.DistinctFields, ih, List.forall_mem_cons]

variable {f : ν → Json μ}

mutual

theorem distinct_bind (plain : ∀ n, Distinct (f n)) : ∀ v : Json ν, Distinct v → Distinct (bind f v)
  | .num n, _ => by
    rw [bind]
    exact plain n
  | .arr items, distinct => by
    rw [bind, Distinct]
    rw [Distinct] at distinct
    exact distinctItems_bind plain items distinct
  | .obj fields, distinct => by
    rw [Distinct] at distinct
    rw [bind, Distinct]
    refine ⟨?_, distinctFields_bind plain fields distinct.2⟩
    rw [bindFields_eq, List.map_map]
    exact distinct.1
  | .null, _ => by
    rw [bind]
    exact trivial
  | .bool _, _ => by
    rw [bind]
    exact trivial
  | .str _, _ => by
    rw [bind]
    exact trivial

theorem distinctItems_bind (plain : ∀ n, Distinct (f n)) : ∀ items : List (Json ν),
    Distinct.DistinctItems items → Distinct.DistinctItems (bindItems f items)
  | [], _ => by
    rw [bindItems]
    exact trivial
  | item :: rest, distinct => by
    rw [bindItems]
    exact ⟨distinct_bind plain item distinct.1, distinctItems_bind plain rest distinct.2⟩

theorem distinctFields_bind (plain : ∀ n, Distinct (f n)) : ∀ fields : List (String × Json ν),
    Distinct.DistinctFields fields → Distinct.DistinctFields (bindFields f fields)
  | [], _ => by
    rw [bindFields]
    exact trivial
  | (_, value) :: rest, distinct => by
    rw [bindFields]
    exact ⟨distinct_bind plain value distinct.1, distinctFields_bind plain rest distinct.2⟩

end

end Keys

mutual

theorem bind_bind (f : ν → Json μ) (g : μ → Json ρ) :
    ∀ v : Json ν, bind g (bind f v) = bind (fun n => bind g (f n)) v
  | .num n => by rw [bind, bind]
  | .arr items => by rw [bind, bind, bind, bindItems_bindItems]
  | .obj fields => by rw [bind, bind, bind, bindFields_bindFields]
  | .null => by rw [bind, bind, bind]
  | .bool _ => by rw [bind, bind, bind]
  | .str _ => by rw [bind, bind, bind]

theorem bindItems_bindItems (f : ν → Json μ) (g : μ → Json ρ) : ∀ items : List (Json ν),
    bindItems g (bindItems f items) = bindItems (fun n => bind g (f n)) items
  | [] => by rw [bindItems, bindItems, bindItems]
  | item :: rest => by
    rw [bindItems, bindItems, bindItems, bind_bind f g item, bindItems_bindItems f g rest]

theorem bindFields_bindFields (f : ν → Json μ) (g : μ → Json ρ) :
    ∀ fields : List (String × Json ν),
      bindFields g (bindFields f fields) = bindFields (fun n => bind g (f n)) fields
  | [] => by rw [bindFields, bindFields, bindFields]
  | (key, value) :: rest => by
    rw [bindFields, bindFields, bindFields, bind_bind f g value, bindFields_bindFields f g rest]

end

/-! ### Parsing -/

section Parsing

variable {f : ν → Json μ} {read : List Char → ν} {read' : List Char → μ}

theorem putField_bind (fields : List (String × Json ν)) (field : String × Json ν) :
    bindFields f (putField fields field) =
      putField (bindFields f fields) (field.1, bind f field.2) := by
  have same : (fields.map fun field => (field.1, bind f field.2)).any (·.1 = field.1) =
      fields.any (·.1 = field.1) := by
    rw [List.any_map]
    rfl
  rw [bindFields_eq, bindFields_eq, putField, putField, same]
  split
  · rw [List.map_map, List.map_map]
    refine List.map_congr_left fun old _ => ?_
    dsimp only [Function.comp]
    split <;> rfl
  · rw [List.map_append, List.map_singleton]

theorem foldl_putField_bind (fields done : List (String × Json ν)) :
    bindFields f (fields.foldl putField done) =
      (bindFields f fields).foldl putField (bindFields f done) := by
  induction fields generalizing done with
  | nil => rw [bindFields, List.foldl_nil, List.foldl_nil]
  | cons field rest ih =>
    obtain ⟨key, value⟩ := field
    rw [bindFields, List.foldl_cons, List.foldl_cons, ih, putField_bind]

mutual

theorem parseValue_bind (reads : ∀ cs, isNumber cs = true → f (read cs) = .num (read' cs)) :
    ∀ (fuel : Nat) (cs : List Char), parseValue read' fuel cs =
      (parseValue read fuel cs).map fun found => (bind f found.1, found.2)
  | 0, _ => by rw [parseValue, parseValue, Option.map_none]
  | fuel + 1, [] => by simp only [parseValue, Option.map_none]
  | fuel + 1, c :: rest => by
    rw [parseValue.eq_def, parseValue.eq_def read]
    dsimp only
    split
    · rw [Option.map_map]
      rfl
    split
    · split
      · rfl
      · rw [parseItems_bind reads fuel, Option.map_map, Option.map_map]
        rfl
    split
    · split
      · rfl
      · rw [parseFields_bind reads fuel, Option.map_map, Option.map_map]
        refine congrArg (fun g => Option.map g _) (funext fun found => ?_)
        change (_, _) = (bind f (.obj (found.1.foldl putField [])), found.2)
        rw [bind, foldl_putField_bind, bindFields]
    split
    · rw [Option.map_map]
      rfl
    split
    · rw [Option.map_map]
      rfl
    split
    · rw [Option.map_map]
      rfl
    · rw [parseNumber, parseNumber]
      split
      next number => rw [Option.map_some, bind, reads _ number]
      · rfl

theorem parseItems_bind (reads : ∀ cs, isNumber cs = true → f (read cs) = .num (read' cs)) :
    ∀ (fuel : Nat) (cs : List Char), parseItems read' fuel cs =
      (parseItems read fuel cs).map fun found => (bindItems f found.1, found.2)
  | 0, _ => by rw [parseItems, parseItems, Option.map_none]
  | fuel + 1, cs => by
    rw [parseItems, parseItems, parseValue_bind reads fuel]
    cases parseValue read fuel cs with
    | none => rfl
    | some found =>
      obtain ⟨item, rest⟩ := found
      rw [Option.map_some, Option.bind_some, Option.bind_some]
      dsimp only
      split
      · rw [Option.map_some, bindItems, bindItems]
      split
      · rw [parseItems_bind reads fuel, Option.map_map, Option.map_map]
        rfl
      · rfl

theorem parseFields_bind (reads : ∀ cs, isNumber cs = true → f (read cs) = .num (read' cs)) :
    ∀ (fuel : Nat) (cs : List Char), parseFields read' fuel cs =
      (parseFields read fuel cs).map fun found => (bindFields f found.1, found.2)
  | 0, _ => by rw [parseFields, parseFields, Option.map_none]
  | fuel + 1, cs => by
    rw [parseFields, parseFields]
    split
    · cases parseString cs.tail with
      | none => rfl
      | some found =>
        obtain ⟨key, rest⟩ := found
        rw [Option.bind_some, Option.bind_some]
        dsimp only
        split
        · rw [parseValue_bind reads fuel]
          cases parseValue read fuel (skipSpace (skipSpace rest).tail) with
          | none => rfl
          | some found =>
            obtain ⟨value, rest⟩ := found
            rw [Option.map_some, Option.bind_some, Option.bind_some]
            dsimp only
            split
            · rw [Option.map_some, bindFields, bindFields]
            split
            · rw [parseFields_bind reads fuel, Option.map_map, Option.map_map]
              rfl
            · rfl
        · rfl
    · rfl

end

theorem parse_bind (reads : ∀ cs, isNumber cs = true → f (read cs) = .num (read' cs))
    (text : List Char) : parse read' text = (parse read text).map (bind f) := by
  rw [parse, parse, parseValue_bind reads]
  cases parseValue read (text.length + 1) (skipSpace text) with
  | none => rfl
  | some found =>
    rw [Option.map_some]
    dsimp only
    split <;> rfl

end Parsing

/-! ### Numbers by their texts -/

/-- A text of a number. -/
abbrev NumberText : Type := {cs : List Char // isNumber cs = true}

/-- Number texts as numbers. -/
def textNumbers : NumberTexts NumberText where
  write := Subtype.val
  read := fun cs => if number : isNumber cs = true then ⟨cs, number⟩ else ⟨['0'], by decide⟩

theorem lawful_textNumbers : LawfulNumbers textNumbers where
  isNumber := Subtype.prop
  read := fun text => dif_pos text.prop

/-- Numbers of which the finite ones have a text that is read back. -/
structure FiniteNumbers (isFinite : ν → Bool) (text : ν → String) (read : List Char → ν) : Prop where
  isNumber : ∀ n, isFinite n = true → isNumber (text n).toList = true
  read : ∀ n, isFinite n = true → read (text n).toList = n

section Finite

variable {isFinite : ν → Bool} {text : ν → String} {read : List Char → ν}

/-- `null` in the place of a number that is not finite. -/
def finiteOrNull (isFinite : ν → Bool) (n : ν) : Json ν := if isFinite n then .num n else .null

/-- What is written for a number. -/
def writeFinite (isFinite : ν → Bool) (text : ν → String) (n : ν) : List Char :=
  if isFinite n then (text n).toList else ['n', 'u', 'l', 'l']

/-- A finite number as its text. -/
def numberText (isFinite : ν → Bool) (text : ν → String) (n : ν) : Json NumberText :=
  if isFinite n then .num (textNumbers.read (text n).toList) else .null

theorem stringify_numberText (finite : FiniteNumbers isFinite text read) (n : ν) :
    stringify textNumbers.write (numberText isFinite text n) = writeFinite isFinite text n := by
  unfold numberText writeFinite
  split
  next is =>
    rw [stringify, textNumbers]
    dsimp only
    rw [dif_pos (finite.isNumber n is)]
  next => rw [stringify]

theorem distinct_numberText (isFinite : ν → Bool) (text : ν → String) (n : ν) :
    Distinct (numberText isFinite text n) := by
  unfold numberText
  split <;> exact trivial

theorem bind_numberText (finite : FiniteNumbers isFinite text read) (n : ν) :
    bind (fun token : NumberText => .num (read token.val)) (numberText isFinite text n) =
      finiteOrNull isFinite n := by
  unfold numberText finiteOrNull
  split
  next is =>
    rw [bind, textNumbers]
    dsimp only
    rw [dif_pos (finite.isNumber n is), finite.read n is]
  next => rw [bind]

/-- A value that was written is read back, with `null` for the numbers without a text. -/
theorem parse_stringify_finite (finite : FiniteNumbers isFinite text read) {v : Json ν}
    (distinct : Distinct v) :
    parse read (stringify (writeFinite isFinite text) v) =
      some (bind (finiteOrNull isFinite) v) := by
  have tokens := parse_stringify lawful_textNumbers
    (distinct_bind (distinct_numberText isFinite text) v distinct)
  have reads : ∀ cs, isNumber cs = true →
      (Json.num (read (textNumbers.read cs).val) : Json ν) = .num (read cs) := by
    intro cs number
    rw [textNumbers]
    dsimp only
    rw [dif_pos number]
  rw [stringify_bind (stringify_numberText finite)] at tokens
  rw [parse_bind (f := fun token : NumberText => .num (read token.val)) reads, tokens,
    Option.map_some, bind_bind]
  simp only [bind_numberText finite]

/-- A value with each key once and finite numbers only. -/
structure Plain (isFinite : ν → Bool) (v : Json ν) : Prop where
  distinct : Distinct v
  finite : bind (finiteOrNull isFinite) v = v

theorem plain_null : Plain isFinite (.null : Json ν) := ⟨trivial, by rw [bind]⟩

theorem plain_bool (b : Bool) : Plain isFinite (.bool b : Json ν) := ⟨trivial, by rw [bind]⟩

theorem plain_str (s : String) : Plain isFinite (.str s : Json ν) := ⟨trivial, by rw [bind]⟩

theorem plain_num {n : ν} (finite : isFinite n = true) : Plain isFinite (.num n) :=
  ⟨trivial, by rw [bind, finiteOrNull, if_pos finite]⟩

theorem map_eq_self_iff {α : Type} (f : α → α) (l : List α) :
    l.map f = l ↔ ∀ x ∈ l, f x = x := by
  constructor
  · intro same x inside
    exact List.map_inj_left.mp (same.trans (List.map_id l).symm) x inside
  · intro fixed
    exact (List.map_congr_left fixed).trans (List.map_id l)

theorem plain_arr_iff (items : List (Json ν)) :
    Plain isFinite (.arr items) ↔ ∀ item ∈ items, Plain isFinite item := by
  have distinct := distinctItems_iff items
  have finite : bindItems (finiteOrNull isFinite) items = items ↔
      ∀ item ∈ items, bind (finiteOrNull isFinite) item = item := by
    rw [bindItems_eq]
    exact map_eq_self_iff _ _
  constructor
  · intro plain item inside
    have each := plain.finite
    rw [bind, Json.arr.injEq, finite] at each
    exact ⟨distinct.mp plain.distinct item inside, each item inside⟩
  · intro each
    refine ⟨distinct.mpr fun item inside => (each item inside).distinct, ?_⟩
    rw [bind, Json.arr.injEq, finite]
    exact fun item inside => (each item inside).finite

theorem plain_obj_iff (fields : List (String × Json ν)) :
    Plain isFinite (.obj fields) ↔
      (fields.map (·.1)).Nodup ∧ ∀ field ∈ fields, Plain isFinite field.2 := by
  have distinct := distinctFields_iff fields
  have finite : bindFields (finiteOrNull isFinite) fields = fields ↔
      ∀ field ∈ fields, bind (finiteOrNull isFinite) field.2 = field.2 := by
    rw [bindFields_eq, map_eq_self_iff]
    simp only [Prod.ext_iff, true_and]
  constructor
  · intro plain
    have each := plain.finite
    rw [bind, Json.obj.injEq, finite] at each
    exact ⟨plain.distinct.1, fun field inside =>
      ⟨distinct.mp plain.distinct.2 field inside, each field inside⟩⟩
  · rintro ⟨keys, each⟩
    refine ⟨⟨keys, distinct.mpr fun field inside => (each field inside).distinct⟩, ?_⟩
    rw [bind, Json.obj.injEq, finite]
    exact fun field inside => (each field inside).finite

end Finite

end AifHandoff.Json
