import AifHandoff.Lib.Json

/-!
JSON texts with more text behind them.

A value that ends before the text does is read in the same way whatever follows; only a
number at the end of the text can go on. So the text of an object has no shorter text of a
value at its head.
-/

namespace AifHandoff.Json

universe u

variable {ν : Type} {read : List Char → ν} (more : List Char)

theorem parseUnits_append {state : StringState} {cs rest : List Char}
    {units : List (Char ⊕ Nat)} (parsed : parseUnits state cs = some (units, rest)) :
    parseUnits state (cs ++ more) = some (units, rest ++ more) := by
  fun_induction parseUnits state cs generalizing units rest <;> simp_all [parseUnits]
  -- a character or a code unit is read, and the units behind it
  all_goals
    obtain ⟨units, parsed, same⟩ := parsed
    exact ⟨units, by solve_by_elim, same⟩

theorem parseString_append {cs rest : List Char} {s : String}
    (parsed : parseString cs = some (s, rest)) :
    parseString (cs ++ more) = some (s, rest ++ more) := by
  rw [parseString] at parsed
  obtain ⟨⟨units, rest'⟩, inner, same⟩ := Option.map_eq_some_iff.mp parsed
  obtain ⟨rfl, rfl⟩ := Prod.mk.inj same
  rw [parseString, parseUnits_append more inner]
  rfl

theorem after?_append {literal cs rest : List Char} (found : after? literal cs = some rest) :
    after? literal (cs ++ more) = some (rest ++ more) := by
  rw [after?] at found
  split at found
  · rename_i starts
    obtain ⟨tail, rfl⟩ := List.isPrefixOf_iff_prefix.mp starts
    obtain rfl := Option.some.inj found
    have starts' : literal.isPrefixOf (literal ++ tail ++ more) = true :=
      List.isPrefixOf_iff_prefix.mpr ⟨tail ++ more, by rw [List.append_assoc]⟩
    rw [after?, if_pos starts', List.append_assoc, List.drop_left, List.drop_left]
  · cases found

theorem skipSpace_append {cs : List Char} (visible : skipSpace cs ≠ []) :
    skipSpace (cs ++ more) = skipSpace cs ++ more := by
  induction cs with
  | nil => exact absurd rfl visible
  | cons c rest ih =>
    rw [List.cons_append, skipSpace, skipSpace]
    cases space : isSpace c with
    | true =>
      rw [List.dropWhile_cons_of_pos space, List.dropWhile_cons_of_pos space]
      rw [skipSpace, List.dropWhile_cons_of_pos space] at visible
      exact ih visible
    | false => simp [space]

theorem skipSpace_head_append {cs : List Char} {c : Char} (first : (skipSpace cs).head? = some c) :
    (skipSpace (cs ++ more)).head? = some c ∧
      (skipSpace (cs ++ more)).tail = (skipSpace cs).tail ++ more := by
  have visible : skipSpace cs ≠ [] := by
    intro gone
    rw [gone] at first
    cases first
  rw [skipSpace_append more visible]
  cases shape : skipSpace cs with
  | nil => exact absurd shape visible
  | cons d rest =>
    rw [shape] at first
    exact ⟨first, rfl⟩

theorem parseNumber_append {cs rest : List Char} {v : Json ν}
    (parsed : parseNumber read cs = some (v, rest)) (ends : rest ≠ []) :
    parseNumber read (cs ++ more) = some (v, rest ++ more) := by
  rw [parseNumber] at parsed
  split at parsed
  · rename_i number
    obtain ⟨rfl, rfl⟩ := Prod.mk.inj (Option.some.inj parsed)
    have stops : ¬ ∀ c ∈ cs, isNumberChar c = true := by
      intro all
      exact ends (List.dropWhile_eq_nil_iff.mpr all)
    have same : (cs ++ more).takeWhile isNumberChar = cs.takeWhile isNumberChar := by
      rw [List.takeWhile_append, if_neg]
      intro whole
      exact stops (List.takeWhile_eq_self_iff.mp (List.takeWhile_prefix _ |>.eq_of_length whole))
    have left : (cs ++ more).dropWhile isNumberChar = cs.dropWhile isNumberChar ++ more := by
      rw [List.dropWhile_append, if_neg]
      intro gone
      exact ends (List.isEmpty_iff.mp gone)
    rw [parseNumber, same, left, if_pos number]
  · cases parsed

/-- Values whose texts show their end. -/
def closed : Json ν → Bool
  | .num _ => false
  | _ => true

/-- What is read with this fuel is read with more of it and with more text behind. -/
structure Extends (read : List Char → ν) (more : List Char) (fuel : Nat) : Prop where
  value : ∀ {fuel' cs v rest}, fuel ≤ fuel' → parseValue read fuel cs = some (v, rest) →
    (rest ≠ [] ∨ closed v = true) → parseValue read fuel' (cs ++ more) = some (v, rest ++ more)
  items : ∀ {fuel' cs items rest}, fuel ≤ fuel' → parseItems read fuel cs = some (items, rest) →
    parseItems read fuel' (cs ++ more) = some (items, rest ++ more)
  fields : ∀ {fuel' cs fields rest}, fuel ≤ fuel' →
    parseFields read fuel cs = some (fields, rest) →
    parseFields read fuel' (cs ++ more) = some (fields, rest ++ more)

theorem ne_nil_of_head {cs : List Char} {c : Char} (first : (skipSpace cs).head? = some c) :
    cs ≠ [] := by
  rintro rfl
  cases first

theorem parseValue_nil (fuel : Nat) : parseValue read fuel [] = none := by
  cases fuel with
  | zero => rfl
  | succ fuel => rfl

theorem parseItems_nil (fuel : Nat) : parseItems read fuel [] = none := by
  cases fuel with
  | zero => rfl
  | succ fuel => rw [parseItems, parseValue_nil, Option.bind_none]

theorem parseFields_nil (fuel : Nat) : parseFields read fuel [] = none := by
  cases fuel with
  | zero => rfl
  | succ fuel => rfl

theorem Extends.items_succ {fuel : Nat} (less : Extends read more fuel) {fuel' : Nat}
    {cs rest : List Char} {items : List (Json ν)} (enough : fuel + 1 ≤ fuel')
    (parsed : parseItems read (fuel + 1) cs = some (items, rest)) :
    parseItems read fuel' (cs ++ more) = some (items, rest ++ more) := by
  obtain ⟨fuel', rfl⟩ : ∃ n, fuel' = n + 1 := ⟨fuel' - 1, by omega⟩
  rw [parseItems] at parsed
  obtain ⟨⟨item, behind⟩, head, parsed⟩ := Option.bind_eq_some_iff.mp parsed
  dsimp only at parsed
  rw [parseItems]
  split_ifs at parsed with close comma
  · obtain ⟨rfl, rfl⟩ := Prod.mk.inj (Option.some.inj parsed)
    obtain ⟨close', left⟩ := skipSpace_head_append more close
    rw [less.value (by omega) head (.inl (ne_nil_of_head close)), Option.bind_some]
    dsimp only
    rw [if_pos close', left]
  · obtain ⟨⟨others, rest'⟩, tail, same⟩ := Option.map_eq_some_iff.mp parsed
    obtain ⟨rfl, rfl⟩ := Prod.mk.inj same
    obtain ⟨comma', left⟩ := skipSpace_head_append more comma
    have visible : skipSpace (skipSpace behind).tail ≠ [] := by
      intro gone
      rw [gone, parseItems_nil] at tail
      cases tail
    have open_ : (skipSpace (behind ++ more)).head? ≠ some ']' := by
      rw [comma']
      decide
    rw [less.value (by omega) head (.inl (ne_nil_of_head comma)), Option.bind_some]
    dsimp only
    rw [if_neg open_, if_pos comma', left, skipSpace_append more visible,
      less.items (by omega) tail]
    rfl

theorem Extends.fields_succ {fuel : Nat} (less : Extends read more fuel) {fuel' : Nat}
    {cs rest : List Char} {fields : List (String × Json ν)} (enough : fuel + 1 ≤ fuel')
    (parsed : parseFields read (fuel + 1) cs = some (fields, rest)) :
    parseFields read fuel' (cs ++ more) = some (fields, rest ++ more) := by
  obtain ⟨fuel', rfl⟩ : ∃ n, fuel' = n + 1 := ⟨fuel' - 1, by omega⟩
  rw [parseFields] at parsed
  rw [parseFields]
  split_ifs at parsed with quoted
  cases cs with
  | nil => cases quoted
  | cons c cs =>
    obtain rfl : c = '"' := by simpa using quoted
    obtain ⟨⟨key, afterKey⟩, keyRead, parsed⟩ := Option.bind_eq_some_iff.mp parsed
    dsimp only at parsed
    split_ifs at parsed with colon
    obtain ⟨⟨value, behind⟩, valueRead, parsed⟩ := Option.bind_eq_some_iff.mp parsed
    dsimp only at parsed
    obtain ⟨colon', afterColon⟩ := skipSpace_head_append more colon
    have visible : skipSpace (skipSpace afterKey).tail ≠ [] := by
      intro gone
      rw [gone, parseValue_nil] at valueRead
      cases valueRead
    have key' : parseString (('"' :: cs ++ more).tail) = some (key, afterKey ++ more) :=
      parseString_append more keyRead
    have head' : ('"' :: cs ++ more).head? = some '"' := rfl
    rw [if_pos head', key', Option.bind_some]
    dsimp only
    rw [if_pos colon', afterColon, skipSpace_append more visible]
    split_ifs at parsed with close comma
    · obtain ⟨rfl, rfl⟩ := Prod.mk.inj (Option.some.inj parsed)
      obtain ⟨close', left⟩ := skipSpace_head_append more close
      rw [less.value (by omega) valueRead (.inl (ne_nil_of_head close)), Option.bind_some]
      dsimp only
      rw [if_pos close', left]
    · obtain ⟨⟨others, rest'⟩, tail, same⟩ := Option.map_eq_some_iff.mp parsed
      obtain ⟨rfl, rfl⟩ := Prod.mk.inj same
      obtain ⟨comma', left⟩ := skipSpace_head_append more comma
      have filled : skipSpace (skipSpace behind).tail ≠ [] := by
        intro gone
        rw [gone, parseFields_nil] at tail
        cases tail
      have open_ : (skipSpace (behind ++ more)).head? ≠ some '\x7d' := by
        rw [comma']
        decide
      rw [less.value (by omega) valueRead (.inl (ne_nil_of_head comma)), Option.bind_some]
      dsimp only
      rw [if_neg open_, if_pos comma', left, skipSpace_append more filled,
        less.fields (by omega) tail]
      rfl

theorem skipSpace_open_append {cs : List Char} {c : Char}
    (open_ : (skipSpace cs).head? ≠ some c) (visible : skipSpace cs ≠ []) :
    (skipSpace (cs ++ more)).head? ≠ some c := by
  rw [skipSpace_append more visible]
  cases shape : skipSpace cs with
  | nil => exact absurd shape visible
  | cons d rest =>
    rw [shape] at open_
    exact open_

theorem Extends.value_succ {fuel : Nat} (less : Extends read more fuel) {fuel' : Nat}
    {cs rest : List Char} {v : Json ν} (enough : fuel + 1 ≤ fuel')
    (parsed : parseValue read (fuel + 1) cs = some (v, rest))
    (ends : rest ≠ [] ∨ closed v = true) :
    parseValue read fuel' (cs ++ more) = some (v, rest ++ more) := by
  obtain ⟨fuel', rfl⟩ : ∃ n, fuel' = n + 1 := ⟨fuel' - 1, by omega⟩
  cases cs with
  | nil => cases parsed
  | cons c cs =>
    rw [parseValue] at parsed
    rw [List.cons_append, parseValue]
    split_ifs at parsed with text array object null true_ false_
    · obtain ⟨⟨s, rest'⟩, inner, same⟩ := Option.map_eq_some_iff.mp parsed
      obtain ⟨rfl, rfl⟩ := Prod.mk.inj same
      rw [if_pos text, parseString_append more inner]
      rfl
    · dsimp only at parsed
      split_ifs at parsed with empty
      · obtain ⟨rfl, rfl⟩ := Prod.mk.inj (Option.some.inj parsed)
        obtain ⟨empty', left⟩ := skipSpace_head_append more empty
        rw [if_neg text, if_pos array]
        dsimp only
        rw [if_pos empty', left]
      · obtain ⟨⟨items, rest'⟩, inner, same⟩ := Option.map_eq_some_iff.mp parsed
        obtain ⟨rfl, rfl⟩ := Prod.mk.inj same
        have visible : skipSpace cs ≠ [] := by
          intro gone
          rw [gone, parseItems_nil] at inner
          cases inner
        rw [if_neg text, if_pos array]
        dsimp only
        rw [if_neg (skipSpace_open_append more empty visible), skipSpace_append more visible,
          less.items (by omega) inner]
        rfl
    · dsimp only at parsed
      split_ifs at parsed with empty
      · obtain ⟨rfl, rfl⟩ := Prod.mk.inj (Option.some.inj parsed)
        obtain ⟨empty', left⟩ := skipSpace_head_append more empty
        rw [if_neg text, if_neg array, if_pos object]
        dsimp only
        rw [if_pos empty', left]
      · obtain ⟨⟨fields, rest'⟩, inner, same⟩ := Option.map_eq_some_iff.mp parsed
        obtain ⟨rfl, rfl⟩ := Prod.mk.inj same
        have visible : skipSpace cs ≠ [] := by
          intro gone
          rw [gone, parseFields_nil] at inner
          cases inner
        rw [if_neg text, if_neg array, if_pos object]
        dsimp only
        rw [if_neg (skipSpace_open_append more empty visible), skipSpace_append more visible,
          less.fields (by omega) inner]
        rfl
    · obtain ⟨rest', inner, same⟩ := Option.map_eq_some_iff.mp parsed
      obtain ⟨rfl, rfl⟩ := Prod.mk.inj same
      rw [if_neg text, if_neg array, if_neg object, if_pos null, after?_append more inner]
      rfl
    · obtain ⟨rest', inner, same⟩ := Option.map_eq_some_iff.mp parsed
      obtain ⟨rfl, rfl⟩ := Prod.mk.inj same
      rw [if_neg text, if_neg array, if_neg object, if_neg null, if_pos true_,
        after?_append more inner]
      rfl
    · obtain ⟨rest', inner, same⟩ := Option.map_eq_some_iff.mp parsed
      obtain ⟨rfl, rfl⟩ := Prod.mk.inj same
      rw [if_neg text, if_neg array, if_neg object, if_neg null, if_neg true_, if_pos false_,
        after?_append more inner]
      rfl
    · rw [if_neg text, if_neg array, if_neg object, if_neg null, if_neg true_, if_neg false_]
      have number : closed v = false := by
        rw [parseNumber] at parsed
        split_ifs at parsed
        obtain ⟨rfl, -⟩ := Prod.mk.inj (Option.some.inj parsed)
        rfl
      rcases ends with behind | shut
      · exact parseNumber_append more parsed behind
      · rw [number] at shut
        cases shut

theorem extends_ (read : List Char → ν) (more : List Char) (fuel : Nat) :
    Extends read more fuel := by
  induction fuel with
  | zero =>
    constructor
    · intro _ _ _ _ _ parsed _
      cases parsed
    · intro _ _ _ _ _ parsed
      cases parsed
    · intro _ _ _ _ _ parsed
      cases parsed
  | succ fuel less =>
    exact ⟨less.value_succ, less.items_succ, less.fields_succ⟩

/-- A value that shows its end is read in the same way with more fuel and more text behind. -/
theorem parseValue_append {fuel fuel' : Nat} {cs rest : List Char} {v : Json ν}
    (enough : fuel ≤ fuel') (parsed : parseValue read fuel cs = some (v, rest))
    (shut : closed v = true) : parseValue read fuel' (cs ++ more) = some (v, rest ++ more) :=
  (extends_ read more fuel).value enough parsed (.inr shut)

theorem closed_of_brace {fuel : Nat} {cs rest : List Char} {v : Json ν}
    (parsed : parseValue read fuel ('\x7b' :: cs) = some (v, rest)) : closed v = true := by
  cases fuel with
  | zero => cases parsed
  | succ fuel =>
    have notText : '\x7b' ≠ '"' := by decide
    have notArray : '\x7b' ≠ '[' := by decide
    rw [parseValue, if_neg notText, if_neg notArray, if_pos rfl] at parsed
    dsimp only at parsed
    split_ifs at parsed
    · obtain ⟨rfl, -⟩ := Prod.mk.inj (Option.some.inj parsed)
      rfl
    · obtain ⟨⟨fields, rest'⟩, -, same⟩ := Option.map_eq_some_iff.mp parsed
      obtain ⟨rfl, -⟩ := Prod.mk.inj same
      rfl

/-- The text of an object, cut off before its end, is no JSON text. -/
theorem parse_cut_off {N : NumberTexts ν} (lawful : LawfulNumbers N)
    {object : List (String × Json ν)} (distinct : Distinct (.obj object)) {cs more : List Char}
    (split : stringify N.write (.obj object) = cs ++ more) (cut : more ≠ []) :
    parse N.read cs = none := by
  cases cs with
  | nil => rfl
  | cons c cs =>
    have text : stringify N.write (.obj object) =
        '\x7b' :: (stringifyFields N.write object ++ ['\x7d']) := rfl
    obtain rfl : c = '\x7b' := by
      rw [text] at split
      exact (List.cons.inj split).1.symm
    have opens : isSpace '\x7b' = false := by decide
    have brace' : '\x7d' ∈ more := by
      have last := congrArg List.getLast? split
      rw [text, ← List.cons_append, List.getLast?_append, List.getLast?_append] at last
      cases shape : more.getLast? with
      | none => exact absurd (List.getLast?_eq_none_iff.mp shape) cut
      | some d =>
        rw [shape] at last
        obtain rfl : '\x7d' = d := by simpa using last
        exact List.mem_of_getLast? shape
    have whole := parse_stringify lawful distinct
    cases head : parseValue N.read (('\x7b' :: cs).length + 1) ('\x7b' :: cs) with
    | none => rw [parse, skipSpace_cons opens, head]
    | some result =>
      obtain ⟨v, rest⟩ := result
      have longer : ('\x7b' :: cs).length + 1 ≤
          (stringify N.write (.obj object)).length + 1 := by
        rw [split, List.length_append]
        omega
      have read := parseValue_append more longer head (closed_of_brace head)
      rw [← split] at read
      rw [parse, text, skipSpace_cons opens, ← text, read] at whole
      dsimp only at whole
      split_ifs at whole with blank
      have allSpace := List.dropWhile_eq_nil_iff.mp (List.isEmpty_iff.mp blank)
      have space := allSpace '\x7d' (List.mem_append_right _ brace')
      rw [brace] at space
      cases space

end AifHandoff.Json
