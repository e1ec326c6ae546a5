import AifHandoff.Lib.LexicalPath

/-!
Lower case and what it leaves alone.

A class of characters is caseless when its members are their own lower case and no other
character has one of them in its lower case: the separators of a path and white space are.
Cutting such characters off a text commutes with lower-casing.
-/

namespace AifHandoff.Text

open PathPattern

/-! ### Characters -/

theorem toLower_cases (c : Char) :
    (c.toLower = c ∧ ¬ (65 ≤ c.toNat ∧ c.toNat ≤ 90)) ∨
      (65 ≤ c.toNat ∧ c.toNat ≤ 90 ∧ c.toLower.toNat = c.toNat + 32) := by
  by_cases upper : 65 ≤ c.toNat ∧ c.toNat ≤ 90
  · refine .inr ⟨upper.1, upper.2, ?_⟩
    have bounds : c.val ≥ 'A'.val ∧ c.val ≤ 'Z'.val := by
      simp only [ge_iff_le, UInt32.le_iff_toNat_le]
      exact upper
    have value : c.toLower.val = c.val + ('a'.val - 'A'.val) := by
      unfold Char.toLower
      rw [dif_pos bounds]
    have step : ('a'.val - 'A'.val).toNat = 32 := by decide
    rw [Char.toNat, value, UInt32.toNat_add, step]
    exact Nat.mod_eq_of_lt (lt_of_le_of_lt (Nat.add_le_add_right upper.2 32) (by decide))
  · refine .inl ⟨?_, upper⟩
    have bounds : ¬ (c.val ≥ 'A'.val ∧ c.val ≤ 'Z'.val) := by
      simp only [ge_iff_le, UInt32.le_iff_toNat_le]
      exact upper
    unfold Char.toLower
    rw [dif_neg bounds]

theorem toLower_toLower (c : Char) : c.toLower.toLower = c.toLower := by
  rcases toLower_cases c with ⟨same, -⟩ | ⟨low, high, letter⟩
  · rw [same, same]
  · rcases toLower_cases c.toLower with ⟨same, -⟩ | ⟨-, tooHigh, -⟩
    · exact same
    · omega

theorem lowerChar_cases (c : Char) :
    (c = '\u212A' ∧ lowerChar c = ['k']) ∨ (c = '\u0130' ∧ lowerChar c = ['i', '\u0307']) ∨
      (c ≠ '\u212A' ∧ c ≠ '\u0130' ∧ lowerChar c = [c.toLower]) := by
  rw [lowerChar]
  by_cases kelvin : c = '\u212A'
  · exact .inl ⟨kelvin, if_pos kelvin⟩
  · by_cases dotted : c = '\u0130'
    · exact .inr (.inl ⟨dotted, by rw [if_neg kelvin, if_pos dotted]⟩)
    · exact .inr (.inr ⟨kelvin, dotted, by rw [if_neg kelvin, if_neg dotted]⟩)

theorem lowerChar_ne_nil (c : Char) : lowerChar c ≠ [] := by
  rcases lowerChar_cases c with ⟨-, lower⟩ | ⟨-, lower⟩ | ⟨-, -, lower⟩ <;>
    · rw [lower]
      exact List.cons_ne_nil _ _

theorem lowerChar_of_mem {c d : Char} (inside : d ∈ lowerChar c) : lowerChar d = [d] := by
  rcases lowerChar_cases c with ⟨-, lower⟩ | ⟨-, lower⟩ | ⟨kelvin, dotted, lower⟩
  · rw [lower] at inside
    rw [List.mem_singleton.mp inside]
    decide
  · rw [lower] at inside
    rcases List.mem_cons.mp inside with rfl | inside
    · decide
    · rw [List.mem_singleton.mp inside]
      decide
  · rw [lower] at inside
    obtain rfl := List.mem_singleton.mp inside
    rcases lowerChar_cases c.toLower with ⟨isKelvin, -⟩ | ⟨isDotted, -⟩ | ⟨-, -, again⟩
    · rcases toLower_cases c with ⟨same, -⟩ | ⟨-, high, letter⟩
      · exact absurd (same.symm.trans isKelvin) kelvin
      · rw [isKelvin] at letter
        have far : '\u212A'.toNat = 0x212A := by decide
        omega
    · rcases toLower_cases c with ⟨same, -⟩ | ⟨-, high, letter⟩
      · exact absurd (same.symm.trans isDotted) dotted
      · rw [isDotted] at letter
        have far : '\u0130'.toNat = 0x130 := by decide
        omega
    · rw [again, toLower_toLower]

/-- A class of characters that has no case. -/
structure Caseless (p : Char → Bool) : Prop where
  kept : ∀ c, p c = true → lowerChar c = [c]
  own : ∀ c, ∀ d ∈ lowerChar c, p d = true → p c = true

/-- A class without letters has no case. -/
theorem caseless_of_no_letter {p : Char → Bool}
    (noLetter : ∀ c, p c = true → ¬ (65 ≤ c.toNat ∧ c.toNat ≤ 90) ∧
      ¬ (97 ≤ c.toNat ∧ c.toNat ≤ 122) ∧ c.toNat ≠ 0x212A ∧ c.toNat ≠ 0x130 ∧ c.toNat ≠ 0x307) :
    Caseless p where
  kept c inside := by
    obtain ⟨notUpper, -, notKelvin, notDotted, -⟩ := noLetter c inside
    rcases lowerChar_cases c with ⟨rfl, -⟩ | ⟨rfl, -⟩ | ⟨-, -, lower⟩
    · exact absurd (by decide) notKelvin
    · exact absurd (by decide) notDotted
    · rcases toLower_cases c with ⟨same, -⟩ | ⟨low, high, -⟩
      · rw [lower, same]
      · exact absurd ⟨low, high⟩ notUpper
  own c d isLower inside := by
    obtain ⟨-, notLower, -, -, notDot⟩ := noLetter d inside
    rcases lowerChar_cases c with ⟨-, lower⟩ | ⟨-, lower⟩ | ⟨-, -, lower⟩
    · rw [lower] at isLower
      rw [List.mem_singleton.mp isLower] at notLower
      exact absurd (by decide) notLower
    · rw [lower] at isLower
      rcases List.mem_cons.mp isLower with rfl | isLower
      · exact absurd (by decide) notLower
      · rw [List.mem_singleton.mp isLower] at notDot
        exact absurd (by decide) notDot
    · rw [lower] at isLower
      obtain rfl := List.mem_singleton.mp isLower
      rcases toLower_cases c with ⟨same, -⟩ | ⟨low, high, letter⟩
      · rwa [same] at inside
      · omega

theorem caseless_eq {c : Char} (noLetter : ¬ (65 ≤ c.toNat ∧ c.toNat ≤ 90) ∧
      ¬ (97 ≤ c.toNat ∧ c.toNat ≤ 122) ∧ c.toNat ≠ 0x212A ∧ c.toNat ≠ 0x130 ∧ c.toNat ≠ 0x307) :
    Caseless (· == c) :=
  caseless_of_no_letter fun d same => by rwa [beq_iff_eq.mp same]

theorem caseless_isSpace : Caseless isSpace := by
  refine caseless_of_no_letter fun c blank => ?_
  rw [isSpace, Bool.or_eq_true, List.contains_iff_mem, Bool.and_eq_true] at blank
  rcases blank with listed | ⟨low, high⟩
  · have each : ∀ d ∈ ['\t', '\n', '\u000B', '\u000C', '\r', ' ', '\u00A0', '\u1680', '\u2028',
        '\u2029', '\u202F', '\u205F', '\u3000', '\uFEFF'], ¬ (65 ≤ d.toNat ∧ d.toNat ≤ 90) ∧
        ¬ (97 ≤ d.toNat ∧ d.toNat ≤ 122) ∧ d.toNat ≠ 0x212A ∧ d.toNat ≠ 0x130 ∧
          d.toNat ≠ 0x307 := by
      decide
    exact each c listed
  · have above : 0x2000 ≤ c.toNat := of_decide_eq_true low
    have below : c.toNat ≤ 0x200A := of_decide_eq_true high
    omega

/-! ### Texts -/

theorem toList_toLowerCase (s : String) :
    (toLowerCase s).toList = s.toList.flatMap lowerChar := by
  rw [toLowerCase, String.toList_ofList]

theorem toLowerCase_toLowerCase (s : String) : toLowerCase (toLowerCase s) = toLowerCase s := by
  have twice : ∀ cs : List Char,
      (cs.flatMap lowerChar).flatMap lowerChar = cs.flatMap lowerChar := by
    intro cs
    rw [List.flatMap_assoc]
    refine List.flatMap_congr fun c _ => ?_
    have each : ∀ ds : List Char, (∀ d ∈ ds, lowerChar d = [d]) → ds.flatMap lowerChar = ds := by
      intro ds own
      rw [List.flatMap_congr own, List.flatMap_singleton']
    exact each _ fun d inside => lowerChar_of_mem inside
  rw [toLowerCase, toList_toLowerCase, twice, toLowerCase]

section Caseless

variable {p : Char → Bool}

theorem dropWhile_flatMap {lower : Char → List Char} (some_ : ∀ c, lower c ≠ [])
    (kept : ∀ c, p c = true → lower c = [c]) (own : ∀ c, ∀ d ∈ lower c, p d = true → p c = true)
    (cs : List Char) : (cs.flatMap lower).dropWhile p = (cs.dropWhile p).flatMap lower := by
  induction cs with
  | nil => rfl
  | cons c rest ih =>
    by_cases inside : p c = true
    · rw [List.flatMap_cons, kept c inside, List.singleton_append,
        List.dropWhile_cons_of_pos inside, List.dropWhile_cons_of_pos inside, ih]
    · obtain ⟨d, ds, split⟩ := List.exists_cons_of_ne_nil (some_ c)
      have outside : ¬ p d = true := fun member =>
        inside (own c d (by rw [split]; exact List.mem_cons_self) member)
      rw [List.dropWhile_cons_of_neg inside, List.flatMap_cons, split, List.cons_append,
        List.dropWhile_cons_of_neg outside]

theorem Caseless.dropWhile (caseless : Caseless p) (cs : List Char) :
    (cs.flatMap lowerChar).dropWhile p = (cs.dropWhile p).flatMap lowerChar :=
  dropWhile_flatMap lowerChar_ne_nil caseless.kept caseless.own cs

theorem Caseless.dropWhile_reverse (caseless : Caseless p) (cs : List Char) :
    ((cs.flatMap lowerChar).reverse.dropWhile p).reverse =
      ((cs.reverse.dropWhile p).reverse).flatMap lowerChar := by
  have reversed : ∀ ds : List Char, (ds.flatMap lowerChar).reverse =
      ds.reverse.flatMap fun c => (lowerChar c).reverse := by
    intro ds
    rw [List.reverse_flatMap]
    rfl
  have cut := dropWhile_flatMap (p := p)
    (fun c => mt List.reverse_eq_nil_iff.mp (lowerChar_ne_nil c))
    (fun c inside => by rw [caseless.kept c inside]; rfl)
    (fun c d inside => caseless.own c d (List.mem_reverse.mp inside)) cs.reverse
  rw [reversed, cut, ← List.reverse_inj, List.reverse_reverse, reversed, List.reverse_reverse]

end Caseless

theorem toLowerCase_trim (s : String) : toLowerCase (trim s) = trim (toLowerCase s) := by
  rw [toLowerCase, trim, trim, toList_toLowerCase, String.toList_ofList,
    caseless_isSpace.dropWhile, caseless_isSpace.dropWhile_reverse]

/-! ### Lower-casing of a platform -/

/-- The character is no letter: it is one of ASCII, or a line terminator. -/
def NoLetter (c : Char) : Prop :=
  (c.toNat < 128 ∧ ¬ (65 ≤ c.toNat ∧ c.toNat ≤ 90) ∧ ¬ (97 ≤ c.toNat ∧ c.toNat ≤ 122)) ∨
    c = '\u2028' ∨ c = '\u2029'

instance : DecidablePred NoLetter := fun c => by
  unfold NoLetter
  infer_instance

/-- Lower-casing as a platform has it, which may read a letter by its neighbours. Slashes and
backslashes keep neighbours apart. -/
structure LowerCasing where
  toLowerCase : String → String
  ascii : ∀ s, (∀ c ∈ s.toList, c.toNat < 128) → toLowerCase s = Text.toLowerCase s
  twice : ∀ s, toLowerCase (toLowerCase s) = toLowerCase s
  trim : ∀ s, toLowerCase (Text.trim s) = Text.trim (toLowerCase s)
  cut : ∀ (front back : List Char) (c : Char), c = '/' ∨ c = '\\' →
    (toLowerCase (String.ofList (front ++ c :: back))).toList =
      (toLowerCase (String.ofList front)).toList ++ c :: (toLowerCase (String.ofList back)).toList
  own : ∀ s c, NoLetter c → (c ∈ (toLowerCase s).toList ↔ c ∈ s.toList)
  longer : ∀ s, s.toList.length ≤ (toLowerCase s).toList.length

theorem caseless_noLetter {c : Char} (noLetter : NoLetter c) : Caseless (· == c) := by
  apply caseless_eq
  rcases noLetter with ⟨low, notUpper, notLower⟩ | rfl | rfl
  · exact ⟨notUpper, notLower, by omega, by omega, by omega⟩
  · decide
  · decide

/-- Letter by letter, with the letters that `toLowerCase` knows. -/
def simpleLowerCasing : LowerCasing where
  toLowerCase := toLowerCase
  ascii _ _ := rfl
  twice := toLowerCase_toLowerCase
  trim := toLowerCase_trim
  cut front back c separates := by
    have alone : lowerChar c = [c] := by
      rcases separates with rfl | rfl
      · decide
      · decide
    simp only [toList_toLowerCase, String.toList_ofList, List.flatMap_append, List.flatMap_cons,
      alone, List.singleton_append]
  own s c noLetter := by
    have caseless := caseless_noLetter noLetter
    rw [toList_toLowerCase]
    constructor
    · intro inside
      obtain ⟨d, among, isLower⟩ := List.mem_flatMap.mp inside
      have same := caseless.own d c isLower (beq_self_eq_true c)
      rwa [beq_iff_eq.mp same] at among
    · intro inside
      rw [List.mem_flatMap]
      exact ⟨c, inside, by rw [caseless.kept c (beq_self_eq_true c)]; exact List.mem_cons_self⟩
  longer s := by
    rw [toList_toLowerCase]
    induction s.toList with
    | nil => exact Nat.le_refl 0
    | cons c rest ih =>
      have first := List.length_pos_of_ne_nil (lowerChar_ne_nil c)
      rw [List.flatMap_cons, List.length_append, List.length_cons]
      omega

theorem separator_induction {motive : List Char → Prop} (c : Char)
    (plain : ∀ cs, c ∉ cs → motive cs)
    (cut : ∀ front back, c ∉ front → motive back → motive (front ++ c :: back))
    (cs : List Char) : motive cs := by
  induction length : cs.length using Nat.strong_induction_on generalizing cs with
  | _ n ih =>
    by_cases inside : c ∈ cs
    · obtain ⟨front, back, rfl, before⟩ := List.eq_append_cons_of_mem inside
      apply cut front back before
      apply ih back.length
      · rw [← length, List.length_append, List.length_cons]
        omega
      · rfl
    · exact plain cs inside

namespace LowerCasing

variable (l : LowerCasing)

/-- The lower case of a list of characters. -/
def chars (cs : List Char) : List Char := (l.toLowerCase (String.ofList cs)).toList

theorem chars_toList (s : String) : l.chars s.toList = (l.toLowerCase s).toList := by
  rw [chars, String.ofList_toList]

theorem ofList_chars (cs : List Char) :
    String.ofList (l.chars cs) = l.toLowerCase (String.ofList cs) := String.ofList_toList

theorem chars_ascii {cs : List Char} (ascii : ∀ c ∈ cs, c.toNat < 128) :
    l.chars cs = cs.flatMap lowerChar := by
  have lowered : l.toLowerCase (String.ofList cs) = Text.toLowerCase (String.ofList cs) := by
    apply l.ascii
    rwa [String.toList_ofList]
  rw [chars, lowered, toList_toLowerCase, String.toList_ofList]

theorem chars_nil : l.chars [] = [] := l.chars_ascii (by simp)

theorem chars_cut {front back : List Char} {c : Char} (separates : c = '/' ∨ c = '\\') :
    l.chars (front ++ c :: back) = l.chars front ++ c :: l.chars back :=
  l.cut front back c separates

theorem not_mem_chars {c : Char} (noLetter : NoLetter c) {cs : List Char} (plain : c ∉ cs) :
    c ∉ l.chars cs := by
  intro inside
  have among := (l.own (String.ofList cs) c noLetter).mp inside
  rw [String.toList_ofList] at among
  exact plain among

theorem length_le_chars (cs : List Char) : cs.length ≤ (l.chars cs).length := by
  have longer := l.longer (String.ofList cs)
  rwa [String.toList_ofList] at longer

theorem chars_ne_nil {cs : List Char} (some_ : cs ≠ []) : l.chars cs ≠ [] := by
  have longer := l.length_le_chars cs
  have first := List.length_pos_of_ne_nil some_
  exact List.ne_nil_of_length_pos (by omega)

theorem starts_slash {cs rest : List Char} :
    l.chars cs = '/' :: rest ↔ ∃ cs', cs = '/' :: cs' ∧ rest = l.chars cs' := by
  constructor
  · intro begins
    have inside : '/' ∈ cs := by
      by_contra plain
      exact l.not_mem_chars (by decide) plain (by rw [begins]; exact List.mem_cons_self)
    obtain ⟨front, back, rfl, before⟩ := List.eq_append_cons_of_mem inside
    rw [l.chars_cut (.inl rfl)] at begins
    cases lowered : l.chars front with
    | nil =>
      have nothing : front = [] := by
        by_contra some_
        exact l.chars_ne_nil some_ lowered
      subst nothing
      rw [lowered, List.nil_append] at begins
      exact ⟨back, rfl, (List.cons.inj begins).2.symm⟩
    | cons d ds =>
      rw [lowered, List.cons_append] at begins
      obtain ⟨rfl, -⟩ := List.cons.inj begins
      exact absurd (by rw [lowered]; exact List.mem_cons_self) (l.not_mem_chars (by decide) before)
  · rintro ⟨cs', rfl, rfl⟩
    rw [← List.nil_append ('/' :: cs'), l.chars_cut (.inl rfl), chars_nil, List.nil_append]

theorem dropWhile_slash (cs : List Char) :
    (l.chars cs).dropWhile (· == '/') = l.chars (cs.dropWhile (· == '/')) := by
  induction cs with
  | nil => rw [List.dropWhile_nil, chars_nil, List.dropWhile_nil]
  | cons c rest ih =>
    by_cases slash : c = '/'
    · subst slash
      rw [l.starts_slash.mpr ⟨rest, rfl, rfl⟩, List.dropWhile_cons_of_pos (by decide), ih,
        List.dropWhile_cons_of_pos (by decide)]
    · rw [List.dropWhile_cons_of_neg (by simpa using slash)]
      cases lowered : l.chars (c :: rest) with
      | nil => rfl
      | cons d ds =>
        apply List.dropWhile_cons_of_neg
        rw [beq_iff_eq]
        rintro rfl
        obtain ⟨_, same, -⟩ := l.starts_slash.mp lowered
        exact slash (List.cons.inj same).1

theorem stripSlashes (s : String) :
    l.toLowerCase (PathPattern.stripSlashes s) = PathPattern.stripSlashes (l.toLowerCase s) := by
  rw [PathPattern.stripSlashes, PathPattern.stripSlashes, ← l.chars_toList, l.dropWhile_slash,
    ofList_chars]

theorem forwardSlashes (s : String) :
    l.toLowerCase (Text.forwardSlashes s) = Text.forwardSlashes (l.toLowerCase s) := by
  have none_ : ∀ cs : List Char, '\\' ∉ cs →
      cs.map (fun c => if c = '\\' then '/' else c) = cs := by
    intro cs plain
    have kept : ∀ c ∈ cs, (if c = '\\' then '/' else c) = id c := by
      intro c inside
      refine if_neg ?_
      rintro rfl
      exact plain inside
    rw [List.map_congr_left kept, List.map_id]
  have each : ∀ cs : List Char, l.chars (cs.map fun c => if c = '\\' then '/' else c) =
      (l.chars cs).map fun c => if c = '\\' then '/' else c := by
    intro cs
    induction cs using separator_induction '\\' with
    | plain cs plain => rw [none_ cs plain, none_ _ (l.not_mem_chars (by decide) plain)]
    | cut front back before ih =>
      rw [l.chars_cut (.inr rfl), List.map_append, List.map_append, List.map_cons, List.map_cons,
        if_pos rfl, l.chars_cut (.inl rfl), none_ front before,
        none_ _ (l.not_mem_chars (by decide) before), ih]
  rw [Text.forwardSlashes, Text.forwardSlashes, ← ofList_chars, each, chars_toList]

theorem chars_eq_dot_iff {cs : List Char} : l.chars cs = ['.'] ↔ cs = ['.'] := by
  constructor
  · intro lowered
    have longer := l.length_le_chars cs
    rw [lowered] at longer
    have inside : '.' ∈ cs := by
      by_contra plain
      exact l.not_mem_chars (by decide) plain (by rw [lowered]; exact List.mem_cons_self)
    match cs with
    | [c] => rw [List.mem_singleton.mp inside]
    | c :: d :: rest => simp at longer
  · rintro rfl
    rw [l.chars_ascii (by decide)]
    decide

/-- A lower-cased text begins with `./` where the text does. -/
theorem starts_dotSlash {cs rest : List Char} :
    l.chars cs = '.' :: '/' :: rest ↔ ∃ cs', cs = '.' :: '/' :: cs' ∧ rest = l.chars cs' := by
  constructor
  · intro begins
    have inside : '/' ∈ cs := by
      by_contra plain
      exact l.not_mem_chars (by decide) plain (by rw [begins]; simp)
    obtain ⟨front, back, rfl, before⟩ := List.eq_append_cons_of_mem inside
    rw [l.chars_cut (.inl rfl)] at begins
    have plain := l.not_mem_chars (c := '/') (by decide) before
    match lowered : l.chars front with
    | [] =>
      rw [lowered] at begins
      cases begins
    | [d] =>
      rw [lowered] at begins
      obtain ⟨rfl, same⟩ := List.cons.inj begins
      obtain rfl := l.chars_eq_dot_iff.mp lowered
      exact ⟨back, rfl, (List.cons.inj same).2.symm⟩
    | d :: e :: ds =>
      rw [lowered] at begins plain
      obtain ⟨-, same⟩ := List.cons.inj begins
      obtain ⟨rfl, -⟩ := List.cons.inj same
      exact absurd (by simp) plain
  · rintro ⟨cs', rfl, rfl⟩
    rw [← List.singleton_append, l.chars_cut (.inl rfl), l.chars_eq_dot_iff.mpr rfl]
    rfl

end LowerCasing

theorem stripDotSlash_of_starts {s : String} {rest : List Char}
    (starts : s.toList = '.' :: '/' :: rest) :
    stripDotSlash s = String.ofList (rest.dropWhile (· == '/')) := by
  rw [stripDotSlash, starts]
  rfl

theorem stripDotSlash_of_not_starts {s : String}
    (none_ : ¬ ∃ rest, s.toList = '.' :: '/' :: rest) : stripDotSlash s = s := by
  rw [stripDotSlash]
  split
  · rename_i rest split
    exact absurd ⟨rest, split⟩ none_
  · rfl

namespace LowerCasing

variable (l : LowerCasing)

theorem stripDotSlash (s : String) :
    l.toLowerCase (Text.stripDotSlash s) = Text.stripDotSlash (l.toLowerCase s) := by
  by_cases starts : ∃ rest, s.toList = '.' :: '/' :: rest
  · obtain ⟨rest, split⟩ := starts
    have lowered : (l.toLowerCase s).toList = '.' :: '/' :: l.chars rest := by
      rw [← chars_toList]
      exact l.starts_dotSlash.mpr ⟨rest, split, rfl⟩
    rw [stripDotSlash_of_starts split, stripDotSlash_of_starts lowered, l.dropWhile_slash,
      ofList_chars]
  · have lowered : ¬ ∃ rest, (l.toLowerCase s).toList = '.' :: '/' :: rest := by
      rintro ⟨rest, split⟩
      rw [← chars_toList] at split
      obtain ⟨cs', same, -⟩ := l.starts_dotSlash.mp split
      exact starts ⟨cs', same⟩
    rw [stripDotSlash_of_not_starts starts, stripDotSlash_of_not_starts lowered]

/-! ### Paths -/

theorem segmentsOf_chars (path : List Char) :
    segmentsOf (l.chars path) = (segmentsOf path).map l.chars := by
  have alone : ∀ cs : List Char, '/' ∉ cs → segmentsOf cs = [cs] := by
    intro cs plain
    rw [segmentsOf, List.splitOn_eq_splitOnP]
    apply List.splitOnP_eq_singleton
    intro c inside
    rw [beq_eq_false_iff_ne]
    rintro rfl
    exact plain inside
  induction path using separator_induction '/' with
  | plain cs plain =>
    rw [alone cs plain, alone _ (l.not_mem_chars (by decide) plain), List.map_singleton]
  | cut front back before ih =>
    rw [l.chars_cut (.inl rfl), segmentsOf_append, segmentsOf_append, List.map_append, ih,
      alone front before, alone _ (l.not_mem_chars (by decide) before), List.map_singleton]

theorem isName_chars {segment : List Char} (name : isName segment = true) :
    isName (l.chars segment) = true := by
  simp only [isName, Bool.and_eq_true, Bool.not_eq_true', bne_iff_ne, ne_eq,
    List.isEmpty_eq_false_iff] at name ⊢
  refine ⟨l.chars_ne_nil name.1, ?_⟩
  rw [chars_eq_dot_iff]
  exact name.2

theorem repositoryPath {path : String} (repository : RepositoryPath path) :
    RepositoryPath (l.toLowerCase path) := by
  intro segment inside
  rw [← chars_toList, segmentsOf_chars] at inside
  obtain ⟨original, among, rfl⟩ := List.mem_map.mp inside
  exact l.isName_chars (repository original among)

end LowerCasing

end AifHandoff.Text
