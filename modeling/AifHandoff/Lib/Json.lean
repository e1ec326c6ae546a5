import Mathlib.Data.List.Basic
import Mathlib.Data.List.TakeWhile

/-!
JSON values and their texts.

Numbers are a parameter: a type `ν` with a text for each number and a reader of number
texts. An object is the list of its fields in the order of the keys.
-/

namespace AifHandoff

inductive Json (ν : Type) where
  | null
  | bool (b : Bool)
  | num (n : ν)
  | str (s : String)
  | arr (items : List (Json ν))
  | obj (fields : List (String × Json ν))

/-- The texts of numbers. -/
structure NumberTexts (ν : Type) where
  write : ν → List Char
  read : List Char → ν

namespace Json

variable {ν : Type}

/-! ### Reading values -/

/-- `value[key]` of an object. -/
def get? (key : String) : Json ν → Option (Json ν)
  | .obj fields => fields.lookup key
  | _ => none

/-! ### Writing -/

def hexDigit (n : Nat) : Char :=
  if n < 10 then Char.ofNat ('0'.toNat + n) else Char.ofNat ('a'.toNat + (n - 10))

def escapeChar (c : Char) : List Char :=
  if c = '"' then ['\\', '"']
  else if c = '\\' then ['\\', '\\']
  else if c = '\n' then ['\\', 'n']
  else if c = '\r' then ['\\', 'r']
  else if c = '\t' then ['\\', 't']
  else if c = '\u0008' then ['\\', 'b']
  else if c = '\u000C' then ['\\', 'f']
  else if c.toNat < 0x20 then
    ['\\', 'u', '0', '0', hexDigit (c.toNat / 16), hexDigit (c.toNat % 16)]
  else [c]

def escape (cs : List Char) : List Char := cs.flatMap escapeChar

def quote (s : String) : List Char := '"' :: escape s.toList ++ ['"']

mutual

def stringify (write : ν → List Char) : Json ν → List Char
  | .null => ['n', 'u', 'l', 'l']
  | .bool true => ['t', 'r', 'u', 'e']
  | .bool false => ['f', 'a', 'l', 's', 'e']
  | .num n => write n
  | .str s => quote s
  | .arr items => '[' :: stringifyItems write items ++ [']']
  | .obj fields => '{' :: stringifyFields write fields ++ ['}']

def stringifyItems (write : ν → List Char) : List (Json ν) → List Char
  | [] => []
  | item :: rest =>
    stringify write item ++ (if rest.isEmpty then [] else ',' :: stringifyItems write rest)

def stringifyFields (write : ν → List Char) : List (String × Json ν) → List Char
  | [] => []
  | (key, value) :: rest =>
    quote key ++ ':' :: stringify write value ++
      (if rest.isEmpty then [] else ',' :: stringifyFields write rest)

end

/-! ### Parsing -/

def isSpace (c : Char) : Bool := [' ', '\t', '\n', '\r'].contains c

def skipSpace (cs : List Char) : List Char := cs.dropWhile isSpace

def hexValue (c : Char) : Option Nat :=
  if '0' ≤ c ∧ c ≤ '9' then some (c.toNat - '0'.toNat)
  else if 'a' ≤ c ∧ c ≤ 'f' then some (c.toNat - 'a'.toNat + 10)
  else if 'A' ≤ c ∧ c ≤ 'F' then some (c.toNat - 'A'.toNat + 10)
  else none

/-- The code unit of four hexadecimal digits. -/
def hexUnit (a b c d : Char) : Option Nat := do
  return (((← hexValue a) * 16 + (← hexValue b)) * 16 + (← hexValue c)) * 16 + (← hexValue d)

def isHighSurrogate (unit : Nat) : Bool := 0xD800 ≤ unit && unit < 0xDC00

def isLowSurrogate (unit : Nat) : Bool := 0xDC00 ≤ unit && unit < 0xE000

def simpleEscape (c : Char) : Option Char :=
  if c = '"' ∨ c = '\\' ∨ c = '/' then some c
  else if c = 'n' then some '\n'
  else if c = 'r' then some '\r'
  else if c = 't' then some '\t'
  else if c = 'b' then some '\u0008'
  else if c = 'f' then some '\u000C'
  else none

/-- Where the reader is in a string. -/
inductive StringState where
  | plain
  | escaped
  | unicode (digits : List Char)

/-- The characters and `\u` code units up to the closing quotation mark. -/
def parseUnits : StringState → List Char → Option (List (Char ⊕ Nat) × List Char)
  | _, [] => none
  | .plain, c :: rest =>
    if c = '"' then some ([], rest)
    else if c = '\\' then parseUnits .escaped rest
    else if c.toNat < 0x20 then none
    else (parseUnits .plain rest).map fun (units, rest) => (.inl c :: units, rest)
  | .escaped, c :: rest =>
    if c = 'u' then parseUnits (.unicode []) rest
    else match simpleEscape c with
      | some c => (parseUnits .plain rest).map fun (units, rest) => (.inl c :: units, rest)
      | none => none
  | .unicode [a, b, d], c :: rest =>
    match hexUnit a b d c with
    | some unit => (parseUnits .plain rest).map fun (units, rest) => (.inr unit :: units, rest)
    | none => none
  | .unicode digits, c :: rest => parseUnits (.unicode (digits ++ [c])) rest

/-- A code unit by itself; half a surrogate pair stands as U+FFFD. -/
def loneUnit (unit : Nat) : Char :=
  if isHighSurrogate unit || isLowSurrogate unit then '\uFFFD' else Char.ofNat unit

/-- The characters of code units, behind the first half of a pair if there is one. -/
def decodeUnits : Option Nat → List (Char ⊕ Nat) → List Char
  | pending, [] => pending.toList.map loneUnit
  | pending, .inl c :: rest => pending.toList.map loneUnit ++ c :: decodeUnits none rest
  | none, .inr unit :: rest =>
    if isHighSurrogate unit then decodeUnits (some unit) rest
    else loneUnit unit :: decodeUnits none rest
  | some high, .inr unit :: rest =>
    if isLowSurrogate unit then
      Char.ofNat (0x10000 + (high - 0xD800) * 0x400 + (unit - 0xDC00)) :: decodeUnits none rest
    else if isHighSurrogate unit then loneUnit high :: decodeUnits (some unit) rest
    else loneUnit high :: loneUnit unit :: decodeUnits none rest

/-- The string behind an opening quotation mark. -/
def parseString (cs : List Char) : Option (String × List Char) :=
  (parseUnits .plain cs).map fun (units, rest) => (String.ofList (decodeUnits none units), rest)

def isNumberChar (c : Char) : Bool := c.isDigit || ['+', '-', '.', 'e', 'E'].contains c

/-- The digits of an exponent, with their sign. -/
def isExponent : List Char → Bool
  | '+' :: ds | '-' :: ds => !ds.isEmpty && ds.all Char.isDigit
  | ds => !ds.isEmpty && ds.all Char.isDigit

/-- What may follow the digits before the point. -/
def isFractionAndExponent : List Char → Bool
  | [] => true
  | 'e' :: rest | 'E' :: rest => isExponent rest
  | '.' :: rest =>
    let digits := rest.takeWhile Char.isDigit
    !digits.isEmpty && match rest.dropWhile Char.isDigit with
      | [] => true
      | 'e' :: rest | 'E' :: rest => isExponent rest
      | _ => false
  | _ => false

def isUnsigned : List Char → Bool
  | '0' :: rest => isFractionAndExponent rest
  | c :: rest => c.isDigit && isFractionAndExponent (rest.dropWhile Char.isDigit)
  | [] => false

/-- The grammar of number texts. -/
def isNumber : List Char → Bool
  | '-' :: rest => isUnsigned rest
  | cs => isUnsigned cs

/-- A field behind others: it takes the place of an earlier one with its key. -/
def putField (fields : List (String × Json ν)) (field : String × Json ν) :
    List (String × Json ν) :=
  if fields.any (·.1 = field.1) then
    fields.map fun old => if old.1 = field.1 then field else old
  else fields ++ [field]

/-- What follows a literal. -/
def after? (literal cs : List Char) : Option (List Char) :=
  if literal.isPrefixOf cs then some (cs.drop literal.length) else none

def parseNumber (read : List Char → ν) (cs : List Char) : Option (Json ν × List Char) :=
  let token := cs.takeWhile isNumberChar
  if isNumber token then some (.num (read token), cs.dropWhile isNumberChar) else none

mutual

/-- A value at the head of the text, with what follows it. -/
def parseValue (read : List Char → ν) : Nat → List Char → Option (Json ν × List Char)
  | 0, _ | _, [] => none
  | fuel + 1, c :: rest =>
    if c = '"' then (parseString rest).map fun (s, rest) => (.str s, rest)
    else if c = '[' then
      let rest := skipSpace rest
      if rest.head? = some ']' then some (.arr [], rest.tail)
      else (parseItems read fuel rest).map fun (items, rest) => (.arr items, rest)
    else if c = '\x7b' then
      let rest := skipSpace rest
      if rest.head? = some '\x7d' then some (.obj [], rest.tail)
      else (parseFields read fuel rest).map fun (fields, rest) =>
        (.obj (fields.foldl putField []), rest)
    else if c = 'n' then (after? ['u', 'l', 'l'] rest).map fun rest => (.null, rest)
    else if c = 't' then (after? ['r', 'u', 'e'] rest).map fun rest => (.bool true, rest)
    else if c = 'f' then (after? ['a', 'l', 's', 'e'] rest).map fun rest => (.bool false, rest)
    else parseNumber read (c :: rest)

/-- The items of an array up to its bracket. -/
def parseItems (read : List Char → ν) : Nat → List Char → Option (List (Json ν) × List Char)
  | 0, _ => none
  | fuel + 1, cs =>
    (parseValue read fuel cs).bind fun (item, rest) =>
      let rest := skipSpace rest
      if rest.head? = some ']' then some ([item], rest.tail)
      else if rest.head? = some ',' then
        (parseItems read fuel (skipSpace rest.tail)).map fun (items, rest) => (item :: items, rest)
      else none

/-- The fields of an object up to its brace. -/
def parseFields (read : List Char → ν) :
    Nat → List Char → Option (List (String × Json ν) × List Char)
  | 0, _ => none
  | fuel + 1, cs =>
    if cs.head? = some '"' then
      (parseString cs.tail).bind fun (key, rest) =>
        let rest := skipSpace rest
        if rest.head? = some ':' then
          (parseValue read fuel (skipSpace rest.tail)).bind fun (value, rest) =>
            let rest := skipSpace rest
            if rest.head? = some '\x7d' then some ([(key, value)], rest.tail)
            else if rest.head? = some ',' then
              (parseFields read fuel (skipSpace rest.tail)).map fun (fields, rest) =>
                ((key, value) :: fields, rest)
            else none
        else none
    else none

end

def parse (read : List Char → ν) (text : List Char) : Option (Json ν) :=
  match parseValue read (text.length + 1) (skipSpace text) with
  | some (value, rest) => if (skipSpace rest).isEmpty then some value else none
  | none => none

/-! ### Parsing what was written -/

section Strings

/-- What the reader makes of an escaped character. -/
def escapedUnit (c : Char) : Char ⊕ Nat :=
  if c = '\n' ∨ c = '\r' ∨ c = '\t' ∨ c = '\u0008' ∨ c = '\u000C' then .inl c
  else if c.toNat < 0x20 then .inr c.toNat
  else .inl c

theorem hexUnit_of_control : ∀ n < 32,
    hexUnit '0' '0' (hexDigit (n / 16)) (hexDigit (n % 16)) = some n := by
  decide

theorem parseUnits_escapeChar_named {c : Char} (rest : List Char)
    (named : c ∈ ['"', '\\', '\n', '\r', '\t', '\u0008', '\u000C']) :
    parseUnits .plain (escapeChar c ++ rest) =
      (parseUnits .plain rest).map fun (units, rest) => (escapedUnit c :: units, rest) := by
  simp only [List.mem_cons, List.not_mem_nil, or_false] at named
  rcases named with rfl | rfl | rfl | rfl | rfl | rfl | rfl <;> rfl

theorem parseUnits_escapeChar (c : Char) (rest : List Char) :
    parseUnits .plain (escapeChar c ++ rest) =
      (parseUnits .plain rest).map fun (units, rest) => (escapedUnit c :: units, rest) := by
  by_cases named : c ∈ ['"', '\\', '\n', '\r', '\t', '\u0008', '\u000C']
  · exact parseUnits_escapeChar_named rest named
  · simp only [List.mem_cons, List.not_mem_nil, or_false, not_or] at named
    obtain ⟨quote, backslash, newline, return_, tab, backspace, feed⟩ := named
    by_cases control : c.toNat < 0x20
    · have read : escapeChar c =
          ['\\', 'u', '0', '0', hexDigit (c.toNat / 16), hexDigit (c.toNat % 16)] := by
        simp [escapeChar, quote, backslash, newline, return_, tab, backspace, feed, control]
      have unit : escapedUnit c = .inr c.toNat := by
        simp [escapedUnit, newline, return_, tab, backspace, feed, control]
      rw [read, unit]
      simp [parseUnits, hexUnit_of_control c.toNat control]
    · have read : escapeChar c = [c] := by
        simp [escapeChar, quote, backslash, newline, return_, tab, backspace, feed, control]
      have unit : escapedUnit c = .inl c := by
        simp [escapedUnit, newline, return_, tab, backspace, feed, control]
      rw [read, unit]
      simp [parseUnits, quote, backslash, control]

theorem parseUnits_escape (cs rest : List Char) :
    parseUnits .plain (escape cs ++ '"' :: rest) = some (cs.map escapedUnit, rest) := by
  induction cs with
  | nil => simp [escape, parseUnits]
  | cons c cs ih =>
    rw [escape, List.flatMap_cons, List.append_assoc, parseUnits_escapeChar]
    rw [escape] at ih
    rw [ih]
    rfl

theorem decodeUnits_escaped (cs : List Char) : decodeUnits none (cs.map escapedUnit) = cs := by
  induction cs with
  | nil => rfl
  | cons c cs ih =>
    rw [List.map_cons, escapedUnit]
    split_ifs with simple control
    · simp [decodeUnits, ih]
    · have noHigh : isHighSurrogate c.toNat = false := by
        simp [isHighSurrogate]
        omega
      have noLow : isLowSurrogate c.toNat = false := by
        simp [isLowSurrogate]
        omega
      simp [decodeUnits, ih, loneUnit, noHigh, noLow, Char.ofNat_toNat]
    · simp [decodeUnits, ih]

theorem parseString_escape (s : String) (rest : List Char) :
    parseString (escape s.toList ++ '"' :: rest) = some (s, rest) := by
  rw [parseString, parseUnits_escape]
  simp only [Option.map_some, decodeUnits_escaped, String.ofList_toList]

end Strings

/-- Every object in the value has each key once. -/
def Distinct : Json ν → Prop
  | .arr items => DistinctItems items
  | .obj fields => (fields.map (·.1)).Nodup ∧ DistinctFields fields
  | _ => True
where
  DistinctItems : List (Json ν) → Prop
    | [] => True
    | item :: rest => Distinct item ∧ DistinctItems rest
  DistinctFields : List (String × Json ν) → Prop
    | [] => True
    | (_, value) :: rest => Distinct value ∧ DistinctFields rest

/-- The number of nodes of a value. -/
def size : Json ν → Nat
  | .arr items => sizeItems items + 1
  | .obj fields => sizeFields fields + 1
  | _ => 1
where
  sizeItems : List (Json ν) → Nat
    | [] => 0
    | item :: rest => size item + sizeItems rest + 1
  sizeFields : List (String × Json ν) → Nat
    | [] => 0
    | (_, value) :: rest => size value + sizeFields rest + 1

theorem size_lt_of_mem_items {items : List (Json ν)} {item : Json ν} (inside : item ∈ items) :
    size item < size (.arr items) := by
  rw [size]
  induction items with
  | nil => cases inside
  | cons first rest ih =>
    rw [size.sizeItems]
    rcases List.mem_cons.mp inside with rfl | later
    · omega
    · have smaller := ih later
      omega

theorem size_lt_of_mem_fields {fields : List (String × Json ν)} {field : String × Json ν}
    (inside : field ∈ fields) : size field.2 < size (.obj fields) := by
  rw [size]
  induction fields with
  | nil => cases inside
  | cons first rest ih =>
    obtain ⟨key, value⟩ := first
    rw [size.sizeFields]
    rcases List.mem_cons.mp inside with rfl | later
    · dsimp only
      omega
    · have smaller := ih later
      omega

/-- The text of every number is a number, and is read back. -/
structure LawfulNumbers (N : NumberTexts ν) : Prop where
  isNumber : ∀ n, isNumber (N.write n) = true
  read : ∀ n, N.read (N.write n) = n

section Numbers

variable {cs : List Char} {c : Char}

theorem isNumberChar_of_isDigit (digit : c.isDigit = true) : isNumberChar c = true := by
  simp [isNumberChar, digit]

theorem forall_isNumberChar_of_digits (rest : ∀ c ∈ cs.dropWhile Char.isDigit, isNumberChar c = true) :
    ∀ c ∈ cs, isNumberChar c = true := by
  intro c inside
  rw [← List.takeWhile_append_dropWhile (p := Char.isDigit) (l := cs)] at inside
  rcases List.mem_append.mp inside with first | last
  · exact isNumberChar_of_isDigit (List.mem_takeWhile_imp first)
  · exact rest c last

theorem isNumberChar_of_isExponent (exponent : isExponent cs = true) :
    ∀ c ∈ cs, isNumberChar c = true := by
  have digits (ds : List Char) (all : ds.all Char.isDigit = true) :
      ∀ c ∈ ds, isNumberChar c = true := fun c inside =>
    isNumberChar_of_isDigit (List.all_eq_true.mp all c inside)
  unfold isExponent at exponent
  split at exponent <;> rw [Bool.and_eq_true] at exponent
  · exact List.forall_mem_cons.mpr ⟨by decide, digits _ exponent.2⟩
  · exact List.forall_mem_cons.mpr ⟨by decide, digits _ exponent.2⟩
  · exact digits _ exponent.2

theorem isNumberChar_of_isFractionAndExponent (tail : isFractionAndExponent cs = true) :
    ∀ c ∈ cs, isNumberChar c = true := by
  unfold isFractionAndExponent at tail
  split at tail
  · simp
  · exact List.forall_mem_cons.mpr ⟨by decide, isNumberChar_of_isExponent tail⟩
  · exact List.forall_mem_cons.mpr ⟨by decide, isNumberChar_of_isExponent tail⟩
  · refine List.forall_mem_cons.mpr ⟨by decide, forall_isNumberChar_of_digits ?_⟩
    rw [Bool.and_eq_true] at tail
    split at tail
    · rename_i nothing
      rw [nothing]
      simp
    · rename_i exponent
      rw [exponent]
      exact List.forall_mem_cons.mpr ⟨by decide, isNumberChar_of_isExponent tail.2⟩
    · rename_i exponent
      rw [exponent]
      exact List.forall_mem_cons.mpr ⟨by decide, isNumberChar_of_isExponent tail.2⟩
    · cases tail.2
  · cases tail

theorem isNumberChar_of_isUnsigned (unsigned : isUnsigned cs = true) :
    ∀ c ∈ cs, isNumberChar c = true := by
  unfold isUnsigned at unsigned
  split at unsigned
  · exact List.forall_mem_cons.mpr ⟨by decide, isNumberChar_of_isFractionAndExponent unsigned⟩
  · rw [Bool.and_eq_true] at unsigned
    refine List.forall_mem_cons.mpr ⟨isNumberChar_of_isDigit unsigned.1, ?_⟩
    exact forall_isNumberChar_of_digits (isNumberChar_of_isFractionAndExponent unsigned.2)
  · cases unsigned

theorem isNumberChar_of_isNumber (number : isNumber cs = true) :
    ∀ c ∈ cs, isNumberChar c = true := by
  unfold isNumber at number
  split at number
  · exact List.forall_mem_cons.mpr ⟨by decide, isNumberChar_of_isUnsigned number⟩
  · exact isNumberChar_of_isUnsigned number

/-- A number begins with a digit or its sign. -/
theorem head_of_isNumber (number : isNumber cs = true) :
    ∃ c rest, cs = c :: rest ∧ (c = '-' ∨ c.isDigit = true) := by
  unfold isNumber at number
  split at number
  · exact ⟨_, _, rfl, .inl rfl⟩
  · unfold isUnsigned at number
    split at number
    · exact ⟨_, _, rfl, .inr (by decide)⟩
    · exact ⟨_, _, rfl, .inr (Bool.and_eq_true _ _ ▸ number).1⟩
    · cases number

end Numbers

section RoundTrip

variable {N : NumberTexts ν} {rest : List Char}

/-- What follows a value does not prolong a number. -/
def EndsNumber (rest : List Char) : Prop := ∀ c cs, rest = c :: cs → isNumberChar c = false

theorem endsNumber_nil : EndsNumber [] := by
  intro c cs impossible
  cases impossible

theorem endsNumber_cons {c : Char} {cs : List Char} (ends : isNumberChar c = false) :
    EndsNumber (c :: cs) := by
  intro c' cs' same
  cases same
  exact ends

theorem takeWhile_number {cs : List Char} (number : ∀ c ∈ cs, isNumberChar c = true)
    (ends : EndsNumber rest) :
    (cs ++ rest).takeWhile isNumberChar = cs ∧ (cs ++ rest).dropWhile isNumberChar = rest := by
  rw [List.takeWhile_append_of_pos number, List.dropWhile_append_of_pos number]
  cases rest with
  | nil => simp
  | cons c tail => simp [ends c tail rfl]

theorem parseNumber_write (lawful : LawfulNumbers N) (n : ν) (ends : EndsNumber rest) :
    parseNumber N.read (N.write n ++ rest) = some (.num n, rest) := by
  obtain ⟨token, tail⟩ := takeWhile_number (isNumberChar_of_isNumber (lawful.isNumber n)) ends
  rw [parseNumber, token, tail]
  simp only [lawful.isNumber, lawful.read, if_true]

/-- The first character of a value: no white space and no closing bracket. -/
structure Opens (cs : List Char) : Prop where
  ne_nil : cs ≠ []
  noSpace : ∀ tail, skipSpace (cs ++ tail) = cs ++ tail
  noBracket : ∀ tail, (cs ++ tail).head? ≠ some ']'

theorem opens_cons {c : Char} {cs : List Char} (space : isSpace c = false) (bracket : c ≠ ']') :
    Opens (c :: cs) where
  ne_nil := List.cons_ne_nil c cs
  noSpace tail := by simp [skipSpace, space]
  noBracket tail := by simpa using bracket

theorem opens_stringify (lawful : LawfulNumbers N) (v : Json ν) : Opens (stringify N.write v) := by
  cases v with
  | null => exact opens_cons (by decide) (by decide)
  | bool b => cases b <;> exact opens_cons (by decide) (by decide)
  | num n =>
    obtain ⟨c, cs, eq, first⟩ := head_of_isNumber (lawful.isNumber n)
    rw [stringify, eq]
    rcases first with rfl | digit
    · exact opens_cons (by decide) (by decide)
    · refine opens_cons ?_ ?_
      · rw [Bool.eq_false_iff]
        intro space
        simp only [isSpace, List.contains_eq_mem, List.mem_cons, List.not_mem_nil, or_false,
          decide_eq_true_eq] at space
        rcases space with rfl | rfl | rfl | rfl <;> exact absurd digit (by decide)
      · rintro rfl
        exact absurd digit (by decide)
  | str s => exact opens_cons (by decide) (by decide)
  | arr items => exact opens_cons (by decide) (by decide)
  | obj fields => exact opens_cons (by decide) (by decide)

theorem foldl_putField {fields : List (String × Json ν)} (done : List (String × Json ν))
    (nodup : ((done ++ fields).map (·.1)).Nodup) : fields.foldl putField done = done ++ fields := by
  induction fields generalizing done with
  | nil => simp
  | cons field rest ih =>
    have new : done.any (·.1 = field.1) = false := by
      rw [List.any_eq_false]
      intro old inside
      simp only [decide_eq_true_eq]
      intro same
      rw [List.map_append, List.nodup_append] at nodup
      exact nodup.2.2 old.1 (List.mem_map_of_mem inside) field.1
        (by simp) same
    rw [List.foldl_cons, putField, if_neg (by simp [new]), ih]
    · simp
    · simpa using nodup

theorem opens_append {cs : List Char} (opens : Opens cs) (more : List Char) :
    Opens (cs ++ more) where
  ne_nil := by simp [opens.ne_nil]
  noSpace tail := by rw [List.append_assoc, opens.noSpace]
  noBracket tail := by
    rw [List.append_assoc]
    exact opens.noBracket _

theorem opens_stringifyItems (lawful : LawfulNumbers N) (item : Json ν) (tail : List (Json ν)) :
    Opens (stringifyItems N.write (item :: tail)) := by
  rw [stringifyItems]
  exact opens_append (opens_stringify lawful item) _

theorem skipSpace_cons {c : Char} (space : isSpace c = false) (cs : List Char) :
    skipSpace (c :: cs) = c :: cs := by
  simp [skipSpace, space]

theorem skipSpace_fields (write : ν → List Char) (field : String × Json ν)
    (tail : List (String × Json ν)) (rest : List Char) :
    skipSpace (stringifyFields write (field :: tail) ++ rest) =
      stringifyFields write (field :: tail) ++ rest := by
  simp [stringifyFields, quote, skipSpace, isSpace]

theorem one_le_size (v : Json ν) : 1 ≤ size v := by
  cases v <;> simp [size]

theorem parseValue_number (lawful : LawfulNumbers N) (n : ν) (fuel : Nat)
    (ends : EndsNumber rest) :
    parseValue N.read (fuel + 1) (N.write n ++ rest) = some (.num n, rest) := by
  have parsed := parseNumber_write lawful n ends
  obtain ⟨c, cs, eq, first⟩ := head_of_isNumber (lawful.isNumber n)
  rw [eq, List.cons_append] at parsed ⊢
  have others : c ≠ '"' ∧ c ≠ '[' ∧ c ≠ '\x7b' ∧ c ≠ 'n' ∧ c ≠ 't' ∧ c ≠ 'f' := by
    refine ⟨?_, ?_, ?_, ?_, ?_, ?_⟩ <;> rintro rfl <;> rcases first with same | digit <;>
      first | exact absurd same (by decide) | exact absurd digit (by decide)
  obtain ⟨quote, bracket, brace, n_, t_, f_⟩ := others
  simp only [parseValue, quote, bracket, brace, n_, t_, f_, if_false]
  exact parsed

theorem colon : isSpace ':' = false := by decide

theorem comma : isSpace ',' = false := by decide

theorem brace : isSpace '\x7d' = false := by decide

mutual

/-- A value at the head of a text is read back. -/
theorem parseValue_stringify (lawful : LawfulNumbers N) :
    ∀ (v : Json ν) (fuel : Nat) (rest : List Char), Distinct v → size v ≤ fuel →
      EndsNumber rest → parseValue N.read fuel (stringify N.write v ++ rest) = some (v, rest)
  | v, 0, _, _, enough, _ => absurd (one_le_size v) (Nat.not_le.mpr (by omega))
  | .null, fuel + 1, rest, _, _, _ => by simp [stringify, parseValue, after?]
  | .bool true, fuel + 1, rest, _, _, _ => by simp [stringify, parseValue, after?]
  | .bool false, fuel + 1, rest, _, _, _ => by simp [stringify, parseValue, after?]
  | .num n, fuel + 1, _, _, _, ends => by
    rw [stringify]
    exact parseValue_number lawful n fuel ends
  | .str s, fuel + 1, rest, _, _, _ => by
    simp [stringify, parseValue, quote, parseString_escape]
  | .arr [], fuel + 1, rest, _, _, _ => by
    simp [stringify, stringifyItems, parseValue, skipSpace, isSpace]
  | .arr (item :: tail), fuel + 1, rest, distinct, enough, _ => by
    have items := parseItems_stringify lawful (item :: tail) fuel rest (List.cons_ne_nil _ _)
      distinct (by simp only [size] at enough; omega)
    have opens := opens_stringifyItems lawful item tail
    have text : stringify N.write (.arr (item :: tail)) ++ rest =
        '[' :: (stringifyItems N.write (item :: tail) ++ ']' :: rest) := by
      simp [stringify]
    rw [text]
    simp only [parseValue, opens.noSpace, opens.noBracket, items, if_true, if_false,
      Option.map_some, Char.reduceEq]
  | .obj [], fuel + 1, rest, _, _, _ => by
    simp [stringify, stringifyFields, parseValue, skipSpace, isSpace]
  | .obj ((key, value) :: tail), fuel + 1, rest, distinct, enough, _ => by
    have fields := parseFields_stringify lawful ((key, value) :: tail) fuel rest
      (List.cons_ne_nil _ _) distinct.2 (by simp only [size] at enough; omega)
    have text : stringify N.write (.obj ((key, value) :: tail)) ++ rest =
        '\x7b' :: (stringifyFields N.write ((key, value) :: tail) ++ '\x7d' :: rest) := by
      simp [stringify]
    have opens : ∀ tail', skipSpace (stringifyFields N.write ((key, value) :: tail) ++ tail') =
        stringifyFields N.write ((key, value) :: tail) ++ tail' := by
      intro tail'
      simp [stringifyFields, quote, skipSpace, isSpace]
    have noBrace : ∀ tail', (stringifyFields N.write ((key, value) :: tail) ++ tail').head? ≠
        some '\x7d' := by
      intro tail'
      simp [stringifyFields, quote]
    have nodup : (([] ++ (key, value) :: tail : List (String × Json ν)).map (·.1)).Nodup :=
      distinct.1
    have put := foldl_putField [] nodup
    rw [text]
    simp only [parseValue, opens, noBrace, fields, put, if_true, if_false, Option.map_some,
      Char.reduceEq, List.nil_append]

theorem parseItems_stringify (lawful : LawfulNumbers N) :
    ∀ (items : List (Json ν)) (fuel : Nat) (rest : List Char), items ≠ [] →
      Distinct.DistinctItems items → size.sizeItems items ≤ fuel →
      parseItems N.read fuel (stringifyItems N.write items ++ ']' :: rest) = some (items, rest)
  | [], _, _, some_, _, _ => absurd rfl some_
  | item :: tail, 0, _, _, _, enough => by simp [size.sizeItems] at enough
  | [item], fuel + 1, rest, _, distinct, enough => by
    have value := parseValue_stringify lawful item fuel (']' :: rest) distinct.1
      (by simp only [size.sizeItems] at enough; omega) (endsNumber_cons (by decide))
    simp [stringifyItems, parseItems, value, skipSpace, isSpace]
  | item :: next :: tail, fuel + 1, rest, _, distinct, enough => by
    have enough' : size item ≤ fuel ∧ size.sizeItems (next :: tail) ≤ fuel := by
      simp only [size.sizeItems] at enough ⊢
      omega
    have value := parseValue_stringify lawful item fuel
      (',' :: (stringifyItems N.write (next :: tail) ++ ']' :: rest)) distinct.1 enough'.1
      (endsNumber_cons (by decide))
    have items := parseItems_stringify lawful (next :: tail) fuel rest (List.cons_ne_nil _ _)
      distinct.2 enough'.2
    have opens := opens_stringifyItems lawful next tail
    have text : stringifyItems N.write (item :: next :: tail) ++ ']' :: rest =
        stringify N.write item ++ (',' :: (stringifyItems N.write (next :: tail) ++ ']' :: rest)) := by
      rw [stringifyItems]
      simp
    rw [text]
    have comma : skipSpace (',' :: (stringifyItems N.write (next :: tail) ++ ']' :: rest)) =
        ',' :: (stringifyItems N.write (next :: tail) ++ ']' :: rest) := by
      simp [skipSpace, isSpace]
    simp [parseItems, value, comma, opens.noSpace, items]

theorem parseFields_stringify (lawful : LawfulNumbers N) :
    ∀ (fields : List (String × Json ν)) (fuel : Nat) (rest : List Char), fields ≠ [] →
      Distinct.DistinctFields fields → size.sizeFields fields ≤ fuel →
      parseFields N.read fuel (stringifyFields N.write fields ++ '\x7d' :: rest) =
        some (fields, rest)
  | [], _, _, some_, _, _ => absurd rfl some_
  | field :: tail, 0, _, _, _, enough => by simp [size.sizeFields] at enough
  | [(key, value)], fuel + 1, rest, _, distinct, enough => by
    have parsed := parseValue_stringify lawful value fuel ('\x7d' :: rest) distinct.1
      (by simp only [size.sizeFields] at enough; omega) (endsNumber_cons (by decide))
    have opens := opens_stringify lawful value
    have text : stringifyFields N.write [(key, value)] ++ '\x7d' :: rest =
        '"' :: (escape key.toList ++ '"' :: ':' :: (stringify N.write value ++ '\x7d' :: rest)) := by
      simp [stringifyFields, quote]
    rw [text]
    simp [parseFields, parseString_escape, skipSpace_cons colon, skipSpace_cons brace,
      opens.noSpace, parsed]
  | (key, value) :: next :: tail, fuel + 1, rest, _, distinct, enough => by
    have enough' : size value ≤ fuel ∧ size.sizeFields (next :: tail) ≤ fuel := by
      simp only [size.sizeFields] at enough ⊢
      omega
    have parsed := parseValue_stringify lawful value fuel
      (',' :: (stringifyFields N.write (next :: tail) ++ '\x7d' :: rest)) distinct.1 enough'.1
      (endsNumber_cons (by decide))
    have fields := parseFields_stringify lawful (next :: tail) fuel rest (List.cons_ne_nil _ _)
      distinct.2 enough'.2
    have opens := opens_stringify lawful value
    have text : stringifyFields N.write ((key, value) :: next :: tail) ++ '\x7d' :: rest =
        '"' :: (escape key.toList ++ '"' :: ':' :: (stringify N.write value ++
          (',' :: (stringifyFields N.write (next :: tail) ++ '\x7d' :: rest)))) := by
      rw [stringifyFields]
      simp [quote]
    rw [text]
    simp [parseFields, parseString_escape, skipSpace_cons colon, skipSpace_cons comma,
      opens.noSpace, parsed, skipSpace_fields, fields]

end

mutual

theorem size_le_length {write : ν → List Char} (filled : ∀ n, write n ≠ []) :
    ∀ v : Json ν, size v ≤ (stringify write v).length
  | .null => by simp [size, stringify]
  | .bool true => by simp [size, stringify]
  | .bool false => by simp [size, stringify]
  | .num n => by
    simp only [size, stringify]
    exact List.length_pos_of_ne_nil (filled n)
  | .str s => by simp [size, stringify, quote]
  | .arr items => by
    have inside := sizeItems_le_length filled items
    simp only [size, stringify, List.cons_append, List.length_cons, List.length_append,
      List.length_nil]
    omega
  | .obj fields => by
    have inside := sizeFields_le_length filled fields
    simp only [size, stringify, List.cons_append, List.length_cons, List.length_append,
      List.length_nil]
    omega

theorem sizeItems_le_length {write : ν → List Char} (filled : ∀ n, write n ≠ []) :
    ∀ items : List (Json ν),
      size.sizeItems items ≤ (stringifyItems write items).length + 1
  | [] => by simp [size.sizeItems]
  | [item] => by
    have first := size_le_length filled item
    simpa [size.sizeItems, stringifyItems] using first
  | item :: next :: tail => by
    have first := size_le_length filled item
    have others := sizeItems_le_length filled (next :: tail)
    rw [size.sizeItems, stringifyItems]
    simp only [List.isEmpty_cons, Bool.false_eq_true, if_false, List.length_append,
      List.length_cons]
    omega

theorem sizeFields_le_length {write : ν → List Char} (filled : ∀ n, write n ≠ []) :
    ∀ fields : List (String × Json ν),
      size.sizeFields fields ≤ (stringifyFields write fields).length
  | [] => by simp [size.sizeFields]
  | (key, value) :: tail => by
    have first := size_le_length filled value
    have others := sizeFields_le_length filled tail
    rw [size.sizeFields, stringifyFields]
    cases tail with
    | nil =>
      simp only [size.sizeFields, quote, List.length_append, List.length_cons]
      omega
    | cons next rest =>
      simp only [List.isEmpty_cons, Bool.false_eq_true, if_false, List.length_append,
        List.length_cons]
      omega

end

/-- Parsing gives back the value that was written. -/
theorem parse_stringify (lawful : LawfulNumbers N) {v : Json ν} (distinct : Distinct v) :
    parse N.read (stringify N.write v) = some v := by
  have opens := (opens_stringify lawful v).noSpace []
  rw [List.append_nil] at opens
  have filled (n : ν) : N.write n ≠ [] := by
    obtain ⟨c, cs, eq, -⟩ := head_of_isNumber (lawful.isNumber n)
    rw [eq]
    exact List.cons_ne_nil c cs
  have enough : size v ≤ (stringify N.write v).length + 1 :=
    Nat.le_succ_of_le (size_le_length filled v)
  have parsed := parseValue_stringify lawful v _ [] distinct enough endsNumber_nil
  rw [List.append_nil] at parsed
  rw [parse, opens, parsed]
  rfl

end RoundTrip

end Json

end AifHandoff
