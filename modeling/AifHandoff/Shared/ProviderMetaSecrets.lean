import AifHandoff.Lib.RegexKeeps
import AifHandoff.Lib.RegexSpans
import AifHandoff.Shared.ProviderMeta

/-!
Secrets in sanitised metadata (`sanitizeOpaqueProviderMetaContainer`, `redactProviderText`,
`shared/runtimeLimitUtils.ts`).

The value behind a sensitive key is replaced up to the first quotation mark, so the mark in
an escaped quotation of the secret ends it. Whatever stands around the secret, the secret
`!'"'!!…` is seen with its exclamation marks.
-/

namespace AifHandoff.Shared.Secrets

open Regex Json

/-! ### What is shown -/

/-- An apostrophe and exclamation marks. -/
def shown (n : Nat) : List Char := '\'' :: (List.replicate n '!' ++ ['!'])

/-- A secret that shows its end. -/
def showing (n : Nat) : String := String.ofList ('!' :: '\'' :: '"' :: shown n)

theorem length_shown (n : Nat) : (shown n).length = n + 2 := by
  rw [shown, List.length_cons, List.length_append, List.length_replicate, List.length_singleton]

theorem mem_shown {n : Nat} {c : Char} (inside : c ∈ shown n) : c = '\'' ∨ c = '!' := by
  simp only [shown, List.mem_cons, List.mem_append, List.mem_replicate, List.not_mem_nil,
    or_false] at inside
  tauto

theorem reads_quoted {mark : String} {c : Char} (single : mark.toList = [c]) {index : Nat}
    {at_ next : Cursor}
    (reads : Reads (cat [lit mark, .capture index (many (noneOf mark)), lit mark]) at_ next) :
    ∃ body, at_.after = c :: (body ++ c :: next.after) ∧ c ∉ body := by
  obtain ⟨first, opened, second, inner, third, closed, rfl⟩ := reads
  obtain ⟨openedAfter, -⟩ := (reads_lit_iff mark).mp opened
  have quoted : Reads (.star true (.set (!mark.toList.contains ·))) first second := inner
  obtain ⟨body, ⟨innerAfter, -⟩, all⟩ := reads_many_iff.mp quoted
  obtain ⟨closedAfter, -⟩ := (reads_lit_iff mark).mp closed
  refine ⟨body, ?_, fun inside => ?_⟩
  · rw [openedAfter, innerAfter, closedAfter, single]
    rfl
  · have refused := all c inside
    rw [single] at refused
    simp at refused

/-- What a match of the pattern reads: the key with its separator, which has no exclamation
mark, and then a quotation or a text without apostrophes. -/
theorem reads_sensitiveValueKeyPattern {at_ next : Cursor}
    (reads : Reads sensitiveValueKeyPattern at_ next) : ∃ lead value,
    at_.after = lead ++ value ∧ '!' ∉ lead ∧ (':' ∈ lead ∨ '=' ∈ lead) ∧
      ((∃ body, value = '"' :: (body ++ '"' :: next.after) ∧ '"' ∉ body) ∨
        (∃ body, value = '\'' :: (body ++ '\'' :: next.after) ∧ '\'' ∉ body) ∨
        ∃ body, value = body ++ next.after ∧ '\'' ∉ body) := by
  obtain ⟨middle, keyReads, last, valueReads, rfl⟩ := reads
  obtain ⟨lead, split, calm⟩ := Reads.avoiding (c := '!') keyReads (by decide)
  refine ⟨lead, middle.after, split, calm, ?_, ?_⟩
  · obtain ⟨first, front, second, separator, third⟩ :=
      (reads_cat_append [optional (oneOf "\"'"), anyOf sensitiveValueKeys, optional (oneOf "\"'"),
        many space] [oneOf ":=", many space]).mp keyReads
    obtain ⟨before, frontSplit, -⟩ := front.split
    obtain ⟨c, accepted, separatorSplit, -⟩ := reads_set_iff.mp separator
    obtain ⟨behind, thirdSplit, -⟩ := Reads.split (r := cat [many space]) third
    rw [frontSplit, separatorSplit, thirdSplit, ← List.append_assoc, ← List.append_assoc] at split
    have inside : c ∈ lead := by
      rw [← List.append_cancel_right split]
      exact List.mem_append_left _ (List.mem_append_right _ List.mem_cons_self)
    have separators : c = ':' ∨ c = '=' := by simpa using accepted
    rcases separators with rfl | rfl
    · exact .inl inside
    · exact .inr inside
  · rcases valueReads with double | single | bare
    · exact .inl (reads_quoted rfl double)
    · exact .inr (.inl (reads_quoted rfl single))
    · exact .inr (.inr (Reads.avoiding (c := '\'') bare (by decide)))

/-- No value behind a sensitive key reaches beyond the apostrophes and the quotation mark. -/
theorem leaves_sensitiveValueKeyPattern (front slashes back : List Char) (n : Nat)
    (escapes : ∀ c ∈ slashes, c = '\\') :
    Leaves sensitiveValueKeyPattern
      (front ++ '!' :: '\'' :: (slashes ++ '"' :: (shown n ++ back))) (shown n) back := by
  intro before after next part reads
  obtain ⟨lead, value, split, calm, separator, kinds⟩ := reads_sensitiveValueKeyPattern reads
  obtain rfl : after = lead ++ value := split
  rcases suffix_append_cons part with inside | ⟨outer, -, whole⟩
  · -- A match cannot begin between the apostrophe and the last exclamation mark.
    have ends : '\'' :: (slashes ++ '"' :: (shown n ++ back)) =
        ('\'' :: (slashes ++ '"' :: '\'' :: List.replicate n '!')) ++ '!' :: back := by
      simp [shown]
    rw [ends] at inside
    rcases suffix_append_cons inside with behind | ⟨outer, among, whole⟩
    · exact .inl behind.length_le
    · obtain ⟨rest, rfl, -⟩ := exists_append_of_not_mem calm whole
      exfalso
      have only : ∀ c ∈ lead, c ≠ ':' ∧ c ≠ '=' := by
        intro c inLead
        have inMark := among.subset (List.mem_append_left rest inLead)
        simp only [List.mem_cons, List.mem_append, List.mem_replicate] at inMark
        rcases inMark with rfl | inSlashes | rfl | rfl | ⟨-, rfl⟩
        · decide
        · rw [escapes c inSlashes]
          decide
        all_goals decide
      exact separator.elim (fun colon => (only _ colon).1 rfl) fun equals => (only _ equals).2 rfl
  · obtain ⟨rest, -, behind⟩ := exists_append_of_not_mem calm whole
    refine .inr ?_
    have apostrophe : rest ++ '!' :: '\'' :: (slashes ++ '"' :: (shown n ++ back)) =
        (rest ++ ['!']) ++ '\'' :: (slashes ++ '"' :: (shown n ++ back)) := by simp
    have inRest : shown n ++ back <:+ slashes ++ '"' :: (shown n ++ back) :=
      (List.suffix_cons _ _).trans (List.suffix_append _ _)
    rcases kinds with ⟨body, rfl, absent⟩ | ⟨body, rfl, absent⟩ | ⟨body, rfl, absent⟩
    · obtain ⟨inner, rfl, after⟩ := exists_append_of_not_mem (show '!' ∉ ['"'] by decide) behind
      refine suffix_of_stop absent (?_ : body ++ '"' :: next.after =
        (inner ++ '!' :: '\'' :: slashes) ++ '"' :: (shown n ++ back))
      rw [List.append_assoc]
      exact after
    · obtain ⟨inner, rfl, after⟩ := exists_append_of_not_mem (show '!' ∉ ['\''] by decide) behind
      refine inRest.trans (suffix_of_stop absent (?_ : body ++ '\'' :: next.after =
        (inner ++ ['!']) ++ '\'' :: (slashes ++ '"' :: (shown n ++ back))))
      rw [List.append_assoc]
      exact after
    · rw [apostrophe] at behind
      obtain ⟨inner, -, after⟩ := exists_append_of_not_mem absent behind
      rw [after]
      exact inRest.trans ((List.suffix_cons _ _).trans (List.suffix_append _ _))

theorem leaves_valuePatterns : ∀ pattern ∈ secretValuePatterns ++ contactValuePatterns,
    consumes pattern = true ∧ avoids '\'' pattern = true ∧ refuses '!' pattern = true := by
  decide

theorem shown_infix_redactValues (front slashes back : List Char) (n : Nat)
    (escapes : ∀ c ∈ slashes, c = '\\') : shown n <:+: (redactValues (String.ofList
      (front ++ '!' :: '\'' :: (slashes ++ '"' :: (shown n ++ back))))).toList := by
  refine redactValues_induction (fun text => shown n <:+: text.toList) ?_ ?_
  · refine infix_replaceAll _ back (by decide) ?_ ?_
    · rw [String.toList_ofList]
      exact leaves_sensitiveValueKeyPattern front slashes back n escapes
    · rw [String.toList_ofList]
      exact (List.suffix_cons '"' _).trans ((List.suffix_append slashes _).trans
        (((List.suffix_cons '\'' _).trans (List.suffix_cons '!' _)).trans (List.suffix_append _ _)))
  · rintro pattern among text ⟨outer, rest, split⟩
    obtain ⟨some_, avoided, refused⟩ := leaves_valuePatterns pattern among
    rw [List.append_assoc] at split
    refine infix_replaceAll _ rest some_ ?_ (split ▸ List.suffix_append _ _)
    rw [← split]
    refine leaves_of_avoids outer some_ avoided fun d inside => ?_
    rcases mem_shown (List.mem_cons_of_mem '\'' inside) with rfl | rfl
    · simp at inside
    · exact refused

/-! ### Places in a value -/

section Places

variable {ν : Type} (write : ν → List Char)

/-- The place of a member in a JSON value, at any depth, also inside a text that is itself
the JSON text of a value. -/
inductive Place (ν : Type) where
  | member (before : List (String × Json ν)) (key : String) (after : List (String × Json ν))
  | item (before : List (Json ν)) (place : Place ν) (after : List (Json ν))
  | field (before : List (String × Json ν)) (key : String) (place : Place ν)
      (after : List (String × Json ν))
  | text (place : Place ν)

def Place.memberKey : Place ν → String
  | .member _ key _ => key
  | .item _ place _ | .field _ _ place _ | .text place => place.memberKey

/-- The value with a secret at the place. -/
def Place.put (secret : String) : Place ν → Json ν
  | .member before key after => .obj (before ++ (key, .str secret) :: after)
  | .item before place after => .arr (before ++ place.put secret :: after)
  | .field before key place after => .obj (before ++ (key, place.put secret) :: after)
  | .text place => .str (String.ofList ((place.put secret).stringify write))

theorem stringifyItems_around (before after : List (Json ν)) : ∃ front back, ∀ item,
    stringifyItems write (before ++ item :: after) = front ++ (stringify write item ++ back) := by
  induction before with
  | nil => exact ⟨[], _, fun item => rfl⟩
  | cons first before ih =>
    obtain ⟨front, back, around⟩ := ih
    refine ⟨stringify write first ++ ',' :: front, back, fun item => ?_⟩
    rw [List.cons_append, stringifyItems, around]
    simp

theorem stringifyFields_around (before after : List (String × Json ν)) (key : String) :
    ∃ front back, ∀ value, stringifyFields write (before ++ (key, value) :: after) =
      front ++ (stringify write value ++ back) := by
  induction before with
  | nil =>
    refine ⟨quote key ++ [':'], if after.isEmpty then [] else ',' :: stringifyFields write after,
      fun value => ?_⟩
    rw [List.nil_append, stringifyFields]
    simp
  | cons first before ih =>
    obtain ⟨front, back, around⟩ := ih
    refine ⟨quote first.1 ++ ':' :: (stringify write first.2 ++ ',' :: front), back,
      fun value => ?_⟩
    rw [List.cons_append, stringifyFields, around]
    simp

/-- The text of the value has the secret in it, escaped once for each text around it. -/
theorem stringify_put (place : Place ν) : ∃ front back level, ∀ secret,
    stringify write (place.put write secret) = front ++ (escape^[level] secret.toList ++ back) := by
  induction place with
  | member before key after =>
    obtain ⟨front, back, around⟩ := stringifyFields_around write before after key
    refine ⟨'{' :: front ++ ['"'], '"' :: back ++ ['\x7d'], 1, fun secret => ?_⟩
    rw [Place.put, stringify, around, stringify, quote]
    simp
  | item before place after ih =>
    obtain ⟨outer, rest, around⟩ := stringifyItems_around write before after
    obtain ⟨front, back, level, inner⟩ := ih
    refine ⟨'[' :: outer ++ front, back ++ rest ++ [']'], level, fun secret => ?_⟩
    rw [Place.put, stringify, around, inner]
    simp
  | field before key place after ih =>
    obtain ⟨outer, rest, around⟩ := stringifyFields_around write before after key
    obtain ⟨front, back, level, inner⟩ := ih
    refine ⟨'{' :: outer ++ front, back ++ rest ++ ['\x7d'], level, fun secret => ?_⟩
    rw [Place.put, stringify, around, inner]
    simp
  | text place ih =>
    obtain ⟨front, back, level, inner⟩ := ih
    refine ⟨'"' :: escape front, escape back ++ ['"'], level + 1, fun secret => ?_⟩
    rw [Place.put, stringify, quote, String.toList_ofList, inner, Function.iterate_succ_apply']
    simp [escape]

theorem escape_showing (n level : Nat) : ∃ slashes, (∀ c ∈ slashes, c = '\\') ∧
    escape^[level] (showing n).toList = '!' :: '\'' :: (slashes ++ '"' :: shown n) := by
  induction level with
  | zero => exact ⟨[], by simp, by rw [showing, String.toList_ofList]; rfl⟩
  | succ level ih =>
    obtain ⟨slashes, all, escaped⟩ := ih
    refine ⟨escape slashes ++ ['\\'], fun c inside => ?_, ?_⟩
    · rcases List.mem_append.mp inside with inSlashes | last
      · obtain ⟨d, among, inEscaped⟩ := List.mem_flatMap.mp inSlashes
        rw [all d among] at inEscaped
        simpa [escapeChar] using inEscaped
      · exact List.mem_singleton.mp last
    · have marks : ∀ n, (List.replicate n '!').flatMap escapeChar = List.replicate n '!' := by
        intro n
        induction n with
        | zero => rfl
        | succ n ih => rw [List.replicate_succ, List.flatMap_cons, ih]; rfl
      rw [Function.iterate_succ_apply', escaped]
      simp [escape, shown, marks, escapeChar]

end Places

/-! ### Two runs -/

section Runs

variable {ν : Type} (numbers : JsScalars ν)

/-- `SENSITIVE_VALUE_KEYS`, as whole names. -/
def isSensitiveKey (key : String) : Bool :=
  test (cat [.startAnchor, anyOf sensitiveValueKeys, .endAnchor]) key

/-- A member with a sensitive name. -/
structure SecretMember (ν : Type) where
  place : Place ν
  sensitive : isSensitiveKey place.memberKey = true

def SecretMember.put (member : SecretMember ν) (secret : String) : Json ν :=
  member.place.put numbers.write secret

theorem shown_infix_opaqueText (member : SecretMember ν) (n : Nat) :
    shown n <:+: (opaqueText numbers (member.put numbers (showing n))).toList := by
  obtain ⟨front, back, level, around⟩ := stringify_put numbers.write member.place
  obtain ⟨slashes, escapes, escaped⟩ := escape_showing n level
  rw [opaqueText, SecretMember.put, around, escaped]
  simpa using shown_infix_redactValues front slashes back n escapes

/-- Of some secret as many characters as one likes are seen, and it is told apart from any given
secret. -/
theorem secret_shows (member : SecretMember ν) (x : String) (n : Nat) : ∃ y piece,
    n ≤ piece.length ∧ piece <:+: y.toList ∧
      piece <:+: (opaqueText numbers (member.put numbers y)).toList ∧
      sanitizeOpaqueProviderMetaContainer numbers (member.put numbers x) ≠
        sanitizeOpaqueProviderMetaContainer numbers (member.put numbers y) := by
  let count := max n (opaqueText numbers (member.put numbers x)).toList.length
  have seen := shown_infix_opaqueText numbers member count
  refine ⟨showing count, shown count, ?_, ?_, seen, fun same => ?_⟩
  · rw [length_shown]
    exact (le_max_left _ _).trans (Nat.le_add_right _ 2)
  · rw [showing, String.toList_ofList]
    exact List.IsSuffix.isInfix ⟨['!', '\'', '"'], rfl⟩
  · have longer := seen.length_le
    rw [← Json.str.inj same, length_shown] at longer
    have fits := le_max_right n (opaqueText numbers (member.put numbers x)).toList.length
    omega

end Runs

end AifHandoff.Shared.Secrets
