import AifHandoff.Lib.Text

/-!
The lines of a text, without the white space around them.
-/

namespace AifHandoff.Text

def linesOf (text : List Char) : List (List Char) := text.splitOn '\n'

def trimChars (line : List Char) : String := trim (String.ofList line)

/-- The lines without the white space around them. -/
def trimmedLines (text : List Char) : List String := (linesOf text).map trimChars

def firstLine (text : List Char) : List Char := text.takeWhile (· != '\n')

def lastLine (text : List Char) : List Char := (text.reverse.takeWhile (· != '\n')).reverse

variable {text front line core back : List Char} {c : Char}

/-! ### Lines -/

/-- Lines with a line feed behind each. -/
def ended (lines : List (List Char)) : List Char := lines.flatMap (· ++ ['\n'])

/-- Lines with a line feed before each. -/
def begun (lines : List (List Char)) : List Char := lines.flatMap ('\n' :: ·)

/-- White space around a text does not count. -/
theorem trim_between (before : ∀ c ∈ front, isSpace c = true)
    (behind : ∀ c ∈ back, isSpace c = true) (first : ∀ c ∈ core.head?, isSpace c = false)
    (last : ∀ c ∈ core.getLast?, isSpace c = false) :
    trimChars (front ++ (core ++ back)) = String.ofList core := by
  have kept (cs : List Char) (starts : ∀ c ∈ cs.head?, isSpace c = false) :
      cs.dropWhile isSpace = cs := by
    cases cs with
    | nil => rfl
    | cons c rest =>
      rw [List.dropWhile_cons_of_neg]
      rw [starts c rfl]
      exact Bool.false_ne_true
  rw [trimChars, trim, String.toList_ofList, List.dropWhile_append_of_pos before]
  cases shape : core with
  | nil =>
    rw [List.nil_append, List.dropWhile_eq_nil_iff.mpr behind]
    rfl
  | cons c rest =>
    rw [shape] at first last
    have start : (c :: rest ++ back).dropWhile isSpace = c :: rest ++ back :=
      kept _ fun d inside => first d inside
    have ends : (c :: rest).reverse.dropWhile isSpace = (c :: rest).reverse := by
      refine kept _ fun d inside => last d ?_
      rwa [List.head?_reverse] at inside
    rw [start, List.reverse_append, List.dropWhile_append_of_pos
      fun d inside => behind d (List.mem_reverse.mp inside), ends, List.reverse_reverse]

end AifHandoff.Text
