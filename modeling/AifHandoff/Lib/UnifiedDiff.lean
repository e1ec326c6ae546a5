import AifHandoff.Lib.Text

/-!
Unified diffs as git reads them.

A diff is a list of lines. Some belong to sections, the others stand between them. A section
opens with a `diff --git` line, or with its `---` and `+++` lines alone; lines for renames, copies
and modes come before its hunks.
-/

namespace AifHandoff.UnifiedDiff

/-! ### The grammar -/

inductive HunkLine where
  | context (text : String)
  | removed (text : String)
  | added (text : String)
  /-- `\ No newline at end of file`. -/
  | remark (text : String)
  deriving DecidableEq

def HunkLine.line : HunkLine → String
  | .context text => " " ++ text
  | .removed text => "-" ++ text
  | .added text => "+" ++ text
  | .remark text => "\\" ++ text

structure Hunk where
  ranges : String
  body : List HunkLine
  deriving DecidableEq

def Hunk.lines (hunk : Hunk) : List String :=
  ("@@ " ++ hunk.ranges) :: hunk.body.map HunkLine.line

/-- A line between `diff --git` and the hunks. -/
inductive Extended where
  | renameFrom (path : String)
  | renameTo (path : String)
  | copyFrom (path : String)
  | copyTo (path : String)
  /-- Modes, similarity and index. -/
  | other (line : String)
  deriving DecidableEq

def Extended.line : Extended → String
  | .renameFrom path => "rename from " ++ path
  | .renameTo path => "rename to " ++ path
  | .copyFrom path => "copy from " ++ path
  | .copyTo path => "copy to " ++ path
  | .other line => line

def Extended.path : Extended → Option String
  | .renameFrom path | .renameTo path | .copyFrom path | .copyTo path => some path
  | .other _ => none

structure FileSection where
  /-- The two names of a `diff --git` line. -/
  diffGit : Option (String × String)
  extended : List Extended
  /-- What follows `--- ` and `+++ `. -/
  header : Option (String × String)
  hunks : List Hunk
  deriving DecidableEq

/-- The texts of the `---` and `+++` lines. -/
def FileSection.headings (file : FileSection) : List String :=
  file.header.toList.flatMap fun header => [header.1, header.2]

def FileSection.lines (file : FileSection) : List String :=
  (file.diffGit.toList.map fun names => "diff --git " ++ names.1 ++ " " ++ names.2) ++
    file.extended.map Extended.line ++
    (file.header.toList.flatMap fun header => ["--- " ++ header.1, "+++ " ++ header.2]) ++
    file.hunks.flatMap Hunk.lines

inductive Piece where
  /-- A line outside of all sections. -/
  | outside (line : String)
  | file (entry : FileSection)
  deriving DecidableEq

def Piece.lines : Piece → List String
  | .outside line => [line]
  | .file entry => entry.lines

abbrev Diff := List Piece

def Diff.lines (diff : Diff) : List String := List.flatMap Piece.lines diff

def Piece.section? : Piece → Option FileSection
  | .outside _ => none
  | .file entry => some entry

def Diff.sections (diff : Diff) : List FileSection := List.filterMap Piece.section? diff

/-! ### The files of a section -/

/-- A name without its first component. -/
def stripComponent (name : List Char) : List Char :=
  match name.dropWhile (· != '/') with
  | _ :: rest => rest
  | [] => name

/-- White space that ends the name of a `---` or `+++` line. -/
def endsName (c : Char) : Bool := [' ', '\t', '\n', '\u000B', '\u000C', '\r'].contains c

/-- The file of a `---` or `+++` line. -/
def fileOfHeading (text : String) : Option String :=
  let name := text.toList.takeWhile (!endsName ·)
  if name = "/dev/null".toList then none else some (String.ofList (stripComponent name))

def FileSection.moved (file : FileSection) : List String := file.extended.filterMap Extended.path

def FileSection.headed (file : FileSection) : List String := file.headings.filterMap fileOfHeading

def FileSection.opened (file : FileSection) : List String :=
  file.diffGit.toList.flatMap fun names =>
    [names.1, names.2].map fun name => String.ofList (stripComponent name.toList)

/-- The files that a section creates, changes, renames, copies or deletes. -/
def FileSection.files (file : FileSection) : List String :=
  if (file.moved ++ file.headed).isEmpty then file.opened else file.moved ++ file.headed

def Diff.files (diff : Diff) : List String := diff.sections.flatMap FileSection.files

/-- What `git apply` reads of the texts it applies. -/
structure Apply where
  read : String → Option Diff
  /-- It reads the lines of the text. -/
  reads : ∀ text diff, read text = some diff → diff.lines = Text.splitLines text

/-! ### Conventional headings -/

/-- `a/` or `b/` before the file, as git writes it. -/
structure Conventional (text file : String) : Prop where
  side : text = "a/" ++ file ∨ text = "b/" ++ file
  named : file ≠ "" ∧ file ≠ "/dev/null"
  plain : ∀ c ∈ file.toList, Text.isSpace c = false

variable {file : FileSection} {diff : Diff} {text name : String}

/-- A file that stands on a line other than a conventional heading. -/
inductive FileSection.NamesOddly (file : FileSection) (name : String) : Prop where
  | moved (inside : name ∈ file.moved)
  | heading (text : String) (inside : text ∈ file.headings) (read : fileOfHeading text = some name)
      (unconventional : ¬ Conventional text name)
  | opened (alone : file.moved ++ file.headed = []) (inside : name ∈ file.opened)

/-- What follows `--- ` or `+++ ` at the beginning of a line. -/
def mark (line : String) : Option String :=
  if Text.startsWith line "--- " || Text.startsWith line "+++ " then some (Text.dropChars line 4)
  else none

end AifHandoff.UnifiedDiff
