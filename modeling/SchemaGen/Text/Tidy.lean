import SchemaGen.Text.Blank
import SchemaGen.Text.Pieces

/-!
# Tidy text

`tidy` takes the blanks off the end of every line, keeps at most two blank lines in a row, and takes
all blank lines off the start and the end, so that the text ends in one line feed. Lines end at a
line feed and nowhere else.
-/

namespace SchemaGen.Text

/-- Keeps at most two empty lines in a row, where `run` counts those just before the first line. -/
def limitBlankLines (run : Nat) : List (List Char) → List (List Char)
  | [] => []
  | [] :: rest =>
    if run < 2 then [] :: limitBlankLines (run + 1) rest else limitBlankLines (run + 1) rest
  | line :: rest => line :: limitBlankLines 0 rest

/-- The lines of a text without the blanks at their ends and without surplus empty lines. -/
def tidyLines (cs : List Char) : List (List Char) :=
  limitBlankLines 0 ((pieces ['\n'] cs).map trimEndChars)

/-- The characters without the line feeds at either end. -/
def trimLineFeeds (cs : List Char) : List Char :=
  ((cs.dropWhile (· = '\n')).reverse.dropWhile (· = '\n')).reverse

/-- A text in tidy form. -/
def tidy (s : String) : String :=
  String.ofList (trimLineFeeds (glue ['\n'] (tidyLines s.toList)) ++ ['\n'])

end SchemaGen.Text
