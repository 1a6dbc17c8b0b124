/-!
# Lines

A line feed ends a line, together with a carriage return right before it. Text after the last line
feed is a line of its own, unless it is empty.
-/

namespace Searchlight.Text

/-- Drops the carriage return that a line feed has right before it. -/
def dropReturn (line : List Char) : List Char :=
  if line.getLast? = some '\r' then line.dropLast else line

/-- The lines of a text that continues the given reversed text. -/
def linesFrom (before : List Char) : List Char → List (List Char)
  | [] => if before.isEmpty then [] else [before.reverse]
  | c :: rest =>
    if c = '\n' then dropReturn before.reverse :: linesFrom [] rest
    else linesFrom (c :: before) rest

def lines (cs : List Char) : List (List Char) := linesFrom [] cs

end Searchlight.Text
