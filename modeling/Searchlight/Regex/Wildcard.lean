import Searchlight.Regex.Basic

/-!
# Wildcard patterns

A star stands for any characters of one line and a question mark for a single one. A backslash makes
the next character stand for itself; at the end it stands for itself too.
-/

namespace Searchlight

inductive WildcardPart where
  | any
  | single
  | char (c : Char)
  deriving DecidableEq

namespace WildcardPart

def ofPattern : List Char → List WildcardPart
  | [] => []
  | '*' :: rest => any :: ofPattern rest
  | '?' :: rest => single :: ofPattern rest
  | ['\\'] => [char '\\']
  | '\\' :: c :: rest => char c :: ofPattern rest
  | c :: rest => char c :: ofPattern rest

/-- Any character that does not end a line. -/
def inLine : CharSet := (CharSet.single '\n').negated

def toRegex : WildcardPart → Regex
  | any => .repeated (.one inLine) 0 none false
  | single => .one inLine
  | char c => .text [c]

end WildcardPart

/-- A regular expression for the texts that a wildcard pattern stands for. -/
def wildcardRegex (parts : List WildcardPart) : Regex :=
  .sequence (.anchor .textStart :: parts.map WildcardPart.toRegex ++ [.anchor .textEnd])

end Searchlight
