import Searchlight.Regex.CharSet

/-!
# Regular expressions

A regular expression over characters, with anchors that look at the characters around a place in the
text and take up none.
-/

namespace Searchlight

/-- Conditions on a place in a text. The word boundaries take a set of word characters. -/
inductive Anchor where
  | textStart
  | textEnd
  | lineStart
  | lineEnd
  /-- As `lineStart`, where a carriage return ends a line too. -/
  | anyLineStart
  | anyLineEnd
  | wordBoundary (word : CharSet)
  | insideOrOutside (word : CharSet)
  | wordStart (word : CharSet)
  | wordEnd (word : CharSet)
  | noWordBefore (word : CharSet)
  | noWordAfter (word : CharSet)
  deriving DecidableEq

inductive Regex where
  | empty
  | text (cs : List Char)
  | one (set : CharSet)
  | anchor (a : Anchor)
  | seq (first second : Regex)
  | either (first second : Regex)
  /-- As often as `least` or more, and `most` or less if there is a limit. Where a match ends does
  not depend on whether short matches are preferred. -/
  | repeated (r : Regex) (least : Nat) (most : Option Nat) (short : Bool)
  /-- What stands in parentheses, with a number if what it matches is kept. -/
  | group (number : Option Nat) (r : Regex)
  deriving DecidableEq

namespace Anchor

/-- Whether the condition holds between the characters `before` and `after`. -/
def holds (before after : Option Char) : Anchor → Bool
  | textStart => before.isNone
  | textEnd => after.isNone
  | lineStart => before.isNone || before == some '\n'
  | lineEnd => after.isNone || after == some '\n'
  | anyLineStart =>
    before.isNone || before == some '\n' || (before == some '\r' && after != some '\n')
  | anyLineEnd =>
    after.isNone || after == some '\r' || (after == some '\n' && before != some '\r')
  | wordBoundary word => before.any word.contains != after.any word.contains
  | insideOrOutside word => before.any word.contains == after.any word.contains
  | wordStart word => !before.any word.contains && after.any word.contains
  | wordEnd word => before.any word.contains && !after.any word.contains
  | noWordBefore word => !before.any word.contains
  | noWordAfter word => !after.any word.contains

end Anchor

namespace Regex

/-- Nothing matches it, not even the empty text. -/
def impossible : Regex := one .empty

/-- A sequence of expressions. -/
def sequence : List Regex → Regex
  | [] => empty
  | [r] => r
  | r :: rest => seq r (sequence rest)

/-- A choice of expressions; of none there is nothing to match. -/
def choice : List Regex → Regex
  | [] => impossible
  | [r] => r
  | r :: rest => either r (choice rest)

end Regex

end Searchlight
