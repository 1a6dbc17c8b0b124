import Searchlight.Number.Shortest

/-!
# Tokens of query strings

The words, literals, operators and brackets that a query string consists of. A token keeps its
source text and the byte offset where it starts.
-/

namespace Searchlight

inductive Comparator where
  | greater
  | atLeast
  | less
  | atMost
  deriving DecidableEq

namespace Comparator

def sign : Comparator → String
  | greater => ">"
  | atLeast => ">="
  | less => "<"
  | atMost => "<="

end Comparator

inductive TokenKind where
  /-- A bare word, escapes resolved. -/
  | term (text : String)
  /-- A bare word with an unescaped `*` or `?`, escapes kept. -/
  | wildcard (pattern : String)
  | phrase (content : String)
  | regex (pattern : String)
  /-- A field name; its colon belongs to the token. -/
  | field (name : String)
  | comparator (c : Comparator)
  | and
  | or
  | not
  | openGroup
  | closeGroup
  | openRange (inclusive : Bool)
  | closeRange (inclusive : Bool)
  | boost (factor : Single)
  /-- A tilde with its number, the sign of a fuzzy term or of a phrase with slop. -/
  | tilde (distance : Option Nat)
  deriving DecidableEq

inductive TokenClass where
  | identifier
  | operator
  | literal
  | punctuation
  deriving DecidableEq

namespace TokenKind

def tokenClass : TokenKind → TokenClass
  | term _ | field _ => .identifier
  | wildcard _ | phrase _ | regex _ => .literal
  | comparator _ | and | or | not | boost _ | tilde _ => .operator
  | openGroup | closeGroup | openRange _ | closeRange _ => .punctuation

/-- How error messages name the token. -/
def describe : TokenKind → String
  | term s => "term '" ++ s ++ "'"
  | wildcard s => "wildcard '" ++ s ++ "'"
  | phrase s => "phrase \"" ++ s ++ "\""
  | regex s => "regex /" ++ s ++ "/"
  | field s => "field '" ++ s ++ ":'"
  | comparator c => "'" ++ c.sign ++ "'"
  | and => "AND"
  | or => "OR"
  | not => "NOT"
  | openGroup => "'('"
  | closeGroup => "')'"
  | openRange true => "'['"
  | openRange false => "'\x7b'"
  | closeRange true => "']'"
  | closeRange false => "'\x7d'"
  | boost factor => "boost '^" ++ factor.text ++ "'"
  | tilde (some n) => "'~" ++ n.repr ++ "'"
  | tilde none => "'~'"

end TokenKind

structure Token where
  kind : TokenKind
  /-- The source text the token was read from. -/
  text : String
  /-- Bytes of the query string before the token. -/
  offset : Nat
  deriving DecidableEq

end Searchlight
