import Searchlight.Expr.Basic
import Searchlight.Text.Blank

/-!
# Canonical query strings

The query string of an expression: one spelling for each tree, with parentheses only where the
context binds tighter than the node, and with escapes only where a bare word would be read as
something else.
-/

namespace Searchlight

open Text

namespace Canonical

/-- Characters with a meaning of their own anywhere in a bare word. -/
def isSpecial (c : Char) : Bool :=
  ['\\', '(', ')', '"', '^', '~', '[', ']', '\x7b', '\x7d', ':', '*', '?'].contains c

/-- Characters with a meaning of their own at the start of a bare word. -/
def isSpecialFirst (c : Char) : Bool :=
  ['-', '/', '<', '>'].contains c

def escapeChar (c : Char) : List Char :=
  if isSpecial c || isBlank c then ['\\', c] else [c]

def escapeChars : List Char → List Char
  | [] => []
  | c :: rest => (if isSpecialFirst c then ['\\', c] else escapeChar c) ++ rest.flatMap escapeChar

/-- Whether a bare word would be read as an operator. -/
def isOperatorWord (cs : List Char) : Bool :=
  [['a', 'n', 'd'], ['o', 'r'], ['n', 'o', 't']].any (sameIgnoringAsciiCase cs)

/-- A bare word that stands for exactly the given text. -/
def escapeWord (cs : List Char) : List Char :=
  let escaped := escapeChars cs
  if isOperatorWord escaped then '\\' :: escaped else escaped

def quotePhrase (cs : List Char) : List Char :=
  '"' :: cs.flatMap (fun c => if c = '"' ∨ c = '\\' then ['\\', c] else [c]) ++ ['"']

def number (n : Nat) : List Char := Nat.toDigits 10 n

def bound : Bound String → List Char
  | .unbounded => ['*']
  | .inclusive v | .exclusive v => escapeWord v.toList

def rangeOpen : Bound String → Char
  | .exclusive _ => '\x7b'
  | _ => '['

def rangeClose : Bound String → Char
  | .exclusive _ => '\x7d'
  | _ => ']'

def literal : Literal → List Char
  | .term text => escapeWord text.toList
  | .phrase text slop =>
    quotePhrase text.toList ++ (if 0 < slop then '~' :: number slop else [])
  | .range lower upper =>
    rangeOpen lower :: bound lower ++ " TO ".toList ++ bound upper ++ [rangeClose upper]
  | .wildcard pattern => pattern.toList
  | .fuzzy text distance => escapeWord text.toList ++ '~' :: (distance.map number).getD []
  | .regex pattern =>
    '/' :: pattern.toList.flatMap (fun c => if c = '/' then ['\\', '/'] else [c]) ++ ['/']

def fieldName (name : String) : List Char :=
  escapeWord name.toList ++ [':']

/-- How tightly a node binds, or how tightly its context asks it to bind. -/
inductive Strength where
  | or
  | and
  | unary
  | atom
  deriving DecidableEq

namespace Strength

def rank : Strength → Nat
  | or => 0
  | and => 1
  | unary => 2
  | atom => 3

end Strength

/-- Several negations side by side are joined like any other operands of `AND`. -/
def strength (op : BoolOp) (operandCount : Nat) : Strength :=
  match op with
  | .or => .or
  | .and => .and
  | .not => if 1 < operandCount then .and else .unary

def separator : BoolOp → List Char
  | .or => " OR ".toList
  | .and | .not => [' ']

/-- What the operands of a group are asked for. -/
def operandStrength : BoolOp → Strength
  | .or => .and
  | .and | .not => .unary

def sign : BoolOp → List Char
  | .not => ['-']
  | .and | .or => []

def parenthesize (cs : List Char) : List Char :=
  '(' :: cs ++ [')']

end Canonical

namespace Expr

open Canonical

mutual

/-- The text of an expression where the context asks for the given strength. -/
def written (context : Strength) : Expr → List Char
  | leaf none l => literal l
  | leaf (some field) l => fieldName field ++ literal l
  | inField field body => fieldName field ++ parenthesize (written .or body)
  | bool op operands =>
    let text := (separator op).intercalate (writtenOperands op operands)
    if (strength op operands.length).rank < context.rank then parenthesize text else text
  | boosted body factor => written .atom body ++ '^' :: Binary.plain.write factor

def writtenOperands (op : BoolOp) : List Expr → List (List Char)
  | [] => []
  | e :: rest => (sign op ++ written (operandStrength op) e) :: writtenOperands op rest

end

/-- The canonical query string. -/
def queryString (e : Expr) : String :=
  String.ofList (written .or e)

end Expr

end Searchlight
