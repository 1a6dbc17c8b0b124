import Searchlight.Expr.Basic
import Searchlight.Token.Scan

/-!
# Parsing query strings

Expressions are read from tokens by descent along the grammar

```text
query     → disjunct
disjunct  → conjunct (OR conjunct)*
conjunct  → operand (AND? operand)*
operand   → NOT operand | FIELD body | boosted
body      → COMPARATOR value | boosted
boosted   → (leaf | "(" disjunct ")") BOOST?
leaf      → TERM TILDE? | WILDCARD | PHRASE TILDE? | REGEX | range
range     → ("[" | "{") bound "TO" bound ("]" | "}")
bound     → TERM | PHRASE | "*"
```

A parser takes the tokens that are left and gives a result with the tokens behind it, or says what
it would need in front of which tokens. Groups and negations are the only ways to nest; `operand n`
reads operands with at most `n` of them open inside each other.
-/

namespace Searchlight

open Text

/-- What a parser needed where it stopped. -/
inductive Expectation where
  | endOfQuery
  | expression
  | valueAfter (field : String)
  | comparedValue (field : String)
  | fuzzyDistance
  | slop
  | noTilde (literal : Literal)
  | nonEmptyPhrase
  | nonEmptyRegex
  | lowerBound
  | rangeSeparator
  | upperBound
  | rangeEnd
  | closingParenthesis
  | positiveBoost
  | unscopedGroup (field : String)
  | shallowerNesting
  deriving DecidableEq

/-- Deepest nesting of groups and negations. -/
def maxDepth : Nat := 128

/-- Largest edit distance of a fuzzy term. -/
def maxFuzzyDistance : Nat := 2

namespace Expectation

def describe : Expectation → String
  | endOfQuery => "end of query"
  | expression => "an expression"
  | valueAfter field => "a value after '" ++ field ++ ":'"
  | comparedValue field => "a value to compare '" ++ field ++ "' with"
  | fuzzyDistance => "a fuzzy distance between 0 and " ++ maxFuzzyDistance.repr
  | slop => "a slop number after '~'"
  | noTilde literal => "no '~' after a " ++ literal.kindName ++ " leaf"
  | nonEmptyPhrase => "a non-empty phrase"
  | nonEmptyRegex => "a non-empty regex"
  | lowerBound => "a lower bound"
  | rangeSeparator => "'TO'"
  | upperBound => "an upper bound"
  | rangeEnd => "']' or '\x7d' to close the range"
  | closingParenthesis => "closing parenthesis ')'"
  | positiveBoost => "a positive boost factor"
  | unscopedGroup field => "a group without field scopes after '" ++ field ++ ":'"
  | shallowerNesting => "at most " ++ maxDepth.repr ++ " levels of nesting"

/-- What is said to be there instead, given the tokens that are left. -/
def found (tokens : List Token) : Expectation → String
  | nonEmptyPhrase => "\"\""
  | nonEmptyRegex => "//"
  | unscopedGroup _ => "a nested field scope"
  | _ =>
    match tokens with
    | [] => "end of query"
    | t :: _ => t.kind.describe

end Expectation

namespace Parse

/-- An unmet expectation and the tokens from that place on. -/
structure Stop where
  expected : Expectation
  rest : List Token

abbrev Parser (α : Type) := List Token → Except Stop (α × List Token)

/-- The value of a bound; `none` stands for `*`. -/
def boundValue (expected : Expectation) : Parser (Option String)
  | [] => .error ⟨expected, []⟩
  | t :: rest =>
    match t.kind with
    | .wildcard pattern => if pattern = "*" then .ok (none, rest) else .error ⟨expected, t :: rest⟩
    | .term text => if text = "TO" then .error ⟨expected, t :: rest⟩ else .ok (some text, rest)
    | .phrase content => .ok (some content, rest)
    | _ => .error ⟨expected, t :: rest⟩

def bound (inclusive : Bool) : Option String → Bound String
  | none => .unbounded
  | some v => if inclusive then .inclusive v else .exclusive v

def rangeSeparator : Parser Unit
  | [] => .error ⟨.rangeSeparator, []⟩
  | t :: rest =>
    if t.kind = .term "TO" then .ok ((), rest) else .error ⟨.rangeSeparator, t :: rest⟩

def rangeEnd : Parser Bool
  | [] => .error ⟨.rangeEnd, []⟩
  | t :: rest =>
    match t.kind with
    | .closeRange inclusive => .ok (inclusive, rest)
    | _ => .error ⟨.rangeEnd, t :: rest⟩

/-- A range behind its opening bracket. -/
def range (inclusive : Bool) : Parser Literal := fun tokens => do
  let (lower, tokens) ← boundValue .lowerBound tokens
  let ((), tokens) ← rangeSeparator tokens
  let (upper, tokens) ← boundValue .upperBound tokens
  let (upperInclusive, tokens) ← rangeEnd tokens
  .ok (.range (bound inclusive lower) (bound upperInclusive upper), tokens)

/-- A word, which a tilde behind it makes fuzzy. -/
def termLeaf (text : String) : Parser Literal
  | [] => .ok (.term text, [])
  | t :: rest =>
    match t.kind with
    | .tilde none => .ok (.fuzzy text none, rest)
    | .tilde (some n) =>
      if maxFuzzyDistance < n then .error ⟨.fuzzyDistance, t :: rest⟩
      else .ok (.fuzzy text (some n), rest)
    | _ => .ok (.term text, t :: rest)

/-- Phrases are compared word by word, so that a phrase keeps one space between its words. -/
def phraseText (content : String) : String :=
  String.ofList ([' '].intercalate (words content.toList))

def phraseLeaf (text : String) : Parser Literal
  | [] => .ok (.phrase text 0, [])
  | t :: rest =>
    match t.kind with
    | .tilde none => .error ⟨.slop, t :: rest⟩
    | .tilde (some n) => .ok (.phrase text n, rest)
    | _ => .ok (.phrase text 0, t :: rest)

/-- A literal at its first token, when that can start one. -/
def leafStart? : List Token → Option (Except Stop (Literal × List Token))
  | [] => none
  | t :: rest =>
    match t.kind with
    | .term text => some (termLeaf text rest)
    | .wildcard pattern => some (.ok (.wildcard pattern, rest))
    | .phrase content =>
      let text := phraseText content
      some (if text = "" then .error ⟨.nonEmptyPhrase, t :: rest⟩ else phraseLeaf text rest)
    | .regex pattern =>
      some (if pattern = "" then .error ⟨.nonEmptyRegex, t :: rest⟩
        else .ok (.regex pattern, rest))
    | .openRange inclusive => some (range inclusive rest)
    | _ => none

/-- No tilde is left behind a literal. -/
def leafEnd (literal : Literal) : Parser Literal
  | [] => .ok (literal, [])
  | t :: rest =>
    match t.kind with
    | .tilde _ => .error ⟨.noTilde literal, t :: rest⟩
    | _ => .ok (literal, t :: rest)

def leaf? (tokens : List Token) : Option (Except Stop (Literal × List Token)) :=
  (leafStart? tokens).map fun step => step.bind fun (literal, rest) => leafEnd literal rest

/-- A boost factor behind an expression, if there is one. -/
def boostEnd (e : Expr) : Parser Expr
  | [] => .ok (e, [])
  | t :: rest =>
    match t.kind with
    | .boost factor =>
      if factor.isFinite && factor.isPositive then .ok (.boosted e factor, rest)
      else .error ⟨.positiveBoost, t :: rest⟩
    | _ => .ok (e, t :: rest)

def comparedValue (field : String) : Parser String
  | [] => .error ⟨.comparedValue field, []⟩
  | t :: rest =>
    match t.kind with
    | .term v | .phrase v => .ok (v, rest)
    | _ => .error ⟨.comparedValue field, t :: rest⟩

/-- The range of the values that compare with `v` in the given way. -/
def comparison (c : Comparator) (v : String) : Literal :=
  match c with
  | .greater => .range (.exclusive v) .unbounded
  | .atLeast => .range (.inclusive v) .unbounded
  | .less => .range .unbounded (.exclusive v)
  | .atMost => .range .unbounded (.inclusive v)

/-- What follows a field name. `group` reads a parenthesized group. -/
def fieldBody (group : Parser Expr) (field : String) : Parser Expr := fun tokens =>
  match leaf? tokens with
  | some step => do
    let (literal, rest) ← step
    boostEnd (.leaf (some field) literal) rest
  | none =>
    match tokens with
    | [] => .error ⟨.valueAfter field, []⟩
    | t :: rest =>
      match t.kind with
      | .comparator c => do
        let (v, rest) ← comparedValue field rest
        .ok (.leaf (some field) (comparison c v), rest)
      | .openGroup => do
        let (inner, after) ← group (t :: rest)
        if inner.hasFieldScope then .error ⟨.unscopedGroup field, t :: rest⟩
        else boostEnd (.inField field inner) after
      | _ => .error ⟨.valueAfter field, t :: rest⟩

def boosted (group : Parser Expr) : Parser Expr := fun tokens =>
  match leaf? tokens with
  | some step => do
    let (literal, rest) ← step
    boostEnd (.leaf none literal) rest
  | none =>
    match tokens with
    | [] => .error ⟨.expression, []⟩
    | t :: rest =>
      match t.kind with
      | .openGroup => do
        let (inner, after) ← group (t :: rest)
        boostEnd inner after
      | _ => .error ⟨.expression, t :: rest⟩

def startsOperand : List Token → Bool
  | [] => false
  | t :: _ =>
    match t.kind with
    | .term _ | .wildcard _ | .phrase _ | .regex _ | .not | .openGroup | .field _
    | .openRange _ => true
    | _ => false

/-- Where the next operand of a conjunct starts, if there is one: behind an `AND`, or right here. -/
def operandAhead? : List Token → Option (List Token)
  | [] => none
  | t :: rest =>
    if t.kind = .and then some rest
    else if startsOperand (t :: rest) then some (t :: rest)
    else none

/-- Operands behind the first one, joined by `AND` or by nothing. Each takes a token, so as much
fuel as there are tokens is enough. -/
def moreOperands (operand : Parser Expr) : Nat → Parser (List Expr)
  | 0, tokens => .ok ([], tokens)
  | fuel + 1, tokens =>
    match operandAhead? tokens with
    | none => .ok ([], tokens)
    | some ahead => do
      let (e, rest) ← operand ahead
      let (more, rest) ← moreOperands operand fuel rest
      .ok (e :: more, rest)

def conjunct (operand : Parser Expr) : Parser Expr := fun tokens => do
  let (first, rest) ← operand tokens
  let (more, rest) ← moreOperands operand rest.length rest
  .ok (.and (first :: more), rest)

/-- Conjuncts behind the first one, each after an `OR`. -/
def moreConjuncts (operand : Parser Expr) : Nat → Parser (List Expr)
  | 0, tokens => .ok ([], tokens)
  | fuel + 1, tokens =>
    match tokens with
    | [] => .ok ([], [])
    | t :: rest =>
      if t.kind = .or then do
        let (e, rest) ← conjunct operand rest
        let (more, rest) ← moreConjuncts operand fuel rest
        .ok (e :: more, rest)
      else .ok ([], t :: rest)

def disjunct (operand : Parser Expr) : Parser Expr := fun tokens => do
  let (first, rest) ← conjunct operand tokens
  let (more, rest) ← moreConjuncts operand rest.length rest
  .ok (.or (first :: more), rest)

def closeGroup (e : Expr) : Parser Expr
  | [] => .error ⟨.closingParenthesis, []⟩
  | t :: rest =>
    if t.kind = .closeGroup then .ok (e, rest) else .error ⟨.closingParenthesis, t :: rest⟩

/-- A group at its opening parenthesis. `inner?` reads the operands inside, unless no further level
may be opened. -/
def group (inner? : Option (Parser Expr)) : Parser Expr := fun tokens =>
  match inner? with
  | none => .error ⟨.shallowerNesting, tokens⟩
  | some operand => do
    let (e, rest) ← disjunct operand tokens.tail
    closeGroup e rest

/-- One operand. `inner?` reads the operands one level further down. -/
def operandWith (inner? : Option (Parser Expr)) : Parser Expr := fun tokens =>
  match tokens with
  | [] => boosted (group inner?) []
  | t :: rest =>
    match t.kind with
    | .not =>
      match inner? with
      | none => .error ⟨.shallowerNesting, t :: rest⟩
      | some operand => (operand rest).map fun (e, rest) => (e.not, rest)
    | .field name => fieldBody (group inner?) name rest
    | _ => boosted (group inner?) (t :: rest)

/-- An operand with at most the given number of groups and negations open inside each other. -/
def operand : Nat → Parser Expr
  | 0 => operandWith none
  | n + 1 => operandWith (some (operand n))

/-- A whole query; no tokens at all are no expression. -/
def query (tokens : List Token) : Except Stop (Option Expr) :=
  match tokens with
  | [] => .ok none
  | _ => do
    let (e, rest) ← disjunct (operand maxDepth) tokens
    if rest.isEmpty then .ok (some e) else .error ⟨.endOfQuery, rest⟩

end Parse

/-- An unmet expectation with its place and with what was there instead. -/
structure ParseError where
  expected : Expectation
  found : String
  offset : Nat
  deriving DecidableEq

inductive QueryFault where
  | scan (e : ScanError)
  | parse (e : ParseError)
  deriving DecidableEq

namespace Parse

/-- The place of a stop: its first token, or the end of a query of the given length. -/
def Stop.offset (stop : Stop) (length : Nat) : Nat :=
  match stop.rest with
  | [] => length
  | t :: _ => t.offset

def Stop.toError (stop : Stop) (length : Nat) : ParseError :=
  ⟨stop.expected, stop.expected.found stop.rest, stop.offset length⟩

end Parse

/-- The expression of a query string; a blank one has none. -/
def parseQuery (query : String) : Except QueryFault (Option Expr) :=
  match tokenize query with
  | .error e => .error (.scan e)
  | .ok tokens =>
    match Parse.query tokens with
    | .error stop => .error (.parse (stop.toError (byteLength query.toList)))
    | .ok e => .ok e

end Searchlight
