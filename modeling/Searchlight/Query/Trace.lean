import Searchlight.Expr.Parse
import Searchlight.Query.Resolution
import Searchlight.Text.Quoted

/-!
# Traces

What happens on the way from a query string to its query, in order: the messages that go to a log.
The way ends at the first leaf that cannot be resolved, and so does its trace.
-/

namespace Searchlight

open Text

inductive Level where
  | trace
  | debug
  | warn
  deriving DecidableEq

namespace Level

def name : Level → String
  | trace => "TRACE"
  | debug => "DEBUG"
  | warn => "WARN"

end Level

inductive Event where
  | parsing (index query : String)
  | tokenized (query : String) (count : Nat)
  | emptyQuery
  | doubleNegation
  | resolved (name path : String)
  | unknownField (name default : String)
  | openRange (field : String)
  | matchAllPattern (pattern field : String)
  deriving DecidableEq

namespace Event

def level : Event → Level
  | tokenized _ _ => .trace
  | unknownField _ _ => .warn
  | _ => .debug

def message : Event → String
  | parsing index query => "parsing query for index '" ++ index ++ "': " ++ query
  | tokenized query count => "tokenized " ++ quoted query ++ " into " ++ count.repr ++ " tokens"
  | emptyQuery => "empty query rewritten to match_all"
  | doubleNegation => "double negation cancelled"
  | resolved name path => "resolved field '" ++ name ++ "' to '" ++ path ++ "'"
  | unknownField name default =>
    "unknown field '" ++ name ++ "', using default field '" ++ default ++ "'"
  | openRange field => "open range on '" ++ field ++ "' rewritten to exists"
  | matchAllPattern pattern field =>
    "wildcard '" ++ pattern ++ "' on '" ++ field ++ "' rewritten to exists"

def text (e : Event) : String := e.level.name ++ " " ++ e.message

end Event

namespace Trace

/-- What resolving an expression comes by: a leaf inside a scope, or a negation of a negation. -/
inductive Visit where
  | leaf (scope field : Option String) (literal : Literal)
  | doubleNegation

mutual

/-- What resolving an expression comes by. `negated` tells that the expression is the one operand of
a negation. -/
def visits (negated : Bool) (scope : Option String) : Expr → List Visit
  | .leaf field literal => [.leaf scope field literal]
  | .inField name body => visits negated (some name) body
  | .boosted body _ => visits false scope body
  | .bool .not operands =>
    if negated then .doubleNegation :: visitsAll scope operands
    else
      match operands with
      | [only] => visits true scope only
      | operands => visitsAll scope operands
  | .bool _ operands => visitsAll scope operands

def visitsAll (scope : Option String) : List Expr → List Visit
  | [] => []
  | e :: rest => visits false scope e ++ visitsAll scope rest

end

variable (lookup : String → Option FieldMapping) (options : ResolveOptions)

def fieldEvents (name : Option String) : List Event :=
  match name with
  | none => []
  | some name =>
    match lookup name, options.defaultField with
    | some m, _ => [.resolved name m.path]
    | none, some default => [.unknownField name default]
    | none, none => []

def literalEvents (field : Field) : Literal → List Event
  | .range .unbounded .unbounded =>
    if field.type.isOrdered then [.openRange field.name] else []
  | .wildcard pattern =>
    if Literal.isMatchAll pattern then [.matchAllPattern pattern field.name] else []
  | _ => []

def leafEvents (scope field : Option String) (literal : Literal) : List Event :=
  let name := field.or scope
  if Resolution.isAll name literal then []
  else
    fieldEvents lookup options name ++
      match Resolution.leafField lookup options name literal with
      | .ok f => literalEvents f literal
      | .error _ => []

/-- The events of visits up to the first leaf that cannot be resolved. -/
def events : List Visit → List Event
  | [] => []
  | .doubleNegation :: rest => .doubleNegation :: events rest
  | .leaf scope field literal :: rest =>
    leafEvents lookup options scope field literal ++
      match Resolution.leaf lookup options scope field literal with
      | .ok _ => events rest
      | .error _ => []

end Trace

/-- The events of resolving a parsed query. -/
def resolveEvents (lookup : String → Option FieldMapping) (options : ResolveOptions) :
    Option Expr → List Event
  | none => [.emptyQuery]
  | some e => Trace.events lookup options (Trace.visits false none e)

/-- The events of reading a query string for an index and of resolving it. -/
def queryEvents (lookup : String → Option FieldMapping) (options : ResolveOptions)
    (index query : String) : List Event :=
  .parsing index query ::
    match tokenize query with
    | .error _ => []
    | .ok tokens =>
      .tokenized query tokens.length ::
        match parseQuery query with
        | .ok e => resolveEvents lookup options e
        | .error _ => []

end Searchlight
