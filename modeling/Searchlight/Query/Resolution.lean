import Searchlight.Expr.Canonical
import Searchlight.Field.Mappings
import Searchlight.Query.Value

/-!
# Resolving expressions into queries

Every leaf finds its field and becomes the query that fits the field's type. Operands of `AND`
become clauses that must or must not match, operands of `OR` clauses of which one should match. A
negation of a negation is the expression itself, and a negated `OR` is a list of clauses that must
not match. Boolean queries that carry nothing of their own are spliced into the one around them, and
a single positive clause stands for itself.
-/

namespace Searchlight

structure ResolveOptions where
  /-- The field of leaves that name none, or one that is not mapped. -/
  defaultField : Option String := none
  /-- The whole query only filters and does not score. -/
  asFilter : Bool := false

inductive ResolveError where
  | unknownField (name : String)
  | noDefaultField (literal : Literal)
  | unorderedRange (field : Field) (bound : String)
  | rangeType (field : Field) (bound : String)
  | termType (field : Field) (text : String)
  | notString (field : Field) (literal : Literal)
  deriving DecidableEq

namespace ResolveError

def message : ResolveError → String
  | unknownField name => "unknown field '" ++ name ++ "'"
  | noDefaultField literal =>
    "no default field configured for unscoped value '" ++
      (Expr.leaf none literal).queryString ++ "'"
  | unorderedRange field bound =>
    "range bound '" ++ bound ++ "' on field '" ++ field.name ++ "' is not rangeable (" ++
      field.type.name ++ " fields have no order)"
  | rangeType field bound =>
    "range bound '" ++ bound ++ "' on field '" ++ field.name ++ "' is not " ++ field.type.expected
  | termType field text =>
    "value '" ++ text ++ "' on field '" ++ field.name ++ "' is not " ++ field.type.expected
  | notString field literal =>
    literal.kindName ++ " queries are not supported on " ++ field.type.name ++ " field '" ++
      field.name ++ "'"

end ResolveError

abbrev Resolved (α : Type) := Except ResolveError α

/-! ## Leaves -/

namespace Literal

/-- A pattern of stars matches every value. -/
def isMatchAll (pattern : String) : Bool :=
  !pattern.toList.isEmpty && pattern.toList.all (· = '*')

end Literal

namespace Resolution

/-- A match on analyzed fields, an exact value on all others. -/
def termQuery (field : Field) (text : String) : Resolved Query :=
  if field.type = .text then .ok (.fullText field text)
  else
    match field.type.value? text with
    | some v => .ok (.term field v)
    | none => .error (.termType field text)

def boundValue (field : Field) (text : String) : Resolved Value :=
  match field.type.value? text with
  | some v => .ok v
  | none => .error (.rangeType field text)

def bound (field : Field) : Bound String → Resolved (Bound Value)
  | .unbounded => .ok .unbounded
  | .inclusive s => (boundValue field s).map .inclusive
  | .exclusive s => (boundValue field s).map .exclusive

/-- A range, or the existence of a value where both ends are open. -/
def rangeQuery (field : Field) (lower upper : Bound String) : Resolved Query :=
  if !field.type.isOrdered then
    .error (.unorderedRange field ((lower.value?.or upper.value?).getD "*"))
  else if lower = .unbounded ∧ upper = .unbounded then .ok (.exists field)
  else do
    let l ← bound field lower
    let u ← bound field upper
    .ok (.range field l u)

def stringQuery (field : Field) (literal : Literal) (q : Query) : Resolved Query :=
  if field.type.isString then .ok q else .error (.notString field literal)

/-- The query of a literal on a field. Fields that are not analyzed hold their whole value as one
term, which a phrase has to equal. -/
def literalQuery (field : Field) (literal : Literal) : Resolved Query :=
  match literal with
  | .term text => termQuery field text
  | .phrase text slop =>
    if field.type = .text then .ok (.phrase field text slop) else termQuery field text
  | .range lower upper => rangeQuery field lower upper
  | .wildcard pattern =>
    if Literal.isMatchAll pattern then .ok (.exists field)
    else stringQuery field literal (.wildcard field pattern)
  | .fuzzy text distance => stringQuery field literal (.fuzzy field text distance)
  | .regex pattern => stringQuery field literal (.regex field pattern)

/-- The field mapped under a name. -/
def fieldNamed (lookup : String → Option FieldMapping) (target : String) : Resolved Field :=
  match lookup target with
  | some m => .ok m.toField
  | none => .error (.unknownField target)

def leafField (lookup : String → Option FieldMapping) (options : ResolveOptions)
    (name : Option String) (literal : Literal) : Resolved Field :=
  match name, options.defaultField with
  | some name, default =>
    match lookup name, default with
    | some m, _ => .ok m.toField
    | none, some default => fieldNamed lookup default
    | none, none => .error (.unknownField name)
  | none, some default => fieldNamed lookup default
  | none, none => .error (.noDefaultField literal)

def inNested (path : Option String) (q : Query) : Query :=
  match path with
  | some path => .nested path q
  | none => q

/-- A leaf for every value of no particular field. -/
def isAll (name : Option String) (literal : Literal) : Bool :=
  match name, literal with
  | none, .wildcard pattern => Literal.isMatchAll pattern
  | _, _ => false

/-- The query of a leaf inside a group scoped to `scope`. -/
def leaf (lookup : String → Option FieldMapping) (options : ResolveOptions)
    (scope field : Option String) (literal : Literal) : Resolved Query :=
  let name := field.or scope
  if isAll name literal then .ok .all
  else do
    let f ← leafField lookup options name literal
    let q ← literalQuery f literal
    .ok (inNested f.nested q)

/-! ## Boolean structure -/

/-- What an operand contributes to a conjunction: a clause that must match, or clauses that must
not. -/
inductive Signed where
  | positive (q : Query)
  | excluded (qs : List Query)

/-- A boolean query without clauses other than a single positive one is that clause. -/
def collapse (c : Clauses) : Query :=
  match c with
  | ⟨[only], [], [], []⟩ => only
  | ⟨[], [], [only], []⟩ => only
  | c => c.toQuery

/-- Adds a clause that must match. Queries that only consist of such clauses and of clauses that
must not match are spliced in. -/
def require (c : Clauses) : Query → Clauses
  | .bool must [] [] mustNot => { c with must := c.must ++ must, mustNot := c.mustNot ++ mustNot }
  | q => { c with must := c.must ++ [q] }

def contribute (c : Clauses) : Signed → Clauses
  | .positive q => require c q
  | .excluded qs => { c with mustNot := c.mustNot ++ qs }

def conjunction (operands : List Signed) : Query :=
  collapse (operands.foldl contribute {})

/-- What an operand contributes to a disjunction: its own alternatives if it has nothing else. -/
def alternatives : Query → List Query
  | .bool [] [] should [] => should
  | q => [q]

def disjunction (operands : List Query) : Query :=
  collapse { should := operands.flatMap alternatives }

def exclusion (operands : List Query) : Query :=
  Clauses.toQuery { mustNot := operands }

def Signed.toQuery : Signed → Query
  | positive q => q
  | excluded qs => exclusion qs

variable (lookup : String → Option FieldMapping) (options : ResolveOptions)

mutual

/-- The query of an expression inside a group scoped to `scope`. -/
def query (scope : Option String) : Expr → Resolved Query
  | .leaf field literal => leaf lookup options scope field literal
  | .inField name body => query (some name) body
  | .boosted body factor => (query scope body).map (·.boosted factor)
  | .bool .and operands => (conjuncts scope operands).map conjunction
  | .bool .or operands => (queries scope operands).map disjunction
  | .bool .not [only] => (negation scope only).map Signed.toQuery
  | .bool .not operands => (queries scope operands).map exclusion

/-- The negation of an expression. -/
def negation (scope : Option String) : Expr → Resolved Signed
  | .bool .not [only] => (query scope only).map .positive
  | .bool .not operands => (queries scope operands).map fun qs => .positive (disjunction qs)
  | .bool .or operands => (queries scope operands).map .excluded
  | .bool .and operands =>
    (conjuncts scope operands).map fun cs => .excluded [conjunction cs]
  | .inField name body => negation (some name) body
  | .leaf field literal => (leaf lookup options scope field literal).map fun q => .excluded [q]
  | .boosted body factor => (query scope body).map fun q => .excluded [q.boosted factor]

/-- The queries of several expressions, in order. -/
def queries (scope : Option String) : List Expr → Resolved (List Query)
  | [] => .ok []
  | e :: rest => do
    let q ← query scope e
    let qs ← queries scope rest
    .ok (q :: qs)

/-- The operands of a conjunction, in order. -/
def conjuncts (scope : Option String) : List Expr → Resolved (List Signed)
  | [] => .ok []
  | .bool .not [only] :: rest => do
    let s ← negation scope only
    let ss ← conjuncts scope rest
    .ok (s :: ss)
  | .bool .not operands :: rest => do
    let qs ← queries scope operands
    let ss ← conjuncts scope rest
    .ok (.excluded qs :: ss)
  | e :: rest => do
    let q ← query scope e
    let ss ← conjuncts scope rest
    .ok (.positive q :: ss)

end

end Resolution

/-- Resolves a parsed query; a blank one matches everything, filtered or not. -/
def resolve (lookup : String → Option FieldMapping) (options : ResolveOptions) :
    Option Expr → Resolved Query
  | none => .ok .all
  | some e =>
    (Resolution.query lookup options none e).map fun q =>
      if options.asFilter then Clauses.toQuery { filter := [q] } else q

end Searchlight
