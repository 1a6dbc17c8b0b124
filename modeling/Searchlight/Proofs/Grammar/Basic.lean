import Searchlight.Expr.Parse

/-!
# The grammar of query strings

Derivation trees of the grammar

```text
query     → disjunct
disjunct  → conjunct (OR conjunct)*
conjunct  → operand (AND? operand)*
operand   → NOT operand | FIELD body | boosted
body      → COMPARATOR value | boosted
boosted   → (leaf | "(" disjunct ")") BOOST?
leaf      → TERM TILDE? | WILDCARD | PHRASE TILDE? | REGEX | range
range     → ("[" | "{") bound "TO" bound ("]" | "}")
bound     → value | "*"
value     → TERM | PHRASE
```

A derivation tree has one constructor for each production. `kinds` are the
tokens at its leaves, from left to right, and `expr` is the expression that
they stand for. What the productions leave open is said by `Admissible`
(numbers, empty literals, nested field scopes) and by `levels` (how many
groups and negations are open inside each other).
-/

namespace Searchlight.Grammar

open Text

/-- `value → TERM | PHRASE` -/
inductive Plain where
  | term (text : String)
  | phrase (content : String)

namespace Plain

def kind : Plain → TokenKind
  | term text => .term text
  | phrase content => .phrase content

def text : Plain → String
  | term text | phrase text => text

end Plain

/-- `bound → value | "*"` -/
inductive Edge where
  | value (v : Plain)
  | star

namespace Edge

def kind : Edge → TokenKind
  | value v => v.kind
  | star => .wildcard "*"

def value? : Edge → Option String
  | value v => some v.text
  | star => none

/-- The separator is no bound, unless it is quoted. -/
def Admissible : Edge → Prop
  | value (.term text) => text ≠ "TO"
  | _ => True

end Edge

/-- `leaf → TERM TILDE? | WILDCARD | PHRASE TILDE? | REGEX | range`. A tilde
has a number or has none. -/
inductive Leaf where
  | term (text : String) (tilde : Option (Option Nat))
  | wildcard (pattern : String)
  | phrase (content : String) (tilde : Option (Option Nat))
  | regex (pattern : String)
  | range (opening : Bool) (lower upper : Edge) (closing : Bool)

namespace Leaf

def tildeKinds (tilde : Option (Option Nat)) : List TokenKind :=
  (tilde.map TokenKind.tilde).toList

def kinds : Leaf → List TokenKind
  | term text tilde => .term text :: tildeKinds tilde
  | wildcard pattern => [.wildcard pattern]
  | phrase content tilde => .phrase content :: tildeKinds tilde
  | regex pattern => [.regex pattern]
  | range opening lower upper closing =>
      [.openRange opening, lower.kind, .term "TO", upper.kind,
        .closeRange closing]

def literal : Leaf → Literal
  | term text none => .term text
  | term text (some distance) => .fuzzy text distance
  | wildcard pattern => .wildcard pattern
  | phrase content tilde => .phrase (Parse.phraseText content) (tilde.join.getD 0)
  | regex pattern => .regex pattern
  | range opening lower upper closing =>
      .range (Parse.bound opening lower.value?) (Parse.bound closing upper.value?)

/-- A fuzzy distance is at most two, a phrase has a word and its tilde has a
number, a regular expression is not empty. -/
def Admissible : Leaf → Prop
  | term _ (some (some distance)) => distance ≤ maxFuzzyDistance
  | phrase content tilde =>
      (∃ c ∈ content.toList, isBlank c = false) ∧ tilde ≠ some none
  | regex pattern => pattern ≠ ""
  | range _ lower upper _ => lower.Admissible ∧ upper.Admissible
  | _ => True

end Leaf

mutual

/-- `disjunct → conjunct (OR conjunct)*` -/
inductive Disjunct where
  | last (c : Conjunct)
  | or (c : Conjunct) (rest : Disjunct)

/-- `conjunct → operand (AND? operand)*`; `written` tells whether the operator
is there. -/
inductive Conjunct where
  | last (o : Operand)
  | and (written : Bool) (o : Operand) (rest : Conjunct)

/-- `operand → NOT operand | FIELD body | boosted` -/
inductive Operand where
  | not (o : Operand)
  | field (name : String) (b : Body)
  | boosted (b : Boosted)

/-- `body → COMPARATOR value | boosted` -/
inductive Body where
  | comparison (c : Comparator) (v : Plain)
  | boosted (b : Boosted)

/-- `boosted → (leaf | "(" disjunct ")") BOOST?` -/
inductive Boosted where
  | leaf (l : Leaf) (factor : Option Single)
  | group (d : Disjunct) (factor : Option Single)

end

/-! ## The tokens of a derivation -/

def boostKinds (factor : Option Single) : List TokenKind :=
  (factor.map TokenKind.boost).toList

def andKinds (written : Bool) : List TokenKind :=
  if written then [.and] else []

mutual

def Disjunct.kinds : Disjunct → List TokenKind
  | .last c => c.kinds
  | .or c rest => c.kinds ++ .or :: rest.kinds

def Conjunct.kinds : Conjunct → List TokenKind
  | .last o => o.kinds
  | .and written o rest => o.kinds ++ andKinds written ++ rest.kinds

def Operand.kinds : Operand → List TokenKind
  | .not o => .not :: o.kinds
  | .field name b => .field name :: b.kinds
  | .boosted b => b.kinds

def Body.kinds : Body → List TokenKind
  | .comparison c v => [.comparator c, v.kind]
  | .boosted b => b.kinds

def Boosted.kinds : Boosted → List TokenKind
  | .leaf l factor => l.kinds ++ boostKinds factor
  | .group d factor => .openGroup :: d.kinds ++ .closeGroup :: boostKinds factor

end

/-! ## The expression of a derivation -/

/-- An expression behind which a factor may stand. -/
def withBoost (e : Expr) : Option Single → Expr
  | none => e
  | some factor => .boosted e factor

/-- A group that a field name may precede. -/
def inScope (field : Option String) (e : Expr) : Expr :=
  match field with
  | none => e
  | some name => .inField name e

mutual

def Disjunct.exprs : Disjunct → List Expr
  | .last c => [.and c.exprs]
  | .or c rest => .and c.exprs :: rest.exprs

def Conjunct.exprs : Conjunct → List Expr
  | .last o => [o.expr]
  | .and _ o rest => o.expr :: rest.exprs

def Operand.expr : Operand → Expr
  | .not o => o.expr.not
  | .field name b => b.expr name
  | .boosted b => b.expr none

def Body.expr (name : String) : Body → Expr
  | .comparison c v => .leaf (some name) (Parse.comparison c v.text)
  | .boosted b => b.expr (some name)

def Boosted.expr (field : Option String) : Boosted → Expr
  | .leaf l factor => withBoost (.leaf field l.literal) factor
  | .group d factor => withBoost (inScope field (.or d.exprs)) factor

end

def Disjunct.expr (d : Disjunct) : Expr := .or d.exprs

def Conjunct.expr (c : Conjunct) : Expr := .and c.exprs

/-! ## Side conditions -/

/-- A boost factor is a positive finite number. -/
def AdmissibleFactor (factor : Option Single) : Prop :=
  ∀ x ∈ factor, x.isFinite = true ∧ x.isPositive = true

theorem admissibleFactor_none : AdmissibleFactor none := by
  simp [AdmissibleFactor]

mutual

def Disjunct.Admissible : Disjunct → Prop
  | .last c => c.Admissible
  | .or c rest => c.Admissible ∧ rest.Admissible

def Conjunct.Admissible : Conjunct → Prop
  | .last o => o.Admissible
  | .and _ o rest => o.Admissible ∧ rest.Admissible

def Operand.Admissible : Operand → Prop
  | .not o => o.Admissible
  | .field name b => b.Admissible name
  | .boosted b => b.Admissible none

def Body.Admissible (name : String) : Body → Prop
  | .comparison _ _ => True
  | .boosted b => b.Admissible (some name)

/-- A group behind a field name holds no further field scope. -/
def Boosted.Admissible (field : Option String) : Boosted → Prop
  | .leaf l factor => l.Admissible ∧ AdmissibleFactor factor
  | .group d factor =>
      d.Admissible ∧ AdmissibleFactor factor ∧
        (field.isSome → (Expr.or d.exprs).hasFieldScope = false)

end

mutual

/-- How many groups and negations are open inside each other. -/
def Disjunct.levels : Disjunct → Nat
  | .last c => c.levels
  | .or c rest => max c.levels rest.levels

def Conjunct.levels : Conjunct → Nat
  | .last o => o.levels
  | .and _ o rest => max o.levels rest.levels

def Operand.levels : Operand → Nat
  | .not o => o.levels + 1
  | .field _ b => b.levels
  | .boosted b => b.levels

def Body.levels : Body → Nat
  | .comparison _ _ => 0
  | .boosted b => b.levels

def Boosted.levels : Boosted → Nat
  | .leaf _ _ => 0
  | .group d _ => d.levels + 1

end

end Searchlight.Grammar
