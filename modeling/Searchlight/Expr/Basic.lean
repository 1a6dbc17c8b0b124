import Searchlight.Number.Shortest

/-!
# Query expressions

The tree that a query string stands for, before field names are resolved. A leaf is a literal with
the field it was written for; inner nodes scope a group to a field, combine operands, or boost.
`Expr.and` and `Expr.or` join operands the way adjacent queries join: operands of the same kind are
spliced in, and a single operand stands for itself.
-/

namespace Searchlight

/-- One end of a range. -/
inductive Bound (α : Type) where
  | unbounded
  | inclusive (value : α)
  | exclusive (value : α)
  deriving DecidableEq

namespace Bound

variable {α β : Type}

def value? : Bound α → Option α
  | unbounded => none
  | inclusive v | exclusive v => some v

def map (f : α → β) : Bound α → Bound β
  | unbounded => .unbounded
  | inclusive v => .inclusive (f v)
  | exclusive v => .exclusive (f v)

end Bound

inductive Literal where
  | term (text : String)
  | phrase (text : String) (slop : Nat)
  | range (lower upper : Bound String)
  | wildcard (pattern : String)
  /-- Without a distance the search engine chooses one. -/
  | fuzzy (text : String) (distance : Option Nat)
  | regex (pattern : String)
  deriving DecidableEq

namespace Literal

def kindName : Literal → String
  | term _ => "term"
  | phrase _ _ => "phrase"
  | range _ _ => "range"
  | wildcard _ => "wildcard"
  | fuzzy _ _ => "fuzzy"
  | regex _ => "regex"

end Literal

inductive BoolOp where
  | and
  | or
  | not
  deriving DecidableEq

inductive Expr where
  | leaf (field : Option String) (literal : Literal)
  /-- Every leaf of the body without a field of its own belongs to `field`. -/
  | inField (field : String) (body : Expr)
  | bool (op : BoolOp) (operands : List Expr)
  | boosted (body : Expr) (factor : Single)

namespace Expr

/-- What an operand contributes to a group: its own operands if it is a group of the same kind. -/
def spliced (op : BoolOp) : Expr → List Expr
  | bool inner operands => if inner = op then operands else [bool inner operands]
  | e => [e]

def group (op : BoolOp) (operands : List Expr) : Expr :=
  match operands.flatMap (spliced op) with
  | [only] => only
  | all => bool op all

def and (operands : List Expr) : Expr := group .and operands

def or (operands : List Expr) : Expr := group .or operands

def not (operand : Expr) : Expr := bool .not [operand]

mutual

/-- Whether any part names a field. -/
def hasFieldScope : Expr → Bool
  | leaf field _ => field.isSome
  | inField _ _ => true
  | bool _ operands => anyFieldScope operands
  | boosted body _ => hasFieldScope body

def anyFieldScope : List Expr → Bool
  | [] => false
  | e :: rest => hasFieldScope e || anyFieldScope rest

end

mutual

/-- Equality of trees, with boost factors compared as numbers. -/
def same : Expr → Expr → Bool
  | leaf f l, leaf g m => f == g && l == m
  | inField f a, inField g b => f == g && same a b
  | bool o as, bool p bs => o == p && sameAll as bs
  | boosted a x, boosted b y => same a b && x.same y
  | _, _ => false

def sameAll : List Expr → List Expr → Bool
  | [], [] => true
  | a :: as, b :: bs => same a b && sameAll as bs
  | _, _ => false

end

mutual

def decEq : (a b : Expr) → Decidable (a = b)
  | leaf f l, leaf g m => decidable_of_iff (f = g ∧ l = m) (by simp)
  | inField f a, inField g b =>
    have := decEq a b
    decidable_of_iff (f = g ∧ a = b) (by simp)
  | bool o as, bool p bs =>
    have := decEqAll as bs
    decidable_of_iff (o = p ∧ as = bs) (by simp)
  | boosted a x, boosted b y =>
    have := decEq a b
    decidable_of_iff (a = b ∧ x = y) (by simp)
  | leaf _ _, inField _ _ | leaf _ _, bool _ _ | leaf _ _, boosted _ _
  | inField _ _, leaf _ _ | inField _ _, bool _ _ | inField _ _, boosted _ _
  | bool _ _, leaf _ _ | bool _ _, inField _ _ | bool _ _, boosted _ _
  | boosted _ _, leaf _ _ | boosted _ _, inField _ _ | boosted _ _, bool _ _ => isFalse (by simp)

def decEqAll : (as bs : List Expr) → Decidable (as = bs)
  | [], [] => isTrue rfl
  | a :: as, b :: bs =>
    have := decEq a b
    have := decEqAll as bs
    decidable_of_iff (a = b ∧ as = bs) (by simp)
  | [], _ :: _ | _ :: _, [] => isFalse (by simp)

end

/-- Unlike `same` this tells factors apart that are equal as numbers. -/
instance : DecidableEq Expr := decEq

end Expr

end Searchlight
