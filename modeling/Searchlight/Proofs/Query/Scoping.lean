import Searchlight.Proofs.Expr.Nodes
import Searchlight.Proofs.Query.Exchange

/-!
# Field scopes are shorthand

A group behind a field name stands for the same group with the name at each leaf
that has none of its own. A scope hides from a conjunction that its operand is a
negation, and from a disjunction that its operand is one too, and still the
clauses come out the same: what an operand contributes is told by its query.
-/

namespace Searchlight

namespace Expr

mutual

/-- An expression inside a group scoped to `scope`, without field scopes: every
leaf bears the name that applies to it, and all else is left as it is. -/
def unscoped (scope : Option String) : Expr → Expr
  | leaf field literal => leaf (field.or scope) literal
  | inField name body => unscoped (some name) body
  | bool op operands => bool op (unscopedAll scope operands)
  | boosted body factor => boosted (unscoped scope body) factor

def unscopedAll (scope : Option String) : List Expr → List Expr
  | [] => []
  | e :: rest => unscoped scope e :: unscopedAll scope rest

end

def isScope : Expr → Bool
  | inField _ _ => true
  | _ => false

theorem length_unscopedAll (scope : Option String) (es : List Expr) :
    (unscopedAll scope es).length = es.length := by
  induction es with
  | nil => rfl
  | cons e es ih => exact congrArg Nat.succ ih

mutual

/-- No field scope is left. -/
theorem any_isScope_unscoped : ∀ (scope : Option String) (e : Expr),
    (e.unscoped scope).nodes.any isScope = false
  | _, leaf _ _ => rfl
  | _, inField name body => any_isScope_unscoped (some name) body
  | scope, bool op operands => by
      rw [unscoped, nodes, List.any_cons, any_isScope_unscopedAll scope operands]
      rfl
  | scope, boosted body factor => by
      rw [unscoped, nodes, List.any_cons, any_isScope_unscoped scope body]
      rfl

theorem any_isScope_unscopedAll : ∀ (scope : Option String) (es : List Expr),
    (nodesAll (unscopedAll scope es)).any isScope = false
  | _, [] => rfl
  | scope, e :: es => by
      rw [unscopedAll, nodesAll, List.any_append, any_isScope_unscoped scope e,
        any_isScope_unscopedAll scope es]
      rfl

end

end Expr

namespace Resolution

variable {lookup : String → Option FieldMapping} {options : ResolveOptions}

/-- The scope of a leaf is as good as a name of its own. -/
theorem leaf_or (scope field : Option String) (literal : Literal) :
    leaf lookup options none (field.or scope) literal =
      leaf lookup options scope field literal := by
  rw [leaf, leaf, Option.or_none]

mutual

/-- An expression and the one without scopes have the same query, and so have
their negations. -/
theorem query_unscoped : ∀ (negated : Bool) {scope : Option String} (e : Expr),
    query lookup options none ((e.unscoped scope).signed negated) =
      query lookup options scope (e.signed negated)
  | negated, scope, .leaf field literal => by
      refine query_signed_congr rfl rfl ?_ negated
      rw [Expr.unscoped, query, query, leaf_or]
  | negated, scope, .inField name body => by
      rw [query_signed_inField]
      exact query_unscoped negated body
  | negated, scope, .boosted body factor => by
      refine query_signed_congr rfl rfl ?_ negated
      rw [Expr.unscoped, query, query]
      exact congrArg _ (query_unscoped false body)
  -- a single negation passes its sign on, so that two of them cancel out
  | negated, scope, .bool .not [only] => by
      show query lookup options none ((only.unscoped scope).not.signed negated) =
        query lookup options scope (only.not.signed negated)
      rw [query_signed_not, query_signed_not]
      exact query_unscoped (!negated) only
  | negated, scope, .bool .not [] => by
      exact query_bool_congr (by simp [Expr.unscopedAll]) (Expr.length_unscopedAll _ _)
        (queries_unscoped []) negated
  | negated, scope, .bool .not (a :: b :: operands) => by
      exact query_bool_congr (by simp [Expr.unscopedAll]) (Expr.length_unscopedAll _ _)
        (queries_unscoped (a :: b :: operands)) negated
  | negated, scope, .bool .and operands => by
      exact query_bool_congr (by simp) (Expr.length_unscopedAll _ _)
        (queries_unscoped operands) negated
  | negated, scope, .bool .or operands => by
      exact query_bool_congr (by simp) (Expr.length_unscopedAll _ _)
        (queries_unscoped operands) negated

theorem queries_unscoped : ∀ {scope : Option String} (es : List Expr),
    queries lookup options none (Expr.unscopedAll scope es) =
      queries lookup options scope es
  | scope, [] => rfl
  | scope, e :: es => by
      have he : query lookup options none (e.unscoped scope) = query lookup options scope e :=
        query_unscoped false e
      rw [Expr.unscopedAll, queries, queries, he, queries_unscoped es]

end

end Resolution

/-- **A field scope is shorthand for naming the field at each leaf.** Without
scopes an expression resolves to the same query, or fails with the same error. -/
theorem resolve_unscoped (lookup : String → Option FieldMapping) (options : ResolveOptions)
    (e : Expr) :
    (e.unscoped none).nodes.any Expr.isScope = false ∧
      resolve lookup options (some e) = resolve lookup options (some (e.unscoped none)) := by
  constructor
  · exact Expr.any_isScope_unscoped none e
  · have he : Resolution.query lookup options none (e.unscoped none) =
        Resolution.query lookup options none e := Resolution.query_unscoped false e
    rw [resolve, resolve, he]

end Searchlight
