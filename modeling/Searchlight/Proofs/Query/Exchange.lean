import Searchlight.Proofs.Expr.Frame
import Searchlight.Proofs.Query.Operands

/-!
# Exchanging parts of expressions

What is around a part of an expression looks at the query of the part only, or
else at that of its negation. So a part can be exchanged for another one that has
the same query there.
-/

namespace Searchlight.Resolution

variable {lookup : String → Option FieldMapping} {options : ResolveOptions}
  {scope scope' : Option String} {e e' x y : Expr}

theorem queries_congr (before after : List Expr)
    (h : query lookup options scope e = query lookup options scope e') :
    queries lookup options scope (before ++ e :: after) =
      queries lookup options scope (before ++ e' :: after) := by
  rw [queries_append, queries_append, queries, queries, h]

/-- Expressions with the same query, each in its own scope, that a negation
excludes as a whole. -/
theorem query_signed_congr (he : e.whole false = true) (he' : e'.whole false = true)
    (h : query lookup options scope e = query lookup options scope' e') (negated : Bool) :
    query lookup options scope (e.signed negated) =
      query lookup options scope' (e'.signed negated) := by
  cases negated with
  | false => exact h
  | true =>
      rw [Expr.signed_true, Expr.signed_true, query_not_of_whole he, query_not_of_whole he', h]

/-- Groups whose operands have the same queries, single negations aside. -/
theorem query_bool_congr {op : BoolOp} {es es' : List Expr}
    (hop : op = .not → es.length ≠ 1) (hlen : es.length = es'.length)
    (h : queries lookup options scope es = queries lookup options scope' es')
    (negated : Bool) :
    query lookup options scope (Expr.signed negated (.bool op es)) =
      query lookup options scope' (Expr.signed negated (.bool op es')) := by
  cases op with
  | and => exact query_signed_congr rfl rfl (by rw [query_and, query_and, h]) negated
  | or =>
      cases negated with
      | false => rw [Expr.signed_false, Expr.signed_false, query, query, h]
      | true => rw [Expr.signed_true, Expr.signed_true, query_not_or, query_not_or, h]
  | not =>
      have hes := hop rfl
      have hes' := hlen ▸ hes
      cases negated with
      | false =>
          rw [Expr.signed_false, Expr.signed_false, query_many hes, query_many hes', h]
      | true =>
          rw [Expr.signed_true, Expr.signed_true, query_not_many hes, query_not_many hes', h]

/-- Groups whose operands have the same queries, negated or not. -/
theorem query_bool_of_operands {op : BoolOp} {es es' : List Expr}
    (h : List.Forall₂ (fun e e' => ∀ negated : Bool,
      query lookup options scope (e.signed negated) =
        query lookup options scope' (e'.signed negated)) es es') (negated : Bool) :
    query lookup options scope (Expr.signed negated (.bool op es)) =
      query lookup options scope' (Expr.signed negated (.bool op es')) := by
  have hqueries : queries lookup options scope es = queries lookup options scope' es' := by
    induction h with
    | nil => rfl
    | cons he _ ih =>
        have hquery := he false
        rw [Expr.signed_false, Expr.signed_false] at hquery
        rw [queries, queries, hquery, ih]
  by_cases hsingle : op = .not ∧ es.length = 1
  · -- a single negation passes its sign on, so that two of them cancel out
    obtain ⟨rfl, hone⟩ := hsingle
    obtain ⟨only, rfl⟩ := List.length_eq_one_iff.mp hone
    cases h with
    | cons he hnil =>
        cases hnil
        rw [← Expr.not, ← Expr.not, query_signed_not, query_signed_not]
        exact he (!negated)
  · apply query_bool_congr _ h.length_eq hqueries
    intro hop hone
    exact hsingle ⟨hop, hone⟩

/-- **What is in the hole of a frame can be exchanged** for what has the same
query there, negated or not. -/
theorem query_fill_congr : ∀ (f : Expr.Frame) (negated : Bool) {scope : Option String},
    (∀ scope, query lookup options scope (x.signed (f.negates negated)) =
      query lookup options scope (y.signed (f.negates negated))) →
    query lookup options scope ((f.fill x).signed negated) =
      query lookup options scope ((f.fill y).signed negated)
  | .hole, _, scope, h => h scope
  | .inField name f, negated, _, h => by
      rw [Expr.Frame.fill, Expr.Frame.fill, query_signed_inField, query_signed_inField]
      exact query_fill_congr f negated h
  | .boosted f factor, negated, _, h => by
      refine query_signed_congr rfl rfl ?_ negated
      rw [Expr.Frame.fill, Expr.Frame.fill, query, query]
      exact congrArg _ (query_fill_congr f false h)
  | .bool .not [] f [], negated, _, h => by
      change query lookup options _ ((f.fill x).not.signed negated) =
        query lookup options _ ((f.fill y).not.signed negated)
      rw [query_signed_not, query_signed_not]
      exact query_fill_congr f (!negated) h
  | .bool .not (_ :: _) f _, negated, _, h =>
      query_bool_congr (by simp) (by simp)
        (queries_congr _ _ (query_fill_congr f false h)) negated
  | .bool .not [] f (_ :: _), negated, _, h =>
      query_bool_congr (by simp) (by simp)
        (queries_congr [] _ (query_fill_congr f false h)) negated
  | .bool .and _ f _, negated, _, h | .bool .or _ f _, negated, _, h =>
      query_bool_congr (by simp) (by simp)
        (queries_congr _ _ (query_fill_congr f false h)) negated

end Searchlight.Resolution
