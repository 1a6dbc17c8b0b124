import Searchlight.Proofs.Query.Clauses

/-!
# Resolving operand by operand

A conjunction is what its operands come to one by one, whether they are negations
or not; and what a negation comes to is told by the shape of its operand. So the
query of an expression is a function of the queries of its parts, where a part
is taken with the negation in front of it.
-/

namespace Searchlight

namespace Expr

/-- An expression as it is or with a negation in front. -/
def signed (negated : Bool) (e : Expr) : Expr :=
  if negated then e.not else e

@[simp] theorem signed_false (e : Expr) : e.signed false = e := rfl

@[simp] theorem signed_true (e : Expr) : e.signed true = e.not := rfl

/-- Whether a negation excludes an expression, or its negation, as a whole. Else
it cancels out with another negation or excludes each alternative. -/
def whole (negated : Bool) : Expr → Bool
  | leaf _ _ | boosted _ _ | bool .and _ => !negated
  | bool .or _ => false
  | inField _ body => body.whole negated
  | bool .not [only] => only.whole (!negated)
  | bool .not _ => false

end Expr

namespace Resolution

variable {lookup : String → Option FieldMapping} {options : ResolveOptions}
  {scope : Option String} {e : Expr} {es : List Expr}

/-! ## Lists of operands -/

theorem queries_eq_mapM : ∀ es : List Expr,
    queries lookup options scope es = es.mapM (query lookup options scope)
  | [] => by rw [queries, List.mapM_nil]; rfl
  | e :: es => by rw [queries, List.mapM_cons, queries_eq_mapM es]; rfl

theorem queries_eq_ok {qs : List Query} :
    queries lookup options scope es = .ok qs ↔
      List.Forall₂ (fun e q => query lookup options scope e = .ok q) es qs := by
  rw [queries_eq_mapM, mapM_eq_ok]

theorem queries_append (as bs : List Expr) :
    queries lookup options scope (as ++ bs) =
      queries lookup options scope as >>= fun qs =>
        queries lookup options scope bs >>= fun rs => .ok (qs ++ rs) := by
  induction as with
  | nil =>
      rw [List.nil_append, queries]
      exact (bind_pure (queries lookup options scope bs)).symm
  | cons a as ih =>
      simp only [List.cons_append, queries, ih, bind_assoc]
      rfl

/-! ## Conjunctions -/

theorem Signed.must_toQuery (s : Signed) : (positive s.toQuery).must = s.must := by
  cases s <;> rfl

theorem Signed.mustNot_toQuery (s : Signed) :
    (positive s.toQuery).mustNot = s.mustNot := by
  cases s <;> rfl

/-- What an operand contributes, whether it is a negation or not. -/
theorem conjunction_toQuery (ss : List Signed) :
    conjunction (ss.map fun s => .positive s.toQuery) = conjunction ss := by
  simp only [conjunction_eq, List.flatMap_map, Signed.must_toQuery,
    Signed.mustNot_toQuery]

variable (lookup options scope) in
/-- The contribution of an operand to a conjunction. -/
def operand : Expr → Resolved Signed
  | .bool .not [only] => negation lookup options scope only
  | .bool .not operands => (queries lookup options scope operands).map .excluded
  | e => (query lookup options scope e).map .positive

theorem map_toQuery_operand (e : Expr) :
    (operand lookup options scope e).map Signed.toQuery =
      query lookup options scope e := by
  have hpositive : ∀ x : Resolved Query, (x.map Signed.positive).map Signed.toQuery = x := by
    intro x
    cases x <;> rfl
  match e with
  | .leaf _ _ | .inField _ _ | .boosted _ _ | .bool .and _ | .bool .or _ =>
      exact hpositive _
  | .bool .not [only] => simp only [operand, query]
  | .bool .not [] | .bool .not (_ :: _ :: _) =>
      simp only [operand, query, map_map]
      rfl

theorem conjuncts_cons (e : Expr) (es : List Expr) :
    conjuncts lookup options scope (e :: es) =
      operand lookup options scope e >>= fun s =>
        conjuncts lookup options scope es >>= fun ss => .ok (s :: ss) := by
  match e with
  | .leaf _ _ | .inField _ _ | .boosted _ _ | .bool .and _ | .bool .or _
  | .bool .not [] | .bool .not (_ :: _ :: _) =>
      simp only [conjuncts, operand, map_bind]
  | .bool .not [only] => simp only [conjuncts, operand]

theorem map_toQuery_conjuncts : ∀ es : List Expr,
    (conjuncts lookup options scope es).map (List.map Signed.toQuery) =
      queries lookup options scope es
  | [] => by simp only [conjuncts, queries]; rfl
  | e :: es => by
      rw [conjuncts_cons, queries, ← map_toQuery_operand e, ← map_toQuery_conjuncts es]
      cases operand lookup options scope e with
      | error _ => rfl
      | ok s => cases conjuncts lookup options scope es <;> rfl

/-- A conjunction joins the queries of its operands. -/
theorem query_and (es : List Expr) :
    query lookup options scope (.bool .and es) =
      (queries lookup options scope es).map fun qs =>
        conjunction (qs.map .positive) := by
  rw [query, ← map_toQuery_conjuncts, map_map]
  simp only [List.map_map, Function.comp_def, conjunction_toQuery]

/-! ## Negations -/

theorem query_not (e : Expr) :
    query lookup options scope e.not =
      (negation lookup options scope e).map Signed.toQuery := by
  simp only [Expr.not, query]

theorem query_many (h : es.length ≠ 1) :
    query lookup options scope (.bool .not es) =
      (queries lookup options scope es).map exclusion := by
  match es with
  | [] | _ :: _ :: _ => simp only [query]
  | [_] => exact absurd rfl h

/-- Two negations cancel out. -/
theorem query_not_not (e : Expr) :
    query lookup options scope e.not.not = query lookup options scope e := by
  rw [query_not, Expr.not, negation, map_map]
  cases query lookup options scope e <;> rfl

theorem query_not_many (h : es.length ≠ 1) :
    query lookup options scope (Expr.not (.bool .not es)) =
      (queries lookup options scope es).map disjunction := by
  rw [query_not]
  match es with
  | [] | _ :: _ :: _ => simp only [negation, map_map]; rfl
  | [_] => exact absurd rfl h

/-- A negated disjunction excludes each of its alternatives. -/
theorem query_not_or (es : List Expr) :
    query lookup options scope (Expr.not (.bool .or es)) =
      (queries lookup options scope es).map exclusion := by
  rw [query_not, negation, map_map]
  rfl

theorem query_not_inField (name : String) (body : Expr) :
    query lookup options scope (Expr.not (.inField name body)) =
      query lookup options (some name) body.not := by
  rw [query_not, query_not, negation]

theorem query_not_leaf (field : Option String) (literal : Literal) :
    query lookup options scope (Expr.not (.leaf field literal)) =
      (query lookup options scope (.leaf field literal)).map fun q => exclusion [q] := by
  rw [query_not, negation, query, map_map]
  rfl

theorem query_not_and (es : List Expr) :
    query lookup options scope (Expr.not (.bool .and es)) =
      (query lookup options scope (.bool .and es)).map fun q => exclusion [q] := by
  rw [query_not, negation, query, map_map, map_map]
  rfl

theorem query_not_boosted (body : Expr) (factor : Single) :
    query lookup options scope (Expr.not (.boosted body factor)) =
      (query lookup options scope (.boosted body factor)).map fun q => exclusion [q] := by
  rw [query_not, negation, query, map_map, map_map]
  rfl

/-- A scope around an expression, negated or not. -/
theorem query_signed_inField (negated : Bool) (name : String) (body : Expr) :
    query lookup options scope (Expr.signed negated (.inField name body)) =
      query lookup options (some name) (body.signed negated) := by
  cases negated with
  | false => exact query.eq_def _ _ _ _
  | true => exact query_not_inField name body

/-- A negation of an expression, negated itself or not. -/
theorem query_signed_not (negated : Bool) (e : Expr) :
    query lookup options scope (e.not.signed negated) =
      query lookup options scope (e.signed (!negated)) := by
  cases negated with
  | false => rfl
  | true => exact query_not_not e

theorem query_signed_of_whole : ∀ (negated : Bool) {scope : Option String} (e : Expr),
    e.whole negated = true →
      query lookup options scope (e.signed (!negated)) =
        (query lookup options scope (e.signed negated)).map fun q => exclusion [q]
  | false, _, .leaf field literal, _ => query_not_leaf field literal
  | false, _, .boosted body factor, _ => query_not_boosted body factor
  | false, _, .bool .and es, _ => query_not_and es
  | negated, _, .inField name body, h => by
      rw [query_signed_inField, query_signed_inField]
      exact query_signed_of_whole negated body h
  | negated, _, .bool .not [only], h => by
      rw [← Expr.not, query_signed_not, query_signed_not]
      exact query_signed_of_whole (!negated) only h

/-- An expression that is excluded as a whole. -/
theorem query_not_of_whole (h : e.whole false = true) :
    query lookup options scope e.not =
      (query lookup options scope e).map fun q => exclusion [q] :=
  query_signed_of_whole false e h

end Resolution

end Searchlight
