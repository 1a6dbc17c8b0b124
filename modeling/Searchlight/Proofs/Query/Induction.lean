import Mathlib.Data.List.Forall2
import Searchlight.Query.Resolution
import Searchlight.Proofs.Result

/-!
# Induction on resolved expressions

What resolving an expression can come to, said once. A relation between
expressions and their queries, with one between the operands of a conjunction
and what they contribute to it, holds of everything that is resolved if it is
kept by each of the ways in which a query is put together.
-/

namespace Searchlight.Resolution

def isNegation : Expr → Bool
  | .bool .not _ => true
  | _ => false

variable (lookup : String → Option FieldMapping) (options : ResolveOptions)

/-- `Q` relates expressions to queries and `S` operands to contributions, both
inside a group scoped to a field. -/
structure Invariant (Q : Option String → Expr → Query → Prop)
    (S : Option String → Expr → Signed → Prop) : Prop where
  leaf : ∀ {scope field literal q},
    leaf lookup options scope field literal = .ok q →
      Q scope (.leaf field literal) q
  inField : ∀ {scope name body q}, Q (some name) body q →
    Q scope (.inField name body) q
  boosted : ∀ {scope body q} (factor : Single), Q scope body q →
    Q scope (.boosted body factor) (q.boosted factor)
  and : ∀ {scope operands ss}, List.Forall₂ (S scope) operands ss →
    Q scope (.bool .and operands) (conjunction ss)
  or : ∀ {scope operands qs}, List.Forall₂ (Q scope) operands qs →
    Q scope (.bool .or operands) (disjunction qs)
  /-- Outside a conjunction a negation stands for itself. -/
  not : ∀ {scope operands s}, S scope (.bool .not operands) s →
    Q scope (.bool .not operands) s.toQuery
  positive : ∀ {scope e q}, isNegation e = false → Q scope e q →
    S scope e (.positive q)
  excluded : ∀ {scope operands qs}, operands.length ≠ 1 →
    List.Forall₂ (Q scope) operands qs →
    S scope (.bool .not operands) (.excluded qs)
  /-- A negation of a negation is the expression itself. -/
  not_not : ∀ {scope e q}, Q scope e q → S scope e.not.not (.positive q)
  not_not_many : ∀ {scope operands qs}, operands.length ≠ 1 →
    List.Forall₂ (Q scope) operands qs →
    S scope (Expr.not (.bool .not operands)) (.positive (disjunction qs))
  not_or : ∀ {scope operands qs}, List.Forall₂ (Q scope) operands qs →
    S scope (Expr.not (.bool .or operands)) (.excluded qs)
  not_inField : ∀ {scope name body s}, S (some name) body.not s →
    S scope (Expr.not (.inField name body)) s
  not_other : ∀ {scope e q}, Q scope e q → S scope e.not (.excluded [q])

variable {lookup options} {Q : Option String → Expr → Query → Prop}
  {S : Option String → Expr → Signed → Prop}

/-- An operand that is no negation contributes its query. -/
theorem Invariant.cons_positive (inv : Invariant lookup options Q S)
    {scope : Option String} {e : Expr} {es : List Expr} {ss : List Signed}
    (he : isNegation e = false)
    (hq : ∀ {q}, query lookup options scope e = .ok q → Q scope e q)
    (hes : ∀ {ss}, conjuncts lookup options scope es = .ok ss →
      List.Forall₂ (S scope) es ss)
    (h : conjuncts lookup options scope (e :: es) = .ok ss) :
    List.Forall₂ (S scope) (e :: es) ss := by
  have hcons : conjuncts lookup options scope (e :: es) =
      (query lookup options scope e >>= fun q =>
        conjuncts lookup options scope es >>= fun ss =>
          .ok (.positive q :: ss)) := by
    rw [conjuncts]
    · rintro only rfl
      simp [isNegation] at he
    · rintro operands rfl
      simp [isNegation] at he
  rw [hcons] at h
  obtain ⟨q, hq', h⟩ := bind_eq_ok.mp h
  obtain ⟨ss', hss, h⟩ := bind_eq_ok.mp h
  obtain rfl := Except.ok.inj h
  exact .cons (inv.positive he (hq hq')) (hes hss)

mutual

theorem Invariant.query (inv : Invariant lookup options Q S) :
    ∀ {scope : Option String} (e : Expr) {q : Query},
      query lookup options scope e = .ok q → Q scope e q
  | scope, .leaf field literal, q, h => by
      rw [Resolution.query] at h
      exact inv.leaf h
  | scope, .inField name body, q, h => by
      rw [Resolution.query] at h
      exact inv.inField (inv.query body h)
  | scope, .boosted body factor, q, h => by
      rw [Resolution.query] at h
      obtain ⟨q', hq, rfl⟩ := map_eq_ok.mp h
      exact inv.boosted factor (inv.query body hq)
  | scope, .bool .and operands, q, h => by
      rw [Resolution.query] at h
      obtain ⟨ss, hs, rfl⟩ := map_eq_ok.mp h
      exact inv.and (inv.conjuncts operands hs)
  | scope, .bool .or operands, q, h => by
      rw [Resolution.query] at h
      obtain ⟨qs, hq, rfl⟩ := map_eq_ok.mp h
      exact inv.or (inv.queries operands hq)
  -- the operands of `not` are split as in the definition, whose equations
  -- hold of each number of operands only
  | scope, .bool .not [], q, h => by
      simp only [Resolution.query] at h
      obtain ⟨qs, hq, rfl⟩ := map_eq_ok.mp h
      exact inv.not (inv.excluded (by simp) (inv.queries [] hq))
  | scope, .bool .not [only], q, h => by
      simp only [Resolution.query] at h
      obtain ⟨s, hs, rfl⟩ := map_eq_ok.mp h
      exact inv.not (inv.negation only hs)
  | scope, .bool .not (a :: b :: operands), q, h => by
      simp only [Resolution.query] at h
      obtain ⟨qs, hq, rfl⟩ := map_eq_ok.mp h
      exact inv.not
        (inv.excluded (by simp) (inv.queries (a :: b :: operands) hq))

theorem Invariant.negation (inv : Invariant lookup options Q S) :
    ∀ {scope : Option String} (e : Expr) {s : Signed},
      negation lookup options scope e = .ok s → S scope e.not s
  | scope, .leaf field literal, s, h => by
      rw [Resolution.negation] at h
      obtain ⟨q, hq, rfl⟩ := map_eq_ok.mp h
      exact inv.not_other (inv.leaf hq)
  | scope, .inField name body, s, h => by
      rw [Resolution.negation] at h
      exact inv.not_inField (inv.negation body h)
  | scope, .boosted body factor, s, h => by
      rw [Resolution.negation] at h
      obtain ⟨q, hq, rfl⟩ := map_eq_ok.mp h
      exact inv.not_other (inv.boosted factor (inv.query body hq))
  | scope, .bool .and operands, s, h => by
      rw [Resolution.negation] at h
      obtain ⟨ss, hs, rfl⟩ := map_eq_ok.mp h
      exact inv.not_other (inv.and (inv.conjuncts operands hs))
  | scope, .bool .or operands, s, h => by
      rw [Resolution.negation] at h
      obtain ⟨qs, hq, rfl⟩ := map_eq_ok.mp h
      exact inv.not_or (inv.queries operands hq)
  | scope, .bool .not [], s, h => by
      simp only [Resolution.negation] at h
      obtain ⟨qs, hq, rfl⟩ := map_eq_ok.mp h
      exact inv.not_not_many (by simp) (inv.queries [] hq)
  | scope, .bool .not [only], s, h => by
      simp only [Resolution.negation] at h
      obtain ⟨q, hq, rfl⟩ := map_eq_ok.mp h
      exact inv.not_not (inv.query only hq)
  | scope, .bool .not (a :: b :: operands), s, h => by
      simp only [Resolution.negation] at h
      obtain ⟨qs, hq, rfl⟩ := map_eq_ok.mp h
      exact inv.not_not_many (by simp) (inv.queries (a :: b :: operands) hq)

theorem Invariant.queries (inv : Invariant lookup options Q S) :
    ∀ {scope : Option String} (es : List Expr) {qs : List Query},
      queries lookup options scope es = .ok qs → List.Forall₂ (Q scope) es qs
  | scope, [], qs, h => by
      obtain rfl : [] = qs := by simpa [Resolution.queries] using h
      exact .nil
  | scope, e :: es, qs, h => by
      rw [Resolution.queries] at h
      obtain ⟨q, hq, h⟩ := bind_eq_ok.mp h
      obtain ⟨qs', hqs, h⟩ := bind_eq_ok.mp h
      obtain rfl := Except.ok.inj h
      exact .cons (inv.query e hq) (inv.queries es hqs)

theorem Invariant.conjuncts (inv : Invariant lookup options Q S) :
    ∀ {scope : Option String} (es : List Expr) {ss : List Signed},
      conjuncts lookup options scope es = .ok ss → List.Forall₂ (S scope) es ss
  | scope, [], ss, h => by
      obtain rfl : [] = ss := by simpa [Resolution.conjuncts] using h
      exact .nil
  | scope, .bool .not [only] :: es, ss, h => by
      rw [Resolution.conjuncts] at h
      obtain ⟨s, hs, h⟩ := bind_eq_ok.mp h
      obtain ⟨ss', hss, h⟩ := bind_eq_ok.mp h
      obtain rfl := Except.ok.inj h
      exact .cons (inv.negation only hs) (inv.conjuncts es hss)
  | scope, .bool .not [] :: es, ss, h => by
      simp only [Resolution.conjuncts] at h
      obtain ⟨qs, hq, h⟩ := bind_eq_ok.mp h
      obtain ⟨ss', hss, h⟩ := bind_eq_ok.mp h
      obtain rfl := Except.ok.inj h
      exact .cons (inv.excluded (by simp) (inv.queries [] hq))
        (inv.conjuncts es hss)
  | scope, .bool .not (a :: b :: operands) :: es, ss, h => by
      simp only [Resolution.conjuncts] at h
      obtain ⟨qs, hq, h⟩ := bind_eq_ok.mp h
      obtain ⟨ss', hss, h⟩ := bind_eq_ok.mp h
      obtain rfl := Except.ok.inj h
      exact .cons
        (inv.excluded (by simp) (inv.queries (a :: b :: operands) hq))
        (inv.conjuncts es hss)
  | scope, .leaf field literal :: es, ss, h =>
      inv.cons_positive rfl (inv.query (.leaf field literal)) (inv.conjuncts es) h
  | scope, .inField name body :: es, ss, h =>
      inv.cons_positive rfl (inv.query (.inField name body)) (inv.conjuncts es) h
  | scope, .boosted body factor :: es, ss, h =>
      inv.cons_positive rfl (inv.query (.boosted body factor))
        (inv.conjuncts es) h
  | scope, .bool .and operands :: es, ss, h =>
      inv.cons_positive rfl (inv.query (.bool .and operands))
        (inv.conjuncts es) h
  | scope, .bool .or operands :: es, ss, h =>
      inv.cons_positive rfl (inv.query (.bool .or operands))
        (inv.conjuncts es) h

end

end Searchlight.Resolution
