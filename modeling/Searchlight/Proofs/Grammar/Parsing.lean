import Searchlight.Proofs.Grammar.Completeness

/-!
# Parsing is derivation

A query is accepted exactly if its tokens have an admissible derivation that
opens no more levels than allowed, and its expression is the one of that
derivation. There is never more than one derivation to choose from.
-/

namespace Searchlight.Grammar

/-- The tokens of a derivation are accepted, or nest too deep. -/
theorem query_outcome {d : Disjunct} (ha : d.Admissible) {ts : List Token}
    (hts : ts.map Token.kind = d.kinds) :
    Outcome (Parse.query ts) (d.levels ≤ maxDepth) (some d.expr) := by
  obtain ⟨k, ks, hk, -⟩ := d.startsWith
  obtain ⟨t, ts, rfl, -⟩ := List.map_eq_cons_iff.mp (hts.trans hk)
  have hnil : Before endsDisjunct (([] : List Token).map Token.kind) :=
    before_nil _
  have hd := d.outcome maxDepth ha hts hnil
  rw [List.append_nil] at hd
  exact hd.bind_ok rfl

/-- The expression of the derivation that the tokens have. -/
theorem query_eq_ok_some_iff {ts : List Token} {e : Expr} :
    Parse.query ts = .ok (some e) ↔
      ∃ d : Disjunct, d.kinds = ts.map Token.kind ∧ d.Admissible ∧
        d.levels ≤ maxDepth ∧ d.expr = e := by
  constructor
  · exact exists_derivation
  · rintro ⟨d, hts, ha, hl, rfl⟩
    exact (query_outcome ha hts.symm).1 hl

theorem query_eq_ok_none_iff {ts : List Token} :
    Parse.query ts = .ok none ↔ ts = [] := by
  constructor
  · intro h
    cases ts with
    | nil => rfl
    | cons t ts =>
        obtain ⟨⟨e, rest⟩, -, h⟩ := bind_eq_ok.mp h
        dsimp only at h
        split at h <;> cases h
  · rintro rfl
    rfl

end Searchlight.Grammar
