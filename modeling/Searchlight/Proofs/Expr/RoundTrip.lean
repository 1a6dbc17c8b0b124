import Searchlight.Proofs.Expr.Derivation
import Searchlight.Proofs.Grammar.Adjacent

/-!
# Canonical texts are read back

The canonical text of what a query stands for is a query for the same
expression. The exceptions are misread expressions: their texts are scanned like
all others, but have two tokens side by side that fit into no query. So a
canonical text is never read as something else.
-/

namespace Searchlight

open Scan Grammar Canonical

/-! ## Misread expressions -/

theorem Bound.Misread.kinds {b : Bound String} (h : b.Misread) :
    boundKinds b = [] ∨ boundKinds b = [.term "TO"] := by
  cases b with
  | unbounded => rcases h with h | h <;> cases h
  | inclusive v => rcases h with h | h <;> cases h <;> simp [boundKinds]
  | exclusive v => rcases h with h | h <;> cases h <;> simp [boundKinds]

/-- A misread bound brings the separator next to a bracket. -/
theorem Literal.Misread.not_chained {l : Literal} (h : l.Misread) :
    ¬Chained (literalKinds l) := by
  intro hall
  cases l with
  | range lower upper =>
      rcases h with h | h
      · have hopen : ¬follows (.openRange (isClosed lower)) (.term "TO") = true := by
          simp [follows]
        rcases h.kinds with hk | hk
        · rw [literalKinds, hk] at hall
          exact hopen (List.isChain_cons_cons.mp hall).1
        · rw [literalKinds, hk] at hall
          exact hopen (List.isChain_cons_cons.mp hall).1
      · have hclose : ¬Chained [.term "TO", .closeRange (isClosed upper)] := by
          simp [Chained, follows]
        refine hclose (hall.suffix ?_)
        rcases h.kinds with hk | hk
        · exact ⟨.openRange (isClosed lower) :: boundKinds lower,
            by simp [literalKinds, hk]⟩
        · exact ⟨.openRange (isClosed lower) :: boundKinds lower ++ [.term "TO"],
            by simp [literalKinds, hk]⟩
  | _ => exact h.elim

theorem infix_intercalate {α : Type} (sep : List α) {x : List α} :
    ∀ {xs : List (List α)}, x ∈ xs → x <:+: sep.intercalate xs
  | [_], hx => by
      obtain rfl := List.mem_singleton.mp hx
      exact (List.intercalate_singleton).symm ▸ List.infix_rfl
  | first :: second :: xs, hx => by
      rw [List.intercalate_cons_cons, List.append_assoc]
      rcases List.mem_cons.mp hx with rfl | hx
      · exact (List.prefix_append _ _).isInfix
      · exact (infix_intercalate sep hx).trans
          ((List.suffix_append _ _).trans (List.suffix_append _ _)).isInfix

namespace Expr

mutual

theorem Misread.not_chained (context : Strength) : ∀ {e : Expr}, e.Misread →
    ¬Chained (kinds context e)
  | leaf none _, h, hall => Literal.Misread.not_chained h hall
  | leaf (some _) _, h, hall =>
      Literal.Misread.not_chained h (List.IsChain.tail hall)
  | inField field body, h, hall => by
      refine Misread.not_chained .or (e := body) h (hall.within ?_)
      exact ⟨[.field field, .openGroup], [.closeGroup],
        by simp [kinds, groupKinds]⟩
  | bool op operands, h, hall => by
      obtain ⟨ks, hmem, hks⟩ := AnyMisread.exists_not_chained op h
      have hinner := infix_intercalate (separatorKinds op) hmem
      refine hks (hall.within ?_)
      rw [kinds]
      split
      · exact hinner.trans ⟨[.openGroup], [.closeGroup], rfl⟩
      · exact hinner
  | boosted body factor, .inl h, hall => by
      cases body with
      | boosted inner factor' =>
          have hpair : ¬Chained [.boost factor', .boost factor] := by
            simp [Chained, follows]
          exact hpair (hall.suffix ⟨kinds .atom inner, by simp [kinds]⟩)
      | _ => cases h
  | boosted body _, .inr h, hall =>
      Misread.not_chained .atom h (hall.within (List.prefix_append _ _).isInfix)

theorem AnyMisread.exists_not_chained (op : BoolOp) : ∀ {es : List Expr},
    AnyMisread es → ∃ ks ∈ operandKinds op es, ¬Chained ks
  | e :: _, .inl h => by
      refine ⟨_, List.mem_cons_self, fun hall => ?_⟩
      exact Misread.not_chained (operandStrength op) (e := e) h
        (hall.suffix (List.suffix_append _ _))
  | _ :: _, .inr h => by
      obtain ⟨ks, hmem, hks⟩ := AnyMisread.exists_not_chained op h
      exact ⟨ks, List.mem_cons_of_mem _ hmem, hks⟩

end

/-! ## Reading canonical texts -/

variable {e : Expr}

theorem lexes_queryString (hs : e.Shaped) (h : e.Spellable) :
    Lexes {} e.queryString.toList (kinds .or e) := by
  rw [queryString, String.toList_ofList]
  exact (h.reads .or hs).lexes

theorem parseQuery_of_derivable (hs : e.Shaped) (h : e.Spellable)
    (hd : e.Derivable) (hdepth : nesting .or e ≤ maxDepth) :
    parseQuery e.queryString = .ok (some e) :=
  hd.disjunct.parsed hdepth (lexes_queryString hs h)

/-- Tokens that do not fit are no query and are not nothing. -/
theorem parseQuery_of_not_chained (hs : e.Shaped) (h : e.Spellable)
    (hchain : ¬Chained (kinds .or e)) :
    ∃ p, parseQuery e.queryString = .error (.parse p) := by
  obtain ⟨ts, htok, hts⟩ := tokenize_eq_ok_iff.mpr (lexes_queryString hs h)
  cases hq : Parse.query ts with
  | error stop => exact ⟨_, parseQuery_of_stop htok hq⟩
  | ok result =>
      cases result with
      | some e' =>
          obtain ⟨d, hk, ha, -, -⟩ := query_eq_ok_some_iff.mp hq
          rw [← hts, ← hk] at hchain
          exact absurd (Disjunct.chained_kinds ha) hchain
      | none =>
          obtain rfl := query_eq_ok_none_iff.mp hq
          rw [← hts] at hchain
          exact absurd .nil hchain

end Expr

/-- **Canonical query strings are read back.** They stand for the expression
that they were written for, or are refused by the parser. Refused are those of
misread expressions, and only those. -/
theorem parseQuery_queryString {query : String} {e : Expr}
    (h : parseQuery query = .ok (some e)) :
    (¬e.Misread → parseQuery e.queryString = .ok (some e)) ∧
      (e.Misread → ∃ p, parseQuery e.queryString = .error (.parse p)) := by
  have hs := shaped_of_parseQuery h
  have hspell := spellable_of_parseQuery h
  constructor
  · intro hread
    obtain ⟨ts, d, -, -, -, hl, rfl⟩ := parseQuery_eq_ok_some_iff.mp h
    exact Expr.parseQuery_of_derivable hs hspell (Expr.derivable hs hspell hread)
      (d.nesting_expr_le.trans hl)
  · intro hmis
    exact Expr.parseQuery_of_not_chained hs hspell (hmis.not_chained .or)

/-- A query that is read back, and one with a quoted bound that cannot be
written bare. -/
theorem parseQuery_queryString_bounds :
    let q₁ := "title:(a OR \"b  c\"~2) -d*"
    let q₂ := "day:[\"TO\" TO *]"
    let e₁ : Expr := .bool .and [
      .inField "title" (.bool .or [.leaf none (.term "a"),
        .leaf none (.phrase "b c" 2)]),
      .not (.leaf none (.wildcard "d*"))]
    let e₂ : Expr :=
      .leaf (some "day") (.range (.inclusive "TO") .unbounded)
    (parseQuery q₁ = .ok (some e₁) ∧ ¬e₁.Misread ∧
      parseQuery e₁.queryString = .ok (some e₁)) ∧
    (parseQuery q₂ = .ok (some e₂) ∧ e₂.Misread ∧
      ∃ p, parseQuery e₂.queryString = .error (.parse p)) := by
  intro q₁ q₂ e₁ e₂
  have h₁ : parseQuery q₁ = .ok (some e₁) := by decide +kernel
  have h₂ : parseQuery q₂ = .ok (some e₂) := by decide +kernel
  have hread : ¬e₁.Misread := by
    simp [e₁, Expr.Misread, Expr.AnyMisread, Expr.not, Literal.Misread]
  have hmis : e₂.Misread := .inl (.inr rfl)
  exact ⟨⟨h₁, hread, (parseQuery_queryString h₁).1 hread⟩,
    h₂, hmis, (parseQuery_queryString h₂).2 hmis⟩

end Searchlight
