import Mathlib.Order.MinMax
import Searchlight.Expr.Canonical
import Searchlight.Proofs.Expr.Shape

/-!
# Nesting of canonical texts

How many groups and negations a canonical text opens inside each other depends
on where it is written: a group that its context binds tighter is put into
parentheses. The text never opens more than the query did that the expression
comes from, since joining operands of one kind removes parentheses and writing
them adds none.
-/

namespace Searchlight

open Grammar Canonical

namespace Expr

def signNesting : BoolOp → Nat
  | .not => 1
  | .and | .or => 0

mutual

/-- How many groups and negations the canonical text opens inside each other. -/
def nesting (context : Strength) : Expr → Nat
  | leaf _ _ => 0
  | inField _ body => nesting .or body + 1
  | bool op operands =>
      operandsNesting op operands +
        if (strength op operands.length).rank < context.rank then 1 else 0
  | boosted body _ => nesting .atom body

def operandsNesting (op : BoolOp) : List Expr → Nat
  | [] => 0
  | e :: rest =>
      max (nesting (operandStrength op) e + signNesting op)
        (operandsNesting op rest)

end

theorem operandsNesting_le_iff {op : BoolOp} {n : Nat} : ∀ {es : List Expr},
    operandsNesting op es ≤ n ↔
      ∀ e ∈ es, nesting (operandStrength op) e + signNesting op ≤ n
  | [] => by simp [operandsNesting]
  | e :: es => by simp [operandsNesting, @operandsNesting_le_iff op n es]

theorem operandsNesting_singleton (op : BoolOp) (e : Expr) :
    operandsNesting op [e] =
      nesting (operandStrength op) e + signNesting op := by
  simp [operandsNesting]

theorem nesting_mono {a b : Strength} (h : a.rank ≤ b.rank) (e : Expr) :
    nesting a e ≤ nesting b e := by
  cases e with
  | bool op operands =>
      simp only [nesting]
      split <;> split <;> omega
  | _ => exact Nat.le_refl _

/-- One more level is enough for every context. -/
theorem nesting_le_succ (a b : Strength) (e : Expr) :
    nesting a e ≤ nesting b e + 1 := by
  cases e with
  | bool op operands =>
      simp only [nesting]
      split <;> split <;> omega
  | _ => exact Nat.le_succ _

theorem strength_eq {op : BoolOp} (hop : op ≠ .not) (n : Nat) :
    strength op n = strength op 0 := by
  cases op with
  | not => exact absurd rfl hop
  | and => rfl
  | or => rfl

/-- Joining saves levels: an operand of the same kind loses its parentheses. -/
theorem nesting_group (op : BoolOp) (hop : op ≠ .not) {n : Nat}
    {operands : List Expr}
    (h : ∀ e ∈ operands, nesting (operandStrength op) e ≤ n) :
    nesting (strength op 0) (group op operands) ≤ n := by
  have hsign : signNesting op = 0 := by
    cases op <;> first | rfl | exact absurd rfl hop
  have hlt : (strength op 0).rank < (operandStrength op).rank := by
    cases op <;> first | decide | exact absurd rfl hop
  have hall : ∀ x ∈ operands.flatMap (spliced op),
      nesting (operandStrength op) x ≤ n := by
    intro x hx
    obtain ⟨e, he, hx⟩ := List.mem_flatMap.mp hx
    rcases spliced_cases op e with ⟨inner, rfl, hs⟩ | ⟨-, hs⟩
    -- the operand counted its parentheses, which its own operands do not need
    · have hle := h _ he
      rw [nesting, strength_eq hop, if_pos hlt] at hle
      have hx := operandsNesting_le_iff.mp (Nat.le_of_succ_le hle) x (hs ▸ hx)
      exact Nat.le_of_add_right_le hx
    · obtain rfl := List.mem_singleton.mp (hs ▸ hx)
      exact h x he
  rcases group_cases op operands with hg | ⟨-, hg⟩
  · exact Nat.le_trans (nesting_mono (Nat.le_of_lt hlt) _)
      (hall _ (by simp [hg]))
  · rw [hg, nesting, strength_eq hop, if_neg (Nat.lt_irrefl _)]
    refine operandsNesting_le_iff.mpr fun x hx => ?_
    rw [hsign]
    exact hall x hx

theorem nesting_withBoost (e : Expr) (factor : Option Single) :
    nesting .unary (withBoost e factor) ≤ nesting .or e + 1 := by
  cases factor with
  | none => exact nesting_le_succ _ _ e
  | some x => exact nesting_le_succ _ _ e

end Expr

namespace Grammar

open Searchlight.Expr

mutual

theorem Disjunct.nesting_le : ∀ {d : Disjunct}, ∀ e ∈ d.exprs,
    nesting .and e ≤ d.levels
  | .last c, e, he => by
      obtain rfl := List.mem_singleton.mp he
      exact nesting_group .and (by decide) Conjunct.nesting_le
  | .or c d, e, he => by
      rcases List.mem_cons.mp he with rfl | he
      · exact le_max_of_le_left
          (nesting_group .and (by decide) Conjunct.nesting_le)
      · exact le_max_of_le_right (Disjunct.nesting_le e he)

theorem Conjunct.nesting_le : ∀ {c : Conjunct}, ∀ e ∈ c.exprs,
    nesting .unary e ≤ c.levels
  | .last o, e, he => by
      obtain rfl := List.mem_singleton.mp he
      exact Operand.nesting_le o
  | .and _ o c, e, he => by
      rcases List.mem_cons.mp he with rfl | he
      · exact le_max_of_le_left (Operand.nesting_le o)
      · exact le_max_of_le_right (Conjunct.nesting_le e he)

theorem Operand.nesting_le : ∀ o : Operand, nesting .unary o.expr ≤ o.levels
  | .not o => by
      have ho := Nat.succ_le_succ (Operand.nesting_le o)
      simpa [Operand.expr, Expr.not, nesting, operandsNesting_singleton, strength,
        operandStrength, signNesting, Operand.levels] using ho
  | .field name b => Body.nesting_le b name
  | .boosted b => Boosted.nesting_le b none

theorem Body.nesting_le : ∀ (b : Body) (name : String),
    nesting .unary (b.expr name) ≤ b.levels
  | .comparison _ _, _ => Nat.le_refl 0
  | .boosted b, name => Boosted.nesting_le b (some name)

theorem Boosted.nesting_le : ∀ (b : Boosted) (field : Option String),
    nesting .unary (b.expr field) ≤ b.levels
  | .leaf l factor, field => by
      cases factor <;> exact Nat.le_refl 0
  | .group d factor, field => by
      have hd : nesting .or (.or d.exprs) ≤ d.levels :=
        nesting_group .or (by decide) Disjunct.nesting_le
      cases field with
      | none =>
          exact Nat.le_trans (nesting_withBoost _ factor) (Nat.succ_le_succ hd)
      | some name => cases factor <;> exact Nat.succ_le_succ hd

end

theorem Disjunct.nesting_expr_le (d : Disjunct) :
    nesting .or d.expr ≤ d.levels :=
  nesting_group .or (by decide) Disjunct.nesting_le

end Grammar

end Searchlight
