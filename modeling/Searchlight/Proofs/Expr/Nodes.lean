import Searchlight.Proofs.Expr.Shape

/-!
# Nodes of expressions

The nodes of an expression, and the paths from its root to its leaves. A path is
bounded by two numbers: how many nodes it has, and how many of them are
negations or field scopes. Joining operands adds one node to a path at most, and
no negation and no scope.
-/

namespace Searchlight

namespace Expr

mutual

/-- An expression and all its parts. -/
def nodes : Expr → List Expr
  | leaf field literal => [leaf field literal]
  | inField field body => inField field body :: nodes body
  | bool op operands => bool op operands :: nodesAll operands
  | boosted body factor => boosted body factor :: nodes body

def nodesAll : List Expr → List Expr
  | [] => []
  | e :: rest => nodes e ++ nodesAll rest

end

theorem mem_nodesAll {x : Expr} : ∀ {es : List Expr},
    x ∈ nodesAll es ↔ ∃ e ∈ es, x ∈ e.nodes
  | [] => by simp [nodesAll]
  | e :: es => by simp [nodesAll, @mem_nodesAll x es]

/-- The node itself names a field. -/
def namesField : Expr → Bool
  | leaf field _ => field.isSome
  | inField _ _ => true
  | bool _ _ | boosted _ _ => false

mutual

/-- Where no part names a field, no node does. -/
theorem namesField_of_mem_nodes : ∀ {e : Expr}, e.hasFieldScope = false →
    ∀ x ∈ e.nodes, x.namesField = false
  | leaf field literal, h, x, hx => by
      obtain rfl := List.mem_singleton.mp hx
      exact h
  | inField _ _, h, _, _ => by cases h
  | bool _ _, h, x, hx => by
      rcases List.mem_cons.mp hx with rfl | hx
      · rfl
      · exact namesField_of_mem_nodesAll h x hx
  | boosted body _, h, x, hx => by
      rcases List.mem_cons.mp hx with rfl | hx
      · rfl
      · exact namesField_of_mem_nodes (e := body) h x hx

theorem namesField_of_mem_nodesAll : ∀ {es : List Expr}, anyFieldScope es = false →
    ∀ x ∈ nodesAll es, x.namesField = false
  | [], _, x, hx => absurd hx List.not_mem_nil
  | e :: es, h, x, hx => by
      obtain ⟨he, hes⟩ := Bool.or_eq_false_iff.mp h
      rcases List.mem_append.mp hx with hx | hx
      · exact namesField_of_mem_nodes he x hx
      · exact namesField_of_mem_nodesAll hes x hx

end

/-! ## Paths -/

mutual

/-- The nodes from the root to a leaf, for each leaf. -/
def paths : Expr → List (List Expr)
  | leaf field literal => [[leaf field literal]]
  | inField field body => (paths body).map (inField field body :: ·)
  | bool op operands => (pathsAll operands).map (bool op operands :: ·)
  | boosted body factor => (paths body).map (boosted body factor :: ·)

def pathsAll : List Expr → List (List Expr)
  | [] => []
  | e :: rest => paths e ++ pathsAll rest

end

theorem mem_pathsAll {path : List Expr} : ∀ {es : List Expr},
    path ∈ pathsAll es ↔ ∃ e ∈ es, path ∈ e.paths
  | [] => by simp [pathsAll]
  | e :: es => by simp [pathsAll, @mem_pathsAll path es]

/-- A negation or a field scope. -/
def opensLevel : Expr → Bool
  | bool .not _ | inField _ _ => true
  | _ => false

/-- Every path has at most `height` nodes, and at most `levels` of them are
negations or field scopes. -/
def Bounded (height levels : Nat) (e : Expr) : Prop :=
  ∀ path ∈ e.paths, path.length ≤ height ∧ path.countP opensLevel ≤ levels

variable {height height' levels levels' : Nat} {e : Expr}

theorem Bounded.mono (h : Bounded height levels e) (hh : height ≤ height')
    (hl : levels ≤ levels') : Bounded height' levels' e := by
  intro path hpath
  obtain ⟨hlength, hcount⟩ := h path hpath
  exact ⟨Nat.le_trans hlength hh, Nat.le_trans hcount hl⟩

theorem bounded_leaf (field : Option String) (literal : Literal) :
    Bounded 1 0 (leaf field literal) := by
  intro path hpath
  obtain rfl : path = [leaf field literal] := by simpa [paths] using hpath
  exact ⟨Nat.le_refl 1, Nat.le_refl 0⟩

theorem Bounded.boosted (h : Bounded height levels e) (factor : Single) :
    Bounded (height + 1) levels (boosted e factor) := by
  intro path hpath
  obtain ⟨rest, hrest, rfl⟩ := List.mem_map.mp hpath
  obtain ⟨hlength, hcount⟩ := h rest hrest
  exact ⟨Nat.succ_le_succ hlength, by simpa [opensLevel] using hcount⟩

theorem Bounded.inField (h : Bounded height levels e) (field : String) :
    Bounded (height + 1) (levels + 1) (inField field e) := by
  intro path hpath
  obtain ⟨rest, hrest, rfl⟩ := List.mem_map.mp hpath
  obtain ⟨hlength, hcount⟩ := h rest hrest
  rw [List.countP_cons_of_pos rfl]
  exact ⟨Nat.succ_le_succ hlength, Nat.succ_le_succ hcount⟩

theorem Bounded.not (h : Bounded height levels e) :
    Bounded (height + 1) (levels + 1) e.not := by
  intro path hpath
  obtain ⟨rest, hrest, rfl⟩ := List.mem_map.mp hpath
  obtain ⟨x, hx, hin⟩ := mem_pathsAll.mp hrest
  obtain rfl := List.mem_singleton.mp hx
  obtain ⟨hlength, hcount⟩ := h rest hin
  rw [List.countP_cons_of_pos rfl]
  exact ⟨Nat.succ_le_succ hlength, Nat.succ_le_succ hcount⟩

/-- What an operand contributes to a group is no higher than the operand. -/
theorem Bounded.spliced (h : Bounded height levels e) (op : BoolOp) :
    ∀ x ∈ spliced op e, Bounded height levels x := by
  intro x hx
  rcases spliced_cases op e with ⟨operands, rfl, hs⟩ | ⟨-, hs⟩
  · intro path hpath
    have hmem : path ∈ pathsAll operands := mem_pathsAll.mpr ⟨x, hs ▸ hx, hpath⟩
    obtain ⟨hlength, hcount⟩ := h (bool op operands :: path) (List.mem_map_of_mem hmem)
    rw [List.countP_cons] at hcount
    exact ⟨Nat.le_of_succ_le hlength, Nat.le_of_add_right_le hcount⟩
  · rw [hs] at hx
    obtain rfl := List.mem_singleton.mp hx
    exact h

/-- Joining operands adds one node. -/
theorem bounded_group {op : BoolOp} (hop : op ≠ .not) {operands : List Expr}
    (h : ∀ e ∈ operands, Bounded height levels e) :
    Bounded (height + 1) levels (group op operands) := by
  have hall : ∀ x ∈ operands.flatMap (Expr.spliced op), Bounded height levels x := by
    intro x hx
    obtain ⟨e, he, hx⟩ := List.mem_flatMap.mp hx
    exact (h e he).spliced op x hx
  rcases group_cases op operands with hg | ⟨-, hg⟩
  · exact (hall _ (by simp [hg])).mono (Nat.le_succ _) (Nat.le_refl _)
  · rw [hg]
    intro path hpath
    obtain ⟨rest, hrest, rfl⟩ := List.mem_map.mp hpath
    obtain ⟨x, hx, hrest⟩ := mem_pathsAll.mp hrest
    obtain ⟨hlength, hcount⟩ := hall x hx rest hrest
    have hnone : opensLevel (bool op (operands.flatMap (Expr.spliced op))) = false := by
      cases op with
      | not => exact absurd rfl hop
      | and => rfl
      | or => rfl
    exact ⟨Nat.succ_le_succ hlength, by simpa [hnone] using hcount⟩

end Expr

/-! ## Expressions of derivations -/

namespace Grammar

open Searchlight.Expr

theorem bounded_withBoost {height levels : Nat} {e : Expr} (h : Bounded height levels e)
    (factor : Option Single) : Bounded (height + 1) levels (withBoost e factor) := by
  cases factor with
  | none => exact h.mono (Nat.le_succ _) (Nat.le_refl _)
  | some x => exact h.boosted x

theorem bounded_inScope {height levels : Nat} {e : Expr} (h : Bounded height levels e)
    (field : Option String) :
    Bounded (height + 1) (levels + 1) (inScope field e) := by
  cases field with
  | none => exact h.mono (Nat.le_succ _) (Nat.le_succ _)
  | some name => exact h.inField name

mutual

/-- A disjunction and a conjunction above the operands of each level, and a
scope and a factor around each group. -/
theorem Disjunct.bounded : ∀ {d : Disjunct},
    ∀ e ∈ d.exprs, Bounded (4 * d.levels + 3) d.levels e
  | .last c, e, he => by
      obtain rfl := List.mem_singleton.mp he
      exact bounded_group (by decide) Conjunct.bounded
  | .or c d, e, he => by
      have hc : c.levels ≤ (Disjunct.or c d).levels := Nat.le_max_left _ _
      have hd : d.levels ≤ (Disjunct.or c d).levels := Nat.le_max_right _ _
      rcases List.mem_cons.mp he with rfl | he
      · exact (bounded_group (by decide) Conjunct.bounded).mono (by omega) hc
      · exact (Disjunct.bounded e he).mono (by omega) hd

theorem Conjunct.bounded : ∀ {c : Conjunct},
    ∀ e ∈ c.exprs, Bounded (4 * c.levels + 2) c.levels e
  | .last o, e, he => by
      obtain rfl := List.mem_singleton.mp he
      exact Operand.bounded o
  | .and written o c, e, he => by
      have ho : o.levels ≤ (Conjunct.and written o c).levels := Nat.le_max_left _ _
      have hc : c.levels ≤ (Conjunct.and written o c).levels := Nat.le_max_right _ _
      rcases List.mem_cons.mp he with rfl | he
      · exact (Operand.bounded o).mono (by omega) ho
      · exact (Conjunct.bounded e he).mono (by omega) hc

theorem Operand.bounded : ∀ o : Operand, Bounded (4 * o.levels + 2) o.levels o.expr
  | .not o => by
      have hlevels : (Operand.not o).levels = o.levels + 1 := rfl
      exact (Operand.bounded o).not.mono (by omega) (by omega)
  | .field name b => Body.bounded b name
  | .boosted b => Boosted.bounded b none

theorem Body.bounded : ∀ (b : Body) (name : String),
    Bounded (4 * b.levels + 2) b.levels (b.expr name)
  | .comparison c v, name =>
      (bounded_leaf (some name) (Parse.comparison c v.text)).mono (by omega) (Nat.le_refl 0)
  | .boosted b, name => Boosted.bounded b (some name)

theorem Boosted.bounded : ∀ (b : Boosted) (field : Option String),
    Bounded (4 * b.levels + 2) b.levels (b.expr field)
  | .leaf l factor, field =>
      bounded_withBoost (bounded_leaf field l.literal) factor
  | .group d factor, field => by
      have hlevels : (Boosted.group d factor).levels = d.levels + 1 := rfl
      have hd : Bounded (4 * d.levels + 4) d.levels (.or d.exprs) :=
        bounded_group (by decide) Disjunct.bounded
      exact (bounded_withBoost (bounded_inScope hd field) factor).mono (by omega) (by omega)

end

/-- Four nodes for each level, and four more. -/
theorem Disjunct.bounded_expr (d : Disjunct) :
    Bounded (4 * d.levels + 4) d.levels d.expr :=
  bounded_group (by decide) Disjunct.bounded

end Grammar

end Searchlight
