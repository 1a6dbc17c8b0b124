import Mathlib.Data.List.Infix
import Searchlight.Proofs.Expr.Shape

/-!
# Field names inside groups

A group behind a field name may hold no further field name. On the tokens this
is a matter of parentheses: a field name nests in another one if it stands
behind the parenthesis that the other one precedes, and that parenthesis has not
been closed in between. Derivations close what they open, and so the tokens of a
group that holds no field name are those of an expression without field scopes.
-/

namespace Searchlight.Grammar

open Searchlight.Expr

/-! ## Parentheses -/

/-- Groups that a token opens; a closing parenthesis takes one back. -/
def opened : TokenKind → Int
  | .openGroup => 1
  | .closeGroup => -1
  | _ => 0

/-- Groups that are left open at the end. -/
def depth : List TokenKind → Int
  | [] => 0
  | k :: ks => opened k + depth ks

@[simp] theorem depth_nil : depth [] = 0 := rfl

@[simp] theorem depth_cons (k : TokenKind) (ks : List TokenKind) :
    depth (k :: ks) = opened k + depth ks := rfl

@[simp] theorem depth_append (ks ls : List TokenKind) :
    depth (ks ++ ls) = depth ks + depth ls := by
  induction ks with
  | nil => simp
  | cons k ks ih => rw [List.cons_append, depth_cons, depth_cons, ih, Int.add_assoc]

/-- No parenthesis is closed that was opened before these tokens. -/
def StaysInside (ks : List TokenKind) : Prop :=
  ∀ front, front <+: ks → 0 ≤ depth front

theorem StaysInside.of_prefix {ks ls : List TokenKind} (h : StaysInside ls)
    (hks : ks <+: ls) : StaysInside ks :=
  fun front hfront => h front (hfront.trans hks)

/-- Every parenthesis has its counterpart. -/
structure Balanced (ks : List TokenKind) : Prop where
  inside : StaysInside ks
  even : depth ks = 0

/-- A prefix of two texts ends in the first one or in the second one. -/
theorem prefix_append_cases {ks ls front : List TokenKind} (h : front <+: ks ++ ls) :
    front <+: ks ∨ ∃ more, more <+: ls ∧ front = ks ++ more := by
  rcases List.prefix_or_prefix_of_prefix h (List.prefix_append ks ls) with hks | ⟨more, rfl⟩
  · exact .inl hks
  · exact .inr ⟨more, (List.prefix_append_right_inj ks).mp h, rfl⟩

theorem balanced_nil : Balanced [] where
  inside front hfront := by
    rw [List.prefix_nil.mp hfront]
    exact Int.le_refl 0
  even := rfl

theorem Balanced.append {ks ls : List TokenKind} (h : Balanced ks) (h' : Balanced ls) :
    Balanced (ks ++ ls) where
  inside front hfront := by
    rcases prefix_append_cases hfront with hks | ⟨more, hmore, rfl⟩
    · exact h.inside front hks
    · rw [depth_append, h.even, Int.zero_add]
      exact h'.inside more hmore
  even := by rw [depth_append, h.even, h'.even, Int.zero_add]

theorem Balanced.cons {k : TokenKind} {ks : List TokenKind} (hk : opened k = 0)
    (h : Balanced ks) : Balanced (k :: ks) where
  inside front hfront := by
    rcases List.prefix_cons_iff.mp hfront with rfl | ⟨front, rfl, hks⟩
    · exact Int.le_refl 0
    · rw [depth_cons, hk, Int.zero_add]
      exact h.inside front hks
  even := by rw [depth_cons, hk, h.even, Int.zero_add]

theorem Balanced.group {ks : List TokenKind} (h : Balanced ks) :
    Balanced (.openGroup :: ks ++ [.closeGroup]) where
  inside front hfront := by
    rw [List.cons_append] at hfront
    rcases List.prefix_cons_iff.mp hfront with rfl | ⟨front, rfl, hrest⟩
    · exact Int.le_refl 0
    · rcases prefix_append_cases hrest with hks | ⟨close, hclose, rfl⟩
      · have hfront := h.inside front hks
        simp only [depth_cons, opened]
        omega
      · rcases List.prefix_cons_iff.mp hclose with rfl | ⟨none, rfl, hnone⟩
        · simp [opened, h.even]
        · simp [opened, h.even, List.prefix_nil.mp hnone]
  even := by simp [opened, h.even]

/-! ## Derivations -/

theorem Plain.opened_kind (v : Plain) : opened v.kind = 0 := by
  cases v <;> rfl

theorem Edge.opened_kind (e : Edge) : opened e.kind = 0 := by
  cases e with
  | value v => exact v.opened_kind
  | star => rfl

theorem balanced_tildeKinds (tilde : Option (Option Nat)) :
    Balanced (Leaf.tildeKinds tilde) := by
  cases tilde with
  | none => exact balanced_nil
  | some distance => exact balanced_nil.cons rfl

theorem Leaf.balanced : ∀ l : Leaf, Balanced l.kinds
  | .term _ tilde | .phrase _ tilde => (balanced_tildeKinds tilde).cons rfl
  | .wildcard _ | .regex _ => balanced_nil.cons rfl
  | .range _ lower upper _ =>
      ((((balanced_nil.cons rfl).cons upper.opened_kind).cons rfl).cons
        lower.opened_kind).cons rfl

theorem balanced_boostKinds (factor : Option Single) : Balanced (boostKinds factor) := by
  cases factor with
  | none => exact balanced_nil
  | some x => exact balanced_nil.cons rfl

theorem balanced_andKinds (written : Bool) : Balanced (andKinds written) := by
  cases written with
  | false => exact balanced_nil
  | true => exact balanced_nil.cons rfl

mutual

theorem Disjunct.balanced : ∀ d : Disjunct, Balanced d.kinds
  | .last c => Conjunct.balanced c
  | .or c d => (Conjunct.balanced c).append ((Disjunct.balanced d).cons rfl)

theorem Conjunct.balanced : ∀ c : Conjunct, Balanced c.kinds
  | .last o => Operand.balanced o
  | .and written o c =>
      ((Operand.balanced o).append (balanced_andKinds written)).append (Conjunct.balanced c)

theorem Operand.balanced : ∀ o : Operand, Balanced o.kinds
  | .not o => (Operand.balanced o).cons rfl
  | .field _ b => (Body.balanced b).cons rfl
  | .boosted b => Boosted.balanced b

theorem Body.balanced : ∀ b : Body, Balanced b.kinds
  | .comparison _ v => (balanced_nil.cons v.opened_kind).cons rfl
  | .boosted b => Boosted.balanced b

theorem Boosted.balanced : ∀ b : Boosted, Balanced b.kinds
  | .leaf l factor => l.balanced.append (balanced_boostKinds factor)
  | .group d factor => by
      have hgroup := (Disjunct.balanced d).group.append (balanced_boostKinds factor)
      simpa [Boosted.kinds] using hgroup

end

/-! ## Field names -/

def isFieldName : TokenKind → Bool
  | .field _ => true
  | _ => false

/-- A field name stands in a group that was opened behind another one. -/
def NestsScopes (ks : List TokenKind) : Prop :=
  ∃ outer name inside inner rest,
    ks = outer ++ .field name :: .openGroup :: inside ++ .field inner :: rest ∧
      StaysInside inside

theorem NestsScopes.of_suffix {ks ls : List TokenKind} (h : NestsScopes ks)
    (hks : ks <:+ ls) : NestsScopes ls := by
  obtain ⟨outer, name, inside, inner, rest, rfl, hinside⟩ := h
  obtain ⟨front, rfl⟩ := hks
  exact ⟨front ++ outer, name, inside, inner, rest, by simp, hinside⟩

/-- A field name in a group behind another one nests, even if only some of the
tokens are there, provided that the other tokens hold no field name. -/
theorem nestsScopes_of_group (name : String) {ks used more : List TokenKind}
    (hks : Balanced ks) (hgroup : used ++ more = .openGroup :: ks ++ [.closeGroup])
    (hmore : ∀ k ∈ more, isFieldName k = false) {k : TokenKind} (hk : k ∈ ks)
    (hfield : isFieldName k = true) : NestsScopes (.field name :: used) := by
  obtain ⟨inside, behind, rfl⟩ := List.append_of_mem hk
  have hinside : StaysInside inside := hks.inside.of_prefix ⟨k :: behind, rfl⟩
  obtain ⟨inner, rfl⟩ : ∃ inner, k = .field inner := by
    cases k with
    | field inner => exact ⟨inner, rfl⟩
    | _ => cases hfield
  -- the field name is among the tokens that are there
  have hsplit : used ++ more =
      .openGroup :: inside ++ .field inner :: (behind ++ [.closeGroup]) := by
    rw [hgroup]
    simp
  rcases List.append_eq_append_iff.mp hsplit with ⟨gap, -, hgap⟩ | ⟨gap, hused, hgap⟩
  · have hfalse := hmore (.field inner) (by rw [hgap]; simp)
    cases hfalse
  · cases gap with
    | nil =>
        have hfalse := hmore (.field inner) (by rw [← List.nil_append more, ← hgap]; simp)
        cases hfalse
    | cons k gap =>
        obtain ⟨rfl, -⟩ := List.cons.inj hgap
        exact ⟨[], name, inside, inner, gap, by rw [hused]; rfl, hinside⟩

theorem anyFieldScope_eq_false_iff {es : List Expr} :
    anyFieldScope es = false ↔ ∀ e ∈ es, e.hasFieldScope = false := by
  induction es with
  | nil => simp [anyFieldScope]
  | cons e es ih => simp [anyFieldScope, ih]

/-- Joining operands adds no field scope. -/
theorem hasFieldScope_group {op : BoolOp} {operands : List Expr}
    (h : ∀ e ∈ operands, e.hasFieldScope = false) :
    (Expr.group op operands).hasFieldScope = false := by
  have hall : ∀ x ∈ operands.flatMap (spliced op), x.hasFieldScope = false := by
    intro x hx
    obtain ⟨e, he, hx⟩ := List.mem_flatMap.mp hx
    have hscope := h e he
    rcases spliced_cases op e with ⟨parts, rfl, hs⟩ | ⟨-, hs⟩
    · rw [hs] at hx
      exact anyFieldScope_eq_false_iff.mp hscope x hx
    · rw [hs] at hx
      obtain rfl := List.mem_singleton.mp hx
      exact hscope
  rcases group_cases op operands with hg | ⟨-, hg⟩
  · exact hall _ (by simp [hg])
  · rw [hg]
    exact anyFieldScope_eq_false_iff.mpr hall

theorem hasFieldScope_withBoost (e : Expr) (factor : Option Single) :
    (withBoost e factor).hasFieldScope = e.hasFieldScope := by
  cases factor <;> rfl

mutual

/-- Without a field name among its tokens a derivation stands for an expression
without a field scope. -/
theorem Disjunct.unscoped : ∀ {d : Disjunct}, (∀ k ∈ d.kinds, isFieldName k = false) →
    ∀ e ∈ d.exprs, e.hasFieldScope = false
  | .last c, h, e, he => by
      obtain rfl := List.mem_singleton.mp he
      exact hasFieldScope_group (Conjunct.unscoped h)
  | .or c d, h, e, he => by
      obtain ⟨hc, hd⟩ := List.forall_mem_append.mp h
      rcases List.mem_cons.mp he with rfl | he
      · exact hasFieldScope_group (Conjunct.unscoped hc)
      · exact Disjunct.unscoped (List.forall_mem_cons.mp hd).2 e he

theorem Conjunct.unscoped : ∀ {c : Conjunct}, (∀ k ∈ c.kinds, isFieldName k = false) →
    ∀ e ∈ c.exprs, e.hasFieldScope = false
  | .last o, h, e, he => by
      obtain rfl := List.mem_singleton.mp he
      exact Operand.unscoped h
  | .and written o c, h, e, he => by
      obtain ⟨ho, hc⟩ := List.forall_mem_append.mp h
      rcases List.mem_cons.mp he with rfl | he
      · exact Operand.unscoped (List.forall_mem_append.mp ho).1
      · exact Conjunct.unscoped hc e he

theorem Operand.unscoped : ∀ {o : Operand}, (∀ k ∈ o.kinds, isFieldName k = false) →
    o.expr.hasFieldScope = false
  | .not o, h => by
      have ho := Operand.unscoped (List.forall_mem_cons.mp h).2
      show anyFieldScope [o.expr] = false
      rw [anyFieldScope, ho]
      rfl
  | .field name b, h => nomatch (List.forall_mem_cons.mp h).1
  | .boosted b, h => Boosted.unscoped h

theorem Boosted.unscoped : ∀ {b : Boosted}, (∀ k ∈ b.kinds, isFieldName k = false) →
    (b.expr none).hasFieldScope = false
  | .leaf l factor, _ => hasFieldScope_withBoost (.leaf none l.literal) factor
  | .group d factor, h => by
      obtain ⟨hd, -⟩ := List.forall_mem_append.mp h
      rw [Boosted.expr, hasFieldScope_withBoost]
      exact hasFieldScope_group (Disjunct.unscoped (List.forall_mem_cons.mp hd).2)

end

end Searchlight.Grammar
