import Searchlight.Proofs.Expr.Literal
import Searchlight.Proofs.Expr.Shape
import Searchlight.Proofs.Grammar.Scanning

/-!
# Expressions as texts

Every part of a parsed expression can be spelled: its names and literals come
from tokens of a scan. The canonical text of such an expression is read as
tokens that mirror the tree, whatever stands behind it.
-/

namespace Searchlight

open Scan Grammar Canonical

namespace Expr

/-- Where a literal is read: behind a field name, or at the start of an
operand. -/
def scopeContext : Option String → Context
  | none => {}
  | some name => Context.next {} (.field name)

mutual

/-- Names and literals that a scan can give. -/
def Spellable : Expr → Prop
  | leaf field l =>
      (∀ name ∈ field, name ≠ "") ∧ l.Spellable (scopeContext field)
  | inField field body => field ≠ "" ∧ body.Spellable
  | bool _ operands => AllSpellable operands
  | boosted body _ => body.Spellable

def AllSpellable : List Expr → Prop
  | [] => True
  | e :: rest => e.Spellable ∧ AllSpellable rest

end

theorem allSpellable_iff : ∀ {es : List Expr},
    AllSpellable es ↔ ∀ e ∈ es, e.Spellable
  | [] => by simp [AllSpellable]
  | e :: es => by simp [AllSpellable, @allSpellable_iff es]

theorem spellable_group {op : BoolOp} {operands : List Expr}
    (h : ∀ e ∈ operands, e.Spellable) : (group op operands).Spellable := by
  have hall : ∀ x ∈ operands.flatMap (spliced op), x.Spellable := by
    intro x hx
    obtain ⟨e, he, hx⟩ := List.mem_flatMap.mp hx
    rcases spliced_cases op e with ⟨inner, rfl, hs⟩ | ⟨-, hs⟩
    · exact allSpellable_iff.mp (h _ he) x (hs ▸ hx)
    · obtain rfl := List.mem_singleton.mp (hs ▸ hx)
      exact h x he
  rcases group_cases op operands with hg | ⟨-, hg⟩
  · exact hall _ (by simp [hg])
  · rw [hg]
    exact allSpellable_iff.mpr hall

end Expr

/-! ## Expressions of queries -/

namespace Grammar

open Searchlight.Expr

theorem scopeContext_inRange (field : Option String) :
    (scopeContext field).inRange = false := by
  cases field <;> rfl

theorem Leaf.spellable {l : Leaf} {ctx : Context} (ha : l.Admissible)
    (h : AllScannable ctx l.kinds) : l.literal.Spellable ctx := by
  cases l with
  | term text tilde =>
      match tilde, ha with
      | none, _ => exact h.1.term
      | some none, _ => exact ⟨h.1.term, by simp⟩
      | some (some n), ha =>
          have hle : n ≤ maxFuzzyDistance := ha
          exact ⟨h.1.term, by simpa using hle⟩
  | wildcard pattern => exact h.1.wildcard
  | phrase content tilde =>
      refine ⟨phraseText_ne_empty_iff.mpr ha.1, phraseText_phraseText content, ?_⟩
      match tilde, ha, h with
      | none, _, _ => exact Nat.two_pow_pos 32
      | some none, ha, _ => exact absurd rfl ha.2
      | some (some n), _, h => exact h.2.1.tilde
  | regex pattern => exact ⟨ha, h.1.regex⟩
  | range opening lower upper closing => trivial

theorem spellable_withBoost {e : Expr} (h : e.Spellable)
    (factor : Option Single) : (withBoost e factor).Spellable := by
  cases factor with
  | none => exact h
  | some x => exact h

theorem spellable_inScope {e : Expr} (h : e.Spellable) {field : Option String}
    (hfield : ∀ name ∈ field, name ≠ "") : (inScope field e).Spellable := by
  cases field with
  | none => exact h
  | some name => exact ⟨hfield name rfl, h⟩

mutual

theorem Disjunct.allSpellable : ∀ {d : Disjunct} {ctx : Context},
    d.Admissible → ctx.Neutral → AllScannable ctx d.kinds →
    ∀ e ∈ d.exprs, e.Spellable
  | .last c, _, ha, hctx, h, e, he => by
      obtain rfl := List.mem_singleton.mp he
      exact spellable_group (Conjunct.allSpellable ha hctx h)
  | .or c d, ctx, ha, hctx, h, e, he => by
      obtain ⟨hc, -, hd⟩ := allScannable_append.mp h
      have hneutral := c.neutralizes ctx hctx.inRange_eq
      rcases List.mem_cons.mp he with rfl | he
      · exact spellable_group (Conjunct.allSpellable ha.1 hctx hc)
      · exact Disjunct.allSpellable ha.2
          (Context.next_neutral hneutral.inRange_eq rfl) hd e he

theorem Conjunct.allSpellable : ∀ {c : Conjunct} {ctx : Context},
    c.Admissible → ctx.Neutral → AllScannable ctx c.kinds →
    ∀ e ∈ c.exprs, e.Spellable
  | .last o, _, ha, hctx, h, e, he => by
      obtain rfl := List.mem_singleton.mp he
      exact Operand.spellable ha hctx h
  | .and written o c, ctx, ha, hctx, h, e, he => by
      obtain ⟨ho, hc⟩ := allScannable_append.mp h
      -- whatever stands in an operand, the scanner is outside of brackets behind it
      have hneutral := (o.neutralizes.andKinds written) ctx hctx.inRange_eq
      rcases List.mem_cons.mp he with rfl | he
      · exact Operand.spellable ha.1 hctx (allScannable_append.mp ho).1
      · exact Conjunct.allSpellable ha.2 hneutral hc e he

theorem Operand.spellable : ∀ {o : Operand} {ctx : Context}, o.Admissible →
    ctx.Neutral → AllScannable ctx o.kinds → o.expr.Spellable
  | .not o, ctx, ha, hctx, h =>
      ⟨Operand.spellable (o := o) ha (Context.next_neutral hctx.inRange_eq rfl)
        h.2, trivial⟩
  | .field name b, ctx, ha, hctx, h =>
      Body.spellable (b := b) ha h.1.field (hctx.next (.field name)) h.2
  | .boosted b, ctx, ha, hctx, h =>
      Boosted.spellable (b := b) ha (by simp) hctx h

theorem Body.spellable : ∀ {b : Body} {name : String} {ctx : Context},
    b.Admissible name → name ≠ "" → ctx.Alike (scopeContext (some name)) →
    AllScannable ctx b.kinds → (b.expr name).Spellable
  | .comparison c _, _, _, _, hname, _, _ =>
      ⟨by simpa using hname, by cases c <;> trivial⟩
  | .boosted b, _, _, ha, hname, hctx, h =>
      Boosted.spellable (b := b) ha (by simpa using hname) hctx h

theorem Boosted.spellable : ∀ {b : Boosted} {field : Option String}
    {ctx : Context}, b.Admissible field → (∀ name ∈ field, name ≠ "") →
    ctx.Alike (scopeContext field) → AllScannable ctx b.kinds →
    (b.expr field).Spellable
  | .leaf l factor, field, ctx, ha, hfield, hctx, h => by
      have hl := (allScannable_append.mp h).1.alike hctx
      exact spellable_withBoost (e := .leaf field l.literal)
        ⟨hfield, Leaf.spellable ha.1 hl⟩ factor
  | .group d factor, field, ctx, ha, hfield, hctx, h => by
      have hinRange := hctx.inRange.trans (scopeContext_inRange field)
      have hd := (allScannable_append.mp h.2).1
      exact spellable_withBoost (spellable_inScope (spellable_group
        (Disjunct.allSpellable ha.1 (Context.next_neutral hinRange rfl) hd))
        hfield) factor

end

end Grammar

/-- What a query stands for can be spelled. -/
theorem spellable_of_parseQuery {query : String} {e : Expr}
    (h : parseQuery query = .ok (some e)) : e.Spellable := by
  obtain ⟨ts, d, htok, hts, ha, -, rfl⟩ := parseQuery_eq_ok_some_iff.mp h
  have hlexes := tokenize_eq_ok_iff.mp ⟨ts, htok, hts.symm⟩
  exact Expr.spellable_group
    (Disjunct.allSpellable ha (.refl _) hlexes.allScannable)

/-! ## Tokens of canonical texts -/

namespace Canonical

def separatorKinds : BoolOp → List TokenKind
  | .or => [.or]
  | .and | .not => []

def signKinds : BoolOp → List TokenKind
  | .not => [.not]
  | .and | .or => []

def groupKinds (ks : List TokenKind) : List TokenKind :=
  .openGroup :: ks ++ [.closeGroup]

theorem reads_sign (op : BoolOp) {cs : List Char} {ks : List TokenKind}
    (h : Reads {} cs ks) : Reads {} (sign op ++ cs) (signKinds op ++ ks) := by
  cases op with
  | not => exact h.negated
  | and => exact h
  | or => exact h

theorem reads_separated (op : BoolOp) {cs cs' : List Char}
    {ks ks' : List TokenKind} (h : Reads {} cs ks) (h' : Reads {} cs' ks') :
    Reads {} (cs ++ separator op ++ cs') (ks ++ separatorKinds op ++ ks') := by
  have hspace := h'.blank (c := ' ') (by decide)
  rw [List.append_assoc, List.append_assoc]
  cases op with
  | or => exact h.append (reads_operator reads_or h') (boundary_space _)
  | and => exact h.append hspace (boundary_space _)
  | not => exact h.append hspace (boundary_space _)

theorem reads_intercalate (op : BoolOp) {texts : List (List Char)}
    {kinds : List (List TokenKind)} (h : List.Forall₂ (Reads {}) texts kinds) :
    Reads {} ((separator op).intercalate texts)
      ((separatorKinds op).intercalate kinds) := by
  induction h with
  | nil => exact fun _ _ _ h' => h'
  | @cons cs ks texts kinds hfirst hrest ih =>
      cases hrest with
      | nil => simpa using hfirst
      | cons _ _ =>
          rw [List.intercalate_cons_cons, List.intercalate_cons_cons]
          exact reads_separated op hfirst ih

end Canonical

namespace Expr

mutual

/-- The tokens of the text that is written where the context asks for the given
strength. -/
def kinds (context : Strength) : Expr → List TokenKind
  | leaf none l => literalKinds l
  | leaf (some field) l => .field field :: literalKinds l
  | inField field body => .field field :: groupKinds (kinds .or body)
  | bool op operands =>
      let ks := (separatorKinds op).intercalate (operandKinds op operands)
      if (strength op operands.length).rank < context.rank then groupKinds ks
      else ks
  | boosted body factor => kinds .atom body ++ [.boost factor]

def operandKinds (op : BoolOp) : List Expr → List (List TokenKind)
  | [] => []
  | e :: rest =>
      (signKinds op ++ kinds (operandStrength op) e) :: operandKinds op rest

end

mutual

/-- **The canonical text of an expression is read as its tokens.** -/
theorem Spellable.reads (context : Strength) : ∀ {e : Expr}, e.Shaped →
    e.Spellable → Reads {} (written context e) (kinds context e)
  | leaf none l, _, h => h.2.reads rfl
  | leaf (some field) _, _, h => (h.2.reads rfl).inField (h.1 field rfl)
  | inField _ _, hs, h =>
      ((Spellable.reads .or hs.2 h.2).group rfl).inField h.1
  | bool op operands, hs, h => by
      have htext := reads_intercalate op (AllSpellable.reads op hs.2 h)
      rw [written, kinds]
      split
      · exact htext.group rfl
      · exact htext
  | boosted body factor, hs, h =>
      (Spellable.reads .atom hs.2 h).append (reads_boost rfl hs.1.1 hs.1.2)
        (boundary_cons.mpr (.inr (by decide)))

theorem AllSpellable.reads (op : BoolOp) : ∀ {es : List Expr}, AllShaped es →
    AllSpellable es →
    List.Forall₂ (Reads {}) (writtenOperands op es) (operandKinds op es)
  | [], _, _ => .nil
  | _ :: _, hs, h =>
      .cons (reads_sign op (Spellable.reads (operandStrength op) hs.1 h.1))
        (AllSpellable.reads op hs.2 h.2)

end

end Expr

end Searchlight
