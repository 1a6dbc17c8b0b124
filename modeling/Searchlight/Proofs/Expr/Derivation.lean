import Searchlight.Proofs.Expr.Nesting
import Searchlight.Proofs.Expr.Spelling

/-!
# Canonical derivations

The tokens of a canonical text have a derivation that stands for the
expression, unless the expression is one that no text of its own can say: a
factor on a factor, or a range with a bound that is empty or the word between
the bounds.
-/

namespace Searchlight

open Scan Grammar Canonical

/-! ## What cannot be said -/

/-- A bound that is not there as a word, or is taken for the separator. -/
def Bound.Misread (b : Bound String) : Prop :=
  b.value? = some "" ∨ b.value? = some "TO"

def Literal.Misread : Literal → Prop
  | .range lower upper => lower.Misread ∨ upper.Misread
  | _ => False

namespace Expr

def isBoosted : Expr → Bool
  | boosted _ _ => true
  | _ => false

mutual

/-- Some factor stands on a factor, or some range has a misread bound. -/
def Misread : Expr → Prop
  | leaf _ l => l.Misread
  | inField _ body => body.Misread
  | bool _ operands => AnyMisread operands
  | boosted body _ => body.isBoosted = true ∨ body.Misread

def AnyMisread : List Expr → Prop
  | [] => False
  | e :: rest => e.Misread ∨ AnyMisread rest

end

end Expr

/-! ## Literals -/

theorem exists_edge {b : Bound String} (h : ¬b.Misread) :
    ∃ edge : Edge, edge.Admissible ∧ [edge.kind] = boundKinds b ∧
      Parse.bound (isClosed b) edge.value? = b := by
  have hvalue : ∀ {v : String}, b.value? = some v → v ≠ "" ∧ v ≠ "TO" := by
    intro v hv
    constructor
    · rintro rfl
      exact h (.inl hv)
    · rintro rfl
      exact h (.inr hv)
  cases b with
  | unbounded => exact ⟨.star, trivial, rfl, rfl⟩
  | inclusive v =>
      obtain ⟨hne, hto⟩ := hvalue rfl
      exact ⟨.value (.term v), hto, (if_neg hne).symm, rfl⟩
  | exclusive v =>
      obtain ⟨hne, hto⟩ := hvalue rfl
      exact ⟨.value (.term v), hto, (if_neg hne).symm, rfl⟩

theorem exists_leaf {l : Literal} {ctx : Context} (h : l.Spellable ctx)
    (hread : ¬l.Misread) :
    ∃ leaf : Leaf, leaf.Admissible ∧ leaf.kinds = literalKinds l ∧
      leaf.literal = l := by
  cases l with
  | term text => exact ⟨.term text none, trivial, rfl, rfl⟩
  | phrase text slop =>
      obtain ⟨hne, hstable, -⟩ := h
      -- the text is its own content: reading it again changes nothing
      have hword := phraseText_ne_empty_iff.mp (hstable.symm ▸ hne)
      by_cases hslop : 0 < slop
      · refine ⟨.phrase text (some (some slop)), ⟨hword, by simp⟩, ?_, ?_⟩
        · simp [Leaf.kinds, Leaf.tildeKinds, literalKinds, hslop]
        · simp [Leaf.literal, hstable]
      · obtain rfl := Nat.eq_zero_of_not_pos hslop
        refine ⟨.phrase text none, ⟨hword, by simp⟩, rfl, ?_⟩
        simp [Leaf.literal, hstable]
  | range lower upper =>
      obtain ⟨hl, hu⟩ := not_or.mp hread
      obtain ⟨x, hxa, hxk, hxb⟩ := exists_edge hl
      obtain ⟨y, hya, hyk, hyb⟩ := exists_edge hu
      refine ⟨.range (isClosed lower) x y (isClosed upper), ⟨hxa, hya⟩, ?_, ?_⟩
      · simp [Leaf.kinds, literalKinds, ← hxk, ← hyk]
      · rw [Leaf.literal, hxb, hyb]
  | wildcard pattern => exact ⟨.wildcard pattern, trivial, rfl, rfl⟩
  | fuzzy text distance =>
      refine ⟨.term text (some distance), ?_, rfl, rfl⟩
      cases distance with
      | none => trivial
      | some n => exact h.2 n rfl
  | regex pattern => exact ⟨.regex pattern, h.1, rfl, rfl⟩

/-! ## Building derivations -/

namespace Grammar

variable {n : ℕ} {ks : List TokenKind} {e : Expr}

theorem DerivesOperand.conjunct (h : DerivesOperand n ks e) (hs : e.Shaped) :
    DerivesConjunct n ks e := by
  obtain ⟨o, ha, hl, rfl, rfl⟩ := h
  exact ⟨.last o, ha, hl, rfl, (hs.group_singleton (by decide)).symm⟩

theorem DerivesConjunct.disjunct (h : DerivesConjunct n ks e) (hs : e.Shaped) :
    DerivesDisjunct n ks e := by
  obtain ⟨c, ha, hl, rfl, rfl⟩ := h
  exact ⟨.last c, ha, hl, rfl, (hs.group_singleton (by decide)).symm⟩

/-- What is read as tokens with a derivation is a query. -/
theorem DerivesDisjunct.parsed (h : DerivesDisjunct n ks e) (hn : n ≤ maxDepth) {query : String}
    (hread : Lexes {} query.toList ks) : parseQuery query = .ok (some e) := by
  obtain ⟨d, ha, hl, hk, he⟩ := h
  obtain ⟨ts, htok, hts⟩ := tokenize_eq_ok_iff.mpr hread
  exact parseQuery_eq_ok_some_iff.mpr
    ⟨ts, d, htok, (hts.trans hk).symm, ha, hl.trans hn, he.symm⟩

theorem DerivesOperand.not (h : DerivesOperand n ks e) :
    DerivesOperand (n + 1) (.not :: ks) e.not := by
  obtain ⟨o, ha, hl, rfl, rfl⟩ := h
  exact ⟨.not o, ha, Nat.succ_le_succ hl, rfl, rfl⟩

/-- In parentheses a whole disjunct is one operand. -/
theorem DerivesDisjunct.grouped (h : DerivesDisjunct n ks e)
    {factor : Option Single} (hf : AdmissibleFactor factor) :
    DerivesOperand (n + 1) (groupKinds ks ++ boostKinds factor)
      (withBoost e factor) := by
  obtain ⟨d, ha, hl, rfl, rfl⟩ := h
  refine ⟨.boosted (.group d factor), ⟨ha, hf, by simp⟩, Nat.succ_le_succ hl,
    ?_, rfl⟩
  simp [groupKinds, Operand.kinds, Boosted.kinds]

/-- And so it is behind a field name, unless it names a field itself. -/
theorem DerivesDisjunct.inField (h : DerivesDisjunct n ks e)
    {factor : Option Single} (hf : AdmissibleFactor factor) (field : String)
    (hscope : e.hasFieldScope = false) :
    DerivesOperand (n + 1) (.field field :: groupKinds ks ++ boostKinds factor)
      (withBoost (.inField field e) factor) := by
  obtain ⟨d, ha, hl, rfl, rfl⟩ := h
  refine ⟨.field field (.boosted (.group d factor)), ⟨ha, hf, fun _ => hscope⟩,
    Nat.succ_le_succ hl, ?_, rfl⟩
  simp [groupKinds, Operand.kinds, Body.kinds, Boosted.kinds]

theorem Leaf.derives {l : Leaf} (ha : l.Admissible) {factor : Option Single}
    (hf : AdmissibleFactor factor) (field : Option String) (n : ℕ) :
    DerivesOperand n
      ((field.map TokenKind.field).toList ++ l.kinds ++ boostKinds factor)
      (withBoost (.leaf field l.literal) factor) := by
  cases field with
  | none =>
      exact ⟨.boosted (.leaf l factor), ⟨ha, hf⟩, Nat.zero_le n, rfl, rfl⟩
  | some name =>
      exact ⟨.field name (.boosted (.leaf l factor)), ⟨ha, hf⟩, Nat.zero_le n,
        rfl, rfl⟩

end Grammar

/-! ## Expressions -/

namespace Expr

/-- Derivations of the canonical tokens, one for each strength that a context
asks for. Behind what is no boost itself a factor may stand. -/
structure Derivable (e : Expr) : Prop where
  factored : e.isBoosted = false → ∀ factor, AdmissibleFactor factor →
    DerivesOperand (e.nesting .atom) (e.kinds .atom ++ boostKinds factor)
      (withBoost e factor)
  operand : DerivesOperand (e.nesting .unary) (e.kinds .unary) e
  conjunct : DerivesConjunct (e.nesting .and) (e.kinds .and) e
  disjunct : DerivesDisjunct (e.nesting .or) (e.kinds .or) e

/-- Where the context asks for them, a group has parentheses. -/
theorem kinds_bool {context : Strength} {op : BoolOp} {operands : List Expr}
    (h : (strength op operands.length).rank < context.rank) :
    kinds context (bool op operands) =
        groupKinds (kinds .or (bool op operands)) ∧
      nesting context (bool op operands) =
        nesting .or (bool op operands) + 1 := by
  have hor : ¬(strength op operands.length).rank < Strength.or.rank :=
    Nat.not_lt_zero _
  simp only [kinds, nesting, if_pos h, if_neg hor, Nat.add_zero, and_self]

theorem derives_group {context : Strength} {op : BoolOp} {operands : List Expr}
    (hd : DerivesDisjunct (nesting .or (bool op operands))
      (kinds .or (bool op operands)) (bool op operands))
    (h : (strength op operands.length).rank < context.rank)
    {factor : Option Single} (hf : AdmissibleFactor factor) :
    DerivesOperand (nesting context (bool op operands))
      (kinds context (bool op operands) ++ boostKinds factor)
      (withBoost (bool op operands) factor) := by
  rw [(kinds_bool h).1, (kinds_bool h).2]
  exact hd.grouped hf

/-- The parentheses alone. -/
theorem derives_group_none {context : Strength} {op : BoolOp}
    {operands : List Expr}
    (hd : DerivesDisjunct (nesting .or (bool op operands))
      (kinds .or (bool op operands)) (bool op operands))
    (h : (strength op operands.length).rank < context.rank) :
    DerivesOperand (nesting context (bool op operands))
      (kinds context (bool op operands)) (bool op operands) := by
  simpa [boostKinds, withBoost] using
    derives_group hd h admissibleFactor_none

/-- What needs no parentheses but before a factor. -/
theorem Derivable.of_operand {e : Expr} (hs : e.Shaped)
    (hfactored : e.isBoosted = false → ∀ factor, AdmissibleFactor factor →
      DerivesOperand (e.nesting .atom) (e.kinds .atom ++ boostKinds factor)
        (withBoost e factor))
    (hoperand : DerivesOperand (e.nesting .unary) (e.kinds .unary) e)
    (hsame : ∀ context : Strength, context ≠ .atom →
      e.kinds context = e.kinds .unary ∧
        e.nesting context = e.nesting .unary) : e.Derivable := by
  have hconjunct := hoperand.conjunct hs
  have hdisjunct := hconjunct.disjunct hs
  obtain ⟨hkand, hnand⟩ := hsame .and (by decide)
  obtain ⟨hkor, hnor⟩ := hsame .or (by decide)
  rw [← hkand, ← hnand] at hconjunct
  rw [← hkor, ← hnor] at hdisjunct
  exact ⟨hfactored, hoperand, hconjunct, hdisjunct⟩

/-- What is written alike in every context. -/
theorem Derivable.of_factored {e : Expr} (hs : e.Shaped)
    (hfactored : ∀ factor, AdmissibleFactor factor →
      DerivesOperand (e.nesting .atom) (e.kinds .atom ++ boostKinds factor)
        (withBoost e factor))
    (hsame : ∀ context : Strength, e.kinds context = e.kinds .atom ∧
      e.nesting context = e.nesting .atom) : e.Derivable := by
  have hoperand := hfactored none admissibleFactor_none
  obtain ⟨hk, hn⟩ := hsame .unary
  rw [← hk, ← hn] at hoperand
  refine .of_operand hs (fun _ => hfactored) ?_ fun context _ =>
    ⟨(hsame context).1.trans hk.symm, (hsame context).2.trans hn.symm⟩
  simpa [boostKinds, withBoost] using hoperand

/-! ### Groups -/

theorem operandKinds_singleton (op : BoolOp) (e : Expr) :
    (separatorKinds op).intercalate (operandKinds op [e]) =
      signKinds op ++ kinds (operandStrength op) e :=
  List.intercalate_singleton

theorem operandKinds_cons_cons (op : BoolOp) (e e' : Expr) (es : List Expr) :
    (separatorKinds op).intercalate (operandKinds op (e :: e' :: es)) =
      signKinds op ++ kinds (operandStrength op) e ++ separatorKinds op ++
        (separatorKinds op).intercalate (operandKinds op (e' :: es)) :=
  List.intercalate_cons_cons

theorem exists_conjunct : ∀ {es : List Expr}, es ≠ [] →
    (∀ e ∈ es, e.Derivable) → ∃ c : Conjunct, c.Admissible ∧
      c.levels ≤ operandsNesting .and es ∧
      (separatorKinds .and).intercalate (operandKinds .and es) = c.kinds ∧
      es = c.exprs
  | [e], _, h => by
      obtain ⟨o, ha, hl, hk, he⟩ := (h e (by simp)).operand
      refine ⟨.last o, ha, ?_, ?_, congrArg (· :: []) he⟩
      · rw [operandsNesting_singleton]
        exact hl
      · rw [operandKinds_singleton]
        exact hk
  | e :: e' :: es, _, h => by
      obtain ⟨o, ha, hl, hk, he⟩ := (h e (by simp)).operand
      obtain ⟨c, hca, hcl, hck, hce⟩ := exists_conjunct (List.cons_ne_nil e' es)
        fun x hx => h x (List.mem_cons_of_mem e hx)
      refine ⟨.and false o c, ⟨ha, hca⟩, max_le_max hl hcl, ?_,
        congrArg₂ List.cons he hce⟩
      rw [operandKinds_cons_cons, hck, Conjunct.kinds, ← hk]
      rfl

theorem exists_disjunct : ∀ {es : List Expr}, es ≠ [] →
    (∀ e ∈ es, e.Derivable) → ∃ d : Disjunct, d.Admissible ∧
      d.levels ≤ operandsNesting .or es ∧
      (separatorKinds .or).intercalate (operandKinds .or es) = d.kinds ∧
      es = d.exprs
  | [e], _, h => by
      obtain ⟨c, ha, hl, hk, he⟩ := (h e (by simp)).conjunct
      refine ⟨.last c, ha, ?_, ?_, congrArg (· :: []) he⟩
      · rw [operandsNesting_singleton]
        exact hl
      · rw [operandKinds_singleton]
        exact hk
  | e :: e' :: es, _, h => by
      obtain ⟨c, ha, hl, hk, he⟩ := (h e (by simp)).conjunct
      obtain ⟨d, hda, hdl, hdk, hde⟩ := exists_disjunct (List.cons_ne_nil e' es)
        fun x hx => h x (List.mem_cons_of_mem e hx)
      refine ⟨.or c d, ⟨ha, hda⟩, max_le_max hl hdl, ?_,
        congrArg₂ List.cons he hde⟩
      rw [operandKinds_cons_cons, List.append_assoc, hdk, Disjunct.kinds, ← hk]
      rfl

/-- A group that every tighter context puts into parentheses. -/
theorem Derivable.of_disjunct {op : BoolOp} (hop : op ≠ .not)
    {operands : List Expr}
    (hd : DerivesDisjunct (nesting .or (bool op operands))
      (kinds .or (bool op operands)) (bool op operands))
    (hc : DerivesConjunct (nesting .and (bool op operands))
      (kinds .and (bool op operands)) (bool op operands)) :
    (bool op operands).Derivable := by
  have hlt : (strength op operands.length).rank < Strength.unary.rank := by
    rw [strength_eq hop]
    cases op <;> first | decide | exact absurd rfl hop
  have hatom : (strength op operands.length).rank < Strength.atom.rank :=
    Nat.lt_succ_of_lt hlt
  exact ⟨fun _ _ hf => derives_group hd hatom hf, derives_group_none hd hlt,
    hc, hd⟩

theorem derivable_and {operands : List Expr} (hs : (bool .and operands).Shaped)
    (h : ∀ e ∈ operands, e.Derivable) : (bool .and operands).Derivable := by
  obtain ⟨c, ha, hl, hk, rfl⟩ := exists_conjunct hs.1.ne_nil h
  have hc : DerivesConjunct (nesting .and (bool .and c.exprs))
      (kinds .and (bool .and c.exprs)) (bool .and c.exprs) :=
    ⟨c, ha, hl, hk, (hs.1.group_eq (by decide)).symm⟩
  exact .of_disjunct (by decide) (hc.disjunct hs) hc

theorem derivable_or {operands : List Expr} (hs : (bool .or operands).Shaped)
    (h : ∀ e ∈ operands, e.Derivable) : (bool .or operands).Derivable := by
  obtain ⟨d, ha, hl, hk, rfl⟩ := exists_disjunct hs.1.ne_nil h
  have hd : DerivesDisjunct (nesting .or (bool .or d.exprs))
      (kinds .or (bool .or d.exprs)) (bool .or d.exprs) :=
    ⟨d, ha, hl, hk, (hs.1.group_eq (by decide)).symm⟩
  have hlt : (strength .or d.exprs.length).rank < Strength.and.rank :=
    Nat.zero_lt_one
  exact .of_disjunct (by decide) hd ((derives_group_none hd hlt).conjunct hs)

theorem kinds_not {context : Strength} (hc : context ≠ .atom) (e : Expr) :
    kinds context e.not = .not :: kinds .unary e ∧
      nesting context e.not = nesting .unary e + 1 := by
  have hloose : ¬(strength .not 1).rank < context.rank := by
    cases context with
    | atom => exact absurd rfl hc
    | _ => decide
  rw [Expr.not, kinds, nesting, List.length_singleton, if_neg hloose,
    if_neg hloose]
  exact ⟨operandKinds_singleton .not e, operandsNesting_singleton .not e⟩

theorem derivable_not {e : Expr} (hs : e.not.Shaped) (h : e.Derivable) :
    e.not.Derivable := by
  have hderives : ∀ context : Strength, context ≠ .atom →
      DerivesOperand (nesting context e.not) (kinds context e.not) e.not := by
    intro context hc
    rw [(kinds_not hc e).1, (kinds_not hc e).2]
    exact h.operand.not
  have hd := ((hderives .or (by decide)).conjunct hs).disjunct hs
  have hlt : (strength .not 1).rank < Strength.atom.rank := by decide
  refine .of_operand hs (fun _ factor hf => derives_group hd hlt hf)
    (hderives .unary (by decide)) fun context hc => ?_
  rw [(kinds_not hc e).1, (kinds_not hc e).2]
  exact ⟨(kinds_not (by decide) e).1.symm, (kinds_not (by decide) e).2.symm⟩

/-! ### Every expression -/

/-- A literal, with or without a field name in front of it. -/
theorem derivable_leaf {field : Option String} {l : Literal}
    (h : (leaf field l).Spellable) (hread : ¬l.Misread) :
    (leaf field l).Derivable := by
  obtain ⟨x, ha, hk, rfl⟩ := exists_leaf h.2 hread
  refine .of_factored trivial (fun factor hf => ?_) fun context => ?_
  · have hx := Leaf.derives ha hf field 0
    rw [hk] at hx
    cases field <;> exact hx
  · cases field <;> exact ⟨rfl, rfl⟩

theorem derivable_inField {field : String} {body : Expr}
    (hs : (inField field body).Shaped) (h : body.Derivable) :
    (inField field body).Derivable :=
  .of_factored hs (fun _ hf => h.disjunct.inField hf field hs.1)
    fun _ => ⟨rfl, rfl⟩

theorem derivable_boosted {body : Expr} {factor : Single}
    (hs : (boosted body factor).Shaped) (hbody : body.isBoosted = false)
    (h : body.Derivable) : (boosted body factor).Derivable := by
  have hf : AdmissibleFactor (some factor) := by
    simpa [AdmissibleFactor] using hs.1
  exact .of_operand hs (fun hnot => Bool.noConfusion hnot)
    (h.factored hbody _ hf) fun _ _ => ⟨rfl, rfl⟩

mutual

/-- **A canonical derivation.** What can be spelled and is not misread has
derivations for every context. -/
theorem derivable : ∀ {e : Expr}, e.Shaped → e.Spellable → ¬e.Misread →
    e.Derivable
  | leaf _ _, _, h, hread => derivable_leaf h hread
  | inField _ _, hs, h, hread => derivable_inField hs (derivable hs.2 h.2 hread)
  | bool .and _, hs, h, hread => derivable_and hs (allDerivable hs.2 h hread)
  | bool .or _, hs, h, hread => derivable_or hs (allDerivable hs.2 h hread)
  | bool .not [e], hs, h, hread =>
      derivable_not hs (allDerivable hs.2 h hread e (by simp))
  | bool .not [], hs, _, _ => absurd hs.1 (by simp [Joined])
  | bool .not (_ :: _ :: _), hs, _, _ => absurd hs.1 (by simp [Joined])
  | boosted _ _, hs, h, hread => by
      obtain ⟨hbody, hread⟩ := not_or.mp hread
      exact derivable_boosted hs (by simpa using hbody)
        (derivable hs.2 h hread)

theorem allDerivable : ∀ {es : List Expr}, AllShaped es → AllSpellable es →
    ¬AnyMisread es → ∀ e ∈ es, e.Derivable
  | [], _, _, _, _, he => absurd he List.not_mem_nil
  | _ :: _, hs, h, hread, e, he => by
      obtain ⟨hfirst, hrest⟩ := not_or.mp hread
      rcases List.mem_cons.mp he with heq | he
      · exact heq ▸ derivable hs.1 h.1 hfirst
      · exact allDerivable hs.2 h.2 hrest e he

end

end Expr

end Searchlight
