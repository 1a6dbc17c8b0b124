import Searchlight.Proofs.Grammar.Soundness
import Searchlight.Proofs.Grammar.Unambiguous

/-!
# What is derived is returned

A parser in front of tokens that a derivation begins with reads exactly those
tokens and returns the expression of the derivation, as long as no more levels
are open than it may open. Beyond that it says so and nothing else: no other
expectation goes unmet on the tokens of a derivation.
-/

namespace Searchlight.Grammar

open Text

variable {α β : Type}

/-- The step returns `a` where `fits` holds, and elsewhere finds the nesting
too deep. -/
def Outcome (x : Except Parse.Stop α) (fits : Prop) (a : α) : Prop :=
  (fits → x = .ok a) ∧
    (¬fits → ∃ rest, x = .error ⟨.shallowerNesting, rest⟩)

namespace Outcome

variable {x : Except Parse.Stop α} {f : α → Except Parse.Stop β}
  {P Q : Prop} {a : α} {b : β}

theorem of_ok (h : x = .ok a) (hP : P) : Outcome x P a :=
  ⟨fun _ => h, fun hn => absurd hP hn⟩

theorem congr (h : Outcome x P a) (hPQ : P ↔ Q) : Outcome x Q a :=
  ⟨fun hq => h.1 (hPQ.mpr hq), fun hq => h.2 fun hp => hq (hPQ.mp hp)⟩

theorem bind (hx : Outcome x P a) (hf : Outcome (f a) Q b) :
    Outcome (x >>= f) (P ∧ Q) b := by
  by_cases hP : P
  · rw [hx.1 hP]
    exact hf.congr (by simp [hP])
  · obtain ⟨rest, hrest⟩ := hx.2 hP
    rw [hrest]
    exact ⟨fun h => absurd h.1 hP, fun _ => ⟨rest, rfl⟩⟩

theorem map (hx : Outcome x P a) (f : α → β) : Outcome (x.map f) P (f a) := by
  refine ⟨fun hP => by rw [hx.1 hP]; rfl, fun hP => ?_⟩
  obtain ⟨rest, hrest⟩ := hx.2 hP
  exact ⟨rest, by rw [hrest]; rfl⟩

/-- A step that cannot fail, behind one that can. -/
theorem bind_ok (hx : Outcome x P a) (hf : f a = .ok b) :
    Outcome (x >>= f) P b :=
  (hx.bind (of_ok hf trivial)).congr (by simp)

end Outcome

/-! ## Literals -/

theorem boundValue_eq {e : Edge} (he : e.Admissible) (expected : Expectation)
    {t : Token} (ht : t.kind = e.kind) (rest : List Token) :
    Parse.boundValue expected (t :: rest) = .ok (e.value?, rest) := by
  cases e with
  | star => simp [Parse.boundValue, ht, Edge.kind, Edge.value?]
  | value v =>
      cases v with
      | term text =>
          have hne : text ≠ "TO" := he
          simp [Parse.boundValue, ht, Edge.kind, Edge.value?, Plain.kind,
            Plain.text, hne]
      | phrase content =>
          simp [Parse.boundValue, ht, Edge.kind, Edge.value?, Plain.kind,
            Plain.text]

theorem leafEnd_eq (literal : Literal) {rest : List Token}
    (hr : Before endsLeaf (rest.map Token.kind)) :
    Parse.leafEnd literal rest = .ok (literal, rest) := by
  cases rest with
  | nil => rfl
  | cons t rest =>
      rw [List.map_cons, before_cons] at hr
      simp only [Parse.leafEnd]
      split
      · rename_i hk
        simp [hk, endsLeaf] at hr
      · rfl

theorem termLeaf_eq {text : String} {tilde : Option (Option Nat)}
    (ha : (Leaf.term text tilde).Admissible) {ts rest : List Token}
    (hts : ts.map Token.kind = Leaf.tildeKinds tilde)
    (hr : Before endsLeaf (rest.map Token.kind)) :
    Parse.termLeaf text (ts ++ rest) =
      .ok ((Leaf.term text tilde).literal, rest) := by
  match tilde with
  | none =>
      obtain rfl := List.map_eq_nil_iff.mp hts
      cases rest with
      | nil => rfl
      | cons t rest =>
          rw [List.map_cons, before_cons] at hr
          simp only [List.nil_append, Parse.termLeaf]
          split
          · rename_i hk
            simp [hk, endsLeaf] at hr
          · rename_i hk
            simp [hk, endsLeaf] at hr
          · rfl
  | some none =>
      obtain ⟨t, ts, rfl, ht, hnil⟩ := List.map_eq_cons_iff.mp hts
      obtain rfl := List.map_eq_nil_iff.mp hnil
      simp [Parse.termLeaf, ht, Leaf.literal]
  | some (some n) =>
      obtain ⟨t, ts, rfl, ht, hnil⟩ := List.map_eq_cons_iff.mp hts
      obtain rfl := List.map_eq_nil_iff.mp hnil
      simp [Parse.termLeaf, ht, Leaf.literal, Nat.not_lt.mpr ha]

theorem phraseLeaf_eq {content : String} {tilde : Option (Option Nat)}
    (ha : (Leaf.phrase content tilde).Admissible) {ts rest : List Token}
    (hts : ts.map Token.kind = Leaf.tildeKinds tilde)
    (hr : Before endsLeaf (rest.map Token.kind)) :
    Parse.phraseLeaf (Parse.phraseText content) (ts ++ rest) =
      .ok ((Leaf.phrase content tilde).literal, rest) := by
  match tilde with
  | none =>
      obtain rfl := List.map_eq_nil_iff.mp hts
      cases rest with
      | nil => rfl
      | cons t rest =>
          rw [List.map_cons, before_cons] at hr
          simp only [List.nil_append, Parse.phraseLeaf]
          split
          · rename_i hk
            simp [hk, endsLeaf] at hr
          · rename_i hk
            simp [hk, endsLeaf] at hr
          · rfl
  | some none => exact absurd rfl ha.2
  | some (some n) =>
      obtain ⟨t, ts, rfl, ht, hnil⟩ := List.map_eq_cons_iff.mp hts
      obtain rfl := List.map_eq_nil_iff.mp hnil
      simp [Parse.phraseLeaf, ht, Leaf.literal]

theorem range_eq {opening closing : Bool} {lower upper : Edge}
    (hl : lower.Admissible) (hu : upper.Admissible) {ts rest : List Token}
    (hts : ts.map Token.kind =
      [lower.kind, .term "TO", upper.kind, .closeRange closing]) :
    Parse.range opening (ts ++ rest) =
      .ok ((Leaf.range opening lower upper closing).literal, rest) := by
  obtain ⟨t₁, ts, rfl, h₁, hts⟩ := List.map_eq_cons_iff.mp hts
  obtain ⟨t₂, ts, rfl, h₂, hts⟩ := List.map_eq_cons_iff.mp hts
  obtain ⟨t₃, ts, rfl, h₃, hts⟩ := List.map_eq_cons_iff.mp hts
  obtain ⟨t₄, ts, rfl, h₄, hts⟩ := List.map_eq_cons_iff.mp hts
  obtain rfl := List.map_eq_nil_iff.mp hts
  simp [Parse.range, boundValue_eq hl _ h₁, boundValue_eq hu _ h₃,
    Parse.rangeSeparator, Parse.rangeEnd, h₂, h₄, bind, Except.bind,
    Leaf.literal]

theorem leafStart?_eq {l : Leaf} (ha : l.Admissible) {ts rest : List Token}
    (hts : ts.map Token.kind = l.kinds)
    (hr : Before endsLeaf (rest.map Token.kind)) :
    Parse.leafStart? (ts ++ rest) = some (.ok (l.literal, rest)) := by
  cases l with
  | term text tilde =>
      obtain ⟨t, ts, rfl, ht, hts⟩ := List.map_eq_cons_iff.mp hts
      simp [Parse.leafStart?, ht, termLeaf_eq ha hts hr]
  | wildcard pattern =>
      obtain ⟨t, ts, rfl, ht, hts⟩ := List.map_eq_cons_iff.mp hts
      obtain rfl := List.map_eq_nil_iff.mp hts
      simp [Parse.leafStart?, ht, Leaf.literal]
  | phrase content tilde =>
      obtain ⟨t, ts, rfl, ht, hts⟩ := List.map_eq_cons_iff.mp hts
      simp [Parse.leafStart?, ht, phraseText_ne_empty_iff.mpr ha.1,
        phraseLeaf_eq ha hts hr]
  | regex pattern =>
      obtain ⟨t, ts, rfl, ht, hts⟩ := List.map_eq_cons_iff.mp hts
      obtain rfl := List.map_eq_nil_iff.mp hts
      have hne : pattern ≠ "" := ha
      simp [Parse.leafStart?, ht, Leaf.literal, hne]
  | range opening lower upper closing =>
      obtain ⟨t, ts, rfl, ht, hts⟩ := List.map_eq_cons_iff.mp hts
      simp [Parse.leafStart?, ht, range_eq ha.1 ha.2 hts]

theorem leaf?_eq {l : Leaf} (ha : l.Admissible) {ts rest : List Token}
    (hts : ts.map Token.kind = l.kinds)
    (hr : Before endsLeaf (rest.map Token.kind)) :
    Parse.leaf? (ts ++ rest) = some (.ok (l.literal, rest)) := by
  simp [Parse.leaf?, leafStart?_eq ha hts hr, Except.bind,
    leafEnd_eq l.literal hr]

/-- No literal starts with a parenthesis or a comparator. -/
theorem leaf?_eq_none {t : Token} (ht : t.kind = .openGroup ∨
    ∃ c, t.kind = .comparator c) (rest : List Token) :
    Parse.leaf? (t :: rest) = none := by
  rcases ht with ht | ⟨c, ht⟩ <;> simp [Parse.leaf?, Parse.leafStart?, ht]

theorem boostEnd_eq (e : Expr) {factor : Option Single}
    (ha : AdmissibleFactor factor) {ts rest : List Token}
    (hts : ts.map Token.kind = boostKinds factor)
    (hr : Before endsOperand (rest.map Token.kind)) :
    Parse.boostEnd e (ts ++ rest) = .ok (withBoost e factor, rest) := by
  cases factor with
  | none =>
      obtain rfl := List.map_eq_nil_iff.mp hts
      cases rest with
      | nil => rfl
      | cons t rest =>
          rw [List.map_cons, before_cons] at hr
          simp only [List.nil_append, Parse.boostEnd]
          split
          · rename_i hk
            simp [hk, endsOperand] at hr
          · rfl
  | some factor =>
      obtain ⟨t, ts, rfl, ht, hnil⟩ := List.map_eq_cons_iff.mp hts
      obtain rfl := List.map_eq_nil_iff.mp hnil
      obtain ⟨hf, hp⟩ := ha factor rfl
      simp [Parse.boostEnd, ht, hf, hp, withBoost]

theorem comparedValue_eq (field : String) (v : Plain) {t : Token}
    (ht : t.kind = v.kind) (rest : List Token) :
    Parse.comparedValue field (t :: rest) = .ok (v.text, rest) := by
  cases v <;> simp [Parse.comparedValue, ht, Plain.kind, Plain.text]

/-! ## Where loops stop and go on -/

theorem startsOperand_eq {t : Token} {ts : List Token} :
    Parse.startsOperand (t :: ts) = opensOperand t.kind := by
  simp only [Parse.startsOperand]
  cases t.kind <;> rfl

theorem operandAhead?_eq_none {rest : List Token}
    (hr : Before endsConjunct (rest.map Token.kind)) :
    Parse.operandAhead? rest = none := by
  cases rest with
  | nil => rfl
  | cons t rest =>
      rw [List.map_cons, before_cons] at hr
      simp only [Parse.operandAhead?, startsOperand_eq]
      cases hk : t.kind <;> simp_all [endsConjunct, opensOperand]

theorem operandAhead?_eq {written : Bool} {tw ts : List Token}
    (htw : tw.map Token.kind = andKinds written)
    (hts : StartsWith opensOperand (ts.map Token.kind)) :
    Parse.operandAhead? (tw ++ ts) = some ts := by
  cases written with
  | true =>
      obtain ⟨t, tw, rfl, ht, hnil⟩ := List.map_eq_cons_iff.mp htw
      obtain rfl := List.map_eq_nil_iff.mp hnil
      simp [Parse.operandAhead?, ht]
  | false =>
      obtain rfl := List.map_eq_nil_iff.mp htw
      obtain ⟨k, ks, hks, hk⟩ := hts
      obtain ⟨t, ts, rfl, rfl, -⟩ := List.map_eq_cons_iff.mp hks
      have hne : t.kind ≠ .and := by
        intro h
        simp [h, opensOperand] at hk
      simp [Parse.operandAhead?, startsOperand_eq, hk, hne]

theorem moreOperands_stop (operand : Parse.Parser Expr) (fuel : Nat)
    {rest : List Token} (hr : Before endsConjunct (rest.map Token.kind)) :
    Parse.moreOperands operand fuel rest = .ok ([], rest) := by
  cases fuel with
  | zero => rfl
  | succ fuel => simp [Parse.moreOperands, operandAhead?_eq_none hr]

theorem moreConjuncts_stop (operand : Parse.Parser Expr) (fuel : Nat)
    {rest : List Token} (hr : Before endsDisjunct (rest.map Token.kind)) :
    Parse.moreConjuncts operand fuel rest = .ok ([], rest) := by
  cases fuel with
  | zero => rfl
  | succ fuel =>
      cases rest with
      | nil => rfl
      | cons t rest =>
          rw [List.map_cons, before_cons] at hr
          have hne : t.kind ≠ .or := by
            intro h
            simp [h, endsDisjunct] at hr
          simp [Parse.moreConjuncts, hne]

/-- What reads the operands one level further down. -/
def innerAt : Nat → Option (Parse.Parser Expr)
  | 0 => none
  | n + 1 => some (Parse.operand n)

theorem operand_eq (n : Nat) :
    Parse.operand n = Parse.operandWith (innerAt n) := by
  cases n <;> rfl

theorem operandWith_boosted (inner? : Option (Parse.Parser Expr)) {t : Token}
    (ht : opensBoosted t.kind = true) (ts : List Token) :
    Parse.operandWith inner? (t :: ts) =
      Parse.boosted (Parse.group inner?) (t :: ts) := by
  simp only [Parse.operandWith]
  split <;> simp_all [opensBoosted]

/-! ## Groups and what stands behind a field name -/

/-- The parser of a literal or group with the factor behind it, where a field
name may precede. -/
def bodyParser (field : Option String) (group : Parse.Parser Expr) :
    Parse.Parser Expr :=
  match field with
  | none => Parse.boosted group
  | some name => Parse.fieldBody group name

theorem bodyParser_leaf (field : Option String) (group : Parse.Parser Expr)
    {ts rest : List Token} {literal : Literal}
    (h : Parse.leaf? ts = some (.ok (literal, rest))) :
    bodyParser field group ts = Parse.boostEnd (.leaf field literal) rest := by
  cases field <;>
    simp [bodyParser, Parse.boosted, Parse.fieldBody, h, bind, Except.bind]

theorem bodyParser_group (field : Option String) {group : Parse.Parser Expr}
    {t : Token} {ts after rest : List Token} {e e' : Expr} {P : Prop}
    (ht : t.kind = .openGroup) (hgroup : Outcome (group (t :: ts)) P (e, after))
    (hscope : field.isSome → e.hasFieldScope = false)
    (hboost : Parse.boostEnd (inScope field e) after = .ok (e', rest)) :
    Outcome (bodyParser field group (t :: ts)) P (e', rest) := by
  have hleaf := leaf?_eq_none (.inl ht) ts
  cases field with
  | none =>
      simp only [bodyParser, Parse.boosted, hleaf, ht]
      exact hgroup.bind_ok hboost
  | some name =>
      simp only [bodyParser, Parse.fieldBody, hleaf, ht]
      refine hgroup.bind_ok ?_
      rw [hscope rfl]
      exact hboost

/-- A group is read one level further down. -/
theorem group_outcome {d : Disjunct}
    (hd : ∀ (n : Nat) {ts rest : List Token}, ts.map Token.kind = d.kinds →
      Before endsDisjunct (rest.map Token.kind) →
      Outcome (Parse.disjunct (Parse.operand n) (ts ++ rest)) (d.levels ≤ n)
        (d.expr, rest))
    (n : Nat) (t : Token) {t' : Token} {ts : List Token} (rest : List Token)
    (hts : ts.map Token.kind = d.kinds) (ht' : t'.kind = .closeGroup) :
    Outcome (Parse.group (innerAt n) (t :: (ts ++ t' :: rest)))
      (d.levels + 1 ≤ n) (d.expr, rest) := by
  cases n with
  -- no level is left, and the parenthesis is refused
  | zero => exact ⟨fun h => absurd h (by omega), fun _ => ⟨_, rfl⟩⟩
  | succ n =>
      have hend : Before endsDisjunct ((t' :: rest).map Token.kind) := by
        simp [ht', endsDisjunct]
      have hinner := hd n hts hend
      have hclose : Parse.closeGroup d.expr (t' :: rest) = .ok (d.expr, rest) := by
        simp [Parse.closeGroup, ht']
      exact (hinner.bind_ok hclose).congr Nat.succ_le_succ_iff.symm

/-! ## The induction -/

mutual

theorem Disjunct.outcome : ∀ (d : Disjunct) (n : Nat) {ts rest : List Token},
    d.Admissible → ts.map Token.kind = d.kinds →
    Before endsDisjunct (rest.map Token.kind) →
    Outcome (Parse.disjunct (Parse.operand n) (ts ++ rest)) (d.levels ≤ n)
      (d.expr, rest)
  | .last c, n, ts, rest, ha, hts, hr => by
      refine (c.outcome n ha hts hr.conjunct).bind_ok ?_
      simp [moreConjuncts_stop _ _ hr, bind, Except.bind, Disjunct.expr,
        Disjunct.exprs, Conjunct.expr]
  | .or c d, n, ts, rest, ha, hts, hr => by
      obtain ⟨tc, ts, rfl, htc, hts⟩ := List.map_eq_append_iff.mp hts
      obtain ⟨t, td, rfl, ht, htd⟩ := List.map_eq_cons_iff.mp hts
      rw [List.append_assoc]
      -- the `OR` behind the conjunct is what ends it
      have hb : Before endsConjunct ((t :: td ++ rest).map Token.kind) := by
        simp [ht, endsConjunct]
      have hc := c.outcome n ha.1 htc hb
      refine ((hc.bind ?_).congr Nat.max_le.symm)
      refine (d.outcome_more n _ ha.2 ht htd hr (Nat.le_refl _)).bind_ok ?_
      simp [Disjunct.expr, Disjunct.exprs, Conjunct.expr]

/-- The conjuncts behind the first one. -/
theorem Disjunct.outcome_more : ∀ (d : Disjunct) (n fuel : Nat) {t : Token}
    {ts rest : List Token}, d.Admissible → t.kind = .or →
    ts.map Token.kind = d.kinds → Before endsDisjunct (rest.map Token.kind) →
    (t :: ts ++ rest).length ≤ fuel →
    Outcome (Parse.moreConjuncts (Parse.operand n) fuel (t :: ts ++ rest))
      (d.levels ≤ n) (d.exprs, rest)
  | .last c, n, 0, t, ts, rest, _, _, _, _, hf => by simp at hf
  | .or c d, n, 0, t, ts, rest, _, _, _, _, hf => by simp at hf
  | .last c, n, fuel + 1, t, ts, rest, ha, ht, hts, hr, hf => by
      simp only [List.cons_append, Parse.moreConjuncts, ht, if_true]
      refine (c.outcome n ha hts hr.conjunct).bind_ok ?_
      simp [moreConjuncts_stop _ _ hr, bind, Except.bind, Disjunct.exprs,
        Conjunct.expr]
  | .or c d, n, fuel + 1, t, ts, rest, ha, ht, hts, hr, hf => by
      obtain ⟨tc, ts, rfl, htc, hts⟩ := List.map_eq_append_iff.mp hts
      obtain ⟨t', td, rfl, ht', htd⟩ := List.map_eq_cons_iff.mp hts
      simp only [List.cons_append, Parse.moreConjuncts, ht, if_true,
        List.append_assoc]
      have hb : Before endsConjunct ((t' :: td ++ rest).map Token.kind) := by
        simp [ht', endsConjunct]
      have hc := c.outcome n ha.1 htc hb
      refine ((hc.bind ?_).congr Nat.max_le.symm)
      have hf' : (t' :: td ++ rest).length ≤ fuel := by
        simp only [List.cons_append, List.length_cons, List.length_append] at hf ⊢
        omega
      refine (d.outcome_more n fuel ha.2 ht' htd hr hf').bind_ok ?_
      simp [Disjunct.exprs, Conjunct.expr]

theorem Conjunct.outcome : ∀ (c : Conjunct) (n : Nat) {ts rest : List Token},
    c.Admissible → ts.map Token.kind = c.kinds →
    Before endsConjunct (rest.map Token.kind) →
    Outcome (Parse.conjunct (Parse.operand n) (ts ++ rest)) (c.levels ≤ n)
      (c.expr, rest)
  | .last o, n, ts, rest, ha, hts, hr => by
      refine (o.outcome n ha hts hr.operand).bind_ok ?_
      simp [moreOperands_stop _ _ hr, bind, Except.bind, Conjunct.expr,
        Conjunct.exprs]
  | .and written o c, n, ts, rest, ha, hts, hr => by
      obtain ⟨ts, tc, rfl, hts, htc⟩ := List.map_eq_append_iff.mp hts
      obtain ⟨us, tw, rfl, hus, htw⟩ := List.map_eq_append_iff.mp hts
      have hb : Before endsOperand ((tw ++ tc ++ rest).map Token.kind) := by
        simpa [htw, htc] using Conjunct.before_tail written c (rest.map Token.kind)
      have ho := o.outcome n ha.1 hus hb
      rw [show us ++ tw ++ tc ++ rest = us ++ (tw ++ tc ++ rest) by simp]
      refine ((ho.bind ?_).congr Nat.max_le.symm)
      refine (c.outcome_more n _ ha.2 htw htc hr (Nat.le_refl _)).bind_ok ?_
      simp [Conjunct.expr, Conjunct.exprs]

/-- The operands behind the first one. -/
theorem Conjunct.outcome_more : ∀ (c : Conjunct) (n fuel : Nat)
    {written : Bool} {tw ts rest : List Token}, c.Admissible →
    tw.map Token.kind = andKinds written → ts.map Token.kind = c.kinds →
    Before endsConjunct (rest.map Token.kind) →
    (tw ++ ts ++ rest).length ≤ fuel →
    Outcome (Parse.moreOperands (Parse.operand n) fuel (tw ++ ts ++ rest))
      (c.levels ≤ n) (c.exprs, rest)
  | c, n, 0, written, tw, ts, rest, ha, htw, hts, hr, hf => by
      -- some token begins the conjunct, so that the fuel is not used up
      obtain ⟨k, ks, hk, -⟩ := c.startsWith
      rw [hk] at hts
      obtain ⟨t, ts, rfl, -⟩ := List.map_eq_cons_iff.mp hts
      simp at hf
  | .last o, n, fuel + 1, written, tw, ts, rest, ha, htw, hts, hr, hf => by
      have hahead : Parse.operandAhead? (tw ++ (ts ++ rest)) = some (ts ++ rest) :=
        operandAhead?_eq htw (by
          rw [List.map_append, hts]
          exact o.startsWith.append _)
      simp only [List.append_assoc, Parse.moreOperands, hahead]
      refine (o.outcome n ha hts hr.operand).bind_ok ?_
      simp [moreOperands_stop _ _ hr, bind, Except.bind, Conjunct.exprs]
  | .and written' o c, n, fuel + 1, written, tw, ts, rest, ha, htw, hts, hr,
      hf => by
      obtain ⟨ts, tc, rfl, hts, htc⟩ := List.map_eq_append_iff.mp hts
      obtain ⟨us, tw', rfl, hus, htw'⟩ := List.map_eq_append_iff.mp hts
      have hstart := o.startsWith
      rw [← hus] at hstart
      have hahead : Parse.operandAhead? (tw ++ (us ++ (tw' ++ tc ++ rest))) =
          some (us ++ (tw' ++ tc ++ rest)) :=
        operandAhead?_eq htw (by
          rw [List.map_append]
          exact hstart.append _)
      have hb : Before endsOperand ((tw' ++ tc ++ rest).map Token.kind) := by
        simpa [htw', htc] using
          Conjunct.before_tail written' c (rest.map Token.kind)
      -- the operand took a token, which pays for the next turn of the loop
      have hf' : (tw' ++ tc ++ rest).length ≤ fuel := by
        obtain ⟨k, ks, hk, -⟩ := hstart
        obtain ⟨t, us, rfl, -⟩ := List.map_eq_cons_iff.mp hk
        simp only [List.length_append, List.length_cons] at hf ⊢
        omega
      have ho := o.outcome n ha.1 hus hb
      rw [show tw ++ (us ++ tw' ++ tc) ++ rest =
        tw ++ (us ++ (tw' ++ tc ++ rest)) by simp]
      simp only [Parse.moreOperands, hahead]
      refine ((ho.bind ?_).congr Nat.max_le.symm)
      refine (c.outcome_more n fuel ha.2 htw' htc hr hf').bind_ok ?_
      simp [Conjunct.exprs]

theorem Operand.outcome : ∀ (o : Operand) (n : Nat) {ts rest : List Token},
    o.Admissible → ts.map Token.kind = o.kinds →
    Before endsOperand (rest.map Token.kind) →
    Outcome (Parse.operand n (ts ++ rest)) (o.levels ≤ n) (o.expr, rest)
  | .not o, n, ts, rest, ha, hts, hr => by
      obtain ⟨t, ts, rfl, ht, hts⟩ := List.map_eq_cons_iff.mp hts
      cases n with
      | zero =>
          refine ⟨fun h => absurd h (by simp [Operand.levels]),
            fun _ => ⟨t :: ts ++ rest, ?_⟩⟩
          simp [operand_eq, innerAt, Parse.operandWith, ht]
      | succ n =>
          have ho := o.outcome n ha hts hr
          rw [operand_eq]
          simp only [innerAt, List.cons_append, Parse.operandWith, ht]
          exact (ho.map fun x => (x.1.not, x.2)).congr
            Nat.succ_le_succ_iff.symm
  | .field name b, n, ts, rest, ha, hts, hr => by
      obtain ⟨t, ts, rfl, ht, hts⟩ := List.map_eq_cons_iff.mp hts
      rw [operand_eq]
      simp only [List.cons_append, Parse.operandWith, ht]
      exact b.outcome name n ha hts hr
  | .boosted b, n, ts, rest, ha, hts, hr => by
      obtain ⟨k, ks, hk, hopens⟩ := b.startsWith
      have hts' : ts.map Token.kind = k :: ks := hts.trans hk
      obtain ⟨t, ts, rfl, rfl, -⟩ := List.map_eq_cons_iff.mp hts'
      rw [operand_eq, List.cons_append, operandWith_boosted _ hopens]
      exact b.outcome none n ha hts hr

theorem Body.outcome : ∀ (b : Body) (name : String) (n : Nat)
    {ts rest : List Token}, b.Admissible name → ts.map Token.kind = b.kinds →
    Before endsOperand (rest.map Token.kind) →
    Outcome (Parse.fieldBody (Parse.group (innerAt n)) name (ts ++ rest))
      (b.levels ≤ n) (b.expr name, rest)
  | .comparison c v, name, n, ts, rest, ha, hts, hr => by
      obtain ⟨t₁, ts, rfl, h₁, hts⟩ := List.map_eq_cons_iff.mp hts
      obtain ⟨t₂, ts, rfl, h₂, hts⟩ := List.map_eq_cons_iff.mp hts
      obtain rfl := List.map_eq_nil_iff.mp hts
      refine .of_ok ?_ (Nat.zero_le n)
      simp [Parse.fieldBody, leaf?_eq_none (.inr ⟨c, h₁⟩), h₁,
        comparedValue_eq name v h₂, bind, Except.bind, Body.expr]
  | .boosted b, name, n, ts, rest, ha, hts, hr =>
      b.outcome (some name) n ha hts hr

theorem Boosted.outcome : ∀ (b : Boosted) (field : Option String) (n : Nat)
    {ts rest : List Token}, b.Admissible field → ts.map Token.kind = b.kinds →
    Before endsOperand (rest.map Token.kind) →
    Outcome (bodyParser field (Parse.group (innerAt n)) (ts ++ rest))
      (b.levels ≤ n) (b.expr field, rest)
  | .leaf l factor, field, n, ts, rest, ha, hts, hr => by
      obtain ⟨tl, tb, rfl, htl, htb⟩ := List.map_eq_append_iff.mp hts
      refine .of_ok ?_ (Nat.zero_le n)
      have hb : Before endsLeaf ((tb ++ rest).map Token.kind) := by
        rw [List.map_append, htb]
        exact before_boostKinds factor hr
      have hl := leaf?_eq ha.1 htl hb
      rw [List.append_assoc, bodyParser_leaf field _ hl]
      exact boostEnd_eq _ ha.2 htb hr
  | .group d factor, field, n, ts, rest, ha, hts, hr => by
      obtain ⟨tg, tb, rfl, htg, htb⟩ := List.map_eq_append_iff.mp hts
      obtain ⟨t, td, rfl, ht, htd⟩ := List.map_eq_cons_iff.mp htg
      obtain ⟨t', tb, rfl, ht', htb⟩ := List.map_eq_cons_iff.mp htb
      have hg := group_outcome (fun m _ _ => d.outcome m ha.1) n t (tb ++ rest)
        htd ht'
      rw [show t :: td ++ t' :: tb ++ rest = t :: (td ++ t' :: (tb ++ rest)) by
        simp]
      exact bodyParser_group field ht hg ha.2.2 (boostEnd_eq _ ha.2.1 htb hr)

end

end Searchlight.Grammar
