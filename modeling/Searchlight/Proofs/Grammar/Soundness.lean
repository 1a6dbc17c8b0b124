import Searchlight.Proofs.Grammar.Basic
import Searchlight.Proofs.Result
import Searchlight.Proofs.Text.Words

/-!
# What a parser returns is derived

Each parser reads tokens from the front that derive what it returns, and
leaves the others. For operands this is an induction on the levels that may
still be opened; conjuncts and disjuncts follow from their operands by an
induction on the fuel of their loops, which only cuts a reading short.
-/

namespace Searchlight.Grammar

open Text

variable {α : Type}

/-- Whatever `p` returns stands in the relation to the tokens that it read. -/
def ReadsOnly (p : Parse.Parser α) (R : List TokenKind → α → Prop) : Prop :=
  ∀ {ts rest : List Token} {a : α}, p ts = .ok (a, rest) →
    ∃ used, ts = used ++ rest ∧ R (used.map Token.kind) a

/-! ## Literals -/

theorem readsOnly_boundValue (expected : Expectation) :
    ReadsOnly (Parse.boundValue expected) fun ks v =>
      ∃ edge : Edge, edge.Admissible ∧ ks = [edge.kind] ∧ v = edge.value? := by
  intro ts rest v h
  cases ts with
  | nil => simp [Parse.boundValue] at h
  | cons t ts =>
      simp only [Parse.boundValue] at h
      split at h
      · split at h
        · rename_i hk hp
          obtain ⟨rfl, rfl⟩ := by simpa using h
          exact ⟨[t], rfl, .star, trivial, by simp [hk, hp, Edge.kind], rfl⟩
        · simp at h
      · split at h
        · simp at h
        · rename_i text hk hne
          obtain ⟨rfl, rfl⟩ := by simpa using h
          exact ⟨[t], rfl, .value (.term text), hne,
            by simp [hk, Edge.kind, Plain.kind], rfl⟩
      · rename_i content hk
        obtain ⟨rfl, rfl⟩ := by simpa using h
        exact ⟨[t], rfl, .value (.phrase content), trivial,
          by simp [hk, Edge.kind, Plain.kind], rfl⟩
      · simp at h

theorem readsOnly_rangeSeparator :
    ReadsOnly Parse.rangeSeparator fun ks _ => ks = [.term "TO"] := by
  intro ts rest v h
  cases ts with
  | nil => simp [Parse.rangeSeparator] at h
  | cons t ts =>
      simp only [Parse.rangeSeparator] at h
      split at h
      · rename_i hk
        obtain ⟨-, rfl⟩ := by simpa using h
        exact ⟨[t], rfl, by simp [hk]⟩
      · simp at h

theorem readsOnly_rangeEnd :
    ReadsOnly Parse.rangeEnd fun ks closing => ks = [.closeRange closing] := by
  intro ts rest closing h
  cases ts with
  | nil => simp [Parse.rangeEnd] at h
  | cons t ts =>
      simp only [Parse.rangeEnd] at h
      split at h
      · rename_i hk
        obtain ⟨rfl, rfl⟩ := by simpa using h
        exact ⟨[t], rfl, by simp [hk]⟩
      · simp at h

/-- Behind an opening bracket stands the rest of a range. -/
theorem readsOnly_range (opening : Bool) :
    ReadsOnly (Parse.range opening) fun ks literal =>
      ∃ l : Leaf, l.Admissible ∧ .openRange opening :: ks = l.kinds ∧
        literal = l.literal := by
  intro ts rest literal h
  simp only [Parse.range, bind_eq_ok, Prod.exists] at h
  obtain ⟨lower, ts₁, hlower, _, ts₂, hsep, upper, ts₃, hupper, closing, ts₄,
    hend, h⟩ := h
  obtain ⟨u₁, rfl, lower, hla, hlk, rfl⟩ := readsOnly_boundValue _ hlower
  obtain ⟨u₂, rfl, hsk⟩ := readsOnly_rangeSeparator hsep
  obtain ⟨u₃, rfl, upper, hua, huk, rfl⟩ := readsOnly_boundValue _ hupper
  obtain ⟨u₄, rfl, hck⟩ := readsOnly_rangeEnd hend
  obtain ⟨rfl, rfl⟩ := by simpa using h
  refine ⟨u₁ ++ u₂ ++ u₃ ++ u₄, by simp, .range opening lower upper closing,
    ⟨hla, hua⟩, ?_, rfl⟩
  simp [hlk, hsk, huk, hck, Leaf.kinds]

theorem readsOnly_termLeaf (text : String) :
    ReadsOnly (Parse.termLeaf text) fun ks literal =>
      ∃ l : Leaf, l.Admissible ∧ .term text :: ks = l.kinds ∧
        literal = l.literal := by
  intro ts rest literal h
  cases ts with
  | nil =>
      obtain ⟨rfl, rfl⟩ := by simpa [Parse.termLeaf] using h
      exact ⟨[], rfl, .term text none, trivial, rfl, rfl⟩
  | cons t ts =>
      simp only [Parse.termLeaf] at h
      split at h
      · rename_i hk
        obtain ⟨rfl, rfl⟩ := by simpa using h
        exact ⟨[t], rfl, .term text (some none), trivial,
          by simp [hk, Leaf.kinds, Leaf.tildeKinds], rfl⟩
      · split at h
        · simp at h
        · rename_i n hk hn
          obtain ⟨rfl, rfl⟩ := by simpa using h
          exact ⟨[t], rfl, .term text (some (some n)), Nat.not_lt.mp hn,
            by simp [hk, Leaf.kinds, Leaf.tildeKinds], rfl⟩
      · obtain ⟨rfl, rfl⟩ := by simpa using h
        exact ⟨[], rfl, .term text none, trivial, rfl, rfl⟩

theorem readsOnly_phraseLeaf {content : String}
    (hc : ∃ c ∈ content.toList, isBlank c = false) :
    ReadsOnly (Parse.phraseLeaf (Parse.phraseText content)) fun ks literal =>
      ∃ l : Leaf, l.Admissible ∧ .phrase content :: ks = l.kinds ∧
        literal = l.literal := by
  intro ts rest literal h
  cases ts with
  | nil =>
      obtain ⟨rfl, rfl⟩ := by simpa [Parse.phraseLeaf] using h
      exact ⟨[], rfl, .phrase content none, ⟨hc, by simp⟩, rfl, rfl⟩
  | cons t ts =>
      simp only [Parse.phraseLeaf] at h
      split at h
      · simp at h
      · rename_i n hk
        obtain ⟨rfl, rfl⟩ := by simpa using h
        exact ⟨[t], rfl, .phrase content (some (some n)), ⟨hc, by simp⟩,
          by simp [hk, Leaf.kinds, Leaf.tildeKinds], rfl⟩
      · obtain ⟨rfl, rfl⟩ := by simpa using h
        exact ⟨[], rfl, .phrase content none, ⟨hc, by simp⟩, rfl, rfl⟩

theorem leafStart?_eq_ok {ts rest : List Token} {literal : Literal}
    (h : Parse.leafStart? ts = some (.ok (literal, rest))) :
    ∃ used, ts = used ++ rest ∧ ∃ l : Leaf, l.Admissible ∧
      used.map Token.kind = l.kinds ∧ literal = l.literal := by
  cases ts with
  | nil => simp [Parse.leafStart?] at h
  | cons t ts =>
      simp only [Parse.leafStart?] at h
      split at h
      · rename_i text hk
        obtain ⟨used, rfl, l, ha, hu, hl⟩ :=
          readsOnly_termLeaf text (Option.some.inj h)
        exact ⟨t :: used, rfl, l, ha, by simpa [hk] using hu, hl⟩
      · rename_i pattern hk
        obtain ⟨rfl, rfl⟩ := by simpa using h
        exact ⟨[t], rfl, .wildcard pattern, trivial, by simp [hk, Leaf.kinds],
          rfl⟩
      · rename_i content hk
        split at h
        · simp at h
        · rename_i hne
          obtain ⟨used, rfl, l, ha, hu, hl⟩ :=
            readsOnly_phraseLeaf (phraseText_ne_empty_iff.mp hne)
              (Option.some.inj h)
          exact ⟨t :: used, rfl, l, ha, by simpa [hk] using hu, hl⟩
      · rename_i pattern hk
        split at h
        · simp at h
        · rename_i hne
          obtain ⟨rfl, rfl⟩ := by simpa using h
          exact ⟨[t], rfl, .regex pattern, hne, by simp [hk, Leaf.kinds], rfl⟩
      · rename_i opening hk
        obtain ⟨used, rfl, l, ha, hu, hl⟩ :=
          readsOnly_range opening (Option.some.inj h)
        exact ⟨t :: used, rfl, l, ha, by simpa [hk] using hu, hl⟩
      · simp at h

theorem leafEnd_eq_ok {ts rest : List Token} {literal literal' : Literal}
    (h : Parse.leafEnd literal ts = .ok (literal', rest)) :
    literal' = literal ∧ rest = ts := by
  cases ts with
  | nil =>
      obtain ⟨rfl, rfl⟩ := by simpa [Parse.leafEnd] using h
      exact ⟨rfl, rfl⟩
  | cons t ts =>
      simp only [Parse.leafEnd] at h
      split at h
      · simp at h
      · obtain ⟨rfl, rfl⟩ := by simpa using h
        exact ⟨rfl, rfl⟩

theorem leaf?_eq_ok {ts rest : List Token} {literal : Literal}
    (h : Parse.leaf? ts = some (.ok (literal, rest))) :
    ∃ used, ts = used ++ rest ∧ ∃ l : Leaf, l.Admissible ∧
      used.map Token.kind = l.kinds ∧ literal = l.literal := by
  simp only [Parse.leaf?, Option.map_eq_some_iff] at h
  obtain ⟨step, hstep, h⟩ := h
  obtain ⟨⟨literal', rest'⟩, rfl, h⟩ := bind_eq_ok.mp h
  obtain ⟨rfl, rfl⟩ := leafEnd_eq_ok h
  exact leafStart?_eq_ok hstep

theorem readsOnly_boostEnd (e : Expr) :
    ReadsOnly (Parse.boostEnd e) fun ks e' =>
      ∃ factor, AdmissibleFactor factor ∧ ks = boostKinds factor ∧
        e' = withBoost e factor := by
  intro ts rest e' h
  cases ts with
  | nil =>
      obtain ⟨rfl, rfl⟩ := by simpa [Parse.boostEnd] using h
      exact ⟨[], rfl, none, by simp [AdmissibleFactor], rfl, rfl⟩
  | cons t ts =>
      simp only [Parse.boostEnd] at h
      split at h
      · split at h
        · rename_i factor hk hf
          obtain ⟨rfl, rfl⟩ := by simpa using h
          exact ⟨[t], rfl, some factor, by simpa [AdmissibleFactor] using hf,
            by simp [hk, boostKinds], rfl⟩
        · simp at h
      · obtain ⟨rfl, rfl⟩ := by simpa using h
        exact ⟨[], rfl, none, by simp [AdmissibleFactor], rfl, rfl⟩

theorem readsOnly_comparedValue (field : String) :
    ReadsOnly (Parse.comparedValue field) fun ks v =>
      ∃ p : Plain, ks = [p.kind] ∧ v = p.text := by
  intro ts rest v h
  cases ts with
  | nil => simp [Parse.comparedValue] at h
  | cons t ts =>
      simp only [Parse.comparedValue] at h
      split at h
      · rename_i text hk
        obtain ⟨rfl, rfl⟩ := by simpa using h
        exact ⟨[t], rfl, .term text, by simp [hk, Plain.kind], rfl⟩
      · rename_i content hk
        obtain ⟨rfl, rfl⟩ := by simpa using h
        exact ⟨[t], rfl, .phrase content, by simp [hk, Plain.kind], rfl⟩
      · simp at h

/-! ## Groups and what stands behind a field name -/

/-- A whole group with at most `n` levels in it and itself. -/
def DerivesGroup (n : Nat) (ks : List TokenKind) (e : Expr) : Prop :=
  ∃ d : Disjunct, d.Admissible ∧ d.levels + 1 ≤ n ∧
    ks = .openGroup :: d.kinds ++ [.closeGroup] ∧ e = d.expr

/-- A parser of groups, which is only asked at an opening parenthesis. -/
def ReadsGroups (group : Parse.Parser Expr) (n : Nat) : Prop :=
  ∀ {t : Token} {ts rest : List Token} {e : Expr}, t.kind = .openGroup →
    group (t :: ts) = .ok (e, rest) →
      ∃ used, t :: ts = used ++ rest ∧ DerivesGroup n (used.map Token.kind) e

def DerivesBoosted (n : Nat) (field : Option String) (ks : List TokenKind)
    (e : Expr) : Prop :=
  ∃ b : Boosted, b.Admissible field ∧ b.levels ≤ n ∧ ks = b.kinds ∧
    e = b.expr field

def DerivesOperand (n : Nat) (ks : List TokenKind) (e : Expr) : Prop :=
  ∃ o : Operand, o.Admissible ∧ o.levels ≤ n ∧ ks = o.kinds ∧ e = o.expr

def DerivesConjunct (n : Nat) (ks : List TokenKind) (e : Expr) : Prop :=
  ∃ c : Conjunct, c.Admissible ∧ c.levels ≤ n ∧ ks = c.kinds ∧ e = c.expr

def DerivesDisjunct (n : Nat) (ks : List TokenKind) (e : Expr) : Prop :=
  ∃ d : Disjunct, d.Admissible ∧ d.levels ≤ n ∧ ks = d.kinds ∧ e = d.expr

section

variable {group : Parse.Parser Expr} {n : Nat}

/-- A literal in front, with the factor behind it. -/
theorem derivesBoosted_of_leaf {ts rest : List Token} {e : Expr}
    {field : Option String} {step : Except Parse.Stop (Literal × List Token)}
    (hleaf : Parse.leaf? ts = some step)
    (h : (step >>= fun x => Parse.boostEnd (.leaf field x.1) x.2) =
      .ok (e, rest)) :
    ∃ used, ts = used ++ rest ∧
      DerivesBoosted n field (used.map Token.kind) e := by
  obtain ⟨⟨literal, after⟩, rfl, h⟩ := bind_eq_ok.mp h
  obtain ⟨u₁, rfl, l, hla, hlk, rfl⟩ := leaf?_eq_ok hleaf
  obtain ⟨u₂, rfl, factor, hfa, hfk, rfl⟩ := readsOnly_boostEnd _ h
  exact ⟨u₁ ++ u₂, by simp, .leaf l factor, ⟨hla, hfa⟩, Nat.zero_le n,
    by simp [hlk, hfk, Boosted.kinds], rfl⟩

/-- A group in front, with the factor behind it. -/
theorem derivesBoosted_of_group (hgroup : ReadsGroups group n)
    {t : Token} {ts after rest : List Token} {inner e : Expr}
    {field : Option String} (hk : t.kind = .openGroup)
    (hinner : group (t :: ts) = .ok (inner, after))
    (hscope : field.isSome → inner.hasFieldScope = false)
    (h : Parse.boostEnd (inScope field inner) after = .ok (e, rest)) :
    ∃ used, t :: ts = used ++ rest ∧
      DerivesBoosted n field (used.map Token.kind) e := by
  obtain ⟨u₁, hu, d, hda, hdl, hdk, rfl⟩ := hgroup hk hinner
  obtain ⟨u₂, rfl, factor, hfa, hfk, rfl⟩ := readsOnly_boostEnd _ h
  exact ⟨u₁ ++ u₂, by simp [hu], .group d factor, ⟨hda, hfa, hscope⟩, hdl,
    by simp [hdk, hfk, Boosted.kinds], rfl⟩

theorem readsOnly_boosted (hgroup : ReadsGroups group n) :
    ReadsOnly (Parse.boosted group) (DerivesBoosted n none) := by
  intro ts rest e h
  simp only [Parse.boosted] at h
  split at h
  · rename_i step hleaf
    exact derivesBoosted_of_leaf hleaf h
  · split at h
    · simp at h
    · split at h
      · rename_i hk
        obtain ⟨⟨inner, after⟩, hinner, h⟩ := bind_eq_ok.mp h
        exact derivesBoosted_of_group hgroup hk hinner (by simp) h
      · simp at h

theorem readsOnly_fieldBody (hgroup : ReadsGroups group n)
    (name : String) :
    ReadsOnly (Parse.fieldBody group name) fun ks e =>
      ∃ b : Body, b.Admissible name ∧ b.levels ≤ n ∧ ks = b.kinds ∧
        e = b.expr name := by
  intro ts rest e h
  simp only [Parse.fieldBody] at h
  split at h
  · rename_i step hleaf
    obtain ⟨used, rfl, b, hba, hbl, hbk, rfl⟩ :=
      derivesBoosted_of_leaf (n := n) hleaf h
    exact ⟨used, rfl, .boosted b, hba, hbl, hbk, rfl⟩
  · split at h
    · simp at h
    · rename_i t ts _
      split at h
      · rename_i c hk
        obtain ⟨⟨v, after⟩, hv, h⟩ := bind_eq_ok.mp h
        obtain ⟨used, rfl, p, hpk, rfl⟩ := readsOnly_comparedValue name hv
        obtain ⟨rfl, rfl⟩ := by simpa using h
        exact ⟨t :: used, rfl, .comparison c p, trivial, Nat.zero_le n,
          by simp [hk, hpk, Body.kinds], rfl⟩
      · rename_i hk
        obtain ⟨⟨inner, after⟩, hinner, h⟩ := bind_eq_ok.mp h
        split at h
        · simp at h
        · rename_i hscope
          have hscope : (some name).isSome → inner.hasFieldScope = false :=
            fun _ => by simpa using hscope
          obtain ⟨used, hu, b, hba, hbl, hbk, rfl⟩ :=
            derivesBoosted_of_group hgroup hk hinner hscope h
          exact ⟨used, hu, .boosted b, hba, hbl, hbk, rfl⟩
      · simp at h

end

/-! ## Conjuncts and disjuncts -/

section

variable {operand : Parse.Parser Expr} {n : Nat}

theorem operandAhead?_eq_some {ts ahead : List Token}
    (h : Parse.operandAhead? ts = some ahead) :
    ∃ used written, ts = used ++ ahead ∧
      used.map Token.kind = andKinds written := by
  cases ts with
  | nil => simp [Parse.operandAhead?] at h
  | cons t ts =>
      simp only [Parse.operandAhead?] at h
      split at h
      · rename_i hk
        obtain rfl := Option.some.inj h
        exact ⟨[t], true, rfl, by simp [hk, andKinds]⟩
      · split at h
        · obtain rfl := Option.some.inj h
          exact ⟨[], false, rfl, rfl⟩
        · simp at h

/-- The first operand of a conjunct and those behind it. -/
theorem derives_moreOperands (hop : ReadsOnly operand (DerivesOperand n)) :
    ∀ (fuel : Nat) {ts rest : List Token} {es : List Expr} (o : Operand),
      o.Admissible → o.levels ≤ n →
      Parse.moreOperands operand fuel ts = .ok (es, rest) →
        ∃ used, ts = used ++ rest ∧ ∃ c : Conjunct, c.Admissible ∧
          c.levels ≤ n ∧ o.kinds ++ used.map Token.kind = c.kinds ∧
          o.expr :: es = c.exprs := by
  intro fuel
  induction fuel with
  | zero =>
      -- without fuel the loop stops, but only between operands
      intro ts rest es o hoa hol h
      obtain ⟨rfl, rfl⟩ := by simpa [Parse.moreOperands] using h
      exact ⟨[], rfl, .last o, hoa, hol, by simp [Conjunct.kinds], rfl⟩
  | succ fuel ih =>
      intro ts rest es o hoa hol h
      simp only [Parse.moreOperands] at h
      split at h
      · obtain ⟨rfl, rfl⟩ := by simpa using h
        exact ⟨[], rfl, .last o, hoa, hol, by simp [Conjunct.kinds], rfl⟩
      · rename_i ahead hahead
        obtain ⟨u₁, written, rfl, hw⟩ := operandAhead?_eq_some hahead
        obtain ⟨⟨e, ts₁⟩, he, h⟩ := bind_eq_ok.mp h
        obtain ⟨⟨more, ts₂⟩, hmore, h⟩ := bind_eq_ok.mp h
        obtain ⟨u₂, rfl, o', ho'a, ho'l, ho'k, rfl⟩ := hop he
        obtain ⟨u₃, rfl, c, hca, hcl, hck, hce⟩ := ih o' ho'a ho'l hmore
        obtain ⟨rfl, rfl⟩ := by simpa using h
        refine ⟨u₁ ++ u₂ ++ u₃, by simp, .and written o c, ⟨hoa, hca⟩,
          Nat.max_le.mpr ⟨hol, hcl⟩, ?_, by simp [Conjunct.exprs, ← hce]⟩
        simp [Conjunct.kinds, ← hck, hw, ho'k]

theorem readsOnly_conjunct (hop : ReadsOnly operand (DerivesOperand n)) :
    ReadsOnly (Parse.conjunct operand) (DerivesConjunct n) := by
  intro ts rest e h
  simp only [Parse.conjunct] at h
  obtain ⟨⟨first, ts₁⟩, hfirst, h⟩ := bind_eq_ok.mp h
  obtain ⟨⟨more, ts₂⟩, hmore, h⟩ := bind_eq_ok.mp h
  obtain ⟨u₁, rfl, o, hoa, hol, hok, rfl⟩ := hop hfirst
  obtain ⟨u₂, rfl, c, hca, hcl, hck, hce⟩ :=
    derives_moreOperands hop _ o hoa hol hmore
  obtain ⟨rfl, rfl⟩ := by simpa using h
  exact ⟨u₁ ++ u₂, by simp, c, hca, hcl, by simp [hok, hck],
    by simp [Conjunct.expr, hce]⟩

/-- The first conjunct of a disjunct and those behind it. -/
theorem derives_moreConjuncts (hop : ReadsOnly operand (DerivesOperand n)) :
    ∀ (fuel : Nat) {ts rest : List Token} {es : List Expr} (c : Conjunct),
      c.Admissible → c.levels ≤ n →
      Parse.moreConjuncts operand fuel ts = .ok (es, rest) →
        ∃ used, ts = used ++ rest ∧ ∃ d : Disjunct, d.Admissible ∧
          d.levels ≤ n ∧ c.kinds ++ used.map Token.kind = d.kinds ∧
          c.expr :: es = d.exprs := by
  intro fuel
  induction fuel with
  | zero =>
      intro ts rest es c hca hcl h
      obtain ⟨rfl, rfl⟩ := by simpa [Parse.moreConjuncts] using h
      exact ⟨[], rfl, .last c, hca, hcl, by simp [Disjunct.kinds], rfl⟩
  | succ fuel ih =>
      intro ts rest es c hca hcl h
      simp only [Parse.moreConjuncts] at h
      split at h
      · obtain ⟨rfl, rfl⟩ := by simpa using h
        exact ⟨[], rfl, .last c, hca, hcl, by simp [Disjunct.kinds], rfl⟩
      · rename_i t ts
        split at h
        · rename_i hk
          obtain ⟨⟨e, ts₁⟩, he, h⟩ := bind_eq_ok.mp h
          obtain ⟨⟨more, ts₂⟩, hmore, h⟩ := bind_eq_ok.mp h
          obtain ⟨u₁, rfl, c', hc'a, hc'l, hc'k, rfl⟩ :=
            readsOnly_conjunct hop he
          obtain ⟨u₂, rfl, d, hda, hdl, hdk, hde⟩ := ih c' hc'a hc'l hmore
          obtain ⟨rfl, rfl⟩ := by simpa using h
          refine ⟨t :: u₁ ++ u₂, by simp, .or c d, ⟨hca, hda⟩,
            Nat.max_le.mpr ⟨hcl, hdl⟩, ?_, by simp [Disjunct.exprs, ← hde, Conjunct.expr]⟩
          simp [Disjunct.kinds, ← hdk, hk, hc'k]
        · obtain ⟨rfl, rfl⟩ := by simpa using h
          exact ⟨[], rfl, .last c, hca, hcl, by simp [Disjunct.kinds], rfl⟩

theorem readsOnly_disjunct (hop : ReadsOnly operand (DerivesOperand n)) :
    ReadsOnly (Parse.disjunct operand) (DerivesDisjunct n) := by
  intro ts rest e h
  simp only [Parse.disjunct] at h
  obtain ⟨⟨first, ts₁⟩, hfirst, h⟩ := bind_eq_ok.mp h
  obtain ⟨⟨more, ts₂⟩, hmore, h⟩ := bind_eq_ok.mp h
  obtain ⟨u₁, rfl, c, hca, hcl, hck, rfl⟩ := readsOnly_conjunct hop hfirst
  obtain ⟨u₂, rfl, d, hda, hdl, hdk, hde⟩ :=
    derives_moreConjuncts hop _ c hca hcl hmore
  obtain ⟨rfl, rfl⟩ := by simpa using h
  exact ⟨u₁ ++ u₂, by simp, d, hda, hdl, by simp [hck, hdk],
    by simp [Disjunct.expr, hde]⟩

end

/-! ## Operands -/

theorem closeGroup_eq_ok {ts rest : List Token} {e e' : Expr}
    (h : Parse.closeGroup e ts = .ok (e', rest)) :
    e' = e ∧ ∃ t, t.kind = .closeGroup ∧ ts = t :: rest := by
  cases ts with
  | nil => simp [Parse.closeGroup] at h
  | cons t ts =>
      simp only [Parse.closeGroup] at h
      split at h
      · rename_i hk
        obtain ⟨rfl, rfl⟩ := by simpa using h
        exact ⟨rfl, t, hk, rfl⟩
      · simp at h

theorem readsGroups_none (n : Nat) : ReadsGroups (Parse.group none) n := by
  intro t ts rest e _ h
  simp [Parse.group] at h

theorem readsGroups_some {operand : Parse.Parser Expr} {n : Nat}
    (hop : ReadsOnly operand (DerivesOperand n)) :
    ReadsGroups (Parse.group (some operand)) (n + 1) := by
  intro t ts rest e ht h
  simp only [Parse.group, List.tail_cons] at h
  obtain ⟨⟨inner, after⟩, hinner, h⟩ := bind_eq_ok.mp h
  obtain ⟨u, rfl, d, hda, hdl, hdk, rfl⟩ := readsOnly_disjunct hop hinner
  obtain ⟨rfl, t', ht', rfl⟩ := closeGroup_eq_ok h
  exact ⟨t :: u ++ [t'], by simp, d, hda, by omega, by simp [ht, ht', hdk], rfl⟩

/-- Where a group or a negation is no level too deep, its inside is read with
one level less. -/
theorem readsOnly_operandWith {inner? : Option (Parse.Parser Expr)} {n : Nat}
    (hgroup : ReadsGroups (Parse.group inner?) n)
    (hinner : ∀ p, inner? = some p →
      ∃ m, m + 1 ≤ n ∧ ReadsOnly p (DerivesOperand m)) :
    ReadsOnly (Parse.operandWith inner?) (DerivesOperand n) := by
  intro ts rest e h
  cases ts with
  | nil => simp [Parse.operandWith, Parse.boosted, Parse.leaf?,
      Parse.leafStart?] at h
  | cons t ts =>
      simp only [Parse.operandWith] at h
      split at h
      · rename_i hk
        split at h
        · simp at h
        · rename_i p
          obtain ⟨m, hm, hp⟩ := hinner p rfl
          obtain ⟨⟨e', rest'⟩, he, h⟩ := map_eq_ok.mp h
          obtain ⟨u, rfl, o, hoa, hol, hok, rfl⟩ := hp he
          obtain ⟨rfl, rfl⟩ := by simpa using h
          exact ⟨t :: u, rfl, .not o, hoa, by simp only [Operand.levels]; omega,
            by simp [hk, hok, Operand.kinds], rfl⟩
      · rename_i name hk
        obtain ⟨u, rfl, b, hba, hbl, hbk, rfl⟩ :=
          readsOnly_fieldBody hgroup name h
        exact ⟨t :: u, rfl, .field name b, hba, hbl,
          by simp [hk, hbk, Operand.kinds], rfl⟩
      · obtain ⟨u, hu, b, hba, hbl, hbk, rfl⟩ := readsOnly_boosted hgroup h
        exact ⟨u, hu, .boosted b, hba, hbl, hbk, rfl⟩

theorem readsOnly_operand (n : Nat) :
    ReadsOnly (Parse.operand n) (DerivesOperand n) := by
  induction n with
  | zero =>
      exact readsOnly_operandWith (readsGroups_none 0) fun p hp => by simp at hp
  | succ n ih =>
      refine readsOnly_operandWith (readsGroups_some ih) fun p hp => ?_
      obtain rfl := Option.some.inj hp
      exact ⟨n, Nat.le_refl _, ih⟩

/-- An accepted query is derived. -/
theorem exists_derivation {ts : List Token} {e : Expr}
    (h : Parse.query ts = .ok (some e)) :
    ∃ d : Disjunct, d.kinds = ts.map Token.kind ∧ d.Admissible ∧
      d.levels ≤ maxDepth ∧ d.expr = e := by
  cases ts with
  | nil => simp [Parse.query] at h
  | cons t ts =>
      simp only [Parse.query] at h
      obtain ⟨⟨e', rest⟩, he, h⟩ := bind_eq_ok.mp h
      obtain ⟨u, hu, d, hda, hdl, hdk, rfl⟩ :=
        readsOnly_disjunct (readsOnly_operand maxDepth) he
      split at h
      · rename_i hrest
        obtain rfl := List.isEmpty_iff.mp hrest
        obtain rfl := by simpa using h
        exact ⟨d, by simp [hu, hdk], hda, hdl, rfl⟩
      · simp at h

end Searchlight.Grammar
