import Mathlib.Data.List.Basic
import Searchlight.Proofs.Grammar.Parsing

/-!
# The shape of parsed expressions

Groups that the parser returns are joined: at least two operands under `AND`
and `OR`, none of them a group of the same kind, and exactly one under `NOT`.
A field scope holds no other, and every factor is a positive finite number.
The same holds of every expression with an admissible derivation, which is
where it is proved.
-/

namespace Searchlight

open Grammar

namespace Expr

def isGroup (op : BoolOp) : Expr → Bool
  | bool inner _ => inner = op
  | _ => false

/-- Operands as `Expr.group` and `Expr.not` leave them. -/
def Joined (op : BoolOp) (operands : List Expr) : Prop :=
  match op with
  | .not => operands.length = 1
  | op => 2 ≤ operands.length ∧ ∀ e ∈ operands, isGroup op e = false

mutual

def Shaped : Expr → Prop
  | leaf _ _ => True
  | inField _ body => body.hasFieldScope = false ∧ body.Shaped
  | bool op operands => Joined op operands ∧ AllShaped operands
  | boosted body factor =>
      (factor.isFinite = true ∧ factor.isPositive = true) ∧ body.Shaped

def AllShaped : List Expr → Prop
  | [] => True
  | e :: rest => e.Shaped ∧ AllShaped rest

end

mutual

/-- No group is empty. -/
def GroupsNonempty : Expr → Prop
  | leaf _ _ => True
  | inField _ body => body.GroupsNonempty
  | bool _ operands => operands ≠ [] ∧ AllGroupsNonempty operands
  | boosted body _ => body.GroupsNonempty

def AllGroupsNonempty : List Expr → Prop
  | [] => True
  | e :: rest => e.GroupsNonempty ∧ AllGroupsNonempty rest

end

theorem allShaped_iff : ∀ {es : List Expr},
    AllShaped es ↔ ∀ e ∈ es, e.Shaped
  | [] => by simp [AllShaped]
  | e :: es => by simp [AllShaped, @allShaped_iff es]

theorem allGroupsNonempty_iff : ∀ {es : List Expr},
    AllGroupsNonempty es ↔ ∀ e ∈ es, e.GroupsNonempty
  | [] => by simp [AllGroupsNonempty]
  | e :: es => by simp [AllGroupsNonempty, @allGroupsNonempty_iff es]

theorem Joined.ne_nil {op : BoolOp} {operands : List Expr}
    (h : Joined op operands) : operands ≠ [] := by
  rintro rfl
  cases op <;> simp [Joined] at h

mutual

theorem Shaped.groupsNonempty : ∀ {e : Expr}, e.Shaped → e.GroupsNonempty
  | leaf _ _, _ => trivial
  | inField _ _, h => h.2.groupsNonempty
  | bool _ _, h => ⟨h.1.ne_nil, AllShaped.groupsNonempty h.2⟩
  | boosted _ _, h => h.2.groupsNonempty

theorem AllShaped.groupsNonempty : ∀ {es : List Expr}, AllShaped es →
    AllGroupsNonempty es
  | [], _ => trivial
  | _ :: _, h => ⟨h.1.groupsNonempty, AllShaped.groupsNonempty h.2⟩

end

/-! ## Joining operands -/

/-- An operand is a group of the same kind, or is added as it is. -/
theorem spliced_cases (op : BoolOp) (e : Expr) :
    (∃ operands, e = bool op operands ∧ spliced op e = operands) ∨
      (isGroup op e = false ∧ spliced op e = [e]) := by
  cases e with
  | bool inner operands =>
      by_cases h : inner = op
      · subst h
        exact .inl ⟨operands, rfl, if_pos rfl⟩
      · exact .inr ⟨by simpa [isGroup] using h, if_neg h⟩
  | _ => exact .inr ⟨rfl, rfl⟩

/-- A group is its only operand, or the node with its operands spliced. -/
theorem group_cases (op : BoolOp) (operands : List Expr) :
    operands.flatMap (spliced op) = [group op operands] ∨
      (∀ only, operands.flatMap (spliced op) ≠ [only]) ∧
        group op operands = bool op (operands.flatMap (spliced op)) := by
  rw [group]
  split
  · rename_i only heq
    exact .inl heq
  · rename_i hmany
    exact .inr ⟨hmany, rfl⟩

theorem Joined.two_le {op : BoolOp} (hop : op ≠ .not) {operands : List Expr}
    (h : Joined op operands) : 2 ≤ operands.length := by
  cases op with
  | not => exact absurd rfl hop
  | and => exact h.1
  | or => exact h.1

theorem Joined.not_group {op : BoolOp} (hop : op ≠ .not) {operands : List Expr}
    (h : Joined op operands) : ∀ e ∈ operands, isGroup op e = false := by
  cases op with
  | not => exact absurd rfl hop
  | and => exact h.2
  | or => exact h.2

/-- What an operand contributes to a group that is no negation. -/
theorem Shaped.spliced {op : BoolOp} (hop : op ≠ .not) {e : Expr}
    (he : e.Shaped) : spliced op e ≠ [] ∧
      ∀ x ∈ spliced op e, x.Shaped ∧ isGroup op x = false := by
  rcases spliced_cases op e with ⟨operands, rfl, hs⟩ | ⟨hg, hs⟩
  · rw [hs]
    exact ⟨he.1.ne_nil, fun x hx =>
      ⟨allShaped_iff.mp he.2 x hx, he.1.not_group hop x hx⟩⟩
  · rw [hs]
    simp [he, hg]

theorem shaped_group {op : BoolOp} (hop : op ≠ .not) {operands : List Expr}
    (hne : operands ≠ []) (hs : ∀ e ∈ operands, e.Shaped) :
    (group op operands).Shaped := by
  have hall : ∀ x ∈ operands.flatMap (Expr.spliced op),
      x.Shaped ∧ isGroup op x = false := by
    intro x hx
    obtain ⟨e, he, hx⟩ := List.mem_flatMap.mp hx
    exact ((hs e he).spliced hop).2 x hx
  have hflat : operands.flatMap (Expr.spliced op) ≠ [] := by
    obtain ⟨e, he⟩ := List.exists_mem_of_ne_nil operands hne
    intro hnil
    exact ((hs e he).spliced hop).1 (List.flatMap_eq_nil_iff.mp hnil e he)
  rcases group_cases op operands with h | ⟨hmany, h⟩
  · exact (hall _ (by simp [h])).1
  -- neither none nor one is left after splicing
  · have hlen : 2 ≤ (operands.flatMap (Expr.spliced op)).length := by
      match hl : operands.flatMap (Expr.spliced op) with
      | [] => exact absurd hl hflat
      | [only] => exact absurd hl (hmany only)
      | _ :: _ :: _ => simp
    rw [h]
    refine ⟨?_, allShaped_iff.mpr fun x hx => (hall x hx).1⟩
    cases op with
    | not => exact absurd rfl hop
    | and => exact ⟨hlen, fun x hx => (hall x hx).2⟩
    | or => exact ⟨hlen, fun x hx => (hall x hx).2⟩

/-- Joined operands are left as they are. -/
theorem Joined.group_eq {op : BoolOp} (hop : op ≠ .not) {operands : List Expr}
    (h : Joined op operands) : group op operands = bool op operands := by
  have hself : ∀ e ∈ operands, Expr.spliced op e = [e] := by
    intro e he
    rcases spliced_cases op e with ⟨inner, rfl, -⟩ | ⟨-, hs⟩
    · have hnone := h.not_group hop _ he
      simp [isGroup] at hnone
    · exact hs
  have hflat : operands.flatMap (Expr.spliced op) = operands := by
    rw [List.flatMap_congr hself, List.flatMap_singleton']
  rcases group_cases op operands with hg | ⟨-, hg⟩
  · have hlen := h.two_le hop
    rw [← hflat, hg] at hlen
    simp at hlen
  · rw [hg, hflat]

/-- A single operand stands for itself. -/
theorem Shaped.group_singleton {op : BoolOp} (hop : op ≠ .not) {e : Expr}
    (he : e.Shaped) : group op [e] = e := by
  have hflat : [e].flatMap (Expr.spliced op) = Expr.spliced op e := by simp
  rcases group_cases op [e] with h | ⟨hmany, h⟩
  · rcases spliced_cases op e with ⟨operands, rfl, hs⟩ | ⟨-, hs⟩
    · have hlen := he.1.two_le hop
      rw [← hs, ← hflat, h] at hlen
      simp at hlen
    · rw [hflat, hs] at h
      exact (List.singleton_inj.mp h).symm
  · rcases spliced_cases op e with ⟨operands, rfl, hs⟩ | ⟨-, hs⟩
    · rw [h, hflat, hs]
    · exact absurd (hflat.trans hs) (hmany e)

end Expr

/-! ## Expressions of derivations -/

namespace Grammar

theorem Disjunct.exprs_ne_nil (d : Disjunct) : d.exprs ≠ [] := by
  cases d <;> simp [Disjunct.exprs]

theorem Conjunct.exprs_ne_nil (c : Conjunct) : c.exprs ≠ [] := by
  cases c <;> simp [Conjunct.exprs]

theorem shaped_withBoost {e : Expr} (he : e.Shaped) {factor : Option Single}
    (hf : AdmissibleFactor factor) : (withBoost e factor).Shaped := by
  cases factor with
  | none => exact he
  | some x => exact ⟨hf x rfl, he⟩

theorem shaped_inScope {e : Expr} (he : e.Shaped) {field : Option String}
    (hs : field.isSome → e.hasFieldScope = false) : (inScope field e).Shaped := by
  cases field with
  | none => exact he
  | some name => exact ⟨hs rfl, he⟩

mutual

theorem Disjunct.allShaped : ∀ {d : Disjunct}, d.Admissible →
    ∀ e ∈ d.exprs, e.Shaped
  | .last c, h, e, he => by
      obtain rfl := List.mem_singleton.mp he
      exact Expr.shaped_group (by decide) c.exprs_ne_nil (Conjunct.allShaped h)
  | .or c d, h, e, he => by
      rcases List.mem_cons.mp he with rfl | he
      · exact Expr.shaped_group (by decide) c.exprs_ne_nil
          (Conjunct.allShaped h.1)
      · exact Disjunct.allShaped h.2 e he

theorem Conjunct.allShaped : ∀ {c : Conjunct}, c.Admissible →
    ∀ e ∈ c.exprs, e.Shaped
  | .last o, h, e, he => by
      obtain rfl := List.mem_singleton.mp he
      exact Operand.shaped h
  | .and _ o c, h, e, he => by
      rcases List.mem_cons.mp he with rfl | he
      · exact Operand.shaped h.1
      · exact Conjunct.allShaped h.2 e he

theorem Operand.shaped : ∀ {o : Operand}, o.Admissible → o.expr.Shaped
  | .not o, h => ⟨rfl, Operand.shaped (o := o) h, trivial⟩
  | .field _ b, h => Body.shaped (b := b) h
  | .boosted b, h => Boosted.shaped (b := b) h

theorem Body.shaped : ∀ {b : Body} {name : String}, b.Admissible name →
    (b.expr name).Shaped
  | .comparison _ _, _, _ => trivial
  | .boosted b, _, h => Boosted.shaped (b := b) h

theorem Boosted.shaped : ∀ {b : Boosted} {field : Option String},
    b.Admissible field → (b.expr field).Shaped
  | .leaf l _, field, h =>
      shaped_withBoost (e := .leaf field l.literal) trivial h.2
  | .group d _, _, h =>
      shaped_withBoost (shaped_inScope (Expr.shaped_group (by decide)
        d.exprs_ne_nil (Disjunct.allShaped h.1)) h.2.2) h.2.1

end

theorem Disjunct.shaped {d : Disjunct} (h : d.Admissible) : d.expr.Shaped :=
  Expr.shaped_group (by decide) d.exprs_ne_nil (Disjunct.allShaped h)

/-! ## Derivations of single operands -/

/-- A derivation in parentheses, as one operand. -/
def Disjunct.grouped (d : Disjunct) : Operand := .boosted (.group d none)

/-- A single operand, as a whole query. -/
def Operand.alone (o : Operand) : Disjunct := .last (.last o)

theorem Disjunct.grouped_admissible {d : Disjunct} (ha : d.Admissible) :
    d.grouped.Admissible :=
  ⟨ha, by simp [AdmissibleFactor], by simp⟩

theorem Operand.alone_expr {o : Operand} (ha : o.Admissible) :
    o.alone.expr = o.expr := by
  have hs := Operand.shaped ha
  change Expr.group .or [Expr.group .and [o.expr]] = o.expr
  rw [hs.group_singleton (by decide), hs.group_singleton (by decide)]

end Grammar

/-- The derivation behind a parsed query string. -/
theorem parseQuery_eq_ok_some_iff {query : String} {e : Expr} :
    parseQuery query = .ok (some e) ↔
      ∃ (ts : List Token) (d : Disjunct), tokenize query = .ok ts ∧
        d.kinds = ts.map Token.kind ∧ d.Admissible ∧ d.levels ≤ maxDepth ∧
        d.expr = e := by
  constructor
  · intro h
    rw [parseQuery] at h
    split at h
    · simp at h
    · rename_i ts htok
      split at h
      · simp at h
      · rename_i e' hquery
        obtain rfl := Except.ok.inj h
        obtain ⟨d, hd⟩ := query_eq_ok_some_iff.mp hquery
        exact ⟨ts, d, htok, hd⟩
  · rintro ⟨ts, d, htok, hd⟩
    rw [parseQuery, htok]
    simp only [query_eq_ok_some_iff.mpr ⟨d, hd⟩]

theorem parseQuery_of_stop {query : String} {ts : List Token}
    {stop : Parse.Stop} (htok : tokenize query = .ok ts)
    (h : Parse.query ts = .error stop) :
    parseQuery query =
      .error (.parse (stop.toError (Text.byteLength query.toList))) := by
  rw [parseQuery, htok]
  simp only [h]

theorem shaped_of_parseQuery {query : String} {e : Expr}
    (h : parseQuery query = .ok (some e)) : e.Shaped := by
  obtain ⟨_, d, _, _, ha, _, rfl⟩ := parseQuery_eq_ok_some_iff.mp h
  exact d.shaped ha

end Searchlight
