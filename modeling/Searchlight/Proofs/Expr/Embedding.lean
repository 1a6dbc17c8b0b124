import Searchlight.Proofs.Expr.Shape
import Searchlight.Proofs.Grammar.Scanning

/-!
# Queries inside queries

A query in parentheses is read as it is read alone: nothing of it reaches the
query around it, and nothing around it changes what it stands for. So queries
can be joined, negated and scoped as texts. What remains of the inner query is
how deep it nests, which counts towards the depth of the whole.
-/

namespace Searchlight

open Scan Grammar Canonical

/-- How many groups and negations a query opens inside each other. -/
def Opens (query : String) (n : Nat) : Prop :=
  ∃ (ts : List Token) (d : Disjunct), tokenize query = .ok ts ∧
    d.kinds = ts.map Token.kind ∧ d.Admissible ∧ d.levels = n

def NestsTooDeep (query : String) : Prop :=
  ∃ e, parseQuery query = .error (.parse e) ∧ e.expected = .shallowerNesting

/-- The query stands for `e`, unless it does not fit and nests too deep. -/
def Yields (query : String) (fits : Prop) (e : Expr) : Prop :=
  (fits → parseQuery query = .ok (some e)) ∧ (¬fits → NestsTooDeep query)

theorem existsUnique_opens {query : String} {e : Expr}
    (h : parseQuery query = .ok (some e)) : ∃! n, Opens query n := by
  obtain ⟨ts, d, htok, hts, ha, -, -⟩ := parseQuery_eq_ok_some_iff.mp h
  refine ⟨d.levels, ⟨ts, d, htok, hts, ha, rfl⟩, ?_⟩
  rintro n ⟨ts', d', htok', hts', -, rfl⟩
  obtain rfl := Except.ok.inj (htok.symm.trans htok')
  rw [Disjunct.kinds_injective (hts'.trans hts.symm)]

/-- The only derivation of a parsed query. -/
theorem Opens.derivation {query : String} {e : Expr} {n : Nat}
    (hn : Opens query n) (h : parseQuery query = .ok (some e)) :
    ∃ d : Disjunct, d.Admissible ∧ Reads {} query.toList d.kinds ∧
      d.levels = n ∧ d.expr = e ∧ n ≤ maxDepth := by
  obtain ⟨ts, d, htok, hts, ha, hl, rfl⟩ := parseQuery_eq_ok_some_iff.mp h
  obtain rfl := (existsUnique_opens h).unique hn ⟨ts, d, htok, hts, ha, rfl⟩
  exact ⟨d, ha, d.reads (tokenize_eq_ok_iff.mp ⟨ts, htok, hts.symm⟩), rfl, rfl,
    hl⟩

/-- What is read as the tokens of a derivation stands for its expression. -/
theorem yields_of_reads {query : String} {d : Disjunct} {fits : Prop} {e : Expr}
    (h : Reads {} query.toList d.kinds) (ha : d.Admissible)
    (hfits : d.levels ≤ maxDepth ↔ fits) (he : d.expr = e) :
    Yields query fits e := by
  obtain ⟨ts, htok, hts⟩ := tokenize_eq_ok_iff.mpr h.lexes
  constructor
  · intro hf
    exact parseQuery_eq_ok_some_iff.mpr
      ⟨ts, d, htok, hts.symm, ha, hfits.mpr hf, he⟩
  · intro hf
    obtain ⟨rest, hrest⟩ := ((query_outcome ha hts).congr hfits).2 hf
    exact ⟨_, parseQuery_of_stop htok hrest, rfl⟩

variable {q₁ q₂ : String} {d₁ d₂ : Disjunct}

/-! ## The texts around queries -/

theorem reads_alternatives (h₁ : Reads {} q₁.toList d₁.kinds)
    (h₂ : Reads {} q₂.toList d₂.kinds) :
    Reads {} ("(" ++ q₁ ++ ") OR (" ++ q₂ ++ ")").toList
      (d₁.grouped.kinds ++ .or :: d₂.grouped.kinds) := by
  have htext : ("(" ++ q₁ ++ ") OR (" ++ q₂ ++ ")").toList =
      parenthesize q₁.toList ++
        (' ' :: "OR".toList ++ ' ' :: parenthesize q₂.toList) := by
    simp [parenthesize]
  rw [htext]
  exact (h₁.group rfl).append (reads_operator reads_or (h₂.group rfl))
    (boundary_space _)

theorem reads_both (h₁ : Reads {} q₁.toList d₁.kinds)
    (h₂ : Reads {} q₂.toList d₂.kinds) :
    Reads {} ("(" ++ q₁ ++ ") AND (" ++ q₂ ++ ")").toList
      (d₁.grouped.kinds ++ andKinds true ++ d₂.grouped.kinds) := by
  have htext : ("(" ++ q₁ ++ ") AND (" ++ q₂ ++ ")").toList =
      parenthesize q₁.toList ++
        (' ' :: "AND".toList ++ ' ' :: parenthesize q₂.toList) := by
    simp [parenthesize]
  rw [htext, List.append_assoc]
  exact (h₁.group rfl).append (reads_operator reads_and (h₂.group rfl))
    (boundary_space _)

theorem reads_adjacent (h₁ : Reads {} q₁.toList d₁.kinds)
    (h₂ : Reads {} q₂.toList d₂.kinds) :
    Reads {} ("(" ++ q₁ ++ ") (" ++ q₂ ++ ")").toList
      (d₁.grouped.kinds ++ andKinds false ++ d₂.grouped.kinds) := by
  have htext : ("(" ++ q₁ ++ ") (" ++ q₂ ++ ")").toList =
      parenthesize q₁.toList ++ ' ' :: parenthesize q₂.toList := by
    simp [parenthesize]
  rw [htext, List.append_assoc]
  exact (h₁.group rfl).append ((h₂.group rfl).blank (by decide))
    (boundary_space _)

theorem reads_minus (h₁ : Reads {} q₁.toList d₁.kinds) :
    Reads {} ("-(" ++ q₁ ++ ")").toList (.not :: d₁.grouped.kinds) := by
  have htext : ("-(" ++ q₁ ++ ")").toList = '-' :: parenthesize q₁.toList := by
    simp [parenthesize]
  rw [htext]
  exact (h₁.group rfl).negated

theorem reads_negation (h₁ : Reads {} q₁.toList d₁.kinds) :
    Reads {} ("NOT (" ++ q₁ ++ ")").toList (.not :: d₁.grouped.kinds) := by
  have htext : ("NOT (" ++ q₁ ++ ")").toList =
      "NOT".toList ++ ' ' :: parenthesize q₁.toList := by
    simp [parenthesize]
  rw [htext]
  exact reads_not.append ((h₁.group rfl).blank (by decide)) (boundary_space _)

/-! ## Joined and negated queries -/

theorem yields_or {query : String} (ha₁ : d₁.Admissible) (ha₂ : d₂.Admissible)
    (h : Reads {} query.toList
      (d₁.grouped.kinds ++ .or :: d₂.grouped.kinds)) :
    Yields query (d₁.levels < maxDepth ∧ d₂.levels < maxDepth)
      (.or [d₁.expr, d₂.expr]) := by
  refine yields_of_reads (d := .or (.last d₁.grouped) d₂.grouped.alone) h
    ⟨Disjunct.grouped_admissible ha₁, Disjunct.grouped_admissible ha₂⟩
    Nat.max_le ?_
  change Expr.group .or [Expr.group .and [d₁.expr], Expr.group .and [d₂.expr]] =
    .or [d₁.expr, d₂.expr]
  rw [(d₁.shaped ha₁).group_singleton (by decide),
    (d₂.shaped ha₂).group_singleton (by decide), Expr.or]

/-- Operands of `AND`, whether it is written or not. -/
theorem yields_and (written : Bool) {query : String}
    (ha₁ : d₁.Admissible) (ha₂ : d₂.Admissible)
    (h : Reads {} query.toList
      (d₁.grouped.kinds ++ andKinds written ++ d₂.grouped.kinds)) :
    Yields query (d₁.levels < maxDepth ∧ d₂.levels < maxDepth)
      (.and [d₁.expr, d₂.expr]) := by
  refine yields_of_reads
    (d := .last (.and written d₁.grouped (.last d₂.grouped))) h
    ⟨Disjunct.grouped_admissible ha₁, Disjunct.grouped_admissible ha₂⟩
    Nat.max_le ?_
  have hs : (Expr.and [d₁.expr, d₂.expr]).Shaped :=
    Expr.shaped_group (by decide) (by simp)
      (by simp [d₁.shaped ha₁, d₂.shaped ha₂])
  exact hs.group_singleton (by decide)

theorem yields_not {query : String} (ha₁ : d₁.Admissible)
    (h : Reads {} query.toList (.not :: d₁.grouped.kinds)) :
    Yields query (d₁.levels + 1 < maxDepth) d₁.expr.not :=
  yields_of_reads (d := (Operand.not d₁.grouped).alone) h
    (Disjunct.grouped_admissible ha₁) Iff.rfl
    (Operand.alone_expr (o := .not d₁.grouped)
      (Disjunct.grouped_admissible ha₁))

/-! ## Groups behind a field name -/

theorem operand_field {name : String} {n : Nat} {t : Token} {ts : List Token}
    (ht : t.kind = .field name) :
    Parse.operand n (t :: ts) =
      Parse.fieldBody (Parse.group (innerAt n)) name ts := by
  simp [operand_eq, Parse.operandWith, ht]

/-- An operand that cannot be read ends the reading of the query. -/
theorem query_of_operand_stop {t : Token} {ts : List Token} {stop : Parse.Stop}
    (h : Parse.operand maxDepth (t :: ts) = .error stop) :
    Parse.query (t :: ts) = .error stop := by
  simp [Parse.query, Parse.disjunct, Parse.conjunct, h, bind, Except.bind]

/-- A group with a field scope is read to its end before it is refused. -/
theorem query_scoped_group {d : Disjunct} (ha : d.Admissible) {name : String}
    {ts : List Token}
    (hts : ts.map Token.kind = .field name :: d.grouped.kinds)
    (hscope : d.expr.hasFieldScope = true) :
    (d.levels < maxDepth →
      ∃ rest, Parse.query ts = .error ⟨.unscopedGroup name, rest⟩) ∧
    (¬d.levels < maxDepth →
      ∃ rest, Parse.query ts = .error ⟨.shallowerNesting, rest⟩) := by
  obtain ⟨t, ts, rfl, ht, hts⟩ := List.map_eq_cons_iff.mp hts
  obtain ⟨t₁, ts, rfl, ht₁, hts⟩ := List.map_eq_cons_iff.mp hts
  obtain ⟨td, tc, rfl, htd, htc⟩ := List.map_eq_append_iff.mp hts
  obtain ⟨t₂, tc, rfl, ht₂, hnil⟩ := List.map_eq_cons_iff.mp htc
  obtain rfl := List.map_eq_nil_iff.mp hnil
  obtain ⟨hok, herror⟩ := group_outcome (fun n _ _ => d.outcome n ha) maxDepth
    t₁ [] htd ht₂
  -- the group decides alone whether it is too deep, and its scope comes second
  have hbody : Parse.operand maxDepth (t :: t₁ :: (td ++ [t₂])) =
      (Parse.group (innerAt maxDepth) (t₁ :: (td ++ [t₂]))).bind
        fun step =>
          if step.1.hasFieldScope then
            .error ⟨.unscopedGroup name, t₁ :: (td ++ [t₂])⟩
          else Parse.boostEnd (.inField name step.1) step.2 := by
    rw [operand_field ht, Parse.fieldBody, leaf?_eq_none (.inl ht₁)]
    simp only [ht₁]
    rfl
  constructor
  · intro hl
    refine ⟨t₁ :: (td ++ [t₂]), query_of_operand_stop ?_⟩
    rw [hbody, hok hl]
    simp only [Except.bind, hscope, if_true]
  · intro hl
    obtain ⟨rest, hrest⟩ := herror hl
    refine ⟨rest, query_of_operand_stop ?_⟩
    rw [hbody, hrest]
    rfl

/-- The query that scopes another one to a field. -/
def scopedTo (field query : String) : String :=
  String.ofList (escapeWord field.toList) ++ ":(" ++ query ++ ")"

theorem reads_scopedTo (h₁ : Reads {} q₁.toList d₁.kinds) {field : String}
    (hfield : field ≠ "") :
    Reads {} (scopedTo field q₁).toList (.field field :: d₁.grouped.kinds) := by
  have htext : (scopedTo field q₁).toList =
      fieldName field ++ parenthesize q₁.toList := by
    simp [scopedTo, fieldName, parenthesize]
  rw [htext]
  exact (h₁.group rfl).inField hfield

theorem yields_inField (h₁ : Reads {} q₁.toList d₁.kinds)
    (ha₁ : d₁.Admissible) {field : String} (hfield : field ≠ "")
    (hscope : d₁.expr.hasFieldScope = false) :
    Yields (scopedTo field q₁) (d₁.levels < maxDepth) (.inField field d₁.expr) := by
  have ha : (Operand.field field (.boosted (.group d₁ none))).Admissible :=
    ⟨ha₁, by simp [AdmissibleFactor], fun _ => hscope⟩
  exact yields_of_reads (d := (Operand.field field (.boosted (.group d₁ none))).alone)
    (reads_scopedTo h₁ hfield) ha Iff.rfl (Operand.alone_expr ha)

theorem refused_inField (h₁ : Reads {} q₁.toList d₁.kinds)
    (ha₁ : d₁.Admissible) {field : String} (hfield : field ≠ "")
    (hscope : d₁.expr.hasFieldScope = true) :
    (d₁.levels < maxDepth → ∃ e, parseQuery (scopedTo field q₁) =
      .error (.parse e) ∧ e.expected = .unscopedGroup field ∧
        e.found = "a nested field scope") ∧
    (¬d₁.levels < maxDepth → NestsTooDeep (scopedTo field q₁)) := by
  obtain ⟨ts, htok, hts⟩ :=
    tokenize_eq_ok_iff.mpr (reads_scopedTo h₁ hfield).lexes
  obtain ⟨hrefused, hdeep⟩ := query_scoped_group ha₁ hts hscope
  constructor
  · intro hl
    obtain ⟨rest, hrest⟩ := hrefused hl
    exact ⟨_, parseQuery_of_stop htok hrest, rfl, rfl⟩
  · intro hl
    obtain ⟨rest, hrest⟩ := hdeep hl
    exact ⟨_, parseQuery_of_stop htok hrest, rfl⟩

/-- **Queries compose as texts.** Two queries in parentheses are the operands
of what joins them, a query in parentheses is what is negated or scoped to the
field in front of it. What can go wrong is that a query that nests as deep as
allowed is put into one more group, or a query with field scopes behind a field
name. -/
theorem parseQuery_embedded {q₁ q₂ field : String} {e₁ e₂ : Expr}
    (h₁ : parseQuery q₁ = .ok (some e₁)) (h₂ : parseQuery q₂ = .ok (some e₂))
    (hfield : field ≠ "") :
    (∃! n, Opens q₁ n) ∧ (∃! n, Opens q₂ n) ∧
    ∀ n₁ n₂, Opens q₁ n₁ → Opens q₂ n₂ → n₁ ≤ maxDepth ∧ n₂ ≤ maxDepth ∧
      Yields ("(" ++ q₁ ++ ") OR (" ++ q₂ ++ ")")
        (n₁ < maxDepth ∧ n₂ < maxDepth) (.or [e₁, e₂]) ∧
      Yields ("(" ++ q₁ ++ ") AND (" ++ q₂ ++ ")")
        (n₁ < maxDepth ∧ n₂ < maxDepth) (.and [e₁, e₂]) ∧
      Yields ("(" ++ q₁ ++ ") (" ++ q₂ ++ ")")
        (n₁ < maxDepth ∧ n₂ < maxDepth) (.and [e₁, e₂]) ∧
      Yields ("-(" ++ q₁ ++ ")") (n₁ + 1 < maxDepth) e₁.not ∧
      Yields ("NOT (" ++ q₁ ++ ")") (n₁ + 1 < maxDepth) e₁.not ∧
      (e₁.hasFieldScope = false →
        Yields (scopedTo field q₁) (n₁ < maxDepth) (.inField field e₁)) ∧
      (e₁.hasFieldScope = true →
        (n₁ < maxDepth → ∃ e, parseQuery (scopedTo field q₁) =
          .error (.parse e) ∧ e.expected = .unscopedGroup field ∧
            e.found = "a nested field scope") ∧
        (¬n₁ < maxDepth → NestsTooDeep (scopedTo field q₁))) := by
  refine ⟨existsUnique_opens h₁, existsUnique_opens h₂, ?_⟩
  intro n₁ n₂ hn₁ hn₂
  obtain ⟨d₁, ha₁, hr₁, rfl, rfl, hl₁⟩ := hn₁.derivation h₁
  obtain ⟨d₂, ha₂, hr₂, rfl, rfl, hl₂⟩ := hn₂.derivation h₂
  exact ⟨hl₁, hl₂,
    yields_or ha₁ ha₂ (reads_alternatives hr₁ hr₂),
    yields_and true ha₁ ha₂ (reads_both hr₁ hr₂),
    yields_and false ha₁ ha₂ (reads_adjacent hr₁ hr₂),
    yields_not ha₁ (reads_minus hr₁),
    yields_not ha₁ (reads_negation hr₁),
    yields_inField hr₁ ha₁ hfield,
    refused_inField hr₁ ha₁ hfield⟩

/-- Alternatives, one of them in a field, and an excluded term. -/
theorem parseQuery_embedded_alternatives :
    let q₁ := "a OR title:b"
    let q₂ := "-c"
    let e₁ : Expr :=
      .bool .or [.leaf none (.term "a"), .leaf (some "title") (.term "b")]
    let e₂ : Expr := .not (.leaf none (.term "c"))
    parseQuery q₁ = .ok (some e₁) ∧ parseQuery q₂ = .ok (some e₂) ∧
      "body" ≠ "" ∧ ∃ n₁ n₂, Opens q₁ n₁ ∧ Opens q₂ n₂ ∧
        Yields ("(" ++ q₁ ++ ") (" ++ q₂ ++ ")")
          (n₁ < maxDepth ∧ n₂ < maxDepth) (.and [e₁, e₂]) ∧
        (n₁ < maxDepth → ∃ e, parseQuery (scopedTo "body" q₁) =
          .error (.parse e) ∧ e.expected = .unscopedGroup "body" ∧
            e.found = "a nested field scope") := by
  intro q₁ q₂ e₁ e₂
  have h₁ : parseQuery q₁ = .ok (some e₁) := by decide +kernel
  have h₂ : parseQuery q₂ = .ok (some e₂) := by decide +kernel
  have hfield : "body" ≠ "" := by decide
  obtain ⟨⟨n₁, hn₁, -⟩, ⟨n₂, hn₂, -⟩, hall⟩ :=
    parseQuery_embedded h₁ h₂ hfield
  obtain ⟨-, -, -, -, hboth, -, -, -, hscoped⟩ := hall n₁ n₂ hn₁ hn₂
  exact ⟨h₁, h₂, hfield, n₁, n₂, hn₁, hn₂, hboth, (hscoped rfl).1⟩

end Searchlight
