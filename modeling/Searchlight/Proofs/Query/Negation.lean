import Searchlight.Proofs.Query.Apart
import Searchlight.Proofs.Query.Exchange

/-!
# Negations of negations and of disjunctions

Two negations in a row cancel out wherever they stand, as what is around them
looks at no more than the query behind them, negated or not.

A disjunction splices the alternatives of its operands, the exclusion of a
disjunction does not: it excludes each operand by what the operand comes to on
its own. So the two have the same clauses just if no operand has come to
alternatives only: each operand that has takes a node away when it is spliced.
-/

namespace Searchlight

namespace Query

theorem nodesAll_append (as bs : List Query) :
    nodesAll (as ++ bs) = nodesAll as ++ nodesAll bs := by
  induction as with
  | nil => rfl
  | cons a as ih => rw [List.cons_append, nodesAll, nodesAll, ih, List.append_assoc]

end Query

namespace Resolution

open Query

variable {lookup : String → Option FieldMapping} {options : ResolveOptions}
  {scope : Option String}

/-! ## Negations of negations -/

theorem query_signed_not_not (negated : Bool) (e : Expr) :
    query lookup options scope (e.not.not.signed negated) =
      query lookup options scope (e.signed negated) := by
  rw [query_signed_not, query_signed_not, Bool.not_not]

/-! ## Alternatives of operands -/

/-- Splicing takes a node away for each operand that has alternatives only. -/
theorem length_nodesAll_alternatives (qs : List Query) :
    (nodesAll (qs.flatMap alternatives)).length + qs.countP isDisjunction =
      (nodesAll qs).length := by
  induction qs with
  | nil => rfl
  | cons q qs ih =>
      rw [List.flatMap_cons, nodesAll_append, List.length_append, nodesAll,
        List.length_append, ← ih]
      by_cases hd : isDisjunction q = true
      · rw [List.countP_cons_of_pos hd]
        obtain ⟨should, rfl⟩ := isDisjunction_iff.mp hd
        simp only [alternatives, nodes, nodesAll, List.nil_append, List.append_nil,
          List.length_cons]
        omega
      · rw [List.countP_cons_of_neg hd, alternatives_of_not (by simpa using hd)]
        simp only [nodesAll, List.append_nil]
        omega

theorem flatMap_alternatives_of_not {qs : List Query}
    (h : ∀ q ∈ qs, isDisjunction q = false) : qs.flatMap alternatives = qs := by
  induction qs with
  | nil => rfl
  | cons q qs ih =>
      obtain ⟨hq, hqs⟩ := List.forall_mem_cons.mp h
      rw [List.flatMap_cons, alternatives_of_not hq, ih hqs]
      rfl

/-- A disjunction of several operands keeps them as its clauses just if there is
nothing to splice. -/
theorem disjunction_eq_iff {qs : List Query} (hlen : 2 ≤ qs.length) :
    disjunction qs = .bool [] [] qs [] ↔ ∀ q ∈ qs, isDisjunction q = false := by
  constructor
  · intro h
    have hnodes := length_nodesAll_alternatives qs
    have hnone : qs.countP isDisjunction = 0 := by
      rcases collapse_cases { should := qs.flatMap alternatives } with
        ⟨only, hone | hone, hc⟩ | hc
      · obtain ⟨hm, -, -, -⟩ := Clauses.mk.inj hone
        cases hm
      · -- a single alternative would hold all the clauses that it comes from
        obtain ⟨-, -, hs, -⟩ := Clauses.mk.inj hone
        rw [disjunction, hc] at h
        subst h
        simp only [hs, nodes, nodesAll, List.nil_append, List.append_nil,
          List.length_cons] at hnodes
        omega
      · rw [disjunction, hc] at h
        obtain ⟨-, -, hs, -⟩ := Query.bool.inj h
        have hsame : qs.flatMap alternatives = qs := hs
        rw [hsame] at hnodes
        omega
    intro q hq
    simpa using List.countP_eq_zero.mp hnone q hq
  · intro h
    rw [disjunction, flatMap_alternatives_of_not h]
    rcases collapse_cases { should := qs } with ⟨only, hone | hone, -⟩ | hc
    · obtain ⟨hm, -, -, -⟩ := Clauses.mk.inj hone
      cases hm
    · obtain ⟨-, -, hs, -⟩ := Clauses.mk.inj hone
      rw [hs] at hlen
      simp at hlen
    · exact hc

end Resolution

/-- **Two negations in a row cancel out** in every expression that they stand in:
the query is the same, or the error. -/
theorem resolve_fill_not_not (lookup : String → Option FieldMapping)
    (options : ResolveOptions) (f : Expr.Frame) (x : Expr) :
    resolve lookup options (some (f.fill x.not.not)) =
      resolve lookup options (some (f.fill x)) := by
  have hfill : Resolution.query lookup options none (f.fill x.not.not) =
      Resolution.query lookup options none (f.fill x) := by
    apply Resolution.query_fill_congr f false
    intro scope
    exact Resolution.query_signed_not_not (f.negates false) x
  rw [resolve, resolve, hfill]

/-- **The exclusion of a disjunction has a clause for each operand**, which is
what the operand resolves to. They are the alternatives of the disjunction itself
just if none of them has alternatives only; those the disjunction splices. -/
theorem resolve_not_or {lookup : String → Option FieldMapping} {options : ResolveOptions}
    {es : List Expr} {q : Query} (hlen : 2 ≤ es.length)
    (hfilter : options.asFilter = false)
    (h : resolve lookup options (some (.not (.bool .or es))) = .ok q) :
    ∃ clauses, q = .bool [] [] [] clauses ∧
      List.Forall₂ (fun e c => resolve lookup options (some e) = .ok c) es clauses ∧
      resolve lookup options (some (.bool .or es)) =
        .ok (Resolution.disjunction clauses) ∧
      ((∀ e ∈ es, e.GroupsNonempty) → Resolution.disjunction clauses =
        .bool [] [] (clauses.flatMap Resolution.alternatives) []) ∧
      (resolve lookup options (some (.bool .or es)) = .ok (.bool [] [] clauses []) ↔
        ∀ c ∈ clauses, Query.isDisjunction c = false) := by
  have hplain : ∀ e, resolve lookup options (some e) =
      Resolution.query lookup options none e := by
    intro e
    rw [resolve, hfilter]
    cases Resolution.query lookup options none e <;> rfl
  rw [hplain, Resolution.query_not_or] at h
  obtain ⟨clauses, hclauses, rfl⟩ := map_eq_ok.mp h
  have hor : resolve lookup options (some (.bool .or es)) =
      .ok (Resolution.disjunction clauses) := by
    rw [hplain, Resolution.query, hclauses]
    rfl
  have htwo : 2 ≤ clauses.length := by
    rw [Resolution.length_queries hclauses]
    exact hlen
  refine ⟨clauses, rfl, ?_, hor, ?_, ?_⟩
  · simp only [hplain]
    exact Resolution.queries_eq_ok.mp hclauses
  · intro hne
    exact Resolution.disjunction_of_normal (Resolution.normal_queries hne hclauses) htwo
  · rw [hor, Except.ok.injEq]
    exact Resolution.disjunction_eq_iff htwo

/-- Operands without alternatives: a leaf, and a conjunction behind two negations. -/
theorem resolve_not_or_conjunction :
    let lookup (name : String) : Option FieldMapping :=
      some { name := name, path := name, type := .text }
    let options : ResolveOptions := { defaultField := "body" }
    let term (text : String) : Expr := .leaf none (.term text)
    let es : List Expr := [term "a", .not (.not (.bool .and [term "b", term "c"]))]
    let on (text : String) : Query :=
      .fullText { name := "body", path := "body", type := .text } text
    let clauses : List Query := [on "a", .bool [on "b", on "c"] [] [] []]
    2 ≤ es.length ∧ options.asFilter = false ∧
      resolve lookup options (some (.not (.bool .or es))) = .ok (.bool [] [] [] clauses) ∧
      resolve lookup options (some (.bool .or es)) = .ok (.bool [] [] clauses []) := by
  intro lookup options term es on clauses
  have h : resolve lookup options (some (.not (.bool .or es))) =
      .ok (.bool [] [] [] clauses) := rfl
  obtain ⟨found, hfound, -, -, -, hiff⟩ := resolve_not_or (by decide) rfl h
  obtain ⟨-, -, -, rfl⟩ := Query.bool.inj hfound
  refine ⟨by decide, rfl, h, hiff.mpr ?_⟩
  intro c hc
  rcases List.mem_cons.mp hc with rfl | hc
  · rfl
  · obtain rfl := List.mem_singleton.mp hc
    rfl

/-- Behind a field scope the alternatives of an operand are spliced into the
disjunction, and are excluded as one where the disjunction is. -/
theorem resolve_not_or_scoped_alternatives :
    let on (name : String) : FieldMapping := { name := name, path := name, type := .text }
    let lookup (name : String) : Option FieldMapping := some (on name)
    let options : ResolveOptions := { defaultField := "body" }
    let term (text : String) : Expr := .leaf none (.term text)
    let es : List Expr := [term "a", .inField "title" (.bool .or [term "b", term "c"])]
    let a : Query := .fullText (on "body").toField "a"
    let b : Query := .fullText (on "title").toField "b"
    let c : Query := .fullText (on "title").toField "c"
    parseQuery "NOT (a OR title:(b OR c))" = .ok (some (.not (.bool .or es))) ∧
      2 ≤ es.length ∧ options.asFilter = false ∧
      resolve lookup options (some (.bool .or es)) = .ok (.bool [] [] [a, b, c] []) ∧
      resolve lookup options (some (.not (.bool .or es))) =
        .ok (.bool [] [] [] [a, .bool [] [] [b, c] []]) ∧
      [a, .bool [] [] [b, c] []] ≠ [a, b, c] := by
  intro on lookup options term es a b c
  have hparse : parseQuery "NOT (a OR title:(b OR c))" =
      .ok (some (.not (.bool .or es))) := by decide +kernel
  exact ⟨hparse, by decide, rfl, rfl, rfl, by simp⟩

end Searchlight
