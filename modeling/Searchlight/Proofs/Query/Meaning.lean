import Searchlight.Proofs.Query.Normal

/-!
# Resolving keeps the boolean meaning

An assignment of truth values to leaf queries gives a truth value to every
query, and to every expression through the queries that its leaves resolve to.
Both are defined by recursion on the tree, without looking at how resolving
joins, splices and negates; the main statement is that they agree.
-/

namespace Searchlight

namespace Query

mutual

/-- The truth value of a query. Alternatives only count where nothing is
required beside them. -/
def holds (v : Query → Bool) : Query → Bool
  | bool must filter should mustNot =>
      allHold v must && allHold v filter && !anyHolds v mustNot &&
        (should.isEmpty || !must.isEmpty || !filter.isEmpty ||
          anyHolds v should)
  | boost q _ => holds v q
  | q => v q

def allHold (v : Query → Bool) : List Query → Bool
  | [] => true
  | q :: rest => holds v q && allHold v rest

def anyHolds (v : Query → Bool) : List Query → Bool
  | [] => false
  | q :: rest => holds v q || anyHolds v rest

end

end Query

namespace Expr

mutual

/-- The truth value of an expression inside a group scoped to `scope`, where
`value` gives those of literals under a scope and a field. -/
def holds (value : Option String → Option String → Literal → Bool)
    (scope : Option String) : Expr → Bool
  | leaf field literal => value scope field literal
  | inField name body => holds value (some name) body
  | boosted body _ => holds value scope body
  | bool .and operands => allHold value scope operands
  | bool .or operands => anyHolds value scope operands
  | bool .not operands => !anyHolds value scope operands

def allHold (value : Option String → Option String → Literal → Bool)
    (scope : Option String) : List Expr → Bool
  | [] => true
  | e :: rest => holds value scope e && allHold value scope rest

def anyHolds (value : Option String → Option String → Literal → Bool)
    (scope : Option String) : List Expr → Bool
  | [] => false
  | e :: rest => holds value scope e || anyHolds value scope rest

end

theorem holds_not (value : Option String → Option String → Literal → Bool)
    (scope : Option String) (e : Expr) :
    e.not.holds value scope = !e.holds value scope := by
  simp [Expr.not, holds, anyHolds]

end Expr

namespace Resolution

open Query

/-- The truth value of a literal: that of the query it resolves to. -/
def leafValue (lookup : String → Option FieldMapping) (options : ResolveOptions)
    (v : Query → Bool) (scope field : Option String) (literal : Literal) : Bool :=
  match leaf lookup options scope field literal with
  | .ok q => v q
  | .error _ => false

def Signed.holds (v : Query → Bool) : Signed → Bool
  | positive q => q.holds v
  | excluded qs => !anyHolds v qs

/-- The truth value of clauses on the way to a conjunction. -/
def clausesHold (v : Query → Bool) (c : Clauses) : Bool :=
  allHold v c.must && !anyHolds v c.mustNot

variable {v : Query → Bool}

@[simp] theorem allHold_append (as bs : List Query) :
    allHold v (as ++ bs) = (allHold v as && allHold v bs) := by
  induction as with
  | nil => simp [allHold]
  | cons a as ih => simp [allHold, ih, Bool.and_assoc]

@[simp] theorem anyHolds_append (as bs : List Query) :
    anyHolds v (as ++ bs) = (anyHolds v as || anyHolds v bs) := by
  induction as with
  | nil => simp [anyHolds]
  | cons a as ih => simp [anyHolds, ih, Bool.or_assoc]

theorem holds_of_isLeaf {q : Query} (h : isLeaf q = true) :
    q.holds v = v q := by
  cases q <;> simp_all [isLeaf, Query.holds]

theorem holds_withFactor (q : Query) (factor : Single) :
    (q.withFactor factor).holds v = q.holds v := by
  rw [withFactor]
  split
  · rfl
  · rw [Query.holds]

theorem holds_boosted (q : Query) (factor : Single) :
    (q.boosted factor).holds v = q.holds v := by
  cases q with
  | boost q inner => rw [boosted, holds_withFactor, Query.holds]
  | _ => exact holds_withFactor _ factor

/-! ## Conjunctions -/

theorem holds_bool_conjunction (must mustNot : List Query) :
    (Query.bool must [] [] mustNot).holds v =
      (allHold v must && !anyHolds v mustNot) := by
  simp [Query.holds, allHold]

theorem clausesHold_require (c : Clauses) (q : Query) :
    clausesHold v (require c q) = (clausesHold v c && q.holds v) := by
  cases hs : isConjunction q with
  | false =>
      rw [require_of_not hs]
      simp only [clausesHold, allHold_append, allHold, Bool.and_true]
      exact Bool.and_right_comm ..
  | true =>
      obtain ⟨must, mustNot, rfl⟩ := isConjunction_iff.mp hs
      rw [holds_bool_conjunction]
      simp only [require, clausesHold, allHold_append, anyHolds_append,
        Bool.not_or]
      ac_rfl

theorem clausesHold_contribute (c : Clauses) (s : Signed) :
    clausesHold v (contribute c s) = (clausesHold v c && s.holds v) := by
  cases s with
  | positive q => exact clausesHold_require c q
  | excluded qs =>
      simp [contribute, clausesHold, Signed.holds, Bool.not_or, Bool.and_assoc]

theorem clausesHold_foldl (ss : List Signed) (c : Clauses) :
    clausesHold v (ss.foldl contribute c) =
      (clausesHold v c && ss.all (·.holds v)) := by
  induction ss generalizing c with
  | nil => simp
  | cons s ss ih =>
      rw [List.foldl_cons, ih, clausesHold_contribute, List.all_cons,
        Bool.and_assoc]

/-- A single positive clause stands for itself. -/
theorem holds_collapse {c : Clauses} (hc : Clauses.Conjunctive c) :
    (collapse c).holds v = clausesHold v c := by
  obtain ⟨must, filter, should, mustNot⟩ := c
  obtain ⟨rfl, rfl, -, -⟩ := hc
  rw [collapse.eq_def]
  split
  · rename_i only heq
    obtain ⟨rfl, -, -, rfl⟩ := Clauses.mk.inj heq
    simp [clausesHold, allHold, anyHolds]
  · rename_i heq
    simp at heq
  · exact holds_bool_conjunction must mustNot

theorem holds_conjunction {ss : List Signed} (hne : ss ≠ [])
    (hs : ∀ s ∈ ss, s.Normal) :
    (conjunction ss).holds v = ss.all (·.holds v) := by
  have hempty : Clauses.Conjunctive {} := ⟨rfl, rfl, by simp, by simp⟩
  obtain ⟨hc, -⟩ := conjunctive_foldl hempty hs fun h => absurd h hne
  rw [conjunction, holds_collapse hc, clausesHold_foldl]
  simp [clausesHold, allHold, anyHolds]

/-! ## Disjunctions and exclusions -/

theorem holds_bool_disjunction {should : List Query} (hne : should ≠ []) :
    (Query.bool [] [] should []).holds v = anyHolds v should := by
  cases should with
  | nil => exact absurd rfl hne
  | cons q qs => simp [Query.holds, allHold, anyHolds]

theorem anyHolds_alternatives {q : Query} (hq : q.Normal) :
    anyHolds v (alternatives q) = q.holds v := by
  obtain ⟨hne, -⟩ := normal_alternatives hq
  cases hd : isDisjunction q with
  | false => simp [alternatives_of_not hd, anyHolds]
  | true =>
      obtain ⟨should, rfl⟩ := isDisjunction_iff.mp hd
      exact (holds_bool_disjunction hne).symm

theorem anyHolds_flatMap_alternatives : ∀ {qs : List Query},
    (∀ q ∈ qs, q.Normal) →
      anyHolds v (qs.flatMap alternatives) = anyHolds v qs
  | [], _ => rfl
  | q :: qs, hq => by
      rw [List.flatMap_cons, anyHolds_append, anyHolds,
        anyHolds_alternatives (hq q (by simp)),
        anyHolds_flatMap_alternatives fun x hx => hq x (by simp [hx])]

theorem holds_disjunction {qs : List Query} (hne : qs ≠ [])
    (hq : ∀ q ∈ qs, q.Normal) :
    (disjunction qs).holds v = anyHolds v qs := by
  rw [← anyHolds_flatMap_alternatives hq, disjunction, collapse.eq_def]
  split
  · rename_i heq
    simp at heq
  · rename_i only heq
    obtain ⟨-, -, hs, -⟩ := Clauses.mk.inj heq
    simp [hs, anyHolds]
  · exact holds_bool_disjunction (flatMap_alternatives_ne_nil hne hq)

theorem holds_toQuery (s : Signed) : s.toQuery.holds v = s.holds v := by
  cases s with
  | positive q => rfl
  | excluded qs => exact holds_bool_conjunction [] qs

/-! ## Whole expressions -/

/-- `q` is normal and means what `e` means, provided that no group of `e` is
empty. The normal form is what makes splicing keep the meaning. -/
def SameMeaning (value : Option String → Option String → Literal → Bool)
    (v : Query → Bool) (scope : Option String) (e : Expr) (q : Query) : Prop :=
  e.GroupsNonempty → q.Normal ∧ q.holds v = e.holds value scope

def SameContribution
    (value : Option String → Option String → Literal → Bool)
    (v : Query → Bool) (scope : Option String) (e : Expr) (s : Signed) : Prop :=
  e.GroupsNonempty → s.Normal ∧ s.holds v = e.holds value scope

variable {value : Option String → Option String → Literal → Bool}
  {scope : Option String}

theorem ne_nil_of_forall₂ {α β : Type} {R : α → β → Prop} {as : List α}
    {bs : List β} (h : List.Forall₂ R as bs) (has : as ≠ []) : bs ≠ [] := by
  rintro rfl
  exact has (List.forall₂_nil_right_iff.mp h)

theorem all_of_contributions {es : List Expr} {ss : List Signed}
    (h : List.Forall₂ (SameContribution value v scope) es ss)
    (hes : Expr.AllGroupsNonempty es) :
    (∀ s ∈ ss, s.Normal) ∧
      ss.all (·.holds v) = Expr.allHold value scope es := by
  induction h with
  | nil => exact ⟨by simp, rfl⟩
  | cons hs _ ih =>
      obtain ⟨hnormal, hholds⟩ := hs hes.1
      obtain ⟨hnormals, hall⟩ := ih hes.2
      refine ⟨List.forall_mem_cons.mpr ⟨hnormal, hnormals⟩, ?_⟩
      rw [List.all_cons, hholds, hall, Expr.allHold]

theorem any_of_meanings {es : List Expr} {qs : List Query}
    (h : List.Forall₂ (SameMeaning value v scope) es qs)
    (hes : Expr.AllGroupsNonempty es) :
    (∀ q ∈ qs, q.Normal) ∧ anyHolds v qs = Expr.anyHolds value scope es := by
  induction h with
  | nil => exact ⟨by simp, rfl⟩
  | cons hq _ ih =>
      obtain ⟨hnormal, hholds⟩ := hq hes.1
      obtain ⟨hnormals, hany⟩ := ih hes.2
      refine ⟨List.forall_mem_cons.mpr ⟨hnormal, hnormals⟩, ?_⟩
      rw [anyHolds, hholds, hany, Expr.anyHolds]

variable (lookup : String → Option FieldMapping) (options : ResolveOptions)

theorem meaning_invariant (v : Query → Bool) :
    Invariant lookup options
      (SameMeaning (leafValue lookup options v) v)
      (SameContribution (leafValue lookup options v) v) where
  leaf := by
    intro scope field literal q h _
    have hleaf := isLeaf_leaf h
    refine ⟨normal_of_isLeaf hleaf, ?_⟩
    rw [holds_of_isLeaf hleaf, Expr.holds, leafValue, h]
  inField := by
    intro scope name body q hq hne
    simpa [Expr.holds] using hq hne
  boosted := by
    intro scope body q factor hq hne
    obtain ⟨hnormal, hholds⟩ := hq hne
    exact ⟨normal_boosted hnormal factor, by rw [holds_boosted, hholds, Expr.holds]⟩
  and := by
    intro scope operands ss hs hne
    obtain ⟨hnormal, hall⟩ := all_of_contributions hs hne.2
    have hss := ne_nil_of_forall₂ hs hne.1
    refine ⟨normal_conjunction hss hnormal, ?_⟩
    rw [holds_conjunction hss hnormal, hall, Expr.holds]
  or := by
    intro scope operands qs hq hne
    obtain ⟨hnormal, hany⟩ := any_of_meanings hq hne.2
    have hqs := ne_nil_of_forall₂ hq hne.1
    refine ⟨normal_disjunction hqs hnormal, ?_⟩
    rw [holds_disjunction hqs hnormal, hany, Expr.holds]
  not := by
    intro scope operands s hs hne
    obtain ⟨hnormal, hholds⟩ := hs hne
    exact ⟨normal_toQuery hnormal, by rw [holds_toQuery, hholds]⟩
  positive := fun _ hq => hq
  excluded := by
    intro scope operands qs _ hq hne
    obtain ⟨hnormal, hany⟩ := any_of_meanings hq hne.2
    refine ⟨⟨ne_nil_of_forall₂ hq hne.1, hnormal⟩, ?_⟩
    rw [Signed.holds, hany, Expr.holds]
  not_not := by
    intro scope e q hq hne
    -- `e` is the only operand of the inner negation
    obtain ⟨hnormal, hholds⟩ := hq hne.2.1.2.1
    refine ⟨hnormal, ?_⟩
    rw [Signed.holds, hholds, Expr.holds_not, Expr.holds_not, Bool.not_not]
  not_not_many := by
    intro scope operands qs _ hq hne
    obtain ⟨hnormal, hany⟩ := any_of_meanings hq hne.2.1.2
    have hqs := ne_nil_of_forall₂ hq hne.2.1.1
    refine ⟨normal_disjunction hqs hnormal, ?_⟩
    rw [Signed.holds, holds_disjunction hqs hnormal, hany, Expr.holds_not,
      Expr.holds, Bool.not_not]
  not_or := by
    intro scope operands qs hq hne
    obtain ⟨hnormal, hany⟩ := any_of_meanings hq hne.2.1.2
    refine ⟨⟨ne_nil_of_forall₂ hq hne.2.1.1, hnormal⟩, ?_⟩
    rw [Signed.holds, hany, Expr.holds_not, Expr.holds]
  not_inField := by
    intro scope name body s hs hne
    obtain ⟨hnormal, hholds⟩ := hs ⟨by simp, hne.2.1, trivial⟩
    refine ⟨hnormal, ?_⟩
    rw [hholds, Expr.holds_not, Expr.holds_not, Expr.holds]
  not_other := by
    intro scope e q hq hne
    obtain ⟨hnormal, hholds⟩ := hq hne.2.1
    refine ⟨⟨by simp, by simpa using hnormal⟩, ?_⟩
    simp [Signed.holds, anyHolds, hholds, Expr.holds_not]

theorem holds_asFilter (q : Query) :
    (Clauses.toQuery { filter := [q] }).holds v = q.holds v := by
  simp [Clauses.toQuery, Query.holds, allHold, anyHolds]

end Resolution

/-- **Resolving keeps the boolean meaning.** No group of a parsed query is
empty; and what an expression without empty groups resolves to, filtered or
not, has the truth value of the expression under every assignment of truth
values to the queries of its leaves. -/
theorem resolve_holds :
    (∀ text e, parseQuery text = .ok (some e) → e.GroupsNonempty) ∧
      ∀ lookup options v e q, e.GroupsNonempty →
        resolve lookup options (some e) = .ok q →
          q.holds v =
            e.holds (Resolution.leafValue lookup options v) none := by
  refine ⟨fun text e h => (shaped_of_parseQuery h).groupsNonempty, ?_⟩
  intro lookup options v e q hne h
  rw [resolve] at h
  obtain ⟨q', hq, rfl⟩ := map_eq_ok.mp h
  obtain ⟨-, hholds⟩ :=
    (Resolution.meaning_invariant lookup options v).query e hq hne
  split
  · rw [Resolution.holds_asFilter, hholds]
  · exact hholds

/-- A term beside a negated `OR`, resolved to a filter. -/
theorem resolve_holds_filtered_negation :
    let lookup (name : String) : Option FieldMapping :=
      some { name := name, path := name, type := .text }
    let options : ResolveOptions := ⟨some "body", true⟩
    let e : Expr := .bool .and [.leaf none (.term "c"),
      .not (.bool .or [.leaf none (.term "a"), .leaf none (.term "b")])]
    ∃ q, e.GroupsNonempty ∧ resolve lookup options (some e) = .ok q ∧
      ∀ v, q.holds v =
        e.holds (Resolution.leafValue lookup options v) none := by
  intro lookup options e
  have he : e.GroupsNonempty :=
    ⟨by simp, trivial, ⟨by simp, ⟨by simp, trivial, trivial, trivial⟩, trivial⟩,
      trivial⟩
  exact ⟨_, he, rfl, fun v => resolve_holds.2 lookup options v e _ he rfl⟩

end Searchlight
