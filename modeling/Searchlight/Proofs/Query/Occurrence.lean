import Mathlib.Algebra.BigOperators.Group.List.Basic
import Mathlib.Data.Multiset.MapFold
import Searchlight.Proofs.Query.Clauses

/-!
# Resolving keeps every leaf

A leaf of a tree comes with the number of negations above it and with the boosts
above it. Resolving takes the leaves of an expression one to one to the leaves
of the query: each becomes the query of its literal, none changes its sign, and
the boosts above it are those of the expression, where neighbouring ones may
have been multiplied and ones left out. So its weight stays the same as far as
those products are exact.
-/

namespace Searchlight

/-- A leaf in a tree: the negations above it, and the boosts, innermost first. -/
structure Occurrence (α : Type) where
  leaf : α
  negations : Nat := 0
  factors : List Single := []

namespace Occurrence

variable {α : Type}

def negated (o : Occurrence α) : Occurrence α :=
  { o with negations := o.negations + 1 }

def boosted (factor : Single) (o : Occurrence α) : Occurrence α :=
  { o with factors := o.factors ++ [factor] }

end Occurrence

/-- A literal with its own field and that of the group around it. -/
structure ScopedLiteral where
  scope : Option String
  field : Option String
  literal : Literal

namespace Expr

mutual

/-- The leaves of an expression inside a group scoped to `scope`. -/
def occurrences (scope : Option String) : Expr → List (Occurrence ScopedLiteral)
  | leaf field literal => [{ leaf := ⟨scope, field, literal⟩ }]
  | inField name body => occurrences (some name) body
  | boosted body factor => (occurrences scope body).map (.boosted factor)
  | bool .not operands => (occurrencesAll scope operands).map .negated
  | bool _ operands => occurrencesAll scope operands

def occurrencesAll (scope : Option String) :
    List Expr → List (Occurrence ScopedLiteral)
  | [] => []
  | e :: rest => occurrences scope e ++ occurrencesAll scope rest

end

theorem occurrencesAll_eq (scope : Option String) :
    ∀ es, occurrencesAll scope es = es.flatMap (occurrences scope)
  | [] => rfl
  | e :: es => by rw [occurrencesAll, occurrencesAll_eq scope es, List.flatMap_cons]

theorem occurrences_not (scope : Option String) (e : Expr) :
    e.not.occurrences scope = (e.occurrences scope).map .negated := by
  simp [Expr.not, occurrences, occurrencesAll]

end Expr

namespace Query

mutual

/-- The leaves of a query; a nested object is one leaf with what it holds. -/
def occurrences : Query → List (Occurrence Query)
  | bool must filter should mustNot =>
      occurrencesAll must ++ occurrencesAll filter ++ occurrencesAll should ++
        (occurrencesAll mustNot).map .negated
  | boost q factor => q.occurrences.map (.boosted factor)
  | q => [{ leaf := q }]

def occurrencesAll : List Query → List (Occurrence Query)
  | [] => []
  | q :: rest => q.occurrences ++ occurrencesAll rest

end

theorem occurrencesAll_eq : ∀ qs, occurrencesAll qs = qs.flatMap occurrences
  | [] => rfl
  | q :: qs => by rw [occurrencesAll, occurrencesAll_eq qs, List.flatMap_cons]

theorem occurrences_of_isLeaf {q : Query} (h : isLeaf q = true) :
    q.occurrences = [{ leaf := q }] := by
  cases q with
  | bool must filter should mustNot => cases h
  | boost q factor => cases h
  | _ => rfl

end Query

/-! ## Weights -/

/-- `gs` comes from `fs` by multiplying neighbours and leaving out ones. The
products that are taken for it are listed by their factors. -/
inductive Merged : List (Single × Single) → List Single → List Single → Prop
  | nil : Merged [] [] []
  | keep {products fs gs} (f : Single) : Merged products fs gs →
      Merged products (fs ++ [f]) (gs ++ [f])
  | multiply {products fs gs a b} : Merged products fs (gs ++ [a, b]) →
      Merged ((a, b) :: products) fs (gs ++ [a.mul b])
  | drop {products fs gs f} : Merged products fs (gs ++ [f]) →
      f.same .one = true → Merged products fs gs

/-- Exact products leave the weight as it is. -/
theorem Merged.prod_eq {M : Type} [CommMonoid M] {value : Single → M}
    (hone : ∀ f : Single, f.same .one = true → value f = 1)
    {products : List (Single × Single)} {fs gs : List Single}
    (h : Merged products fs gs)
    (hexact : ∀ p ∈ products, value (p.1.mul p.2) = value p.1 * value p.2) :
    (fs.map value).prod = (gs.map value).prod := by
  induction h with
  | nil => rfl
  | keep f _ ih => simp [ih hexact]
  | multiply _ ih =>
      obtain ⟨hab, hexact⟩ := List.forall_mem_cons.mp hexact
      simp [ih hexact, hab]
  | drop _ hf ih => simp [ih hexact, hone _ hf]

/-- The factors of two lists have one weight: the second comes from the first by
multiplying neighbours and leaving out ones, and has the same product under each
reading of factors for which the products that are taken are exact. -/
def SameWeight (fs gs : List Single) : Prop :=
  ∃ products, Merged products fs gs ∧
    ∀ {M : Type} [CommMonoid M] (value : Single → M),
      (∀ f : Single, f.same .one = true → value f = 1) →
      (∀ p ∈ products, value (p.1.mul p.2) = value p.1 * value p.2) →
        (fs.map value).prod = (gs.map value).prod

theorem Merged.sameWeight {products : List (Single × Single)}
    {fs gs : List Single} (h : Merged products fs gs) : SameWeight fs gs :=
  ⟨products, h, fun _ hone hexact => h.prod_eq hone hexact⟩

namespace Resolution

variable (lookup : String → Option FieldMapping) (options : ResolveOptions)

/-- A leaf of an expression and the leaf of a query that it has become. -/
structure SameLeaf (o : Occurrence ScopedLiteral) (p : Occurrence Query) :
    Prop where
  query : leaf lookup options o.leaf.scope o.leaf.field o.leaf.literal =
    .ok p.leaf
  sign : o.negations % 2 = p.negations % 2
  weight : SameWeight o.factors p.factors

/-- The leaves of an expression are those of a query, one to one. -/
def SameLeaves (os : List (Occurrence ScopedLiteral))
    (ps : List (Occurrence Query)) : Prop :=
  Multiset.Rel (SameLeaf lookup options) os ps

variable {lookup options}

namespace SameLeaf

variable {o : Occurrence ScopedLiteral} {p : Occurrence Query}

theorem negated (h : SameLeaf lookup options o p) :
    SameLeaf lookup options o.negated p.negated := by
  refine ⟨h.query, ?_, h.weight⟩
  have hsign := h.sign
  change (o.negations + 1) % 2 = (p.negations + 1) % 2
  omega

theorem negated_twice (h : SameLeaf lookup options o p) :
    SameLeaf lookup options o.negated.negated p := by
  refine ⟨h.query, ?_, h.weight⟩
  have hsign := h.sign
  change (o.negations + 2) % 2 = p.negations % 2
  omega

theorem boosted (factor : Single) (h : SameLeaf lookup options o p) :
    SameLeaf lookup options (o.boosted factor) (p.boosted factor) := by
  obtain ⟨products, hmerged, -⟩ := h.weight
  exact ⟨h.query, h.sign, (hmerged.keep factor).sameWeight⟩

theorem multiplied {a b : Single}
    (h : SameLeaf lookup options o ((p.boosted a).boosted b)) :
    SameLeaf lookup options o (p.boosted (a.mul b)) := by
  obtain ⟨products, hmerged, -⟩ := h.weight
  have hpair : Merged products o.factors (p.factors ++ [a, b]) := by
    simpa [Occurrence.boosted] using hmerged
  exact ⟨h.query, h.sign, hpair.multiply.sameWeight⟩

theorem dropped {factor : Single} (hone : factor.same .one = true)
    (h : SameLeaf lookup options o (p.boosted factor)) :
    SameLeaf lookup options o p := by
  obtain ⟨products, hmerged, -⟩ := h.weight
  exact ⟨h.query, h.sign, (hmerged.drop hone).sameWeight⟩

end SameLeaf

namespace SameLeaves

variable {os os' : List (Occurrence ScopedLiteral)}
  {ps ps' : List (Occurrence Query)}

theorem nil : SameLeaves lookup options [] [] := .zero

theorem append (h : SameLeaves lookup options os ps)
    (h' : SameLeaves lookup options os' ps') :
    SameLeaves lookup options (os ++ os') (ps ++ ps') := by
  have hadd := Multiset.Rel.add h h'
  rwa [Multiset.coe_add, Multiset.coe_add] at hadd

theorem perm (h : SameLeaves lookup options os ps) (hp : ps.Perm ps') :
    SameLeaves lookup options os ps' := by
  rw [SameLeaves, ← Multiset.coe_eq_coe.mpr hp]
  exact h

theorem map_right {f : Occurrence Query → Occurrence Query} :
    SameLeaves lookup options os (ps.map f) ↔
      Multiset.Rel (fun o p => SameLeaf lookup options o (f p)) os ps := by
  rw [SameLeaves, ← Multiset.map_coe, Multiset.rel_map_right]

/-- Leaf by leaf, what is the same stays the same. -/
theorem map (h : SameLeaves lookup options os ps)
    {f : Occurrence ScopedLiteral → Occurrence ScopedLiteral}
    {g : Occurrence Query → Occurrence Query}
    (hfg : ∀ {o p}, SameLeaf lookup options o p →
      SameLeaf lookup options (f o) (g p)) :
    SameLeaves lookup options (os.map f) (ps.map g) := by
  rw [SameLeaves, ← Multiset.map_coe, ← Multiset.map_coe, Multiset.rel_map]
  exact Multiset.Rel.mono h fun _ _ _ _ => hfg

theorem negated_twice (h : SameLeaves lookup options os ps) :
    SameLeaves lookup options ((os.map .negated).map .negated) ps := by
  have htwice := h.map (f := Occurrence.negated ∘ Occurrence.negated) (g := id)
    SameLeaf.negated_twice
  simpa using htwice

theorem flatMap {α β : Type} {f : α → List (Occurrence ScopedLiteral)}
    {g : β → List (Occurrence Query)} {as : List α} {bs : List β}
    (h : List.Forall₂ (fun a b => SameLeaves lookup options (f a) (g b)) as bs) :
    SameLeaves lookup options (as.flatMap f) (bs.flatMap g) := by
  induction h with
  | nil => exact nil
  | cons hab _ ih => exact hab.append ih

end SameLeaves

/-! ## Boosts -/

theorem sameLeaves_withFactor {os : List (Occurrence ScopedLiteral)} {q : Query}
    {factor : Single}
    (h : SameLeaves lookup options os (q.occurrences.map (.boosted factor))) :
    SameLeaves lookup options os (q.withFactor factor).occurrences := by
  rw [Query.withFactor]
  split
  · rename_i hone
    exact (SameLeaves.map_right.mp h).mono fun _ _ _ _ => SameLeaf.dropped hone
  · exact h

theorem sameLeaves_boosted {os : List (Occurrence ScopedLiteral)} {q : Query}
    (h : SameLeaves lookup options os q.occurrences) (factor : Single) :
    SameLeaves lookup options (os.map (.boosted factor))
      (q.boosted factor).occurrences := by
  have hboosted := h.map (SameLeaf.boosted factor)
  cases q with
  | boost q inner =>
      apply sameLeaves_withFactor
      rw [Query.occurrences, List.map_map] at hboosted
      exact SameLeaves.map_right.mpr
        ((SameLeaves.map_right.mp hboosted).mono
          fun _ _ _ _ => SameLeaf.multiplied)
  | _ => exact sameLeaves_withFactor hboosted

/-! ## Boolean structure -/

def Signed.occurrences : Signed → List (Occurrence Query)
  | positive q => q.occurrences
  | excluded qs => (Query.occurrencesAll qs).map .negated

theorem occurrences_toQuery (s : Signed) :
    s.toQuery.occurrences = s.occurrences := by
  cases s with
  | positive q => rfl
  | excluded qs =>
      simp [Signed.toQuery, exclusion, Clauses.toQuery, Query.occurrences,
        Query.occurrencesAll, Signed.occurrences]

theorem occurrences_collapse (c : Clauses) :
    (collapse c).occurrences = c.toQuery.occurrences := by
  rcases collapse_cases c with ⟨only, rfl | rfl, h⟩ | h <;> rw [h]
  · simp [Clauses.toQuery, Query.occurrences, Query.occurrencesAll]
  · simp [Clauses.toQuery, Query.occurrences, Query.occurrencesAll]

theorem occurrences_signed (s : Signed) :
    s.occurrences = Query.occurrencesAll s.must ++
      (Query.occurrencesAll s.mustNot).map .negated := by
  cases s with
  | excluded qs => simp [Signed.occurrences, Signed.must, Signed.mustNot, Query.occurrencesAll]
  | positive q =>
      rcases Signed.positive_cases q with ⟨must, mustNot, rfl⟩ | ⟨hm, hn⟩
      · simp [Signed.occurrences, Signed.must, Signed.mustNot,
          Query.occurrences, Query.occurrencesAll]
      · simp [Signed.occurrences, hm, hn, Query.occurrencesAll]

/-- A conjunction has the leaves of its operands, in another order. -/
theorem occurrences_conjunction (ss : List Signed) :
    (ss.flatMap Signed.occurrences).Perm (conjunction ss).occurrences := by
  have hoperands : ss.flatMap Signed.occurrences = ss.flatMap fun s =>
      Query.occurrencesAll s.must ++
        (Query.occurrencesAll s.mustNot).map .negated :=
    List.flatMap_congr fun s _ => occurrences_signed s
  rw [hoperands, conjunction_eq, occurrences_collapse]
  simp only [Clauses.toQuery, Query.occurrences, Query.occurrencesAll_eq,
    List.flatMap_assoc, List.map_flatMap, List.flatMap_nil, List.append_nil]
  exact (List.flatMap_append_perm ss _ _).symm

theorem occurrences_alternatives (q : Query) :
    (alternatives q).flatMap Query.occurrences = q.occurrences := by
  cases hd : Query.isDisjunction q with
  | false => simp [alternatives_of_not hd]
  | true =>
      obtain ⟨should, rfl⟩ := Query.isDisjunction_iff.mp hd
      simp [alternatives, Query.occurrences, Query.occurrencesAll_eq]

/-- A disjunction has the leaves of its operands, in their order. -/
theorem occurrences_disjunction (qs : List Query) :
    (disjunction qs).occurrences = qs.flatMap Query.occurrences := by
  rw [disjunction, occurrences_collapse]
  simp only [Clauses.toQuery, Query.occurrences, Query.occurrencesAll_eq,
    List.flatMap_nil, List.nil_append, List.append_nil, List.map_nil,
    List.flatMap_assoc]
  exact List.flatMap_congr fun q _ => occurrences_alternatives q

/-! ## Whole expressions -/

variable (lookup options) in
theorem sameLeaves_invariant :
    Invariant lookup options
      (fun scope e q =>
        SameLeaves lookup options (e.occurrences scope) q.occurrences)
      (fun scope e s =>
        SameLeaves lookup options (e.occurrences scope) s.occurrences) where
  leaf := by
    intro scope field literal q h
    rw [Query.occurrences_of_isLeaf (isLeaf_leaf h)]
    exact .cons ⟨h, rfl, Merged.nil.sameWeight⟩ .zero
  inField := by
    intro scope name body q hq
    rwa [Expr.occurrences]
  boosted := by
    intro scope body q factor hq
    rw [Expr.occurrences]
    exact sameLeaves_boosted hq factor
  and := by
    intro scope operands ss hs
    rw [Expr.occurrences, Expr.occurrencesAll_eq]
    · exact (SameLeaves.flatMap hs).perm (occurrences_conjunction ss)
    · rintro ⟨⟩
  or := by
    intro scope operands qs hq
    rw [Expr.occurrences, Expr.occurrencesAll_eq, occurrences_disjunction]
    · exact SameLeaves.flatMap hq
    · rintro ⟨⟩
  not := by
    intro scope operands s hs
    rwa [occurrences_toQuery]
  positive := fun _ hq => hq
  excluded := by
    intro scope operands qs _ hq
    rw [Expr.occurrences, Expr.occurrencesAll_eq, Signed.occurrences,
      Query.occurrencesAll_eq]
    exact (SameLeaves.flatMap hq).map SameLeaf.negated
  not_not := by
    intro scope e q hq
    rw [Expr.occurrences_not, Expr.occurrences_not]
    exact hq.negated_twice
  not_not_many := by
    intro scope operands qs _ hq
    rw [Expr.occurrences_not, Expr.occurrences, Expr.occurrencesAll_eq,
      Signed.occurrences, occurrences_disjunction]
    exact (SameLeaves.flatMap hq).negated_twice
  not_or := by
    intro scope operands qs hq
    rw [Expr.occurrences_not, Expr.occurrences, Expr.occurrencesAll_eq,
      Signed.occurrences, Query.occurrencesAll_eq]
    · exact (SameLeaves.flatMap hq).map SameLeaf.negated
    · rintro ⟨⟩
  not_inField := by
    intro scope name body s hs
    rw [Expr.occurrences_not] at hs ⊢
    rwa [Expr.occurrences]
  not_other := by
    intro scope e q hq
    rw [Expr.occurrences_not]
    simpa [Signed.occurrences, Query.occurrencesAll] using
      hq.map SameLeaf.negated

end Resolution

/-- **No leaf is lost, doubled, negated or given another weight.** The leaves of
an expression are, one to one, those of the query it resolves to. -/
theorem resolve_sameLeaves {lookup : String → Option FieldMapping}
    {options : ResolveOptions} {e : Expr} {q : Query}
    (h : resolve lookup options (some e) = .ok q) :
    Resolution.SameLeaves lookup options (e.occurrences none) q.occurrences := by
  rw [resolve] at h
  obtain ⟨q', hq, rfl⟩ := map_eq_ok.mp h
  have hsame := (Resolution.sameLeaves_invariant lookup options).query e hq
  split
  · simpa [Clauses.toQuery, Query.occurrences, Query.occurrencesAll] using hsame
  · exact hsame

/-- Boosts that multiply around a negation of a negated disjunction, beside a
negation. -/
theorem resolve_sameLeaves_boosted_negations :
    let lookup (name : String) : Option FieldMapping :=
      some { name := name, path := name, type := .text }
    let options : ResolveOptions := ⟨some "body", false⟩
    let term (text : String) : Expr := .leaf none (.term text)
    let e : Expr := .bool .and
      [.boosted (.boosted (.not (.not (.bool .or [term "a", term "b"])))
          (.nearest false 2 1)) (.nearest false 3 1),
        .not (.boosted (term "c") .one)]
    let on (text : String) : Query :=
      .fullText { name := "body", path := "body", type := .text } text
    let q : Query := .bool
      [.boost (.bool [] [] [on "a", on "b"] []) (.nearest false 6 1)] [] []
      [on "c"]
    resolve lookup options (some e) = .ok q ∧
      Resolution.SameLeaves lookup options (e.occurrences none)
        q.occurrences := by
  intro lookup options term e on q
  have h : resolve lookup options (some e) = .ok q := rfl
  exact ⟨h, resolve_sameLeaves h⟩

end Searchlight
