import Searchlight.Proofs.Query.Normal

/-!
# Clauses of resolved queries

Resolving moves clauses between lists, splices and unwraps them, but it makes no
leaf of its own. A conjunction and a disjunction are said here as the lists of
clauses they come to. So a property that a boolean query has just if its clauses
have it, and that boosting keeps, holds of every resolved query as soon as it
holds of what leaves resolve to.
-/

namespace Searchlight

namespace Query

/-- What holds of all clauses holds of those of each kind. -/
theorem forall_mem_clauses {P : Query → Prop} {must filter should mustNot : List Query} :
    (∀ q ∈ must ++ filter ++ should ++ mustNot, P q) ↔
      (∀ q ∈ must, P q) ∧ (∀ q ∈ filter, P q) ∧ (∀ q ∈ should, P q) ∧
        ∀ q ∈ mustNot, P q := by
  rw [List.forall_mem_append, List.forall_mem_append, List.forall_mem_append, and_assoc,
    and_assoc]

/-- Induction on clauses, with all leaves that have a field as one case. -/
@[elab_as_elim]
theorem clauses_induction {motive : Query → Prop}
    (all : motive all)
    (leaf : ∀ q f, q.field? = some f → motive q)
    (nested : ∀ path q, motive q → motive (nested path q))
    (bool : ∀ must filter should mustNot,
      (∀ q ∈ must ++ filter ++ should ++ mustNot, motive q) →
        motive (bool must filter should mustNot))
    (boost : ∀ q factor, motive q → motive (boost q factor)) (q : Query) :
    motive q := by
  apply @Query.rec motive fun qs => ∀ q ∈ qs, motive q
  case nested => exact nested
  case boost => exact fun q factor hq => boost q factor hq
  case bool =>
    intro must filter should mustNot hm hf hs hn
    exact bool _ _ _ _ (forall_mem_clauses.mpr ⟨hm, hf, hs, hn⟩)
  case nil => simp
  case cons =>
    intro q qs hq hqs
    simpa [hq] using hqs
  case all => exact all
  all_goals
    intros
    exact leaf _ _ rfl

mutual

/-- A query with everything inside of it. -/
def nodes : Query → List Query
  | nested path q => nested path q :: q.nodes
  | bool must filter should mustNot =>
      bool must filter should mustNot ::
        (nodesAll must ++ nodesAll filter ++ nodesAll should ++
          nodesAll mustNot)
  | boost q factor => boost q factor :: q.nodes
  | q => [q]

def nodesAll : List Query → List Query
  | [] => []
  | q :: rest => q.nodes ++ nodesAll rest

end

theorem mem_nodes_self (q : Query) : q ∈ q.nodes := by
  cases q <;> simp [nodes]

theorem mem_nodesAll {x : Query} :
    ∀ {qs : List Query}, x ∈ nodesAll qs ↔ ∃ q ∈ qs, x ∈ q.nodes
  | [] => by simp [nodesAll]
  | q :: qs => by simp [nodesAll, @mem_nodesAll x qs]

theorem mem_nodes_bool {x : Query} {must filter should mustNot : List Query} :
    x ∈ (bool must filter should mustNot).nodes ↔
      x = bool must filter should mustNot ∨
        ∃ q ∈ must ++ filter ++ should ++ mustNot, x ∈ q.nodes := by
  simp [nodes, mem_nodesAll, or_and_right, exists_or]

theorem nodes_of_field {q : Query} {f : Field} (h : q.field? = some f) :
    q.nodes = [q] := by
  cases q <;> first | rfl | cases h

/-- A property that a boolean query has just if its clauses have it. -/
structure Splits (P : Query → Prop) : Prop where
  bool : ∀ {must filter should mustNot},
    P (bool must filter should mustNot) ↔
      ∀ q ∈ must ++ filter ++ should ++ mustNot, P q

/-- A property of queries that depends on clauses only. -/
structure Clausewise (P : Query → Prop) : Prop extends Splits P where
  boosted : ∀ {q} (factor : Single), P q → P (q.boosted factor)

/-- What is said of each node is said of the clauses, unless it says something of
boolean queries. -/
theorem splits_nodes {N : Query → Prop}
    (hN : ∀ must filter should mustNot, N (bool must filter should mustNot)) :
    Splits fun q => ∀ x ∈ q.nodes, N x where
  bool := by
    intro must filter should mustNot
    constructor
    · intro h q hq x hx
      exact h x (mem_nodes_bool.mpr (.inr ⟨q, hq, hx⟩))
    · intro h x hx
      rcases mem_nodes_bool.mp hx with rfl | ⟨q, hq, hx⟩
      · exact hN must filter should mustNot
      · exact h q hq x hx

theorem mem_nodes_withFactor {q x : Query} {factor : Single}
    (h : x ∈ (q.withFactor factor).nodes) :
    x ∈ q.nodes ∨ x = boost q factor ∧ factor.same .one = false := by
  rw [withFactor] at h
  split at h
  · exact .inl h
  · rename_i hone
    rcases List.mem_cons.mp h with rfl | h
    · exact .inr ⟨rfl, by simpa using hone⟩
    · exact .inl h

/-- Boosting makes one node, of a query that is no boost or of what a boost holds. -/
theorem mem_nodes_boosted {q x : Query} {factor : Single}
    (h : x ∈ (q.boosted factor).nodes) :
    x ∈ q.nodes ∨ (x = boost q factor ∧ isBoost q = false ∧ factor.same .one = false) ∨
      ∃ inner first, q = boost inner first ∧ x = boost inner (first.mul factor) ∧
        (first.mul factor).same .one = false := by
  cases q with
  | boost inner first =>
      rcases mem_nodes_withFactor h with hx | ⟨rfl, hone⟩
      · exact .inl (List.mem_cons_of_mem _ hx)
      · exact .inr (.inr ⟨inner, first, rfl, rfl, hone⟩)
  | _ =>
      rcases mem_nodes_withFactor h with hx | ⟨rfl, hone⟩
      · exact .inl hx
      · exact .inr (.inl ⟨rfl, rfl, hone⟩)

end Query

namespace Resolution

open Query

/-! ## The clauses of conjunctions -/

namespace Signed

/-- The clauses that an operand adds to those that must match. -/
def must : Signed → List Query
  | positive (.bool must [] [] _) => must
  | positive q => [q]
  | excluded _ => []

def mustNot : Signed → List Query
  | positive (.bool _ [] [] mustNot) => mustNot
  | positive _ => []
  | excluded qs => qs

/-- A positive operand is spliced, or it is a clause itself. -/
theorem positive_cases (q : Query) :
    (∃ must mustNot, q = .bool must [] [] mustNot) ∨
      (positive q).must = [q] ∧ (positive q).mustNot = [] := by
  cases hs : isConjunction q with
  | true => exact .inl (isConjunction_iff.mp hs)
  | false =>
      right
      constructor
      · rw [must]
        rintro must mustNot rfl
        simp [isConjunction] at hs
      · rw [mustNot]
        rintro must mustNot rfl
        simp [isConjunction] at hs

end Signed

theorem contribute_eq (c : Clauses) (s : Signed) :
    contribute c s =
      { c with must := c.must ++ s.must, mustNot := c.mustNot ++ s.mustNot } := by
  cases s with
  | excluded qs => simp [contribute, Signed.must, Signed.mustNot]
  | positive q =>
      rw [contribute]
      cases hs : isConjunction q with
      | true =>
          obtain ⟨must, mustNot, rfl⟩ := isConjunction_iff.mp hs
          rfl
      | false =>
          rw [require_of_not hs]
          rcases Signed.positive_cases q with ⟨must, mustNot, rfl⟩ | ⟨hm, hn⟩
          · simp [isConjunction] at hs
          · simp [hm, hn]

theorem foldl_contribute (ss : List Signed) (c : Clauses) :
    ss.foldl contribute c =
      { c with
        must := c.must ++ ss.flatMap Signed.must
        mustNot := c.mustNot ++ ss.flatMap Signed.mustNot } := by
  induction ss generalizing c with
  | nil => simp
  | cons s ss ih => simp [ih, contribute_eq]

theorem conjunction_eq (ss : List Signed) :
    conjunction ss = collapse
      { must := ss.flatMap Signed.must, mustNot := ss.flatMap Signed.mustNot } := by
  rw [conjunction, foldl_contribute]
  rfl

/-- Collapsed clauses are the only one, or stay clauses. -/
theorem collapse_cases (c : Clauses) :
    (∃ only, (c = { must := [only] } ∨ c = { should := [only] }) ∧
      collapse c = only) ∨ collapse c = c.toQuery := by
  rw [collapse.eq_def]
  split
  · rename_i only
    exact .inl ⟨only, .inl rfl, rfl⟩
  · rename_i only
    exact .inl ⟨only, .inr rfl, rfl⟩
  · exact .inr rfl

/-! ## From leaves to queries -/

section Splits

variable {P : Query → Prop}

theorem splits_collapse (hP : Splits P) {c : Clauses}
    (hc : ∀ q ∈ c.must ++ c.filter ++ c.should ++ c.mustNot, P q) :
    P (collapse c) := by
  rcases collapse_cases c with ⟨only, rfl | rfl, h⟩ | h
  · rw [h]
    exact hc only (by simp)
  · rw [h]
    exact hc only (by simp)
  · rw [h]
    exact hP.bool.mpr hc

def Signed.Every (P : Query → Prop) : Signed → Prop
  | positive q => P q
  | excluded qs => ∀ q ∈ qs, P q

theorem splits_clauses (hP : Splits P) {s : Signed} (hs : s.Every P) :
    ∀ q ∈ s.must ++ s.mustNot, P q := by
  cases s with
  | excluded qs => exact hs
  | positive q =>
      rcases Signed.positive_cases q with ⟨must, mustNot, rfl⟩ | ⟨hm, hn⟩
      · intro x hx
        refine hP.bool.mp hs x ?_
        simpa [Signed.must, Signed.mustNot] using hx
      · have hq : P q := hs
        simpa [hm, hn] using hq

theorem splits_conjunction (hP : Splits P) {ss : List Signed}
    (hs : ∀ s ∈ ss, s.Every P) : P (conjunction ss) := by
  rw [conjunction_eq]
  apply splits_collapse hP
  intro q hq
  simp only [List.append_nil, List.mem_append, List.mem_flatMap] at hq
  rcases hq with ⟨s, hsm, hq⟩ | ⟨s, hsm, hq⟩
  · exact splits_clauses hP (hs s hsm) q (by simp [hq])
  · exact splits_clauses hP (hs s hsm) q (by simp [hq])

theorem splits_alternatives (hP : Splits P) {q : Query} (hq : P q) :
    ∀ x ∈ alternatives q, P x := by
  cases hd : isDisjunction q with
  | false =>
      rw [alternatives_of_not hd]
      simpa using hq
  | true =>
      obtain ⟨should, rfl⟩ := isDisjunction_iff.mp hd
      simpa [alternatives] using hP.bool.mp hq

theorem splits_disjunction (hP : Splits P) {qs : List Query}
    (hq : ∀ q ∈ qs, P q) : P (disjunction qs) := by
  apply splits_collapse hP
  intro x hx
  simp only [List.nil_append, List.append_nil, List.mem_flatMap] at hx
  obtain ⟨q, hqm, hx⟩ := hx
  exact splits_alternatives hP (hq q hqm) x hx

theorem splits_toQuery (hP : Splits P) {s : Signed} (hs : s.Every P) :
    P s.toQuery := by
  cases s with
  | positive q => exact hs
  | excluded qs =>
      apply hP.bool.mpr
      intro q hq
      exact hs q (by simpa using hq)

/-- What expressions have that is enough for the queries they come to. -/
theorem forall_mem_of_forall₂ {α β : Type} {E : α → Prop} {p : β → Prop}
    {as : List α} {bs : List β} (h : List.Forall₂ (fun a b => E a → p b) as bs)
    (has : ∀ a ∈ as, E a) : ∀ b ∈ bs, p b := by
  induction h with
  | nil => simp
  | cons hb _ ih =>
      obtain ⟨ha, has⟩ := List.forall_mem_cons.mp has
      exact List.forall_mem_cons.mpr ⟨hb ha, ih has⟩

/-- A property of expressions that their parts have too, and that does not tell
an expression from its negation. -/
structure Inherited (E : Expr → Prop) : Prop where
  inField : ∀ {name body}, E (.inField name body) → E body
  boosted : ∀ {body factor}, E (.boosted body factor) → E body
  bool : ∀ {op operands}, E (.bool op operands) → ∀ e ∈ operands, E e
  not : ∀ {e}, E e → E e.not

theorem Inherited.operand {E : Expr → Prop} (hE : Inherited E) {e : Expr}
    (he : E e.not) : E e := hE.bool he e (List.mem_singleton.mpr rfl)

theorem inherited_true : Inherited fun _ => True := by
  constructor <;> intros <;> trivial

variable {lookup : String → Option FieldMapping} {options : ResolveOptions}

/-- A property of queries that boosting keeps by the factors of expressions of a
kind is kept by resolving such expressions. -/
theorem splits_invariant {E : Expr → Prop} (hP : Splits P) (hE : Inherited E)
    (hboosted : ∀ {body factor q}, E (.boosted body factor) → P q →
      P (q.boosted factor))
    (hleaf : ∀ scope field literal q,
      leaf lookup options scope field literal = .ok q → P q) :
    Invariant lookup options (fun _ e q => E e → P q)
      (fun _ e s => E e → s.Every P) where
  leaf := by
    intro scope field literal q h _
    exact hleaf scope field literal q h
  inField := fun hq he => hq (hE.inField he)
  boosted := fun _ hq he => hboosted he (hq (hE.boosted he))
  and := fun hs he => splits_conjunction hP (forall_mem_of_forall₂ hs (hE.bool he))
  or := fun hq he => splits_disjunction hP (forall_mem_of_forall₂ hq (hE.bool he))
  not := fun hs he => splits_toQuery hP (hs he)
  positive := fun _ hq he => hq he
  excluded := fun _ hq he => forall_mem_of_forall₂ hq (hE.bool he)
  not_not := fun hq he => hq (hE.operand (hE.operand he))
  not_not_many := fun _ hq he =>
    splits_disjunction hP (forall_mem_of_forall₂ hq (hE.bool (hE.operand he)))
  not_or := fun hq he => forall_mem_of_forall₂ hq (hE.bool (hE.operand he))
  not_inField := fun hs he => hs (hE.not (hE.inField (hE.operand he)))
  not_other := by
    intro scope e q hq he
    simpa [Signed.Every] using hq (hE.operand he)

theorem clausewise_invariant (hP : Clausewise P)
    (hleaf : ∀ scope field literal q,
      leaf lookup options scope field literal = .ok q → P q) :
    Invariant lookup options (fun _ _ q => P q) (fun _ _ s => s.Every P) := by
  simpa only [forall_const] using splits_invariant hP.toSplits inherited_true
    (fun {_ factor _} _ hq => hP.boosted factor hq) hleaf

end Splits

end Resolution

section Resolve

open Query Resolution

variable {P : Query → Prop} {lookup : String → Option FieldMapping}
  {options : ResolveOptions}

/-- What holds of leaves holds of resolved queries, for properties that boosting
keeps by the factors that are there. -/
theorem Query.Splits.resolve {E : Expr → Prop} (hP : Splits P) (hE : Inherited E)
    (hboosted : ∀ {body factor q}, E (.boosted body factor) → P q →
      P (q.boosted factor))
    (hall : P .all)
    (hleaf : ∀ scope field literal q,
      leaf lookup options scope field literal = .ok q → P q)
    {e : Option Expr} (he : ∀ x ∈ e, E x) {q : Query}
    (h : resolve lookup options e = .ok q) : P q := by
  cases e with
  | none =>
      obtain rfl := Except.ok.inj h
      exact hall
  | some e =>
      rw [Searchlight.resolve] at h
      obtain ⟨q', hq, rfl⟩ := map_eq_ok.mp h
      have hq' : P q' := (splits_invariant hP hE hboosted hleaf).query e hq (he e rfl)
      split
      · exact hP.bool.mpr (by simpa using hq')
      · exact hq'

/-- **What holds of leaves holds of resolved queries**, for properties that
depend on clauses only. -/
theorem Query.Clausewise.resolve (hP : Clausewise P) (hall : P .all)
    (hleaf : ∀ scope field literal q,
      leaf lookup options scope field literal = .ok q → P q)
    {e : Option Expr} {q : Query} (h : resolve lookup options e = .ok q) :
    P q :=
  hP.toSplits.resolve inherited_true (fun {_ factor _} _ hq => hP.boosted factor hq)
    hall hleaf (fun _ _ => trivial) h

end Resolve

end Searchlight
