import Searchlight.Proofs.Query.Clauses

/-!
# Queries without their boosts

What a conjunction or a disjunction of normal queries is without boosts tells
what each of its operands is without them. Splicing loses nothing: a query in
normal form contributes at least one clause, and what it contributes when it is
spliced is never what another query is as a single clause.
-/

namespace Searchlight

namespace Query

mutual

/-- A query with the boosts around its clauses left out, at any depth. -/
def bare : Query → Query
  | boost q _ => q.bare
  | bool must filter should mustNot =>
      bool (bareAll must) (bareAll filter) (bareAll should) (bareAll mustNot)
  | q => q

def bareAll : List Query → List Query
  | [] => []
  | q :: rest => q.bare :: bareAll rest

end

theorem bareAll_eq : ∀ qs, bareAll qs = qs.map bare
  | [] => rfl
  | q :: qs => by rw [bareAll, bareAll_eq qs, List.map_cons]

theorem bare_bool (must filter should mustNot : List Query) :
    (bool must filter should mustNot).bare =
      bool (must.map bare) (filter.map bare) (should.map bare) (mustNot.map bare) := by
  simp only [bare, bareAll_eq]

theorem bare_boosted (q : Query) (factor : Single) : (q.boosted factor).bare = q.bare := by
  have hfactor : ∀ (q : Query) (factor : Single), (q.withFactor factor).bare = q.bare := by
    intro q factor
    rw [withFactor]
    split <;> rfl
  cases q <;> exact hfactor _ _

theorem Normal.conjunction {must mustNot : List Query}
    (h : (bool must [] [] mustNot).Normal) : NormalConjunction must mustNot := by
  obtain ⟨-, ⟨-, hconj⟩ | ⟨-, -, hdisj⟩, -⟩ := h
  · exact hconj
  · exact absurd hdisj.1 (by simp)

theorem Normal.disjunction {should : List Query}
    (h : (bool [] [] should []).Normal) : NormalDisjunction should := by
  obtain ⟨-, ⟨-, hconj⟩ | ⟨-, -, hdisj⟩, -⟩ := h
  · exact absurd hconj.1 (by simp)
  · exact hdisj

end Query

namespace Resolution

open Query

variable {q r : Query} {qs before after : List Query}

theorem bare_exclusion (qs : List Query) :
    (exclusion qs).bare = .bool [] [] [] (qs.map bare) :=
  bare_bool _ _ _ _

/-- No query is what two exclusions make of it. -/
theorem bare_ne_exclusion_exclusion (q : Query) :
    q.bare ≠ (exclusion [exclusion [q]]).bare := by
  intro h
  have hsize := congrArg sizeOf h
  simp only [bare_exclusion, List.map_cons, List.map_nil, bool.sizeOf_spec,
    List.cons.sizeOf_spec] at hsize
  omega

/-! ## Conjunctions -/

theorem one_le_clauses (hq : q.Normal) :
    1 ≤ (Signed.positive q).must.length + (Signed.positive q).mustNot.length := by
  rcases Signed.positive_cases q with ⟨must, mustNot, rfl⟩ | ⟨hm, hn⟩
  · rcases hq.conjunction.1 with h | h
    · have : 2 ≤ (Signed.positive (.bool must [] [] mustNot)).must.length := h
      omega
    · have : 0 < (Signed.positive (.bool must [] [] mustNot)).mustNot.length :=
        List.length_pos_iff.mpr h
      omega
  · simp [hm]

theorem length_le_clauses (hqs : ∀ q ∈ qs, q.Normal) :
    qs.length ≤ (qs.flatMap fun q => (Signed.positive q).must).length +
      (qs.flatMap fun q => (Signed.positive q).mustNot).length := by
  induction qs with
  | nil => simp
  | cons q qs ih =>
      obtain ⟨hq, hqs⟩ := List.forall_mem_cons.mp hqs
      have hone := one_le_clauses hq
      have hrest := ih hqs
      simp only [List.length_cons, List.flatMap_cons, List.length_append]
      omega

/-- A conjunction of several normal queries is not collapsed. -/
theorem conjunction_of_normal (hqs : ∀ q ∈ qs, q.Normal) (hlen : 2 ≤ qs.length) :
    conjunction (qs.map .positive) =
      .bool (qs.flatMap fun q => (Signed.positive q).must) [] []
        (qs.flatMap fun q => (Signed.positive q).mustNot) := by
  have hclauses := length_le_clauses hqs
  rw [conjunction_eq, List.flatMap_map, List.flatMap_map]
  rcases collapse_cases ⟨qs.flatMap fun q => (Signed.positive q).must, [], [],
    qs.flatMap fun q => (Signed.positive q).mustNot⟩ with ⟨only, hone | hone, -⟩ | h
  · obtain ⟨hm, -, -, hn⟩ := Clauses.mk.inj hone
    rw [hm, hn, List.length_singleton, List.length_nil] at hclauses
    omega
  · obtain ⟨-, -, hs, -⟩ := Clauses.mk.inj hone
    cases hs
  · exact h

/-- What a normal query contributes to a conjunction determines it. -/
theorem bare_of_clauses (hq : q.Normal) (hr : r.Normal)
    (hm : (Signed.positive q).must.map bare = (Signed.positive r).must.map bare)
    (hn : (Signed.positive q).mustNot.map bare = (Signed.positive r).mustNot.map bare) :
    q.bare = r.bare := by
  -- a conjunction does not contribute a single positive clause
  have hsingle : ∀ {must mustNot : List Query} {x : Query},
      (bool must [] [] mustNot).Normal → must.map bare = [x] → mustNot.map bare ≠ [] := by
    intro must mustNot x hnormal hone
    have hlen := congrArg List.length hone
    rw [List.length_map, List.length_singleton] at hlen
    rcases hnormal.conjunction.1 with h | h
    · omega
    · simpa using h
  rcases Signed.positive_cases q with ⟨must, mustNot, rfl⟩ | ⟨hqm, hqn⟩
  · rcases Signed.positive_cases r with ⟨must', mustNot', rfl⟩ | ⟨hrm, hrn⟩
    · simp only [Signed.must, Signed.mustNot] at hm hn
      rw [bare_bool, bare_bool, hm, hn]
    · rw [hrm] at hm
      rw [hrn] at hn
      exact absurd hn (hsingle hq hm)
  · rcases Signed.positive_cases r with ⟨must', mustNot', rfl⟩ | ⟨hrm, hrn⟩
    · rw [hqm] at hm
      rw [hqn] at hn
      exact absurd hn.symm (hsingle hr hm.symm)
    · rw [hqm, hrm] at hm
      exact List.singleton_inj.mp hm

/-- What stands between the same clauses can be told. -/
theorem map_bare_cancel {f : Query → List Query}
    (h : ((before ++ q :: after).flatMap f).map bare =
      ((before ++ r :: after).flatMap f).map bare) :
    (f q).map bare = (f r).map bare := by
  simpa using h

section Operand

variable (hother : before ++ after ≠ []) (hnormal : ∀ p ∈ before ++ after, p.Normal)
  (hq : q.Normal) (hr : r.Normal)

include hnormal in
theorem normal_operands (hq : q.Normal) : ∀ p ∈ before ++ q :: after, p.Normal := by
  simpa [or_imp, forall_and, hq] using hnormal

include hother in
theorem two_le_operands (q : Query) : 2 ≤ (before ++ q :: after).length := by
  have hpos := List.length_pos_iff.mpr hother
  rw [List.length_append] at hpos ⊢
  rw [List.length_cons]
  omega

include hother hnormal hq hr

/-- **A conjunction tells what its operands are without boosts.** -/
theorem bare_of_conjunction
    (h : (conjunction ((before ++ q :: after).map .positive)).bare =
      (conjunction ((before ++ r :: after).map .positive)).bare) :
    q.bare = r.bare := by
  rw [conjunction_of_normal (normal_operands hnormal hq) (two_le_operands hother q),
    conjunction_of_normal (normal_operands hnormal hr) (two_le_operands hother r),
    bare_bool, bare_bool] at h
  obtain ⟨hm, -, -, hn⟩ := Query.bool.inj h
  exact bare_of_clauses hq hr (map_bare_cancel hm) (map_bare_cancel hn)

end Operand

/-! ## Disjunctions -/

theorem length_le_alternatives (hqs : ∀ q ∈ qs, q.Normal) :
    qs.length ≤ (qs.flatMap alternatives).length := by
  induction qs with
  | nil => simp
  | cons q qs ih =>
      obtain ⟨hq, hqs⟩ := List.forall_mem_cons.mp hqs
      have hpos := List.length_pos_iff.mpr (normal_alternatives hq).1
      have hrest := ih hqs
      simp only [List.length_cons, List.flatMap_cons, List.length_append]
      omega

/-- A disjunction of several normal queries is not collapsed. -/
theorem disjunction_of_normal (hqs : ∀ q ∈ qs, q.Normal) (hlen : 2 ≤ qs.length) :
    disjunction qs = .bool [] [] (qs.flatMap alternatives) [] := by
  have halternatives := length_le_alternatives hqs
  rw [disjunction]
  rcases collapse_cases { should := qs.flatMap alternatives } with
    ⟨only, hone | hone, -⟩ | h
  · obtain ⟨hm, -, -, -⟩ := Clauses.mk.inj hone
    cases hm
  · obtain ⟨-, -, hs, -⟩ := Clauses.mk.inj hone
    rw [hs, List.length_singleton] at halternatives
    omega
  · exact h

/-- What a normal query contributes to a disjunction determines it. -/
theorem bare_of_alternatives (hq : q.Normal) (hr : r.Normal)
    (h : (alternatives q).map bare = (alternatives r).map bare) : q.bare = r.bare := by
  -- a disjunction does not contribute a single alternative
  have hsingle : ∀ {should : List Query} {x : Query},
      (bool [] [] should []).Normal → should.map bare ≠ [x] := by
    intro should x hnormal hone
    have hlen := congrArg List.length hone
    have htwo := hnormal.disjunction.1
    rw [List.length_map, List.length_singleton] at hlen
    omega
  cases hdq : isDisjunction q with
  | true =>
      obtain ⟨should, rfl⟩ := isDisjunction_iff.mp hdq
      cases hdr : isDisjunction r with
      | true =>
          obtain ⟨should', rfl⟩ := isDisjunction_iff.mp hdr
          simp only [alternatives] at h
          rw [bare_bool, bare_bool, h]
      | false =>
          rw [alternatives_of_not hdr] at h
          exact absurd h (hsingle hq)
  | false =>
      rw [alternatives_of_not hdq] at h
      cases hdr : isDisjunction r with
      | true =>
          obtain ⟨should', rfl⟩ := isDisjunction_iff.mp hdr
          exact absurd h.symm (hsingle hr)
      | false =>
          rw [alternatives_of_not hdr] at h
          exact List.singleton_inj.mp h

/-- **A disjunction tells what its operands are without boosts.** -/
theorem bare_of_disjunction (hother : before ++ after ≠ [])
    (hnormal : ∀ p ∈ before ++ after, p.Normal) (hq : q.Normal) (hr : r.Normal)
    (h : (disjunction (before ++ q :: after)).bare =
      (disjunction (before ++ r :: after)).bare) : q.bare = r.bare := by
  rw [disjunction_of_normal (normal_operands hnormal hq) (two_le_operands hother q),
    disjunction_of_normal (normal_operands hnormal hr) (two_le_operands hother r),
    bare_bool, bare_bool] at h
  obtain ⟨-, -, hs, -⟩ := Query.bool.inj h
  exact bare_of_alternatives hq hr (map_bare_cancel hs)

end Resolution

end Searchlight
