import Searchlight.Proofs.Expr.Frame
import Searchlight.Proofs.Query.Bare
import Searchlight.Proofs.Query.Meaning
import Searchlight.Proofs.Query.Operands

/-!
# Parts that make a difference

Two parts whose queries differ by more than boosts make a difference to every
parsed expression that they stand in. So a part that a negation does not exclude
as a whole can be told from one that it does.
-/

namespace Searchlight.Resolution

variable {lookup : String → Option FieldMapping} {options : ResolveOptions}
  {scope : Option String} {e e' : Expr}

/-- Steps whose queries differ by more than boosts, if both return. -/
def Apart (a b : Resolved Query) : Prop :=
  ∀ q r, a = .ok q → b = .ok r → q.bare ≠ r.bare

theorem Apart.map {a b : Resolved Query} {f g : Query → Query}
    (hfg : ∀ q r, (f q).bare = (g r).bare → q.bare = r.bare) (h : Apart a b) :
    Apart (a.map f) (b.map g) := by
  intro q r hq hr heq
  obtain ⟨q', hq', rfl⟩ := map_eq_ok.mp hq
  obtain ⟨r', hr', rfl⟩ := map_eq_ok.mp hr
  exact h q' r' hq' hr' (hfg q' r' heq)

theorem Apart.exclusion {a b : Resolved Query} (h : Apart a b) :
    Apart (a.map fun q => exclusion [q]) (b.map fun q => exclusion [q]) :=
  h.map fun q r heq => by simpa [bare_exclusion] using heq

theorem apart_twice (a : Resolved Query) :
    Apart a ((a.map fun q => exclusion [q]).map fun q => exclusion [q]) := by
  intro q r hq hr
  obtain ⟨r', hr', rfl⟩ := map_eq_ok.mp hr
  obtain ⟨q', hq', rfl⟩ := map_eq_ok.mp hr'
  obtain rfl := Except.ok.inj (hq.symm.trans hq')
  exact bare_ne_exclusion_exclusion q

theorem normal_of_query (hne : e.GroupsNonempty) {q : Query}
    (h : query lookup options scope e = .ok q) : q.Normal :=
  ((meaning_invariant lookup options fun _ => false).query e h hne).1

theorem normal_queries {es : List Expr} {qs : List Query}
    (hne : ∀ e ∈ es, e.GroupsNonempty)
    (h : queries lookup options scope es = .ok qs) : ∀ q ∈ qs, q.Normal := by
  have hqs := queries_eq_ok.mp h
  clear h
  induction hqs with
  | nil => simp
  | cons hq _ ih =>
      obtain ⟨he, hes⟩ := List.forall_mem_cons.mp hne
      exact List.forall_mem_cons.mpr ⟨normal_of_query he hq, ih hes⟩

theorem length_queries {es : List Expr} {qs : List Query}
    (h : queries lookup options scope es = .ok qs) : qs.length = es.length :=
  (queries_eq_ok.mp h).length_eq.symm

/-! ## Negations that look at what they negate -/

/-- What is not excluded as a whole is not what its exclusion is. -/
theorem apart_of_not_whole : ∀ (negated : Bool) {scope : Option String} {e : Expr},
    e.Shaped → e.whole negated = false →
      Apart (query lookup options scope (e.signed (!negated)))
        ((query lookup options scope (e.signed negated)).map fun q => exclusion [q])
  | true, _, .leaf _ _, _, _ | true, _, .boosted _ _, _, _ | true, _, .bool .and _, _, _ => by
      rw [Expr.signed_true, query_not_of_whole rfl]
      exact apart_twice _
  | false, scope, .bool .or es, hs, _ => by
      -- several alternatives are excluded one by one, not as one
      rw [Bool.not_false, Expr.signed_true, query_not_or]
      intro q r hq hr heq
      obtain ⟨qs, hqs, rfl⟩ := map_eq_ok.mp hq
      obtain ⟨r, -, rfl⟩ := map_eq_ok.mp hr
      rw [bare_exclusion, bare_exclusion] at heq
      have hlen := congrArg List.length (Query.bool.inj heq).2.2.2
      have htwo := hs.1.two_le (by simp)
      rw [List.length_map, length_queries hqs, List.length_map,
        List.length_singleton] at hlen
      omega
  | true, scope, .bool .or es, hs, _ => by
      rw [Bool.not_true, Expr.signed_false, Expr.signed_true, query_not_or, query]
      intro q r hq hr heq
      obtain ⟨qs, hqs, rfl⟩ := map_eq_ok.mp hq
      obtain ⟨r, -, rfl⟩ := map_eq_ok.mp hr
      have hnormal := normal_queries
        (fun e he => (Expr.allShaped_iff.mp hs.2 e he).groupsNonempty) hqs
      have htwo := hs.1.two_le (by simp)
      rw [disjunction_of_normal hnormal (by rwa [length_queries hqs]), Query.bare_bool,
        bare_exclusion] at heq
      exact absurd (Query.bool.inj heq).2.2.2 (by simp)
  | negated, _, .inField name body, hs, h => by
      rw [query_signed_inField, query_signed_inField]
      exact apart_of_not_whole negated hs.2 h
  | negated, scope, .bool .not [only], hs, h => by
      rw [← Expr.not, query_signed_not, query_signed_not]
      exact apart_of_not_whole (!negated) hs.2.1 h
  | _, _, .bool .not [], hs, _ => absurd hs.1 (by simp [Expr.Joined])
  | _, _, .bool .not (_ :: _ :: _), hs, _ => absurd hs.1 (by simp [Expr.Joined])

/-! ## Frames -/

theorem queries_operand {before after : List Expr} {e : Expr} {qs : List Query}
    (h : queries lookup options scope (before ++ e :: after) = .ok qs) :
    ∃ bs q as, queries lookup options scope before = .ok bs ∧
      query lookup options scope e = .ok q ∧
        queries lookup options scope after = .ok as ∧ qs = bs ++ q :: as := by
  rw [queries_append, queries] at h
  obtain ⟨bs, hbs, h⟩ := bind_eq_ok.mp h
  obtain ⟨rest, hrest, h⟩ := bind_eq_ok.mp h
  obtain ⟨q, hq, hrest⟩ := bind_eq_ok.mp hrest
  obtain ⟨as, has, hrest⟩ := bind_eq_ok.mp hrest
  obtain rfl := Except.ok.inj hrest
  exact ⟨bs, q, as, hbs, hq, has, (Except.ok.inj h).symm⟩

/-- Groups of several operands are apart if one of the operands is. -/
theorem apart_of_operand {f : List Query → Query}
    (hf : ∀ {bs as : List Query} {q r : Query}, bs ++ as ≠ [] →
      (∀ p ∈ bs ++ as, p.Normal) → q.Normal → r.Normal →
        (f (bs ++ q :: as)).bare = (f (bs ++ r :: as)).bare → q.bare = r.bare)
    {before after : List Expr} {e e' : Expr} (hother : before ++ after ≠ [])
    (hne : ∀ o ∈ before ++ after, o.GroupsNonempty) (he : e.GroupsNonempty)
    (he' : e'.GroupsNonempty)
    (h : Apart (query lookup options scope e) (query lookup options scope e')) :
    Apart ((queries lookup options scope (before ++ e :: after)).map f)
      ((queries lookup options scope (before ++ e' :: after)).map f) := by
  intro _ _ hfq hfr heq
  obtain ⟨_, hqs, rfl⟩ := map_eq_ok.mp hfq
  obtain ⟨_, hrs, rfl⟩ := map_eq_ok.mp hfr
  obtain ⟨bs, q, as, hbs, hq, has, rfl⟩ := queries_operand hqs
  obtain ⟨bs', r, as', hbs', hr, has', rfl⟩ := queries_operand hrs
  obtain rfl := Except.ok.inj (hbs.symm.trans hbs')
  obtain rfl := Except.ok.inj (has.symm.trans has')
  have hall : queries lookup options scope (before ++ after) = .ok (bs ++ as) := by
    rw [queries_append, hbs, has]
    rfl
  have hnil : bs ++ as ≠ [] := by
    rw [← List.length_pos_iff, length_queries hall]
    exact List.length_pos_iff.mpr hother
  exact h q r hq hr (hf hnil (normal_queries hne hall) (normal_of_query he hq)
    (normal_of_query he' hr) heq)

theorem Apart.signed (he : e.whole false = true) (he' : e'.whole false = true)
    (h : Apart (query lookup options scope e) (query lookup options scope e'))
    (negated : Bool) :
    Apart (query lookup options scope (e.signed negated))
      (query lookup options scope (e'.signed negated)) := by
  cases negated with
  | false => exact h
  | true =>
      rw [Expr.signed_true, Expr.signed_true, query_not_of_whole he, query_not_of_whole he']
      exact h.exclusion

theorem apart_bool {op : BoolOp} (hop : op ≠ .not) {before after : List Expr}
    (hs : (Expr.bool op (before ++ e :: after)).Shaped) (he' : e'.GroupsNonempty)
    (h : Apart (query lookup options scope e) (query lookup options scope e'))
    (negated : Bool) :
    Apart
      (query lookup options scope (Expr.signed negated (.bool op (before ++ e :: after))))
      (query lookup options scope
        (Expr.signed negated (.bool op (before ++ e' :: after)))) := by
  obtain ⟨hother, hshaped, he⟩ := Expr.Frame.others_of_shaped hop hs
  have hne : ∀ o ∈ before ++ after, o.GroupsNonempty := fun o ho =>
    (hshaped o ho).groupsNonempty
  cases op with
  | not => exact absurd rfl hop
  | and =>
      refine Apart.signed rfl rfl ?_ negated
      rw [query_and, query_and]
      exact apart_of_operand bare_of_conjunction hother hne he.groupsNonempty he' h
  | or =>
      cases negated with
      | false =>
          rw [Expr.signed_false, Expr.signed_false, query, query]
          exact apart_of_operand bare_of_disjunction hother hne he.groupsNonempty he' h
      | true =>
          rw [Expr.signed_true, Expr.signed_true, query_not_or, query_not_or]
          refine apart_of_operand (fun _ _ _ _ heq => ?_) hother hne he.groupsNonempty he' h
          simpa [bare_exclusion] using heq

/-- **A difference by more than boosts is seen through every frame** of an
expression that the parser returns. -/
theorem apart_fill {x y : Expr} (hy : y.GroupsNonempty) :
    ∀ {f : Expr.Frame} (negated : Bool) {scope : Option String}, (f.fill x).Shaped →
      (∀ scope, Apart (query lookup options scope (x.signed (f.negates negated)))
        (query lookup options scope (y.signed (f.negates negated)))) →
      Apart (query lookup options scope ((f.fill x).signed negated))
        (query lookup options scope ((f.fill y).signed negated))
  | .hole, _, scope, _, h => h scope
  | .inField name f, negated, _, hs, h => by
      rw [Expr.Frame.fill, Expr.Frame.fill, query_signed_inField, query_signed_inField]
      exact apart_fill hy negated hs.2 h
  | .boosted f factor, negated, _, hs, h => by
      refine Apart.signed rfl rfl ?_ negated
      rw [Expr.Frame.fill, Expr.Frame.fill, query, query]
      refine Apart.map (fun q r heq => ?_) (apart_fill hy false hs.2 h)
      rwa [Query.bare_boosted, Query.bare_boosted] at heq
  | .bool .not before f after, negated, scope, hs, h => by
      obtain ⟨rfl, rfl⟩ := Expr.Frame.single_of_joined hs.1
      change Apart (query lookup options scope ((f.fill x).not.signed negated))
        (query lookup options scope ((f.fill y).not.signed negated))
      rw [query_signed_not, query_signed_not]
      exact apart_fill hy (!negated) hs.2.1 h
  | .bool .and _ f _, negated, _, hs, h | .bool .or _ f _, negated, _, hs, h =>
      have hx := (Expr.Frame.others_of_shaped (by simp) hs).2.2
      apart_bool (by simp) hs
        (Expr.Frame.groupsNonempty_fill (fun _ => hy) hx.groupsNonempty)
        (apart_fill hy false hx h) negated

end Searchlight.Resolution
