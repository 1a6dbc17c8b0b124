import Searchlight.Proofs.Number.One
import Searchlight.Proofs.Query.Apart
import Searchlight.Proofs.Query.Exchange
import Searchlight.Proofs.Query.Failure
import Searchlight.Proofs.Query.Nodes

/-!
# Boosts of one

A boost of one leaves the query of an expression alone. It leaves the query of
what is around the expression alone as well, unless a negation meets it there: a
negation looks at the expression behind it, whether it is a negation or a
disjunction, but it does not look through a boost.
-/

namespace Searchlight

theorem Query.boosted_one {q : Query} (hq : q.Settled) : q.boosted .one = q := by
  have hone : ∀ q : Query, q.withFactor .one = q := fun q =>
    if_pos (Binary.same_one.mpr rfl)
  cases q with
  | boost q factor =>
      obtain ⟨-, hfactor⟩ := hq
      rw [boosted, withFactor, Binary.mul_one, hfactor]
      exact if_neg (by simp)
  | _ => exact hone _

namespace Resolution

variable {lookup : String → Option FieldMapping} {options : ResolveOptions}
  {scope : Option String}

theorem settled_of_query {e : Expr} {q : Query}
    (h : query lookup options scope e = .ok q) : ∀ x ∈ q.nodes, x.Settled :=
  (clausewise_invariant Query.clausewise_settled fun _ _ _ _ => settled_leaf).query e h

theorem query_boosted_one (e : Expr) :
    query lookup options scope (.boosted e .one) = query lookup options scope e := by
  rw [query]
  cases h : query lookup options scope e with
  | error err => rfl
  | ok q =>
      have hq : q.Settled := settled_of_query h q (Query.mem_nodes_self q)
      rw [Except.map, Query.boosted_one hq]

/-- **Where no negation meets an expression that it does not exclude as a whole,
a boost of one around it is not seen.** -/
theorem query_fill_boosted_one {f : Expr.Frame} {x : Expr}
    (h : f.negates false = true → x.whole false = true) :
    query lookup options scope (f.fill (.boosted x .one)) =
      query lookup options scope (f.fill x) := by
  refine query_fill_congr f false fun scope => ?_
  cases hn : f.negates false with
  | false => exact query_boosted_one x
  | true =>
      rw [Expr.signed_true, Expr.signed_true, query_not_of_whole rfl, query_boosted_one,
        query_not_of_whole (h hn)]

/-- A boost of one is seen where a negation meets an expression that it does not
exclude as a whole. -/
theorem apart_fill_boosted_one {f : Expr.Frame} {x : Expr} (hs : (f.fill x).Shaped)
    (hn : f.negates false = true) (hx : x.whole false = false) :
    Apart (query lookup options scope (f.fill x))
      (query lookup options scope (f.fill (.boosted x .one))) := by
  have hxs := Expr.Frame.shaped_of_fill hs
  have hy : (Expr.boosted x .one).GroupsNonempty := hxs.groupsNonempty
  refine apart_fill hy false hs fun scope => ?_
  rw [hn, Expr.signed_true (.boosted x .one), query_not_of_whole rfl, query_boosted_one]
  exact apart_of_not_whole false hxs hx

/-! ## Errors -/

theorem leaves_bool (op : BoolOp) (es : List Expr) :
    ((Expr.bool op es).occurrences scope).map Occurrence.leaf =
      es.flatMap fun e => (e.occurrences scope).map Occurrence.leaf := by
  have hnegated : Occurrence.leaf (α := ScopedLiteral) ∘ Occurrence.negated =
      Occurrence.leaf := rfl
  cases op <;>
    simp [Expr.occurrences, Expr.occurrencesAll_eq, List.map_flatMap, hnegated]

/-- A boost changes no leaf, wherever it is. -/
theorem leaves_fill_boosted (x : Expr) (factor : Single) :
    ∀ (f : Expr.Frame) (scope : Option String),
      ((f.fill (.boosted x factor)).occurrences scope).map Occurrence.leaf =
        ((f.fill x).occurrences scope).map Occurrence.leaf
  | .hole, scope => by
      rw [Expr.Frame.fill, Expr.Frame.fill, Expr.occurrences, List.map_map]
      rfl
  | .inField name f, scope => leaves_fill_boosted x factor f (some name)
  | .boosted f _, scope => by
      simp only [Expr.Frame.fill, Expr.occurrences, List.map_map]
      exact leaves_fill_boosted x factor f scope
  | .bool op before f after, scope => by
      simp only [Expr.Frame.fill, leaves_bool, List.flatMap_append, List.flatMap_cons,
        leaves_fill_boosted x factor f scope]

end Resolution

/-- **A boost of one around a part of a parsed expression is not seen**, unless
everything resolves and a negation meets the part, which it would not have
excluded as a whole. -/
theorem resolve_boosted_one {text : String} {f : Expr.Frame} {x : Expr}
    (h : parseQuery text = .ok (some (f.fill x)))
    (lookup : String → Option FieldMapping) (options : ResolveOptions) :
    resolve lookup options (some (f.fill (.boosted x .one))) =
        resolve lookup options (some (f.fill x)) ↔
      (∃ err, resolve lookup options (some (f.fill x)) = .error err) ∨
        (f.negates false = true → x.whole false = true) := by
  constructor
  · intro heq
    cases hr : resolve lookup options (some (f.fill x)) with
    | error err => exact .inl ⟨err, rfl⟩
    | ok q =>
        refine .inr fun hn => ?_
        by_contra hx
        rw [hr] at heq
        obtain ⟨root, hroot, hq⟩ := map_eq_ok.mp hr
        obtain ⟨root', hroot', hq'⟩ := map_eq_ok.mp heq
        have hsame : root = root' := by
          rw [← hq'] at hq
          cases ho : options.asFilter <;> simpa [ho, Clauses.toQuery] using hq
        exact Resolution.apart_fill_boosted_one (shaped_of_parseQuery h) hn
          (by simpa using hx) root root' hroot hroot' (congrArg Query.bare hsame)
  · rintro (⟨err, herr⟩ | hwhole)
    · rw [herr, Resolution.resolve_eq_error,
        Resolution.firstFailure_congr (Resolution.leaves_fill_boosted x .one f none)]
      exact Resolution.resolve_eq_error.mp herr
    · rw [resolve, resolve, Resolution.query_fill_boosted_one hwhole]

/-- A boost of one inside of a negated disjunction is not seen. -/
theorem resolve_boosted_one_alternative :
    let lookup (name : String) : Option FieldMapping :=
      some { name := name, path := name, type := .text }
    let options : ResolveOptions := { defaultField := "body" }
    let a : Expr := .leaf none (.term "a")
    let f : Expr.Frame := .bool .not [] (.bool .or [] .hole [.leaf none (.term "b")]) []
    parseQuery "-(a OR b)" = .ok (some (f.fill a)) ∧
      resolve lookup options (some (f.fill (.boosted a .one))) =
        resolve lookup options (some (f.fill a)) := by
  intro lookup options a f
  have hparse : parseQuery "-(a OR b)" = .ok (some (f.fill a)) := by decide +kernel
  exact ⟨hparse, (resolve_boosted_one hparse lookup options).mpr (.inr (by decide))⟩

/-- A boost of one around a negated disjunction is: the alternatives are not
excluded one by one any more. -/
theorem resolve_boosted_one_disjunction :
    let on (name : String) : FieldMapping := { name := name, path := name, type := .text }
    let lookup (name : String) : Option FieldMapping := some (on name)
    let options : ResolveOptions := { defaultField := "body" }
    let x : Expr := .bool .or [.leaf none (.term "a"), .leaf none (.term "b")]
    let f : Expr.Frame := .bool .not [] .hole []
    let a : Query := .fullText (on "body").toField "a"
    let b : Query := .fullText (on "body").toField "b"
    parseQuery "-(a OR b)" = .ok (some (f.fill x)) ∧
      parseQuery "-(a OR b)^1" = .ok (some (f.fill (.boosted x .one))) ∧
      resolve lookup options (some (f.fill x)) = .ok (.bool [] [] [] [a, b]) ∧
      resolve lookup options (some (f.fill (.boosted x .one))) =
        .ok (.bool [] [] [] [.bool [] [] [a, b] []]) ∧
      resolve lookup options (some (f.fill (.boosted x .one))) ≠
        resolve lookup options (some (f.fill x)) := by
  intro on lookup options x f a b
  have hplain : resolve lookup options (some (f.fill x)) = .ok (.bool [] [] [] [a, b]) :=
    rfl
  have hboosted : resolve lookup options (some (f.fill (.boosted x .one))) =
      .ok (.bool [] [] [] [.bool [] [] [a, b] []]) := rfl
  -- the factor is evaluated with the tokens, not again when they are parsed
  have htokens : tokenize "-(a OR b)^1" = .ok
      [⟨.not, "-", 0⟩, ⟨.openGroup, "(", 1⟩, ⟨.term "a", "a", 2⟩, ⟨.or, "OR", 4⟩,
        ⟨.term "b", "b", 7⟩, ⟨.closeGroup, ")", 8⟩, ⟨.boost .one, "^1", 9⟩] := by
    decide +kernel
  have hparse : parseQuery "-(a OR b)^1" = .ok (some (f.fill (.boosted x .one))) := by
    rw [parseQuery, htokens]
    rfl
  refine ⟨by decide +kernel, hparse, hplain, hboosted, ?_⟩
  rw [hplain, hboosted]
  simp

end Searchlight
