import Searchlight.Proofs.Grammar.Completion

/-!
# Where a query stops

A query that is refused is refused at a token, or at its end. The tokens in
front of that place begin some query that is accepted, and together with the
token they begin none: whatever follows, the query is refused there for the same
reason. Again the exceptions are the groups behind a field name that hold
another field scope.
-/

namespace Searchlight.Grammar

open Parse

/-! ## Whole queries -/

/-- Nothing is left behind a query. -/
def queryEnd (e : Expr) : Parser Expr
  | [] => .ok (e, [])
  | t :: rest => .error ⟨.endOfQuery, t :: rest⟩

def wholeQuery : Parser Expr := fun ts =>
  disjunct (operand maxDepth) ts >>= fun x => queryEnd x.1 x.2

theorem query_eq_map {ts : List Token} (hne : ts ≠ []) :
    query ts = (wholeQuery ts).map fun x => some x.1 := by
  cases ts with
  | nil => exact absurd rfl hne
  | cons t ts =>
      simp only [query, wholeQuery]
      cases disjunct (operand maxDepth) (t :: ts) with
      | error stop => rfl
      | ok x =>
          obtain ⟨e, rest⟩ := x
          cases rest <;> rfl

theorem query_eq_error_iff {ts : List Token} {stop : Stop} (hne : ts ≠ []) :
    query ts = .error stop ↔ wholeQuery ts = .error stop := by
  rw [query_eq_map hne, map_eq_error]

theorem oneToken_queryEnd (e : Expr) : OneToken (queryEnd e) where
  nil := ⟨.pass e, rfl⟩
  cons _ := ⟨.refuse .endOfQuery, fun _ => rfl⟩

theorem causal_wholeQuery : Causal wholeQuery :=
  (causal_disjunct (readsOnly_operand maxDepth) (causal_operand maxDepth)).bind fun e =>
    (oneToken_queryEnd e).causal

theorem stops_wholeQuery : Stops wholeQuery (Continues (DerivesDisjunct maxDepth)) := by
  intro ts stop h hstop
  rcases bind_eq_error.mp h with hdisjunct | ⟨⟨e, after⟩, hdisjunct, hend⟩
  · exact stops_disjunct (readsOnly_operand maxDepth) (stops_operand maxDepth) hdisjunct hstop
  · obtain ⟨used, rfl, hderives⟩ := readsOnly_disjunct (readsOnly_operand maxDepth) hdisjunct
    have hrest := (oneToken_queryEnd e).rest_of_error hend
    exact ⟨used, by rw [hrest], fun _ => begins_whole hderives⟩

/-! ## Errors -/

/-- What is reported depends on the first token that is left. -/
theorem toError_cons (expected : Expectation) (t : Token) (rest rest' : List Token)
    (length length' : Nat) :
    Stop.toError ⟨expected, t :: rest⟩ length = Stop.toError ⟨expected, t :: rest'⟩ length' := by
  cases expected <;> rfl

theorem offset_toError {ts : List Token} {stop : Stop} {p : Nat} (h : stop.rest = ts.drop p)
    (length : Nat) :
    (stop.toError length).offset = (ts[p]?.map Token.offset).getD length := by
  rw [← List.head?_drop, ← h]
  show stop.offset length = _
  unfold Stop.offset
  cases stop.rest <;> rfl

/-- Tokens of given kinds. -/
def tokensOf (ks : List TokenKind) : List Token :=
  ks.map fun k => ⟨k, "", 0⟩

theorem kind_tokensOf (ks : List TokenKind) : (tokensOf ks).map Token.kind = ks := by
  simp [tokensOf, Function.comp_def]

/-- A stop divides the tokens. Those in front of it may be followed by others,
as long as the first one stays. -/
theorem exists_used_of_query_error {ts : List Token} {stop : Stop}
    (h : query ts = .error stop) (hstop : stop.Punctual) :
    ∃ used, ts = used ++ stop.rest ∧
      (∀ rest : List Token, rest.head? = stop.rest.head? →
        query (used ++ rest) = .error ⟨stop.expected, rest⟩) ∧
      Continues (DerivesDisjunct maxDepth) (used.map Token.kind) := by
  have hne : ts ≠ [] := by
    rintro rfl
    cases h
  have hwhole := (query_eq_error_iff hne).mp h
  have hpunctual : Punctual (wholeQuery ts) := by
    intro stop' h'
    obtain rfl := Except.error.inj (hwhole.symm.trans h')
    exact hstop
  obtain ⟨used, hused, hcontinues⟩ := stops_wholeQuery hwhole hstop
  obtain ⟨used', hused', hexchange⟩ := causal_wholeQuery ts hpunctual
  rw [hwhole] at hused' hexchange
  obtain rfl : used' = used := List.append_cancel_right (hused'.symm.trans hused)
  refine ⟨used', hused, fun rest hrest => ?_, hcontinues⟩
  have hne' : used' ++ rest ≠ [] := by
    intro hnil
    obtain ⟨rfl, rfl⟩ := List.append_eq_nil_iff.mp hnil
    exact hne (hused.trans (List.head?_eq_none_iff.mp hrest.symm))
  exact (query_eq_error_iff hne').mpr (hexchange rest hrest)

/-- A list with the same first items, one more than those in front of `t`. -/
theorem exists_rest_of_take_eq {ts us front rest : List Token} {t : Token}
    (hts : ts = front ++ t :: rest)
    (h : us.take (front.length + 1) = ts.take (front.length + 1)) :
    ∃ rest', us = front ++ t :: rest' := by
  have htake : us.take (front.length + 1) = front ++ [t] := by
    rw [h, hts, List.take_length_add_append]
    rfl
  refine ⟨us.drop (front.length + 1), ?_⟩
  calc us = us.take (front.length + 1) ++ us.drop (front.length + 1) :=
        (List.take_append_drop _ us).symm
    _ = front ++ t :: us.drop (front.length + 1) := by
        rw [htake, List.append_assoc]
        rfl

/-- **A query stops in front of the first token that cannot be continued.** If
it stops at token `p`, that is where the error points. Nothing behind the token
makes a difference, and in its place there could have been others that complete
the query. -/
theorem query_stops_at_token {ts : List Token} {stop : Stop}
    (h : query ts = .error stop) (hstop : stop.Punctual) :
    ∃ p ≤ ts.length, stop.rest = ts.drop p ∧
      (∀ length, (stop.toError length).offset = (ts[p]?.map Token.offset).getD length) ∧
      (p < ts.length → ∀ ts' : List Token, ts'.take (p + 1) = ts.take (p + 1) →
        ∃ stop', query ts' = .error stop' ∧
          ∀ length length', stop'.toError length' = stop.toError length) ∧
      (¬NestsScopes ((ts.take p).map Token.kind) →
        ∃ more e, query (ts.take p ++ more) = .ok (some e)) := by
  obtain ⟨used, hused, hexchange, hcontinues⟩ := exists_used_of_query_error h hstop
  have htake : ts.take used.length = used := by
    rw [hused]
    exact List.take_left
  have hdrop : stop.rest = ts.drop used.length := by
    conv => rhs; rw [hused]
    exact List.drop_left.symm
  refine ⟨used.length, ?_, hdrop, offset_toError hdrop, ?_, ?_⟩
  · rw [hused, List.length_append]
    exact Nat.le_add_right _ _
  · intro hlt ts' hts'
    obtain ⟨expected, rest⟩ := stop
    obtain rfl : rest = ts[used.length] :: ts.drop (used.length + 1) :=
      hdrop.trans (List.drop_eq_getElem_cons hlt)
    obtain ⟨rest', rfl⟩ := exists_rest_of_take_eq hused hts'
    exact ⟨_, hexchange _ rfl, fun length length' =>
      toError_cons expected _ _ _ length' length⟩
  · intro hscopes
    rw [htake] at hscopes ⊢
    obtain ⟨more, e, -, d, hda, hdl, hdk, hde⟩ := hcontinues hscopes
    refine ⟨tokensOf more, e, query_eq_ok_some_iff.mpr ⟨d, ?_, hda, hdl, hde.symm⟩⟩
    rw [List.map_append, kind_tokensOf, hdk]

/-- A missing operand in a group behind a field name. -/
theorem query_stops_at_token_in_group :
    let front : List Token := [⟨.term "a", "a", 0⟩, ⟨.field "title", "title:", 2⟩,
      ⟨.openGroup, "(", 8⟩, ⟨.term "b", "b", 9⟩, ⟨.or, "OR", 11⟩]
    let close : Token := ⟨.closeGroup, ")", 14⟩
    let stop : Stop := ⟨.expression, [close]⟩
    query (front ++ [close]) = .error stop ∧ stop.Punctual ∧
      (stop.toError 15).offset = 14 ∧ ¬NestsScopes (front.map Token.kind) ∧
      (∀ rest, ∃ stop', query (front ++ close :: rest) = .error stop' ∧
        stop'.toError 0 = stop.toError 15) ∧
      ∃ more e, query (front ++ more) = .ok (some e) := by
  intro front close stop
  have hquery : query (front ++ [close]) = .error stop := by rfl
  have hstop : stop.Punctual := by
    intro field hfield
    cases hfield
  -- one field name cannot nest in another one
  have hscopes : ¬NestsScopes (front.map Token.kind) := by
    rintro ⟨outer, name, inside, inner, rest, hkinds, -⟩
    have hcount := congrArg (List.countP isFieldName) hkinds
    simp [front, isFieldName, List.countP_cons] at hcount
    omega
  obtain ⟨p, hp, hrest, hoffset, hexchange, hcomplete⟩ := query_stops_at_token hquery hstop
  obtain rfl : p = 5 := by
    have hlength := congrArg List.length hrest
    simp [front, stop] at hlength hp
    omega
  refine ⟨hquery, hstop, hoffset 15, hscopes, fun rest => ?_, hcomplete hscopes⟩
  obtain ⟨stop', hstop', herror⟩ := hexchange (by decide) (front ++ close :: rest) rfl
  exact ⟨stop', hstop', herror 15 0⟩

end Searchlight.Grammar
