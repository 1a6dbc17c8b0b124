import Searchlight.Expr.Parse

/-!
# One token of lookahead

What a parser does is decided by the tokens that it reads and the one behind
them. Whatever else follows can be exchanged: the parser reads the same, returns
the same, or stops in front of the same token for the same reason. The one
exception is a group with a field scope behind a field name. It is read to its
end before it is refused, and the reason is given at its beginning.
-/

namespace Searchlight.Parse

variable {α β : Type}

/-! ## Outcomes -/

/-- The tokens that are left, behind a result or at a stop. -/
def remaining : Except Stop (α × List Token) → List Token
  | .ok (_, rest) => rest
  | .error stop => stop.rest

/-- The same outcome in front of other tokens. -/
def moved (rest : List Token) : Except Stop (α × List Token) → Except Stop (α × List Token)
  | .ok (a, _) => .ok (a, rest)
  | .error stop => .error ⟨stop.expected, rest⟩

/-- The reason is given where the parser stopped. -/
def Stop.Punctual (stop : Stop) : Prop :=
  ∀ field, stop.expected ≠ .unscopedGroup field

def Punctual (x : Except Stop (α × List Token)) : Prop :=
  ∀ stop, x = .error stop → stop.Punctual

theorem moved_remaining (x : Except Stop (α × List Token)) : moved (remaining x) x = x := by
  cases x <;> rfl

theorem punctual_moved {x : Except Stop (α × List Token)} (h : Punctual x)
    (rest : List Token) : Punctual (moved rest x) := by
  cases x with
  | ok step =>
      intro stop heq
      cases heq
  | error stop =>
      intro stop' heq
      obtain rfl := Except.error.inj heq
      exact h stop rfl

/-! ## Causal parsers -/

/-- On `ts` the parser looks at the tokens it reads and at the next one. -/
def CausalAt (p : Parser α) (ts : List Token) : Prop :=
  Punctual (p ts) → ∃ used, ts = used ++ remaining (p ts) ∧
    ∀ rest : List Token, rest.head? = (remaining (p ts)).head? →
      p (used ++ rest) = moved rest (p ts)

def Causal (p : Parser α) : Prop := ∀ ts, CausalAt p ts

theorem causalAt_of_remaining {p : Parser α} {ts : List Token} (h : remaining (p ts) = ts)
    (hp : ∀ rest : List Token, rest.head? = ts.head? → p rest = moved rest (p ts)) :
    CausalAt p ts := by
  intro _
  refine ⟨[], by rw [List.nil_append, h], fun rest hrest => ?_⟩
  rw [h] at hrest
  exact hp rest hrest

theorem causalAt_nil {p : Parser α} (h : remaining (p []) = []) : CausalAt p [] := by
  refine causalAt_of_remaining h fun rest hrest => ?_
  obtain rfl := List.head?_eq_none_iff.mp hrest
  exact (h ▸ moved_remaining (p [])).symm

theorem causal_error (expected : Expectation) :
    Causal (fun ts => (.error ⟨expected, ts⟩ : Except Stop (α × List Token))) :=
  fun _ => causalAt_of_remaining rfl fun _ _ => rfl

theorem causal_ok (a : α) :
    Causal (fun ts => (.ok (a, ts) : Except Stop (α × List Token))) :=
  fun _ => causalAt_of_remaining rfl fun _ _ => rfl

/-- Parsers that agree on all texts with the same first token. -/
theorem CausalAt.congr_head {p q : Parser α} {t : Token} {ts : List Token}
    (h : ∀ rest, p (t :: rest) = q (t :: rest)) (hq : CausalAt q (t :: ts)) :
    CausalAt p (t :: ts) := by
  intro hp
  rw [h] at hp ⊢
  obtain ⟨used, hused, hall⟩ := hq hp
  refine ⟨used, hused, fun rest hrest => ?_⟩
  rw [← hall rest hrest]
  -- the first token is read, or else the first one of `rest`
  cases used with
  | nil =>
      rw [List.nil_append] at hused
      rw [← hused, List.head?_cons] at hrest
      obtain ⟨rest, rfl⟩ := List.head?_eq_some_iff.mp hrest
      exact h rest
  | cons u used =>
      obtain ⟨rfl, -⟩ := List.cons.inj hused
      exact h (used ++ rest)

/-- Parsers that only differ where neither is punctual. -/
theorem Causal.congr_punctual {p q : Parser α}
    (h : ∀ ts, Punctual (p ts) ∨ Punctual (q ts) → p ts = q ts) (hq : Causal q) :
    Causal p := by
  intro ts hp
  have heq := h ts (.inl hp)
  rw [heq] at hp ⊢
  obtain ⟨used, hused, hall⟩ := hq ts hp
  refine ⟨used, hused, fun rest hrest => ?_⟩
  have hmoved := hall rest hrest
  have hpunctual : Punctual (q (used ++ rest)) := hmoved ▸ punctual_moved hp rest
  rw [h _ (.inr hpunctual), hmoved]

/-- Two parsers one after the other. -/
theorem CausalAt.bind {p : Parser α}
    {f : α × List Token → Except Stop (β × List Token)} {ts : List Token}
    (hp : CausalAt p ts)
    (hf : ∀ a rest, p ts = .ok (a, rest) → CausalAt (fun rest => f (a, rest)) rest) :
    CausalAt (fun ts => p ts >>= f) ts := by
  intro hpunctual
  cases hts : p ts with
  | error stop =>
      simp only [hts] at hpunctual ⊢
      have hstop : Punctual (p ts) := by
        intro stop' heq
        obtain rfl := Except.error.inj (hts.symm.trans heq)
        exact hpunctual stop rfl
      obtain ⟨used, hused, hall⟩ := hp hstop
      rw [hts] at hused hall
      refine ⟨used, hused, fun rest hrest => ?_⟩
      rw [hall rest hrest]
      rfl
  | ok step =>
      obtain ⟨a, after⟩ := step
      simp only [hts] at hpunctual ⊢
      obtain ⟨used, hused, hall⟩ := hp (hts ▸ fun _ heq => nomatch heq)
      obtain ⟨used', hused', hall'⟩ := hf a after hts hpunctual
      rw [hts] at hused hall
      change ts = used ++ after at hused
      change after = used' ++ remaining (f (a, after)) at hused'
      refine ⟨used ++ used', ?_, fun rest hrest => ?_⟩
      · show ts = used ++ used' ++ remaining (f (a, after))
        rw [List.append_assoc, ← hused', hused]
      · have hhead : (used' ++ rest).head? = after.head? := by
          rw [hused', List.head?_append, List.head?_append]
          exact congrArg _ hrest
        rw [List.append_assoc, hall _ hhead]
        exact hall' rest hrest

theorem Causal.bind {p : Parser α} {f : α × List Token → Except Stop (β × List Token)}
    (hp : Causal p) (hf : ∀ a, Causal (fun rest => f (a, rest))) :
    Causal (fun ts => p ts >>= f) :=
  fun ts => (hp ts).bind fun a rest _ => hf a rest

theorem Causal.map {p : Parser α} (hp : Causal p) (f : α → β) :
    Causal (fun ts => (p ts).map fun x => (f x.1, x.2)) := by
  have hbind : Causal (fun ts => p ts >>= fun x => .ok (f x.1, x.2)) :=
    hp.bind fun a => causal_ok (f a)
  intro ts
  have heq : (fun ts => (p ts).map fun x => (f x.1, x.2)) =
      fun ts => p ts >>= fun x => .ok (f x.1, x.2) := by
    funext ts
    cases p ts <;> rfl
  rw [heq]
  exact hbind ts

/-- The parser behind a token that is not looked at. -/
def behind (p : Parser α) : Parser α := fun ts => p ts.tail

theorem Causal.behind {p : Parser α} (hp : Causal p) : Causal (behind p) := by
  intro ts hpunctual
  obtain ⟨used, hused, hall⟩ := hp ts.tail hpunctual
  cases ts with
  | nil =>
      obtain ⟨rfl, hrest⟩ := List.append_eq_nil_iff.mp hused.symm
      exact causalAt_nil hrest hpunctual
  | cons t ts =>
      refine ⟨t :: used, congrArg (t :: ·) hused, fun rest hrest => ?_⟩
      exact hall rest hrest

/-! ## Parsers of one token -/

/-- What a parser does that sees one token only. -/
inductive Choice (α : Type) where
  /-- The token is read. -/
  | take (a : α)
  /-- The token is left where it is. -/
  | pass (a : α)
  | refuse (expected : Expectation)

def Choice.run : Choice α → Parser α
  | take a, ts => .ok (a, ts.tail)
  | pass a, ts => .ok (a, ts)
  | refuse expected, ts => .error ⟨expected, ts⟩

theorem Choice.causal : ∀ c : Choice α, Causal c.run
  | take a => (causal_ok a).behind
  | pass a => causal_ok a
  | refuse expected => causal_error expected

/-- The parser chooses by the next token. -/
structure OneToken (p : Parser α) : Prop where
  nil : ∃ c : Choice α, p [] = c.run []
  cons : ∀ t, ∃ c : Choice α, ∀ rest, p (t :: rest) = c.run (t :: rest)

theorem OneToken.causal {p : Parser α} (hp : OneToken p) : Causal p := by
  intro ts
  cases ts with
  | nil =>
      obtain ⟨c, hc⟩ := hp.nil
      refine causalAt_nil ?_
      rw [hc]
      cases c <;> rfl
  | cons t ts =>
      obtain ⟨c, hc⟩ := hp.cons t
      exact (c.causal (t :: ts)).congr_head hc

/-- It stops without reading anything. -/
theorem OneToken.rest_of_error {p : Parser α} (hp : OneToken p) {ts : List Token}
    {stop : Stop} (h : p ts = .error stop) : stop.rest = ts := by
  have hrefuse : ∀ c : Choice α, p ts = c.run ts → stop.rest = ts := by
    intro c hc
    rw [h] at hc
    cases c with
    | take a => cases hc
    | pass a => cases hc
    | refuse expected =>
        obtain rfl := Except.error.inj hc
        rfl
  cases ts with
  | nil =>
      obtain ⟨c, hc⟩ := hp.nil
      exact hrefuse c hc
  | cons t ts =>
      obtain ⟨c, hc⟩ := hp.cons t
      exact hrefuse c (hc ts)

theorem oneToken_boundValue (expected : Expectation) : OneToken (boundValue expected) where
  nil := ⟨.refuse expected, rfl⟩
  cons t := by
    cases hk : t.kind with
    | wildcard pattern =>
        by_cases hp : pattern = "*"
        · exact ⟨.take none, fun rest => by simp [boundValue, hk, hp, Choice.run]⟩
        · exact ⟨.refuse expected, fun rest => by simp [boundValue, hk, hp, Choice.run]⟩
    | term text =>
        by_cases ht : text = "TO"
        · exact ⟨.refuse expected, fun rest => by simp [boundValue, hk, ht, Choice.run]⟩
        · exact ⟨.take text, fun rest => by simp [boundValue, hk, ht, Choice.run]⟩
    | phrase content => exact ⟨.take content, fun rest => by simp [boundValue, hk, Choice.run]⟩
    | _ => exact ⟨.refuse expected, fun rest => by simp [boundValue, hk, Choice.run]⟩

theorem oneToken_rangeSeparator : OneToken rangeSeparator where
  nil := ⟨.refuse .rangeSeparator, rfl⟩
  cons t := by
    by_cases hk : t.kind = .term "TO"
    · exact ⟨.take (), fun rest => by simp [rangeSeparator, hk, Choice.run]⟩
    · exact ⟨.refuse .rangeSeparator, fun rest => by simp [rangeSeparator, hk, Choice.run]⟩

theorem oneToken_rangeEnd : OneToken rangeEnd where
  nil := ⟨.refuse .rangeEnd, rfl⟩
  cons t := by
    cases hk : t.kind with
    | closeRange inclusive =>
        exact ⟨.take inclusive, fun rest => by simp [rangeEnd, hk, Choice.run]⟩
    | _ => exact ⟨.refuse .rangeEnd, fun rest => by simp [rangeEnd, hk, Choice.run]⟩

theorem oneToken_termLeaf (text : String) : OneToken (termLeaf text) where
  nil := ⟨.pass (.term text), rfl⟩
  cons t := by
    cases hk : t.kind with
    | tilde distance =>
        cases distance with
        | none =>
            exact ⟨.take (.fuzzy text none), fun rest => by simp [termLeaf, hk, Choice.run]⟩
        | some n =>
            by_cases hn : maxFuzzyDistance < n
            · exact ⟨.refuse .fuzzyDistance, fun rest => by
                simp [termLeaf, hk, hn, Choice.run]⟩
            · exact ⟨.take (.fuzzy text (some n)), fun rest => by
                simp [termLeaf, hk, hn, Choice.run]⟩
    | _ => exact ⟨.pass (.term text), fun rest => by simp [termLeaf, hk, Choice.run]⟩

theorem oneToken_phraseLeaf (text : String) : OneToken (phraseLeaf text) where
  nil := ⟨.pass (.phrase text 0), rfl⟩
  cons t := by
    cases hk : t.kind with
    | tilde distance =>
        cases distance with
        | none => exact ⟨.refuse .slop, fun rest => by simp [phraseLeaf, hk, Choice.run]⟩
        | some n =>
            exact ⟨.take (.phrase text n), fun rest => by simp [phraseLeaf, hk, Choice.run]⟩
    | _ => exact ⟨.pass (.phrase text 0), fun rest => by simp [phraseLeaf, hk, Choice.run]⟩

theorem oneToken_leafEnd (literal : Literal) : OneToken (leafEnd literal) where
  nil := ⟨.pass literal, rfl⟩
  cons t := by
    cases hk : t.kind with
    | tilde distance =>
        exact ⟨.refuse (.noTilde literal), fun rest => by simp [leafEnd, hk, Choice.run]⟩
    | _ => exact ⟨.pass literal, fun rest => by simp [leafEnd, hk, Choice.run]⟩

theorem oneToken_boostEnd (e : Expr) : OneToken (boostEnd e) where
  nil := ⟨.pass e, rfl⟩
  cons t := by
    cases hk : t.kind with
    | boost factor =>
        by_cases hf : factor.isFinite && factor.isPositive
        · exact ⟨.take (.boosted e factor), fun rest => by
            simp only [boostEnd, hk, hf, if_true, Choice.run, List.tail_cons]⟩
        · exact ⟨.refuse .positiveBoost, fun rest => by
            simp only [boostEnd, hk, if_neg hf, Choice.run]⟩
    | _ => exact ⟨.pass e, fun rest => by simp [boostEnd, hk, Choice.run]⟩

theorem oneToken_comparedValue (field : String) : OneToken (comparedValue field) where
  nil := ⟨.refuse (.comparedValue field), rfl⟩
  cons t := by
    cases hk : t.kind with
    | term v => exact ⟨.take v, fun rest => by simp [comparedValue, hk, Choice.run]⟩
    | phrase v => exact ⟨.take v, fun rest => by simp [comparedValue, hk, Choice.run]⟩
    | _ =>
        exact ⟨.refuse (.comparedValue field), fun rest => by
          simp [comparedValue, hk, Choice.run]⟩

theorem oneToken_closeGroup (e : Expr) : OneToken (closeGroup e) where
  nil := ⟨.refuse .closingParenthesis, rfl⟩
  cons t := by
    by_cases hk : t.kind = .closeGroup
    · exact ⟨.take e, fun rest => by simp [closeGroup, hk, Choice.run]⟩
    · exact ⟨.refuse .closingParenthesis, fun rest => by simp [closeGroup, hk, Choice.run]⟩

/-! ## Loops -/

/-- Whether an item follows, behind the tokens that only announce it. -/
def announced (ahead? : List Token → Option (List Token)) : Parser Bool := fun ts =>
  match ahead? ts with
  | none => .ok (false, ts)
  | some ahead => .ok (true, ahead)

/-- One item, if it is announced, and what the loop reads behind it. -/
def turn (ahead? : List Token → Option (List Token)) (item : Parser Expr)
    (loop : Parser (List Expr)) : Parser (List Expr) := fun ts =>
  announced ahead? ts >>= fun x =>
    if x.1 then item x.2 >>= fun y => loop y.2 >>= fun z => .ok (y.1 :: z.1, z.2)
    else .ok ([], x.2)

def repeated (ahead? : List Token → Option (List Token)) (item : Parser Expr) :
    Nat → Parser (List Expr)
  | 0 => fun ts => .ok ([], ts)
  | fuel + 1 => turn ahead? item (repeated ahead? item fuel)

/-- Every success takes a token. -/
def Advances (p : Parser α) : Prop :=
  ∀ {ts rest : List Token} {a : α}, p ts = .ok (a, rest) → rest.length < ts.length

section

variable {ahead? : List Token → Option (List Token)} {item : Parser Expr}

theorem length_ahead (hahead : OneToken (announced ahead?)) {ts ahead : List Token}
    (h : ahead? ts = some ahead) : ahead.length ≤ ts.length := by
  have hread : announced ahead? ts = .ok (true, ahead) := by rw [announced, h]
  obtain ⟨used, hused, -⟩ := hahead.causal ts (hread ▸ fun _ heq => nomatch heq)
  rw [hread] at hused
  rw [hused, List.length_append]
  exact Nat.le_add_left _ _

theorem turn_none {loop : Parser (List Expr)} {ts : List Token} (h : ahead? ts = none) :
    turn ahead? item loop ts = .ok ([], ts) := by
  rw [turn, announced, h]
  rfl

theorem turn_some {loop : Parser (List Expr)} {ts ahead : List Token}
    (h : ahead? ts = some ahead) :
    turn ahead? item loop ts =
      item ahead >>= fun y => loop y.2 >>= fun z => .ok (y.1 :: z.1, z.2) := by
  rw [turn, announced, h]
  rfl

theorem causal_turn {loop : Parser (List Expr)} (hahead : OneToken (announced ahead?))
    (hitem : Causal item) (hloop : Causal loop) : Causal (turn ahead? item loop) := by
  have hmore : ∀ e, Causal fun ts => loop ts >>= fun z => .ok (e :: z.1, z.2) :=
    fun e => hloop.bind fun more => causal_ok (e :: more)
  refine hahead.causal.bind fun found => ?_
  cases found with
  | true => exact hitem.bind hmore
  | false => exact causal_ok []

/-- With a given amount of fuel a loop is a chain of items. -/
theorem causal_repeated (hahead : OneToken (announced ahead?)) (hitem : Causal item) :
    ∀ fuel, Causal (repeated ahead? item fuel) := by
  intro fuel
  induction fuel with
  | zero => exact causal_ok []
  | succ fuel ih => exact causal_turn hahead hitem ih

/-- More fuel than there are tokens makes no difference. -/
theorem repeated_fuel (hnil : ahead? [] = none) (hahead : OneToken (announced ahead?))
    (hitem : Advances item) :
    ∀ {fuel fuel' : Nat} {ts : List Token}, ts.length ≤ fuel → ts.length ≤ fuel' →
      repeated ahead? item fuel ts = repeated ahead? item fuel' ts := by
  have hstop : ∀ fuel, repeated ahead? item fuel [] = .ok ([], []) := by
    intro fuel
    cases fuel with
    | zero => rfl
    | succ fuel => exact turn_none hnil
  intro fuel
  induction fuel with
  | zero =>
      intro fuel' ts hfuel _
      obtain rfl := List.length_eq_zero_iff.mp (Nat.le_zero.mp hfuel)
      rw [hstop, hstop]
  | succ fuel ih =>
      intro fuel' ts hfuel hfuel'
      cases fuel' with
      | zero =>
          obtain rfl := List.length_eq_zero_iff.mp (Nat.le_zero.mp hfuel')
          rw [hstop, hstop]
      | succ fuel' =>
          rw [repeated, repeated]
          cases hts : ahead? ts with
          | none => rw [turn_none hts, turn_none hts]
          | some ahead =>
              rw [turn_some hts, turn_some hts]
              have hle := length_ahead hahead hts
              cases hread : item ahead with
              | error stop => rfl
              | ok x =>
                  -- the item took a token, which pays for the next turn
                  have hlt : x.2.length < ahead.length := hitem hread
                  have hrest := @ih fuel' x.2 (by omega) (by omega)
                  show (repeated ahead? item fuel x.2 >>= _) = repeated ahead? item fuel' x.2 >>= _
                  rw [hrest]

/-- A loop is given as much fuel as there are tokens, those behind its last item
included. -/
theorem causal_loop (hnil : ahead? [] = none) (hahead : OneToken (announced ahead?))
    (hadvances : Advances item) (hitem : Causal item) :
    Causal fun ts => repeated ahead? item ts.length ts := by
  intro ts (hpunctual : Punctual (repeated ahead? item ts.length ts))
  obtain ⟨used, hused, -⟩ := causal_repeated hahead hitem ts.length ts hpunctual
  refine ⟨used, hused, fun rest hrest => ?_⟩
  change rest.head? = (remaining (repeated ahead? item ts.length ts)).head? at hrest
  show repeated ahead? item (used ++ rest).length (used ++ rest) =
    moved rest (repeated ahead? item ts.length ts)
  have hfuel : ∀ {us : List Token} {fuel : Nat}, us.length ≤ fuel →
      repeated ahead? item us.length us = repeated ahead? item fuel us :=
    fun hle => repeated_fuel hnil hahead hadvances (Nat.le_refl _) hle
  -- enough fuel for the tokens that are there and for the exchanged ones
  have hts := hfuel (Nat.le_max_left ts.length (used ++ rest).length)
  have hexchanged := hfuel (Nat.le_max_right ts.length (used ++ rest).length)
  rw [hts] at hused hrest hpunctual ⊢
  rw [hexchanged]
  obtain ⟨used', hused', hall⟩ := causal_repeated hahead hitem _ ts hpunctual
  obtain rfl := List.append_cancel_right (hused'.symm.trans hused)
  exact hall rest hrest

end

end Searchlight.Parse
