import Searchlight.Proofs.Grammar.Completeness
import Searchlight.Proofs.Grammar.Lookahead

/-!
# All parsers look one token ahead

Each parser is a chain of parsers of one token, up to two exceptions. The first
token of a literal, of a group and of what stands behind a field name selects
the parser for the rest. And a loop is given its fuel by the number of tokens
that are left, those behind its last item included; there is always enough.
-/

namespace Searchlight.Parse

open Grammar

variable {α : Type}

/-! ## Literals -/

theorem causal_range (inclusive : Bool) : Causal (range inclusive) :=
  (oneToken_boundValue _).causal.bind fun _ =>
    oneToken_rangeSeparator.causal.bind fun _ =>
      (oneToken_boundValue _).causal.bind fun _ =>
        oneToken_rangeEnd.causal.bind fun _ => causal_ok _

/-- The first token tells whether a literal starts, and how it is read. -/
theorem leafStart?_cases (t : Token) :
    (∀ rest, leafStart? (t :: rest) = none) ∨
      ∃ p : Parser Literal, Causal p ∧ ∀ rest, leafStart? (t :: rest) = some (p (t :: rest)) := by
  cases hk : t.kind with
  | term text =>
      exact .inr ⟨behind (termLeaf text), (oneToken_termLeaf text).causal.behind,
        fun rest => by simp [leafStart?, hk, behind]⟩
  | wildcard pattern =>
      exact .inr ⟨behind fun ts => .ok (.wildcard pattern, ts), (causal_ok _).behind,
        fun rest => by simp [leafStart?, hk, behind]⟩
  | phrase content =>
      right
      by_cases htext : phraseText content = ""
      · exact ⟨_, causal_error .nonEmptyPhrase, fun rest => by simp [leafStart?, hk, htext]⟩
      · exact ⟨behind (phraseLeaf (phraseText content)), (oneToken_phraseLeaf _).causal.behind,
          fun rest => by simp [leafStart?, hk, htext, behind]⟩
  | regex pattern =>
      right
      by_cases hp : pattern = ""
      · exact ⟨_, causal_error .nonEmptyRegex, fun rest => by simp [leafStart?, hk, hp]⟩
      · exact ⟨behind fun ts => .ok (.regex pattern, ts), (causal_ok _).behind,
          fun rest => by simp [leafStart?, hk, hp, behind]⟩
  | openRange inclusive =>
      exact .inr ⟨behind (range inclusive), (causal_range inclusive).behind,
        fun rest => by simp [leafStart?, hk, behind]⟩
  | _ => exact .inl fun rest => by simp [leafStart?, hk]

theorem leaf?_cases (t : Token) :
    (∀ rest, leaf? (t :: rest) = none) ∨
      ∃ p : Parser Literal, Causal p ∧ ∀ rest, leaf? (t :: rest) = some (p (t :: rest)) := by
  rcases leafStart?_cases t with hnone | ⟨p, hp, hsome⟩
  · exact .inl fun rest => by rw [leaf?, hnone]; rfl
  · refine .inr ⟨fun ts => p ts >>= fun x => leafEnd x.1 x.2, ?_, fun rest => ?_⟩
    · exact hp.bind fun literal => (oneToken_leafEnd literal).causal
    · rw [leaf?, hsome]
      rfl

/-! ## Operands -/

section

variable {group : Parser Expr}

theorem causal_boosted (hgroup : Causal group) : Causal (boosted group) := by
  intro ts
  cases ts with
  | nil => exact causalAt_nil rfl
  | cons t ts =>
      rcases leaf?_cases t with hnone | ⟨p, hp, hsome⟩
      · by_cases hk : t.kind = .openGroup
        · have hread : Causal fun ts => group ts >>= fun x => boostEnd x.1 x.2 :=
            hgroup.bind fun inner => (oneToken_boostEnd inner).causal
          refine (hread (t :: ts)).congr_head fun rest => ?_
          simp only [boosted, hnone, hk]
        · refine ((causal_error .expression) (t :: ts)).congr_head fun rest => ?_
          simp only [boosted, hnone]
      · have hread : Causal fun ts => p ts >>= fun x => boostEnd (.leaf none x.1) x.2 :=
          hp.bind fun literal => (oneToken_boostEnd (.leaf none literal)).causal
        refine (hread (t :: ts)).congr_head fun rest => ?_
        simp only [boosted, hsome]

/-- Where a group behind a field name is refused, it is refused too late. -/
theorem causal_scoped (hgroup : Causal group) (field : String) :
    Causal fun ts => group ts >>= fun x =>
      if x.1.hasFieldScope then .error ⟨.unscopedGroup field, ts⟩
      else boostEnd (.inField field x.1) x.2 := by
  have hlate : Causal fun ts => group ts >>= fun x =>
      if x.1.hasFieldScope then .error ⟨.unscopedGroup field, x.2⟩
      else boostEnd (.inField field x.1) x.2 := by
    refine hgroup.bind fun inner => ?_
    by_cases hscope : inner.hasFieldScope
    · simp only [hscope, if_true]
      exact causal_error _
    · simp only [hscope, if_false, Bool.false_eq_true]
      exact (oneToken_boostEnd _).causal
  refine hlate.congr_punctual fun ts hpunctual => ?_
  cases hts : group ts with
  | error stop => rfl
  | ok x =>
      by_cases hscope : x.1.hasFieldScope
      · rw [hts] at hpunctual
        simp only [bind, Except.bind, hscope, if_true] at hpunctual
        rcases hpunctual with h | h <;> exact absurd rfl (h _ rfl field)
      · simp only [bind, Except.bind, hscope, if_false, Bool.false_eq_true]

theorem causal_fieldBody (hgroup : Causal group) (field : String) :
    Causal (fieldBody group field) := by
  intro ts
  cases ts with
  | nil => exact causalAt_nil rfl
  | cons t ts =>
      rcases leaf?_cases t with hnone | ⟨p, hp, hsome⟩
      · cases hk : t.kind with
        | comparator c =>
            have hread : Causal (behind fun ts => comparedValue field ts >>= fun x =>
                .ok (Expr.leaf (some field) (comparison c x.1), x.2)) :=
              ((oneToken_comparedValue field).causal.bind fun v =>
                causal_ok (Expr.leaf (some field) (comparison c v))).behind
            refine (hread (t :: ts)).congr_head fun rest => ?_
            simp only [fieldBody, hnone, hk]
            rfl
        | openGroup =>
            refine (causal_scoped hgroup field (t :: ts)).congr_head fun rest => ?_
            simp only [fieldBody, hnone, hk]
        | _ =>
            refine ((causal_error (.valueAfter field)) (t :: ts)).congr_head fun rest => ?_
            simp only [fieldBody, hnone, hk]
      · have hread : Causal fun ts => p ts >>= fun x =>
            boostEnd (.leaf (some field) x.1) x.2 :=
          hp.bind fun literal => (oneToken_boostEnd (.leaf (some field) literal)).causal
        refine (hread (t :: ts)).congr_head fun rest => ?_
        simp only [fieldBody, hsome]

end

/-! ## Conjuncts and disjuncts -/

/-- Where the next conjunct of a disjunct starts, if there is one. -/
def conjunctAhead? : List Token → Option (List Token)
  | [] => none
  | t :: rest => if t.kind = .or then some rest else none

theorem moreOperands_eq (operand : Parser Expr) (fuel : Nat) :
    moreOperands operand fuel = repeated operandAhead? operand fuel := by
  induction fuel with
  | zero => rfl
  | succ fuel ih =>
      funext ts
      rw [repeated, ← ih]
      cases hts : operandAhead? ts with
      | none => simp only [moreOperands, turn_none hts, hts]
      | some ahead => simp only [moreOperands, turn_some hts, hts]

theorem moreConjuncts_eq (operand : Parser Expr) (fuel : Nat) :
    moreConjuncts operand fuel = repeated conjunctAhead? (conjunct operand) fuel := by
  induction fuel with
  | zero => rfl
  | succ fuel ih =>
      funext ts
      rw [repeated, ← ih]
      cases ts with
      | nil => rfl
      | cons t ts =>
          by_cases hk : t.kind = .or
          · have hts : conjunctAhead? (t :: ts) = some ts := if_pos hk
            simp only [moreConjuncts, hk, if_true, turn_some hts]
          · have hts : conjunctAhead? (t :: ts) = none := if_neg hk
            simp only [moreConjuncts, hk, if_false, turn_none hts]

theorem oneToken_operandAhead : OneToken (announced operandAhead?) where
  nil := ⟨.pass false, rfl⟩
  cons t := by
    by_cases hand : t.kind = .and
    · exact ⟨.take true, fun rest => by simp [announced, operandAhead?, hand, Choice.run]⟩
    · by_cases hopens : opensOperand t.kind
      · exact ⟨.pass true, fun rest => by
          simp [announced, operandAhead?, hand, startsOperand_eq, hopens, Choice.run]⟩
      · exact ⟨.pass false, fun rest => by
          simp [announced, operandAhead?, hand, startsOperand_eq, hopens, Choice.run]⟩

theorem oneToken_conjunctAhead : OneToken (announced conjunctAhead?) where
  nil := ⟨.pass false, rfl⟩
  cons t := by
    by_cases hor : t.kind = .or
    · exact ⟨.take true, fun rest => by simp [announced, conjunctAhead?, hor, Choice.run]⟩
    · exact ⟨.pass false, fun rest => by simp [announced, conjunctAhead?, hor, Choice.run]⟩

theorem advances_of_readsOnly {p : Parser α} {R : List TokenKind → α → Prop}
    (h : ReadsOnly p R) (hR : ∀ {ks : List TokenKind} {a : α}, R ks a → ks ≠ []) :
    Advances p := by
  intro ts rest a hread
  obtain ⟨used, rfl, hused⟩ := h hread
  have hne : used ≠ [] := fun hnil => hR hused (congrArg _ hnil)
  have hpos := List.length_pos_iff.mpr hne
  rw [List.length_append]
  omega

section

variable {operand : Parser Expr} {n : Nat}

theorem causal_conjunct (hreads : ReadsOnly operand (DerivesOperand n))
    (hop : Causal operand) : Causal (conjunct operand) := by
  have hadvances : Advances operand := by
    refine advances_of_readsOnly hreads ?_
    rintro _ _ ⟨o, -, -, rfl, -⟩
    exact o.startsWith.ne_nil
  have hmore : Causal fun ts => moreOperands operand ts.length ts := by
    simp only [moreOperands_eq]
    exact causal_loop rfl oneToken_operandAhead hadvances hop
  exact hop.bind fun first => hmore.bind fun more => causal_ok (Expr.and (first :: more))

theorem causal_disjunct (hreads : ReadsOnly operand (DerivesOperand n))
    (hop : Causal operand) : Causal (disjunct operand) := by
  have hconjunct := causal_conjunct hreads hop
  have hadvances : Advances (conjunct operand) := by
    refine advances_of_readsOnly (readsOnly_conjunct hreads) ?_
    rintro _ _ ⟨c, -, -, rfl, -⟩
    exact c.startsWith.ne_nil
  have hmore : Causal fun ts => moreConjuncts operand ts.length ts := by
    simp only [moreConjuncts_eq]
    exact causal_loop rfl oneToken_conjunctAhead hadvances hconjunct
  exact hconjunct.bind fun first => hmore.bind fun more => causal_ok (Expr.or (first :: more))

end

/-! ## Groups and operands -/

section

variable {inner? : Option (Parser Expr)}

theorem causal_group (hinner : ∀ p, inner? = some p →
    ∃ n, ReadsOnly p (DerivesOperand n) ∧ Causal p) : Causal (group inner?) := by
  cases inner? with
  | none => exact causal_error .shallowerNesting
  | some operand =>
      obtain ⟨n, hreads, hop⟩ := hinner operand rfl
      have hread : Causal (behind fun ts => disjunct operand ts >>= fun x =>
          closeGroup x.1 x.2) :=
        ((causal_disjunct hreads hop).bind fun e => (oneToken_closeGroup e).causal).behind
      exact hread

theorem causal_operandWith (hinner : ∀ p, inner? = some p →
    ∃ n, ReadsOnly p (DerivesOperand n) ∧ Causal p) : Causal (operandWith inner?) := by
  have hgroup := causal_group hinner
  intro ts
  cases ts with
  | nil => exact causalAt_nil rfl
  | cons t ts =>
      cases hk : t.kind with
      | not =>
          cases inner? with
          | none =>
              refine (causal_error .shallowerNesting (t :: ts)).congr_head fun rest => ?_
              simp only [operandWith, hk]
          | some operand =>
              obtain ⟨-, -, hop⟩ := hinner operand rfl
              refine ((hop.map Expr.not).behind (t :: ts)).congr_head fun rest => ?_
              simp only [operandWith, hk]
              rfl
      | field name =>
          refine ((causal_fieldBody hgroup name).behind (t :: ts)).congr_head fun rest => ?_
          simp only [operandWith, hk]
          rfl
      | _ =>
          refine (causal_boosted hgroup (t :: ts)).congr_head fun rest => ?_
          simp only [operandWith, hk]

end

theorem causal_operand (n : Nat) : Causal (operand n) := by
  induction n with
  | zero => exact causal_operandWith fun _ hp => nomatch hp
  | succ n ih =>
      refine causal_operandWith fun p hp => ?_
      obtain rfl := Option.some.inj hp
      exact ⟨n, readsOnly_operand n, ih⟩

end Searchlight.Parse
