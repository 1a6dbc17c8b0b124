import Searchlight.Proofs.Grammar.Causality
import Searchlight.Proofs.Grammar.Scopes

/-!
# What a parser has read can be completed

A parser that stops has read tokens that some derivation begins with, unless a
field scope nests in another one. The missing tokens hold no field name: an
operand is completed by a word, a range by open ends, and a group is closed. So
no scope that was not there before gets into a group behind a field name, and no
level is opened.
-/

namespace Searchlight.Grammar

open Text

variable {α β : Type}

/-- The tokens can be continued, without a further field name, to some that
stand in the relation. -/
def Begins (R : List TokenKind → α → Prop) (ks : List TokenKind) : Prop :=
  ∃ more a, (∀ k ∈ more, isFieldName k = false) ∧ R (ks ++ more) a

def Continues (R : List TokenKind → α → Prop) (ks : List TokenKind) : Prop :=
  ¬NestsScopes ks → Begins R ks

/-- Where the parser stops, the tokens that it has read have the property. -/
def Stops (p : Parse.Parser α) (V : List TokenKind → Prop) : Prop :=
  ∀ {ts : List Token} {stop : Parse.Stop}, p ts = .error stop → stop.Punctual →
    ∃ used, ts = used ++ stop.rest ∧ V (used.map Token.kind)

theorem begins_whole {R : List TokenKind → α → Prop} {ks : List TokenKind} {a : α}
    (h : R ks a) : Begins R ks :=
  ⟨[], a, fun _ hk => absurd hk List.not_mem_nil, by rwa [List.append_nil]⟩

/-- Other tokens in front, with the same ones behind. -/
theorem Begins.imp {R : List TokenKind → α → Prop} {S : List TokenKind → β → Prop}
    {ks ls : List TokenKind} (h : Begins R ks)
    (hRS : ∀ more a, R (ks ++ more) a → ∃ b, S (ls ++ more) b) : Begins S ls := by
  obtain ⟨more, a, hmore, ha⟩ := h
  obtain ⟨b, hb⟩ := hRS more a ha
  exact ⟨more, b, hmore, hb⟩

/-- With more tokens in front there is more that may nest. -/
theorem Continues.imp {R : List TokenKind → α → Prop} {S : List TokenKind → β → Prop}
    {ks ls : List TokenKind} (h : Continues R ks) (hks : ks <:+ ls)
    (hRS : ∀ more a, R (ks ++ more) a → ∃ b, S (ls ++ more) b) : Continues S ls :=
  fun hscopes => (h fun hnests => hscopes (hnests.of_suffix hks)).imp hRS

theorem kinds_suffix (front used : List Token) :
    used.map Token.kind <:+ (front ++ used).map Token.kind :=
  (List.suffix_append front used).map Token.kind

/-! ## Literals -/

def DerivesLeaf (ks : List TokenKind) (literal : Literal) : Prop :=
  ∃ l : Leaf, l.Admissible ∧ ks = l.kinds ∧ literal = l.literal

theorem begins_leaf : Begins DerivesLeaf [] :=
  ⟨[.term "x"], .term "x", by simp [isFieldName], .term "x" none, trivial, rfl, rfl⟩

theorem admissible_star : Edge.star.Admissible := trivial

/-- The bracket that a range lacks may be either one. -/
theorem begins_range {lower upper : Edge} (hl : lower.Admissible)
    (hu : upper.Admissible) {opening : Bool} {ks : List TokenKind}
    (more : List TokenKind)
    (h : ks ++ more = [lower.kind, .term "TO", upper.kind, .closeRange true])
    (hmore : ∀ k ∈ more, isFieldName k = false) :
    Begins DerivesLeaf (.openRange opening :: ks) :=
  ⟨more, _, hmore, .range opening lower upper true, ⟨hl, hu⟩,
    by rw [List.cons_append, h]; rfl, rfl⟩

theorem stops_range (opening : Bool) :
    Stops (Parse.range opening) fun ks => Begins DerivesLeaf (.openRange opening :: ks) := by
  intro ts stop h _
  simp only [Parse.range] at h
  rcases bind_eq_error.mp h with hlower | ⟨⟨_, ts₁⟩, hlower, h₁⟩
  · refine ⟨[], ((Parse.oneToken_boundValue _).rest_of_error hlower).symm, ?_⟩
    exact begins_range admissible_star admissible_star
      [.wildcard "*", .term "TO", .wildcard "*", .closeRange true] rfl (by simp [isFieldName])
  obtain ⟨u₁, rfl, lower, hla, hlk, -⟩ := readsOnly_boundValue _ hlower
  rcases bind_eq_error.mp h₁ with hsep | ⟨⟨_, ts₂⟩, hsep, h₂⟩
  · refine ⟨u₁, by rw [Parse.oneToken_rangeSeparator.rest_of_error hsep], ?_⟩
    exact begins_range hla admissible_star
      [.term "TO", .wildcard "*", .closeRange true] (by rw [hlk]; rfl) (by simp [isFieldName])
  obtain ⟨u₂, rfl, hsk⟩ := readsOnly_rangeSeparator hsep
  rcases bind_eq_error.mp h₂ with hupper | ⟨⟨_, ts₃⟩, hupper, h₃⟩
  · refine ⟨u₁ ++ u₂, by simp [(Parse.oneToken_boundValue _).rest_of_error hupper], ?_⟩
    exact begins_range hla admissible_star
      [.wildcard "*", .closeRange true] (by simp [hlk, hsk, Edge.kind]) (by simp [isFieldName])
  obtain ⟨u₃, rfl, upper, hua, huk, -⟩ := readsOnly_boundValue _ hupper
  rcases bind_eq_error.mp h₃ with hend | ⟨_, -, h₄⟩
  · refine ⟨u₁ ++ u₂ ++ u₃, by simp [Parse.oneToken_rangeEnd.rest_of_error hend], ?_⟩
    exact begins_range hla hua [.closeRange true]
      (by simp [hlk, hsk, huk]) (by simp [isFieldName])
  · cases h₄

theorem leafStart?_eq_error {ts : List Token} {stop : Parse.Stop}
    (h : Parse.leafStart? ts = some (.error stop)) (hstop : stop.Punctual) :
    ∃ used, ts = used ++ stop.rest ∧ Begins DerivesLeaf (used.map Token.kind) := by
  cases ts with
  | nil => cases h
  | cons t ts =>
      simp only [Parse.leafStart?] at h
      split at h
      · rename_i text hk
        have hrest := (Parse.oneToken_termLeaf text).rest_of_error (Option.some.inj h)
        refine ⟨[t], by rw [hrest]; rfl, begins_whole ⟨.term text none, trivial, ?_, rfl⟩⟩
        simp [hk, Leaf.kinds, Leaf.tildeKinds]
      · cases h
      · rename_i content hk
        split at h
        · obtain rfl := Except.error.inj (Option.some.inj h)
          exact ⟨[], rfl, begins_leaf⟩
        · rename_i hne
          have hrest := (Parse.oneToken_phraseLeaf _).rest_of_error (Option.some.inj h)
          refine ⟨[t], by rw [hrest]; rfl, begins_whole ⟨.phrase content none, ?_, ?_, rfl⟩⟩
          · exact ⟨phraseText_ne_empty_iff.mp hne, by simp⟩
          · simp [hk, Leaf.kinds, Leaf.tildeKinds]
      · split at h
        · obtain rfl := Except.error.inj (Option.some.inj h)
          exact ⟨[], rfl, begins_leaf⟩
        · cases h
      · rename_i opening hk
        obtain ⟨used, rfl, hbegins⟩ := stops_range opening (Option.some.inj h) hstop
        exact ⟨t :: used, rfl, by rwa [List.map_cons, hk]⟩
      · cases h

theorem leaf?_eq_error {ts : List Token} {stop : Parse.Stop}
    (h : Parse.leaf? ts = some (.error stop)) (hstop : stop.Punctual) :
    ∃ used, ts = used ++ stop.rest ∧ Begins DerivesLeaf (used.map Token.kind) := by
  simp only [Parse.leaf?, Option.map_eq_some_iff] at h
  obtain ⟨step, hstep, h⟩ := h
  rcases bind_eq_error.mp h with rfl | ⟨⟨literal, after⟩, rfl, h⟩
  · exact leafStart?_eq_error hstep hstop
  · obtain ⟨used, rfl, l, hla, hlk, -⟩ := leafStart?_eq_ok hstep
    have hrest := (Parse.oneToken_leafEnd literal).rest_of_error h
    exact ⟨used, by rw [hrest], begins_whole ⟨l, hla, hlk, rfl⟩⟩

/-! ## Groups and what stands behind a field name -/

/-- A parser of groups stops in front of the group, or somewhere inside. -/
def StopsGroups (group : Parse.Parser Expr) (n : Nat) : Prop :=
  ∀ {t : Token} {ts : List Token} {stop : Parse.Stop}, t.kind = .openGroup →
    group (t :: ts) = .error stop → stop.Punctual →
      ∃ used, t :: ts = used ++ stop.rest ∧
        (used = [] ∨ Continues (DerivesGroup n) (used.map Token.kind))

section

variable {group : Parse.Parser Expr} {n : Nat} {field : Option String}

theorem Begins.boosted_leaf {ks : List TokenKind} (h : Begins DerivesLeaf ks) :
    Begins (DerivesBoosted n field) ks := by
  refine h.imp ?_
  rintro more literal ⟨l, hla, hlk, -⟩
  exact ⟨_, .leaf l none, ⟨hla, admissibleFactor_none⟩, Nat.zero_le n,
    by simp [hlk, Boosted.kinds, boostKinds], rfl⟩

/-- A group behind a field name is completed without a field scope, since it
holds no field name so far. -/
theorem Begins.boosted_group {ks : List TokenKind} (h : Begins (DerivesGroup n) ks)
    (hscopes : ∀ name ∈ field, ¬NestsScopes (.field name :: ks)) :
    Begins (DerivesBoosted n field) ks := by
  obtain ⟨more, -, hmore, d, hda, hdl, hdk, -⟩ := h
  have hscope : field.isSome → (Expr.or d.exprs).hasFieldScope = false := by
    intro hfield
    obtain ⟨name, hname⟩ := Option.isSome_iff_exists.mp hfield
    apply hasFieldScope_group
    apply Disjunct.unscoped
    intro k hk
    cases hnames : isFieldName k with
    | false => rfl
    | true =>
        have hnests := nestsScopes_of_group name d.balanced hdk hmore hk hnames
        exact absurd hnests (hscopes name hname)
  exact ⟨more, _, hmore, .group d none, ⟨hda, admissibleFactor_none, hscope⟩, hdl,
    by simp [hdk, Boosted.kinds, boostKinds], rfl⟩

/-- A literal in front, or the factor behind it. -/
theorem begins_of_leaf_eq_error {ts : List Token} {stop : Parse.Stop}
    {step : Except Parse.Stop (Literal × List Token)} (hleaf : Parse.leaf? ts = some step)
    (h : (step >>= fun x => Parse.boostEnd (.leaf field x.1) x.2) = .error stop)
    (hstop : stop.Punctual) :
    ∃ used, ts = used ++ stop.rest ∧
      Begins (DerivesBoosted n field) (used.map Token.kind) := by
  rcases bind_eq_error.mp h with rfl | ⟨⟨literal, after⟩, rfl, h⟩
  · obtain ⟨used, hused, hbegins⟩ := leaf?_eq_error hleaf hstop
    exact ⟨used, hused, hbegins.boosted_leaf⟩
  · obtain ⟨used, rfl, hderives⟩ := leaf?_eq_ok hleaf
    have hrest := (Parse.oneToken_boostEnd _).rest_of_error h
    exact ⟨used, by rw [hrest], (begins_whole hderives).boosted_leaf⟩

/-- The factor behind a group. -/
theorem begins_of_boostEnd_eq_error (field : Option String)
    (hreads : ReadsGroups group n) {t : Token} {ts after : List Token} {inner e : Expr}
    {stop : Parse.Stop} (hk : t.kind = .openGroup)
    (hinner : group (t :: ts) = .ok (inner, after))
    (hscope : field.isSome → inner.hasFieldScope = false)
    (h : Parse.boostEnd e after = .error stop) :
    ∃ used, t :: ts = used ++ stop.rest ∧
      Begins (DerivesBoosted n field) (used.map Token.kind) := by
  obtain ⟨used, hused, d, hda, hdl, hdk, rfl⟩ := hreads hk hinner
  have hrest := (Parse.oneToken_boostEnd e).rest_of_error h
  refine ⟨used, by rw [hused, hrest], begins_whole ⟨.group d none, ?_, hdl, ?_, rfl⟩⟩
  · exact ⟨hda, admissibleFactor_none, hscope⟩
  · simp [hdk, Boosted.kinds, boostKinds]

theorem stops_boosted (hreads : ReadsGroups group n) (hstops : StopsGroups group n) :
    Stops (Parse.boosted group) (Continues (DerivesBoosted n none)) := by
  intro ts stop h hstop
  simp only [Parse.boosted] at h
  split at h
  · rename_i step hleaf
    obtain ⟨used, hused, hbegins⟩ := begins_of_leaf_eq_error hleaf h hstop
    exact ⟨used, hused, fun _ => hbegins⟩
  · split at h
    · obtain rfl := Except.error.inj h
      exact ⟨[], rfl, fun _ => begins_leaf.boosted_leaf⟩
    · split at h
      · rename_i hk
        rcases bind_eq_error.mp h with hgroup | ⟨⟨inner, after⟩, hinner, h⟩
        · obtain ⟨used, hused, rfl | hcontinues⟩ := hstops hk hgroup hstop
          · exact ⟨[], hused, fun _ => begins_leaf.boosted_leaf⟩
          · exact ⟨used, hused, fun hscopes =>
              (hcontinues hscopes).boosted_group (by simp)⟩
        · obtain ⟨used, hused, hbegins⟩ :=
            begins_of_boostEnd_eq_error none hreads hk hinner (by simp) h
          exact ⟨used, hused, fun _ => hbegins⟩
      · obtain rfl := Except.error.inj h
        exact ⟨[], rfl, fun _ => begins_leaf.boosted_leaf⟩

theorem Begins.scoped {ks : List TokenKind} {name : String}
    (h : Begins (DerivesBoosted n (some name)) ks) :
    Begins (DerivesOperand n) (.field name :: ks) := by
  refine h.imp ?_
  rintro more _ ⟨b, hba, hbl, hbk, -⟩
  exact ⟨_, .field name (.boosted b), hba, hbl, by rw [List.cons_append, hbk]; rfl, rfl⟩

/-- What is read behind a field name continues together with the name. -/
theorem stops_fieldBody (hreads : ReadsGroups group n) (hstops : StopsGroups group n)
    (name : String) :
    Stops (Parse.fieldBody group name) fun ks =>
      Continues (DerivesOperand n) (.field name :: ks) := by
  have hnil : Begins (DerivesOperand n) [.field name] := begins_leaf.boosted_leaf.scoped
  intro ts stop h hstop
  simp only [Parse.fieldBody] at h
  split at h
  · rename_i step hleaf
    obtain ⟨used, hused, hbegins⟩ := begins_of_leaf_eq_error hleaf h hstop
    exact ⟨used, hused, fun _ => hbegins.scoped⟩
  · split at h
    · obtain rfl := Except.error.inj h
      exact ⟨[], rfl, fun _ => hnil⟩
    · rename_i t ts _
      split at h
      · rename_i c hk
        rcases bind_eq_error.mp h with hvalue | ⟨_, -, hend⟩
        · have hrest := (Parse.oneToken_comparedValue name).rest_of_error hvalue
          refine ⟨[t], by rw [hrest]; rfl, fun _ => ?_⟩
          exact ⟨[.term "x"], _, by simp [isFieldName],
            .field name (.comparison c (.term "x")), trivial, Nat.zero_le n,
            by simp [hk, Operand.kinds, Body.kinds, Plain.kind], rfl⟩
        · cases hend
      · rename_i hk
        rcases bind_eq_error.mp h with hgroup | ⟨⟨inner, after⟩, hinner, hend⟩
        · obtain ⟨used, hused, rfl | hcontinues⟩ := hstops hk hgroup hstop
          · exact ⟨[], hused, fun _ => hnil⟩
          · refine ⟨used, hused, fun hscopes => ?_⟩
            have hbegins := hcontinues fun hnests =>
              hscopes (hnests.of_suffix (List.suffix_cons _ _))
            refine (hbegins.boosted_group ?_).scoped
            rintro _ ⟨⟩
            exact hscopes
        · split at hend
          -- a group with field scopes is refused, but not in its place
          · obtain rfl := Except.error.inj hend
            exact absurd rfl (hstop name)
          · rename_i hscope
            obtain ⟨used, hused, hbegins⟩ := begins_of_boostEnd_eq_error (some name)
              hreads hk hinner (fun _ => by simpa using hscope) hend
            exact ⟨used, hused, fun _ => hbegins.scoped⟩
      · obtain rfl := Except.error.inj h
        exact ⟨[], rfl, fun _ => hnil⟩

end

/-! ## Conjuncts and disjuncts -/

section

variable {operand : Parse.Parser Expr} {n : Nat}

theorem stops_moreOperands (hreads : ReadsOnly operand (DerivesOperand n))
    (hstops : Stops operand (Continues (DerivesOperand n))) :
    ∀ (fuel : Nat) (o : Operand), o.Admissible → o.levels ≤ n →
      Stops (Parse.moreOperands operand fuel)
        (Continues fun ks => DerivesConjunct n (o.kinds ++ ks)) := by
  intro fuel
  induction fuel with
  | zero => intro o _ _ ts stop h; cases h
  | succ fuel ih =>
      intro o hoa hol ts stop h hstop
      simp only [Parse.moreOperands] at h
      split at h
      · cases h
      · rename_i ahead hahead
        obtain ⟨u₁, written, rfl, hw⟩ := operandAhead?_eq_some hahead
        rcases bind_eq_error.mp h with he | ⟨⟨e, ts₁⟩, he, hloop⟩
        · obtain ⟨u₂, rfl, hcontinues⟩ := hstops he hstop
          refine ⟨u₁ ++ u₂, by simp, hcontinues.imp (kinds_suffix u₁ u₂) ?_⟩
          rintro more _ ⟨o', ho'a, ho'l, ho'k, -⟩
          exact ⟨_, .and written o (.last o'), ⟨hoa, ho'a⟩, Nat.max_le.mpr ⟨hol, ho'l⟩,
            by simp [Conjunct.kinds, hw, ← ho'k], rfl⟩
        · obtain ⟨u₂, rfl, o', ho'a, ho'l, ho'k, -⟩ := hreads he
          rcases bind_eq_error.mp hloop with hmore | ⟨_, -, hend⟩
          · obtain ⟨u₃, rfl, hcontinues⟩ := ih o' ho'a ho'l hmore hstop
            refine ⟨u₁ ++ u₂ ++ u₃, by simp, hcontinues.imp (kinds_suffix _ u₃) ?_⟩
            rintro more _ ⟨c, hca, hcl, hck, -⟩
            exact ⟨_, .and written o c, ⟨hoa, hca⟩, Nat.max_le.mpr ⟨hol, hcl⟩,
              by simp [Conjunct.kinds, hw, ho'k, ← hck], rfl⟩
          · cases hend

theorem stops_conjunct (hreads : ReadsOnly operand (DerivesOperand n))
    (hstops : Stops operand (Continues (DerivesOperand n))) :
    Stops (Parse.conjunct operand) (Continues (DerivesConjunct n)) := by
  intro ts stop h hstop
  simp only [Parse.conjunct] at h
  rcases bind_eq_error.mp h with hfirst | ⟨⟨first, ts₁⟩, hfirst, hloop⟩
  · obtain ⟨used, hused, hcontinues⟩ := hstops hfirst hstop
    refine ⟨used, hused, hcontinues.imp List.suffix_rfl ?_⟩
    rintro more _ ⟨o, hoa, hol, hok, -⟩
    exact ⟨_, .last o, hoa, hol, hok, rfl⟩
  · obtain ⟨u₁, rfl, o, hoa, hol, hok, -⟩ := hreads hfirst
    rcases bind_eq_error.mp hloop with hmore | ⟨_, -, hend⟩
    · obtain ⟨u₂, rfl, hcontinues⟩ := stops_moreOperands hreads hstops _ o hoa hol hmore hstop
      refine ⟨u₁ ++ u₂, by simp, hcontinues.imp (kinds_suffix u₁ u₂) fun more e he => ⟨e, ?_⟩⟩
      rwa [List.map_append, hok, List.append_assoc]
    · cases hend

theorem stops_moreConjuncts (hreads : ReadsOnly operand (DerivesOperand n))
    (hstops : Stops operand (Continues (DerivesOperand n))) :
    ∀ (fuel : Nat) (c : Conjunct), c.Admissible → c.levels ≤ n →
      Stops (Parse.moreConjuncts operand fuel)
        (Continues fun ks => DerivesDisjunct n (c.kinds ++ ks)) := by
  intro fuel
  induction fuel with
  | zero => intro c _ _ ts stop h; cases h
  | succ fuel ih =>
      intro c hca hcl ts stop h hstop
      simp only [Parse.moreConjuncts] at h
      split at h
      · cases h
      · rename_i t ts
        split at h
        · rename_i hk
          rcases bind_eq_error.mp h with he | ⟨⟨e, ts₁⟩, he, hloop⟩
          · obtain ⟨u₁, rfl, hcontinues⟩ := stops_conjunct hreads hstops he hstop
            refine ⟨t :: u₁, rfl, hcontinues.imp (List.suffix_cons _ _) ?_⟩
            rintro more _ ⟨c', hc'a, hc'l, hc'k, -⟩
            exact ⟨_, .or c (.last c'), ⟨hca, hc'a⟩, Nat.max_le.mpr ⟨hcl, hc'l⟩,
              by simp [Disjunct.kinds, hk, ← hc'k], rfl⟩
          · obtain ⟨u₁, rfl, c', hc'a, hc'l, hc'k, -⟩ := readsOnly_conjunct hreads he
            rcases bind_eq_error.mp hloop with hmore | ⟨_, -, hend⟩
            · obtain ⟨u₂, rfl, hcontinues⟩ := ih c' hc'a hc'l hmore hstop
              refine ⟨t :: u₁ ++ u₂, by simp, hcontinues.imp (kinds_suffix _ u₂) ?_⟩
              rintro more _ ⟨d, hda, hdl, hdk, -⟩
              exact ⟨_, .or c d, ⟨hca, hda⟩, Nat.max_le.mpr ⟨hcl, hdl⟩,
                by simp [Disjunct.kinds, hk, hc'k, ← hdk], rfl⟩
            · cases hend
        · cases h

theorem stops_disjunct (hreads : ReadsOnly operand (DerivesOperand n))
    (hstops : Stops operand (Continues (DerivesOperand n))) :
    Stops (Parse.disjunct operand) (Continues (DerivesDisjunct n)) := by
  intro ts stop h hstop
  simp only [Parse.disjunct] at h
  rcases bind_eq_error.mp h with hfirst | ⟨⟨first, ts₁⟩, hfirst, hloop⟩
  · obtain ⟨used, hused, hcontinues⟩ := stops_conjunct hreads hstops hfirst hstop
    refine ⟨used, hused, hcontinues.imp List.suffix_rfl ?_⟩
    rintro more _ ⟨c, hca, hcl, hck, -⟩
    exact ⟨_, .last c, hca, hcl, hck, rfl⟩
  · obtain ⟨u₁, rfl, c, hca, hcl, hck, -⟩ := readsOnly_conjunct hreads hfirst
    rcases bind_eq_error.mp hloop with hmore | ⟨_, -, hend⟩
    · obtain ⟨u₂, rfl, hcontinues⟩ := stops_moreConjuncts hreads hstops _ c hca hcl hmore hstop
      refine ⟨u₁ ++ u₂, by simp, hcontinues.imp (kinds_suffix u₁ u₂) fun more e he => ⟨e, ?_⟩⟩
      rwa [List.map_append, hck, List.append_assoc]
    · cases hend

end

/-! ## Operands -/

theorem stopsGroups_none (n : Nat) : StopsGroups (Parse.group none) n := by
  intro t ts stop _ h _
  obtain rfl := Except.error.inj h
  exact ⟨[], rfl, .inl rfl⟩

/-- The parenthesis that a group lacks is the last one of its tokens. -/
theorem stopsGroups_some {operand : Parse.Parser Expr} {n : Nat}
    (hreads : ReadsOnly operand (DerivesOperand n))
    (hstops : Stops operand (Continues (DerivesOperand n))) :
    StopsGroups (Parse.group (some operand)) (n + 1) := by
  intro t ts stop ht h hstop
  simp only [Parse.group, List.tail_cons] at h
  have hclose : isFieldName .closeGroup = false := rfl
  rcases bind_eq_error.mp h with hinner | ⟨⟨e, after⟩, hinner, hend⟩
  · obtain ⟨used, rfl, hcontinues⟩ := stops_disjunct hreads hstops hinner hstop
    refine ⟨t :: used, rfl, .inr fun hscopes => ?_⟩
    obtain ⟨more, _, hmore, d, hda, hdl, hdk, -⟩ := hcontinues fun hnests =>
      hscopes (hnests.of_suffix (List.suffix_cons _ _))
    refine ⟨more ++ [.closeGroup], _, List.forall_mem_append.mpr ⟨hmore, by simp [hclose]⟩,
      d, hda, Nat.succ_le_succ hdl, ?_, rfl⟩
    simp [ht, ← hdk]
  · obtain ⟨used, rfl, d, hda, hdl, hdk, -⟩ := readsOnly_disjunct hreads hinner
    have hrest := (Parse.oneToken_closeGroup e).rest_of_error hend
    refine ⟨t :: used, by rw [hrest]; rfl, .inr fun _ => ?_⟩
    exact ⟨[.closeGroup], _, by simp [hclose], d, hda, Nat.succ_le_succ hdl,
      by simp [ht, hdk], rfl⟩

theorem begins_operand {n : Nat} : Begins (DerivesOperand n) [] :=
  ⟨[.term "x"], _, by simp [isFieldName], .boosted (.leaf (.term "x" none) none),
    ⟨trivial, admissibleFactor_none⟩, Nat.zero_le n, rfl, rfl⟩

/-- Where no level is left, the token that would open one is not read. -/
theorem stops_operandWith {inner? : Option (Parse.Parser Expr)} {n : Nat}
    (hreads : ReadsGroups (Parse.group inner?) n) (hstops : StopsGroups (Parse.group inner?) n)
    (hinner : ∀ p, inner? = some p →
      ∃ m, m + 1 ≤ n ∧ Stops p (Continues (DerivesOperand m))) :
    Stops (Parse.operandWith inner?) (Continues (DerivesOperand n)) := by
  intro ts stop h hstop
  cases ts with
  | nil =>
      obtain rfl := Except.error.inj h
      exact ⟨[], rfl, fun _ => begins_operand⟩
  | cons t ts =>
      simp only [Parse.operandWith] at h
      split at h
      · rename_i hk
        split at h
        · obtain rfl := Except.error.inj h
          exact ⟨[], rfl, fun _ => begins_operand⟩
        · rename_i p
          obtain ⟨m, hm, hp⟩ := hinner p rfl
          obtain ⟨used, rfl, hcontinues⟩ := hp (map_eq_error.mp h) hstop
          refine ⟨t :: used, rfl, hcontinues.imp (List.suffix_cons _ _) ?_⟩
          rintro more _ ⟨o, hoa, hol, hok, -⟩
          have hlevels : (Operand.not o).levels ≤ n := by
            simp only [Operand.levels]
            omega
          exact ⟨_, .not o, hoa, hlevels, by simp [hk, ← hok, Operand.kinds], rfl⟩
      · rename_i name hk
        obtain ⟨used, rfl, hcontinues⟩ := stops_fieldBody hreads hstops name h hstop
        refine ⟨t :: used, rfl, ?_⟩
        rw [List.map_cons, hk]
        exact hcontinues
      · obtain ⟨used, hused, hcontinues⟩ := stops_boosted hreads hstops h hstop
        refine ⟨used, hused, hcontinues.imp List.suffix_rfl ?_⟩
        rintro more _ ⟨b, hba, hbl, hbk, -⟩
        exact ⟨_, .boosted b, hba, hbl, hbk, rfl⟩

theorem stops_operand (n : Nat) : Stops (Parse.operand n) (Continues (DerivesOperand n)) := by
  induction n with
  | zero =>
      exact stops_operandWith (readsGroups_none 0) (stopsGroups_none 0) fun p hp => nomatch hp
  | succ n ih =>
      show Stops (Parse.operandWith (some (Parse.operand n))) _
      refine stops_operandWith (readsGroups_some (readsOnly_operand n))
        (stopsGroups_some (readsOnly_operand n) ih) fun p hp => ?_
      obtain rfl := Option.some.inj hp
      exact ⟨n, Nat.le_refl _, ih⟩

end Searchlight.Grammar
