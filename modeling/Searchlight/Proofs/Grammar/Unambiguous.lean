import Searchlight.Proofs.Grammar.Basic

/-!
# The grammar is unambiguous

Two derivations with the same tokens are the same. The statement that goes
through an induction lets tokens follow: of two derivations that begin one
text, neither can end before the other, because the token behind a disjunct, a
conjunct or an operand is one that could not have continued it.
-/

namespace Searchlight.Grammar

/-! ## First tokens and tokens behind -/

/-- Tokens that an operand starts with. -/
def opensOperand : TokenKind → Bool
  | .term _ | .wildcard _ | .phrase _ | .regex _ | .not | .openGroup
  | .field _ | .openRange _ => true
  | _ => false

/-- Tokens that an operand without a negation or field name starts with. -/
def opensBoosted : TokenKind → Bool
  | .term _ | .wildcard _ | .phrase _ | .regex _ | .openGroup
  | .openRange _ => true
  | _ => false

def endsLeaf : TokenKind → Bool
  | .tilde _ => false
  | _ => true

/-- Suffixes belong to the operand in front of them. -/
def endsOperand : TokenKind → Bool
  | .tilde _ | .boost _ => false
  | _ => true

def endsConjunct : TokenKind → Bool
  | .or | .closeGroup => true
  | _ => false

def endsDisjunct : TokenKind → Bool
  | .closeGroup => true
  | _ => false

/-- The next token, if there is one, is of the given class. -/
def Before (p : TokenKind → Bool) (ks : List TokenKind) : Prop :=
  ∀ k ∈ ks.head?, p k = true

@[simp] theorem before_nil (p : TokenKind → Bool) : Before p [] := by
  simp [Before]

@[simp] theorem before_cons {p : TokenKind → Bool} {k : TokenKind}
    {ks : List TokenKind} : Before p (k :: ks) ↔ p k = true := by
  simp [Before]

theorem Before.mono {p q : TokenKind → Bool} {ks : List TokenKind}
    (h : Before p ks) (hpq : ∀ k, p k = true → q k = true) : Before q ks :=
  fun k hk => hpq k (h k hk)

theorem Before.conjunct {ks : List TokenKind} (h : Before endsDisjunct ks) :
    Before endsConjunct ks :=
  h.mono fun k hk => by cases k <;> simp_all [endsDisjunct, endsConjunct]

theorem Before.operand {ks : List TokenKind} (h : Before endsConjunct ks) :
    Before endsOperand ks :=
  h.mono fun k hk => by cases k <;> simp_all [endsConjunct, endsOperand]

theorem Before.leaf {ks : List TokenKind} (h : Before endsOperand ks) :
    Before endsLeaf ks :=
  h.mono fun k hk => by cases k <;> simp_all [endsOperand, endsLeaf]

/-- The tokens of a derivation start with one of the given class. -/
def StartsWith (p : TokenKind → Bool) (ks : List TokenKind) : Prop :=
  ∃ k rest, ks = k :: rest ∧ p k = true

theorem StartsWith.append {p : TokenKind → Bool} {ks : List TokenKind}
    (h : StartsWith p ks) (more : List TokenKind) : StartsWith p (ks ++ more) := by
  obtain ⟨k, rest, rfl, hk⟩ := h
  exact ⟨k, rest ++ more, rfl, hk⟩

theorem StartsWith.ne_nil {p : TokenKind → Bool} {ks : List TokenKind}
    (h : StartsWith p ks) : ks ≠ [] := by
  obtain ⟨k, rest, rfl, -⟩ := h
  exact List.cons_ne_nil k rest

theorem StartsWith.before {p q : TokenKind → Bool} {ks : List TokenKind}
    (h : StartsWith p ks) (hpq : ∀ k, p k = true → q k = true) : Before q ks := by
  obtain ⟨k, rest, rfl, hk⟩ := h
  exact before_cons.mpr (hpq k hk)

/-- Heads of two readings of one text agree. -/
theorem StartsWith.head_eq {p : TokenKind → Bool} {ks r r' : List TokenKind}
    {k : TokenKind} (hs : StartsWith p ks) (h : k :: r = ks ++ r') :
    p k = true := by
  obtain ⟨k', rest, rfl, hk⟩ := hs
  obtain ⟨rfl, -⟩ := List.cons.inj h
  exact hk

theorem Leaf.startsWith (l : Leaf) : StartsWith opensBoosted l.kinds := by
  cases l <;> exact ⟨_, _, rfl, rfl⟩

theorem Boosted.startsWith (b : Boosted) : StartsWith opensBoosted b.kinds := by
  cases b with
  | leaf l factor => exact l.startsWith.append _
  | group d factor => exact ⟨_, _, rfl, rfl⟩

theorem Operand.startsWith (o : Operand) : StartsWith opensOperand o.kinds := by
  cases o with
  | not o => exact ⟨_, _, rfl, rfl⟩
  | field name b => exact ⟨_, _, rfl, rfl⟩
  | boosted b =>
      obtain ⟨k, rest, hks, hk⟩ := b.startsWith
      exact ⟨k, rest, hks, by cases k <;> simp_all [opensBoosted, opensOperand]⟩

theorem Conjunct.startsWith (c : Conjunct) : StartsWith opensOperand c.kinds := by
  cases c with
  | last o => exact o.startsWith
  | and written o rest =>
      rw [Conjunct.kinds, List.append_assoc]
      exact o.startsWith.append _

theorem Disjunct.startsWith (d : Disjunct) : StartsWith opensOperand d.kinds := by
  cases d with
  | last c => exact c.startsWith
  | or c rest => exact c.startsWith.append _

/-- Behind an operand of a conjunct stands no suffix. -/
theorem Conjunct.before_tail (written : Bool) (c : Conjunct)
    (ks : List TokenKind) :
    Before endsOperand (andKinds written ++ c.kinds ++ ks) := by
  cases written with
  | true => exact before_cons.mpr rfl
  | false =>
      refine (c.startsWith.append ks).before fun k hk => ?_
      cases k <;> simp_all [opensOperand, endsOperand]

/-- A conjunct that goes on does not end. -/
theorem Conjunct.tail_ne {written : Bool} {c : Conjunct}
    {ks r : List TokenKind} (hr : Before endsConjunct r) :
    r ≠ andKinds written ++ c.kinds ++ ks := by
  rintro rfl
  cases written with
  | true => exact Bool.noConfusion (before_cons.mp hr)
  | false =>
      obtain ⟨k, rest, hks, hk⟩ := c.startsWith.append ks
      rw [andKinds, if_neg Bool.false_ne_true, List.nil_append, hks,
        before_cons] at hr
      cases k <;> simp_all [opensOperand, endsConjunct]

/-- The operator between two operands is written in both readings or in none,
since no operand starts with it. -/
theorem Conjunct.andKinds_append_inj {w w' : Bool} (c c' : Conjunct)
    {r r' : List TokenKind}
    (h : andKinds w ++ (c.kinds ++ r) = andKinds w' ++ (c'.kinds ++ r')) :
    w = w' ∧ c.kinds ++ r = c'.kinds ++ r' := by
  cases w <;> cases w'
  · exact ⟨rfl, h⟩
  · exact Bool.noConfusion ((c.startsWith.append r).head_eq
      (h.symm.trans (List.append_nil _).symm))
  · exact Bool.noConfusion ((c'.startsWith.append r').head_eq
      (h.trans (List.append_nil _).symm))
  · exact ⟨rfl, (List.cons.inj h).2⟩

/-! ## Literals and suffixes -/

theorem Plain.kind_inj {v v' : Plain} (h : v.kind = v'.kind) : v = v' := by
  cases v <;> cases v' <;> simp_all [Plain.kind]

theorem Edge.kind_inj {e e' : Edge} (h : e.kind = e'.kind) : e = e' := by
  cases e with
  | star =>
      cases e' with
      | star => rfl
      | value v => cases v <;> simp [Edge.kind, Plain.kind] at h
  | value v =>
      cases e' with
      | star => cases v <;> simp [Edge.kind, Plain.kind] at h
      | value v' => rw [Plain.kind_inj h]

/-- An optional token is there in both readings or in none, where the token
behind it is none of its kind. -/
theorem optional_append_inj {α : Type} {f : α → TokenKind}
    (hf : ∀ a b, f a = f b → a = b) {p : TokenKind → Bool}
    (hp : ∀ a, p (f a) = false) {x y : Option α} {r r' : List TokenKind}
    (hr : Before p r) (hr' : Before p r')
    (h : (x.map f).toList ++ r = (y.map f).toList ++ r') : x = y ∧ r = r' := by
  cases x with
  | none =>
      cases y with
      | none => exact ⟨rfl, h⟩
      | some b =>
          obtain rfl : r = f b :: r' := h
          exact absurd (before_cons.mp hr) (by simp [hp])
  | some a =>
      cases y with
      | none =>
          obtain rfl : f a :: r = r' := h
          exact absurd (before_cons.mp hr') (by simp [hp])
      | some b =>
          obtain ⟨hab, rfl⟩ := List.cons.inj (h : f a :: r = f b :: r')
          exact ⟨congrArg some (hf a b hab), rfl⟩

theorem Leaf.kinds_append_inj {l l' : Leaf} {r r' : List TokenKind}
    (hr : Before endsLeaf r) (hr' : Before endsLeaf r')
    (h : l.kinds ++ r = l'.kinds ++ r') : l = l' ∧ r = r' := by
  cases l <;> cases l' <;>
    simp only [Leaf.kinds, List.cons_append, List.nil_append, List.cons.injEq,
      reduceCtorEq, false_and, TokenKind.term.injEq, TokenKind.wildcard.injEq,
      TokenKind.phrase.injEq, TokenKind.regex.injEq, TokenKind.openRange.injEq,
      TokenKind.closeRange.injEq, true_and] at h
  case term.term =>
    obtain ⟨rfl, h⟩ := h
    obtain ⟨rfl, rfl⟩ := optional_append_inj (fun _ _ => TokenKind.tilde.inj)
      (fun _ => rfl) hr hr' h
    exact ⟨rfl, rfl⟩
  case wildcard.wildcard =>
    obtain ⟨rfl, rfl⟩ := h
    exact ⟨rfl, rfl⟩
  case phrase.phrase =>
    obtain ⟨rfl, h⟩ := h
    obtain ⟨rfl, rfl⟩ := optional_append_inj (fun _ _ => TokenKind.tilde.inj)
      (fun _ => rfl) hr hr' h
    exact ⟨rfl, rfl⟩
  case regex.regex =>
    obtain ⟨rfl, rfl⟩ := h
    exact ⟨rfl, rfl⟩
  case range.range =>
    obtain ⟨rfl, hlower, hupper, rfl, rfl⟩ := h
    rw [Edge.kind_inj hlower, Edge.kind_inj hupper]
    exact ⟨rfl, rfl⟩

theorem boostKinds_append_inj {x y : Option Single} {r r' : List TokenKind}
    (hr : Before endsOperand r) (hr' : Before endsOperand r')
    (h : boostKinds x ++ r = boostKinds y ++ r') : x = y ∧ r = r' :=
  optional_append_inj (fun _ _ => TokenKind.boost.inj) (fun _ => rfl) hr hr' h

/-- A tilde stands in front of a boost. -/
theorem before_boostKinds (x : Option Single) {r : List TokenKind}
    (hr : Before endsOperand r) : Before endsLeaf (boostKinds x ++ r) := by
  cases x with
  | none => exact hr.leaf
  | some factor => exact before_cons.mpr rfl

/-! ## The induction -/

mutual

theorem Disjunct.kinds_append_inj : ∀ (d d' : Disjunct) {r r' : List TokenKind},
    Before endsDisjunct r → Before endsDisjunct r' →
    d.kinds ++ r = d'.kinds ++ r' → d = d' ∧ r = r'
  | .last c, .last c', r, r', hr, hr', h => by
      obtain ⟨rfl, rfl⟩ := c.kinds_append_inj c' hr.conjunct hr'.conjunct h
      exact ⟨rfl, rfl⟩
  | .last c, .or c' d', r, r', hr, hr', h => by
      rw [Disjunct.kinds, Disjunct.kinds, List.append_assoc] at h
      -- the same conjunct is read, and then only one reading goes on with `OR`
      obtain ⟨-, rfl⟩ :=
        c.kinds_append_inj c' hr.conjunct (before_cons.mpr rfl) h
      exact Bool.noConfusion (before_cons.mp hr)
  | .or c d, .last c', r, r', hr, hr', h => by
      rw [Disjunct.kinds, Disjunct.kinds, List.append_assoc] at h
      obtain ⟨-, rfl⟩ :=
        c.kinds_append_inj c' (before_cons.mpr rfl) hr'.conjunct h
      exact Bool.noConfusion (before_cons.mp hr')
  | .or c d, .or c' d', r, r', hr, hr', h => by
      rw [Disjunct.kinds, Disjunct.kinds, List.append_assoc,
        List.append_assoc] at h
      obtain ⟨rfl, ht⟩ := c.kinds_append_inj c' (before_cons.mpr rfl)
        (before_cons.mpr rfl) h
      obtain ⟨rfl, rfl⟩ := d.kinds_append_inj d' hr hr' (List.cons.inj ht).2
      exact ⟨rfl, rfl⟩

theorem Conjunct.kinds_append_inj : ∀ (c c' : Conjunct) {r r' : List TokenKind},
    Before endsConjunct r → Before endsConjunct r' →
    c.kinds ++ r = c'.kinds ++ r' → c = c' ∧ r = r'
  | .last o, .last o', r, r', hr, hr', h => by
      obtain ⟨rfl, rfl⟩ := o.kinds_append_inj o' hr.operand hr'.operand h
      exact ⟨rfl, rfl⟩
  | .last o, .and w' o' c', r, r', hr, hr', h => by
      rw [Conjunct.kinds, Conjunct.kinds, List.append_assoc,
        List.append_assoc] at h
      obtain ⟨-, h⟩ := o.kinds_append_inj o' hr.operand
        (List.append_assoc .. ▸ c'.before_tail w' r') h
      -- nothing that ends a conjunct begins another operand
      exact absurd (h.trans (List.append_assoc ..).symm) (Conjunct.tail_ne hr)
  | .and w o c, .last o', r, r', hr, hr', h => by
      rw [Conjunct.kinds, Conjunct.kinds, List.append_assoc,
        List.append_assoc] at h
      obtain ⟨-, h⟩ := o.kinds_append_inj o'
        (List.append_assoc .. ▸ c.before_tail w r) hr'.operand h
      exact absurd (h.symm.trans (List.append_assoc ..).symm)
        (Conjunct.tail_ne hr')
  | .and w o c, .and w' o' c', r, r', hr, hr', h => by
      rw [Conjunct.kinds, Conjunct.kinds, List.append_assoc, List.append_assoc,
        List.append_assoc, List.append_assoc] at h
      obtain ⟨rfl, ht⟩ := o.kinds_append_inj o'
        (List.append_assoc .. ▸ c.before_tail w r)
        (List.append_assoc .. ▸ c'.before_tail w' r') h
      obtain ⟨rfl, htc⟩ := Conjunct.andKinds_append_inj c c' ht
      obtain ⟨rfl, rfl⟩ := c.kinds_append_inj c' hr hr' htc
      exact ⟨rfl, rfl⟩

theorem Operand.kinds_append_inj : ∀ (o o' : Operand) {r r' : List TokenKind},
    Before endsOperand r → Before endsOperand r' →
    o.kinds ++ r = o'.kinds ++ r' → o = o' ∧ r = r'
  | .not o, .not o', r, r', hr, hr', h => by
      obtain ⟨rfl, rfl⟩ := o.kinds_append_inj o' hr hr' (List.cons.inj h).2
      exact ⟨rfl, rfl⟩
  | .field name b, .field name' b', r, r', hr, hr', h => by
      obtain ⟨hname, ht⟩ := List.cons.inj h
      obtain rfl := TokenKind.field.inj hname
      obtain ⟨rfl, rfl⟩ := b.kinds_append_inj b' hr hr' ht
      exact ⟨rfl, rfl⟩
  | .boosted b, .boosted b', r, r', hr, hr', h => by
      obtain ⟨rfl, rfl⟩ := b.kinds_append_inj b' hr hr' h
      exact ⟨rfl, rfl⟩
  | .not o, .field name' b', r, r', hr, hr', h => by
      exact TokenKind.noConfusion (List.cons.inj h).1
  | .field name b, .not o', r, r', hr, hr', h => by
      exact TokenKind.noConfusion (List.cons.inj h).1
  | .not o, .boosted b', r, r', hr, hr', h => by
      exact Bool.noConfusion (b'.startsWith.head_eq h)
  | .field name b, .boosted b', r, r', hr, hr', h => by
      exact Bool.noConfusion (b'.startsWith.head_eq h)
  | .boosted b, .not o', r, r', hr, hr', h => by
      exact Bool.noConfusion (b.startsWith.head_eq h.symm)
  | .boosted b, .field name' b', r, r', hr, hr', h => by
      exact Bool.noConfusion (b.startsWith.head_eq h.symm)

theorem Body.kinds_append_inj : ∀ (b b' : Body) {r r' : List TokenKind},
    Before endsOperand r → Before endsOperand r' →
    b.kinds ++ r = b'.kinds ++ r' → b = b' ∧ r = r'
  | .comparison c v, .comparison c' v', r, r', hr, hr', h => by
      obtain ⟨hc, h⟩ := List.cons.inj h
      obtain ⟨hv, rfl⟩ := List.cons.inj h
      rw [TokenKind.comparator.inj hc, Plain.kind_inj hv]
      exact ⟨rfl, rfl⟩
  | .boosted b, .boosted b', r, r', hr, hr', h => by
      obtain ⟨rfl, rfl⟩ := b.kinds_append_inj b' hr hr' h
      exact ⟨rfl, rfl⟩
  | .comparison c v, .boosted b', r, r', hr, hr', h => by
      exact Bool.noConfusion (b'.startsWith.head_eq h)
  | .boosted b, .comparison c' v', r, r', hr, hr', h => by
      exact Bool.noConfusion (b.startsWith.head_eq h.symm)

theorem Boosted.kinds_append_inj : ∀ (b b' : Boosted) {r r' : List TokenKind},
    Before endsOperand r → Before endsOperand r' →
    b.kinds ++ r = b'.kinds ++ r' → b = b' ∧ r = r'
  | .leaf l x, .leaf l' x', r, r', hr, hr', h => by
      rw [Boosted.kinds, Boosted.kinds, List.append_assoc,
        List.append_assoc] at h
      obtain ⟨rfl, ht⟩ := Leaf.kinds_append_inj (before_boostKinds x hr)
        (before_boostKinds x' hr') h
      obtain ⟨rfl, rfl⟩ := boostKinds_append_inj hr hr' ht
      exact ⟨rfl, rfl⟩
  | .group d x, .group d' x', r, r', hr, hr', h => by
      rw [Boosted.kinds, Boosted.kinds, List.append_assoc,
        List.append_assoc] at h
      obtain ⟨rfl, ht⟩ := d.kinds_append_inj d' (before_cons.mpr rfl)
        (before_cons.mpr rfl) (List.cons.inj h).2
      obtain ⟨rfl, rfl⟩ := boostKinds_append_inj hr hr' (List.cons.inj ht).2
      exact ⟨rfl, rfl⟩
  | .leaf l x, .group d' x', r, r', hr, hr', h => by
      rw [Boosted.kinds, List.append_assoc] at h
      cases l <;> exact TokenKind.noConfusion (List.cons.inj h).1
  | .group d x, .leaf l' x', r, r', hr, hr', h => by
      rw [Boosted.kinds, Boosted.kinds, List.append_assoc,
        List.append_assoc] at h
      cases l' <;> exact TokenKind.noConfusion (List.cons.inj h).1

end

/-- **One text, one derivation.** -/
theorem Disjunct.kinds_injective {d d' : Disjunct} (h : d.kinds = d'.kinds) :
    d = d' :=
  (d.kinds_append_inj d' (before_nil _) (before_nil _)
    (congrArg (· ++ []) h)).1

end Searchlight.Grammar
