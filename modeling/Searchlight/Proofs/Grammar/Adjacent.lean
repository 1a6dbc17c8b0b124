import Mathlib.Data.List.Chain
import Searchlight.Proofs.Grammar.Unambiguous

/-!
# Tokens side by side

Some tokens never stand side by side in a derivation: two factors, and the
separator of a range next to one of its brackets. This is enough to see that
certain texts are no queries, without reading them.
-/

namespace Searchlight.Grammar

/-- Whether a token may have the other one behind it. -/
def follows : TokenKind → TokenKind → Bool
  | .boost _, .boost _ => false
  | .openRange _, .term text => text ≠ "TO"
  | .term text, .closeRange _ => text ≠ "TO"
  | _, _ => true

/-- Every token may have the next one behind it. -/
def Chained (ks : List TokenKind) : Prop :=
  List.IsChain (fun a b => follows a b = true) ks

/-- Tokens that may stand behind an operand. -/
def resumes : TokenKind → Bool
  | .boost _ | .closeRange _ => false
  | _ => true

/-- Tokens that may stand behind a literal. -/
def resumesLeaf : TokenKind → Bool
  | .closeRange _ => false
  | _ => true

variable {k : TokenKind} {r : List TokenKind}

theorem Before.resumesLeaf (h : Before resumes r) :
    Before Grammar.resumesLeaf r :=
  h.mono fun k hk => by cases k <;> simp_all [resumes, Grammar.resumesLeaf]

theorem chained_cons (hk : ∀ k' ∈ r.head?, follows k k' = true)
    (h : Chained r) : Chained (k :: r) :=
  List.isChain_cons.mpr ⟨hk, h⟩

theorem Chained.within {ks : List TokenKind} (h : Chained r)
    (hks : ks <:+: r) : Chained ks :=
  List.IsChain.infix h hks

/-- Most tokens may have anything behind them. -/
theorem Chained.cons (hk : ∀ k', follows k k' = true) (h : Chained r) :
    Chained (k :: r) :=
  chained_cons (fun k' _ => hk k') h

theorem chained_boostKinds (factor : Option Single) (h : Chained r)
    (hr : Before resumes r) :
    Chained (boostKinds factor ++ r) ∧
      Before resumesLeaf (boostKinds factor ++ r) := by
  cases factor with
  | none => exact ⟨h, hr.resumesLeaf⟩
  | some x =>
      refine ⟨chained_cons (fun k hk => ?_) h, before_cons.mpr rfl⟩
      have hresumes := hr k hk
      cases k <;> simp_all [resumes, follows]

theorem Plain.chained (v : Plain) (h : Chained r) (hr : Before resumesLeaf r) :
    Chained (v.kind :: r) := by
  refine chained_cons (fun k hk => ?_) h
  have hresumes := hr k hk
  cases v <;> cases k <;> simp_all [Plain.kind, resumesLeaf, follows]

/-- A bound fits between its bracket and the separator. -/
theorem Edge.fits (x : Edge) (ha : x.Admissible) :
    (∀ opening, follows (.openRange opening) x.kind = true) ∧
      (∀ closing, follows x.kind (.closeRange closing) = true) ∧
      follows x.kind (.term "TO") = true ∧
      follows (.term "TO") x.kind = true := by
  match x, ha with
  | .value (.term _), ha =>
      exact ⟨fun _ => decide_eq_true ha, fun _ => decide_eq_true ha, rfl, rfl⟩
  | .value (.phrase _), _ => exact ⟨fun _ => rfl, fun _ => rfl, rfl, rfl⟩
  | .star, _ => exact ⟨fun _ => rfl, fun _ => rfl, rfl, rfl⟩

theorem Leaf.chained {l : Leaf} (ha : l.Admissible) (h : Chained r)
    (hr : Before resumesLeaf r) : Chained (l.kinds ++ r) := by
  cases l with
  | term text tilde =>
      cases tilde with
      | none => exact (Plain.term text).chained h hr
      | some distance =>
          exact (Plain.term text).chained (h.cons fun _ => rfl)
            (before_cons.mpr rfl)
  | wildcard pattern => exact h.cons fun _ => rfl
  | phrase content tilde =>
      cases tilde with
      | none => exact h.cons fun _ => rfl
      | some distance => exact (h.cons fun _ => rfl).cons fun _ => rfl
  | regex pattern => exact h.cons fun _ => rfl
  | range opening lower upper closing =>
      have hclose : Chained (.closeRange closing :: r) := h.cons fun _ => rfl
      have hopen := (lower.fits ha.1).1 opening
      have hlower := (lower.fits ha.1).2.2.1
      have hseparator := (upper.fits ha.2).2.2.2
      have hupper := (upper.fits ha.2).2.1 closing
      exact chained_cons (by simpa using hopen) (chained_cons
        (by simpa using hlower) (chained_cons (by simpa using hseparator)
          (chained_cons (by simpa using hupper) hclose)))

/-- Behind an operand of a conjunct stands another one or its `AND`. -/
theorem Conjunct.chained_tail (written : Bool) (c : Conjunct)
    (h : Chained (c.kinds ++ r)) :
    Chained (andKinds written ++ (c.kinds ++ r)) ∧
      Before resumes (andKinds written ++ (c.kinds ++ r)) := by
  cases written with
  | true => exact ⟨h.cons fun _ => rfl, before_cons.mpr rfl⟩
  | false =>
      refine ⟨h, (c.startsWith.append r).before fun k hk => ?_⟩
      cases k <;> simp_all [opensOperand, resumes]

mutual

theorem Disjunct.chained : ∀ {d : Disjunct} {r : List TokenKind},
    d.Admissible → Chained r → Before resumes r → Chained (d.kinds ++ r)
  | .last _, _, ha, h, hr => Conjunct.chained ha h hr
  | .or c d, r, ha, h, hr => by
      have hd := (Disjunct.chained ha.2 h hr).cons (k := .or) fun _ => rfl
      have hc := Conjunct.chained ha.1 hd (before_cons.mpr rfl)
      simpa [Disjunct.kinds] using hc

theorem Conjunct.chained : ∀ {c : Conjunct} {r : List TokenKind},
    c.Admissible → Chained r → Before resumes r → Chained (c.kinds ++ r)
  | .last _, _, ha, h, hr => Operand.chained ha h hr
  | .and written o c, r, ha, h, hr => by
      obtain ⟨htail, hbefore⟩ :=
        c.chained_tail written (Conjunct.chained ha.2 h hr)
      have ho := Operand.chained ha.1 htail hbefore
      simpa [Conjunct.kinds] using ho

theorem Operand.chained : ∀ {o : Operand} {r : List TokenKind},
    o.Admissible → Chained r → Before resumes r → Chained (o.kinds ++ r)
  | .not o, _, ha, h, hr =>
      (Operand.chained (o := o) ha h hr).cons fun _ => rfl
  | .field _ b, _, ha, h, hr => (Body.chained (b := b) ha h hr).cons fun _ => rfl
  | .boosted b, _, ha, h, hr => Boosted.chained (b := b) ha h hr

theorem Body.chained : ∀ {b : Body} {name : String} {r : List TokenKind},
    b.Admissible name → Chained r → Before resumes r → Chained (b.kinds ++ r)
  | .comparison _ v, _, _, _, h, hr =>
      (v.chained h hr.resumesLeaf).cons fun _ => rfl
  | .boosted b, _, _, ha, h, hr => Boosted.chained (b := b) ha h hr

theorem Boosted.chained : ∀ {b : Boosted} {field : Option String}
    {r : List TokenKind}, b.Admissible field → Chained r → Before resumes r →
    Chained (b.kinds ++ r)
  | .leaf l factor, _, r, ha, h, hr => by
      obtain ⟨hboost, hbefore⟩ := chained_boostKinds factor h hr
      rw [Boosted.kinds, List.append_assoc]
      exact Leaf.chained ha.1 hboost hbefore
  | .group d factor, _, r, ha, h, hr => by
      have hclose := (chained_boostKinds factor h hr).1.cons (k := .closeGroup)
        fun _ => rfl
      have hd := Disjunct.chained ha.1 hclose (before_cons.mpr rfl)
      have hopen := hd.cons (k := .openGroup) fun _ => rfl
      simpa [Boosted.kinds] using hopen

end

/-- **The tokens of a derivation fit together.** -/
theorem Disjunct.chained_kinds {d : Disjunct} (ha : d.Admissible) :
    Chained d.kinds := by
  have h := Disjunct.chained ha .nil (before_nil resumes)
  rwa [List.append_nil] at h

end Searchlight.Grammar
