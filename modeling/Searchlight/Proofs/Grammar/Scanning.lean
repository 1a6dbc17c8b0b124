import Searchlight.Proofs.Grammar.Basic
import Searchlight.Proofs.Token.Reading

/-!
# Scanning a derivation

The tokens of a derivation close every range bracket that they open, and what
they end with asks for no value. So the text of a query leaves a scan in the
state in which it began, and can be read inside another one.
-/

namespace Searchlight.Grammar

open Scan

/-- Tokens behind which a scan goes on as at the start of a query. -/
def Neutralizes (ks : List TokenKind) : Prop :=
  ∀ ctx : Context, ctx.inRange = false →
    (ks.foldl Context.next ctx).Neutral

variable {ks ks' : List TokenKind} {k : TokenKind}

theorem Neutralizes.append (h : Neutralizes ks) (h' : Neutralizes ks') :
    Neutralizes (ks ++ ks') := by
  intro ctx hctx
  rw [List.foldl_append]
  exact h' _ (h ctx hctx).inRange_eq

/-- Only a token that opens a range matters to the scan of what comes next. -/
theorem Neutralizes.cons (hk : ∀ inclusive, k ≠ .openRange inclusive)
    (h : Neutralizes ks) : Neutralizes (k :: ks) := by
  intro ctx hctx
  refine h _ ?_
  cases k <;> first | exact hctx | rfl | exact absurd rfl (hk _)

theorem neutralizes_single (hk : isNeutral k = true) : Neutralizes [k] :=
  fun _ hctx => Context.next_neutral hctx hk

theorem Plain.isNeutral_kind (v : Plain) : isNeutral v.kind = true := by
  cases v <;> rfl

/-- Suffixes that may be absent. -/
theorem neutralizes_optional {α : Type} {f : α → TokenKind}
    (hf : ∀ a, isNeutral (f a) = true) (h : Neutralizes ks) (x : Option α) :
    Neutralizes (ks ++ (x.map f).toList) := by
  cases x with
  | none => simpa using h
  | some a => exact h.append (neutralizes_single (hf a))

theorem Leaf.neutralizes (l : Leaf) : Neutralizes l.kinds := by
  cases l with
  | term text tilde =>
      exact neutralizes_optional (fun _ => rfl) (neutralizes_single rfl) tilde
  | wildcard pattern => exact neutralizes_single rfl
  | phrase content tilde =>
      exact neutralizes_optional (fun _ => rfl) (neutralizes_single rfl) tilde
  | regex pattern => exact neutralizes_single rfl
  | range opening lower upper closing => exact fun _ _ => ⟨rfl, rfl, rfl⟩

theorem Neutralizes.andKinds (h : Neutralizes ks) (written : Bool) :
    Neutralizes (ks ++ andKinds written) := by
  cases written with
  | true => exact h.append (neutralizes_single rfl)
  | false => exact (List.append_nil ks).symm ▸ h

mutual

theorem Disjunct.neutralizes : ∀ d : Disjunct, Neutralizes d.kinds
  | .last c => c.neutralizes
  | .or c d => c.neutralizes.append (d.neutralizes.cons (by simp))

theorem Conjunct.neutralizes : ∀ c : Conjunct, Neutralizes c.kinds
  | .last o => o.neutralizes
  | .and written o c => (o.neutralizes.andKinds written).append c.neutralizes

theorem Operand.neutralizes : ∀ o : Operand, Neutralizes o.kinds
  | .not o => o.neutralizes.cons (by simp)
  | .field _ b => b.neutralizes.cons (by simp)
  | .boosted b => b.neutralizes

theorem Body.neutralizes : ∀ b : Body, Neutralizes b.kinds
  | .comparison _ v =>
      (neutralizes_single v.isNeutral_kind).cons (by simp)
  | .boosted b => b.neutralizes

theorem Boosted.neutralizes : ∀ b : Boosted, Neutralizes b.kinds
  | .leaf l factor => neutralizes_optional (fun _ => rfl) l.neutralizes factor
  | .group d factor => by
      have hclose : Neutralizes (.closeGroup :: boostKinds factor) :=
        neutralizes_optional (fun _ => rfl) (neutralizes_single rfl) factor
      exact (d.neutralizes.cons (by simp)).append hclose

end

/-- The text of a derivation is read alone. -/
theorem Disjunct.reads {d : Disjunct} {cs : List Char}
    (h : Lexes {} cs d.kinds) : Reads {} cs d.kinds :=
  h.reads (d.neutralizes {} rfl)

end Searchlight.Grammar
