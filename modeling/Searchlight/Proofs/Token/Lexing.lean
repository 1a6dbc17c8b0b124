import Searchlight.Proofs.Token.Scan

/-!
# Texts and their tokens

`Lexes` relates a text to the tokens that a scan reads from it, without their
places. A scan of a text that goes on after a boundary reads the tokens of the
first part and goes on in the context that they leave.
-/

namespace Searchlight.Scan

open Text

variable {a b ctx : Context} {cs s : List Char} {k : TokenKind}
  {ks ks' : List TokenKind}

/-! ## Contexts -/

/-- Contexts in which the same characters are the same token. -/
structure Context.Alike (a b : Context) : Prop where
  inRange : a.inRange = b.inRange
  afterField : a.afterField = b.afterField
  afterComparator : a.afterComparator = b.afterComparator

theorem Context.Alike.refl (a : Context) : a.Alike a := ⟨rfl, rfl, rfl⟩

theorem Context.Alike.symm (h : a.Alike b) : b.Alike a :=
  ⟨h.inRange.symm, h.afterField.symm, h.afterComparator.symm⟩

theorem Context.Alike.next (h : a.Alike b) (k : TokenKind) :
    (a.next k).Alike (b.next k) := by
  refine ⟨?_, rfl, rfl⟩
  cases k <;> first | rfl | exact h.inRange

theorem token_alike (h : a.Alike b) (cs : List Char) :
    token a cs = token b cs := by
  have hword : ∀ ds, wordToken a ds = wordToken b ds := by
    intro ds
    rw [wordToken, wordToken, h.inRange]
  rw [token.eq_def, token.eq_def, h.inRange, h.afterField, h.afterComparator]
  simp only [hword]

/-- Outside range brackets and behind nothing that asks for a value. -/
def Context.Neutral (ctx : Context) : Prop := ctx.Alike {}

/-! ## Tokens of a text -/

/-- The tokens of a text that is read in a context. -/
inductive Lexes : Context → List Char → List TokenKind → Prop
  | nil {ctx : Context} {cs : List Char} (hblank : cs.dropWhile isBlank = []) :
      Lexes ctx cs []
  | cons {ctx : Context} {cs start rest : List Char} {c : Char}
      {k : TokenKind} {ks : List TokenKind}
      (hstart : cs.dropWhile isBlank = c :: start)
      (htoken : token ctx (c :: start) = .ok (k, rest))
      (hrest : Lexes (ctx.next k) rest ks) : Lexes ctx cs (k :: ks)

namespace Lexes

theorem alike (h : Lexes a cs ks) (hab : a.Alike b) : Lexes b cs ks := by
  induction h generalizing b with
  | nil hblank => exact .nil hblank
  | cons hstart htoken _ ih =>
      exact .cons hstart (token_alike hab _ ▸ htoken) (ih (hab.next _))

theorem skip_blanks (hcs : cs.dropWhile isBlank = []) (h : Lexes ctx s ks) :
    Lexes ctx (cs ++ s) ks := by
  have hdrop : (cs ++ s).dropWhile isBlank = s.dropWhile isBlank := by
    rw [List.dropWhile_append, hcs]
    rfl
  cases h with
  | nil hblank => exact .nil (hdrop.trans hblank)
  | cons hstart htoken hrest => exact .cons (hdrop.trans hstart) htoken hrest

theorem head_not_blank {c : Char} {start : List Char}
    (h : cs.dropWhile isBlank = c :: start) : isBlank c = false := by
  have hhead := List.head?_dropWhile_not isBlank cs
  rw [h] at hhead
  exact hhead

/-- **A text that goes on behind a boundary.** Its tokens are those of its two
parts, the second one read in the context that the first one leaves. -/
theorem append (h : Lexes ctx cs ks) (hs : Boundary s)
    (h' : Lexes (ks.foldl Context.next ctx) s ks') :
    Lexes ctx (cs ++ s) (ks ++ ks') := by
  induction h with
  | nil hblank => exact skip_blanks hblank h'
  | cons hstart htoken _ ih =>
      refine .cons ?_ (token_append hs (head_not_blank hstart) htoken).1 (ih h')
      rw [List.dropWhile_append, hstart]
      rfl

end Lexes

/-! ## Scans -/

theorem length_start_le {c : Char} {start : List Char}
    (h : cs.dropWhile isBlank = c :: start) :
    (c :: start).length ≤ cs.length :=
  h ▸ (List.dropWhile_sublist isBlank).length_le

theorem lexes_of_tokens {fuel offset : Nat} {ts : List Token}
    (hfuel : cs.length < fuel) (h : tokens fuel ctx offset cs = .ok ts) :
    Lexes ctx cs (ts.map Token.kind) := by
  induction fuel generalizing ctx offset cs ts with
  | zero => omega
  | succ fuel ih =>
      simp only [tokens] at h
      split at h
      · rename_i hblank
        obtain rfl := Except.ok.inj h
        exact .nil hblank
      · rename_i c start hstart
        rw [hstart] at h
        obtain ⟨⟨k, rest⟩, htoken, h⟩ := bind_eq_ok.mp h
        obtain ⟨later, hlater, h⟩ := bind_eq_ok.mp h
        obtain rfl := Except.ok.inj h
        have hlt := (token_append boundary_nil (Lexes.head_not_blank hstart)
          htoken).2
        have hle := length_start_le hstart
        exact .cons hstart htoken (ih (by omega) hlater)

theorem tokens_of_lexes (h : Lexes ctx cs ks) {fuel : Nat}
    (hfuel : cs.length < fuel) (offset : Nat) :
    ∃ ts, tokens fuel ctx offset cs = .ok ts ∧ ts.map Token.kind = ks := by
  induction h generalizing fuel offset with
  | nil hblank =>
      obtain ⟨fuel, rfl⟩ := Nat.exists_eq_succ_of_ne_zero (by omega : fuel ≠ 0)
      exact ⟨[], by simp [tokens, hblank], rfl⟩
  | @cons ctx cs start rest c k ks hstart htoken _ ih =>
      obtain ⟨fuel, rfl⟩ := Nat.exists_eq_succ_of_ne_zero (by omega : fuel ≠ 0)
      have hlt := (token_append boundary_nil (Lexes.head_not_blank hstart)
        htoken).2
      have hle := length_start_le hstart
      let text := (c :: start).take ((c :: start).length - rest.length)
      let place := offset + byteLength (cs.takeWhile isBlank)
      have hshort : rest.length < fuel := by omega
      obtain ⟨later, hlater, hks⟩ := ih hshort (place + byteLength text)
      refine ⟨⟨k, String.ofList text, place⟩ :: later, ?_,
        congrArg (k :: ·) hks⟩
      simp only [tokens, hstart, htoken, bind, Except.bind]
      rw [hlater]

end Scan

/-- The tokens of a query string, as far as parsing goes by them. -/
theorem tokenize_eq_ok_iff {query : String} {ks : List TokenKind} :
    (∃ ts, tokenize query = .ok ts ∧ ts.map Token.kind = ks) ↔
      Scan.Lexes {} query.toList ks := by
  constructor
  · rintro ⟨ts, htokens, rfl⟩
    rw [tokenize] at htokens
    split at htokens
    · rename_i ts' hscan
      obtain rfl := Except.ok.inj htokens
      exact Scan.lexes_of_tokens (Nat.lt_succ_self _) hscan
    · cases htokens
  · intro h
    obtain ⟨ts, hscan, hks⟩ :=
      Scan.tokens_of_lexes h (Nat.lt_succ_self _) 0
    exact ⟨ts, by rw [tokenize, hscan], hks⟩

end Searchlight
