import Searchlight.Proofs.Token.Escape

/-!
# Texts that are read alone

`Reads` says that a text is read as the same tokens whatever follows it behind
a boundary, and that what follows is read as if it stood alone. Such texts can
be put one behind the other and into parentheses.
-/

namespace Searchlight.Scan

open Text Canonical

variable {ctx : Context} {c : Char} {cs cs' s : List Char} {k : TokenKind}
  {ks ks' : List TokenKind}

theorem Boundary.append (hcs : Boundary cs) (hs : Boundary s) :
    Boundary (cs ++ s) := by
  cases cs with
  | nil => exact hs
  | cons c cs => exact hcs

/-- Tokens behind which the next one is read as if it were the first. -/
def isNeutral : TokenKind → Bool
  | .openRange _ | .field _ | .comparator _ => false
  | _ => true

theorem Context.next_neutral (hctx : ctx.inRange = false)
    (hk : isNeutral k = true) : (ctx.next k).Neutral := by
  cases k <;> first | exact ⟨hctx, rfl, rfl⟩ | exact ⟨rfl, rfl, rfl⟩ | cases hk

theorem Context.Neutral.inRange_eq (h : ctx.Neutral) : ctx.inRange = false :=
  h.inRange

namespace Lexes

/-- Reads the first token of a text that does not start with white space. -/
theorem step {rest : List Char} (hblank : isBlank c = false)
    (htoken : token ctx (c :: cs) = .ok (k, rest))
    (hrest : Lexes (ctx.next k) rest ks) : Lexes ctx (c :: cs) (k :: ks) :=
  .cons (by simp [hblank]) htoken hrest

theorem blank (hblank : isBlank c = true) (h : Lexes ctx cs ks) :
    Lexes ctx (c :: cs) ks :=
  have hdrop : [c].dropWhile isBlank = [] := by simp [hblank]
  skip_blanks hdrop h

end Lexes

/-- The tokens of a text, whatever stands behind it. -/
def Reads (ctx : Context) (cs : List Char) (ks : List TokenKind) : Prop :=
  ∀ s ks', Boundary s → Lexes {} s ks' → Lexes ctx (cs ++ s) (ks ++ ks')

theorem Lexes.reads (h : Lexes ctx cs ks)
    (hneutral : (ks.foldl Context.next ctx).Neutral) : Reads ctx cs ks :=
  fun _ _ hs h' => h.append hs (h'.alike hneutral.symm)

namespace Reads

theorem lexes (h : Reads ctx cs ks) : Lexes ctx cs ks := by
  have hnil : Lexes {} [] [] := .nil rfl
  simpa using h [] [] boundary_nil hnil

/-- One token that ends where a boundary follows. -/
theorem single (hblank : isBlank c = false) (hctx : ctx.inRange = false)
    (hk : isNeutral k = true)
    (htoken : ∀ {s}, Boundary s → token ctx (c :: cs ++ s) = .ok (k, s)) :
    Reads ctx (c :: cs) [k] :=
  fun _ _ hs h' => .step hblank (htoken hs)
    (h'.alike (Context.next_neutral hctx hk).symm)

theorem append (h : Reads ctx cs ks) (h' : Reads {} cs' ks')
    (hb : Boundary cs') : Reads ctx (cs ++ cs') (ks ++ ks') := by
  intro s ks'' hs hlexes
  rw [List.append_assoc, List.append_assoc]
  exact h _ _ (hb.append hs) (h' _ _ hs hlexes)

theorem blank (hblank : isBlank c = true) (h : Reads ctx cs ks) :
    Reads ctx (c :: cs) ks :=
  fun _ _ hs h' => .blank hblank (h _ _ hs h')

/-- A text in parentheses. -/
theorem group (h : Reads {} cs ks) (hctx : ctx.inRange = false) :
    Reads ctx (parenthesize cs) (.openGroup :: ks ++ [.closeGroup]) := by
  intro s ks' hs h'
  have hclose : Lexes {} (')' :: s) (.closeGroup :: ks') :=
    .step (by decide) rfl (h'.alike ⟨rfl, rfl, rfl⟩)
  have hinner := h _ _ (boundary_cons.mpr (.inr (by decide))) hclose
  simp only [parenthesize, List.cons_append, List.append_assoc,
    List.nil_append]
  exact .step (by decide) rfl
    (hinner.alike (Context.next_neutral hctx rfl).symm)

/-- The sign of a negation. -/
theorem negated (h : Reads {} cs ks) : Reads {} ('-' :: cs) (.not :: ks) :=
  fun _ _ hs h' => .step (by decide) rfl ((h _ _ hs h').alike ⟨rfl, rfl, rfl⟩)

/-- A field name in front of what is read behind one. -/
theorem inField {name : String} (hname : name ≠ "")
    (h : Reads (Context.next {} (.field name)) cs ks) :
    Reads {} (fieldName name ++ cs) (.field name :: ks) := by
  intro s ks' hs h'
  have hne : name.toList ≠ [] := by simpa using hname
  have hfield : token {} (escapeWord name.toList ++ ':' :: (cs ++ s)) =
      .ok (.field name, cs ++ s) := by
    rw [token_field rfl hne, String.ofList_toList]
  obtain ⟨c, written, hw, -, hblank⟩ := escapeWord_start hne
  rw [fieldName, List.append_assoc, List.append_assoc, List.singleton_append]
  rw [hw] at hfield ⊢
  exact .step hblank hfield (h _ _ hs h')

end Reads

/-! ## Operators -/

/-- Characters that are written as they are behind the start of a word. -/
def isPlain (c : Char) : Bool := !isSpecial c && !isBlank c

/-- A word of plain characters is those characters. -/
theorem word_plains {inRange : Bool} (hs : Boundary s) :
    ∀ {started : Bool} {cs : List Char},
      cs.all isPlain = true →
        word inRange started (cs ++ s) = .ok ({ text := cs, pattern := cs }, s)
  | started, [], _ => word_boundary inRange started hs
  | started, c :: cs, h => by
      obtain ⟨⟨hspecial, hblank⟩, hrest⟩ :
          (isSpecial c = false ∧ isBlank c = false) ∧ cs.all isPlain = true := by
        simpa [isPlain] using h
      have hne := fun d => ne_of_not_special (d := d) hspecial
      rw [List.cons_append, word_plain hspecial hblank,
        word_plains hs hrest]
      simp [Except.map, Word.addChar, hne '*' (by decide), hne '?' (by decide)]

theorem token_plain {inRange : Bool} (hctx : ctx.inRange = inRange)
    (hs : Boundary s) (hmark : c ∉ marks)
    (hplain : (c :: cs).all isPlain = true) :
    token ctx (c :: cs ++ s) =
      .ok (Word.kind inRange { text := c :: cs, pattern := c :: cs }, s) := by
  rw [List.cons_append, token_of_not_mark _ hmark, ← List.cons_append,
    wordToken, word_plains hs hplain, hctx]
  rfl

theorem reads_plain {k : TokenKind} (hmark : c ∉ marks)
    (hplain : (c :: cs).all isPlain = true)
    (hk : Word.kind false { text := c :: cs, pattern := c :: cs } = k)
    (hneutral : isNeutral k = true) : Reads {} (c :: cs) [k] := by
  have hc : isPlain c = true := List.all_eq_true.mp hplain c (by simp)
  have hblank : isBlank c = false := by
    simp [isPlain] at hc
    exact hc.2
  exact Reads.single hblank rfl hneutral fun hs =>
    hk ▸ token_plain rfl hs hmark hplain

theorem reads_or : Reads {} "OR".toList [.or] :=
  reads_plain (by decide) (by decide) rfl rfl

theorem reads_and : Reads {} "AND".toList [.and] :=
  reads_plain (by decide) (by decide) rfl rfl

theorem reads_not : Reads {} "NOT".toList [.not] :=
  reads_plain (by decide) (by decide) rfl rfl

theorem boundary_space (cs : List Char) : Boundary (' ' :: cs) :=
  boundary_cons.mpr (.inl (by decide))

/-- An operator between spaces. -/
theorem reads_operator {operator cs : List Char} {k : TokenKind}
    {ks : List TokenKind} (hop : Reads {} operator [k]) (h : Reads {} cs ks) :
    Reads {} (' ' :: operator ++ ' ' :: cs) (k :: ks) :=
  (hop.append (h.blank (c := ' ') (by decide)) (boundary_space cs)).blank
    (by decide)

end Searchlight.Scan
