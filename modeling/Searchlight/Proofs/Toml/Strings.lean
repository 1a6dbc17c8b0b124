import Mathlib.Data.List.TakeDrop
import Mathlib.Data.List.TakeWhile
import Searchlight.Proofs.Text.Words
import Searchlight.Toml.Write

/-!
# Strings are read back

A string is written in the first form that can hold it, and read back from any of them, whatever
follows that does not go on with quotes. In triple quotes a run of three would end the string, so
the third of them is escaped; up to two may stand directly before the end.
-/

namespace Searchlight.Toml

variable {c d e quote : Char} {cs rest text : List Char} {fuel quotes n : ℕ}

/-! ## Single characters -/

/-- How a character of a basic string may be written: behind a backslash that no line end follows,
or as itself. -/
inductive Spelt : List Char → Char → Prop
  | escaped {e : Char} {body : List Char} {c : Char} (hcontinued : ¬isSpace e ∧ e ≠ '\n' ∧ e ≠ '\r')
      (hread : ∀ rest, escape (e :: (body ++ rest)) = some (c, rest)) : Spelt ('\\' :: e :: body) c
  | plain {c : Char} (hquote : c ≠ '"') (hslash : c ≠ '\\') (hallowed : isForbidden c = false) :
      Spelt [c] c

theorem hexDigits_append {value v : ℕ} {left : List Char}
    (h : hexDigits n value cs = some (v, left)) (rest : List Char) :
    hexDigits n value (cs ++ rest) = some (v, left ++ rest) := by
  induction n generalizing value cs with
  | zero =>
      obtain ⟨rfl, rfl⟩ := Prod.mk.inj (Option.some.inj h)
      rfl
  | succ n ih =>
      cases cs with
      | nil => cases h
      | cons c cs =>
          rw [hexDigits] at h
          obtain ⟨digit, hdigit, h⟩ := Option.bind_eq_some_iff.mp h
          rw [List.cons_append, hexDigits, hdigit]
          exact ih h

theorem scalar?_toNat (c : Char) : scalar? c.toNat = some c := by
  have hvalid : c.toNat.isValidChar := c.valid
  rw [scalar?, dif_pos hvalid]
  rfl

/-- The code point of a control character, in four digits. -/
theorem hexDigits_codeEscape : ∀ n < 0x80,
    needsCode (Char.ofNat n) = true →
      codeEscape (Char.ofNat n) = '\\' :: 'u' :: (codeEscape (Char.ofNat n)).drop 2 ∧
        hexDigits 4 0 ((codeEscape (Char.ofNat n)).drop 2) = some (n, []) := by
  decide

theorem spelt_codeEscape (h : needsCode c = true) : Spelt (codeEscape c) c := by
  have hsmall : c.toNat < 0x80 := by
    simp only [needsCode, isForbidden, Bool.and_eq_true, Bool.or_eq_true, decide_eq_true_eq] at h
    omega
  obtain ⟨hshape, hdigits⟩ := hexDigits_codeEscape c.toNat hsmall (by rwa [Char.ofNat_toNat])
  rw [Char.ofNat_toNat] at hshape hdigits
  rw [hshape]
  refine .escaped (by decide) fun rest => ?_
  show (hexDigits 4 0 ((codeEscape c).drop 2 ++ rest)).bind _ = _
  rw [hexDigits_append hdigits]
  show (scalar? c.toNat).map (·, rest) = _
  rw [scalar?_toNat]
  rfl

theorem spelt_escapeChar (c : Char) : Spelt (escapeChar c) c := by
  rw [escapeChar.eq_def]
  split
  case h_8 hquote hslash _ _ hnewline _ _ =>
    split
    · rename_i hcode
      exact spelt_codeEscape hcode
    · rename_i hcode
      have hallowed : isForbidden c = true → c = '\n' := by simpa [needsCode] using hcode
      exact .plain hquote hslash (Bool.eq_false_iff.mpr fun h => hnewline (hallowed h))
  all_goals exact @Spelt.escaped _ [] _ (by decide) fun rest => rfl

theorem Spelt.ne_nil (h : Spelt text c) : text ≠ [] := by
  cases h <;> simp

/-- A spelling never starts with a quote or a line end. -/
theorem Spelt.head_ne (h : Spelt text c) (rest : List Char) :
    (text ++ rest).head? ≠ some '"' ∧ newline? (text ++ rest) = none := by
  cases h with
  | escaped => exact ⟨by simp, rfl⟩
  | plain hquote hslash hallowed =>
      refine ⟨by simpa using hquote, ?_⟩
      rw [List.singleton_append, newline?.eq_def]
      split
      · rename_i heq
        cases heq
        cases hallowed
      · rename_i heq
        cases heq
        cases hallowed
      · rfl

theorem basicBody_spelt (h : Spelt text c) (fuel : ℕ) (rest : List Char) :
    basicBody (fuel + 1) (text ++ rest) =
      (basicBody fuel rest).map fun (body, rest) => (c :: body, rest) := by
  cases h with
  | escaped hcontinued hread =>
      rw [List.cons_append, List.cons_append, basicBody, hread]
      simp only [Option.bind_eq_bind, Option.bind_some]
      cases basicBody fuel rest <;> rfl
  | plain hquote hslash hallowed =>
      rw [List.singleton_append, basicBody, if_neg (by simp [hallowed])]
      · cases basicBody fuel rest <;> rfl
      · exact hquote
      · exact hslash

theorem basicBody_escaped (hfuel : cs.length < fuel) (rest : List Char) :
    basicBody fuel (cs.flatMap escapeChar ++ '"' :: rest) = some (cs, rest) := by
  induction cs generalizing fuel with
  | nil =>
      obtain ⟨fuel, rfl⟩ := Nat.exists_eq_add_of_lt hfuel
      rfl
  | cons c cs ih =>
      obtain ⟨fuel, rfl⟩ := Nat.exists_eq_add_of_lt hfuel
      rw [List.flatMap_cons, List.append_assoc, basicBody_spelt (spelt_escapeChar c),
        ih (by rw [List.length_cons]; omega)]
      rfl

theorem literalBody_plain (hallowed : cs.any isForbidden = false) (hquote : '\'' ∉ cs)
    (rest : List Char) : literalBody (cs ++ '\'' :: rest) = some (cs, rest) := by
  induction cs with
  | nil => rfl
  | cons c cs ih =>
      rw [List.any_cons, Bool.or_eq_false_iff] at hallowed
      rw [List.mem_cons, not_or] at hquote
      rw [List.cons_append, literalBody, if_neg (by simp [hallowed.1]), ih hallowed.2 hquote.2]
      · rfl
      · exact Ne.symm hquote.1

/-! ## Runs of quotes -/

/-- Length of the run of a character at the front of a text. -/
def frontRun (c : Char) (cs : List Char) : ℕ := (cs.takeWhile (· = c)).length

theorem frontRun_self (c : Char) (cs : List Char) : frontRun c (c :: cs) = frontRun c cs + 1 := by
  simp [frontRun]

theorem frontRun_of_head (h : cs.head? ≠ some c) : frontRun c cs = 0 := by
  cases cs with
  | nil => rfl
  | cons d cs =>
      have hd : d ≠ c := by simpa using h
      simp [frontRun, hd]

theorem frontRun_replicate (h : rest.head? ≠ some c) (n : ℕ) :
    frontRun c (List.replicate n c ++ rest) = n := by
  induction n with
  | zero => exact frontRun_of_head h
  | succ n ih => rw [List.replicate_succ, List.cons_append, frontRun_self, ih]

theorem frontCount_eq (c : Char) (cs : List Char) : frontCount c cs = min 5 (frontRun c cs) := by
  rw [frontCount, frontRun, ← List.take_takeWhile, List.length_take]

theorem tripleEnd_of_frontRun (h : frontRun quote cs ≤ 2) : tripleEnd quote cs = none := by
  have hcount : ¬3 ≤ frontCount quote cs := by
    rw [frontCount_eq]
    omega
  exact if_neg hcount

/-- Up to two quotes directly before the closing ones belong to the string. -/
theorem tripleEnd_replicate (hn : n ≤ 2) (hrest : rest.head? ≠ some quote) :
    tripleEnd quote (List.replicate n quote ++ quote :: quote :: quote :: rest) =
      some (List.replicate n quote, rest) := by
  have htext : List.replicate n quote ++ quote :: quote :: quote :: rest =
      List.replicate (n + 3) quote ++ rest := by
    rw [← List.replicate_append_replicate, List.append_assoc]
    rfl
  have hcount : frontCount quote (List.replicate (n + 3) quote ++ rest) = n + 3 := by
    rw [frontCount_eq, frontRun_replicate hrest]
    omega
  have hdrop : (List.replicate (n + 3) quote ++ rest).drop (n + 3) = rest := by
    rw [List.drop_left' (List.length_replicate ..)]
  rw [htext, tripleEnd, hcount, hdrop]
  simp

/-! ## Basic strings in triple quotes -/

/-- The text of a string either goes right into the closing quotes, or a run of at most two quotes,
those before it counted, stands in front of something else. -/
theorem frontRun_escapeTriple (hquotes : quotes ≤ 2) (cs rest : List Char) :
    (cs = List.replicate cs.length '"' ∧ cs.length + quotes ≤ 2 ∧ escapeTriple quotes cs = cs) ∨
      frontRun '"' (escapeTriple quotes cs ++ '"' :: '"' :: '"' :: rest) + quotes ≤ 2 := by
  induction cs generalizing quotes with
  | nil => exact .inl ⟨rfl, by simpa using hquotes, rfl⟩
  | cons c cs ih =>
      by_cases hquote : c = '"'
      · subst hquote
        rw [escapeTriple]
        by_cases htwo : quotes = 2
        · rw [if_pos htwo]
          exact .inr (by rw [frontRun_of_head (by simp)]; omega)
        · rw [if_neg htwo]
          have hnext : quotes + 1 ≤ 2 := by omega
          rcases ih hnext with ⟨hall, hlength, hsame⟩ | hrun
          · refine .inl ⟨?_, by rw [List.length_cons]; omega, by rw [hsame]⟩
            rw [List.length_cons, List.replicate_succ, ← hall]
          · refine .inr ?_
            rw [List.cons_append, frontRun_self]
            omega
      · have hhead : (escapeTriple quotes (c :: cs) ++ '"' :: '"' :: '"' :: rest).head? ≠
            some '"' := by
          by_cases hline : c = '\n'
          · subst hline
            rw [escapeTriple]
            simp
          · rw [escapeTriple, List.append_assoc]
            · exact ((spelt_escapeChar c).head_ne _).1
            · exact hquote
            · exact hline
        exact .inr (by rw [frontRun_of_head hhead]; omega)

theorem lineContinuation_eq_none (h : ¬isSpace c ∧ c ≠ '\n' ∧ c ≠ '\r') (rest : List Char) :
    lineContinuation (c :: rest) = none := by
  obtain ⟨hspace, hfeed, hreturn⟩ := h
  have hskip : skipSpace (c :: rest) = c :: rest := by simp [skipSpace, hspace]
  have hnone : newline? (c :: rest) = none := by
    rw [newline?]
    · exact fun _ h => hfeed (List.cons.inj h).1
    · exact fun _ h => hreturn (List.cons.inj h).1
  rw [lineContinuation, hskip, hnone]

theorem tripleBasicBody_end {done : List Char × List Char} (hend : tripleEnd '"' cs = some done)
    (fuel : ℕ) : tripleBasicBody (fuel + 1) cs = some done := by
  rw [tripleBasicBody.eq_def]
  simp only [hend]

/-- A character that stands for itself, or a line end. -/
theorem tripleBasicBody_raw (hend : tripleEnd '"' (c :: rest) = none) (hslash : c ≠ '\\')
    (hallowed : isForbidden c = false ∨ c = '\n') (fuel : ℕ) :
    tripleBasicBody (fuel + 1) (c :: rest) =
      (tripleBasicBody fuel rest).map fun (body, rest) => (c :: body, rest) := by
  have hkept : ¬(isForbidden c && !(newline? (c :: rest)).isSome) = true := by
    rcases hallowed with h | rfl
    · simp [h]
    · simp [newline?]
  rw [tripleBasicBody, hend]
  · simp only [if_neg hkept]
    cases tripleBasicBody fuel rest <;> rfl
  · exact hslash

theorem tripleBasicBody_spelt (h : Spelt text c) (hend : tripleEnd '"' (text ++ rest) = none)
    (fuel : ℕ) :
    tripleBasicBody (fuel + 1) (text ++ rest) =
      (tripleBasicBody fuel rest).map fun (body, rest) => (c :: body, rest) := by
  cases h with
  | escaped hcontinued hread =>
      rw [List.cons_append, List.cons_append] at hend ⊢
      rw [tripleBasicBody, hend]
      simp only [lineContinuation_eq_none hcontinued, hread, Option.bind_eq_bind, Option.bind_some]
      cases tripleBasicBody fuel rest <;> rfl
  | plain hquote hslash hallowed => exact tripleBasicBody_raw hend hslash (.inl hallowed) fuel

theorem tripleBasicBody_escapeTriple (hrest : rest.head? ≠ some '"') (hquotes : quotes ≤ 2)
    (hfuel : cs.length < fuel) :
    tripleBasicBody fuel (escapeTriple quotes cs ++ '"' :: '"' :: '"' :: rest) =
      some (cs, rest) := by
  induction cs generalizing quotes fuel with
  | nil =>
      obtain ⟨fuel, rfl⟩ := Nat.exists_eq_add_of_lt hfuel
      exact tripleBasicBody_end (tripleEnd_replicate (Nat.zero_le 2) hrest) _
  | cons c cs ih =>
      obtain ⟨fuel, rfl⟩ := Nat.exists_eq_add_of_lt hfuel
      rcases frontRun_escapeTriple hquotes (c :: cs) rest with ⟨hall, hlength, hsame⟩ | hrun
      · have hend := tripleEnd_replicate (n := (c :: cs).length) (by omega) hrest
        rw [← hall] at hend
        rw [hsame, tripleBasicBody_end hend]
      · have hend := tripleEnd_of_frontRun (Nat.le_of_add_right_le hrun)
        have hlength : cs.length < (c :: cs).length + fuel := by rw [List.length_cons]; omega
        have hread (quotes : ℕ) (hquotes : quotes ≤ 2) := ih hquotes hlength
        by_cases hquote : c = '"'
        · subst hquote
          rw [escapeTriple] at hend ⊢
          by_cases htwo : quotes = 2
          · rw [if_pos htwo] at hend ⊢
            have hspelt : Spelt ['\\', '"'] '"' := spelt_escapeChar '"'
            rw [show '\\' :: '"' :: escapeTriple 0 cs = ['\\', '"'] ++ escapeTriple 0 cs from rfl,
              List.append_assoc] at hend ⊢
            rw [tripleBasicBody_spelt hspelt hend, hread 0 (by omega)]
            rfl
          · rw [if_neg htwo] at hend ⊢
            rw [List.cons_append] at hend ⊢
            rw [tripleBasicBody_raw hend (by decide) (.inl (by decide)),
              hread (quotes + 1) (by omega)]
            rfl
        · by_cases hline : c = '\n'
          · subst hline
            rw [escapeTriple, List.cons_append] at hend ⊢
            rw [tripleBasicBody_raw hend (by decide) (.inr rfl), hread 0 (by omega)]
            rfl
          · have htext : escapeTriple quotes (c :: cs) = escapeChar c ++ escapeTriple 0 cs := by
              rw [escapeTriple]
              · exact hquote
              · exact hline
            rw [htext, List.append_assoc] at hend ⊢
            rw [tripleBasicBody_spelt (spelt_escapeChar c) hend, hread 0 (by omega)]
            rfl

/-! ## Literal strings in triple quotes -/

theorem frontRun_le_go (c : Char) (cs : List Char) (current : ℕ) :
    current + frontRun c cs ≤ longestRun.go c current cs := by
  induction cs generalizing current with
  | nil => exact Nat.le_refl current
  | cons d cs ih =>
      rw [longestRun.go]
      by_cases h : d = c
      · subst h
        rw [if_pos rfl, frontRun_self]
        have := ih (current + 1)
        omega
      · rw [if_neg h, frontRun_of_head (by simpa using h)]
        exact Nat.le_max_left ..

theorem go_mono (c : Char) (cs : List Char) {m n : ℕ} (h : m ≤ n) :
    longestRun.go c m cs ≤ longestRun.go c n cs := by
  induction cs generalizing m n with
  | nil => exact h
  | cons d cs ih =>
      rw [longestRun.go, longestRun.go]
      split
      · exact ih (Nat.add_le_add_right h 1)
      · omega

/-- A run inside the rest of a text is a run of the whole. -/
theorem longestRun_tail (c d : Char) (cs : List Char) :
    longestRun c cs ≤ longestRun c (d :: cs) := by
  rw [longestRun, longestRun, longestRun.go]
  split
  · exact go_mono c cs (Nat.zero_le 1)
  · exact Nat.le_max_right ..

theorem frontRun_append (c : Char) (cs rest : List Char) :
    cs = List.replicate cs.length c ∨ frontRun c (cs ++ rest) = frontRun c cs := by
  induction cs with
  | nil => exact .inl rfl
  | cons d cs ih =>
      by_cases h : d = c
      · subst h
        rw [List.cons_append, frontRun_self, frontRun_self]
        refine ih.imp (fun hall => ?_) fun hrun => by rw [hrun]
        rw [List.length_cons, List.replicate_succ, ← hall]
      · refine .inr ?_
        rw [frontRun_of_head (by simpa using h), frontRun_of_head (by simpa using h)]

theorem tripleLiteralBody_end {done : List Char × List Char} (hend : tripleEnd '\'' cs = some done)
    (fuel : ℕ) : tripleLiteralBody (fuel + 1) cs = some done := by
  rw [tripleLiteralBody.eq_def]
  simp only [hend]

theorem tripleLiteralBody_raw (hend : tripleEnd '\'' (c :: rest) = none)
    (hcode : needsCode c = false) (fuel : ℕ) :
    tripleLiteralBody (fuel + 1) (c :: rest) =
      (tripleLiteralBody fuel rest).map fun (body, rest) => (c :: body, rest) := by
  have hkept : ¬(isForbidden c && !(newline? (c :: rest)).isSome) = true := by
    by_cases hline : c = '\n'
    · simp [hline, newline?]
    · have hallowed : isForbidden c = false := by simpa [needsCode, hline] using hcode
      simp [hallowed]
  rw [tripleLiteralBody, hend]
  simp only [if_neg hkept]
  cases tripleLiteralBody fuel rest <;> rfl

theorem tripleLiteralBody_plain (hrest : rest.head? ≠ some '\'') (hcode : cs.any needsCode = false)
    (hrun : longestRun '\'' cs ≤ 2) (hfuel : cs.length < fuel) :
    tripleLiteralBody fuel (cs ++ '\'' :: '\'' :: '\'' :: rest) = some (cs, rest) := by
  induction cs generalizing fuel with
  | nil =>
      obtain ⟨fuel, rfl⟩ := Nat.exists_eq_add_of_lt hfuel
      exact tripleLiteralBody_end (tripleEnd_replicate (Nat.zero_le 2) hrest) _
  | cons c cs ih =>
      obtain ⟨fuel, rfl⟩ := Nat.exists_eq_add_of_lt hfuel
      have hfront : frontRun '\'' (c :: cs) ≤ 2 := by
        have hle := frontRun_le_go '\'' (c :: cs) 0
        rw [longestRun] at hrun
        omega
      rcases frontRun_append '\'' (c :: cs) ('\'' :: '\'' :: '\'' :: rest) with hall | hsame
      · rw [hall, ← List.append_nil (List.replicate _ _), frontRun_replicate (by simp)] at hfront
        have hend := tripleEnd_replicate hfront hrest
        rw [← hall] at hend
        exact tripleLiteralBody_end hend _
      · have hend := tripleEnd_of_frontRun (hsame ▸ hfront)
        rw [List.any_cons, Bool.or_eq_false_iff] at hcode
        rw [List.cons_append] at hend ⊢
        rw [tripleLiteralBody_raw hend hcode.1,
          ih hcode.2 ((longestRun_tail _ c cs).trans hrun) (by rw [List.length_cons]; omega)]
        rfl

/-! ## Any form -/

/-- What may follow a string: nothing that goes on with quotes. -/
def NoQuote (rest : List Char) : Prop := rest.head? ≠ some '"' ∧ rest.head? ≠ some '\''

/-- Texts that are not empty are together as long as they are many. -/
theorem length_le_flatMap {α : Type} {f : α → List Char} (h : ∀ x, f x ≠ []) (xs : List α) :
    xs.length ≤ (xs.flatMap f).length := by
  induction xs with
  | nil => exact Nat.le_refl 0
  | cons x xs ih =>
      have hpos := List.length_pos_iff.mpr (h x)
      rw [List.flatMap_cons, List.length_append, List.length_cons]
      omega

theorem length_le_escapeTriple (quotes : ℕ) (cs : List Char) :
    cs.length ≤ (escapeTriple quotes cs).length := by
  fun_induction escapeTriple quotes cs with
  | case1 => exact Nat.le_refl 0
  | case2 rest ih => simp only [List.length_cons]; omega
  | case3 quotes rest _ ih => simp only [List.length_cons]; omega
  | case4 quotes rest ih => simp only [List.length_cons]; omega
  | case5 quotes c rest _ _ ih =>
      have hpos := List.length_pos_iff.mpr (spelt_escapeChar c).ne_nil
      simp only [List.length_append, List.length_cons]
      omega

theorem inQuotes_append (cs rest : List Char) :
    inQuotes cs ++ rest = '"' :: (cs.flatMap escapeChar ++ '"' :: rest) := by
  simp [inQuotes]

theorem inApostrophes_append (cs rest : List Char) :
    inApostrophes cs ++ rest = '\'' :: (cs ++ '\'' :: rest) := by
  simp [inApostrophes]

/-- As much fuel as the text is long is enough. -/
theorem basicBody_inQuotes (cs rest : List Char) :
    basicBody ((cs.flatMap escapeChar ++ '"' :: rest).length + 1)
      (cs.flatMap escapeChar ++ '"' :: rest) = some (cs, rest) := by
  refine basicBody_escaped ?_ rest
  have hle := length_le_flatMap (fun c => (spelt_escapeChar c).ne_nil) cs
  rw [List.length_append]
  omega

theorem stringValue_inQuotes (hrest : NoQuote rest) (cs : List Char) :
    stringValue (inQuotes cs ++ rest) = some (cs, rest) := by
  rw [inQuotes_append, stringValue]
  · exact basicBody_inQuotes cs rest
  · -- two quotes in a row are the empty string, and then no third one follows
    intro rest' heq
    cases cs with
    | nil => exact hrest.1 (by rw [(List.cons.inj heq).2]; rfl)
    | cons c cs =>
        have hhead := ((spelt_escapeChar c).head_ne (cs.flatMap escapeChar ++ '"' :: rest)).1
        rw [List.flatMap_cons, List.append_assoc] at heq
        exact hhead (by rw [heq]; rfl)

theorem stringValue_inApostrophes (hrest : NoQuote rest) (hallowed : cs.any isForbidden = false)
    (hquote : '\'' ∉ cs) : stringValue (inApostrophes cs ++ rest) = some (cs, rest) := by
  rw [inApostrophes_append, stringValue]
  · exact literalBody_plain hallowed hquote rest
  · intro rest' heq
    cases cs with
    | nil => exact hrest.2 (by rw [(List.cons.inj heq).2]; rfl)
    | cons c cs => exact hquote ((List.cons.inj heq).1 ▸ List.mem_cons_self)

/-- A line end that was put in front is dropped again, and none is dropped otherwise. -/
theorem afterTriple_leadingNewline (cs text : List Char) (h : '\n' ∉ cs → newline? text = none) :
    afterTriple (leadingNewline cs ++ text) = text := by
  rw [leadingNewline]
  by_cases hline : '\n' ∈ cs
  · rw [if_pos (List.contains_iff_mem.mpr hline)]
    rfl
  · rw [if_neg (by simpa using hline), List.nil_append, afterTriple, h hline]
    rfl

theorem newline?_eq_none (h : cs.head? ≠ some '\n') (h' : cs.head? ≠ some '\r') :
    newline? cs = none := by
  rw [newline?]
  · rintro rest rfl
    exact h rfl
  · rintro rest rfl
    exact h' rfl

theorem stringValue_inTripleQuotes (hrest : NoQuote rest) (cs : List Char) :
    stringValue (inTripleQuotes cs ++ rest) = some (cs, rest) := by
  have htext : inTripleQuotes cs ++ rest = '"' :: '"' :: '"' ::
      (leadingNewline cs ++ (escapeTriple 0 cs ++ '"' :: '"' :: '"' :: rest)) := by
    simp [inTripleQuotes]
  have hafter := afterTriple_leadingNewline cs (escapeTriple 0 cs ++ '"' :: '"' :: '"' :: rest)
    fun hline => by
      cases cs with
      | nil => rfl
      | cons c cs =>
          have hc : c ≠ '\n' := fun h => hline (h ▸ List.mem_cons_self)
          by_cases hquote : c = '"'
          · subst hquote
            rfl
          · rw [escapeTriple, List.append_assoc]
            · exact ((spelt_escapeChar c).head_ne _).2
            · exact hquote
            · exact hc
  rw [htext, stringValue, hafter]
  refine tripleBasicBody_escapeTriple hrest.1 (Nat.zero_le 2) ?_
  have hle := length_le_escapeTriple 0 cs
  simp only [List.length_append]
  omega

theorem stringValue_inTripleApostrophes (hrest : NoQuote rest) (hcode : cs.any needsCode = false)
    (hrun : longestRun '\'' cs ≤ 2) :
    stringValue (inTripleApostrophes cs ++ rest) = some (cs, rest) := by
  have htext : inTripleApostrophes cs ++ rest = '\'' :: '\'' :: '\'' ::
      (leadingNewline cs ++ (cs ++ '\'' :: '\'' :: '\'' :: rest)) := by
    simp [inTripleApostrophes]
  have hafter := afterTriple_leadingNewline cs (cs ++ '\'' :: '\'' :: '\'' :: rest)
    fun hline => by
      cases cs with
      | nil => rfl
      | cons c cs =>
          refine newline?_eq_none ?_ ?_
          · intro h
            exact hline (Option.some.inj h ▸ List.mem_cons_self)
          · intro h
            obtain rfl := Option.some.inj h
            cases hcode
  rw [htext, stringValue, hafter]
  refine tripleLiteralBody_plain hrest.2 hcode hrun ?_
  simp only [List.length_append]
  omega

/-- **A string is read back from the way it is written.** -/
theorem stringValue_writeString (hrest : NoQuote rest) (cs : List Char) :
    stringValue (writeString cs ++ rest) = some (cs, rest) := by
  rw [writeString]
  split
  · exact stringValue_inQuotes hrest cs
  · split
    · rename_i h
      simp only [Bool.and_eq_true, Bool.not_eq_true', List.contains_eq_mem,
        decide_eq_false_iff_not] at h
      refine stringValue_inApostrophes hrest ?_ h.2
      rw [List.any_eq_false] at h ⊢
      intro c hc hforbidden
      refine h.1.1 c hc ?_
      have hline : c ≠ '\n' := fun heq => h.1.2 (heq ▸ hc)
      simp [needsCode, hforbidden, hline]
    · split
      · exact stringValue_inTripleQuotes hrest cs
      · split
        · rename_i h
          rw [Bool.and_eq_true, Bool.not_eq_true', decide_eq_true_eq] at h
          exact stringValue_inTripleApostrophes hrest h.1 h.2
        · split
          · exact stringValue_inTripleQuotes hrest cs
          · exact stringValue_inQuotes hrest cs

/-! ## Keys -/

theorem simpleKey_inQuotes (cs rest : List Char) :
    simpleKey (inQuotes cs ++ rest) = some (String.ofList cs, rest) := by
  rw [inQuotes_append, simpleKey, basicBody_inQuotes]
  rfl

theorem simpleKey_bare (hne : cs ≠ []) (hall : cs.all isBareKeyChar = true)
    (hrest : ∀ c ∈ rest.head?, isBareKeyChar c = false) :
    simpleKey (cs ++ rest) = some (String.ofList cs, rest) := by
  cases cs with
  | nil => exact absurd rfl hne
  | cons c cs =>
      have hc : isBareKeyChar c = true := List.all_eq_true.mp hall c List.mem_cons_self
      have hquote : c ≠ '"' := by
        rintro rfl
        cases hc
      have hapostrophe : c ≠ '\'' := by
        rintro rfl
        cases hc
      rw [simpleKey, span_append (List.all_eq_true.mp hall) hrest]
      · rfl
      · exact fun _ heq => hquote (List.cons.inj heq).1
      · exact fun _ heq => hapostrophe (List.cons.inj heq).1

/-- A key is read back from the way it is written, where no character of a bare key follows. -/
theorem simpleKey_writeKey (hrest : ∀ c ∈ rest.head?, isBareKeyChar c = false) (cs : List Char) :
    simpleKey (writeKey cs ++ rest) = some (String.ofList cs, rest) := by
  rw [writeKey]
  split
  · rename_i h
    rw [Bool.and_eq_true, Bool.not_eq_true', List.isEmpty_eq_false_iff] at h
    exact simpleKey_bare h.1 h.2 hrest
  · split
    · exact simpleKey_inQuotes cs rest
    · split
      · rename_i h
        rw [Bool.and_eq_true, Bool.not_eq_true', Bool.not_eq_true', List.contains_eq_mem,
          decide_eq_false_iff_not] at h
        rw [inApostrophes_append, simpleKey, literalBody_plain h.1 h.2]
        rfl
      · exact simpleKey_inQuotes cs rest

end Searchlight.Toml
